import SecurityAgent.Lib.LinkedHeap
import SecurityAgent.Storage.MemoryMonitor

/-!
# The queue, as `queue.c` has it

A queue is a doubly linked list of blocks it has allocated, with a pointer to
either end and a 32-bit element count. The blocks live in a heap of their own
here: a block belongs to one queue from the `malloc` in `Queue_PushBack` to the
`free` in `Queue_PopFront`, so the heaps of two queues never meet.

Reading through a null or freed pointer has no meaning in C. Every operation
that follows a link therefore answers in `Option`, and `none` is that fault.

The two calls the queue makes into the memory monitor are a parameter
(`MonitorCalls`): `queue.c` depends on nothing but their results.
-/

namespace SecurityAgent

open LinkedHeap

/-- `QueueResultValues`. -/
inductive QueueResult where
  | ok
  | conditionFailed
  | maxMemoryExceeded
  | isEmpty
  | memoryException
  deriving DecidableEq, Repr

/-- What a queue item carries: the `data` pointer and `dataSize`. -/
structure QueueItem (α : Type) where
  /-- `data`. -/
  data : α
  /-- `dataSize`. -/
  dataSize : UInt32
  deriving DecidableEq, Repr

/-- `QueueCounter`. -/
structure QueueCounter where
  /-- `collected`. -/
  collected : UInt32
  /-- `dropped`. -/
  dropped : UInt32
  deriving DecidableEq, Repr

/-- `sizeof(QueueItem)`: two pointers after an aligned pointer and a `uint32_t`, on LP64. -/
def sizeofQueueItem : UInt32 := 32

/-- `sizeof(QueueItem*)`. -/
def sizeofPointer : UInt32 := 8

/-- `Queue_CalculateItemSize`. -/
def queueCalculateItemSize (dataSize : UInt32) : UInt32 :=
  dataSize + sizeofQueueItem + sizeofPointer

/-- `MemoryMonitor_Consume` and `MemoryMonitor_Release`, over a monitor state of any kind. -/
structure MonitorCalls (μ : Type) where
  /-- `MemoryMonitor_Consume`. -/
  consume : μ → UInt32 → MemoryMonitorResult × μ
  /-- `MemoryMonitor_Release`. -/
  release : μ → UInt32 → MemoryMonitorResult × μ

/-- The other outcomes one push depends on. -/
structure PushOutcome where
  /-- `malloc(sizeof(QueueItem))` does not return `NULL`. -/
  malloc : Bool
  /-- The `Lock` in `AgentTelemetryCounter_IncreaseBy(.., dropped, 1)`. -/
  droppedLock : Bool
  /-- The `Lock` in `AgentTelemetryCounter_IncreaseBy(.., collected, 1)`. -/
  collectedLock : Bool
  deriving DecidableEq, Repr

/-- `Queue`, with the blocks it has allocated and not freed. -/
structure Queue (α : Type) where
  /-- The allocated blocks. -/
  blocks : Heap (QueueItem α)
  /-- The address the next `malloc` returns: nothing at or above it is allocated. -/
  nextBlock : Addr
  /-- `firstItem`. -/
  firstItem : Option Addr
  /-- `lastItem`. -/
  lastItem : Option Addr
  /-- `numberOfElements`. -/
  numberOfElements : UInt32
  /-- `counter.counter.queueCounter`. -/
  counter : QueueCounter

namespace Queue

variable {α μ : Type}

/-- `Queue_Init`, when the counter's lock is created. -/
def init : Queue α where
  blocks := fun _ => none
  nextBlock := 0
  firstItem := none
  lastItem := none
  numberOfElements := 0
  counter := ⟨0, 0⟩

/-- `AgentTelemetryCounter_IncreaseBy(.., dropped, 1)`. -/
def countDropped (lock : Bool) (q : Queue α) : Queue α :=
  if lock then { q with counter := { q.counter with dropped := q.counter.dropped + 1 } } else q

/-- `AgentTelemetryCounter_IncreaseBy(.., collected, 1)`. -/
def countCollected (lock : Bool) (q : Queue α) : Queue α :=
  if lock then { q with counter := { q.counter with collected := q.counter.collected + 1 } } else q

/-- The part of `Queue_PushBack` that has its new block: fill it and link it at the back. -/
def link (q : Queue α) (item : QueueItem α) : Option (Queue α) :=
  match q.firstItem with
  | none =>
      some { q with
        blocks := Function.update q.blocks q.nextBlock (some ⟨item, none, none⟩)
        nextBlock := q.nextBlock + 1
        firstItem := some q.nextBlock
        lastItem := some q.nextBlock
        numberOfElements := q.numberOfElements + 1 }
  | some _ =>
      match q.lastItem with
      | none => none
      | some l =>
          match q.blocks l with
          | none => none
          | some last =>
              some { q with
                blocks := Function.update
                  (Function.update q.blocks q.nextBlock (some ⟨item, none, some l⟩)) l
                  (some { last with next := some q.nextBlock })
                nextBlock := q.nextBlock + 1
                lastItem := some q.nextBlock
                numberOfElements := q.numberOfElements + 1 }

/-- `Queue_PushBack`. A failed consume leaves `newItem` unallocated; a failed `malloc` gives
the consumed bytes back. -/
def pushBack (mon : MonitorCalls μ) (o : PushOutcome) (m : μ) (q : Queue α) (data : α)
    (dataSize : UInt32) : Option (QueueResult × μ × Queue α) :=
  match mon.consume m (queueCalculateItemSize dataSize) with
  | (.ok, m') =>
      if o.malloc then
        match q.link ⟨data, dataSize⟩ with
        | none => none
        | some q' => some (.ok, m', q'.countCollected o.collectedLock)
      else
        some (.memoryException, (mon.release m' (queueCalculateItemSize dataSize)).2,
          q.countCollected o.collectedLock)
  | (.memoryExceeded, m') =>
      some (.maxMemoryExceeded, m',
        (q.countDropped o.droppedLock).countCollected o.collectedLock)
  | (.exception, m') => some (.memoryException, m', q.countCollected o.collectedLock)
  -- not translated by the code: as an `int` it is the value of `QUEUE_MAX_MEMORY_EXCEEDED`
  | (.invalidReleaseSize, m') => some (.maxMemoryExceeded, m', q.countCollected o.collectedLock)

/-- The part of `Queue_PopFront` that unlinks the first block and frees it. -/
def unlink (q : Queue α) : Option (QueueItem α × Queue α) :=
  match q.firstItem with
  | none => none
  | some p =>
      match q.blocks p with
      | none => none
      | some item =>
          match item.next with
          | none =>
              some (item.val, { q with
                blocks := Function.update q.blocks p none
                firstItem := none
                lastItem := none
                numberOfElements := q.numberOfElements - 1 })
          | some n =>
              match q.blocks n with
              | none => none
              | some second =>
                  some (item.val, { q with
                    blocks := Function.update
                      (Function.update q.blocks n (some { second with prev := none })) p none
                    firstItem := some n
                    numberOfElements := q.numberOfElements - 1 })

/-- `Queue_PopFront`. The second component is what the out parameters are set to. -/
def popFront (mon : MonitorCalls μ) (m : μ) (q : Queue α) :
    Option (QueueResult × Option (QueueItem α) × μ × Queue α) :=
  if q.numberOfElements = 0 then some (.isEmpty, none, m, q)
  else
    match q.unlink with
    | none => none
    | some (item, q') =>
        some (.ok, some item, (mon.release m (queueCalculateItemSize item.dataSize)).2, q')

/-- `Queue_PopFrontIf`. -/
def popFrontIf (mon : MonitorCalls μ) (condition : α → UInt32 → Bool) (m : μ) (q : Queue α) :
    Option (QueueResult × Option (QueueItem α) × μ × Queue α) :=
  if q.numberOfElements = 0 then some (.isEmpty, none, m, q)
  else
    match q.firstItem with
    | none => none
    | some p =>
        match q.blocks p with
        | none => none
        | some item =>
            if condition item.val.data item.val.dataSize then q.popFront mon m
            else some (.conditionFailed, none, m, q)

/-- `Queue_GetSize`. -/
def getSize (q : Queue α) : UInt32 := q.numberOfElements

end Queue

end SecurityAgent
