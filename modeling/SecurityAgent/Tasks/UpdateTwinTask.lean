import SecurityAgent.Lib.Run
import SecurityAgent.Storage.MeteredQueue
import SecurityAgent.Twin.TwinConfiguration

/-!
# Twin updates on their way: `update_twin_task.c` and the callback that feeds it

The device twin callback of `iothub_adapter.c` makes an item of an update, a block
with a payload of its own, and pushes a pointer to it. The task pops an item,
applies its payload and frees both.

Pointers are addresses here, `0` for `NULL`. Items and payloads are in heaps of
their own, and no address is handed out twice: reading or freeing through a
pointer that is not that of a live block has no meaning, and `none` is that
fault.
-/

namespace SecurityAgent

open LinkedHeap Machine

/-- `UpdateTwinState`. -/
inductive UpdateTwinState where
  | twinComplete
  | twinPartial
  deriving DecidableEq, Repr

/-- `UpdateTwinTaskItem`. -/
structure UpdateTwinTaskItem where
  state : UpdateTwinState
  /-- `twinPayload`, `none` for `NULL`. -/
  twinPayload : Option Addr
  deriving DecidableEq, Repr

/-- `sizeof(UpdateTwinTaskItem)`: an enumeration and an aligned pointer. -/
def sizeofUpdateTwinTaskItem : UInt32 := 16

/-- The twin module, the queue of updates and the items made for it. A payload is what a parser
makes of its text. -/
structure TwinUpdates (ρ τ μ : Type) where
  monitor : μ
  /-- `twinUpdatesQueue`, which is the task's `updateQueue`. -/
  queue : MeteredQueue Addr
  /-- The live items. -/
  items : Addr → Option UpdateTwinTaskItem
  /-- The live payloads. -/
  payloads : Addr → Option ρ
  nextItem : Addr
  nextPayload : Addr
  /-- The adapter's flag. -/
  hasTwinConfiguration : Bool
  /-- What `TwinConfiguration_Update` works on. -/
  twin : τ

/-- What the environment answers during one callback. -/
structure CallbackOutcome (μ : Type) where
  /-- The `malloc` of the item. -/
  mallocItem : Bool
  /-- The `malloc` of its payload. -/
  mallocPayload : Bool
  lock : LockOutcome
  mon : MonitorCalls μ
  push : PushOutcome

/-- A callback or a round of the task. -/
inductive TwinTraffic (ρ υ μ : Type) where
  /-- `IoTHubAdapter_DeviceTwinCallback`. -/
  | callback (complete : Bool) (payload : ρ) (size : Nat) (o : CallbackOutcome μ)
  /-- `UpdateTwinTask_Execute`, with what its update depends on. -/
  | execute (mon : MonitorCalls μ) (environment : υ)

/-- Everything that happens to the queue. -/
inductive TwinCall (ρ υ μ : Type) where
  | traffic (t : TwinTraffic ρ υ μ)
  /-- `UpdateTwinTask_Deinit`. -/
  | deinit (mon : MonitorCalls μ)

namespace UpdateTwinTask

variable {ρ τ υ μ : Type}

/-- No update yet. Neither `0` nor `1` is the address of a block. -/
def init (m : μ) (twin : τ) : TwinUpdates ρ τ μ :=
  ⟨m, .init, fun _ => none, fun _ => none, 2, 2, false, twin⟩

/-- `UpdateTwinTask_DeinitUpdateTwinTaskItem`, on the item its argument points to. -/
def deinitUpdateTwinTaskItem (s : TwinUpdates ρ τ μ) (twinItem : Addr) :
    Option (TwinUpdates ρ τ μ) :=
  match s.items twinItem with
  | none => none
  | some item =>
      match item.twinPayload with
      | none => some { s with items := Function.update s.items twinItem none }
      | some twinPayload =>
          match s.payloads twinPayload with
          | none => none
          | some _ =>
              some { s with
                payloads := Function.update s.payloads twinPayload none
                items := Function.update s.items twinItem none }

/-- `UpdateTwinTask_InitUpdateTwinTaskItem`: what `*twinTaskItem` is afterwards. Without memory
for the payload the item is freed, and the caller's pointer stays what it was set to. -/
def initUpdateTwinTaskItem (mallocItem mallocPayload : Bool) (s : TwinUpdates ρ τ μ) (payload : ρ)
    (isComplete : Bool) : Option (Addr × TwinUpdates ρ τ μ) :=
  if mallocItem = false then some (0, s)
  else
    let twinItem := s.nextItem
    let s : TwinUpdates ρ τ μ := { s with
      items := Function.update s.items twinItem (some ⟨.twinComplete, none⟩)
      nextItem := twinItem + 1 }
    if mallocPayload = false then
      (deinitUpdateTwinTaskItem s twinItem).map fun s => (twinItem, s)
    else
      some (twinItem, { s with
        payloads := Function.update s.payloads s.nextPayload (some payload)
        nextPayload := s.nextPayload + 1
        items := Function.update s.items twinItem
          (some ⟨if isComplete then .twinComplete else .twinPartial, some s.nextPayload⟩) })

/-- `IoTHubAdapter_DeviceTwinCallback`, with the adapter as its context. The result of the
initialisation is not looked at. -/
def deviceTwinCallback (s : TwinUpdates ρ τ μ) (complete : Bool) (payload : ρ) (size : Nat)
    (o : CallbackOutcome μ) : Option (TwinUpdates ρ τ μ) :=
  if size = 0 then some s
  else
    match initUpdateTwinTaskItem o.mallocItem o.mallocPayload s payload complete with
    | none => none
    | some (twinTaskItem, s) =>
        let (result, m', q') := SyncQueue.pushBack o.lock o.mon o.push s.monitor s.queue twinTaskItem
          sizeofUpdateTwinTaskItem
        let s : TwinUpdates ρ τ μ := { s with monitor := m', queue := q' }
        if result = .queue .ok then some { s with hasTwinConfiguration := true }
        else if twinTaskItem = 0 then some s
        else deinitUpdateTwinTaskItem s twinTaskItem

/-- `UpdateTwinTask_Execute`, when the queue's lock works. `update` is `TwinConfiguration_Update`;
whether its result has the twin reported is said beside the state. -/
def execute (update : υ → Option ρ → Bool → τ → TwinConfigurationResult × τ)
    (mon : MonitorCalls μ) (environment : υ) (s : TwinUpdates ρ τ μ) :
    Option (Bool × TwinUpdates ρ τ μ) :=
  match Fifo.popFront mon s.monitor s.queue.items with
  | (.ok, some workItem, m', rest) =>
      let s : TwinUpdates ρ τ μ := { s with monitor := m', queue := { s.queue with items := rest } }
      if workItem.dataSize ≠ sizeofUpdateTwinTaskItem then
        if workItem.data = 0 then some (false, s)
        else (deinitUpdateTwinTaskItem s workItem.data).map fun s => (false, s)
      else
        match s.items workItem.data with
        | none => none
        | some item =>
            let complete := item.state = .twinComplete
            let payload := item.twinPayload.bind s.payloads
            let (updateResult, twin) := update environment payload complete s.twin
            (deinitUpdateTwinTaskItem { s with twin := twin } workItem.data).map fun s =>
              (updateResult = .ok || updateResult = .parseException, s)
  | _ => some (false, s)

/-- The first word of an item, read as a pointer: its `state`, the padding being zero. -/
def firstWord (item : UpdateTwinTaskItem) : Addr :=
  match item.state with
  | .twinComplete => 0
  | .twinPartial => 1

/-- The loop of `UpdateTwinTask_Deinit`. It hands the item itself to a function that wants the
address of a pointer to it, and so has it read the first word of the item for that pointer. -/
def deinitLoop (mon : MonitorCalls μ) : List (QueueItem Addr) → TwinUpdates ρ τ μ →
    Option (TwinUpdates ρ τ μ)
  | [], s => some s
  | currentData :: rest, s =>
      let s : TwinUpdates ρ τ μ := { s with
        monitor := (mon.release s.monitor (queueCalculateItemSize currentData.dataSize)).2
        queue := { s.queue with items := rest } }
      match s.items currentData.data with
      | none => none
      | some item =>
          match deinitUpdateTwinTaskItem s (firstWord item) with
          | none => none
          | some s => deinitLoop mon rest s

/-- `UpdateTwinTask_Deinit`, when the queue's lock works. -/
def deinit (mon : MonitorCalls μ) (s : TwinUpdates ρ τ μ) : Option (TwinUpdates ρ τ μ) :=
  deinitLoop mon s.queue.items s

/-- One call. The output is whether the twin is reported. -/
def step (update : υ → Option ρ → Bool → τ → TwinConfigurationResult × τ) (s : TwinUpdates ρ τ μ) :
    TwinCall ρ υ μ → Option (Bool × TwinUpdates ρ τ μ)
  | .traffic (.callback complete payload size o) =>
      (deviceTwinCallback s complete payload size o).map fun s => (false, s)
  | .traffic (.execute mon environment) => execute update mon environment s
  | .deinit mon => (deinit mon s).map fun s => (false, s)

end UpdateTwinTask

end SecurityAgent
