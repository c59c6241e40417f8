import SecurityAgent.Lib.Transfer
import SecurityAgent.Storage.Accounting
import SecurityAgent.Storage.SyncQueue

/-!
# The lives of the queues

A queue is made with two locks and nothing in it, is used for a time, and is given up:
`Queue_Deinit` pops what is left, frees the data, and gives the bytes back. All queues draw on the
one memory monitor, and each has a life of its own. However their lives overlap, what a queue has
accepted it has handed out or freed, once and in order, and when no queue is left there is
no block, no lock and no byte left either.
-/

namespace SecurityAgent

open LinkedHeap Machine

variable {α μ : Type} {n : Nat}

namespace Queue

/-- `Queue_Init`: the queue starts anew, and blocks it may have had stay where they are. -/
def reset (q : Queue α) : Queue α :=
  { q with firstItem := none, lastItem := none, numberOfElements := 0, counter := ⟨0, 0⟩ }

/-- The loop of `Queue_Deinit`, with what the monitor answers in each round: the data that
is freed. -/
def freeItems (mon : Nat → MonitorCalls μ) :
    Nat → μ → Queue α → Option (List (QueueItem α) × μ × Queue α)
  | 0, m, q => if q.numberOfElements = 0 then some ([], m, q) else none
  | rounds + 1, m, q =>
      if q.numberOfElements = 0 then some ([], m, q)
      else
        match q.popFront (mon rounds) m with
        | none => none
        | some (.ok, some currentData, m, q) =>
            (freeItems mon rounds m q).map fun r => (currentData :: r.1, r.2)
        | some (_, _, m, q) => freeItems mon rounds m q

/-- `Queue_Deinit`. -/
def deinit (mon : Nat → MonitorCalls μ) (m : μ) (q : Queue α) :
    Option (List (QueueItem α) × μ × Queue α) :=
  freeItems mon q.numberOfElements.toNat m q

end Queue

/-- The locks that there are of a queue. -/
structure QueueLocks where
  /-- `queue.counter.lock`. -/
  counterLock : Bool
  /-- `lock`. -/
  lock : Bool
  deriving DecidableEq, Repr

namespace SyncQueue

/-- `SyncQueue_Init`, where the locks can be made or not. -/
def init (counterLock lock : Bool) (mon : Nat → MonitorCalls μ) (m : μ) (q : Queue α) :
    Option (SyncQueueResult × μ × Queue α × QueueLocks) :=
  if counterLock = false then some (.queue .memoryException, m, q.reset, ⟨false, false⟩)
  else if lock = false then
    (q.reset.deinit mon m).map fun r => (.lockException, r.2.1, r.2.2, ⟨false, false⟩)
  else some (.queue .ok, m, q.reset, ⟨true, true⟩)

/-- `SyncQueue_Deinit`: the data it frees, and what is left. -/
def deinit (mon : Nat → MonitorCalls μ) (m : μ) (q : Queue α) :
    Option (List (QueueItem α) × μ × Queue α × QueueLocks) :=
  (q.deinit mon m).map fun r => (r.1, r.2.1, r.2.2, ⟨false, false⟩)

end SyncQueue

/-- The queues of the agent, with their locks. -/
structure QueueSet (n : Nat) (α : Type) where
  cache : SharedCache n α
  locks : Fin n → QueueLocks

/-- What happens to the queues. -/
inductive LifeOp (n : Nat) (α : Type) where
  | init (i : Fin n) (counterLock lock : Bool)
  | call (op : CacheOp n α)
  | deinit (i : Fin n) (releaseLock : Nat → LockOutcome)

/-- What is returned, and the data that the queue lets go of. -/
abbrev LifeOutput (α : Type) := SyncQueueResult × List (QueueItem α)

namespace QueueSet

/-- Before any queue is made. -/
def start : QueueSet n α := ⟨SharedCache.init, fun _ => ⟨false, false⟩⟩

/-- One queue is changed, and the monitor. -/
def set (s : QueueSet n α) (i : Fin n) (m : MemoryMonitor) (q : Queue α) (locks : QueueLocks) :
    QueueSet n α :=
  ⟨⟨Function.update s.cache.queues i q, m⟩, Function.update s.locks i locks⟩

def step (s : QueueSet n α) : LifeOp n α → Option (LifeOutput α × QueueSet n α)
  | .init i counterLock lock =>
      (SyncQueue.init counterLock lock (fun _ => .real .ok .ok none) s.cache.monitor
        (s.cache.queues i)).map fun r => ((r.1, []), s.set i r.2.1 r.2.2.1 r.2.2.2)
  | .call op =>
      (s.cache.step op).map fun r => ((.queue r.1.1, r.1.2.toList), { s with cache := r.2 })
  | .deinit i releaseLock =>
      (SyncQueue.deinit (fun k => .real .ok (releaseLock k) none) s.cache.monitor
        (s.cache.queues i)).map fun r => ((.queue .ok, r.1), s.set i r.2.1 r.2.2.1 r.2.2.2)

end QueueSet

/-- A queue is made when it is not there and used while it is there; and what is charged for is
charged and given back exactly. -/
def InOrder (s : QueueSet n α) : LifeOp n α → Prop
  | .init i _ _ => (s.locks i).lock = false
  | .call op => (s.locks op.queue).lock = true ∧ ChargesExactly s.cache op
  | .deinit i releaseLock => (s.locks i).lock = true ∧ ∀ k, (releaseLock k).lock = true

/-- The items that a call puts into its queue. -/
def QueueOp.takesIn (op : QueueOp α μ) (result : QueueResult) : List (QueueItem α) :=
  match op with
  | .pushBack _ _ data dataSize => if result = .ok then [⟨data, dataSize⟩] else []
  | _ => []

namespace LifeOp

/-- What the queue `i` accepts. -/
def accepts (i : Fin n) (op : LifeOp n α) (out : LifeOutput α) : List (QueueItem α) :=
  match op with
  | .call op =>
      match out.1 with
      | .queue result => if op.queue = i then op.call.takesIn result else []
      | .lockException => []
  | _ => []

/-- What the queue `i` hands out, or frees. -/
def letsGo (i : Fin n) (op : LifeOp n α) (out : LifeOutput α) : List (QueueItem α) :=
  match op with
  | .init j _ _ => if j = i then out.2 else []
  | .call op => if op.queue = i then out.2 else []
  | .deinit j _ => if j = i then out.2 else []

end LifeOp

/-! ## Giving a queue up -/

theorem Queue.Holds.reset {q : Queue α} (h : q.Holds []) : q.reset.Holds [] := by
  obtain ⟨cs, hcs, hl⟩ := h.cells
  obtain rfl : cs = [] := List.map_eq_nil_iff.mp hcs
  exact ⟨⟨[], rfl, hl.segment, hl.nodup, hl.fresh, hl.owned, rfl, rfl⟩, rfl⟩

/-- A queue that holds nothing has no block. -/
theorem Queue.Holds.blocks_eq_none {q : Queue α} (h : q.Holds []) (p : Addr) :
    q.blocks p = none := by
  obtain ⟨cs, hcs, hl⟩ := h.cells
  obtain rfl : cs = [] := List.map_eq_nil_iff.mp hcs
  by_contra hp
  exact absurd (hl.owned p (Option.isSome_iff_ne_none.mpr hp)) List.not_mem_nil

/-- **Every item is freed**, from the front to the back, and its bytes are given back. -/
theorem Queue.freeItems_holds {releaseLock : Nat → LockOutcome}
    (hlock : ∀ k, (releaseLock k).lock = true) :
    ∀ {items : List (QueueItem α)} {q : Queue α} {m : MemoryMonitor} {rounds : Nat},
      q.Holds items → items.length ≤ rounds → bytes items ≤ m.currentConsumptionInBytes.toNat →
      ∃ m' q', q.freeItems (fun k => .real .ok (releaseLock k) none) rounds m = some (items, m', q')
        ∧ q'.Holds [] ∧ m'.currentConsumptionInBytes.toNat + bytes items
          = m.currentConsumptionInBytes.toNat := by
  intro items
  induction items with
  | nil =>
      intro q m rounds h _ _
      have hzero : q.numberOfElements = 0 := h.count
      refine ⟨m, q, ?_, h, rfl⟩
      cases rounds with
      | zero => rw [Queue.freeItems, if_pos hzero]
      | succ rounds => rw [Queue.freeItems, if_pos hzero]
  | cons x xs ih =>
      intro q m rounds h hrounds hheld
      have hcur := m.currentConsumptionInBytes.toNat_lt
      have hshort : (x :: xs).length < UInt32.size :=
        Nat.lt_of_le_of_lt (Nat.le_trans (length_le_bytes _) hheld) hcur
      obtain ⟨rounds, rfl⟩ : ∃ r, rounds = r + 1 := by
        rw [List.length_cons] at hrounds
        exact ⟨rounds - 1, by omega⟩
      have hsome : q.numberOfElements ≠ 0 :=
        fun hzero => List.cons_ne_nil x xs ((h.numberOfElements_eq_zero hshort).mp hzero)
      obtain ⟨q₁, hpop, h₁⟩ :=
        Queue.popFront_holds h hshort (.real .ok (releaseLock rounds) none) m
      have hgiven := @Fifo.popFront_releases α m (x :: xs) (releaseLock rounds)
        (fun _ => hlock rounds) hheld
      dsimp only [Fifo.popFront] at hpop h₁ hgiven
      generalize ((MonitorCalls.real .ok (releaseLock rounds) none).release m
        (queueCalculateItemSize x.dataSize)).2 = m₁ at hpop hgiven
      rw [bytes_cons] at hgiven hheld ⊢
      rw [List.length_cons] at hrounds
      have hleft : bytes xs ≤ m₁.currentConsumptionInBytes.toNat := by omega
      obtain ⟨m', q', hfree, hempty, hbytes⟩ := ih h₁ (Nat.le_of_succ_le_succ hrounds) hleft
      refine ⟨m', q', ?_, hempty, by omega⟩
      rw [Queue.freeItems, if_neg hsome, hpop]
      dsimp only
      rw [hfree]
      rfl

theorem Queue.deinit_holds {releaseLock : Nat → LockOutcome}
    (hlock : ∀ k, (releaseLock k).lock = true) {items : List (QueueItem α)} {q : Queue α}
    {m : MemoryMonitor} (h : q.Holds items)
    (hheld : bytes items ≤ m.currentConsumptionInBytes.toNat) :
    ∃ m' q', q.deinit (fun k => .real .ok (releaseLock k) none) m = some (items, m', q')
      ∧ q'.Holds [] ∧ m'.currentConsumptionInBytes.toNat + bytes items
        = m.currentConsumptionInBytes.toNat := by
  have hshort : items.length < UInt32.size :=
    Nat.lt_of_le_of_lt (Nat.le_trans (length_le_bytes _) hheld) m.currentConsumptionInBytes.toNat_lt
  exact Queue.freeItems_holds hlock h (Nat.le_of_eq (h.represents hshort).count.symm) hheld

/-! ## One step -/

/-- What a call puts in comes last, and what it takes out was first. -/
theorem Fifo.step_moves (s : μ × List (QueueItem α)) (op : QueueOp α μ) :
    s.2 ++ op.takesIn (Fifo.step s op).1.1
      = (Fifo.step s op).1.2.toList ++ (Fifo.step s op).2.2 := by
  obtain ⟨m, items⟩ := s
  cases op with
  | pushBack mon o data dataSize =>
      have hlaw := Fifo.step_lawful (m, items) (.pushBack mon o data dataSize)
      dsimp only [Fifo.Lawful] at hlaw
      have hout : (Fifo.step (m, items) (.pushBack mon o data dataSize)).1.2.toList
          = ([] : List (QueueItem α)) := rfl
      rw [hout, List.nil_append, QueueOp.takesIn]
      by_cases hok : (Fifo.step (m, items) (.pushBack mon o data dataSize)).1.1 = .ok
      · rw [if_pos hok, hlaw.1 hok]
      · rw [if_neg hok, hlaw.2 hok, List.append_nil]
  | popFront mon => cases items <;> simp [Fifo.step, Fifo.popFront, QueueOp.takesIn]
  | popFrontIf mon condition =>
      cases items with
      | nil => rfl
      | cons x xs =>
          by_cases hc : condition x.data x.dataSize = true <;>
            simp [Fifo.step, Fifo.popFrontIf, Fifo.popFront, QueueOp.takesIn, hc]

namespace SharedCache

variable {c : SharedCache n α} {lists : Fin n → List (QueueItem α)}

/-- The queue `i` is changed, and the monitor by as much. -/
theorem Exact.set (h : c.Exact lists) {i : Fin n} {m : MemoryMonitor} {q : Queue α}
    {items : List (QueueItem α)} (hq : q.Holds items)
    (hcharge : m.currentConsumptionInBytes.toNat + bytes (lists i)
      = c.monitor.currentConsumptionInBytes.toNat + bytes items) :
    SharedCache.Exact ⟨Function.update c.queues i q, m⟩ (Function.update lists i items) := by
  refine ⟨fun j => ?_, ?_⟩
  · by_cases hj : j = i
    · subst hj
      rw [Function.update_self]
      dsimp only
      rw [Function.update_self]
      exact hq
    · rw [Function.update_of_ne hj]
      dsimp only
      rw [Function.update_of_ne hj]
      exact h.1 j
  · have hsum := sum_bytes_update lists i items
    have hexact := h.2
    dsimp only
    omega

theorem Exact.call_charges (h : c.Exact lists) {op : CacheOp n α} (hfit : ChargesExactly c op) :
    (Fifo.step (c.monitor, lists op.queue) op.call).2.1.currentConsumptionInBytes.toNat
        + bytes (lists op.queue)
      = c.monitor.currentConsumptionInBytes.toNat
        + bytes (Fifo.step (c.monitor, lists op.queue) op.call).2.2 := by
  have hitems := h.items_eq op.queue
  have hheld := h.bytes_le op.queue
  cases op with
  | pushBack i consumeLock releaseLock limit o data dataSize =>
      exact (Fifo.pushBack_charges (lists i) data hfit).1
  | popFront i releaseLock => exact Fifo.popFront_releases (fun hne => hfit (hitems ▸ hne)) hheld
  | popFrontIf i releaseLock condition =>
      exact Fifo.popFrontIf_releases (fun hne => hfit (hitems ▸ hne)) hheld

/-- **A call is the list's call**, and keeps the counter exact. -/
theorem Exact.call (h : c.Exact lists) {op : CacheOp n α} (hfit : ChargesExactly c op) :
    ∃ c', c.step op = some ((Fifo.step (c.monitor, lists op.queue) op.call).1, c')
      ∧ c'.Exact (Function.update lists op.queue
        (Fifo.step (c.monitor, lists op.queue) op.call).2.2) := by
  have hcharge := h.call_charges hfit
  have hheld := h.bytes_le op.queue
  have hlength := length_le_bytes (lists op.queue)
  have hlength' := length_le_bytes (Fifo.step (c.monitor, lists op.queue) op.call).2.2
  have hlt := c.monitor.currentConsumptionInBytes.toNat_lt
  have hlt' := (Fifo.step (c.monitor, lists op.queue) op.call).2.1.currentConsumptionInBytes.toNat_lt
  have hshort : (lists op.queue).length < 2 ^ 32 := by omega
  have hfits : CountFits (c.monitor, lists op.queue) op.call := by
    show _ < 2 ^ 32
    omega
  obtain ⟨s', hstep, hm, hq, _⟩ := Queue.step_simulates (c.monitor, c.queues op.queue)
    (c.monitor, lists op.queue) op.call ⟨rfl, h.1 op.queue, hshort⟩ hfits
  refine ⟨⟨Function.update c.queues op.queue s'.2, s'.1⟩, ?_, h.set hq ?_⟩
  · rw [SharedCache.step, hstep]
    rfl
  · rw [hm]
    exact hcharge

end SharedCache

namespace QueueSet

/-- The queues hold these items, and those that are not there hold none. -/
structure Holds (s : QueueSet n α) (lists : Fin n → List (QueueItem α)) : Prop where
  exact : s.cache.Exact lists
  empty : ∀ i, (s.locks i).lock = false → lists i = []
  locks : ∀ i, (s.locks i).counterLock = (s.locks i).lock

variable {s : QueueSet n α} {lists : Fin n → List (QueueItem α)}

theorem holds_start : (start : QueueSet n α).Holds fun _ => [] :=
  ⟨SharedCache.init_exact, fun _ _ => rfl, fun _ => rfl⟩

/-- A queue that holds nothing afterwards may be there or not. -/
theorem Holds.set (h : s.Holds lists) {i : Fin n} {m : MemoryMonitor} {q : Queue α} {lock : Bool}
    (hq : q.Holds [])
    (hcharge : m.currentConsumptionInBytes.toNat + bytes (lists i)
      = s.cache.monitor.currentConsumptionInBytes.toNat) :
    (s.set i m q ⟨lock, lock⟩).Holds (Function.update lists i []) := by
  refine ⟨h.exact.set hq hcharge, fun j => ?_, fun j => ?_⟩
  · by_cases hj : j = i
    · subst hj
      rw [Function.update_self]
      exact fun _ => rfl
    · rw [Function.update_of_ne hj]
      dsimp only [QueueSet.set]
      rw [Function.update_of_ne hj]
      exact h.empty j
  · dsimp only [QueueSet.set]
    by_cases hj : j = i
    · subst hj
      rw [Function.update_self]
    · rw [Function.update_of_ne hj]
      exact h.locks j

theorem Holds.init (h : s.Holds lists) {i : Fin n} (hnot : (s.locks i).lock = false)
    (counterLock lock : Bool) :
    ∃ o s', s.step (.init i counterLock lock) = some (o, s')
      ∧ s'.Holds (Function.update lists i []) ∧ o.2 = [] := by
  have hnone := h.empty i hnot
  have hq : (s.cache.queues i).Holds [] := hnone ▸ h.exact.1 i
  have hcharge : s.cache.monitor.currentConsumptionInBytes.toNat + bytes (lists i)
      = s.cache.monitor.currentConsumptionInBytes.toNat := by
    rw [hnone, bytes_nil, Nat.add_zero]
  cases counterLock with
  | false => exact ⟨_, _, rfl, h.set hq.reset hcharge, rfl⟩
  | true =>
      cases lock with
      | true => exact ⟨_, _, rfl, h.set hq.reset hcharge, rfl⟩
      | false =>
          -- the counter's lock is there, the queue's is not: the empty queue is given up again
          have hlocks : ∀ k : Nat, ((fun _ => LockOutcome.ok) k).lock = true := fun _ => rfl
          obtain ⟨m', q', hdeinit, hq', hm⟩ :=
            Queue.deinit_holds hlocks hq.reset (m := s.cache.monitor) (Nat.zero_le _)
          rw [bytes_nil, Nat.add_zero] at hm
          refine ⟨(.lockException, []), s.set i m' q' ⟨false, false⟩, ?_,
            h.set hq' (hm.symm ▸ hcharge), rfl⟩
          rw [step, SyncQueue.init, if_neg (by decide), if_pos rfl, hdeinit]
          rfl

theorem Holds.call (h : s.Holds lists) {op : CacheOp n α} (hlock : (s.locks op.queue).lock = true)
    (hfit : ChargesExactly s.cache op) :
    ∃ o s', s.step (.call op) = some (o, s')
      ∧ s'.Holds (Function.update lists op.queue
        (Fifo.step (s.cache.monitor, lists op.queue) op.call).2.2)
      ∧ lists op.queue ++ (LifeOp.call op).accepts op.queue o
        = o.2 ++ (Fifo.step (s.cache.monitor, lists op.queue) op.call).2.2 := by
  obtain ⟨c', hcall, hexact⟩ := h.exact.call hfit
  refine ⟨_, { s with cache := c' }, by rw [step, hcall]; rfl, ⟨hexact, fun j hj => ?_, h.locks⟩, ?_⟩
  · have hne : j ≠ op.queue := by
      intro he
      rw [he, hlock] at hj
      cases hj
    rw [Function.update_of_ne hne]
    exact h.empty j hj
  · dsimp only [LifeOp.accepts]
    rw [if_pos rfl]
    exact Fifo.step_moves (s.cache.monitor, lists op.queue) op.call

theorem Holds.deinit (h : s.Holds lists) {i : Fin n} {releaseLock : Nat → LockOutcome}
    (hlock : ∀ k, (releaseLock k).lock = true) :
    ∃ s', s.step (.deinit i releaseLock) = some ((.queue .ok, lists i), s')
      ∧ s'.Holds (Function.update lists i []) := by
  obtain ⟨m', q', hdeinit, hq', hm⟩ :=
    Queue.deinit_holds hlock (h.exact.1 i) (h.exact.bytes_le i)
  refine ⟨s.set i m' q' ⟨false, false⟩, ?_, h.set hq' hm⟩
  rw [step, SyncQueue.deinit, hdeinit]
  rfl

/-- **One step moves items, and loses none**, in whichever life it is. -/
theorem Holds.step_moves (h : s.Holds lists) {op : LifeOp n α} (hop : InOrder s op) :
    ∃ o s' lists', s.step op = some (o, s') ∧ s'.Holds lists'
      ∧ ∀ i, lists i ++ op.accepts i o = op.letsGo i o ++ lists' i := by
  cases op with
  | init j counterLock lock =>
      obtain ⟨o, s', hstep, h', ho⟩ := h.init hop counterLock lock
      refine ⟨o, s', _, hstep, h', fun i => ?_⟩
      by_cases hi : i = j
      · subst hi
        rw [Function.update_self, h.empty i hop, LifeOp.letsGo, if_pos rfl, ho]
        rfl
      · rw [Function.update_of_ne hi, LifeOp.letsGo, if_neg (Ne.symm hi)]
        exact List.append_nil (lists i)
  | call op =>
      obtain ⟨o, s', hstep, h', hmoves⟩ := h.call hop.1 hop.2
      refine ⟨o, s', _, hstep, h', fun i => ?_⟩
      by_cases hi : i = op.queue
      · subst hi
        rw [Function.update_self, LifeOp.letsGo, if_pos rfl]
        exact hmoves
      · have hout : (LifeOp.call op).accepts i o = [] := by
          dsimp only [LifeOp.accepts]
          cases o.1 with
          | queue result => exact if_neg (Ne.symm hi)
          | lockException => rfl
        rw [Function.update_of_ne hi, LifeOp.letsGo, if_neg (Ne.symm hi), hout]
        exact List.append_nil (lists i)
  | deinit j releaseLock =>
      obtain ⟨s', hstep, h'⟩ := h.deinit (i := j) hop.2
      refine ⟨_, s', _, hstep, h', fun i => ?_⟩
      by_cases hi : i = j
      · subst hi
        rw [Function.update_self, LifeOp.letsGo, if_pos rfl]
        rfl
      · rw [Function.update_of_ne hi, LifeOp.letsGo, if_neg (Ne.symm hi)]
        exact List.append_nil (lists i)

/-! ## Whole lives -/

/-- What is found when no queue is left. -/
structure NothingLeft (s : QueueSet n α) : Prop where
  blocks : ∀ i p, (s.cache.queues i).blocks p = none
  locks : ∀ i, s.locks i = ⟨false, false⟩
  consumption : s.cache.monitor.currentConsumptionInBytes = 0

theorem Holds.nothingLeft (h : s.Holds lists) (hall : ∀ i, (s.locks i).lock = false) :
    s.NothingLeft := by
  have hempty : ∀ i, lists i = [] := fun i => h.empty i (hall i)
  refine ⟨fun i => (hempty i ▸ h.exact.1 i).blocks_eq_none, fun i => ?_, ?_⟩
  · have hcounter := h.locks i
    have hlock := hall i
    cases hi : s.locks i with
    | mk counterLock lock =>
        rw [hi] at hcounter hlock
        dsimp only at hcounter hlock
        rw [hcounter, hlock]
  · have hsum := h.exact.2
    rw [Finset.sum_eq_zero fun i _ => by rw [hempty i, bytes_nil]] at hsum
    exact UInt32.toNat_inj.mp hsum

/--
**What a queue takes in it gives out, and nothing is left of it.**

However many queues share the monitor, however their lives overlap, and whatever is pushed and
popped: no step goes wrong, the items that a queue has accepted are those that it has
handed out or freed, in this order and each of them once, followed by those that it holds; the
counter of the monitor is what the queues hold; and once all queues are given up there is no
block, no lock and no byte left.
-/
theorem lives_lose_nothing (ops : List (LifeOp n α))
    (hops : Along step InOrder (start : QueueSet n α) ops) :
    ∃ outs s, run step (start : QueueSet n α) ops = some (outs, s)
      ∧ (∀ i, tally (LifeOp.accepts i) ops outs
        = tally (LifeOp.letsGo i) ops outs ++ (s.cache.queues i).items)
      ∧ s.cache.monitor.currentConsumptionInBytes.toNat = s.cache.exactConsumption
      ∧ ((∀ i, (s.locks i).lock = false) → s.NothingLeft) := by
  obtain ⟨outs, s, hrun, ⟨lists, h⟩, hmoves⟩ :=
    run_conserves (I := fun s : QueueSet n α => ∃ lists, s.Holds lists)
      (fun i s => (s.cache.queues i).items) LifeOp.accepts LifeOp.letsGo
      (fun s op hs hop => by
        obtain ⟨lists, h⟩ := hs
        obtain ⟨o, s', lists', hstep, h', hmoves⟩ := h.step_moves hop
        refine ⟨o, s', hstep, ⟨lists', h'⟩, fun i => ?_⟩
        rw [h.exact.items_eq i, h'.exact.items_eq i]
        exact hmoves i)
      ⟨_, holds_start⟩ hops
  refine ⟨outs, s, hrun, fun i => ?_, h.exact.consumption, h.nothingLeft⟩
  have hi := hmoves i
  rw [holds_start.exact.items_eq i, List.nil_append] at hi
  exact hi

theorem step_call_locks {s s' : QueueSet n α} {op : CacheOp n α} {o : LifeOutput α}
    (hs : s.step (.call op) = some (o, s')) : s'.locks = s.locks := by
  rw [step] at hs
  obtain ⟨r, _, hr⟩ := Option.map_eq_some_iff.mp hs
  obtain ⟨_, rfl⟩ := Prod.mk.inj hr
  rfl

/-- One queue cannot be made, another one is given up with an item in it. -/
def givenUp : List (LifeOp 2 Bool) :=
  [.init 1 true false, .init 0 true true, .call (.cleanPush 0 100 true 3), .deinit 0 fun _ => .ok]

theorem lives_lose_nothing_given_up :
    ∃ outs s, run step (start : QueueSet 2 Bool) givenUp = some (outs, s)
      ∧ (∀ i, tally (LifeOp.accepts i) givenUp outs
        = tally (LifeOp.letsGo i) givenUp outs ++ (s.cache.queues i).items)
      ∧ s.cache.monitor.currentConsumptionInBytes.toNat = s.cache.exactConsumption
      ∧ ((∀ i, (s.locks i).lock = false) → s.NothingLeft) := by
  refine lives_lose_nothing givenUp ⟨rfl, fun o s hs => ?_⟩
  obtain ⟨_, rfl⟩ := Prod.mk.inj (Option.some.inj hs)
  refine ⟨rfl, fun o s hs => ?_⟩
  obtain ⟨_, rfl⟩ := Prod.mk.inj (Option.some.inj hs)
  refine ⟨⟨rfl, fun _ _ => ⟨rfl, Or.inl rfl, by decide⟩⟩, fun o s hs => ?_⟩
  refine ⟨⟨?_, fun _ => rfl⟩, fun _ _ _ => trivial⟩
  rw [step_call_locks hs]
  rfl

end QueueSet

end SecurityAgent
