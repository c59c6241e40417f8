import Mathlib.Algebra.BigOperators.Fin
import Mathlib.Algebra.BigOperators.Group.Finset.Piecewise
import Mathlib.Algebra.Order.BigOperators.Group.Finset
import SecurityAgent.Storage.Fifo

/-!
# What the memory monitor's counter means

All queues of the agent draw on one memory monitor. Its counter is meant to be
the size of everything queued: for each item, its data and the bookkeeping
around it. The sum below is taken in the natural numbers, over the items one
finds by walking each queue; the counter is a `uint32_t` that is added to and
subtracted from.

The two can part. `Queue_CalculateItemSize` and the limit test both add without
an overflow check, so a large enough item is charged for a few bytes only; and
a monitor whose lock fails at the wrong moment keeps bytes nobody owns. Apart
from these (`ChargesExactly`) the counter is exact after every call, and a push
is only accepted within the limit then in force.
-/

namespace SecurityAgent

open LinkedHeap Machine

variable {α : Type} {n : Nat}

/-- `n` queues and the monitor they share. -/
structure SharedCache (n : Nat) (α : Type) where
  /-- The queues. -/
  queues : Fin n → Queue α
  /-- The monitor. -/
  monitor : MemoryMonitor

/-- Just initialised. -/
def SharedCache.init : SharedCache n α := ⟨fun _ => Queue.init, MemoryMonitor.init⟩

/-- One call on one of the queues, with what the call's environment answers: the monitor's
lock, the limit the twin configuration supplies, and `malloc`. -/
inductive CacheOp (n : Nat) (α : Type) where
  | pushBack (i : Fin n) (consumeLock releaseLock : LockOutcome) (limit : Option UInt32)
      (o : PushOutcome) (data : α) (dataSize : UInt32)
  | popFront (i : Fin n) (releaseLock : LockOutcome)
  | popFrontIf (i : Fin n) (releaseLock : LockOutcome) (condition : α → UInt32 → Bool)

/-- The real monitor, as one call finds it. -/
def MonitorCalls.real (consumeLock releaseLock : LockOutcome) (limit : Option UInt32) :
    MonitorCalls MemoryMonitor where
  consume := MemoryMonitor.consume consumeLock limit
  release := MemoryMonitor.release releaseLock

/-- The queue a call is made on. -/
def CacheOp.queue : CacheOp n α → Fin n
  | .pushBack i .. => i
  | .popFront i _ => i
  | .popFrontIf i .. => i

/-- The call itself. A pop never consumes, so the limit it is given does not matter. -/
def CacheOp.call : CacheOp n α → QueueOp α MemoryMonitor
  | .pushBack _ consumeLock releaseLock limit o data dataSize =>
      .pushBack (.real consumeLock releaseLock limit) o data dataSize
  | .popFront _ releaseLock => .popFront (.real .ok releaseLock none)
  | .popFrontIf _ releaseLock condition => .popFrontIf (.real .ok releaseLock none) condition

/-- One call: the queue it is made on and the monitor change, the other queues do not. -/
def SharedCache.step (c : SharedCache n α) (op : CacheOp n α) :
    Option (QueueOutput α × SharedCache n α) :=
  (Queue.step (c.monitor, c.queues op.queue) op.call).map fun r =>
    (r.1, ⟨Function.update c.queues op.queue r.2.2, r.2.1⟩)

/-! ## The exact sum -/

/-- The items a queue holds, found by walking it from the front. -/
def Queue.items (q : Queue α) : List (QueueItem α) :=
  (forward q.blocks q.numberOfElements.toNat q.firstItem).getD []

/-- What one item occupies: `dataSize` and the item overhead, as a number. -/
def itemBytes (x : QueueItem α) : Nat :=
  x.dataSize.toNat + (sizeofQueueItem.toNat + sizeofPointer.toNat)

/-- What a list of items occupies. -/
def bytes (items : List (QueueItem α)) : Nat := (items.map itemBytes).sum

/-- What everything queued occupies. -/
def SharedCache.exactConsumption (c : SharedCache n α) : Nat := ∑ i, bytes (c.queues i).items

/-- The counter is the exact sum after the call, and if the call was a push that returned
`QUEUE_OK`, the sum is within the limit that push was made under. -/
def Accounts (_ : SharedCache n α) (op : CacheOp n α) (out : QueueOutput α)
    (c' : SharedCache n α) : Prop :=
  c'.monitor.currentConsumptionInBytes.toNat = c'.exactConsumption
    ∧ match op with
      | .pushBack _ _ _ limit _ _ _ =>
          out.1 = .ok → ∃ l, limit = some l ∧ c'.exactConsumption ≤ l.toNat
      | _ => True

/-- The call charges, and gives back, exactly what it should: a push the code's limit test
accepts overflows neither addition, completes its unlock, and can give its bytes back if it
has to; a pop can give its item's bytes back. -/
def ChargesExactly (c : SharedCache n α) : CacheOp n α → Prop
  | .pushBack _ consumeLock releaseLock limit o _ dataSize =>
      consumeLock.lock = true →
      (∃ l, limit = some l
        ∧ c.monitor.currentConsumptionInBytes + queueCalculateItemSize dataSize ≤ l) →
      consumeLock.unlock = true ∧ (o.malloc = true ∨ releaseLock.lock = true)
        ∧ c.monitor.currentConsumptionInBytes.toNat + dataSize.toNat
            + (sizeofQueueItem.toNat + sizeofPointer.toNat) < UInt32.size
  | .popFront i releaseLock => (c.queues i).items ≠ [] → releaseLock.lock = true
  | .popFrontIf i releaseLock condition =>
      (∃ x xs, (c.queues i).items = x :: xs ∧ condition x.data x.dataSize = true) →
        releaseLock.lock = true

/-! ## One call -/

@[simp] theorem bytes_nil : bytes ([] : List (QueueItem α)) = 0 := rfl

@[simp] theorem bytes_cons (x : QueueItem α) (xs : List (QueueItem α)) :
    bytes (x :: xs) = itemBytes x + bytes xs := by simp [bytes]

@[simp] theorem bytes_append (xs ys : List (QueueItem α)) :
    bytes (xs ++ ys) = bytes xs + bytes ys := by simp [bytes]

/-- Items are not free, so a list that fits in memory is not long. -/
theorem length_le_bytes (xs : List (QueueItem α)) : xs.length ≤ bytes xs := by
  induction xs with
  | nil => exact Nat.zero_le _
  | cons x xs ih =>
      have : 1 ≤ itemBytes x := Nat.le_add_left_of_le (by decide)
      rw [List.length_cons, bytes_cons]
      omega

theorem Queue.Holds.items_eq {q : Queue α} {items : List (QueueItem α)} (h : q.Holds items)
    (hlen : items.length < UInt32.size) : q.items = items := by
  have hr := h.represents hlen
  rw [Queue.items, hr.count, hr.forward _ (Nat.le_refl _)]
  rfl

theorem queueCalculateItemSize_toNat (dataSize : UInt32)
    (h : dataSize.toNat + (sizeofQueueItem.toNat + sizeofPointer.toNat) < UInt32.size) :
    (queueCalculateItemSize dataSize).toNat
      = dataSize.toNat + (sizeofQueueItem.toNat + sizeofPointer.toNat) := by
  have h32 : sizeofQueueItem.toNat = 32 := rfl
  have h8 : sizeofPointer.toNat = 8 := rfl
  rw [h32, h8] at h ⊢
  simp only [queueCalculateItemSize, UInt32.toNat_add, h32, h8]
  simp only [UInt32.size] at h
  omega

/-- A release that is owed its bytes takes exactly them off the counter. -/
theorem MemoryMonitor.release_exact {o : LockOutcome} {m : MemoryMonitor} {s : UInt32}
    (ho : o.lock = true) (hs : s.toNat ≤ m.currentConsumptionInBytes.toNat) :
    (MemoryMonitor.release o m s).2.currentConsumptionInBytes.toNat + s.toNat
      = m.currentConsumptionInBytes.toNat := by
  have hle : s ≤ m.currentConsumptionInBytes := UInt32.le_iff_toNat_le.mpr hs
  rw [MemoryMonitor.release_of_le ho hle]
  dsimp only
  rw [UInt32.toNat_sub_of_le _ _ hle]
  omega

/-- **A push charges what it queues**: the counter and the list grow by the same amount. -/
theorem Fifo.pushBack_charges {m : MemoryMonitor} (items : List (QueueItem α)) (data : α)
    {dataSize : UInt32} {consumeLock releaseLock : LockOutcome} {limit : Option UInt32}
    {o : PushOutcome}
    (hfit : consumeLock.lock = true →
      (∃ l, limit = some l
        ∧ m.currentConsumptionInBytes + queueCalculateItemSize dataSize ≤ l) →
      consumeLock.unlock = true ∧ (o.malloc = true ∨ releaseLock.lock = true)
        ∧ m.currentConsumptionInBytes.toNat + dataSize.toNat
            + (sizeofQueueItem.toNat + sizeofPointer.toNat) < UInt32.size) :
    let r := Fifo.pushBack (.real consumeLock releaseLock limit) o m items data dataSize
    r.2.1.currentConsumptionInBytes.toNat + bytes items
        = m.currentConsumptionInBytes.toNat + bytes r.2.2
      ∧ (r.1 = .ok → ∃ l, limit = some l ∧ r.2.1.currentConsumptionInBytes ≤ l) := by
  intro r
  have hr : r = Fifo.pushBack (.real consumeLock releaseLock limit) o m items data dataSize := rfl
  have hcalls : (MonitorCalls.consume (.real consumeLock releaseLock limit) m
      (queueCalculateItemSize dataSize))
      = MemoryMonitor.consume consumeLock limit m (queueCalculateItemSize dataSize) := rfl
  unfold Fifo.pushBack at hr
  rw [hcalls] at hr
  rcases MemoryMonitor.consume_cases consumeLock limit m (queueCalculateItemSize dataSize)
    with ⟨hne, hsame⟩ | ⟨hlock, hlim, htaken, hok⟩
  · -- refused: neither the counter nor the list moves
    have hstill : r.1 ≠ .ok ∧ r.2.1 = m ∧ r.2.2 = items := by
      split at hr
      · rename_i h; rw [h] at hne; exact absurd rfl hne
      · rename_i h; rw [h] at hsame; rw [hr]; exact ⟨by simp, hsame, rfl⟩
      · rename_i h; rw [h] at hsame; rw [hr]; exact ⟨by simp, hsame, rfl⟩
      · rename_i h; rw [h] at hsame; rw [hr]; exact ⟨by simp, hsame, rfl⟩
    rw [hstill.2.1, hstill.2.2]
    exact ⟨rfl, fun h => absurd h hstill.1⟩
  · obtain ⟨hunlock, hback, hsum⟩ := hfit hlock hlim
    have hsize := queueCalculateItemSize_toNat dataSize (by omega)
    have hadd : (m.currentConsumptionInBytes + queueCalculateItemSize dataSize).toNat
        = m.currentConsumptionInBytes.toNat + (queueCalculateItemSize dataSize).toNat := by
      rw [UInt32.toNat_add, hsize]
      exact Nat.mod_eq_of_lt (by simp only [UInt32.size] at hsum; omega)
    have hgranted := hok.mpr hunlock
    split at hr
    · rename_i m' h
      rw [h] at htaken
      dsimp only at htaken
      by_cases hmalloc : o.malloc = true
      · rw [if_pos hmalloc] at hr
        obtain ⟨l, hl, hle⟩ := hlim
        rw [hr]
        dsimp only
        rw [htaken]
        refine ⟨?_, fun _ => ⟨l, hl, hle⟩⟩
        rw [hadd, hsize, bytes_append, bytes_cons, bytes_nil, itemBytes]
        dsimp only
        omega
      · -- no block: the bytes go back
        rw [if_neg hmalloc] at hr
        have hrel := MemoryMonitor.release_exact (m := m')
          (hback.resolve_left hmalloc) (s := queueCalculateItemSize dataSize) (by
            rw [htaken]; dsimp only; rw [hadd]; omega)
        rw [hr]
        refine ⟨?_, fun h => absurd h (by simp)⟩
        show (MemoryMonitor.release releaseLock m' _).2.currentConsumptionInBytes.toNat
          + bytes items = _ + bytes items
        rw [htaken] at hrel
        dsimp only at hrel
        rw [hadd, ← htaken] at hrel
        omega
    all_goals (rename_i h; rw [h] at hgranted; exact absurd hgranted (by simp))

/-- **A pop releases what it takes out.** -/
theorem Fifo.popFront_releases {m : MemoryMonitor} {items : List (QueueItem α)}
    {releaseLock : LockOutcome} (hfit : items ≠ [] → releaseLock.lock = true)
    (hheld : bytes items ≤ m.currentConsumptionInBytes.toNat) :
    let r := Fifo.popFront (.real .ok releaseLock none) m items
    r.2.2.1.currentConsumptionInBytes.toNat + bytes items
      = m.currentConsumptionInBytes.toNat + bytes r.2.2.2 := by
  cases items with
  | nil => rfl
  | cons x xs =>
      rw [bytes_cons, itemBytes] at hheld ⊢
      have hcur := m.currentConsumptionInBytes.toNat_lt
      have hsize := queueCalculateItemSize_toNat x.dataSize (by
        show _ < 2 ^ 32
        omega)
      have hrel := MemoryMonitor.release_exact (m := m) (hfit (by simp))
        (s := queueCalculateItemSize x.dataSize) (by omega)
      show (MemoryMonitor.release releaseLock m _).2.currentConsumptionInBytes.toNat + _
        = _ + bytes xs
      omega

theorem Fifo.popFrontIf_releases {m : MemoryMonitor} {items : List (QueueItem α)}
    {releaseLock : LockOutcome} {condition : α → UInt32 → Bool}
    (hfit : (∃ x xs, items = x :: xs ∧ condition x.data x.dataSize = true) →
      releaseLock.lock = true)
    (hheld : bytes items ≤ m.currentConsumptionInBytes.toNat) :
    let r := Fifo.popFrontIf (.real .ok releaseLock none) condition m items
    r.2.2.1.currentConsumptionInBytes.toNat + bytes items
      = m.currentConsumptionInBytes.toNat + bytes r.2.2.2 := by
  cases items with
  | nil => rfl
  | cons x xs =>
      unfold Fifo.popFrontIf
      dsimp only
      by_cases hc : condition x.data x.dataSize = true
      · rw [if_pos hc]
        exact Fifo.popFront_releases (fun _ => hfit ⟨x, xs, rfl, hc⟩) hheld
      · rw [if_neg hc]

/-! ## All queues together -/

/-- Each queue holds its list, and the counter is what all the lists occupy. -/
def SharedCache.Exact (c : SharedCache n α) (lists : Fin n → List (QueueItem α)) : Prop :=
  (∀ i, (c.queues i).Holds (lists i))
    ∧ c.monitor.currentConsumptionInBytes.toNat = ∑ i, bytes (lists i)

/-- One list's share of the sum. -/
theorem sum_bytes_update (lists : Fin n → List (QueueItem α)) (i : Fin n)
    (items : List (QueueItem α)) :
    (∑ j, bytes (Function.update lists i items j)) + bytes (lists i)
      = (∑ j, bytes (lists j)) + bytes items := by
  have h : (fun j => bytes (Function.update lists i items j))
      = Function.update (fun j => bytes (lists j)) i (bytes items) := by
    funext j
    by_cases hj : j = i
    · subst hj; simp
    · simp [hj]
  rw [h, Finset.sum_update_of_mem (Finset.mem_univ i),
    ← Finset.add_sum_erase Finset.univ (fun j => bytes (lists j)) (Finset.mem_univ i),
    Finset.sdiff_singleton_eq_erase]
  omega

theorem SharedCache.Exact.bytes_le {c : SharedCache n α} {lists : Fin n → List (QueueItem α)}
    (h : c.Exact lists) (i : Fin n) :
    bytes (lists i) ≤ c.monitor.currentConsumptionInBytes.toNat := by
  rw [h.2]
  exact Finset.single_le_sum (fun j _ => Nat.zero_le (bytes (lists j))) (Finset.mem_univ i)

theorem SharedCache.Exact.items_eq {c : SharedCache n α} {lists : Fin n → List (QueueItem α)}
    (h : c.Exact lists) (i : Fin n) : (c.queues i).items = lists i :=
  (h.1 i).items_eq (Nat.lt_of_le_of_lt
    (Nat.le_trans (length_le_bytes _) (h.bytes_le i)) (UInt32.toNat_lt _))

theorem SharedCache.Exact.consumption {c : SharedCache n α}
    {lists : Fin n → List (QueueItem α)} (h : c.Exact lists) :
    c.monitor.currentConsumptionInBytes.toNat = c.exactConsumption := by
  rw [h.2, SharedCache.exactConsumption]
  exact Finset.sum_congr rfl fun i _ => by rw [h.items_eq i]

/-- A call that keeps its queue a list, and moves the counter by what that list grew, keeps
the sum exact. -/
theorem SharedCache.Exact.step {c : SharedCache n α} {lists : Fin n → List (QueueItem α)}
    (h : c.Exact lists) (op : CacheOp n α) {out : QueueOutput α} {m' : MemoryMonitor}
    {q' : Queue α} {items' : List (QueueItem α)}
    (hcall : Queue.step (c.monitor, c.queues op.queue) op.call = some (out, (m', q')))
    (hq' : q'.Holds items')
    (hcharge : m'.currentConsumptionInBytes.toNat + bytes (lists op.queue)
      = c.monitor.currentConsumptionInBytes.toNat + bytes items') :
    ∃ c', SharedCache.step c op = some (out, c') ∧ c'.monitor = m'
      ∧ c'.Exact (Function.update lists op.queue items') := by
  refine ⟨⟨Function.update c.queues op.queue q', m'⟩, by rw [SharedCache.step, hcall]; rfl, rfl,
    ?_, ?_⟩
  · intro i
    dsimp only
    by_cases hi : i = op.queue
    · subst hi; rw [Function.update_self, Function.update_self]; exact hq'
    · rw [Function.update_of_ne hi, Function.update_of_ne hi]; exact h.1 i
  · have hsum := sum_bytes_update lists op.queue items'
    have hexact := h.2
    dsimp only
    omega

theorem SharedCache.step_accounts (c : SharedCache n α) (op : CacheOp n α)
    (h : ∃ lists, c.Exact lists) (hfit : ChargesExactly c op) :
    ∃ out c', SharedCache.step c op = some (out, c') ∧ Accounts c op out c'
      ∧ ∃ lists, c'.Exact lists := by
  obtain ⟨lists, h⟩ := h
  have hitems := h.items_eq op.queue
  have hheld := h.bytes_le op.queue
  have hlen : (lists op.queue).length < UInt32.size :=
    Nat.lt_of_le_of_lt (Nat.le_trans (length_le_bytes _) hheld) (UInt32.toNat_lt _)
  cases op with
  | pushBack i consumeLock releaseLock limit o data dataSize =>
      obtain ⟨q', hq, hh⟩ := Queue.pushBack_holds (h.1 i)
        (.real consumeLock releaseLock limit) o c.monitor data dataSize
      obtain ⟨hcharge, hlim⟩ := Fifo.pushBack_charges (lists i) data hfit
      obtain ⟨c', hs, hm, hex⟩ := h.step (.pushBack i consumeLock releaseLock limit o data dataSize)
        (by simp only [Queue.step, CacheOp.call, CacheOp.queue, hq]; rfl) hh hcharge
      refine ⟨_, c', hs, ⟨hex.consumption, fun hok => ?_⟩, _, hex⟩
      obtain ⟨l, hl, hle⟩ := hlim hok
      exact ⟨l, hl, by rw [← hex.consumption, hm]; exact UInt32.le_iff_toNat_le.mp hle⟩
  | popFront i releaseLock =>
      obtain ⟨q', hq, hh⟩ := Queue.popFront_holds (h.1 i) hlen (.real .ok releaseLock none)
        c.monitor
      have hcharge := Fifo.popFront_releases (fun hne => hfit (hitems ▸ hne)) hheld
      obtain ⟨c', hs, _, hex⟩ := h.step (.popFront i releaseLock)
        (by simp only [Queue.step, CacheOp.call, CacheOp.queue, hq]; rfl) hh hcharge
      exact ⟨_, c', hs, ⟨hex.consumption, trivial⟩, _, hex⟩
  | popFrontIf i releaseLock condition =>
      obtain ⟨q', hq, hh⟩ := Queue.popFrontIf_holds (h.1 i) hlen (.real .ok releaseLock none)
        condition c.monitor
      have hcharge := Fifo.popFrontIf_releases (fun hne => hfit (hitems ▸ hne)) hheld
      obtain ⟨c', hs, _, hex⟩ := h.step (.popFrontIf i releaseLock condition)
        (by simp only [Queue.step, CacheOp.call, CacheOp.queue, hq]; rfl) hh hcharge
      exact ⟨_, c', hs, ⟨hex.consumption, trivial⟩, _, hex⟩

theorem SharedCache.init_exact :
    (SharedCache.init : SharedCache n α).Exact fun _ => [] :=
  ⟨fun _ => Queue.holds_init, by simp [SharedCache.init, MemoryMonitor.init]⟩

/--
**The counter is what the queues occupy.**

However many queues share the monitor, and whatever is pushed and popped under whatever
limits: as long as each call charges exactly, the counter is after every call the exact
sum over everything queued, and a push that is accepted is within the limit it was made
under.
-/
theorem consumption_exact (ops : List (CacheOp n α))
    (hfit : Along SharedCache.step ChargesExactly SharedCache.init ops) :
    EveryStep SharedCache.step Accounts SharedCache.init ops :=
  everyStep_of_along SharedCache.step_accounts ⟨_, SharedCache.init_exact⟩ hfit

/-- A push whose locks and `malloc` all succeed. -/
def CacheOp.cleanPush (i : Fin n) (limit : UInt32) (data : α) (dataSize : UInt32) :
    CacheOp n α :=
  .pushBack i .ok .ok (some limit) ⟨true, true, true⟩ data dataSize

theorem consumption_exact_two_queues :
    EveryStep SharedCache.step Accounts (SharedCache.init : SharedCache 2 Bool)
      [.cleanPush 0 100 true 3, .popFrontIf 1 .ok (fun d _ => d), .popFront 0 .ok] :=
  consumption_exact _ ⟨fun _ _ => ⟨rfl, Or.inl rfl, by decide⟩, fun _ _ _ =>
    ⟨fun _ => rfl, fun _ _ _ => ⟨fun _ => rfl, fun _ _ _ => trivial⟩⟩⟩

/-- **An item of almost `2^32` bytes is free.** With its overhead its size wraps to zero,
so it is accepted under any limit and charged nothing. -/
theorem huge_item_is_free :
    ¬ EveryStep SharedCache.step Accounts (SharedCache.init : SharedCache 1 Unit)
      [.cleanPush 0 10485760 () 4294967256] := by
  rintro ⟨out, c', hs, ⟨hcount, _⟩, _⟩
  have hc : c' = ((SharedCache.step SharedCache.init
      (.cleanPush 0 10485760 () 4294967256 : CacheOp 1 Unit)).map Prod.snd).getD
        SharedCache.init := by rw [hs]; rfl
  have hzero : c'.monitor.currentConsumptionInBytes.toNat = 0 := by rw [hc]; rfl
  have hexact : c'.exactConsumption = UInt32.size := by
    rw [hc, SharedCache.exactConsumption, Fin.sum_univ_one]
    rfl
  rw [hzero, hexact] at hcount
  exact absurd hcount (by decide)

end SecurityAgent
