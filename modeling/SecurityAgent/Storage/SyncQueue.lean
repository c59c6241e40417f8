import SecurityAgent.Storage.Fifo

/-!
# Queues behind a lock: `synchronized_queue.c`

The tasks see a queue through its lock and by what it holds: the list of its items,
oldest first. A pop tells the memory monitor about the bytes it gives back, but
what it takes does not depend on the monitor, so a list is all there is to a
queue that is only emptied (`popFrontIf_refines`). Its count is the length: the
monitor charges every item 40 bytes and more, and with a 32-bit limit the count
cannot wrap.
-/

namespace SecurityAgent

variable {α μ : Type}

/-- What the functions of `synchronized_queue.c` return. -/
inductive SyncQueueResult where
  | queue (result : QueueResult)
  | lockException
  deriving DecidableEq, Repr

namespace SyncQueue

/-- `SyncQueue_PopFrontIf`. When only the unlock fails, the item has been taken. -/
def popFrontIf (o : LockOutcome) (condition : α → UInt32 → Bool) (items : List (QueueItem α)) :
    SyncQueueResult × Option (QueueItem α) × List (QueueItem α) :=
  if o.lock = false then (.lockException, none, items)
  else
    let (result, item, _, rest) := Fifo.popFrontIf .granting condition () items
    if o.unlock = false then (.lockException, item, rest) else (.queue result, item, rest)

/-- `SyncQueue_GetSize`: the size, unless the lock fails. -/
def getSize (o : LockOutcome) (items : List (QueueItem α)) : Option Nat :=
  if o.lock && o.unlock then some items.length else none

@[simp] theorem getSize_ok (items : List (QueueItem α)) : getSize .ok items = some items.length :=
  rfl

theorem getSize_eq_some {o : LockOutcome} {items : List (QueueItem α)} {n : Nat}
    (h : getSize o items = some n) : n = items.length := by
  unfold getSize at h
  split at h
  · exact (Option.some.inj h).symm
  · exact absurd h (by simp)

/-- What a conditional pop does, whatever happens to the lock. -/
theorem popFrontIf_cases {o : LockOutcome} {condition : α → UInt32 → Bool}
    {items rest : List (QueueItem α)} {r : SyncQueueResult} {item : Option (QueueItem α)}
    (h : popFrontIf o condition items = (r, item, rest)) :
    (rest = items ∧ item = none
        ∧ (r = .lockException ∧ o ≠ .ok ∨ r = .queue .isEmpty ∧ items = []
          ∨ r = .queue .conditionFailed
            ∧ ∃ x xs, items = x :: xs ∧ condition x.data x.dataSize = false))
      ∨ ∃ x, items = x :: rest ∧ item = some x ∧ condition x.data x.dataSize = true
        ∧ (r = .queue .ok ∨ r = .lockException ∧ o ≠ .ok) := by
  obtain ⟨lock, unlock⟩ := o
  cases lock with
  | false =>
      obtain ⟨rfl, rfl, rfl⟩ := h
      exact Or.inl ⟨rfl, rfl, Or.inl ⟨rfl, fun hok => Bool.false_ne_true (congrArg LockOutcome.lock hok)⟩⟩
  | true =>
      cases items with
      | nil =>
          cases unlock with
          | false =>
              obtain ⟨rfl, rfl, rfl⟩ := h
              exact Or.inl ⟨rfl, rfl, Or.inl ⟨rfl, by decide⟩⟩
          | true =>
              obtain ⟨rfl, rfl, rfl⟩ := h
              exact Or.inl ⟨rfl, rfl, Or.inr (Or.inl ⟨rfl, rfl⟩)⟩
      | cons x xs =>
          cases hc : condition x.data x.dataSize with
          | false =>
              cases unlock with
              | false =>
                  simp [popFrontIf, Fifo.popFrontIf, hc] at h
                  obtain ⟨rfl, rfl, rfl⟩ := h
                  exact Or.inl ⟨rfl, rfl, Or.inl ⟨rfl, by decide⟩⟩
              | true =>
                  simp [popFrontIf, Fifo.popFrontIf, hc] at h
                  obtain ⟨rfl, rfl, rfl⟩ := h
                  exact Or.inl ⟨rfl, rfl, Or.inr (Or.inr ⟨rfl, x, xs, rfl, hc⟩)⟩
          | true =>
              cases unlock with
              | false =>
                  simp [popFrontIf, Fifo.popFrontIf, Fifo.popFront, hc] at h
                  obtain ⟨rfl, rfl, rfl⟩ := h
                  exact Or.inr ⟨x, rfl, rfl, hc, Or.inr ⟨rfl, by decide⟩⟩
              | true =>
                  simp [popFrontIf, Fifo.popFrontIf, Fifo.popFront, hc] at h
                  obtain ⟨rfl, rfl, rfl⟩ := h
                  exact Or.inr ⟨x, rfl, rfl, hc, Or.inl rfl⟩

/-- The monitor has no part in what is popped. -/
theorem popFrontIf_monitor (mon : MonitorCalls μ) (m : μ) (condition : α → UInt32 → Bool)
    (items : List (QueueItem α)) :
    (Fifo.popFrontIf mon condition m items).1 = (Fifo.popFrontIf .granting condition () items).1
      ∧ (Fifo.popFrontIf mon condition m items).2.1
        = (Fifo.popFrontIf .granting condition () items).2.1
      ∧ (Fifo.popFrontIf mon condition m items).2.2.2
        = (Fifo.popFrontIf .granting condition () items).2.2.2 := by
  cases items with
  | nil => exact ⟨rfl, rfl, rfl⟩
  | cons x xs =>
      unfold Fifo.popFrontIf
      by_cases hc : condition x.data x.dataSize = true
      · simp only [if_pos hc]
        exact ⟨rfl, rfl, rfl⟩
      · simp only [if_neg hc, and_self]

/-- **A queue behind a lock is its list**: what the C queue pops, counts and keeps is what the
list pops, counts and keeps. -/
theorem popFrontIf_refines {q : Queue α} {items : List (QueueItem α)} (h : q.Holds items)
    (hlen : items.length < UInt32.size) (mon : MonitorCalls μ) (m : μ)
    (condition : α → UInt32 → Bool) :
    q.getSize.toNat = items.length
      ∧ ∃ r item rest m' q', popFrontIf .ok condition items = (.queue r, item, rest)
        ∧ q.popFrontIf mon condition m = some (r, item, m', q') ∧ q'.Holds rest := by
  obtain ⟨q', hq, hh⟩ := Queue.popFrontIf_holds h hlen mon condition m
  obtain ⟨h₁, h₂, h₃⟩ := popFrontIf_monitor mon m condition items
  rw [h₁, h₂] at hq
  rw [h₃] at hh
  exact ⟨(h.represents hlen).count, _, _, _, _, q', rfl, hq, hh⟩

end SyncQueue

end SecurityAgent
