import SecurityAgent.Storage.SyncQueue

/-!
# Queues and their counters: `agent_telemetry_counters.c` in `queue.c`

A queue counts the pushes it has seen and those it has dropped. The counters are
no part of what it holds, so the list queue gets them back beside its list here:
a `MeteredQueue` is what telemetry and the producers see of a `Queue`.
-/

namespace SecurityAgent

variable {α μ γ : Type}

namespace AgentTelemetryCounter

/-- `AgentTelemetryCounter_SnapshotAndReset`: its result, `outData`, and the counter afterwards.
When only the unlock fails, the counter has been reset. -/
def snapshotAndReset (o : LockOutcome) (zero counter : γ) : Bool × γ × γ :=
  if o.lock = false then (false, zero, counter) else (o.unlock, counter, zero)

/-- `AgentTelemetryCounter_IncreaseBy`, on the count it is given. -/
def increaseBy (o : LockOutcome) (countInstance amount : UInt32) : Bool × UInt32 :=
  if o.lock = false then (false, countInstance) else (o.unlock, countInstance + amount)

end AgentTelemetryCounter

/-- What one push adds to the counters of its queue, by what the monitor answered. -/
def QueueCounter.push (c : QueueCounter) (consumed : MemoryMonitorResult) (o : PushOutcome) :
    QueueCounter where
  collected := if o.collectedLock then c.collected + 1 else c.collected
  dropped := if consumed = .memoryExceeded ∧ o.droppedLock = true then c.dropped + 1 else c.dropped

/-- A queue by what it holds and what it has counted. -/
structure MeteredQueue (α : Type) where
  /-- What it holds, oldest first. -/
  items : List (QueueItem α)
  /-- `counter.counter.queueCounter`. -/
  counter : QueueCounter

/-- The list and the counters are those of the C queue. -/
structure Queue.Meters (q : Queue α) (mq : MeteredQueue α) : Prop where
  holds : q.Holds mq.items
  counter : q.counter = mq.counter

namespace MeteredQueue

/-- An empty queue that has counted nothing. -/
def init : MeteredQueue α := ⟨[], ⟨0, 0⟩⟩

/-- `Queue_PushBack` on the list and the counters. -/
def pushBack (mon : MonitorCalls μ) (o : PushOutcome) (m : μ) (q : MeteredQueue α) (data : α)
    (dataSize : UInt32) : QueueResult × μ × MeteredQueue α :=
  let r := Fifo.pushBack mon o m q.items data dataSize
  (r.1, r.2.1, ⟨r.2.2, q.counter.push (mon.consume m (queueCalculateItemSize dataSize)).1 o⟩)

end MeteredQueue

namespace Queue

theorem meters_init : (Queue.init : Queue α).Meters .init := ⟨holds_init, rfl⟩

theorem countCollected_counter (lock : Bool) (q : Queue α) :
    (q.countCollected lock).counter
      = ⟨if lock then q.counter.collected + 1 else q.counter.collected, q.counter.dropped⟩ := by
  unfold countCollected
  cases lock <;> rfl

theorem countDropped_counter (lock : Bool) (q : Queue α) :
    (q.countDropped lock).counter
      = ⟨q.counter.collected, if lock then q.counter.dropped + 1 else q.counter.dropped⟩ := by
  unfold countDropped
  cases lock <;> rfl

theorem link_counter {q q' : Queue α} {item : QueueItem α} (h : q.link item = some q') :
    q'.counter = q.counter := by
  unfold link at h
  split at h
  · exact (Option.some.inj h) ▸ rfl
  · split at h
    · exact absurd h (by simp)
    · split at h
      · exact absurd h (by simp)
      · exact (Option.some.inj h) ▸ rfl

/-- Whatever becomes of a push, its counters are the ones `QueueCounter.push` says. -/
theorem pushBack_counter {mon : MonitorCalls μ} {o : PushOutcome} {m m' : μ} {q q' : Queue α}
    {data : α} {dataSize : UInt32} {r : QueueResult}
    (h : q.pushBack mon o m data dataSize = some (r, m', q')) :
    q'.counter = q.counter.push (mon.consume m (queueCalculateItemSize dataSize)).1 o := by
  unfold pushBack at h
  split at h
  · rename_i hc
    rw [hc]
    split at h
    · split at h
      · exact absurd h (by simp)
      · rename_i hl
        obtain ⟨-, -, rfl⟩ := Option.some.inj h
        rw [countCollected_counter, link_counter hl]
        rfl
    · obtain ⟨-, -, rfl⟩ := Option.some.inj h
      exact countCollected_counter _ _
  · rename_i hc
    rw [hc]
    obtain ⟨-, -, rfl⟩ := Option.some.inj h
    rw [countCollected_counter, countDropped_counter]
    simp [QueueCounter.push]
  · rename_i hc
    rw [hc]
    obtain ⟨-, -, rfl⟩ := Option.some.inj h
    exact countCollected_counter _ _
  · rename_i hc
    rw [hc]
    obtain ⟨-, -, rfl⟩ := Option.some.inj h
    exact countCollected_counter _ _

/-- **A push on the C queue is the push on its list and its counters.** -/
theorem pushBack_meters {q : Queue α} {mq : MeteredQueue α} (h : q.Meters mq)
    (mon : MonitorCalls μ) (o : PushOutcome) (m : μ) (data : α) (dataSize : UInt32) :
    ∃ q', q.pushBack mon o m data dataSize
        = some ((mq.pushBack mon o m data dataSize).1, (mq.pushBack mon o m data dataSize).2.1, q')
      ∧ q'.Meters (mq.pushBack mon o m data dataSize).2.2 := by
  obtain ⟨q', hq, hh⟩ := pushBack_holds h.holds mon o m data dataSize
  refine ⟨q', hq, hh, ?_⟩
  rw [pushBack_counter hq, h.counter]
  rfl

end Queue

/-- Everything a push can do to the list: the item has gone in, or it has not and the result is not
`QUEUE_OK`. -/
theorem Fifo.pushBack_cases (mon : MonitorCalls μ) (o : PushOutcome) (m : μ)
    (items : List (QueueItem α)) (data : α) (dataSize : UInt32) :
    ((Fifo.pushBack mon o m items data dataSize).1 = .ok
        ∧ (Fifo.pushBack mon o m items data dataSize).2.2 = items ++ [⟨data, dataSize⟩]
        ∧ (mon.consume m (queueCalculateItemSize dataSize)).1 = .ok ∧ o.malloc = true)
      ∨ ((Fifo.pushBack mon o m items data dataSize).1 ≠ .ok
        ∧ (Fifo.pushBack mon o m items data dataSize).2.2 = items
        ∧ ¬ ((mon.consume m (queueCalculateItemSize dataSize)).1 = .ok ∧ o.malloc = true)
        ∧ ((Fifo.pushBack mon o m items data dataSize).1 = .maxMemoryExceeded
          ↔ (mon.consume m (queueCalculateItemSize dataSize)).1 = .memoryExceeded
            ∨ (mon.consume m (queueCalculateItemSize dataSize)).1 = .invalidReleaseSize)) := by
  unfold Fifo.pushBack
  generalize mon.consume m (queueCalculateItemSize dataSize) = c
  obtain ⟨consumed, m'⟩ := c
  cases consumed with
  | ok => cases o.malloc <;> simp
  | memoryExceeded | invalidReleaseSize | exception => simp

namespace SyncQueue

/-- `SyncQueue_PushBack`. When only the unlock fails, the push has happened and its result is
replaced. -/
def pushBack (lock : LockOutcome) (mon : MonitorCalls μ) (o : PushOutcome) (m : μ)
    (q : MeteredQueue α) (data : α) (dataSize : UInt32) : SyncQueueResult × μ × MeteredQueue α :=
  if lock.lock = false then (.lockException, m, q)
  else
    let (result, m', q') := q.pushBack mon o m data dataSize
    if lock.unlock = false then (.lockException, m', q') else (.queue result, m', q')

/-- The same behind the lock. A result of `QUEUE_OK` means that the item has gone in; another one
means that it has not, unless it is the unlock that failed. -/
theorem pushBack_cases (lock : LockOutcome) (mon : MonitorCalls μ) (o : PushOutcome) (m : μ)
    (q : MeteredQueue α) (data : α) (dataSize : UInt32) :
    ((pushBack lock mon o m q data dataSize).2.2.items = q.items ++ [⟨data, dataSize⟩]
        ∧ lock.lock = true ∧ (mon.consume m (queueCalculateItemSize dataSize)).1 = .ok
        ∧ o.malloc = true
        ∧ (pushBack lock mon o m q data dataSize).1
          = if lock.unlock = false then .lockException else .queue .ok)
      ∨ ((pushBack lock mon o m q data dataSize).2.2.items = q.items
        ∧ (pushBack lock mon o m q data dataSize).1 ≠ .queue .ok
        ∧ ¬ (lock.lock = true ∧ (mon.consume m (queueCalculateItemSize dataSize)).1 = .ok
          ∧ o.malloc = true)
        ∧ ((pushBack lock mon o m q data dataSize).1 = .queue .maxMemoryExceeded
          ↔ lock = .ok ∧ ((mon.consume m (queueCalculateItemSize dataSize)).1 = .memoryExceeded
            ∨ (mon.consume m (queueCalculateItemSize dataSize)).1 = .invalidReleaseSize))) := by
  obtain ⟨lock, unlock⟩ := lock
  have hcases := Fifo.pushBack_cases mon o m q.items data dataSize
  unfold pushBack MeteredQueue.pushBack
  cases lock with
  | false => exact Or.inr (by simp [LockOutcome.ok])
  | true =>
      rcases hcases with ⟨hr, hitems, hc, hm⟩ | ⟨hr, hitems, hnot, hexceeded⟩
      · left
        cases unlock <;> simp [hr, hitems, hc, hm]
      · right
        cases unlock with
        | false => simpa [hitems, LockOutcome.ok] using hnot
        | true => simpa [hitems, LockOutcome.ok, hr, hexceeded] using hnot

end SyncQueue

end SecurityAgent
