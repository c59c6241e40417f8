import SecurityAgent.Storage.Accounting
import SecurityAgent.Storage.MeteredQueue

/-!
# Collected less dropped

Every push is counted as collected, and one the monitor refuses for want of
cache as dropped too. So the difference of the two counters is the number of
pushes that went in, unless one stays out for another reason: the monitor answers
with an exception, or there is no memory for the queue's own block. Such a push
counts as collected only.
-/

namespace SecurityAgent

open Machine

variable {α μ : Type}

/-- A queue being pushed to, with the number of pushes that returned `QUEUE_OK`. -/
structure Metering (α μ : Type) where
  monitor : μ
  queue : Queue α
  accepted : Nat

/-- One call of `Queue_PushBack`, with what its environment answers. -/
structure Push (α μ : Type) where
  mon : MonitorCalls μ
  o : PushOutcome
  data : α
  dataSize : UInt32

namespace Metering

/-- A fresh queue. -/
def init (m : μ) : Metering α μ := ⟨m, .init, 0⟩

/-- One push. -/
def step (s : Metering α μ) (p : Push α μ) : Option (QueueResult × Metering α μ) :=
  (s.queue.pushBack p.mon p.o s.monitor p.data p.dataSize).map fun (r, m', q') =>
    (r, ⟨m', q', if r = .ok then s.accepted + 1 else s.accepted⟩)

/-- What the monitor answers to a push. -/
def consumed (s : Metering α μ) (p : Push α μ) : MemoryMonitorResult :=
  (p.mon.consume s.monitor (queueCalculateItemSize p.dataSize)).1

/-- Collected less dropped is accepted. -/
def Balanced (s : Metering α μ) : Prop :=
  s.queue.counter.collected.toNat = s.queue.counter.dropped.toNat + s.accepted

/-- Neither counter is about to wrap. -/
def CountersFit (s : Metering α μ) (_ : Push α μ) : Prop :=
  s.queue.counter.collected.toNat + 1 < UInt32.size
    ∧ s.queue.counter.dropped.toNat + 1 < UInt32.size

instance (s : Metering α μ) (p : Push α μ) : Decidable (CountersFit s p) :=
  inferInstanceAs (Decidable (_ ∧ _))

/-- The push is counted for what becomes of it: both counters or neither when it is refused for its
size, the collected one alone exactly when it goes in. -/
def Counted (s : Metering α μ) (p : Push α μ) : Prop :=
  match s.consumed p with
  | .ok => p.o.collectedLock = p.o.malloc
  | .memoryExceeded => p.o.collectedLock = p.o.droppedLock
  | .exception | .invalidReleaseSize => p.o.collectedLock = false

/-- The counters are balanced and the queue is sound. -/
structure Sound (s : Metering α μ) : Prop where
  balanced : s.Balanced
  holds : ∃ items, s.queue.Holds items

theorem toNat_succ {c : UInt32} (h : c.toNat + 1 < UInt32.size) : (c + 1).toNat = c.toNat + 1 := by
  rw [UInt32.toNat_add]
  exact Nat.mod_eq_of_lt h

theorem pushBack_accepts (mon : MonitorCalls μ) (o : PushOutcome) (m : μ)
    (items : List (QueueItem α)) (data : α) (dataSize : UInt32) :
    (Fifo.pushBack mon o m items data dataSize).1 = .ok
      ↔ (mon.consume m (queueCalculateItemSize dataSize)).1 = .ok ∧ o.malloc = true := by
  rcases Fifo.pushBack_cases mon o m items data dataSize with ⟨hr, -, hacc⟩ | ⟨hr, -, hnot, -⟩
  · exact ⟨fun _ => hacc, fun _ => hr⟩
  · exact ⟨fun h => absurd h hr, fun h => absurd h hnot⟩

/-- What one push does to the three numbers. -/
theorem step_counts {s : Metering α μ} (h : ∃ items, s.queue.Holds items) (p : Push α μ)
    (hfit : CountersFit s p) :
    ∃ r s', step s p = some (r, s') ∧ (∃ items, s'.queue.Holds items)
      ∧ s'.queue.counter.collected.toNat
        = s.queue.counter.collected.toNat + p.o.collectedLock.toNat
      ∧ s'.queue.counter.dropped.toNat = s.queue.counter.dropped.toNat
        + (decide (s.consumed p = .memoryExceeded) && p.o.droppedLock).toNat
      ∧ s'.accepted = s.accepted + (decide (s.consumed p = .ok) && p.o.malloc).toNat := by
  obtain ⟨items, hh⟩ := h
  obtain ⟨q', hq, hh'⟩ := Queue.pushBack_holds hh p.mon p.o s.monitor p.data p.dataSize
  have hcounter := Queue.pushBack_counter hq
  have hok := pushBack_accepts p.mon p.o s.monitor items p.data p.dataSize
  refine ⟨_, _, by rw [step, hq]; rfl, ⟨_, hh'⟩, ?_, ?_, ?_⟩
  · show q'.counter.collected.toNat = _
    rw [hcounter, QueueCounter.push]
    have hlt := hfit.1
    cases p.o.collectedLock with
    | false => rfl
    | true => exact toNat_succ hlt
  · show q'.counter.dropped.toNat = _
    rw [hcounter, QueueCounter.push, consumed]
    have hlt := hfit.2
    by_cases hd : (p.mon.consume s.monitor (queueCalculateItemSize p.dataSize)).1
        = .memoryExceeded
    · cases hl : p.o.droppedLock with
      | false => simp
      | true => simpa [hd] using toNat_succ hlt
    · simp [hd]
  · dsimp only
    by_cases hacc : (Fifo.pushBack p.mon p.o s.monitor items p.data p.dataSize).1 = .ok
    · obtain ⟨hc, hm⟩ := hok.mp hacc
      simp [hacc, consumed, hc, hm]
    · rw [if_neg hacc]
      have hn := fun hc => hacc (hok.mpr hc)
      cases hm : p.o.malloc with
      | false => simp
      | true =>
          have hne : s.consumed p ≠ .ok := fun hc => hn ⟨hc, hm⟩
          simp [hne]

/-- A push keeps the balance exactly when it is counted for what becomes of it. -/
theorem balanced_step {s s' : Metering α μ} {p : Push α μ} (h : s.Balanced)
    (hcollected : s'.queue.counter.collected.toNat
      = s.queue.counter.collected.toNat + p.o.collectedLock.toNat)
    (hdropped : s'.queue.counter.dropped.toNat = s.queue.counter.dropped.toNat
      + (decide (s.consumed p = .memoryExceeded) && p.o.droppedLock).toNat)
    (haccepted : s'.accepted = s.accepted + (decide (s.consumed p = .ok) && p.o.malloc).toNat) :
    s'.Balanced ↔ Counted s p := by
  unfold Balanced at h ⊢
  rw [hcollected, hdropped, haccepted]
  unfold Counted
  cases s.consumed p with
  | ok => cases p.o.collectedLock <;> cases p.o.malloc <;> simp <;> omega
  | memoryExceeded => cases p.o.collectedLock <;> cases p.o.droppedLock <;> simp <;> omega
  | invalidReleaseSize => cases p.o.collectedLock <;> simp <;> omega
  | exception => cases p.o.collectedLock <;> simp <;> omega

/--
**Collected less dropped is accepted, exactly while every push is counted for what becomes of it.**
-/
theorem accepted_counted_iff (m : μ) (pushes : List (Push α μ))
    (hfit : Along step CountersFit (init m) pushes) :
    Throughout step Balanced (init m) pushes ↔ Along step Counted (init m) pushes := by
  refine throughout_iff_along_within (I := Sound) (D := CountersFit) (fun _ h => h.balanced) ?_ ?_
    ⟨rfl, [], Queue.holds_init⟩ hfit
  · intro s p r s' h hfit hC hs
    obtain ⟨r₁, s₁, hs₁, hh, hcollected, hdropped, haccepted⟩ := step_counts h.holds p hfit
    obtain ⟨-, rfl⟩ := Prod.mk.inj (Option.some.inj (hs₁.symm.trans hs))
    exact ⟨(balanced_step h.balanced hcollected hdropped haccepted).mpr hC, hh⟩
  · intro s p h hfit hC
    obtain ⟨r, s', hs, -, hcollected, hdropped, haccepted⟩ := step_counts h.holds p hfit
    exact ⟨r, s', hs, fun hb =>
      hC ((balanced_step h.balanced hcollected hdropped haccepted).mp hb)⟩

/-- A push of three bytes under a limit of a hundred. -/
def smallPush (o : PushOutcome) : Push Unit MemoryMonitor :=
  ⟨.real .ok .ok (some 100), o, (), 3⟩

theorem accepted_counted_iff_accepted_then_dropped :
    Throughout step Balanced (init .init)
        [smallPush ⟨true, true, true⟩, smallPush ⟨true, true, true⟩, smallPush ⟨true, true, true⟩]
      ↔ Along step Counted (init .init)
        [smallPush ⟨true, true, true⟩, smallPush ⟨true, true, true⟩,
          smallPush ⟨true, true, true⟩] :=
  accepted_counted_iff _ _
    ⟨by decide, fun _ _ h => by
      obtain ⟨-, rfl⟩ := Prod.mk.inj (Option.some.inj h)
      refine ⟨by decide, fun _ _ h => ?_⟩
      obtain ⟨-, rfl⟩ := Prod.mk.inj (Option.some.inj h)
      exact ⟨by decide, fun _ _ _ => trivial⟩⟩

/-- **A push that finds no memory for its block is collected and not dropped.** -/
theorem failed_push_not_dropped :
    ¬ Throughout step Balanced (init .init) [smallPush ⟨false, true, true⟩] := by
  rintro ⟨-, h⟩
  exact absurd (h _ _ rfl) (by unfold Throughout Balanced; decide)

end Metering

end SecurityAgent
