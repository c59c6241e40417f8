import SecurityAgent.Collectors.EventAggregator
import SecurityAgent.Tasks.EventMonitorTask
import SecurityAgent.Tasks.Execution

/-!
# When timers fire

All timers compare an elapsed time that never exceeds `2 ^ 31` milliseconds, about 25 days, with
an interval that can be twice as long. So a timer of the publisher or the aggregator,
which waits for *more* than its interval, never fires if that is `2 ^ 31` or more, and
one of the monitor, which waits for as much, never fires if it is more than `2 ^ 31`.
Otherwise they fire on time (`timers_on_time_iff`).
-/

namespace SecurityAgent

/-- Milliseconds that have really passed. -/
def elapsedMilliseconds (currentTime lastExecution : Int) : Int :=
  (currentTime - lastExecution) * 1000

section Comparisons

variable {currentTime lastExecution : Int} {interval : UInt32}

theorem toNat_timeDiff (h : lastExecution ≤ currentTime) :
    ((TimeUtils.getTimeDiff currentTime lastExecution).toUInt32.toNat : Int)
      = min (elapsedMilliseconds currentTime lastExecution) 2147483648 := by
  obtain ⟨elapsed, rfl⟩ := Int.le.dest h
  rw [TimeUtils.toNat_getTimeDiff]
  unfold elapsedMilliseconds
  omega

/-- A comparison that asks for more is exact unless the interval is too long to be exceeded. -/
theorem exceeds_exact_iff (h : lastExecution ≤ currentTime) :
    ((TimeUtils.getTimeDiff currentTime lastExecution).toUInt32 > interval
        ↔ elapsedMilliseconds currentTime lastExecution > interval.toNat)
      ↔ interval.toNat < 2 ^ 31
        ∨ elapsedMilliseconds currentTime lastExecution ≤ interval.toNat := by
  have hdiff := toNat_timeDiff h
  rw [gt_iff_lt, UInt32.lt_iff_toNat_lt]
  omega

/-- One that asks for as much is exact unless the interval is too long to be reached. -/
theorem reaches_exact_iff (h : lastExecution ≤ currentTime) :
    ((TimeUtils.getTimeDiff currentTime lastExecution).toUInt32 ≥ interval
        ↔ elapsedMilliseconds currentTime lastExecution ≥ interval.toNat)
      ↔ interval.toNat ≤ 2 ^ 31
        ∨ elapsedMilliseconds currentTime lastExecution < interval.toNat := by
  have hdiff := toNat_timeDiff h
  rw [ge_iff_le, UInt32.le_iff_toNat_le]
  omega

end Comparisons

/-! ## The publisher -/

namespace EventPublisherTask

variable {parse : String → Option Json} {agentId : String}

theorem mem_sendIf {condition : Bool} {o : SendOutcome} {main main' : MainQueue}
    {currentTime : Int} {t : EventPublisherTask} :
    (∃ call ∈ (sendIf parse agentId condition o main currentTime t).1, call.1 = main')
      ↔ condition = true ∧ main = main' := by
  unfold sendIf
  cases condition with
  | false => simp
  | true => simp

/-- Without memory pressure a send is made for a queue exactly when its timer says so. -/
theorem sends_iff {o : ExecuteOutcome} {t : EventPublisherTask}
    {high low maxMessageSize consumption : UInt32}
    (hlookups : Lookups o high low maxMessageSize consumption)
    (hpressure : consumption ≤ maxMessageSize) :
    ((∃ call ∈ (execute parse agentId o t).1, call.1 = .high)
        ↔ (TimeUtils.getTimeDiff o.currentTime t.highPriorityQueueLastExecution).toUInt32 > high)
      ∧ ((∃ call ∈ (execute parse agentId o t).1, call.1 = .low)
        ↔ (TimeUtils.getTimeDiff o.currentTime t.lowPriorityQueueLastExecution).toUInt32
          > low) := by
  have hfirst : sendIf parse agentId (consumption > maxMessageSize) o.pressureSend .high
      o.currentTime t = ([], t) := by
    unfold sendIf
    rw [if_neg (by simpa using hpressure)]
  rw [execute_eq hlookups]
  unfold executeWith
  rw [hfirst]
  dsimp only
  simp only [List.nil_append, List.mem_append, or_and_right, exists_or, mem_sendIf, decide_eq_true_eq,
    reduceCtorEq, and_true, and_false, or_false, false_or, and_self]

end EventPublisherTask

namespace EventMonitorTask

/-- A round is run exactly when its timer says so. -/
theorem runs_iff {o : MonitorOutcome} {t : EventMonitorTask} {frequency : UInt32}
    (h : o.snapshotFrequency = some frequency) :
    ((execute o t).1.isSome = true
        ↔ (TimeUtils.getTimeDiff o.currentTime t.lastPeriodicExecution).toUInt32 ≥ frequency)
      ∧ ((execute o t).2.1.isSome = true
        ↔ (TimeUtils.getTimeDiff o.currentTime t.lastTriggeredExecution).toUInt32
          ≥ o.triggeredEventInterval) := by
  unfold execute intervalReached
  rw [h]
  dsimp only
  simp only [decide_eq_true_eq]
  by_cases hperiodic : (TimeUtils.getTimeDiff o.currentTime t.lastPeriodicExecution).toUInt32
      ≥ frequency
  · rw [if_pos hperiodic]
    dsimp only
    split <;> simp_all
  · rw [if_neg hperiodic]
    dsimp only
    split <;> simp_all

end EventMonitorTask

namespace EventAggregator

/-- With aggregation enabled events are made exactly when the timer says so. -/
theorem emits_iff {clock : Clock} {o : EmissionOutcome} {a : EventAggregator} {interval : UInt32}
    (henabled : o.isEnabled = some true) (hinterval : o.aggregationInterval = some interval) :
    (getAggregatedEvents clock o a).2.2.1 = true
      ↔ (TimeUtils.getTimeDiff o.now a.lastAggregationTime).toUInt32 > interval := by
  have hemits : Emits o a
      ↔ (TimeUtils.getTimeDiff o.now a.lastAggregationTime).toUInt32 > interval := by
    unfold Emits isIntervalPassed
    simp [henabled, hinterval]
  rw [← hemits]
  by_cases h : Emits o a
  · rw [getAggregatedEvents_emits h]
    exact ⟨fun _ => h, fun _ => rfl⟩
  · obtain ⟨r, hr⟩ := getAggregatedEvents_keeps h
    rw [hr]
    exact ⟨fun h' => absurd h' (by simp), fun h' => absurd h' h⟩

end EventAggregator

/-! ## All of them -/

/-- **Timers fire on time** exactly when their intervals are short enough, or have not passed. -/
theorem timers_on_time_iff (parse : String → Option Json) (agentId : String) (clock : Clock) :
    (∀ (o : ExecuteOutcome) (t : EventPublisherTask) (high low maxMessageSize consumption : UInt32),
        EventPublisherTask.Lookups o high low maxMessageSize consumption →
        consumption ≤ maxMessageSize → t.highPriorityQueueLastExecution ≤ o.currentTime →
        t.lowPriorityQueueLastExecution ≤ o.currentTime →
        (((∃ call ∈ (EventPublisherTask.execute parse agentId o t).1, call.1 = .high)
            ↔ elapsedMilliseconds o.currentTime t.highPriorityQueueLastExecution > high.toNat)
          ↔ high.toNat < 2 ^ 31
            ∨ elapsedMilliseconds o.currentTime t.highPriorityQueueLastExecution ≤ high.toNat)
        ∧ (((∃ call ∈ (EventPublisherTask.execute parse agentId o t).1, call.1 = .low)
            ↔ elapsedMilliseconds o.currentTime t.lowPriorityQueueLastExecution > low.toNat)
          ↔ low.toNat < 2 ^ 31
            ∨ elapsedMilliseconds o.currentTime t.lowPriorityQueueLastExecution ≤ low.toNat))
    ∧ (∀ (o : MonitorOutcome) (t : EventMonitorTask) (frequency : UInt32),
        o.snapshotFrequency = some frequency → t.lastPeriodicExecution ≤ o.currentTime →
        t.lastTriggeredExecution ≤ o.currentTime →
        (((EventMonitorTask.execute o t).1.isSome = true
            ↔ elapsedMilliseconds o.currentTime t.lastPeriodicExecution ≥ frequency.toNat)
          ↔ frequency.toNat ≤ 2 ^ 31
            ∨ elapsedMilliseconds o.currentTime t.lastPeriodicExecution < frequency.toNat)
        ∧ (((EventMonitorTask.execute o t).2.1.isSome = true
            ↔ elapsedMilliseconds o.currentTime t.lastTriggeredExecution
              ≥ o.triggeredEventInterval.toNat)
          ↔ o.triggeredEventInterval.toNat ≤ 2 ^ 31
            ∨ elapsedMilliseconds o.currentTime t.lastTriggeredExecution
              < o.triggeredEventInterval.toNat))
    ∧ (∀ (o : EmissionOutcome) (a : EventAggregator) (interval : UInt32),
        o.isEnabled = some true → o.aggregationInterval = some interval →
        a.lastAggregationTime ≤ o.now →
        (((EventAggregator.getAggregatedEvents clock o a).2.2.1 = true
            ↔ elapsedMilliseconds o.now a.lastAggregationTime > interval.toNat)
          ↔ interval.toNat < 2 ^ 31
            ∨ elapsedMilliseconds o.now a.lastAggregationTime ≤ interval.toNat)) := by
  refine ⟨?_, ?_, ?_⟩
  · intro o t high low maxMessageSize consumption hlookups hpressure hhigh hlow
    obtain ⟨hsendsHigh, hsendsLow⟩ :=
      EventPublisherTask.sends_iff (t := t) hlookups hpressure
    rw [hsendsHigh, hsendsLow]
    exact ⟨exceeds_exact_iff hhigh, exceeds_exact_iff hlow⟩
  · intro o t frequency hfrequency hperiodic htriggered
    obtain ⟨hrunsPeriodic, hrunsTriggered⟩ := EventMonitorTask.runs_iff (t := t) hfrequency
    rw [hrunsPeriodic, hrunsTriggered]
    exact ⟨reaches_exact_iff hperiodic, reaches_exact_iff htriggered⟩
  · intro o a interval henabled hinterval hlast
    rw [EventAggregator.emits_iff henabled hinterval]
    exact exceeds_exact_iff hlast

/-- The first rounds, with a snapshot frequency of 30 days. -/
def thirtyDays : MonitorOutcome := ⟨some 2592000000, 1700000000, 1000, fun _ => some .high⟩

theorem timers_on_time_iff_thirty_days :
    (((EventMonitorTask.execute thirtyDays .init).1.isSome = true
        ↔ elapsedMilliseconds 1700000000 0 ≥ (2592000000 : UInt32).toNat)
      ↔ (2592000000 : UInt32).toNat ≤ 2 ^ 31
        ∨ elapsedMilliseconds 1700000000 0 < (2592000000 : UInt32).toNat)
    ∧ (((EventMonitorTask.execute thirtyDays .init).2.1.isSome = true
        ↔ elapsedMilliseconds 1700000000 0 ≥ (1000 : UInt32).toNat)
      ↔ (1000 : UInt32).toNat ≤ 2 ^ 31
        ∨ elapsedMilliseconds 1700000000 0 < (1000 : UInt32).toNat) :=
  (timers_on_time_iff (fun _ => none) "" ⟨fun _ => none, fun _ => none⟩).2.1 thirtyDays .init
    2592000000 rfl (by decide) (by decide)

/-- The first round of the periodic collectors, more than fifty years after the time 0 they last ran
at by the task's account, is not run. -/
theorem first_round_not_run :
    ¬ ∀ (o : MonitorOutcome) (t : EventMonitorTask) (frequency : UInt32),
      o.snapshotFrequency = some frequency → t.lastPeriodicExecution ≤ o.currentTime →
        ((EventMonitorTask.execute o t).1.isSome = true
          ↔ elapsedMilliseconds o.currentTime t.lastPeriodicExecution ≥ frequency.toNat) := by
  intro h
  have hfires := (h thirtyDays .init 2592000000 rfl (by decide)).mpr (by decide)
  exact absurd hfires (by decide +kernel)

end SecurityAgent
