import SecurityAgent.Tasks.EventPublisherTask

/-!
# When the publisher sends

`EventPublisherTask_Execute` sends for a queue when its timer says so, and for the high
priority queue as well when the shared memory consumption exceeds the size of a message.
The latter is meant for whatever fills the memory, but a send looks at its main
queue only: with nothing in the high priority queue it makes no message.
-/

namespace SecurityAgent

namespace EventPublisherTask

variable {parse : String → Option Json} {agentId : String}

/-- The lookups of one execution succeed, with these values, and so do the locks around the
queues' sizes. -/
structure Lookups (o : ExecuteOutcome) (high low maxMessageSize consumption : UInt32) : Prop where
  high : o.highPriorityMessageFrequency = some high
  low : o.lowPriorityMessageFrequency = some low
  maxMessageSize : o.maxMessageSize = some maxMessageSize
  consumption : o.currentConsumption = some consumption
  pressureSize : o.pressureSend.sizeLock = .ok
  highSize : o.highSend.sizeLock = .ok
  lowSize : o.lowSend.sizeLock = .ok

theorem execute_eq {o : ExecuteOutcome} {high low maxMessageSize consumption : UInt32}
    (h : Lookups o high low maxMessageSize consumption) {t : EventPublisherTask} :
    execute parse agentId o t
      = executeWith parse agentId high low maxMessageSize consumption o t := by
  unfold execute
  rw [h.high, h.low, h.maxMessageSize, h.consumption]

/-- A send makes a message exactly when its main queue has an event. -/
theorem attempted_iff {o : SendOutcome} (h : o.sizeLock = .ok) (main : MainQueue)
    (q : PublisherQueues) :
    (sendEvents parse agentId o main q).1.attempted = true ↔ q.main main ≠ [] := by
  unfold sendEvents
  rw [h, SyncQueue.getSize_ok]
  cases q.main main with
  | nil => simp
  | cons e es =>
      refine ⟨fun _ => by simp, fun _ => ?_⟩
      dsimp only [List.length_cons]
      split_ifs
      · rfl
      · cases (MessageSerializer.createSecurityMessage parse agentId o.message (q.order main)).2.1
          <;> rfl
      · cases (MessageSerializer.createSecurityMessage parse agentId o.message (q.order main)).2.1
          <;> rfl

/-- With an empty main queue nothing happens to the queues. -/
theorem sendEvents_main_empty {o : SendOutcome} (h : o.sizeLock = .ok) (main : MainQueue)
    {q : PublisherQueues} (hq : q.main main = []) :
    sendEvents parse agentId o main q = (⟨true, false, none⟩, q) := by
  unfold sendEvents
  rw [h, SyncQueue.getSize_ok, hq]
  rfl

/-- An elapsed time of nothing exceeds no interval. -/
theorem getTimeDiff_self (time : Int) : (TimeUtils.getTimeDiff time time).toUInt32 = 0 := by
  have h := TimeUtils.toNat_getTimeDiff time 0
  rw [Nat.cast_zero, add_zero] at h
  exact UInt32.toNat_inj.mp h

/-- **Memory pressure makes a message** exactly when the high priority queue has an event, or the
low priority queue has one and its own timer has expired. -/
theorem memory_pressure_attempts_iff (parse : String → Option Json) (agentId : String)
    (o : ExecuteOutcome) (t : EventPublisherTask) {high low maxMessageSize consumption : UInt32}
    (hlookups : Lookups o high low maxMessageSize consumption)
    (hpressure : maxMessageSize < consumption) :
    (∃ call ∈ (execute parse agentId o t).1, call.2.attempted = true)
      ↔ t.queues.highPriorityEventQueue ≠ []
        ∨ t.queues.lowPriorityEventQueue ≠ [] ∧ low <
          (TimeUtils.getTimeDiff o.currentTime t.lowPriorityQueueLastExecution).toUInt32 := by
  rw [execute_eq hlookups]
  unfold executeWith
  rw [show decide (consumption > maxMessageSize) = true from decide_eq_true hpressure]
  by_cases hhigh : t.queues.highPriorityEventQueue = []
  · -- the send for the high priority queue does nothing but restart its timer
    have hfirst : sendIf parse agentId true o.pressureSend .high o.currentTime t
        = ([(.high, ⟨true, false, none⟩)], t.setLastExecution o.currentTime .high) := by
      unfold sendIf
      rw [if_pos rfl, sendEvents_main_empty hlookups.pressureSize .high hhigh]
    have hsecond : sendIf parse agentId ((TimeUtils.getTimeDiff o.currentTime
          (t.setLastExecution o.currentTime .high).highPriorityQueueLastExecution).toUInt32 > high)
        o.highSend .high o.currentTime (t.setLastExecution o.currentTime .high)
        = ([], t.setLastExecution o.currentTime .high) := by
      unfold sendIf setLastExecution
      rw [getTimeDiff_self, if_neg (by simp)]
    rw [hfirst]
    dsimp only
    rw [hsecond]
    dsimp only
    unfold sendIf
    by_cases hdue : (TimeUtils.getTimeDiff o.currentTime
        (t.setLastExecution o.currentTime .high).lowPriorityQueueLastExecution).toUInt32 > low
    · rw [if_pos (decide_eq_true hdue)]
      simp only [List.append_nil, List.cons_append, List.nil_append, List.mem_cons,
        List.not_mem_nil, or_false, exists_eq_or_imp, exists_eq_left, Bool.false_eq_true,
        false_or, attempted_iff hlookups.lowSize]
      constructor
      · exact fun h => Or.inr ⟨h, hdue⟩
      · rintro (h | ⟨h, -⟩)
        · exact absurd hhigh h
        · exact h
    · rw [if_neg (by simpa using hdue)]
      simp only [List.append_nil, List.mem_cons, List.not_mem_nil, or_false, exists_eq_left,
        Bool.false_eq_true, false_iff]
      rintro (h | ⟨-, h⟩)
      · exact h hhigh
      · exact hdue h
  · refine ⟨fun _ => Or.inl hhigh, fun _ => ?_⟩
    refine ⟨(.high, (sendEvents parse agentId o.pressureSend .high t.queues).1), ?_,
      (attempted_iff hlookups.pressureSize .high t.queues).mpr hhigh⟩
    exact List.mem_append_left _ (List.mem_append_left _ List.mem_cons_self)

/-- Everything is looked up, nothing fails, and no time has passed. -/
def quietOutcome (maxMessageSize consumption : UInt32) : ExecuteOutcome :=
  ⟨some 1000, some 1000, some maxMessageSize, some consumption, 0, .ok maxMessageSize,
    .ok maxMessageSize, .ok maxMessageSize⟩

theorem lookups_quietOutcome (maxMessageSize consumption : UInt32) :
    Lookups (quietOutcome maxMessageSize consumption) 1000 1000 maxMessageSize consumption :=
  ⟨rfl, rfl, rfl, rfl, rfl, rfl, rfl⟩

theorem memory_pressure_attempts_iff_high :
    (∃ call ∈ (execute (fun _ => none) "agent" (quietOutcome 10 42)
        ⟨⟨[], [⟨"\x7b\x7d", 2⟩], []⟩, 0, 0⟩).1, call.2.attempted = true)
      ↔ ([⟨"\x7b\x7d", 2⟩] : List Event) ≠ []
        ∨ ([] : List Event) ≠ [] ∧ 1000 < (TimeUtils.getTimeDiff 0 0).toUInt32 :=
  memory_pressure_attempts_iff (fun _ => none) "agent" (quietOutcome 10 42)
    ⟨⟨[], [⟨"\x7b\x7d", 2⟩], []⟩, 0, 0⟩ (lookups_quietOutcome 10 42) (by decide)

/-- The memory is full of low priority events, and no message is made. -/
theorem pressure_without_high_events :
    ¬ ∀ (parse : String → Option Json) (agentId : String) (o : ExecuteOutcome)
      (t : EventPublisherTask) (high low maxMessageSize consumption : UInt32),
      Lookups o high low maxMessageSize consumption → maxMessageSize < consumption →
        (t.queues.operationalEventsQueue ≠ [] ∨ t.queues.highPriorityEventQueue ≠ []
          ∨ t.queues.lowPriorityEventQueue ≠ []) →
        ∃ call ∈ (execute parse agentId o t).1, call.2.attempted = true := by
  intro h
  have hattempt := h (fun _ => none) "agent" (quietOutcome 10 42)
    ⟨⟨[], [], [⟨"\x7b\x7d", 2⟩]⟩, 0, 0⟩ 1000 1000 10 42 (lookups_quietOutcome 10 42) (by decide)
    (by decide)
  exact absurd hattempt (by decide +kernel)

end EventPublisherTask

end SecurityAgent
