import SecurityAgent.Collectors.HitConservation

/-!
# What becomes of the items of an emission

An emission goes through all items and then drops them all. An item whose event could not
be built or did not get into the queue is dropped like the others, and its hits
with it. What holds is an exact account: the events in the queue are those of the items
for which every step succeeded, in their order, each with its item's full
hit count (`getAggregatedEvents_accounts`).
-/

namespace SecurityAgent

namespace EventAggregator

variable {clock : Clock} {a : EventAggregator}

/-- The event an emission leaves in the queue for one item: every step of its building succeeds,
and so does the push. -/
def pushedEvent (clock : Clock) (o : EmitOutcome) (a : EventAggregator) (item : AggregatedEventItem)
    (aggregationEndTime : Int) : Option Json :=
  if o.push = .queue .ok then aggregatedEvent clock o a item aggregationEndTime else none

/-- An item is dropped on purpose: its event was built, and the cache was full. -/
def Exceeds (clock : Clock) (o : EmitOutcome) (a : EventAggregator) (item : AggregatedEventItem)
    (aggregationEndTime : Int) : Prop :=
  (aggregatedEvent clock o a item aggregationEndTime).isSome = true
    ∧ o.push = .queue .maxMemoryExceeded

theorem createSingleAggregatedEvent_spec (o : EmitOutcome) (item : AggregatedEventItem)
    (aggregationEndTime : Int) :
    (createSingleAggregatedEvent clock o a item aggregationEndTime).2
        = pushedEvent clock o a item aggregationEndTime
      ∧ ((createSingleAggregatedEvent clock o a item aggregationEndTime).1 = .ok
        ↔ (pushedEvent clock o a item aggregationEndTime).isSome = true
          ∨ Exceeds clock o a item aggregationEndTime) := by
  unfold createSingleAggregatedEvent pushedEvent Exceeds
  cases aggregatedEvent clock o a item aggregationEndTime with
  | none => simp
  | some output =>
      dsimp only
      split <;> simp_all

/-- The events some items leave in the queue, the first of them being the `i`-th. -/
def pushedEvents (clock : Clock) (o : Nat → EmitOutcome) (a : EventAggregator)
    (aggregationEndTime : Int) (i : Nat) (items : List AggregatedEventItem) :
    List (AggregatedEventItem × Json) :=
  (items.zipIdx i).filterMap fun x =>
    (pushedEvent clock (o x.2) a x.1 aggregationEndTime).map (x.1, ·)

theorem createEvents_eq (o : Nat → EmitOutcome) (aggregationEndTime : Int) :
    ∀ (items : List AggregatedEventItem) (i : Nat),
      (createEvents clock o a aggregationEndTime i items).2
          = pushedEvents clock o a aggregationEndTime i items
        ∧ ((createEvents clock o a aggregationEndTime i items).1 = .ok
          ↔ ∀ x ∈ items.zipIdx i,
            (pushedEvent clock (o x.2) a x.1 aggregationEndTime).isSome = true
              ∨ Exceeds clock (o x.2) a x.1 aggregationEndTime) := by
  intro items
  induction items with
  | nil => exact fun i => ⟨rfl, by simp [createEvents]⟩
  | cons item items ih =>
      intro i
      obtain ⟨hevents, hok⟩ := ih (i + 1)
      obtain ⟨hevent, hitem⟩ := createSingleAggregatedEvent_spec (a := a) (o i)
        item aggregationEndTime
      unfold createEvents
      dsimp only
      rw [hevents, hevent]
      refine ⟨?_, ?_⟩
      · unfold pushedEvents
        rw [List.zipIdx_cons, List.filterMap_cons]
        cases pushedEvent clock (o i) a item aggregationEndTime <;> rfl
      · rw [List.zipIdx_cons, List.forall_mem_cons, ← hok, ← hitem]
        by_cases h : (createSingleAggregatedEvent clock (o i) a item aggregationEndTime).1 = .ok
        · simp [h]
        · simp [h]

end EventAggregator

end SecurityAgent
