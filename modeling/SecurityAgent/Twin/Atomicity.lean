import SecurityAgent.Twin.Commit

/-!
# When an update is atomic

An update that fails should leave the effective configuration as it was, and a
module that can be used again. The code stages its settings for that, and three
things stand in the way: the operational priority is normalised before the last
four settings are read, the collectors' settings are committed before the twin's
own strings are copied, and a lock that is not given back stays taken.

So an update is atomic in exactly the cases in which none of the three happens
(`update_atomic_iff`).
-/

namespace SecurityAgent

open Reference

namespace TwinModule

/-- The effective configuration of `s` is still there in `s'`, which is usable. -/
structure Intact (s s' : TwinModule) : Prop where
  configuration : s'.configuration = s.configuration
  eventPriorities : s'.collectors.eventPriorities = s.collectors.eventPriorities
  usable : s'.Usable

/-- The update happened, and if it failed it changed nothing. -/
def Atomic (s : TwinModule) : Option (TwinConfigurationResult × TwinModule) → Prop
  | none => False
  | some (result, s') => result ≠ .ok → Intact s s'

/-- Nothing has been changed by the time an update from `object` can still fail. -/
def CommitsSafely (o : UpdateOutcome) (object : Json.Members) (s : TwinModule) : Prop :=
  ConfigurationDecodes object → o.locks.lock = true → o.locks.unlock = true
    ∧ (o.collectorsLocks.lock = true → o.collectorsLocks.unlock = true
      ∧ (PrioritiesDecode object →
          if AggregationDecodes object then Copies o (Reference.configuration object)
          else s.collectors.eventPriorities.operational = .operational
            ∨ s.collectors.eventPriorities.operational = .off))

/-- The same of a whole update: the object `{}` that stands in for a missing one is there, and
what is read commits safely. -/
def AtomicWhen (objectName : String) (o : UpdateOutcome) (parsed : Option Json)
    (complete : Bool) (s : TwinModule) : Prop :=
  match objectRead objectName o parsed complete with
  | some object => CommitsSafely o object s
  | none => o.reader = true → located objectName complete parsed = .missing →
      o.emptyReader = true

theorem normalised_eq_self_iff (p : EventPriorities) :
    EventCollectors.normalised p = p ↔ p.operational = .operational ∨ p.operational = .off := by
  obtain ⟨_, _, _, _, _, _, _, _, _, priority, _, _, _, _⟩ := p
  cases priority <;> simp [EventCollectors.normalised]

section Finish

variable {o : UpdateOutcome} {b : TwinConfigurationBundleStatus} {c : TwinConfiguration}
  {s₀ s : TwinModule}

theorem finish_ok_atomic_iff (hs : s.lock = .held) :
    Atomic s₀ (some (finish o b c s .ok)) ↔ o.locks.unlock = true ∧ Copies o c := by
  by_cases hc : Copies o c
  · rw [finish_ok hs hc]
    cases hu : o.locks.unlock with
    | false =>
        refine ⟨fun h => ?_, fun h => absurd h.1 (by simp)⟩
        have hlock := (h (by simp)).usable.lock
        simp [settled, hu] at hlock
    | true => exact ⟨fun _ => ⟨rfl, hc⟩, fun _ h => absurd rfl h⟩
  · obtain ⟨r, s', hf, hr, hlock, -⟩ := finish_uncopied (b := b) hs hc
    rw [hf]
    exact ⟨fun h => absurd (h hr).usable.lock hlock, fun h => absurd h.2 hc⟩

theorem finish_failed_atomic_iff (hs : s.lock = .held) {r : TwinConfigurationResult}
    (hr : r ≠ .ok) (hm : r ≠ .memoryException) :
    Atomic s₀ (some (finish o b c s r)) ↔ o.locks.unlock = true
      ∧ s.configuration = s₀.configuration
      ∧ s.collectors.eventPriorities = s₀.collectors.eventPriorities ∧ s.collectors.Free := by
  obtain ⟨b', hf⟩ := finish_failed (o := o) (b := b) (c := c) hs hr hm
  rw [hf]
  cases hu : o.locks.unlock with
  | false =>
      refine ⟨fun h => ?_, fun h => absurd h.1 (by simp)⟩
      have hlock := (h (by simp)).usable.lock
      simp [settled, hu] at hlock
  | true =>
      refine ⟨fun h => ?_, fun h _ => ?_⟩
      · obtain ⟨hconf, hprio, -, hfree⟩ := h hr
        exact ⟨rfl, hconf, hprio, hfree⟩
      · obtain ⟨-, hconf, hprio, hfree⟩ := h
        exact ⟨hconf, hprio, by simp [settled, hu], hfree⟩

end Finish

theorem updateFrom_atomic_iff {o : UpdateOutcome} {s : TwinModule} (hs : s.Usable)
    (reader : JsonObjectReader) :
    Atomic s (updateFrom o reader s) ↔ CommitsSafely o reader.rootObject s := by
  obtain ⟨hlock, hcollectors⟩ := hs
  unfold CommitsSafely
  by_cases hc : ConfigurationDecodes reader.rootObject
  swap
  · -- nothing was touched
    rw [updateFrom_undecoded hc]
    exact ⟨fun _ h => absurd h hc, fun _ _ => ⟨rfl, rfl, hlock, hcollectors⟩⟩
  cases hl : o.locks.lock with
  | false =>
      have hrefused : s.lock.lock o.locks.lock = some (false, .free) := by rw [hlock, hl]; rfl
      rw [updateFrom_refused hc hrefused]
      exact ⟨fun _ _ h => absurd h (by decide), fun _ _ => ⟨rfl, rfl, rfl, hcollectors⟩⟩
  | true =>
      rw [updateFrom_taken hc hlock hl, EventCollectors.update_free hcollectors]
      have hgoal : ∀ {p q : Prop}, (p ↔ q) → (p ↔ (ConfigurationDecodes reader.rootObject →
          true = true → q)) := fun h => ⟨fun hp _ _ => h.mp hp, fun hq => h.mpr (hq hc rfl)⟩
      apply hgoal
      cases hcl : o.collectorsLocks.lock with
      | false =>
          show Atomic s (some (finish _ _ _ _ .lockException)) ↔ _
          refine (finish_failed_atomic_iff rfl (by decide) (by decide)).trans
            (and_congr_right fun _ => ?_)
          exact ⟨fun _ h => absurd h (by decide), fun _ => ⟨rfl, rfl, hcollectors⟩⟩
      | true =>
          cases hcu : o.collectorsLocks.unlock with
          | false =>
              -- the collectors' lock stays taken
              show Atomic s (some (finish _ _ _ _ .lockException)) ↔ _
              refine (finish_failed_atomic_iff rfl (by decide) (by decide)).trans
                (and_congr_right fun _ => ?_)
              refine ⟨fun h => absurd h.2.2.lock (by simp [EventCollectors.released]),
                fun h => absurd (h rfl).1 (by decide)⟩
          | true =>
              have hfree : ∀ p, (EventCollectors.released true
                  { s.collectors with eventPriorities := p }).Free := fun _ => ⟨rfl, rfl⟩
              rw [if_pos rfl, if_pos rfl]
              unfold EventCollectors.passResult
              by_cases hp : PrioritiesDecode reader.rootObject
              · by_cases ha : AggregationDecodes reader.rootObject
                · simp only [if_pos hp, if_pos ha, Option.map_some]
                  refine (finish_ok_atomic_iff rfl).trans (and_congr_right fun _ => ?_)
                  exact ⟨fun h _ => ⟨trivial, fun _ => h⟩, fun h => (h trivial).2 hp⟩
                · simp only [if_pos hp, if_neg ha, Option.map_some]
                  refine (finish_failed_atomic_iff rfl (by decide) (by decide)).trans
                    (and_congr_right fun _ => ?_)
                  refine ⟨fun h _ => ⟨trivial, fun _ => ?_⟩, fun h => ⟨rfl, ?_, hfree _⟩⟩
                  · exact (normalised_eq_self_iff _).mp h.2.1
                  · exact (normalised_eq_self_iff _).mpr ((h trivial).2 hp)
              · simp only [if_neg hp, Option.map_some]
                refine (finish_failed_atomic_iff rfl (by decide) (by decide)).trans
                  (and_congr_right fun _ => ?_)
                exact ⟨fun _ _ => ⟨trivial, fun h => absurd h hp⟩, fun _ => ⟨rfl, rfl, hfree _⟩⟩

/-- **When an update is atomic**: exactly when nothing is changed that a later failure would
leave changed. -/
theorem update_atomic_iff (objectName : String) (o : UpdateOutcome) (parsed : Option Json)
    (complete : Bool) (s : TwinModule) (hs : s.Usable) :
    Atomic s (update objectName o parsed complete s)
      ↔ AtomicWhen objectName o parsed complete s := by
  unfold AtomicWhen
  cases hread : objectRead objectName o parsed complete with
  | some object =>
      obtain ⟨around, hu⟩ := update_of_read hread s
      rw [hu]
      exact updateFrom_atomic_iff hs ⟨object, around⟩
  | none =>
      rcases update_not_read hread s with ⟨hu, hreader, hl, he⟩ | ⟨hl, r, -, hu⟩
      · rw [hu, he]
        exact ⟨fun h => h.elim, fun h => absurd (h hreader hl) (by simp)⟩
      · rw [hu]
        refine ⟨fun _ hreader hm => absurd hm (hl hreader), fun _ _ => ⟨rfl, rfl, ?_⟩⟩
        exact ⟨hs.lock, hs.collectors⟩

theorem update_atomic_iff_init :
    Usable init ∧ (Atomic init (update "agent" (.ok 0) none false init)
      ↔ AtomicWhen "agent" (.ok 0) none false init) :=
  ⟨⟨rfl, rfl, rfl⟩, update_atomic_iff "agent" (.ok 0) none false init ⟨rfl, rfl, rfl⟩⟩

/-- The operational priority is `"high"`; an update then fails at an aggregation setting that is
no boolean, and the priority is another one. -/
theorem failed_update_normalises :
    ¬ ∀ (objectName : String) (s : TwinModule) (call : UpdateCall),
      Machine.Reaches (step objectName) init s → s.Usable →
        Atomic s (step objectName s call) := by
  intro h
  let high : Json.Members := [("eventPriorityOperational", .object [("value", .string "high")])]
  let five : Json.Members :=
    [("aggregationEnabledProcessCreate", .object [("value", .number 5)])]
  have hcommits : Commits "agent" init ⟨.ok 0, some (.object [("agent", .object high)]), false⟩
      high :=
    ⟨rfl, by decide +kernel, rfl, rfl, ⟨rfl, rfl⟩, rfl, by decide +kernel, by decide +kernel⟩
  have hfirst := update_succeeds hcommits ⟨rfl, ⟨fun _ => rfl, fun _ => rfl⟩, rfl⟩
  have hsecond := h "agent" (committed (.ok 0) high)
    ⟨.ok 1, some (.object [("agent", .object five)]), false⟩ (.next .start hfirst)
    ⟨rfl, rfl, rfl⟩
  have hread : objectRead "agent" (.ok 1) (some (.object [("agent", .object five)])) false
      = some five := rfl
  obtain ⟨around, hu⟩ := update_of_read hread (committed (.ok 0) high)
  unfold step at hsecond
  rw [hu, updateFrom_atomic_iff ⟨rfl, rfl, rfl⟩] at hsecond
  change CommitsSafely _ five _ at hsecond
  -- the priorities of `five` decode, its aggregation settings do not
  have hpriority := ((hsecond (by decide +kernel) rfl).2 rfl).2 (by decide +kernel)
  rw [if_neg (by decide +kernel)] at hpriority
  revert hpriority
  decide +kernel

end TwinModule

end SecurityAgent
