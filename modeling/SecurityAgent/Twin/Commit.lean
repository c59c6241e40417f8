import SecurityAgent.Lib.Run
import SecurityAgent.Twin.Update

/-!
# What an update commits

An update is one call with its document and with what the environment answers
during it. It *commits* when the event collectors take the settings of the object
it read; the rest can fail after that, and `Succeeds` says that it does not.

So an update has three kinds of outcome: it does not commit, and keeps the
configuration up to the normalisation of one priority (`update_uncommitted`); it
commits and succeeds, and the whole state is then the one the object determines
(`update_succeeds`); it commits and fails, and the two modules may disagree
(`update_fails_late`).
-/

namespace SecurityAgent

open Reference

namespace TwinModule

/-- Both locks are there, and nobody has them. -/
structure Usable (s : TwinModule) : Prop where
  lock : s.lock = .free
  collectors : s.collectors.Free

/-- One call of `TwinConfiguration_Update`. -/
structure UpdateCall where
  outcome : UpdateOutcome
  /-- What the document parses to. -/
  parsed : Option Json
  complete : Bool

/-- The module as a machine. -/
def step (objectName : String) (s : TwinModule) (call : UpdateCall) :
    Option (TwinConfigurationResult × TwinModule) :=
  update objectName call.outcome call.parsed call.complete s

/-- The event collectors take the settings of `object`. -/
structure Commits (objectName : String) (s : TwinModule) (call : UpdateCall)
    (object : Json.Members) : Prop where
  read : objectRead objectName call.outcome call.parsed call.complete = some object
  configuration : ConfigurationDecodes object
  free : s.lock = .free
  locked : call.outcome.locks.lock = true
  collectorsFree : s.collectors.Free
  collectorsLocked : call.outcome.collectorsLocks.lock = true
  priorities : PrioritiesDecode object
  aggregation : AggregationDecodes object

/-- Nothing fails once the settings of `object` are committed. -/
def Succeeds (o : UpdateOutcome) (object : Json.Members) : Prop :=
  o.collectorsLocks.unlock = true ∧ Copies o (Reference.configuration object)
    ∧ o.locks.unlock = true

/-- The state `object` determines. -/
def committed (o : UpdateOutcome) (object : Json.Members) : TwinModule where
  configuration := Reference.configuration object
  lock := .free
  collectors := ⟨Reference.priorities object, .free, false⟩
  updateResult := ⟨o.currentTime, .ok, bundleStatus object⟩

section Commit

variable {objectName : String} {s : TwinModule} {call : UpdateCall} {object : Json.Members}

/-- Everything up to the commit, in one equation. -/
theorem step_of_commits (h : Commits objectName s call object) :
    step objectName s call
      = some (finish call.outcome (bundleStatus object) (Reference.configuration object)
          { s with
            lock := .held
            collectors := EventCollectors.released call.outcome.collectorsLocks.unlock
              { s.collectors with eventPriorities := Reference.priorities object } }
          (if call.outcome.collectorsLocks.unlock then .ok else .lockException)) := by
  obtain ⟨around, hu⟩ := update_of_read h.read s
  have hpass : EventCollectors.passResult object s.collectors.eventPriorities
      = (.ok, Reference.priorities object) := by
    unfold EventCollectors.passResult
    rw [if_pos h.priorities, if_pos h.aggregation]
  unfold step
  rw [hu, updateFrom_taken h.configuration h.free h.locked,
    EventCollectors.update_free h.collectorsFree, if_pos h.collectorsLocked, hpass]
  rfl

theorem update_succeeds (h : Commits objectName s call object)
    (hs : Succeeds call.outcome object) :
    step objectName s call = some (.ok, committed call.outcome object) := by
  obtain ⟨hcu, hcopies, hu⟩ := hs
  rw [step_of_commits h, hcu, if_pos rfl, finish_ok rfl hcopies, hu]
  simp only [settled, hu, if_true, committed, EventCollectors.released, Bool.not_true]

/-- A failure after the commit: the collectors keep the settings of the object. -/
theorem update_fails_late (h : Commits objectName s call object)
    (hs : ¬ Succeeds call.outcome object) :
    ∃ r s', step objectName s call = some (r, s') ∧ r ≠ .ok
      ∧ s'.collectors.eventPriorities = Reference.priorities object
      ∧ (s'.configuration = s.configuration
        ∨ SameScalars s'.configuration (Reference.configuration object))
      ∧ ∃ status, s'.updateResult.configurationBundleStatus
          = { bundleStatus object with eventPriorities := status } := by
  rw [step_of_commits h]
  cases hcu : call.outcome.collectorsLocks.unlock with
  | false =>
      rw [if_neg (by decide)]
      obtain ⟨status, hf⟩ := finish_failed (o := call.outcome) (b := bundleStatus object)
        (c := Reference.configuration object) (s := { s with
          lock := .held
          collectors := EventCollectors.released false
            { s.collectors with eventPriorities := Reference.priorities object } })
        rfl (r := .lockException) (by decide) (by decide)
      rw [hf]
      refine ⟨_, _, rfl, ?_, rfl, Or.inl rfl, status, rfl⟩
      cases call.outcome.locks.unlock <;> decide
  | true =>
      rw [if_pos rfl]
      by_cases hcopies : Copies call.outcome (Reference.configuration object)
      · have hu : call.outcome.locks.unlock = false := by
          cases hu : call.outcome.locks.unlock with
          | false => rfl
          | true => exact absurd ⟨hcu, hcopies, hu⟩ hs
        rw [finish_ok rfl hcopies, hu]
        exact ⟨_, _, rfl, by decide, rfl, Or.inr ⟨_, _, rfl⟩, _, rfl⟩
      · obtain ⟨r, s', hf, hr, -, hp, hscalars, hb⟩ := finish_uncopied (o := call.outcome)
          (b := bundleStatus object) (c := Reference.configuration object) (s := { s with
            lock := .held
            collectors := EventCollectors.released true
              { s.collectors with eventPriorities := Reference.priorities object } })
          rfl hcopies
        rw [hf]
        exact ⟨r, s', rfl, hr, hp, Or.inr hscalars, _, hb⟩

/-- A failed update that did not commit: the configuration stays, but for the operational
priority. -/
structure Refused (read : Option Json.Members) (s : TwinModule) (r : TwinConfigurationResult)
    (s' : TwinModule) : Prop where
  failed : r ≠ .ok
  configuration : s'.configuration = s.configuration
  eventPriorities : s'.collectors.eventPriorities = s.collectors.eventPriorities
    ∨ s'.collectors.eventPriorities = EventCollectors.normalised s.collectors.eventPriorities
  status : ∀ object, read = some object → ∃ status, s'.updateResult.configurationBundleStatus
    = { bundleStatus object with eventPriorities := status }

theorem passResult_failed {p : EventPriorities}
    (h : ¬ (PrioritiesDecode object ∧ AggregationDecodes object)) :
    (EventCollectors.passResult object p).1 = .parseException
      ∧ ((EventCollectors.passResult object p).2 = p
        ∨ (EventCollectors.passResult object p).2 = EventCollectors.normalised p) := by
  unfold EventCollectors.passResult
  by_cases hp : PrioritiesDecode object
  · rw [if_pos hp, if_neg fun ha => h ⟨hp, ha⟩]
    exact ⟨rfl, Or.inr rfl⟩
  · rw [if_neg hp]
    exact ⟨rfl, Or.inl rfl⟩

/-- The event collectors answer, and the settings of the object are not committed. -/
theorem collectors_refuse (h : ∀ object, ¬ Commits objectName s call object)
    (hread : objectRead objectName call.outcome call.parsed call.complete = some object)
    (hc : ConfigurationDecodes object) (hlock : s.lock = .free)
    (ho : call.outcome.locks.lock = true) {reader reader' : JsonObjectReader}
    (hreader : reader.rootObject = object) {answer : TwinConfigurationResult}
    {collectors : EventCollectors}
    (hanswer : EventCollectors.update call.outcome.collectorsLocks reader s.collectors
      = some (answer, reader', collectors)) :
    (answer = .lockException ∨ answer = .parseException)
      ∧ (collectors.eventPriorities = s.collectors.eventPriorities
        ∨ collectors.eventPriorities
          = EventCollectors.normalised s.collectors.eventPriorities) := by
  by_cases hfree : s.collectors.Free
  swap
  · obtain ⟨hr, hp⟩ := EventCollectors.update_not_free hfree hanswer
    exact ⟨Or.inl hr, Or.inl hp⟩
  rw [EventCollectors.update_free hfree, hreader] at hanswer
  by_cases hcl : call.outcome.collectorsLocks.lock = true
  swap
  · rw [if_neg hcl, Option.some.injEq, Prod.mk.injEq, Prod.mk.injEq] at hanswer
    obtain ⟨rfl, -, rfl⟩ := hanswer
    exact ⟨Or.inl rfl, Or.inl rfl⟩
  obtain ⟨hparse, hp⟩ := passResult_failed (p := s.collectors.eventPriorities)
    fun hd => h object ⟨hread, hc, hlock, ho, hfree, hcl, hd.1, hd.2⟩
  rw [if_pos hcl, Option.some.injEq, Prod.mk.injEq, Prod.mk.injEq, hparse] at hanswer
  obtain ⟨rfl, -, rfl⟩ := hanswer
  refine ⟨?_, hp⟩
  cases call.outcome.collectorsLocks.unlock with
  | false => exact Or.inl rfl
  | true => exact Or.inr rfl

theorem update_uncommitted (h : ∀ object, ¬ Commits objectName s call object)
    {r : TwinConfigurationResult} {s' : TwinModule} (hu : step objectName s call = some (r, s')) :
    Refused (objectRead objectName call.outcome call.parsed call.complete) s r s' := by
  unfold step at hu
  cases hread : objectRead objectName call.outcome call.parsed call.complete with
  | none =>
      rcases update_not_read hread s with ⟨hn, -⟩ | ⟨-, r', hr', hn⟩
      · rw [hn] at hu; exact absurd hu (by simp)
      · rw [hn, Option.some.injEq, Prod.mk.injEq] at hu
        obtain ⟨rfl, rfl⟩ := hu
        refine ⟨?_, rfl, Or.inl rfl, fun _ hobject => absurd hobject (by simp)⟩
        rcases hr' with hr | hr <;> rw [hr] <;> decide
  | some object =>
      obtain ⟨around, hfrom⟩ := update_of_read hread s
      rw [hfrom] at hu
      have hstatus : ∀ {b : TwinConfigurationBundleStatus},
          (∃ status, b = { bundleStatus object with eventPriorities := status }) →
          ∀ object', some object = some object' →
            ∃ status, b = { bundleStatus object' with eventPriorities := status } := by
        intro b hb object' he
        rw [← Option.some.inj he]
        exact hb
      by_cases hc : ConfigurationDecodes object
      swap
      · rw [updateFrom_undecoded hc, Option.some.injEq, Prod.mk.injEq] at hu
        obtain ⟨rfl, rfl⟩ := hu
        exact ⟨by decide, rfl, Or.inl rfl, hstatus ⟨_, rfl⟩⟩
      have hrefused : ∀ handle, s.lock.lock call.outcome.locks.lock = some (false, handle) →
          Refused (some object) s r s' := by
        intro handle hlock
        rw [updateFrom_refused hc hlock, Option.some.injEq, Prod.mk.injEq] at hu
        obtain ⟨rfl, rfl⟩ := hu
        exact ⟨by decide, rfl, Or.inl rfl, hstatus ⟨_, rfl⟩⟩
      cases hlock : s.lock with
      | null => exact hrefused .null (by rw [hlock]; rfl)
      | held => rw [updateFrom_blocked hc hlock] at hu; exact absurd hu (by simp)
      | free =>
          cases ho : call.outcome.locks.lock with
          | false => exact hrefused .free (by rw [hlock, ho]; rfl)
          | true =>
              rw [updateFrom_taken hc hlock ho] at hu
              obtain ⟨⟨answer, reader, collectors⟩, hanswer, hf⟩ := Option.map_eq_some_iff.mp hu
              obtain ⟨ha, hp⟩ := collectors_refuse h hread hc hlock ho rfl hanswer
              obtain ⟨status, hfinish⟩ := finish_failed (o := call.outcome)
                (b := bundleStatus object) (c := Reference.configuration object)
                (s := { s with lock := .held, collectors := collectors }) rfl (r := answer)
                (by rcases ha with ha | ha <;> rw [ha] <;> decide)
                (by rcases ha with ha | ha <;> rw [ha] <;> decide)
              dsimp only at hf
              rw [hfinish, Prod.mk.injEq] at hf
              obtain ⟨rfl, rfl⟩ := hf
              refine ⟨?_, rfl, hp, hstatus ⟨status, rfl⟩⟩
              rcases ha with ha | ha <;> rw [ha] <;> cases call.outcome.locks.unlock <;> decide

/-- Where the settings after an update can come from. -/
theorem step_settings {r : TwinConfigurationResult} {s' : TwinModule}
    (hu : step objectName s call = some (r, s')) :
    (s'.configuration = s.configuration
        ∨ ∃ object, SameScalars s'.configuration (Reference.configuration object))
      ∧ (s'.collectors.eventPriorities = s.collectors.eventPriorities
        ∨ s'.collectors.eventPriorities = EventCollectors.normalised s.collectors.eventPriorities
        ∨ ∃ object, s'.collectors.eventPriorities = Reference.priorities object) := by
  by_cases hc : ∃ object, Commits objectName s call object
  · obtain ⟨object, hc⟩ := hc
    by_cases hs : Succeeds call.outcome object
    · rw [update_succeeds hc hs, Option.some.injEq, Prod.mk.injEq] at hu
      obtain ⟨-, rfl⟩ := hu
      exact ⟨Or.inr ⟨object, _, _, rfl⟩, Or.inr (Or.inr ⟨object, rfl⟩)⟩
    · obtain ⟨r', s'', hlate, -, hp, hconf, -⟩ := update_fails_late hc hs
      rw [hlate, Option.some.injEq, Prod.mk.injEq] at hu
      obtain ⟨-, rfl⟩ := hu
      exact ⟨hconf.imp_right fun h => ⟨object, h⟩, Or.inr (Or.inr ⟨object, hp⟩)⟩
  · have hrefused := update_uncommitted (not_exists.mp hc) hu
    exact ⟨Or.inl hrefused.configuration, hrefused.eventPriorities.imp_right Or.inl⟩

end Commit

end TwinModule

end SecurityAgent
