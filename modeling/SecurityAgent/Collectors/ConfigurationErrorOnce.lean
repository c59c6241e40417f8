import SecurityAgent.Lib.Run
import SecurityAgent.Collectors.ConfigurationErrorMessage

/-!
# When an update is reported, and how often

Whether the last update has been reported is told from its time: `lastEvent` is the
time of the last update that a run has looked at. So an update is never reported
twice. But the marker is moved on before anything is known of the event, and two
updates within one second have the same time; then a run takes an update for
reported that is in no event.

The history has what the marker stands for beside it: whether the last result is
still waiting for an event that is pushed.
-/

namespace SecurityAgent

open Machine

namespace AgentConfigurationErrorCollector

/-! ## The marker -/

/-- The difference of two times is zero only if they are the same. -/
theorem getTimeDiff_eq_zero_iff (later beginning : Int) :
    TimeUtils.getTimeDiff later beginning = 0 ↔ later = beginning := by
  have hcast : (((later - beginning : Int) : Rat) * 1000)
      = (((later - beginning) * 1000 : Int) : Rat) := by
    push_cast
    rfl
  unfold TimeUtils.getTimeDiff int32OfDouble
  rw [hcast]
  have hnum : (((later - beginning) * 1000 : Int) : Rat).num = (later - beginning) * 1000 :=
    Rat.num_intCast _
  have hden : (((later - beginning) * 1000 : Int) : Rat).den = 1 := Rat.den_intCast _
  rw [hnum, hden]
  dsimp only
  rw [Nat.cast_one, Int.tdiv_one]
  by_cases hrange : -2147483648 ≤ (later - beginning) * 1000 ∧ (later - beginning) * 1000 ≤ 2147483647
  · rw [if_pos hrange]
    constructor
    · intro h
      have hint := congrArg Int32.toInt h
      rw [Int32.toInt_ofInt_of_le (by omega) (by omega)] at hint
      have hzero : (0 : Int32).toInt = 0 := rfl
      omega
    · rintro rfl
      rw [Int.sub_self, Int.zero_mul]
      rfl
  · -- a difference that does not fit is not zero either
    rw [if_neg hrange]
    refine ⟨fun h => absurd h (by decide), fun h => ?_⟩
    omega

/-! ## What a run leaves alone -/

/-- The code does not touch the result of the last update. -/
def KeepsResult {α : Type} (x : CollectM α) : Prop :=
  ∀ s r s', x s = some (r, s') → s'.updateResult = s.updateResult

theorem keepsResult_pure {α : Type} (a : α) : KeepsResult (pure a : CollectM α) := by
  intro s r s' h
  obtain ⟨-, rfl⟩ := Prod.mk.inj (Option.some.inj h)
  rfl

theorem keepsResult_throw {α : Type} (e : EventCollectorResult) :
    KeepsResult (throw e : CollectM α) := by
  intro s r s' h
  obtain ⟨-, rfl⟩ := Prod.mk.inj (Option.some.inj h)
  rfl

theorem KeepsResult.bind {α β : Type} {x : CollectM α} {f : α → CollectM β} (hx : KeepsResult x)
    (hf : ∀ a, KeepsResult (f a)) : KeepsResult (x >>= f) := by
  intro s r s' h
  have hbind : (x >>= f) s = (x s).bind fun
      | (.ok a, s) => f a s
      | (.error e, s) => some (.error e, s) := by
    show (x s >>= _) = _
    cases x s with
    | none => rfl
    | some answer =>
        obtain ⟨answer, t⟩ := answer
        cases answer <;> rfl
  rw [hbind] at h
  obtain ⟨⟨answer, t⟩, hxs, hrest⟩ := Option.bind_eq_some_iff.mp h
  have hkept := hx s answer t hxs
  cases answer with
  | error e =>
      obtain ⟨-, rfl⟩ := Prod.mk.inj (Option.some.inj hrest)
      exact hkept
  | ok a => exact (hf a t r s' hrest).trans hkept

theorem keepsResult_ite {α : Type} {p : Prop} [Decidable p] {x y : CollectM α} (hx : KeepsResult x)
    (hy : KeepsResult y) : KeepsResult (if p then x else y) := by
  split
  · exact hx
  · exact hy

theorem keepsResult_getSetting (o : EventCollectors.LockOutcomes)
    (field : TwinConfiguration → UInt32) :
    KeepsResult (getSetting (TwinModule.getFieldInteger o field)) := by
  intro s r s' h
  obtain ⟨⟨answer, t⟩, hget, hend⟩ := Option.map_eq_some_iff.mp h
  have hkept : t.updateResult = s.updateResult := by
    unfold TwinModule.getFieldInteger at hget
    dsimp only at hget
    split at hget
    · cases hget
    · obtain ⟨-, rfl⟩ := Prod.mk.inj (Option.some.inj hget)
      rfl
    · split at hget
      · obtain ⟨-, rfl⟩ := Prod.mk.inj (Option.some.inj hget)
        rfl
      · obtain ⟨-, rfl⟩ := Prod.mk.inj (Option.some.inj hget)
        rfl
  cases answer <;> (obtain ⟨-, rfl⟩ := Prod.mk.inj hend; exact hkept)

theorem keepsResult_addPayload (o : ConfigurationErrorOutcome) (payload : List Json)
    (configurationName error msg usedConfig : String) :
    KeepsResult (addPayload o payload configurationName error msg usedConfig) :=
  keepsResult_ite (keepsResult_pure _) (keepsResult_throw _)

theorem keepsResult_serialized (objectName : String) (o : ConfigurationErrorOutcome) :
    KeepsResult (getSerializedTwinConfiguration objectName o) := by
  intro s r s' h
  obtain ⟨⟨result, twin, t⟩, hget, hend⟩ := Option.map_eq_some_iff.mp h
  have hkept : t.updateResult = s.updateResult := by
    unfold TwinModule.getSerializedTwinConfiguration at hget
    split at hget
    · cases hget
    · obtain ⟨-, -, rfl⟩ := Prod.mk.inj (Option.some.inj hget) |>.imp_right Prod.mk.inj
      rfl
    · split at hget
      · cases hget
      · split at hget
        · obtain ⟨-, -, rfl⟩ := Prod.mk.inj (Option.some.inj hget) |>.imp_right Prod.mk.inj
          rfl
        · obtain ⟨-, -, rfl⟩ := Prod.mk.inj (Option.some.inj hget) |>.imp_right Prod.mk.inj
          rfl
  cases result <;> cases twin <;> (obtain ⟨-, rfl⟩ := Prod.mk.inj hend; exact hkept)

theorem keepsResult_createPayload (objectName : String) (o : ConfigurationErrorOutcome)
    (last : TwinConfigurationUpdateResult) : KeepsResult (createPayload objectName o last) := by
  unfold createPayload
  cases last.lastUpdateResult with
  | ok =>
      refine KeepsResult.bind ?_ fun payload => KeepsResult.bind ?_ fun payload => ?_
      · refine (keepsResult_getSetting _ _).bind fun _ => (keepsResult_getSetting _ _).bind fun _ => ?_
        exact keepsResult_ite (keepsResult_addPayload _ _ _ _ _ _) (keepsResult_pure _)
      · refine (keepsResult_getSetting _ _).bind fun _ => ?_
        exact keepsResult_ite (keepsResult_addPayload _ _ _ _ _ _) (keepsResult_pure _)
      · refine (keepsResult_getSetting _ _).bind fun _ => (keepsResult_getSetting _ _).bind fun _ => ?_
        refine keepsResult_ite ?_ (keepsResult_pure _)
        split
        · exact keepsResult_throw _
        · exact keepsResult_addPayload _ _ _ _ _ _
  | parseException =>
      show KeepsResult (createTypeMismatchPayload objectName o last [])
      unfold createTypeMismatchPayload
      split
      · exact keepsResult_throw _
      · exact (keepsResult_serialized _ _).bind fun _ => keepsResult_addPayload _ _ _ _ _ _
  | confNotExist | lockException | memoryException | exception => exact keepsResult_pure _

theorem keepsResult_createEvent (clock : Clock) (objectName : String)
    (o : ConfigurationErrorOutcome) (last : TwinConfigurationUpdateResult) :
    KeepsResult (createEvent clock objectName o last) := by
  unfold createEvent
  refine keepsResult_ite (keepsResult_throw _) ?_
  split
  · exact keepsResult_throw _
  · refine keepsResult_ite (keepsResult_throw _) ?_
    refine (keepsResult_createPayload _ _ _).bind fun _ => ?_
    split
    · exact keepsResult_throw _
    · exact keepsResult_pure _

/-- A run looks at the last update and leaves its time as the marker. -/
theorem getEvents_cases {clock : Clock} {objectName : String} {o : ConfigurationErrorOutcome}
    {lastEvent lastEvent' : Int} {s s' : TwinModule} {run : CollectorRun}
    (h : getEvents clock objectName o lastEvent s = some (run, lastEvent', s')) :
    lastEvent' = s.updateResult.lastUpdateTime ∧ s'.updateResult = s.updateResult
      ∧ (run.attempted = true ↔ s.updateResult.lastUpdateTime ≠ lastEvent)
      ∧ (run.pushed.isSome = true → run.attempted = true) := by
  unfold getEvents at h
  dsimp only at h
  by_cases hsame : TimeUtils.getTimeDiff s.updateResult.lastUpdateTime lastEvent = 0
  · rw [if_pos hsame] at h
    simp only [Option.some.injEq, Prod.mk.injEq] at h
    obtain ⟨rfl, rfl, rfl⟩ := h
    rw [getTimeDiff_eq_zero_iff] at hsame
    exact ⟨rfl, rfl, ⟨nofun, fun hne => absurd hsame hne⟩, nofun⟩
  · rw [if_neg hsame] at h
    rw [getTimeDiff_eq_zero_iff] at hsame
    have hkeeps := keepsResult_createEvent clock objectName o s.updateResult s
    rcases hevent : createEvent clock objectName o s.updateResult s with _ | ⟨_ | event, t⟩
    · simp [hevent] at h
    · have hkept := hkeeps _ t hevent
      simp only [hevent, Option.some.injEq, Prod.mk.injEq] at h
      obtain ⟨rfl, rfl, rfl⟩ := h
      exact ⟨rfl, hkept, ⟨fun _ => hsame, fun _ => rfl⟩, nofun⟩
    · have hkept := hkeeps _ t hevent
      simp only [hevent, Option.some.injEq, Prod.mk.injEq] at h
      obtain ⟨rfl, rfl, rfl⟩ := h
      exact ⟨rfl, hkept, ⟨fun _ => hsame, fun _ => rfl⟩, fun _ => rfl⟩

/-- The event of a run is created and pushed. -/
structure Delivers (clock : Clock) (objectName : String) (o : ConfigurationErrorOutcome)
    (s : TwinModule) : Prop where
  created : ∃ event s', createEvent clock objectName o s.updateResult s = some (.ok event, s')
  serialize : o.serialize = true
  push : o.push = true

/-- A run whose event can be delivered delivers it, unless it stops at the marker. -/
theorem pushed_of_delivers {clock : Clock} {objectName : String} {o : ConfigurationErrorOutcome}
    {lastEvent lastEvent' : Int} {s s' : TwinModule} {run : CollectorRun}
    (hdelivers : Delivers clock objectName o s)
    (hmarker : s.updateResult.lastUpdateTime ≠ lastEvent)
    (h : getEvents clock objectName o lastEvent s = some (run, lastEvent', s')) :
    run.pushed.isSome = true := by
  obtain ⟨event, t, hcreated⟩ := hdelivers.created
  have hpush : pushEvent o = .ok := if_pos ⟨hdelivers.serialize, hdelivers.push⟩
  unfold getEvents at h
  dsimp only at h
  rw [if_neg fun hsame => hmarker ((getTimeDiff_eq_zero_iff _ _).mp hsame), hcreated] at h
  simp only [hpush, if_true, Option.some.injEq, Prod.mk.injEq] at h
  obtain ⟨rfl, -, -⟩ := h
  rfl

/-! ## The time of an update -/

theorem updateFrom_lastUpdateTime {o : TwinModule.UpdateOutcome} {reader : JsonObjectReader}
    {s s' : TwinModule} {r : TwinConfigurationResult}
    (h : TwinModule.updateFrom o reader s = some (r, s')) :
    s'.updateResult.lastUpdateTime = o.currentTime := by
  have hcleanup : ∀ (isLocked : Bool) (b : TwinConfigurationBundleStatus)
      (result : TwinConfigurationResult) (t : TwinModule),
      some (TwinModule.cleanup o isLocked b result t) = some (r, s') →
        s'.updateResult.lastUpdateTime = o.currentTime := fun isLocked b result t heq => by
    have hresult := cleanup_updateResult o isLocked b result t
    rw [Option.some.inj heq] at hresult
    rw [hresult]
  unfold TwinModule.updateFrom at h
  split at h
  · split at h
    · cases h
    · exact hcleanup _ _ _ _ h
    · split at h
      · cases h
      · exact hcleanup _ _ _ _ h
      · exact hcleanup _ _ _ _ h
      · exact hcleanup _ _ _ _ h
  · exact hcleanup _ _ _ _ h

/-- However an update ends, it leaves its time. -/
theorem update_lastUpdateTime {objectName : String} {o : TwinModule.UpdateOutcome}
    {parsed : Option Json} {complete : Bool} {s s' : TwinModule} {r : TwinConfigurationResult}
    (h : TwinModule.update objectName o parsed complete s = some (r, s')) :
    s'.updateResult.lastUpdateTime = o.currentTime := by
  cases hobject : TwinModule.objectRead objectName o parsed complete with
  | none =>
      rcases TwinModule.update_not_read hobject s with ⟨hnone, -⟩ | ⟨-, result, -, hupdate⟩
      · rw [hnone] at h
        cases h
      · rw [hupdate] at h
        obtain ⟨-, rfl⟩ := Prod.mk.inj (Option.some.inj h)
        rfl
  | some object =>
      obtain ⟨around, hfrom⟩ := TwinModule.update_of_read hobject s
      rw [hfrom] at h
      exact updateFrom_lastUpdateTime h

/-! ## Histories -/

/-- The twin module, the collector's marker, and whether the last result is still waiting for an
event that is pushed. -/
structure History where
  twin : TwinModule
  lastEvent : Int
  pending : Bool

/-- Nothing has happened yet. -/
def History.start : History := ⟨.init, 0, false⟩

/-- An update, or a run of the collector. -/
inductive HistoryOp where
  | update (o : TwinModule.UpdateOutcome) (parsed : Option Json) (complete : Bool)
  | getEvents (o : ConfigurationErrorOutcome)

/-- One operation, and what a run has done. -/
def step (clock : Clock) (objectName : String) (s : History) :
    HistoryOp → Option (Option CollectorRun × History)
  | .update o parsed complete =>
      (TwinModule.update objectName o parsed complete s.twin).map fun (_, twin) =>
        (none, { s with twin := twin, pending := true })
  | .getEvents o =>
      (getEvents clock objectName o s.lastEvent s.twin).map fun (run, lastEvent, twin) =>
        (some run, ⟨twin, lastEvent, s.pending && !run.pushed.isSome⟩)

/-- A run attempts to report a result that is waiting. -/
def Attempts (clock : Clock) (objectName : String) (s : History) (op : HistoryOp) : Prop :=
  ∀ run s', step clock objectName s op = some (some run, s') → s.pending = true →
    run.attempted = true

/-- A run pushes nothing for a result that is not waiting. -/
def NotAgain (clock : Clock) (objectName : String) (s : History) (op : HistoryOp) : Prop :=
  ∀ run s', step clock objectName s op = some (some run, s') → s.pending = false →
    run.pushed = none

/-- An update has another time than the last one a run has looked at, and a run that finds a result
waiting delivers its event. -/
def Timely (clock : Clock) (objectName : String) (s : History) : HistoryOp → Prop
  | .update o _ _ => o.currentTime ≠ s.lastEvent
  | .getEvents o => s.pending = true → Delivers clock objectName o s.twin

/-- A result that is not waiting has the marker's time. -/
def Marked (s : History) : Prop :=
  s.pending = false → s.twin.updateResult.lastUpdateTime = s.lastEvent

/-- A result that is waiting has another. -/
def Fresh (s : History) : Prop :=
  s.pending = true → s.twin.updateResult.lastUpdateTime ≠ s.lastEvent

theorem step_getEvents {clock : Clock} {objectName : String} {s s' : History}
    {o : ConfigurationErrorOutcome} {out : Option CollectorRun}
    (h : step clock objectName s (.getEvents o) = some (out, s')) :
    ∃ run, out = some run
      ∧ getEvents clock objectName o s.lastEvent s.twin = some (run, s'.lastEvent, s'.twin)
      ∧ s'.pending = (s.pending && !run.pushed.isSome) := by
  obtain ⟨⟨run, lastEvent, twin⟩, hrun, hend⟩ := Option.map_eq_some_iff.mp h
  obtain ⟨rfl, rfl⟩ := Prod.mk.inj hend
  exact ⟨run, rfl, hrun, rfl⟩

theorem step_update {clock : Clock} {objectName : String} {s s' : History}
    {o : TwinModule.UpdateOutcome} {parsed : Option Json} {complete : Bool}
    {out : Option CollectorRun}
    (h : step clock objectName s (.update o parsed complete) = some (out, s')) :
    out = none ∧ s'.twin.updateResult.lastUpdateTime = o.currentTime ∧ s'.lastEvent = s.lastEvent
      ∧ s'.pending = true := by
  obtain ⟨⟨r, twin⟩, hupdate, hend⟩ := Option.map_eq_some_iff.mp h
  obtain ⟨rfl, rfl⟩ := Prod.mk.inj hend
  exact ⟨rfl, update_lastUpdateTime hupdate, rfl, rfl⟩

/-- Whatever happens, a result that has been reported has the marker's time. -/
theorem marked_step {clock : Clock} {objectName : String} {s s' : History} {op : HistoryOp}
    {out : Option CollectorRun} (h : step clock objectName s op = some (out, s')) :
    Marked s' := by
  intro hpending
  cases op with
  | update o parsed complete =>
      obtain ⟨-, -, -, htrue⟩ := step_update h
      rw [htrue] at hpending
      cases hpending
  | getEvents o =>
      obtain ⟨run, -, hrun, -⟩ := step_getEvents h
      obtain ⟨hmarker, hkept, -⟩ := getEvents_cases hrun
      rw [hkept, hmarker]

theorem notAgain_of_marked {clock : Clock} {objectName : String} {s : History} (hs : Marked s)
    (op : HistoryOp) : NotAgain clock objectName s op := by
  intro run s' h hpending
  cases op with
  | update o parsed complete =>
      obtain ⟨hnone, -⟩ := step_update h
      cases hnone
  | getEvents o =>
      obtain ⟨run', hrun', hrun, -⟩ := step_getEvents h
      obtain rfl := Option.some.inj hrun'
      obtain ⟨-, -, hattempted, hpushed⟩ := getEvents_cases hrun
      -- the run stops at the marker
      cases hpush : run.pushed with
      | none => rfl
      | some event => exact absurd (hs hpending) (hattempted.mp (hpushed (by rw [hpush]; rfl)))

theorem attempts_of_fresh {clock : Clock} {objectName : String} {s : History} (hs : Fresh s)
    (op : HistoryOp) : Attempts clock objectName s op := by
  intro run s' h hpending
  cases op with
  | update o parsed complete =>
      obtain ⟨hnone, -⟩ := step_update h
      cases hnone
  | getEvents o =>
      obtain ⟨run', hrun', hrun, -⟩ := step_getEvents h
      obtain rfl := Option.some.inj hrun'
      obtain ⟨-, -, hattempted, -⟩ := getEvents_cases hrun
      exact hattempted.mpr (hs hpending)

/-- A timely step leaves no result waiting behind the marker. -/
theorem fresh_step {clock : Clock} {objectName : String} {s s' : History} {op : HistoryOp}
    {out : Option CollectorRun} (hs : Fresh s) (htimely : Timely clock objectName s op)
    (h : step clock objectName s op = some (out, s')) : Fresh s' := by
  intro hpending
  cases op with
  | update o parsed complete =>
      obtain ⟨-, htime, hmarker, -⟩ := step_update h
      rw [htime, hmarker]
      exact htimely
  | getEvents o =>
      obtain ⟨run, -, hrun, hleft⟩ := step_getEvents h
      rw [hleft, Bool.and_eq_true] at hpending
      have hpushed := pushed_of_delivers (htimely hpending.1) (hs hpending.1) hrun
      rw [hpushed] at hpending
      cases hpending.2

/-- **No update is reported twice, and every update is reported once if updates and runs are
timely.** -/
theorem updates_reported_once (clock : Clock) (objectName : String) (ops : List HistoryOp) :
    Along (step clock objectName) (NotAgain clock objectName) History.start ops
      ∧ (Along (step clock objectName) (Timely clock objectName) History.start ops →
          Along (step clock objectName) (Attempts clock objectName) History.start ops) := by
  have hmarked : Marked History.start := fun _ => rfl
  have hfresh : Fresh History.start := nofun
  constructor
  · exact along_of_invariant
      (fun s op hs _ => ⟨notAgain_of_marked hs op, fun out s' h => marked_step h⟩) hmarked
      along_true
  · exact fun htimely => along_of_invariant
      (fun s op hs ht => ⟨attempts_of_fresh hs op, fun out s' h => fresh_step hs ht h⟩) hfresh
      htimely

/-- A clock that prints every time. -/
def printingClock : Clock := ⟨fun _ => some "", fun _ => some ""⟩

/-- A run in which nothing fails, but for the writer of the event. -/
def answer (eventWriter : Bool) : ConfigurationErrorOutcome where
  eventWriter := eventWriter
  metadata := ⟨0, some "", true⟩
  payloadWriter := true
  locks := fun _ => ⟨true, true⟩
  item := fun _ => true
  report := .ok
  print := fun _ => ""
  payload := true
  serialize := true
  push := true

/-- The module after an empty twin at second 5. -/
def updated : TwinModule := { TwinModule.init with updateResult := ⟨5, .ok, {}⟩ }

theorem step_update_answer :
    step printingClock "conf" History.start (.update (.ok 5) (some (.object [])) false)
      = some (none, ⟨updated, 0, true⟩) := by
  have hupdate : TwinModule.update "conf" (.ok 5) (some (.object [])) false History.start.twin
      = some (.ok, updated) := by decide +kernel
  unfold step
  dsimp only
  rw [hupdate]
  rfl

/-- **A run that fails is not made up for**: the next one finds the marker. -/
theorem update_forgotten :
    ¬ ∀ (clock : Clock) (objectName : String) (ops : List HistoryOp),
      Along (step clock objectName) (Attempts clock objectName) History.start ops := by
  intro h
  have hrun := h printingClock "conf"
    [.update (.ok 5) (some (.object [])) false, .getEvents (answer false), .getEvents (answer false)]
  obtain ⟨-, hrest⟩ := hrun
  obtain ⟨-, hrest⟩ := hrest none _ step_update_answer
  have hfails : getEvents printingClock "conf" (answer false) 0 updated
      = some (⟨true, .exception, none⟩, 5, updated) := by
    unfold getEvents
    dsimp only
    rw [if_neg fun hsame => absurd ((getTimeDiff_eq_zero_iff _ _).mp hsame) (by decide)]
    rfl
  have hstops : getEvents printingClock "conf" (answer false) 5 updated
      = some (⟨false, .ok, none⟩, 5, updated) := by
    have hsame : TimeUtils.getTimeDiff updated.updateResult.lastUpdateTime 5 = 0 :=
      (getTimeDiff_eq_zero_iff _ _).mpr rfl
    unfold getEvents
    dsimp only
    rw [if_pos hsame]
    rfl
  obtain ⟨hattempts, -⟩ := hrest (some ⟨true, .exception, none⟩) ⟨updated, 5, true⟩ (by
    unfold step
    dsimp only
    rw [hfails]
    rfl)
  have hattempted := hattempts ⟨false, .ok, none⟩ ⟨updated, 5, true⟩ (by
    unfold step
    dsimp only
    rw [hstops]
    rfl) rfl
  cases hattempted

/-- The run in which nothing fails is timely, and reports the update. -/
theorem updates_reported_once_answer :
    Along (step printingClock "conf") (Attempts printingClock "conf") History.start
      [.update (.ok 5) (some (.object [])) false, .getEvents (answer true)] := by
  have htime : (5 : Int) ≠ 0 := by decide
  refine (updates_reported_once printingClock "conf" _).2 ⟨htime, fun out s' h => ?_⟩
  rw [step_update_answer] at h
  obtain ⟨-, rfl⟩ := Prod.mk.inj (Option.some.inj h)
  refine ⟨fun _ => ⟨?_, rfl, rfl⟩, fun _ _ _ => trivial⟩
  exact ⟨_, _, rfl⟩

end AgentConfigurationErrorCollector

end SecurityAgent
