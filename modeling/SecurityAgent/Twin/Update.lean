import SecurityAgent.Lib.Run
import SecurityAgent.Twin.Decoding

/-!
# What one update does

The code of `TwinConfiguration_Update` against the reference decoding, one
equation for each stage: where the agent's object is (`update_eq`), what the
event collectors do with it (`EventCollectors.update_free`), and what happens
once the reader stands on it (`updateFrom_eq`).

From them follows when an update is atomic. It is not always: the collectors'
settings are committed before the twin's own strings are copied, the operational
priority is normalised before the last four settings are read, and a lock that
is not given back stays taken.
-/

namespace SecurityAgent

open JsonObjectReader TwinConfigurationUtils Reference

/-! ## The event collectors -/

namespace EventCollectors

/-- The result of the pass over an object, and the record it leaves. -/
def passResult (object : Json.Members) (p : EventPriorities) :
    TwinConfigurationResult × EventPriorities :=
  if PrioritiesDecode object then
    if AggregationDecodes object then (.ok, priorities object)
    else (.parseException, normalised p)
  else (.parseException, p)

theorem setValuesBody_eq (reader : JsonObjectReader) (m : EventCollectors) :
    setValuesBody reader m
      = ((passResult reader.rootObject m.eventPriorities).1, reader,
          { m with eventPriorities := (passResult reader.rootObject m.eventPriorities).2 }) := by
  unfold setValuesBody passResult
  rw [setValues_eq]
  by_cases hp : PrioritiesDecode reader.rootObject
  · by_cases ha : AggregationDecodes reader.rootObject
    · simp only [if_pos hp, if_pos ha]
    · simp only [if_pos hp, if_neg ha]
  · simp only [if_neg hp]

/-- The module is between two operations: its lock is there, and nobody has it. -/
structure Free (m : EventCollectors) : Prop where
  lock : m.lock = .free
  flag : m.isLocked = false

/-- The module after a body, when `Unlock` answers `unlock`. -/
def released (unlock : Bool) (m : EventCollectors) : EventCollectors :=
  { m with lock := if unlock then .free else .held, isLocked := !unlock }

/-- A locked operation on a free module, whatever its body. -/
theorem locked_free {β : Type} {o : LockOutcomes} {refused : β}
    {body : EventCollectors → TwinConfigurationResult × β × EventCollectors}
    {m : EventCollectors} (hm : m.Free)
    (hbody : ∀ m', (body m').2.2.lock = m'.lock ∧ (body m').2.2.isLocked = m'.isLocked) :
    locked o refused body m
      = if o.lock then
          some (if o.unlock then (body { m with lock := .held, isLocked := true }).1
              else .lockException,
            (body { m with lock := .held, isLocked := true }).2.1,
            released o.unlock (body { m with lock := .held, isLocked := true }).2.2)
        else some (.lockException, refused, m) := by
  obtain ⟨hlock, hflag⟩ := hm
  obtain ⟨lock, unlock⟩ := o
  obtain ⟨hl, hf⟩ := hbody { m with lock := .held, isLocked := true }
  have htaken : takeLock lock m = some (lock, if lock then { m with lock := .held, isLocked := true }
      else m) := by
    unfold takeLock
    rw [hflag, hlock]
    cases lock
    · obtain ⟨p, handle, flag⟩ := m
      subst hlock hflag
      rfl
    · rfl
  unfold locked
  dsimp only
  rw [htaken]
  cases lock with
  | false =>
      simp only [Bool.false_eq_true, if_false, releaseLock, hflag]
      rw [← hflag]
  | true =>
      simp only [if_true]
      generalize body { m with lock := .held, isLocked := true } = r at hl hf
      obtain ⟨result, value, m'⟩ := r
      dsimp only at hl hf ⊢
      obtain ⟨p', handle, flag⟩ := m'
      subst hl hf
      have hreleased : releaseLock unlock ⟨p', .held, true⟩
          = (unlock, released unlock ⟨p', .held, true⟩) := by
        cases unlock <;> rfl
      rw [hreleased]
      cases unlock <;> rfl

theorem update_free {o : LockOutcomes} {m : EventCollectors} (hm : m.Free)
    (reader : JsonObjectReader) :
    update o reader m
      = if o.lock then
          some (if o.unlock then (passResult reader.rootObject m.eventPriorities).1
              else .lockException, reader,
            released o.unlock { m with
              eventPriorities := (passResult reader.rootObject m.eventPriorities).2 })
        else some (.lockException, reader, m) := by
  unfold update
  rw [locked_free hm fun m' => by rw [setValuesBody_eq]; exact ⟨rfl, rfl⟩, setValuesBody_eq]
  rfl

/-- A module that is not free does not let an update touch its settings. -/
theorem update_not_free {o : LockOutcomes} {m m' : EventCollectors} (hm : ¬ m.Free)
    {reader reader' : JsonObjectReader} {r : TwinConfigurationResult}
    (h : update o reader m = some (r, reader', m')) :
    r = .lockException ∧ m'.eventPriorities = m.eventPriorities := by
  obtain ⟨p, handle, flag⟩ := m
  obtain ⟨lock, unlock⟩ := o
  cases flag with
  | true =>
      -- refused by the flag; the release that follows is done all the same
      simp only [update, locked, takeLock, if_true, Option.some.injEq, Prod.mk.injEq] at h
      obtain ⟨hr, -, rfl⟩ := h
      refine ⟨hr.symm, ?_⟩
      unfold releaseLock
      cases handle <;> cases unlock <;> rfl
  | false =>
      cases handle with
      | null =>
          simp only [update, locked, takeLock, LockHandle.lock, releaseLock, Bool.false_eq_true,
            if_false, Option.some.injEq, Prod.mk.injEq] at h
          obtain ⟨hr, -, rfl⟩ := h
          exact ⟨hr.symm, rfl⟩
      | free => exact absurd ⟨rfl, rfl⟩ hm
      | held =>
          simp only [update, locked, takeLock, LockHandle.lock, Bool.false_eq_true, if_false,
            reduceCtorEq] at h

end EventCollectors

/-! ## Where the settings are read from -/

namespace Reference

/-- The agent's object in the document `members`, under any name: the dots of a name are
followed. -/
def locateDotted (objectName : String) (members : Json.Members) : Location :=
  match Json.dotget [] members (Json.path objectName) with
  | none => .missing
  | some (.null, _) => .missing
  | some (.object object, _) => .found object
  | some _ => .rejected

/-- The agent's object in what a document parses to. -/
def located (objectName : String) (complete : Bool) : Option Json → Location
  | some (.object members) =>
      if complete then
        match members.lookup "desired" with
        | some (.object desired) => locateDotted objectName desired
        | _ => .rejected
      else locateDotted objectName members
  | _ => .rejected

theorem locateDotted_of_no_dot {objectName : String} (h : '.' ∉ objectName.toList)
    (members : Json.Members) : locateDotted objectName members = locate objectName members := by
  unfold locateDotted locate
  rw [Json.dotget_of_no_dot h]
  cases members.lookup objectName with
  | none => rfl
  | some v => cases v <;> rfl

/-- Where a name has no dots, `located` is `location`. -/
theorem located_of_no_dot {objectName : String} (h : '.' ∉ objectName.toList) (complete : Bool)
    (document : Json) :
    located objectName complete (some document) = location objectName complete document := by
  unfold located location
  cases document with
  | object members =>
      dsimp only
      rw [locateDotted_of_no_dot h]
      cases members.lookup "desired" with
      | none => rfl
      | some v =>
          cases v with
          | object desired => dsimp only; rw [locateDotted_of_no_dot h]
          | null | bool _ | number _ | string _ | array _ => rfl
  | null | bool _ | number _ | string _ | array _ => rfl

end Reference

namespace TwinModule

open TwinConfiguration

/-- Where a step in under the agent's name leads. -/
theorem stepIn_eq (objectName : String) (reader : JsonObjectReader) :
    match locateDotted objectName reader.rootObject with
    | .rejected => reader.stepIn objectName = .error .parseError
    | .missing => reader.stepIn objectName = .error .keyMissing
        ∨ reader.stepIn objectName = .error .valueIsNull
    | .found object => ∃ around, reader.stepIn objectName = .ok ⟨object, around⟩ := by
  unfold locateDotted stepIn getValueOfType
  have h := Json.dotget_value reader.parents [] reader.rootObject (Json.path objectName)
  cases hx : Json.dotget [] reader.rootObject (Json.path objectName) with
  | none =>
      rw [hx, Option.map_none, Option.map_eq_none_iff] at h
      rw [h]
      exact Or.inl rfl
  | some found =>
      obtain ⟨v, around⟩ := found
      rw [hx] at h
      obtain ⟨⟨v', around'⟩, hy, hv⟩ := Option.map_eq_some_iff.mp h
      dsimp only at hv
      subst hv
      rw [hy]
      cases v' with
      | null => exact Or.inr rfl
      | object members => exact ⟨around', rfl⟩
      | bool _ | number _ | string _ | array _ => rfl

/-- The last step, from the object the name is looked up in. -/
theorem stepIn_cases (objectName : String) (o : UpdateOutcome) (s : TwinModule)
    (reader : JsonObjectReader) :
    let rest := match reader.stepIn objectName with
      | .ok jsonReader => updateFrom o jsonReader s
      | .error .keyMissing | .error .valueIsNull =>
          if o.emptyReader then updateFrom o ⟨[], []⟩ s else none
      | .error _ => some (cleanup o false {} .parseException s)
    match locateDotted objectName reader.rootObject with
    | .rejected => ∃ r, (r = .exception ∨ r = .parseException)
        ∧ rest = some (cleanup o false {} r s)
    | .missing => rest = if o.emptyReader then updateFrom o ⟨[], []⟩ s else none
    | .found object => ∃ around, rest = updateFrom o ⟨object, around⟩ s := by
  have hstep := stepIn_eq objectName reader
  cases hloc : locateDotted objectName reader.rootObject with
  | rejected =>
      rw [hloc] at hstep
      dsimp only at hstep ⊢
      rw [hstep]
      exact ⟨_, Or.inr rfl, rfl⟩
  | missing =>
      rw [hloc] at hstep
      dsimp only at hstep ⊢
      rcases hstep with hs | hs <;> rw [hs]
  | found object =>
      rw [hloc] at hstep
      obtain ⟨around, hs⟩ := hstep
      dsimp only
      exact ⟨around, by rw [hs]⟩

/-- An update that has not come to an object yet: it is refused, or starts from the object `{}`,
or goes on from the object it found. -/
theorem update_cases (objectName : String) (o : UpdateOutcome) (parsed : Option Json)
    (complete : Bool) (s : TwinModule) :
    match (if o.reader then located objectName complete parsed else .rejected) with
    | .rejected => ∃ r, (r = .exception ∨ r = .parseException)
        ∧ update objectName o parsed complete s = some (cleanup o false {} r s)
    | .missing => update objectName o parsed complete s
        = if o.emptyReader then updateFrom o ⟨[], []⟩ s else none
    | .found object => ∃ around,
        update objectName o parsed complete s = updateFrom o ⟨object, around⟩ s := by
  have hname := stepIn_cases objectName o s
  unfold update
  cases o.reader with
  | false => exact ⟨_, Or.inl rfl, rfl⟩
  | true =>
      rw [if_pos rfl]
      unfold located
      cases parsed with
      | none => exact ⟨_, Or.inl rfl, rfl⟩
      | some document =>
          cases document with
          | null | bool _ | number _ | string _ | array _ => exact ⟨_, Or.inl rfl, rfl⟩
          | object members =>
              cases complete with
              | false => exact hname ⟨members, []⟩
              | true =>
                  have hdesired : '.' ∉ "desired".toList := by decide
                  have hinit : initFromString true (some (.object members)) = .ok ⟨members, []⟩ := rfl
                  rw [hinit]
                  dsimp only
                  rw [if_pos rfl, if_pos rfl, stepIn_of_no_dot hdesired]
                  cases members.lookup "desired" with
                  | none => exact ⟨_, Or.inr rfl, rfl⟩
                  | some v =>
                      cases v with
                      | object desired => exact hname ⟨desired, [members]⟩
                      | null | bool _ | number _ | string _ | array _ => exact ⟨_, Or.inr rfl, rfl⟩

/-- The object an update reads its settings from, if it gets to one. -/
def objectRead (objectName : String) (o : UpdateOutcome) (parsed : Option Json)
    (complete : Bool) : Option Json.Members :=
  match (if o.reader then located objectName complete parsed else .rejected) with
  | .rejected => none
  | .missing => if o.emptyReader then some [] else none
  | .found object => some object

theorem update_of_read {objectName : String} {o : UpdateOutcome} {parsed : Option Json}
    {complete : Bool} {object : Json.Members}
    (h : objectRead objectName o parsed complete = some object) (s : TwinModule) :
    ∃ around, update objectName o parsed complete s = updateFrom o ⟨object, around⟩ s := by
  have hcases := update_cases objectName o parsed complete s
  unfold objectRead at h
  cases hl : (if o.reader then located objectName complete parsed else .rejected : Location) with
  | rejected => rw [hl] at h; exact absurd h (by simp)
  | missing =>
      rw [hl] at h hcases
      dsimp only at h hcases
      cases he : o.emptyReader with
      | false => rw [he] at h; exact absurd h (by simp)
      | true =>
          rw [he, if_pos rfl] at h hcases
          rw [← Option.some.inj h]
          exact ⟨[], hcases⟩
  | found found =>
      rw [hl] at h hcases
      rw [← Option.some.inj h]
      exact hcases

/-- An update that gets to no object changes nothing but what it reports. -/
theorem update_not_read {objectName : String} {o : UpdateOutcome} {parsed : Option Json}
    {complete : Bool} (h : objectRead objectName o parsed complete = none) (s : TwinModule) :
    (update objectName o parsed complete s = none
        ∧ o.reader = true ∧ located objectName complete parsed = .missing
        ∧ o.emptyReader = false)
      ∨ (o.reader = true → located objectName complete parsed ≠ .missing)
        ∧ ∃ r, (r = .exception ∨ r = .parseException)
          ∧ update objectName o parsed complete s
            = some (r, { s with updateResult := ⟨o.currentTime, r, {}⟩ }) := by
  have hcases := update_cases objectName o parsed complete s
  unfold objectRead at h
  cases hl : (if o.reader then located objectName complete parsed else .rejected : Location) with
  | rejected =>
      rw [hl] at hcases
      obtain ⟨r, hr, hu⟩ := hcases
      refine Or.inr ⟨fun hreader hm => ?_, r, hr, hu.trans ?_⟩
      · rw [hreader, if_pos rfl, hm] at hl
        exact absurd hl (by simp)
      · rcases hr with hr | hr <;> rw [hr] <;> rfl
  | missing =>
      rw [hl] at h hcases
      cases he : o.emptyReader with
      | true => rw [he] at h; exact absurd h (by simp)
      | false =>
          rw [he] at hcases
          cases hreader : o.reader with
          | false => rw [hreader] at hl; exact absurd hl (by simp)
          | true => rw [hreader] at hl; exact Or.inl ⟨hcases, rfl, hl, rfl⟩
  | found object => rw [hl] at h; exact absurd h (by simp)

/-! ## Once the reader stands on the object -/

section Stages

variable {o : UpdateOutcome} {reader : JsonObjectReader} {s : TwinModule}

/-- Twin settings that do not decode end the update before any lock is asked for. -/
theorem updateFrom_undecoded (h : ¬ ConfigurationDecodes reader.rootObject) :
    updateFrom o reader s = some (.parseException, { s with updateResult :=
      ⟨o.currentTime, .parseException, bundleStatus reader.rootObject⟩ }) := by
  obtain ⟨c, hc, -⟩ := runExtractConfiguration_eq reader
  rw [if_neg h] at hc
  unfold updateFrom
  rw [hc]
  rfl

theorem updateFrom_refused (h : ConfigurationDecodes reader.rootObject) {handle : LockHandle}
    (hl : s.lock.lock o.locks.lock = some (false, handle)) :
    updateFrom o reader s = some (.lockException, { s with
      lock := handle
      updateResult := ⟨o.currentTime, .lockException, bundleStatus reader.rootObject⟩ }) := by
  obtain ⟨c, hc, -⟩ := runExtractConfiguration_eq reader
  rw [if_pos h] at hc
  unfold updateFrom
  rw [hc]
  dsimp only
  rw [hl]
  rfl

theorem updateFrom_blocked (h : ConfigurationDecodes reader.rootObject) (hl : s.lock = .held) :
    updateFrom o reader s = none := by
  obtain ⟨c, hc, -⟩ := runExtractConfiguration_eq reader
  rw [if_pos h] at hc
  unfold updateFrom
  rw [hc]
  dsimp only
  rw [hl]
  rfl

/-- The end of an update, once the event collectors have answered. -/
def finish (o : UpdateOutcome) (newBundleStatus : TwinConfigurationBundleStatus)
    (newConfiguration : TwinConfiguration) (s : TwinModule) :
    TwinConfigurationResult → TwinConfigurationResult × TwinModule
  | .ok =>
      match deepCopy o newConfiguration (safeDeinit s) with
      | (returnValue, s) => cleanup o true newBundleStatus returnValue s
  | .parseException =>
      cleanup o true { newBundleStatus with eventPriorities := .typeMismatch } .parseException s
  | returnValue => cleanup o true newBundleStatus returnValue s

theorem updateFrom_taken (h : ConfigurationDecodes reader.rootObject) (hl : s.lock = .free)
    (ho : o.locks.lock = true) :
    updateFrom o reader s
      = (EventCollectors.update o.collectorsLocks reader s.collectors).map fun answer =>
          finish o (bundleStatus reader.rootObject) (Reference.configuration reader.rootObject)
            { s with lock := .held, collectors := answer.2.2 } answer.1 := by
  obtain ⟨c, hc, hdecoded⟩ := runExtractConfiguration_eq reader
  rw [if_pos h, hdecoded h] at hc
  have htaken : s.lock.lock o.locks.lock = some (true, .held) := by rw [hl, ho]; rfl
  unfold updateFrom
  rw [hc]
  dsimp only
  rw [htaken]
  dsimp only
  cases EventCollectors.update o.collectorsLocks reader s.collectors with
  | none => rfl
  | some answer =>
      obtain ⟨r, reader', collectors⟩ := answer
      cases r <;> rfl

end Stages

/-- There is memory for the strings of the new configuration. -/
def Copies (o : UpdateOutcome) (c : TwinConfiguration) : Prop :=
  (c.baselineCustomChecksFilePath ≠ none → o.filePath = true)
    ∧ (c.baselineCustomChecksFileHash ≠ none → o.fileHash = true)

instance (o : UpdateOutcome) (c : TwinConfiguration) : Decidable (Copies o c) :=
  inferInstanceAs (Decidable (_ ∧ _))

theorem duplicateString_eq (malloc : Bool) (s : Option String) :
    duplicateString malloc s = if s ≠ none → malloc = true then some s else none := by
  cases s with
  | none => rfl
  | some s => cases malloc <;> simp [duplicateString]

/-- The records are the same, but for the strings of the baseline checks. -/
def SameScalars (c c' : TwinConfiguration) : Prop :=
  ∃ filePath fileHash, c = { c' with
    baselineCustomChecksFilePath := filePath, baselineCustomChecksFileHash := fileHash }

/-- The copy is the whole record, or memory was short for its strings. -/
theorem deepCopy_eq (o : UpdateOutcome) (c : TwinConfiguration) (s : TwinModule) :
    if Copies o c then deepCopy o c s.safeDeinit = (.ok, { s with configuration := c })
    else ∃ c', SameScalars c' c
      ∧ deepCopy o c s.safeDeinit = (.memoryException, { s with configuration := c' }) := by
  unfold deepCopy
  rw [duplicateString_eq, duplicateString_eq]
  by_cases hp : c.baselineCustomChecksFilePath ≠ none → o.filePath = true
  · rw [if_pos hp]
    by_cases hh : c.baselineCustomChecksFileHash ≠ none → o.fileHash = true
    · rw [if_pos hh, if_pos ⟨hp, hh⟩]
      rfl
    · rw [if_neg hh, if_neg fun hcopies => hh hcopies.2]
      exact ⟨_, ⟨_, _, rfl⟩, rfl⟩
  · rw [if_neg hp, if_neg fun hcopies => hp hcopies.1]
    exact ⟨_, ⟨_, _, rfl⟩, rfl⟩

section Finish

variable {o : UpdateOutcome} {b : TwinConfigurationBundleStatus} {c : TwinConfiguration}
  {s : TwinModule}

/-- What `cleanup` leaves behind, deinitialisation apart. -/
def settled (o : UpdateOutcome) (b : TwinConfigurationBundleStatus) (r : TwinConfigurationResult)
    (s : TwinModule) : TwinModule :=
  { s with
    lock := if o.locks.unlock then .free else .held
    updateResult := ⟨o.currentTime, r, b⟩ }

theorem cleanup_taken (hs : s.lock = .held) (r : TwinConfigurationResult) :
    cleanup o true b r s
      = (if o.locks.unlock then r else .lockException,
          if o.locks.unlock ∧ r = .memoryException then (settled o b r s).deinit
          else settled o b r s) := by
  unfold cleanup settled
  dsimp only
  rw [hs, if_pos rfl]
  cases o.locks.unlock with
  | false => rfl
  | true =>
      by_cases hr : r = .memoryException
      · simp [LockHandle.unlock, hr]
      · simp [LockHandle.unlock, hr]

theorem finish_ok (hs : s.lock = .held) (hc : Copies o c) :
    finish o b c s .ok
      = (if o.locks.unlock then .ok else .lockException,
          settled o b .ok { s with configuration := c }) := by
  have hcopy := deepCopy_eq o c s
  rw [if_pos hc] at hcopy
  unfold finish
  dsimp only
  rw [hcopy]
  have hheld : ({ s with configuration := c } : TwinModule).lock = .held := hs
  exact (cleanup_taken hheld .ok).trans (Prod.ext rfl (if_neg fun h => by simp at h))

/-- Without the memory for its strings the module cannot go on. -/
theorem finish_uncopied (hs : s.lock = .held) (hc : ¬ Copies o c) :
    ∃ r s', finish o b c s .ok = (r, s') ∧ r ≠ .ok ∧ s'.lock ≠ .free
      ∧ s'.collectors.eventPriorities = s.collectors.eventPriorities
      ∧ SameScalars s'.configuration c ∧ s'.updateResult.configurationBundleStatus = b := by
  have hcopy := deepCopy_eq o c s
  rw [if_neg hc] at hcopy
  obtain ⟨c', hscalars, hcopy⟩ := hcopy
  unfold finish
  dsimp only
  rw [hcopy]
  have hheld : ({ s with configuration := c' } : TwinModule).lock = .held := hs
  dsimp only
  rw [cleanup_taken hheld]
  cases hu : o.locks.unlock with
  | false =>
      refine ⟨_, _, rfl, by decide, ?_, rfl, hscalars, rfl⟩
      simp [settled, hu]
  | true =>
      obtain ⟨filePath, fileHash, rfl⟩ := hscalars
      refine ⟨_, _, rfl, by decide, ?_, rfl, ⟨_, _, rfl⟩, rfl⟩
      simp [deinit]

theorem finish_failed (hs : s.lock = .held) {r : TwinConfigurationResult} (hr : r ≠ .ok)
    (hm : r ≠ .memoryException) :
    ∃ status, finish o b c s r
      = (if o.locks.unlock then r else .lockException,
          settled o { b with eventPriorities := status } r s) := by
  have hclean : ∀ b', cleanup o true b' r s
      = (if o.locks.unlock then r else .lockException, settled o b' r s) := by
    intro b'
    exact (cleanup_taken hs r).trans (Prod.ext rfl (if_neg fun h => hm h.2))
  cases r with
  | ok => exact absurd rfl hr
  | memoryException => exact absurd rfl hm
  | confNotExist | lockException | exception => exact ⟨b.eventPriorities, hclean b⟩
  | parseException => exact ⟨_, hclean _⟩

end Finish

end TwinModule

end SecurityAgent
