import SecurityAgent.Collectors.BaselineCollector
import SecurityAgent.Lib.Shell
import SecurityAgent.Twin.RoundTrip

/-!
# What the shell reads of the custom checks

The path and the hash of the custom checks come from the twin. Nothing is asked of the two texts
but that they are not blank: they are put into a command as they are, and a shell reads it, as
root. It reads one command with the two as arguments exactly if they are plain words.
-/

namespace SecurityAgent

open JsonObjectReader TwinConfigurationUtils TwinConfiguration

/-! ## From the twin to the collector -/

namespace TwinModule

/-- `TwinConfiguration_GetFieldBool` and `TwinConfiguration_GetFieldString`. The field is read
before the lock is asked for. -/
def getField {α : Type} (o : EventCollectors.LockOutcomes) (field : TwinConfiguration → α)
    (s : TwinModule) : Option (Except TwinConfigurationResult α × TwinModule) :=
  let value := field s.configuration
  match s.lock.lock o.lock with
  | none => none
  | some (false, handle) => some (.error .lockException, { s with lock := handle })
  | some (true, handle) =>
      match handle.unlock o.unlock with
      | (false, handle) => some (.error .lockException, { s with lock := handle })
      | (true, handle) => some (.ok value, { s with lock := handle })

/-- `TwinConfiguration_GetBaselineCustomChecksEnabled`. -/
def getBaselineCustomChecksEnabled (o : EventCollectors.LockOutcomes) :
    TwinModule → Option (Except TwinConfigurationResult Bool × TwinModule) :=
  getField o (·.baselineCustomChecksEnabled)

/-- `TwinConfiguration_GetBaselineCustomChecksFilePath`. -/
def getBaselineCustomChecksFilePath (o : EventCollectors.LockOutcomes) :
    TwinModule → Option (Except TwinConfigurationResult (Option String) × TwinModule) :=
  getField o (·.baselineCustomChecksFilePath)

/-- `TwinConfiguration_GetBaselineCustomChecksFileHash`. -/
def getBaselineCustomChecksFileHash (o : EventCollectors.LockOutcomes) :
    TwinModule → Option (Except TwinConfigurationResult (Option String) × TwinModule) :=
  getField o (·.baselineCustomChecksFileHash)

/-- A getter that is not disturbed. -/
theorem getField_free {α : Type} (field : TwinConfiguration → α) {s : TwinModule}
    (hs : s.lock = .free) :
    getField ⟨true, true⟩ field s = some (.ok (field s.configuration), s) := by
  obtain ⟨configuration, lock, collectors, updateResult⟩ := s
  cases hs
  rfl

end TwinModule

namespace BaselineCollector

open TwinModule

/-- How the lock answers the three getters. -/
structure GetterOutcomes where
  enabled : EventCollectors.LockOutcomes
  filePath : EventCollectors.LockOutcomes
  fileHash : EventCollectors.LockOutcomes

/-- What the three getters fill in, `none` inside if one of them fails. -/
def customChecksConfiguration (o : GetterOutcomes) (s : TwinModule) :
    Option (Option BaselineCustomChecksConfiguration × TwinModule) :=
  match getBaselineCustomChecksEnabled o.enabled s with
  | none => none
  | some (.error _, s) => some (none, s)
  | some (.ok enabled, s) =>
      match getBaselineCustomChecksFilePath o.filePath s with
      | none => none
      | some (.error _, s) => some (none, s)
      | some (.ok filePath, s) =>
          match getBaselineCustomChecksFileHash o.fileHash s with
          | none => none
          | some (.error _, s) => some (none, s)
          | some (.ok fileHash, s) => some (some ⟨enabled, filePath, fileHash⟩, s)

theorem customChecksConfiguration_free {s : TwinModule} (hs : s.lock = .free) :
    customChecksConfiguration ⟨⟨true, true⟩, ⟨true, true⟩, ⟨true, true⟩⟩ s
      = some (some ⟨s.configuration.baselineCustomChecksEnabled,
          s.configuration.baselineCustomChecksFilePath,
          s.configuration.baselineCustomChecksFileHash⟩, s) := by
  unfold customChecksConfiguration getBaselineCustomChecksEnabled getBaselineCustomChecksFilePath
    getBaselineCustomChecksFileHash
  rw [getField_free _ hs]
  dsimp only
  rw [getField_free _ hs]
  dsimp only
  rw [getField_free _ hs]

/-- Blank texts are not used. -/
theorem not_blank_of_enabled {config : Option BaselineCustomChecksConfiguration}
    {filePath fileHash : String}
    (h : isBaselineCustomChecksEnabled config = some (filePath, fileHash)) :
    isStringBlank (some filePath) = false ∧ isStringBlank (some fileHash) = false := by
  unfold isBaselineCustomChecksEnabled at h
  split at h
  · cases h
  · split at h
    · next config _ _ hpath hhash =>
      split at h
      · next hset =>
        obtain ⟨rfl, rfl⟩ := Prod.mk.inj (Option.some.inj h)
        rw [hpath, hhash, Bool.and_eq_true, Bool.and_eq_true, Bool.not_eq_true',
          Bool.not_eq_true'] at hset
        exact ⟨hset.1.2, hset.2⟩
      · cases h
    · cases h

/-- The two texts are used for the custom checks after some twin that is accepted. -/
def Settable (filePath fileHash : String) : Prop :=
  ∃ (objectName : String) (s s₁ s₂ : TwinModule) (call : UpdateCall) (o : GetterOutcomes)
    (config : Option BaselineCustomChecksConfiguration),
    Machine.Reaches (step objectName) init s ∧ step objectName s call = some (.ok, s₁)
      ∧ customChecksConfiguration o s₁ = some (config, s₂)
      ∧ isBaselineCustomChecksEnabled config = some (filePath, fileHash)

section Desired

variable (filePath fileHash : String)

/-- What a twin that sets the two texts says. -/
def desired : List (String × Json) :=
  [(BASELINE_CUSTOM_CHECKS_ENABLED_KEY, .bool true),
    (BASELINE_CUSTOM_CHECKS_FILE_PATH_KEY, .string filePath),
    (BASELINE_CUSTOM_CHECKS_FILE_HASH_KEY, .string fileHash)]

theorem nodup_desired : ((desired filePath fileHash).map Prod.fst).Nodup := by
  show [BASELINE_CUSTOM_CHECKS_ENABLED_KEY, BASELINE_CUSTOM_CHECKS_FILE_PATH_KEY,
    BASELINE_CUSTOM_CHECKS_FILE_HASH_KEY].Nodup
  decide

/-- It says nothing of the other settings. -/
theorem valid_of_not_desired {α : Type} (decode : Decoder α) {key : String}
    (h : key ∉ [BASELINE_CUSTOM_CHECKS_ENABLED_KEY, BASELINE_CUSTOM_CHECKS_FILE_PATH_KEY,
      BASELINE_CUSTOM_CHECKS_FILE_HASH_KEY]) :
    (settingOf decode (writeAll [] (desired filePath fileHash)) key).Valid := by
  rw [settingOf_not_written decode h]
  trivial

theorem settingOf_desired {α : Type} {decode : Decoder α} {key : String} {value : Json} {a : α}
    (h : (key, value) ∈ desired filePath fileHash) (hdecode : decode value = some a) :
    settingOf decode (writeAll [] (desired filePath fileHash)) key = .value a := by
  rw [settingOf_written decode (nodup_desired filePath fileHash) h, hdecode]

theorem settingOf_desired_enabled :
    settingOf asBool (writeAll [] (desired filePath fileHash)) BASELINE_CUSTOM_CHECKS_ENABLED_KEY
      = .value true :=
  settingOf_desired filePath fileHash List.mem_cons_self rfl

theorem settingOf_desired_filePath :
    settingOf asString (writeAll [] (desired filePath fileHash))
      BASELINE_CUSTOM_CHECKS_FILE_PATH_KEY = .value filePath :=
  settingOf_desired filePath fileHash (List.mem_cons_of_mem _ List.mem_cons_self) rfl

theorem settingOf_desired_fileHash :
    settingOf asString (writeAll [] (desired filePath fileHash))
      BASELINE_CUSTOM_CHECKS_FILE_HASH_KEY = .value fileHash :=
  settingOf_desired filePath fileHash
    (List.mem_cons_of_mem _ (List.mem_cons_of_mem _ List.mem_cons_self)) rfl

/-- It is accepted. -/
theorem commits_desired :
    Commits "agent" init ⟨.ok 0, some (.object
      [("agent", .object (writeAll [] (desired filePath fileHash)))]), false⟩
      (writeAll [] (desired filePath fileHash)) where
  read := rfl
  configuration := by
    refine ⟨valid_of_not_desired _ _ _ (by decide), valid_of_not_desired _ _ _ (by decide),
      valid_of_not_desired _ _ _ (by decide), valid_of_not_desired _ _ _ (by decide),
      valid_of_not_desired _ _ _ (by decide), ?_, ?_, ?_⟩
    · rw [settingOf_desired_enabled]
      trivial
    · rw [settingOf_desired_filePath]
      trivial
    · rw [settingOf_desired_fileHash]
      trivial
  free := rfl
  locked := rfl
  collectorsFree := ⟨rfl, rfl⟩
  collectorsLocked := rfl
  priorities := by
    refine ⟨?_, ?_, ?_, ?_, ?_, ?_, ?_, ?_, ?_, ?_⟩ <;> exact valid_of_not_desired _ _ _ (by decide)
  aggregation := by
    refine ⟨?_, ?_, ?_, ?_⟩ <;> exact valid_of_not_desired _ _ _ (by decide)

end Desired

/-- Every two texts can be set that are not blank. -/
theorem settable_iff (filePath fileHash : String) :
    Settable filePath fileHash
      ↔ isStringBlank (some filePath) = false ∧ isStringBlank (some fileHash) = false := by
  constructor
  · rintro ⟨-, -, -, -, -, -, config, -, -, -, hconfig⟩
    exact not_blank_of_enabled hconfig
  · rintro ⟨hpath, hhash⟩
    have hupdate := update_succeeds (commits_desired filePath fileHash)
      ⟨rfl, ⟨fun _ => rfl, fun _ => rfl⟩, rfl⟩
    have hconfig : Reference.configuration (writeAll [] (desired filePath fileHash))
        = { default with
            baselineCustomChecksEnabled := true
            baselineCustomChecksFilePath := some filePath
            baselineCustomChecksFileHash := some fileHash } := by
      rfl
    refine ⟨"agent", init, _, _, _, _, _, .start, hupdate, customChecksConfiguration_free rfl, ?_⟩
    show isBaselineCustomChecksEnabled (some ⟨(Reference.configuration _).baselineCustomChecksEnabled,
      (Reference.configuration _).baselineCustomChecksFilePath,
      (Reference.configuration _).baselineCustomChecksFileHash⟩) = _
    rw [hconfig]
    unfold isBaselineCustomChecksEnabled
    dsimp only
    rw [hpath, hhash]
    rfl

/-! ## What the shell reads -/

/-- The words of the command, as they are meant. -/
def customChecksArguments (filePath fileHash : String) : List (List Char) :=
  ["./omsbaseline".toList, "-ccfp".toList, filePath.toList, "-ccfh".toList, fileHash.toList]

/-- The shell reads one command, with the two texts as arguments. -/
def OneCommand (filePath fileHash : String) : Prop :=
  Shell.simpleCommand (customChecksCommand filePath fileHash).toList
    = some (customChecksArguments filePath fileHash)

instance (filePath fileHash : String) : Decidable (OneCommand filePath fileHash) :=
  inferInstanceAs (Decidable (_ = _))

theorem toList_customChecksCommand (filePath fileHash : String) :
    (customChecksCommand filePath fileHash).toList
      = [' '].intercalate (customChecksArguments filePath fileHash) := by
  unfold customChecksCommand customChecksArguments
  rw [String.toList_append, String.toList_append, String.toList_append]
  simp [List.intercalate]

/-- **The shell reads the two texts as they are exactly if they are plain words.** -/
theorem oneCommand_iff (filePath fileHash : String) :
    OneCommand filePath fileHash
      ↔ Shell.IsPlain filePath.toList ∧ Shell.IsPlain fileHash.toList := by
  have hname : Shell.IsFileName "./omsbaseline".toList := by
    unfold Shell.IsFileName
    decide
  have hfixed : Shell.IsPlain "./omsbaseline".toList ∧ Shell.IsPlain "-ccfp".toList
      ∧ Shell.IsPlain "-ccfh".toList := by
    decide
  unfold OneCommand
  rw [toList_customChecksCommand]
  unfold customChecksArguments
  rw [Shell.simpleCommand_intercalate_iff hname]
  constructor
  · intro h
    exact ⟨h _ (by simp), h _ (by simp)⟩
  · rintro ⟨hpath, hhash⟩ word hword
    simp only [List.mem_cons, List.not_mem_nil, or_false] at hword
    rcases hword with rfl | rfl | rfl | rfl | rfl
    · exact hfixed.1
    · exact hfixed.2.1
    · exact hpath
    · exact hfixed.2.2
    · exact hhash

/-- **Exactly when no twin injects a command with these two texts**: they are plain words, or one of
them is blank and there is no command. -/
theorem noInjection_iff (filePath fileHash : String) :
    (Settable filePath fileHash → OneCommand filePath fileHash)
      ↔ isStringBlank (some filePath) = true ∨ isStringBlank (some fileHash) = true
        ∨ Shell.IsPlain filePath.toList ∧ Shell.IsPlain fileHash.toList := by
  rw [settable_iff, oneCommand_iff]
  cases isStringBlank (some filePath) <;> cases isStringBlank (some fileHash) <;> simp

/-- A twin sets the path `/tmp/x;reboot`, and root reboots the device. -/
theorem injected_reboot :
    ¬ ∀ filePath fileHash : String,
      Settable filePath fileHash → OneCommand filePath fileHash := by
  intro h
  have hset : Settable "/tmp/x;reboot" "abc" :=
    (settable_iff _ _).mpr ⟨by decide, by decide⟩
  exact absurd (h _ _ hset) (by decide)

end BaselineCollector

end SecurityAgent
