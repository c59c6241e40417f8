import SecurityAgent.Collectors.CustomChecksCommand
import SecurityAgent.Lib.Lent
import SecurityAgent.Lib.Run

/-!
# The custom checks in two threads

The baseline collector asks the twin configuration for the texts of its custom checks, and the update
task replaces them. Here the two take their steps in any order: `TwinConfiguration_Update` is the list
of its instructions, and a collection goes through its phases.

How the texts are kept is a parameter: by reference, as the code does, or by copy. By copy, either
thread alone does what its functions do in one piece (`commit_alone`, `collect_alone`).
-/

namespace SecurityAgent

open Machine Lent TwinModule

namespace CustomChecks

/-- The settings of the twin configuration that are pointers. -/
inductive StringField where
  | filePath
  | fileHash
  deriving DecidableEq, Repr

/-- What the thread that updates the configuration does next. -/
inductive Instruction where
  /-- `free` of a setting that is not `NULL`. -/
  | free (field : StringField)
  /-- The setting becomes `NULL`. -/
  | clear (field : StringField)
  | setEnabled (baselineCustomChecksEnabled : Bool)
  /-- `Utils_DuplicateString` into the setting. -/
  | duplicate (field : StringField) (src : Option String) (malloc : Bool)
  | unlock (outcome : Bool)
  | deinitLock

/-- `TwinConfiguration_SafeDeinit`. -/
def safeDeinit : List Instruction :=
  [.free .filePath, .clear .filePath, .free .fileHash, .clear .fileHash]

/-- `TwinConfiguration_Deinit`, the event collectors apart. -/
def deinit : List Instruction := safeDeinit ++ [.deinitLock]

/-- The end of `TwinConfiguration_Update`. -/
def cleanup (unlock memoryException : Bool) : List Instruction :=
  .unlock unlock :: if unlock && memoryException then deinit else []

/-- `TwinConfiguration_Update` from `TwinConfiguration_SafeDeinit` on, the numbers apart. -/
def commit (newConfiguration : TwinConfiguration) (o : UpdateOutcome) : List Instruction :=
  safeDeinit ++ .setEnabled newConfiguration.baselineCustomChecksEnabled
    :: .duplicate .filePath newConfiguration.baselineCustomChecksFilePath o.filePath
    :: if duplicateString o.filePath newConfiguration.baselineCustomChecksFilePath = none then
        cleanup o.locks.unlock true
      else .duplicate .fileHash newConfiguration.baselineCustomChecksFileHash o.fileHash
        :: cleanup o.locks.unlock
          (duplicateString o.fileHash newConfiguration.baselineCustomChecksFileHash).isNone

/-- The getters of the settings of the custom checks. -/
inductive Getter where
  | enabled
  | string (field : StringField)
  deriving DecidableEq, Repr

/-- Where the baseline collector is. -/
inductive Phase where
  | outside
  /-- About to evaluate the argument of the getter, which is the setting. -/
  | evaluating (getter : Getter)
  /-- In the getter. -/
  | giving (getter : Getter)
  /-- About to see whether the text is blank. -/
  | testing (field : StringField)
  /-- About to format the command. -/
  | formatting
  deriving DecidableEq, Repr

/-- The configuration and its two threads, their texts apart. -/
structure Control where
  lock : LockHandle
  baselineCustomChecksEnabled : Bool
  /-- What is left of an update. -/
  program : List Instruction
  phase : Phase
  /-- `enabled` of the collector's `BaselineCustomChecksConfiguration`. -/
  enabled : Bool

/-- The configuration and its two threads. The texts are in `σ`: the settings are the owner's places,
and the collector's `BaselineCustomChecksConfiguration` has what was lent. -/
structure TwinStrings (σ : Type) where
  control : Control
  strings : σ

/-- What happens next. -/
inductive Move where
  /-- An update comes to the lock. It commits the configuration, or fails before it does. -/
  | update (commits : Option TwinConfiguration) (o : UpdateOutcome)
  /-- The agent deinitialises the configuration. -/
  | deinit
  /-- The next instruction of the update. -/
  | proceed
  /-- A collection comes to the custom checks. -/
  | collect
  /-- The next step of the collection. -/
  | collector (locks : EventCollectors.LockOutcomes)

/-- What can be seen of a move. -/
inductive Seen where
  | nothing
  /-- The thread waits, or is elsewhere. -/
  | waits
  /-- The collection runs the custom checks with these texts, or not at all. -/
  | decided (texts : Option (String × String))
  deriving DecidableEq, Repr

section Step

variable {σ : Type} (S : Places StringField String σ)

/-- An instruction of the update. -/
def perform (s : TwinStrings σ) : Instruction → Option (TwinStrings σ)
  | .free field => (S.free field s.strings).map fun strings => { s with strings := strings }
  | .clear field => some { s with strings := S.clear field s.strings }
  | .setEnabled enabled =>
      some { s with control := { s.control with baselineCustomChecksEnabled := enabled } }
  | .duplicate field src malloc =>
      match (duplicateString malloc src).join with
      | none => some { s with strings := S.clear field s.strings }
      | some text => some { s with strings := S.put field text s.strings }
  | .unlock outcome =>
      some { s with control := { s.control with lock := (s.control.lock.unlock outcome).2 } }
  | .deinitLock => some { s with control := { s.control with lock := .null } }

/-- `BaselineCollector_IsBaselineCustomChecksEnabled` behind a getter that succeeded. -/
def afterGetter (control : Control) : Getter → Seen × Control
  | .enabled => (.nothing, { control with phase := .evaluating (.string .filePath) })
  | .string .filePath => (.nothing, { control with phase := .evaluating (.string .fileHash) })
  | .string .fileHash =>
      if control.enabled then (.nothing, { control with phase := .testing .filePath })
      else (.decided none, { control with phase := .outside })

/-- The rest of a getter: the lock is taken and given back for the copy of its argument. -/
def give (locks : EventCollectors.LockOutcomes) (getter : Getter) (control : Control) :
    Seen × Control :=
  match control.lock.lock locks.lock with
  | none => (.waits, control)
  | some (false, handle) => (.decided none, { control with lock := handle, phase := .outside })
  | some (true, handle) =>
      match handle.unlock locks.unlock with
      | (false, handle) => (.decided none, { control with lock := handle, phase := .outside })
      | (true, handle) => afterGetter { control with lock := handle } getter

/-- A step of the collection. -/
def collectorStep (locks : EventCollectors.LockOutcomes) (s : TwinStrings σ) :
    Option (Seen × TwinStrings σ) :=
  match s.control.phase with
  | .outside => some (.waits, s)
  | .evaluating .enabled =>
      some (.nothing, { s with control := { s.control with
        enabled := s.control.baselineCustomChecksEnabled, phase := .giving .enabled } })
  | .evaluating (.string field) =>
      some (.nothing, ⟨{ s.control with phase := .giving (.string field) }, S.lend field s.strings⟩)
  | .giving getter =>
      some ((give locks getter s.control).1, { s with control := (give locks getter s.control).2 })
  | .testing field =>
      (S.read field s.strings).map fun text =>
        if BaselineCollector.isStringBlank text then
          (.decided none, { s with control := { s.control with phase := .outside } })
        else (.nothing, { s with control := { s.control with
          phase := if field = .filePath then .testing .fileHash else .formatting } })
  | .formatting =>
      (S.read .filePath s.strings).bind fun filePath =>
        (S.read .fileHash s.strings).map fun fileHash =>
          (.decided (filePath.bind fun filePath => fileHash.map fun fileHash => (filePath, fileHash)),
            { s with control := { s.control with phase := .outside } })

/-- One move. A thread that cannot make it waits. `none` is a fault. -/
def step (s : TwinStrings σ) : Move → Option (Seen × TwinStrings σ)
  | .update commits o =>
      if s.control.program ≠ [] then some (.waits, s)
      else
        match s.control.lock.lock o.locks.lock with
        | none => some (.waits, s)
        | some (false, _) => some (.nothing, s)
        | some (true, handle) =>
            some (.nothing, { s with control := { s.control with
              lock := handle
              program := match commits with
                | none => cleanup o.locks.unlock false
                | some newConfiguration => commit newConfiguration o } })
  | .deinit =>
      if s.control.program ≠ [] then some (.waits, s)
      else some (.nothing, { s with control := { s.control with program := deinit } })
  | .proceed =>
      match s.control.program with
      | [] => some (.waits, s)
      | instruction :: program =>
          (perform S { s with control := { s.control with program := program } } instruction).map
            fun s => (.nothing, s)
  | .collect =>
      if s.control.phase ≠ .outside then some (.waits, s)
      else some (.nothing, { s with control := { s.control with phase := .evaluating .enabled } })
  | .collector locks => collectorStep S locks s

end Step

/-- `TwinConfiguration_Init` has succeeded. -/
def Control.init : Control :=
  ⟨.free, TwinConfiguration.default.baselineCustomChecksEnabled, [], .outside, false⟩

/-- The texts are kept as the code keeps them. -/
abbrev ByReference := TwinStrings (References StringField String)

/-- The texts are copied by the getters. -/
abbrev ByCopy := TwinStrings (Copies StringField String)

def ByReference.init : ByReference := ⟨Control.init, References.empty⟩

def ByCopy.init : ByCopy := ⟨Control.init, Copies.empty⟩

/-! ## One thread alone -/

/-- The configuration is that of the module. -/
structure Represents (t : ByCopy) (m : TwinModule) : Prop where
  lock : t.control.lock = m.lock
  enabled : t.control.baselineCustomChecksEnabled = m.configuration.baselineCustomChecksEnabled
  filePath : t.strings.owner .filePath = m.configuration.baselineCustomChecksFilePath
  fileHash : t.strings.owner .fileHash = m.configuration.baselineCustomChecksFileHash

/-- This is left of the update. -/
def toDo (program : List Instruction) (t : ByCopy) : ByCopy :=
  ⟨{ t.control with program := program }, t.strings⟩

theorem perform_toDo (t : ByCopy) (program : List Instruction) (instruction : Instruction) :
    perform byCopy (toDo program t) instruction
      = (perform byCopy t instruction).map (toDo program) := by
  cases instruction with
  | free _ | clear _ | setEnabled _ | unlock _ | deinitLock => rfl
  | duplicate field src malloc =>
      rw [perform, perform]
      cases (duplicateString malloc src).join <;> rfl

/-- An update that nobody interrupts performs its instructions. -/
theorem run_proceed {program : List Instruction} {t t' : ByCopy}
    (h : program.foldlM (perform byCopy) t = some t') :
    ∃ seen, run (step byCopy) (toDo program t) (List.replicate program.length .proceed)
      = some (seen, toDo [] t') := by
  induction program generalizing t with
  | nil =>
      obtain rfl := Option.some.inj h
      exact ⟨[], rfl⟩
  | cons instruction program ih =>
      rw [List.foldlM_cons] at h
      obtain ⟨t₁, hfirst, hrest⟩ := Option.bind_eq_some_iff.mp h
      obtain ⟨seen, hseen⟩ := ih hrest
      have hstep : step byCopy (toDo (instruction :: program) t) .proceed
          = some (.nothing, toDo program t₁) := by
        have hperform := perform_toDo t program instruction
        rw [hfirst, Option.map_some] at hperform
        exact congrArg (Option.map fun s => (Seen.nothing, s)) hperform
      refine ⟨.nothing :: seen, ?_⟩
      rw [List.length_cons, List.replicate_succ]
      simp only [run, hstep, hseen]

theorem perform_safeDeinit (t : ByCopy) :
    ∃ c, safeDeinit.foldlM (perform byCopy) t = some ⟨t.control, c⟩ ∧ ∀ field, c.owner field = none := by
  refine ⟨_, rfl, fun field => ?_⟩
  cases field <;> rfl

section Represents

variable {t : ByCopy} {m : TwinModule}

theorem Represents.safeDeinit (h : Represents t m) :
    ∃ t', CustomChecks.safeDeinit.foldlM (perform byCopy) t = some t' ∧ Represents t' m.safeDeinit := by
  obtain ⟨c, hc, hnone⟩ := perform_safeDeinit t
  exact ⟨_, hc, h.lock, h.enabled, hnone .filePath, hnone .fileHash⟩

theorem Represents.duplicate {configuration : TwinConfiguration}
    (h : Represents t { m with configuration := configuration }) (src : Option String)
    (malloc : Bool) :
    (∃ t', perform byCopy t (.duplicate .filePath src malloc) = some t'
      ∧ Represents t' { m with configuration := { configuration with
        baselineCustomChecksFilePath := (duplicateString malloc src).join } })
    ∧ ∃ t', perform byCopy t (.duplicate .fileHash src malloc) = some t'
      ∧ Represents t' { m with configuration := { configuration with
        baselineCustomChecksFileHash := (duplicateString malloc src).join } } := by
  rw [perform, perform]
  cases (duplicateString malloc src).join with
  | none =>
      exact ⟨⟨_, rfl, h.lock, h.enabled, rfl, h.fileHash⟩, _, rfl, h.lock, h.enabled, h.filePath, rfl⟩
  | some text =>
      exact ⟨⟨_, rfl, h.lock, h.enabled, rfl, h.fileHash⟩, _, rfl, h.lock, h.enabled, h.filePath, rfl⟩

/-- The end of an update, whatever its result is. -/
theorem Represents.cleanup (h : Represents t m) (hheld : m.lock = .held) (o : UpdateOutcome)
    (b : TwinConfigurationBundleStatus) (r : TwinConfigurationResult) :
    ∃ t', (CustomChecks.cleanup o.locks.unlock (decide (r = .memoryException))).foldlM
        (perform byCopy) t = some t'
      ∧ Represents t' (TwinModule.cleanup o true b r m).2 := by
  have hlock : t.control.lock = .held := h.lock.trans hheld
  have hafter : (TwinModule.cleanup o true b r m).2
      = if o.locks.unlock ∧ r = .memoryException then (settled o b r m).deinit
        else settled o b r m := congrArg Prod.snd (cleanup_taken hheld r)
  rw [hafter, CustomChecks.cleanup, List.foldlM_cons, perform, hlock]
  have hbare : Represents
      ⟨{ t.control with lock := if o.locks.unlock then .free else .held }, t.strings⟩
      (settled o b r m) := ⟨rfl, h.enabled, h.filePath, h.fileHash⟩
  cases hunlock : o.locks.unlock with
  | false =>
      rw [hunlock] at hbare
      exact ⟨_, rfl, by rw [if_neg fun hf => Bool.false_ne_true hf.1]; exact hbare⟩
  | true =>
      rw [hunlock] at hbare
      by_cases hr : r = .memoryException
      · obtain ⟨t', ht', hempty⟩ := hbare.safeDeinit
        refine ⟨⟨{ t'.control with lock := .null }, t'.strings⟩, ?_, ?_⟩
        · rw [if_pos (by rw [decide_eq_true hr]; rfl)]
          exact List.foldlM_append.trans (congrArg (Option.bind · _) ht')
        · rw [if_pos ⟨rfl, hr⟩]
          exact ⟨rfl, hempty.enabled, hempty.filePath, hempty.fileHash⟩
      · refine ⟨⟨{ t.control with lock := .free }, t.strings⟩, ?_, ?_⟩
        · rw [if_neg (by rw [decide_eq_false hr]; exact Bool.false_ne_true)]
          rfl
        · rw [if_neg fun hf => hr hf.2]
          exact hbare

/-- The texts of an update, up to its end. -/
theorem Represents.copy (h : Represents t m) (c : TwinConfiguration) (o : UpdateOutcome) :
    ∃ t' copies, copies.foldlM (perform byCopy) t = some t'
      ∧ commit c o = copies
        ++ CustomChecks.cleanup o.locks.unlock
          (decide ((deepCopy o c m.safeDeinit).1 = .memoryException))
      ∧ Represents t' (deepCopy o c m.safeDeinit).2 := by
  obtain ⟨t₀, ht₀, hempty⟩ := h.safeDeinit
  have henabled : Represents ⟨{ t₀.control with
      baselineCustomChecksEnabled := c.baselineCustomChecksEnabled }, t₀.strings⟩
      { m with configuration := { c with
        baselineCustomChecksFilePath := none, baselineCustomChecksFileHash := none } } :=
    ⟨hempty.lock, rfl, hempty.filePath, hempty.fileHash⟩
  obtain ⟨t₁, ht₁, hpath⟩ := (henabled.duplicate c.baselineCustomChecksFilePath o.filePath).1
  obtain ⟨t₂, ht₂, hhash⟩ := (hpath.duplicate c.baselineCustomChecksFileHash o.fileHash).2
  unfold commit deepCopy
  cases hcopy : duplicateString o.filePath c.baselineCustomChecksFilePath with
  | none =>
      rw [hcopy] at hpath
      refine ⟨t₁, CustomChecks.safeDeinit ++ [.setEnabled c.baselineCustomChecksEnabled,
        .duplicate .filePath c.baselineCustomChecksFilePath o.filePath], ?_, ?_, hpath⟩
      · rw [List.foldlM_append, ht₀]
        exact congrArg (Option.bind · some) ht₁
      · rfl
  | some path =>
      rw [hcopy] at hhash
      refine ⟨t₂, CustomChecks.safeDeinit ++ [.setEnabled c.baselineCustomChecksEnabled,
        .duplicate .filePath c.baselineCustomChecksFilePath o.filePath,
        .duplicate .fileHash c.baselineCustomChecksFileHash o.fileHash], ?_, ?_, ?_⟩
      · rw [List.foldlM_append, ht₀]
        refine (congrArg (Option.bind · _) ht₁).trans ?_
        exact congrArg (Option.bind · some) ht₂
      · cases duplicateString o.fileHash c.baselineCustomChecksFileHash <;> rfl
      · cases hcopy' : duplicateString o.fileHash c.baselineCustomChecksFileHash with
        | none =>
            rw [hcopy'] at hhash
            exact hhash
        | some hash =>
            rw [hcopy'] at hhash
            exact hhash

/-- **An update that nobody interrupts** leaves the configuration as `TwinConfiguration_Update` does
in one piece. -/
theorem commit_alone (h : Represents t m) (hheld : m.lock = .held) (c : TwinConfiguration)
    (o : UpdateOutcome) (b : TwinConfigurationBundleStatus) :
    ∃ seen t', run (step byCopy) (toDo (commit c o) t) (List.replicate (commit c o).length .proceed)
        = some (seen, toDo [] t')
      ∧ Represents t' (finish o b c m .ok).2 := by
  obtain ⟨t₁, copies, ht₁, hcommit, hcopied⟩ := h.copy c o
  have hlock : (deepCopy o c m.safeDeinit).2.lock = .held := by
    have hcopy := deepCopy_eq o c m
    split at hcopy
    · rw [hcopy]
      exact hheld
    · obtain ⟨c', -, hcopy⟩ := hcopy
      rw [hcopy]
      exact hheld
  obtain ⟨t', ht', hrep⟩ := hcopied.cleanup hlock o b (deepCopy o c m.safeDeinit).1
  have hall : (commit c o).foldlM (perform byCopy) t = some t' := by
    rw [hcommit, List.foldlM_append, ht₁]
    exact ht'
  obtain ⟨seen, hseen⟩ := run_proceed hall
  exact ⟨seen, t', hseen, hrep⟩

end Represents

/-- What a collection decides. -/
def Seen.decision : Seen → Option (Option (String × String))
  | .decided texts => some texts
  | .nothing | .waits => none

theorem run_cons {t t₁ t' : ByCopy} {move : Move} {moves : List Move} {o : Seen} {seen : List Seen}
    (hstep : step byCopy t move = some (o, t₁))
    (hrest : run (step byCopy) t₁ moves = some (seen, t')) :
    run (step byCopy) t (move :: moves) = some (o :: seen, t') := by
  simp only [run, hstep, hrest]

section Collection

variable {t : ByCopy} {locks : EventCollectors.LockOutcomes}

theorem step_testing {field : StringField} (hphase : t.control.phase = .testing field) :
    step byCopy t (.collector locks)
      = some (if BaselineCollector.isStringBlank (t.strings.lent field) then
          (.decided none, { t with control := { t.control with phase := .outside } })
        else (.nothing, { t with control := { t.control with
          phase := if field = .filePath then .testing .fileHash else .formatting } })) := by
  unfold step collectorStep
  dsimp only
  rw [hphase]
  rfl

theorem run_outside (hphase : t.control.phase = .outside) : ∀ n : Nat,
    run (step byCopy) t (List.replicate n (.collector locks))
      = some (List.replicate n .waits, t) := by
  have hstep : step byCopy t (.collector locks) = some (.waits, t) := by
    unfold step collectorStep
    dsimp only
    rw [hphase]
  intro n
  induction n with
  | zero => rfl
  | succ n ih => exact run_cons hstep ih

/-- `isBaselineCustomChecksEnabled`, in the order in which the collection looks at the texts. -/
theorem isBaselineCustomChecksEnabled_eq (filePath fileHash : Option String) :
    BaselineCollector.isBaselineCustomChecksEnabled (some ⟨true, filePath, fileHash⟩)
      = if BaselineCollector.isStringBlank filePath then none
        else if BaselineCollector.isStringBlank fileHash then none
        else filePath.bind fun filePath => fileHash.map fun fileHash => (filePath, fileHash) := by
  unfold BaselineCollector.isBaselineCustomChecksEnabled
  cases filePath with
  | none => rfl
  | some path =>
      dsimp only
      cases hpath : BaselineCollector.isStringBlank (some path) with
      | true => cases fileHash <;> rfl
      | false =>
          cases fileHash with
          | none => rfl
          | some hash =>
              dsimp only
              cases BaselineCollector.isStringBlank (some hash) <;> rfl

/-- The collection sees whether the texts it was given are blank, and formats them if they are not. -/
theorem run_testing (hphase : t.control.phase = .testing .filePath) :
    ∃ seen t', run (step byCopy) t (List.replicate 3 (.collector locks)) = some (seen, t')
      ∧ seen.filterMap Seen.decision = [BaselineCollector.isBaselineCustomChecksEnabled
        (some ⟨true, t.strings.lent .filePath, t.strings.lent .fileHash⟩)] := by
  have hpath := @step_testing t locks _ hphase
  have hhash := @step_testing ⟨{ t.control with phase := .testing .fileHash }, t.strings⟩ locks _ rfl
  rw [isBaselineCustomChecksEnabled_eq]
  cases hblank : BaselineCollector.isStringBlank (t.strings.lent .filePath) with
  | true =>
      rw [hblank] at hpath
      exact ⟨_, _, run_cons hpath (run_outside rfl 2), rfl⟩
  | false =>
      rw [hblank] at hpath
      cases hblank' : BaselineCollector.isStringBlank (t.strings.lent .fileHash) with
      | true =>
          rw [hblank'] at hhash
          exact ⟨_, _, run_cons hpath (run_cons hhash (run_outside rfl 1)), rfl⟩
      | false =>
          rw [hblank'] at hhash
          exact ⟨_, _, run_cons hpath (run_cons hhash (run_cons rfl rfl)), rfl⟩

/-- The getters give the collection the configuration, if the lock is free. -/
theorem run_getters (hfree : t.control.lock = .free) (hphase : t.control.phase = .outside)
    {moves : List Move} {seen : List Seen} {t' : ByCopy}
    (hrest : run (step byCopy)
      ⟨{ t.control with
          phase := if t.control.baselineCustomChecksEnabled then .testing .filePath else .outside
          enabled := t.control.baselineCustomChecksEnabled },
        byCopy.lend .fileHash (byCopy.lend .filePath t.strings)⟩ moves = some (seen, t')) :
    ∃ seen', run (step byCopy) t
        (.collect :: List.replicate 6 (.collector ⟨true, true⟩) ++ moves) = some (seen', t')
      ∧ seen'.filterMap Seen.decision
        = (if t.control.baselineCustomChecksEnabled then [] else [none])
          ++ seen.filterMap Seen.decision := by
  obtain ⟨⟨lock, enabled, program, phase, custom⟩, strings⟩ := t
  dsimp only at *
  subst hfree hphase
  cases enabled with
  | false =>
      exact ⟨_, run_cons rfl (run_cons rfl (run_cons rfl (run_cons rfl (run_cons rfl (run_cons rfl
        (run_cons rfl hrest)))))), rfl⟩
  | true =>
      exact ⟨_, run_cons rfl (run_cons rfl (run_cons rfl (run_cons rfl (run_cons rfl (run_cons rfl
        (run_cons rfl hrest)))))), rfl⟩

/-- **A collection that nobody interrupts** decides as
`BaselineCollector_IsBaselineCustomChecksEnabled` does of the configuration. -/
theorem collect_alone {m : TwinModule} (h : Represents t m) (hfree : m.lock = .free)
    (hphase : t.control.phase = .outside) :
    ∃ seen t', run (step byCopy) t (.collect :: List.replicate 9 (.collector ⟨true, true⟩))
        = some (seen, t')
      ∧ seen.filterMap Seen.decision = [BaselineCollector.isBaselineCustomChecksEnabled
        (some ⟨m.configuration.baselineCustomChecksEnabled,
          m.configuration.baselineCustomChecksFilePath,
          m.configuration.baselineCustomChecksFileHash⟩)] := by
  rw [← h.enabled, ← h.filePath, ← h.fileHash]
  cases henabled : t.control.baselineCustomChecksEnabled with
  | false =>
      obtain ⟨seen, hrun, hseen⟩ := run_getters (h.lock.trans hfree) hphase
        (run_outside (by rw [henabled]; rfl) 3)
      rw [henabled] at hseen
      refine ⟨seen, _, hrun, hseen.trans ?_⟩
      cases t.strings.owner .filePath <;> cases t.strings.owner .fileHash <;> rfl
  | true =>
      obtain ⟨seen, t', hrun, hseen⟩ := @run_testing
        ⟨{ t.control with
            phase := if t.control.baselineCustomChecksEnabled then .testing .filePath else .outside
            enabled := t.control.baselineCustomChecksEnabled },
          byCopy.lend .fileHash (byCopy.lend .filePath t.strings)⟩ ⟨true, true⟩
        (by rw [henabled]; rfl)
      obtain ⟨seen', hrun', hseen'⟩ := run_getters (h.lock.trans hfree) hphase hrun
      rw [henabled, hseen] at hseen'
      exact ⟨seen', t', hrun', hseen'⟩

end Collection

end CustomChecks

end SecurityAgent
