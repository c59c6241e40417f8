import SecurityAgent.Collectors.CustomChecksThreads

/-!
# How long the texts of the custom checks live

The getters of the file path and the file hash give out the twin configuration's own pointers, and
the baseline collector reads the texts when it has given the lock back. `TwinConfiguration_Update`
frees them. The lock does not order the two: a getter evaluates its argument before it takes the
lock, and nobody has it when the texts are read.

So the code does what it would do with copies exactly as long as a collection comes to no text that
an update has freed since it was given (`custom_checks_read_what_was_given`).
-/

namespace SecurityAgent

open Machine Lent TwinModule

namespace CustomChecks

/-- The collection comes to no text that has been freed since it was given. -/
def ReadsFresh (t : ByCopy) : Move → Prop
  | .collector _ =>
      match t.control.phase with
      | .testing field => t.strings.Fresh field
      | .formatting => t.strings.Fresh .filePath ∧ t.strings.Fresh .fileHash
      | .outside | .evaluating _ | .giving _ => True
  | .update .. | .deinit | .proceed | .collect => True

/-! ## What an update does in its order -/

/-- What is freed is forgotten next, and a text is put where there is none; this is known of the
settings before. In the end nothing is left that has been freed. -/
def Orderly : (freed empty : StringField → Bool) → List Instruction → Prop
  | freed, _, [] => ∀ field, freed field = false
  | freed, empty, .free field :: program =>
      freed field = false ∧ Orderly (Function.update freed field true) empty program
  | freed, empty, .clear field :: program =>
      (freed field = true ∨ empty field = true)
        ∧ Orderly (Function.update freed field false) (Function.update empty field true) program
  | freed, empty, .duplicate field src malloc :: program =>
      empty field = true
        ∧ Orderly (Function.update freed field false)
            (Function.update empty field (duplicateString malloc src).join.isNone) program
  | freed, empty, .setEnabled _ :: program => Orderly freed empty program
  | freed, empty, .unlock _ :: program => Orderly freed empty program
  | freed, empty, .deinitLock :: program =>
      (∀ field, freed field = false) ∧ (∀ field, empty field = true) ∧ program = []

section Orderly

variable {freed empty : StringField → Bool}

theorem orderly_safeDeinit (hfreed : ∀ field, freed field = false) {program : List Instruction}
    (h : ∀ freed' empty' : StringField → Bool, (∀ field, freed' field = false) →
      (∀ field, empty' field = true) → Orderly freed' empty' program) :
    Orderly freed empty (safeDeinit ++ program) := by
  have hother : Function.update freed .filePath true .fileHash = false :=
    (Function.update_of_ne (by decide) _ _).trans (hfreed .fileHash)
  refine ⟨hfreed .filePath, Or.inl (Function.update_self ..), ?_, Or.inl (Function.update_self ..),
    h _ _ (fun field => ?_) fun field => ?_⟩
  · rw [Function.update_of_ne (by decide)]
    exact hother
  · cases field with
    | filePath =>
        rw [Function.update_of_ne (by decide), Function.update_of_ne (by decide),
          Function.update_self]
    | fileHash => exact Function.update_self ..
  · cases field with
    | filePath => rw [Function.update_of_ne (by decide), Function.update_self]
    | fileHash => exact Function.update_self ..

theorem orderly_deinit (hfreed : ∀ field, freed field = false) : Orderly freed empty deinit :=
  orderly_safeDeinit hfreed fun _ _ hfreed' hempty' => ⟨hfreed', hempty', rfl⟩

theorem orderly_cleanup (hfreed : ∀ field, freed field = false) (unlock memoryException : Bool) :
    Orderly freed empty (cleanup unlock memoryException) := by
  unfold cleanup
  rw [Orderly]
  split
  · exact orderly_deinit hfreed
  · exact hfreed

theorem orderly_duplicate (hfreed : ∀ field, freed field = false) {field : StringField}
    (hempty : empty field = true) (src : Option String) (malloc : Bool)
    {program : List Instruction}
    (h : ∀ freed' : StringField → Bool, (∀ field, freed' field = false) →
      Orderly freed' (Function.update empty field (duplicateString malloc src).join.isNone)
        program) :
    Orderly freed empty (.duplicate field src malloc :: program) := by
  refine ⟨hempty, h _ fun other => ?_⟩
  by_cases he : other = field
  · rw [he, Function.update_self]
  · rw [Function.update_of_ne he]
    exact hfreed other

theorem orderly_commit (hfreed : ∀ field, freed field = false)
    (newConfiguration : TwinConfiguration) (o : UpdateOutcome) :
    Orderly freed empty (commit newConfiguration o) := by
  refine orderly_safeDeinit hfreed fun freed' empty' hfreed' hempty' => ?_
  rw [Orderly]
  refine orderly_duplicate hfreed' (hempty' _) _ _ fun freed' hfreed' => ?_
  split
  · exact orderly_cleanup hfreed' _ _
  · refine orderly_duplicate hfreed' ?_ _ _ fun freed' hfreed' => orderly_cleanup hfreed' _ _
    rw [Function.update_of_ne (by decide)]
    exact hempty' _

end Orderly

/-! ## The simulation -/

/-- The two ways to keep the texts are at the same point, and the update is in its order. -/
structure Alike (s : ByReference) (t : ByCopy) : Prop where
  control : s.control = t.control
  agrees : Agrees s.strings t.strings
  orderly : ∃ empty : StringField → Bool, (∀ field, empty field = true → t.strings.owner field = none)
    ∧ Orderly t.strings.freed empty t.control.program
  /-- Without its lock the configuration stays empty. -/
  ended : t.control.lock = .null → (∀ field, t.strings.owner field = none)
    ∧ ∀ field src malloc, .duplicate field src malloc ∉ t.control.program

theorem alike_init : Alike ByReference.init ByCopy.init where
  control := rfl
  agrees := agrees_empty
  orderly := ⟨fun _ => true, fun _ _ => rfl, fun _ => rfl⟩
  ended := fun h => by cases h

section Alike

variable {s : ByReference} {t : ByCopy}

/-- Only the texts and what is left of the update matter. -/
theorem Alike.step (h : Alike s t) (control : Control)
    (hprogram : control.program = t.control.program)
    (hlock : control.lock = .null → t.control.lock = .null) {r : References StringField String}
    {c : Copies StringField String} (hagrees : Agrees r c) (howner : c.owner = t.strings.owner)
    (hfreed : c.freed = t.strings.freed) :
    Alike ⟨control, r⟩ ⟨control, c⟩ where
  control := rfl
  agrees := hagrees
  orderly := by
    rw [howner, hfreed, hprogram]
    exact h.orderly
  ended := fun hnull => by
    rw [howner, hprogram]
    exact h.ended (hlock hnull)

/-- The update thread begins something. -/
theorem Alike.begin (h : Alike s t) (hidle : t.control.program = []) {lock : LockHandle}
    {program : List Instruction}
    (horderly : ∀ freed empty : StringField → Bool, (∀ field, freed field = false) →
      Orderly freed empty program)
    (hended : lock = .null → t.control.lock = .null
      ∧ ∀ field src malloc, .duplicate field src malloc ∉ program) :
    Alike ⟨{ t.control with lock := lock, program := program }, s.strings⟩
      ⟨{ t.control with lock := lock, program := program }, t.strings⟩ := by
  obtain ⟨empty, -, horder⟩ := h.orderly
  rw [hidle] at horder
  refine ⟨rfl, h.agrees, ⟨fun _ => false, ?_, horderly _ _ horder⟩, fun hnull => ?_⟩
  · intro field hf
    cases hf
  obtain ⟨hnull', hnone⟩ := hended hnull
  exact ⟨(h.ended hnull').1, hnone⟩

theorem empty_update {owner : StringField → Option String} {empty : StringField → Bool}
    (h : ∀ field, empty field = true → owner field = none) (field : StringField)
    (text : Option String) : ∀ other, Function.update empty field text.isNone other = true →
      Function.update owner field text other = none := by
  intro other ho
  by_cases he : other = field
  · rw [he, Function.update_self] at ho ⊢
    exact Option.isNone_iff_eq_none.mp ho
  · rw [Function.update_of_ne he] at ho ⊢
    exact h other ho

theorem not_duplicate_deinit (field : StringField) (src : Option String) (malloc : Bool) :
    .duplicate field src malloc ∉ deinit := by
  unfold deinit safeDeinit
  simp

theorem eq_null_of_unlock {handle : LockHandle} {outcome : Bool}
    (h : (handle.unlock outcome).2 = .null) : handle = .null := by
  cases handle with
  | null => rfl
  | free | held => cases outcome <;> cases h

/-- **An instruction of the update is the same for both**, and no fault: nothing is freed twice. -/
theorem perform_alike (h : Alike s t) {instruction : Instruction} {program : List Instruction}
    (hprogram : t.control.program = instruction :: program) :
    ∃ s' t',
      perform byReference ⟨{ t.control with program := program }, s.strings⟩ instruction = some s'
      ∧ perform byCopy ⟨{ t.control with program := program }, t.strings⟩ instruction = some t'
      ∧ Alike s' t' := by
  obtain ⟨empty, hempty, horder⟩ := h.orderly
  rw [hprogram] at horder
  have hended : t.control.lock = .null → (∀ field, t.strings.owner field = none)
      ∧ ∀ field src malloc, .duplicate field src malloc ∉ program := fun hnull => by
    obtain ⟨hnone, hnot⟩ := h.ended hnull
    rw [hprogram] at hnot
    exact ⟨hnone, fun field src malloc hmem => hnot field src malloc (List.mem_cons_of_mem _ hmem)⟩
  cases instruction with
  | free field =>
      obtain ⟨hfreed, horder⟩ := horder
      obtain ⟨r, c, hr, hc, hagrees, howner, hflags⟩ := h.agrees.free hfreed
      refine ⟨⟨_, r⟩, ⟨_, c⟩, by rw [perform, hr]; rfl, by rw [perform, hc]; rfl, rfl, hagrees,
        ⟨empty, ?_, ?_⟩, ?_⟩
      · rw [howner]
        exact hempty
      · rw [hflags]
        exact horder
      · rw [howner]
        exact hended
  | clear field =>
      obtain ⟨hfreed, horder⟩ := horder
      refine ⟨_, _, rfl, rfl, rfl, h.agrees.clear (hfreed.imp_right (hempty field)),
        ⟨_, empty_update hempty field none, horder⟩, fun hnull => ⟨fun other => ?_, (hended hnull).2⟩⟩
      by_cases he : other = field
      · rw [he]
        exact Function.update_self ..
      · exact (Function.update_of_ne he ..).trans ((hended hnull).1 other)
  | setEnabled enabled => exact ⟨_, _, rfl, rfl, rfl, h.agrees, ⟨empty, hempty, horder⟩, hended⟩
  | duplicate field src malloc =>
      obtain ⟨hnone, horder⟩ := horder
      have hrest := empty_update hempty field (duplicateString malloc src).join
      -- a configuration without its lock is not given any text
      have hlock : t.control.lock ≠ .null := fun hnull =>
        (h.ended hnull).2 field src malloc (hprogram ▸ List.mem_cons_self)
      rw [perform, perform]
      cases hcopy : (duplicateString malloc src).join with
      | none =>
          rw [hcopy] at horder hrest
          exact ⟨_, _, rfl, rfl, rfl, h.agrees.clear (Or.inr (hempty field hnone)),
            ⟨_, hrest, horder⟩, fun hnull => absurd hnull hlock⟩
      | some text =>
          rw [hcopy] at horder hrest
          exact ⟨_, _, rfl, rfl, rfl, h.agrees.put (hempty field hnone) text, ⟨_, hrest, horder⟩,
            fun hnull => absurd hnull hlock⟩
  | unlock outcome =>
      refine ⟨_, _, rfl, rfl, rfl, h.agrees, ⟨empty, hempty, horder⟩, fun hnull => hended ?_⟩
      exact eq_null_of_unlock hnull
  | deinitLock =>
      obtain ⟨hfreed, hnone, rfl⟩ := horder
      refine ⟨_, _, rfl, rfl, rfl, h.agrees, ⟨empty, hempty, hfreed⟩, fun _ => ⟨fun field => ?_, ?_⟩⟩
      · exact hempty field (hnone field)
      · exact fun _ _ _ => List.not_mem_nil

/-- A getter takes no part in an update. -/
theorem give_frame (locks : EventCollectors.LockOutcomes) (getter : Getter) (control : Control) :
    (give locks getter control).2.program = control.program
      ∧ ((give locks getter control).2.lock = .null → control.lock = .null) := by
  have hafter : ∀ control' : Control, (afterGetter control' getter).2.program = control'.program
      ∧ (afterGetter control' getter).2.lock = control'.lock := fun control' => by
    unfold afterGetter
    split
    · exact ⟨rfl, rfl⟩
    · exact ⟨rfl, rfl⟩
    · split <;> exact ⟨rfl, rfl⟩
  unfold give
  cases hlock : control.lock with
  | null => exact ⟨rfl, fun _ => rfl⟩
  | held => exact ⟨rfl, fun hnull => hlock.symm.trans hnull⟩
  | free =>
      cases locks.lock with
      | false => exact ⟨rfl, fun hnull => by cases hnull⟩
      | true =>
          cases locks.unlock with
          | false => exact ⟨rfl, fun hnull => by cases hnull⟩
          | true =>
              obtain ⟨hprogram, hfree⟩ := hafter { control with lock := .free }
              refine ⟨hprogram, fun hnull => ?_⟩
              cases hfree.symm.trans hnull

/-- A step of the collection is the same for both, or a fault. -/
theorem collectorStep_alike (h : Alike s t) (locks : EventCollectors.LockOutcomes) :
    (ReadsFresh t (.collector locks) →
      ∃ o s' t', collectorStep byReference locks s = some (o, s')
        ∧ collectorStep byCopy locks t = some (o, t') ∧ Alike s' t')
    ∧ (¬ ReadsFresh t (.collector locks) → collectorStep byReference locks s = none) := by
  obtain ⟨control, r⟩ := s
  obtain ⟨control', c⟩ := t
  obtain rfl : control = control' := h.control
  have hphase : ∀ phase,
      Alike ⟨{ control with phase := phase }, r⟩ ⟨{ control with phase := phase }, c⟩ := fun phase =>
    h.step { control with phase := phase } rfl (fun hnull => hnull) h.agrees rfl rfl
  unfold ReadsFresh collectorStep
  cases control.phase with
  | outside => exact ⟨fun _ => ⟨_, _, _, rfl, rfl, h⟩, fun hn => absurd trivial hn⟩
  | evaluating getter =>
      cases getter with
      | enabled =>
          refine ⟨fun _ => ⟨_, _, _, rfl, rfl, ?_⟩, fun hn => absurd trivial hn⟩
          exact h.step { control with
            enabled := control.baselineCustomChecksEnabled, phase := .giving .enabled }
            rfl (fun hnull => hnull) h.agrees rfl rfl
      | string field =>
          refine ⟨fun _ => ⟨_, _, _, rfl, rfl, ?_⟩, fun hn => absurd trivial hn⟩
          exact h.step { control with phase := .giving (.string field) }
            rfl (fun hnull => hnull) (h.agrees.lend field) rfl rfl
  | giving getter =>
      refine ⟨fun _ => ⟨_, _, _, rfl, rfl, ?_⟩, fun hn => absurd trivial hn⟩
      obtain ⟨hprogram, hnull⟩ := give_frame locks getter control
      exact h.step _ hprogram hnull h.agrees rfl rfl
  | testing field =>
      obtain ⟨hfresh, hstale⟩ := h.agrees.read field
      have hcopy : byCopy.read field c = some (c.lent field) := rfl
      dsimp only
      rw [hcopy]
      refine ⟨fun hf => ?_, fun hn => by rw [hstale hn]; rfl⟩
      rw [hfresh hf]
      cases hblank : BaselineCollector.isStringBlank (c.lent field) with
      | true =>
          rw [Option.map_some, Option.map_some, hblank]
          exact ⟨_, _, _, rfl, rfl, hphase _⟩
      | false =>
          rw [Option.map_some, Option.map_some, hblank]
          exact ⟨_, _, _, rfl, rfl, hphase _⟩
  | formatting =>
      obtain ⟨hpath, hpathStale⟩ := h.agrees.read .filePath
      obtain ⟨hhash, hhashStale⟩ := h.agrees.read .fileHash
      dsimp only
      constructor
      · rintro ⟨hf, hf'⟩
        rw [hpath hf, hhash hf']
        exact ⟨_, _, _, rfl, rfl, hphase _⟩
      · intro hn
        by_cases hf : c.Fresh .filePath
        · rw [hpath hf, hhashStale fun hf' => hn ⟨hf, hf'⟩]
          rfl
        · rw [hpathStale hf]
          rfl

theorem not_duplicate_cleanup (unlock : Bool) (field : StringField) (src : Option String)
    (malloc : Bool) : .duplicate field src malloc ∉ cleanup unlock false := by
  unfold cleanup
  rw [Bool.and_false, if_neg Bool.false_ne_true]
  simp

/-- **A move is the same for both, or a fault.** -/
theorem step_alike (h : Alike s t) (move : Move) :
    (ReadsFresh t move →
      ∃ o s' t', step byReference s move = some (o, s') ∧ step byCopy t move = some (o, t')
        ∧ Alike s' t')
    ∧ (¬ ReadsFresh t move → step byReference s move = none) := by
  obtain ⟨control, r⟩ := s
  obtain ⟨control', c⟩ := t
  obtain rfl : control = control' := h.control
  cases move with
  | collector locks => exact collectorStep_alike h locks
  | collect =>
      refine ⟨fun _ => ?_, fun hn => absurd trivial hn⟩
      unfold step
      dsimp only
      by_cases houtside : control.phase = .outside
      · rw [if_neg (fun hne => hne houtside), if_neg (fun hne => hne houtside)]
        exact ⟨_, _, _, rfl, rfl, h.step { control with phase := .evaluating .enabled }
          rfl (fun hnull => hnull) h.agrees rfl rfl⟩
      · rw [if_pos houtside, if_pos houtside]
        exact ⟨_, _, _, rfl, rfl, h⟩
  | proceed =>
      refine ⟨fun _ => ?_, fun hn => absurd trivial hn⟩
      unfold step
      dsimp only
      cases hprogram : control.program with
      | nil => exact ⟨_, _, _, rfl, rfl, h⟩
      | cons instruction program =>
          obtain ⟨s', t', hs, ht, h'⟩ := perform_alike h hprogram
          exact ⟨.nothing, s', t', by dsimp only; rw [hs]; rfl, by dsimp only; rw [ht]; rfl, h'⟩
  | deinit =>
      refine ⟨fun _ => ?_, fun hn => absurd trivial hn⟩
      unfold step
      dsimp only
      by_cases hidle : control.program = []
      · rw [if_neg (fun hne => hne hidle), if_neg (fun hne => hne hidle)]
        exact ⟨_, _, _, rfl, rfl, h.begin hidle (fun _ _ => orderly_deinit) fun hnull =>
          ⟨hnull, not_duplicate_deinit⟩⟩
      · rw [if_pos hidle, if_pos hidle]
        exact ⟨_, _, _, rfl, rfl, h⟩
  | update commits o =>
      refine ⟨fun _ => ?_, fun hn => absurd trivial hn⟩
      unfold step
      dsimp only
      by_cases hidle : control.program = []
      swap
      · rw [if_pos hidle, if_pos hidle]
        exact ⟨_, _, _, rfl, rfl, h⟩
      rw [if_neg (fun hne => hne hidle), if_neg (fun hne => hne hidle)]
      cases hlock : control.lock with
      | null | held => exact ⟨_, _, _, rfl, rfl, h⟩
      | free =>
          cases o.locks.lock with
          | false => exact ⟨_, _, _, rfl, rfl, h⟩
          | true =>
              cases commits with
              | none =>
                  exact ⟨_, _, _, rfl, rfl, h.begin hidle
                    (fun _ _ hfreed => orderly_cleanup hfreed _ _) fun hnull => by cases hnull⟩
              | some newConfiguration =>
                  exact ⟨_, _, _, rfl, rfl, h.begin hidle
                    (fun _ _ hfreed => orderly_commit hfreed newConfiguration o)
                    fun hnull => by cases hnull⟩

end Alike

/--
**The custom checks read what they were given, as long as it is there.**

Whatever the order of an agent's updates and collections: the code faults exactly if a collection
comes to a text that an update has freed since the getter evaluated its argument (or just before, if
the update had not forgotten it yet). Until then it does what it would do if the getters made copies.
Nothing is freed twice and nothing is lost: when no update is going on, the blocks in use are those
of the settings, and there are none once the configuration has been deinitialised.
-/
theorem custom_checks_read_what_was_given (moves : List Move) :
    (run (step byReference) ByReference.init moves = none
      ↔ ¬ Along (step byCopy) ReadsFresh ByCopy.init moves)
    ∧ ∀ seen s, run (step byReference) ByReference.init moves = some (seen, s) →
      (∃ t, run (step byCopy) ByCopy.init moves = some (seen, t))
      ∧ (s.control.program = [] →
        ∀ p, s.strings.block p ≠ none ↔ ∃ field, s.strings.owner field = some p)
      ∧ (s.control.lock = .null → ∀ p, s.strings.block p = none) := by
  obtain ⟨hgood, hbad⟩ := @run_simulates_or_faults _ _ _ _ (step byReference) (step byCopy)
    ReadsFresh Alike (fun _ _ move h => (step_alike h move).1)
    (fun _ _ move h => (step_alike h move).2) moves _ _ alike_init
  by_cases hfresh : Along (step byCopy) ReadsFresh ByCopy.init moves
  swap
  · rw [hbad hfresh]
    exact ⟨iff_of_true rfl hfresh, fun _ _ hs => by cases hs⟩
  obtain ⟨seen, s, t, hs, ht, h⟩ := hgood hfresh
  rw [hs]
  refine ⟨iff_of_false (Option.some_ne_none _) (fun hn => hn hfresh), fun seen' s' hs' => ?_⟩
  obtain ⟨rfl, rfl⟩ := Prod.mk.inj (Option.some.inj hs')
  refine ⟨⟨t, ht⟩, fun hidle p => ?_, fun hnull p => ?_⟩
  · obtain ⟨empty, -, horder⟩ := h.orderly
    rw [← h.control, hidle] at horder
    rw [h.agrees.inUse_iff p]
    exact exists_congr fun field => and_iff_left (horder field)
  · have hnone := (h.ended (h.control ▸ hnull)).1
    have hiff := h.agrees.inUse_iff p
    refine Classical.byContradiction fun hne => ?_
    obtain ⟨field, hfield, -⟩ := hiff.mp hne
    rw [(h.agrees.ownerNone field).mpr (hnone field)] at hfield
    cases hfield

/-- A configuration that has custom checks. -/
def withChecks : TwinConfiguration := { TwinConfiguration.default with
  baselineCustomChecksEnabled := true
  baselineCustomChecksFilePath := some "checks"
  baselineCustomChecksFileHash := some "hash" }

/-- A collection is given its texts, and the next update frees one of them. -/
example : run (step byReference) ByReference.init (
    .update (some withChecks) (.ok 0) :: List.replicate 8 .proceed
      ++ .collect :: List.replicate 6 (.collector ⟨true, true⟩)
      ++ [.update (some withChecks) (.ok 0), .proceed, .collector ⟨true, true⟩]) = none := rfl

end CustomChecks

end SecurityAgent
