import Mathlib.Algebra.Group.Basic

/-!
# Runs of a machine, and what one step proves about all of them

A machine takes a state and an input and gives an output and a next state, or
gives nothing at all: `none` is a step that has no meaning (a fault). Everything
here turns a fact about *one* step into a fact about *every* run, so that the
induction over the list of inputs is done once.

Two notions carry the statements. `Along C` says the inputs of a run meet `C`,
each judged in the state it is about to be applied to; `EveryStep T` says that
every step happens, and that `T` relates it to the states on either side.
-/

namespace Machine

variable {σ τ ι ο : Type}

/-- Feed a list of inputs to a machine, collecting the outputs. -/
def run (step : σ → ι → Option (ο × σ)) : σ → List ι → Option (List ο × σ)
  | s, [] => some ([], s)
  | s, i :: is =>
      match step s i with
      | none => none
      | some (o, s') =>
          match run step s' is with
          | none => none
          | some (os, s'') => some (o :: os, s'')

/-- The inputs of a run meet `C`, each in the state it is applied to. -/
def Along (step : σ → ι → Option (ο × σ)) (C : σ → ι → Prop) : σ → List ι → Prop
  | _, [] => True
  | s, i :: is => C s i ∧ ∀ o s', step s i = some (o, s') → Along step C s' is

/-- Every step of the run happens and is related by `T` to the states around it. -/
def EveryStep (step : σ → ι → Option (ο × σ)) (T : σ → ι → ο → σ → Prop) : σ → List ι → Prop
  | _, [] => True
  | s, i :: is => ∃ o s', step s i = some (o, s') ∧ T s i o s' ∧ EveryStep step T s' is

section Steps

variable {step : σ → ι → Option (ο × σ)} {C : σ → ι → Prop} {T : σ → ι → ο → σ → Prop}
  {I : σ → Prop}

/-- **The invariant rule.** If the invariant and `C` make one step happen, keep the
invariant and establish `T`, then `T` holds of every step of a run along `C`. -/
theorem everyStep_of_along
    (hstep : ∀ s i, I s → C s i → ∃ o s', step s i = some (o, s') ∧ T s i o s' ∧ I s') :
    ∀ {is : List ι} {s : σ}, I s → Along step C s is → EveryStep step T s is := by
  intro is
  induction is with
  | nil => intro s _ _; trivial
  | cons i is ih =>
      intro s hI hC
      obtain ⟨o, s', hs, hT, hI'⟩ := hstep s i hI hC.1
      exact ⟨o, s', hs, hT, ih hI' (hC.2 o s' hs)⟩

/-- **An exact step condition for a relation on steps.** If, under the invariant, a step that meets
`C` happens, is related by `T` and keeps the invariant, and a step related by `T` meets `C`, then
every step of a run is related exactly when the run meets `C`. -/
theorem everyStep_iff_along
    (hstep : ∀ s i, I s → C s i → ∃ o s', step s i = some (o, s') ∧ T s i o s' ∧ I s')
    (hback : ∀ s i o s', I s → step s i = some (o, s') → T s i o s' → C s i) :
    ∀ {is : List ι} {s : σ}, I s → (EveryStep step T s is ↔ Along step C s is) := by
  intro is
  induction is with
  | nil => intro s _; exact ⟨fun _ => trivial, fun _ => trivial⟩
  | cons i is ih =>
      intro s hI
      constructor
      · rintro ⟨o, s', hs, hT, hr⟩
        have hC := hback s i o s' hI hs hT
        refine ⟨hC, fun o₁ s₁ hs₁ => ?_⟩
        obtain ⟨o₂, s₂, hs₂, -, hI₂⟩ := hstep s i hI hC
        obtain ⟨-, rfl⟩ := Prod.mk.inj (Option.some.inj (hs₁.symm.trans hs))
        obtain ⟨-, rfl⟩ := Prod.mk.inj (Option.some.inj (hs₂.symm.trans hs))
        exact (ih hI₂).mp hr
      · rintro ⟨hC, hr⟩
        obtain ⟨o, s', hs, hT, hI'⟩ := hstep s i hI hC
        exact ⟨o, s', hs, hT, (ih hI').mpr (hr o s' hs)⟩

end Steps

/-! ## Invariants -/

/-- `P` holds in every state a run passes through, its first state included. -/
def Throughout (step : σ → ι → Option (ο × σ)) (P : σ → Prop) : σ → List ι → Prop
  | s, [] => P s
  | s, i :: is => P s ∧ ∀ o s', step s i = some (o, s') → Throughout step P s' is

theorem Throughout.here {step : σ → ι → Option (ο × σ)} {P : σ → Prop} {s : σ} {is : List ι}
    (h : Throughout step P s is) : P s := by
  cases is with
  | nil => exact h
  | cons i is => exact h.1

/-- What an invariant gives holds throughout every run. -/
theorem Throughout.of_invariant {step : σ → ι → Option (ο × σ)} {I P : σ → Prop}
    (hP : ∀ s, I s → P s) (hstep : ∀ s i o s', I s → step s i = some (o, s') → I s') :
    ∀ {is : List ι} {s : σ}, I s → Throughout step P s is := by
  intro is
  induction is with
  | nil => intro s h; exact hP s h
  | cons i is ih => intro s h; exact ⟨hP s h, fun o s' hs => ih (hstep s i o s' h hs)⟩

/-- **An exact step condition is an exact run condition.** If, from a state that satisfies
`P`, a step ends in another one exactly when `C` holds of it, then a run stays inside `P`
exactly when all its steps meet `C`. -/
theorem throughout_iff_along {step : σ → ι → Option (ο × σ)} {C : σ → ι → Prop} {P : σ → Prop}
    (hstep : ∀ s i, P s → ((∀ o s', step s i = some (o, s') → P s') ↔ C s i)) :
    ∀ {is : List ι} {s : σ}, P s → (Throughout step P s is ↔ Along step C s is) := by
  intro is
  induction is with
  | nil => intro s h; exact ⟨fun _ => trivial, fun _ => h⟩
  | cons i is ih =>
      intro s h
      constructor
      · rintro ⟨_, hr⟩
        refine ⟨(hstep s i h).mp fun o s' hs => (hr o s' hs).here, fun o s' hs => ?_⟩
        exact (ih (hr o s' hs).here).mp (hr o s' hs)
      · rintro ⟨hC, hr⟩
        refine ⟨h, fun o s' hs => ?_⟩
        exact (ih ((hstep s i h).mpr hC o s' hs)).mpr (hr o s' hs)

/-- The same when `P` is not kept by itself: inside a domain `D`, an invariant `I` that gives `P` is
kept by the steps that meet `C`, and a step that does not meet it leaves `P`. -/
theorem throughout_iff_along_within {step : σ → ι → Option (ο × σ)} {C D : σ → ι → Prop}
    {I P : σ → Prop} (hP : ∀ s, I s → P s)
    (hkeep : ∀ s i o s', I s → D s i → C s i → step s i = some (o, s') → I s')
    (hbreak : ∀ s i, I s → D s i → ¬ C s i → ∃ o s', step s i = some (o, s') ∧ ¬ P s') :
    ∀ {is : List ι} {s : σ}, I s → Along step D s is →
      (Throughout step P s is ↔ Along step C s is) := by
  intro is
  induction is with
  | nil => intro s h _; exact ⟨fun _ => trivial, fun _ => hP s h⟩
  | cons i is ih =>
      intro s h hD
      constructor
      · intro hr
        have hC : C s i := Classical.byContradiction fun hC => by
          obtain ⟨o, s', hs, hn⟩ := hbreak s i h hD.1 hC
          exact hn (hr.2 o s' hs).here
        exact ⟨hC, fun o s' hs =>
          (ih (hkeep s i o s' h hD.1 hC hs) (hD.2 o s' hs)).mp (hr.2 o s' hs)⟩
      · intro hr
        exact ⟨hP s h, fun o s' hs =>
          (ih (hkeep s i o s' h hD.1 hr.1 hs) (hD.2 o s' hs)).mpr (hr.2 o s' hs)⟩

theorem along_true {step : σ → ι → Option (ο × σ)} :
    ∀ {is : List ι} {s : σ}, Along step (fun _ _ => True) s is := by
  intro is
  induction is with
  | nil => intro s; trivial
  | cons i is ih => intro s; exact ⟨trivial, fun _ _ _ => ih⟩

theorem throughout_iff_along_of_invariant {step : σ → ι → Option (ο × σ)} {C : σ → ι → Prop}
    {I P : σ → Prop} (hP : ∀ s, I s → P s)
    (hkeep : ∀ s i o s', I s → C s i → step s i = some (o, s') → I s')
    (hbreak : ∀ s i, I s → ¬ C s i → ∃ o s', step s i = some (o, s') ∧ ¬ P s')
    {is : List ι} {s : σ} (h : I s) : Throughout step P s is ↔ Along step C s is :=
  throughout_iff_along_within hP (fun s i o s' h _ => hkeep s i o s' h)
    (fun s i h _ => hbreak s i h) h along_true

/-- What an invariant and a condition give of a step holds along a run that meets the condition. -/
theorem along_of_invariant {step : σ → ι → Option (ο × σ)} {C T : σ → ι → Prop} {I : σ → Prop}
    (hstep : ∀ s i, I s → C s i → T s i ∧ ∀ o s', step s i = some (o, s') → I s') :
    ∀ {is : List ι} {s : σ}, I s → Along step C s is → Along step T s is := by
  intro is
  induction is with
  | nil => intro s _ _; trivial
  | cons i is ih =>
      intro s h hC
      obtain ⟨hT, hkeep⟩ := hstep s i h hC.1
      exact ⟨hT, fun o s' hs => ih (hkeep o s' hs) (hC.2 o s' hs)⟩

/-- A condition on the inputs alone, under which every step happens, is met along a run exactly
when all its inputs meet it. -/
theorem along_iff_forall {step : σ → ι → Option (ο × σ)} {C : ι → Prop} {P : σ → Prop}
    (hstep : ∀ s i, P s → C i → ∃ o s', step s i = some (o, s') ∧ P s') :
    ∀ {is : List ι} {s : σ}, P s → (Along step (fun _ i => C i) s is ↔ ∀ i ∈ is, C i) := by
  intro is
  induction is with
  | nil => intro s _; exact ⟨fun _ i h => absurd h List.not_mem_nil, fun _ => trivial⟩
  | cons i is ih =>
      intro s h
      rw [List.forall_mem_cons]
      constructor
      · intro hC
        obtain ⟨o, s', hs, h'⟩ := hstep s i h hC.1
        exact ⟨hC.1, (ih h').mp (hC.2 o s' hs)⟩
      · intro hC
        obtain ⟨o, s', hs, h'⟩ := hstep s i h hC.1
        refine ⟨hC.1, fun o'' s'' hs'' => ?_⟩
        rw [hs, Option.some.injEq, Prod.mk.injEq] at hs''
        exact (ih (hs''.2 ▸ h')).mpr hC.2

theorem run_cons_eq_some {step : σ → ι → Option (ο × σ)} {i : ι} {is : List ι} {s s' : σ}
    {os : List ο} (h : run step s (i :: is) = some (os, s')) :
    ∃ o t os', step s i = some (o, t) ∧ run step t is = some (os', s') := by
  unfold run at h
  split at h
  · cases h
  · rename_i o t hs
    split at h
    · cases h
    · rename_i os' t' hr
      obtain ⟨-, rfl⟩ := Prod.mk.inj (Option.some.inj h)
      exact ⟨o, t, os', hs, hr⟩

/-- **A condition whose violation cannot be undone, on a machine that may fault.** If a step that
meets `C` keeps `I`, one that does not leaves it, and no step comes back to it, then a run ends in
`I` exactly when it meets `C`. -/
theorem run_end_iff_along {step : σ → ι → Option (ο × σ)} {C : σ → ι → Prop} {I : σ → Prop}
    (hkeep : ∀ s i o s', I s → C s i → step s i = some (o, s') → I s')
    (hbreak : ∀ s i o s', I s → ¬ C s i → step s i = some (o, s') → ¬ I s')
    (hstay : ∀ s i o s', ¬ I s → step s i = some (o, s') → ¬ I s') :
    ∀ {is : List ι} {s s' : σ} {os : List ο}, I s → run step s is = some (os, s') →
      (I s' ↔ Along step C s is) := by
  have hstays : ∀ {is : List ι} {s s' : σ} {os : List ο}, ¬ I s → run step s is = some (os, s') →
      ¬ I s' := by
    intro is
    induction is with
    | nil =>
        intro s s' os h hr
        obtain ⟨-, rfl⟩ := Prod.mk.inj (Option.some.inj hr)
        exact h
    | cons i is ih =>
        intro s s' os h hr
        obtain ⟨o, t, os', hs, hrest⟩ := run_cons_eq_some hr
        exact ih (hstay s i o t h hs) hrest
  intro is
  induction is with
  | nil =>
      intro s s' os h hr
      obtain ⟨-, rfl⟩ := Prod.mk.inj (Option.some.inj hr)
      exact ⟨fun _ => trivial, fun _ => h⟩
  | cons i is ih =>
      intro s s' os h hr
      obtain ⟨o, t, os', hs, hrest⟩ := run_cons_eq_some hr
      by_cases hC : C s i
      · rw [ih (hkeep s i o t h hC hs) hrest]
        refine ⟨fun hA => ⟨hC, fun o' t' hs' => ?_⟩, fun hA => hA.2 o t hs⟩
        obtain ⟨-, rfl⟩ := Prod.mk.inj (Option.some.inj (hs.symm.trans hs'))
        exact hA
      · exact ⟨fun hI => absurd hI (hstays (hbreak s i o t h hC hs) hrest),
          fun hA => absurd hA.1 hC⟩

/-- The states a machine can reach from `s`. -/
inductive Reaches (step : σ → ι → Option (ο × σ)) (s : σ) : σ → Prop where
  | start : Reaches step s s
  | next {s' s'' : σ} {i : ι} {o : ο} : Reaches step s s' → step s' i = some (o, s'') →
      Reaches step s s''

/-- What holds at the start and is kept by every step holds of everything reachable. -/
theorem Reaches.invariant {step : σ → ι → Option (ο × σ)} {P : σ → Prop} {s s' : σ}
    (h : Reaches step s s') (h0 : P s)
    (hstep : ∀ s i o s', P s → step s i = some (o, s') → P s') : P s' := by
  induction h with
  | start => exact h0
  | next _ hs ih => exact hstep _ _ _ _ ih hs

/-! ## Machines whose steps always happen -/

/-- A total step, seen as a machine that never faults. -/
def total (step : σ → ι → ο × σ) (s : σ) (i : ι) : Option (ο × σ) := some (step s i)

/-- The outputs of a total machine, and the state it ends in. -/
def runTotal (step : σ → ι → ο × σ) : σ → List ι → List ο × σ
  | s, [] => ([], s)
  | s, i :: is => ((step s i).1 :: (runTotal step (step s i).2 is).1,
      (runTotal step (step s i).2 is).2)

theorem along_total {step : σ → ι → ο × σ} {C : σ → ι → Prop} {s : σ} {i : ι} {is : List ι} :
    Along (total step) C s (i :: is) ↔ C s i ∧ Along (total step) C (step s i).2 is := by
  constructor
  · rintro ⟨h, hr⟩; exact ⟨h, hr _ _ rfl⟩
  · rintro ⟨h, hr⟩
    refine ⟨h, fun o s' hs => ?_⟩
    simp only [total, Option.some.injEq] at hs
    rwa [hs] at hr

/-- **A condition whose violation cannot be undone.** If a step that meets `C` keeps `I` and one that
does not leads from `I` to `B`, which is never left, then a run ends in `I` if it meets `C`, and in
`B` if it does not. -/
theorem runTotal_end_of {step : σ → ι → ο × σ} {C : σ → ι → Prop} {I B : σ → Prop}
    (hkeep : ∀ s i, I s → C s i → I (step s i).2)
    (hbreak : ∀ s i, I s → ¬ C s i → B (step s i).2) (hstay : ∀ s i, B s → B (step s i).2) :
    ∀ {is : List ι} {s : σ}, I s → (Along (total step) C s is → I (runTotal step s is).2)
      ∧ (¬ Along (total step) C s is → B (runTotal step s is).2) := by
  have hstays : ∀ {is : List ι} {s : σ}, B s → B (runTotal step s is).2 := by
    intro is
    induction is with
    | nil => intro s h; exact h
    | cons i is ih => intro s h; exact ih (hstay s i h)
  intro is
  induction is with
  | nil => intro s h; exact ⟨fun _ => h, fun hn => absurd trivial hn⟩
  | cons i is ih =>
      intro s h
      rw [along_total]
      by_cases hC : C s i
      · obtain ⟨hgood, hbad⟩ := ih (hkeep s i h hC)
        exact ⟨fun hr => hgood hr.2, fun hn => hbad fun hr => hn ⟨hC, hr⟩⟩
      · refine ⟨fun hr => absurd hr.1 hC, fun _ => ?_⟩
        show B (runTotal step (step s i).2 is).2
        exact hstays (hbreak s i h hC)

/--
**An exact step condition for a property of the trace.** The outputs of a run, read by `f`, make up
its trace. If `P` is a property that a trace keeps only if all its prefixes have it, and under the
invariant a step extends the trace within `P` exactly when it meets `C`, then the trace of a run has
`P` exactly when the run meets `C`.
-/
theorem runTotal_trace_iff {ε : Type} {step : σ → ι → ο × σ} {f : ο → List ε} {C : σ → ι → Prop}
    {I : List ε → σ → Prop} {P : List ε → Prop} (hP : ∀ past s, I past s → P past)
    (hinitial : ∀ xs ys, P (xs ++ ys) → P xs)
    (hkeep : ∀ past s i, I past s → C s i → I (past ++ f (step s i).1) (step s i).2)
    (hbreak : ∀ past s i, I past s → ¬ C s i → ¬ P (past ++ f (step s i).1)) :
    ∀ {is : List ι} {s : σ} {past : List ε}, I past s →
      (P (past ++ (runTotal step s is).1.flatMap f) ↔ Along (total step) C s is) := by
  intro is
  induction is with
  | nil =>
      intro s past h
      rw [runTotal, List.flatMap_nil, List.append_nil]
      exact ⟨fun _ => trivial, fun _ => hP past s h⟩
  | cons i is ih =>
      intro s past h
      rw [along_total, runTotal, List.flatMap_cons, ← List.append_assoc]
      constructor
      · intro hr
        have hC : C s i := Classical.byContradiction fun hC =>
          hbreak past s i h hC (hinitial _ _ hr)
        exact ⟨hC, (ih (hkeep past s i h hC)).mp hr⟩
      · rintro ⟨hC, hr⟩
        exact (ih (hkeep past s i h hC)).mpr hr

/-! ## Simulation -/

/--
**Forward simulation.** If every step of the abstract machine, from a state it represents
and under the side condition `C`, is matched by a step of the concrete one with the same
output, then whole runs are matched: the concrete run happens, its outputs are the
abstract run's, and the states it ends in are again related.
-/
theorem run_simulates {step : σ → ι → Option (ο × σ)} {astep : τ → ι → ο × τ}
    {C : τ → ι → Prop} {R : σ → τ → Prop}
    (hsim : ∀ s t i, R s t → C t i →
      ∃ s', step s i = some ((astep t i).1, s') ∧ R s' (astep t i).2) :
    ∀ {is : List ι} {s : σ} {t : τ}, R s t → Along (total astep) C t is →
      ∃ s', run step s is = some ((runTotal astep t is).1, s') ∧ R s' (runTotal astep t is).2 := by
  intro is
  induction is with
  | nil => intro s t hR _; exact ⟨s, rfl, hR⟩
  | cons i is ih =>
      intro s t hR hC
      rw [along_total] at hC
      obtain ⟨s', hs, hR'⟩ := hsim s t i hR hC.1
      obtain ⟨s'', hr, hR''⟩ := ih hR' hC.2
      exact ⟨s'', by simp only [run, hs, hr, runTotal], hR''⟩

/--
**Simulation up to a fault.** If a step that meets `C` is matched by the other machine with the same
output, and one that does not is a fault, then a run is matched if it meets `C`, and is a fault if it
does not.
-/
theorem run_simulates_or_faults {step : σ → ι → Option (ο × σ)} {astep : τ → ι → Option (ο × τ)}
    {C : τ → ι → Prop} {R : σ → τ → Prop}
    (hsim : ∀ s t i, R s t → C t i →
      ∃ o s' t', step s i = some (o, s') ∧ astep t i = some (o, t') ∧ R s' t')
    (hfault : ∀ s t i, R s t → ¬ C t i → step s i = none) :
    ∀ {is : List ι} {s : σ} {t : τ}, R s t →
      (Along astep C t is →
        ∃ os s' t', run step s is = some (os, s') ∧ run astep t is = some (os, t') ∧ R s' t')
      ∧ (¬ Along astep C t is → run step s is = none) := by
  intro is
  induction is with
  | nil => intro s t hR; exact ⟨fun _ => ⟨[], s, t, rfl, rfl, hR⟩, fun hn => absurd trivial hn⟩
  | cons i is ih =>
      intro s t hR
      by_cases hC : C t i
      · obtain ⟨o, s', t', hs, ht, hR'⟩ := hsim s t i hR hC
        obtain ⟨hgood, hbad⟩ := ih hR'
        constructor
        · intro hA
          obtain ⟨os, s'', t'', hrs, hrt, hR''⟩ := hgood (hA.2 o t' ht)
          refine ⟨o :: os, s'', t'', ?_, ?_, hR''⟩
          · simp only [run, hs, hrs]
          · simp only [run, ht, hrt]
        · intro hA
          have hrest : run step s' is = none := hbad fun hrest => hA ⟨hC, fun o₁ t₁ ht₁ => by
            obtain ⟨-, rfl⟩ := Prod.mk.inj (Option.some.inj (ht.symm.trans ht₁))
            exact hrest⟩
          simp only [run, hs, hrest]
      · refine ⟨fun hA => absurd hA.1 hC, fun _ => ?_⟩
        simp only [run, hfault s t i hR hC]

end Machine
