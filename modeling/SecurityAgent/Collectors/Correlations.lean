import SecurityAgent.Collectors.CorrelationManager
import SecurityAgent.Lib.Transfer

/-!
# What a correlation tells

The diagnostics that a thread records between one renewal of its correlation and the next belong
together. Whatever the threads do and in whichever order, two of them have the same correlation
exactly if they belong together, as long as the generated ids differ; and of the blocks that
hold the correlations each is in the hands of one thread, or was lost when it was allocated.
-/

namespace SecurityAgent

open Machine

/-! ## What belongs together -/

/-- What begins when a thread renews its correlation: where in the run, and with which id. -/
abbrev Context := Nat × String

namespace CorrelationOp

/-- The thread that does it. -/
def thread : CorrelationOp → Nat
  | .setCorrelation thread _ => thread
  | .initDiagnosticEvent thread _ _ _ => thread
  | .threadExit thread => thread

/-- The id that is generated. -/
def uniqueId : CorrelationOp → Option String
  | .setCorrelation _ o => o.uniqueId
  | _ => none

/-- Nothing is written through a pointer that is `NULL` or has never been set. -/
def Safe : CorrelationOp → Prop
  | .setCorrelation _ o => o.malloc = true
  | .initDiagnosticEvent _ o _ _ => o.event = true → o.message = true
  | .threadExit _ => True

/-- The context of the thread `t` after this. -/
def contextAfter (t position : Nat) (context : Option Context) : CorrelationOp → Option Context
  | .setCorrelation thread o =>
      if thread = t then
        match o.uniqueId with
        | none => context
        | some id => if o.setspecific then some (position, id) else none
      else context
  | .initDiagnosticEvent _ _ _ _ => context
  | .threadExit thread => if thread = t then none else context

/-- The block that nobody frees. -/
def lost (_ : Unit) : CorrelationOp → CorrelationOutput → List Nat
  | .setCorrelation _ o, .setCorrelation _ correlationId =>
      if o.uniqueId.isSome ∧ o.setspecific = true then [] else [correlationId]
  | _, _ => []

end CorrelationOp

namespace CorrelationManager

/-- The context of the thread `t` after all this, the last of it first. -/
def contextOf (t : Nat) : List CorrelationOp → Option Context
  | [] => none
  | op :: before => op.contextAfter t before.length (contextOf t before)

/-- The correlation of a context. -/
def correlationOf : Option Context → String
  | none => EMPTY_GUID
  | some context => context.2

/-- The id of a context was generated where the context began. -/
theorem contextOf_generated {t k : Nat} {id : String} :
    ∀ {before : List CorrelationOp}, contextOf t before = some (k, id) →
      before.reverse[k]?.bind CorrelationOp.uniqueId = some id := by
  intro before
  induction before with
  | nil => exact fun h => by cases h
  | cons op before ih =>
      intro h
      rw [List.reverse_cons]
      have hlast : (before.reverse ++ [op])[before.length]? = some op := by
        rw [← List.length_reverse]
        exact List.getElem?_concat_length
      have hearlier : contextOf t before = some (k, id) →
          (before.reverse ++ [op])[k]?.bind CorrelationOp.uniqueId = some id := by
        intro hbefore
        have hk := ih hbefore
        obtain ⟨op', hop', hid⟩ := Option.bind_eq_some_iff.mp hk
        obtain ⟨hlt, _⟩ := List.getElem?_eq_some_iff.mp hop'
        rw [List.getElem?_append_left hlt]
        exact hk
      cases op with
      | setCorrelation thread o =>
          rw [contextOf, CorrelationOp.contextAfter] at h
          split at h
          · split at h
            · exact hearlier h
            · rename_i id' hid
              split at h
              · obtain ⟨rfl, rfl⟩ := Prod.mk.inj (Option.some.inj h)
                rw [hlast]
                exact hid
              · cases h
          · exact hearlier h
      | initDiagnosticEvent thread o message severity => exact hearlier h
      | threadExit thread =>
          rw [contextOf, CorrelationOp.contextAfter] at h
          split at h
          · cases h
          · exact hearlier h

/-! ## The blocks -/

/-- Every block is in the hands of one thread, or lost. -/
structure Owned (s : CorrelationManager) (lost : List Nat) : Prop where
  one : ∀ t u p, s.specific t = some p → s.specific u = some p → t = u
  fresh : ∀ p, (s.blocks p).isSome → p < s.nextBlock
  blocks : ∀ p, (s.blocks p).isSome ↔ (∃ t, s.specific t = some p) ∨ p ∈ lost
  apart : ∀ p ∈ lost, ∀ t, s.specific t ≠ some p

variable {s : CorrelationManager} {lost : List Nat}

/-- A new block is lost until somebody takes it. -/
theorem Owned.allocate (h : s.Owned lost) (text : String) :
    (s.allocate text).Owned (lost ++ [s.nextBlock]) := by
  have hnew : ∀ t, s.specific t ≠ some s.nextBlock := by
    intro t ht
    exact Nat.lt_irrefl _ (h.fresh _ ((h.blocks _).mpr (Or.inl ⟨t, ht⟩)))
  refine ⟨h.one, fun p hp => ?_, fun p => ?_, fun p hp t => ?_⟩
  · dsimp only [CorrelationManager.allocate] at hp ⊢
    by_cases hpn : p = s.nextBlock
    · omega
    · rw [Function.update_of_ne hpn] at hp
      exact Nat.lt_succ_of_lt (h.fresh p hp)
  · dsimp only [CorrelationManager.allocate]
    rw [List.mem_append, List.mem_singleton]
    by_cases hpn : p = s.nextBlock
    · subst hpn
      rw [Function.update_self]
      exact ⟨fun _ => Or.inr (Or.inr rfl), fun _ => rfl⟩
    · rw [Function.update_of_ne hpn, h.blocks p]
      simp [hpn]
  · rcases List.mem_append.mp hp with hold | hlast
    · exact h.apart p hold t
    · rw [List.mem_singleton.mp hlast]
      exact hnew t

/-- What is left when a thread's block has been freed. -/
def cleared (s : CorrelationManager) (thread correlationId : Nat) : CorrelationManager :=
  { s with blocks := Function.update s.blocks correlationId none,
           specific := Function.update s.specific thread none }

/-- A thread can free its block. -/
theorem Owned.correlationIdDeinit (h : s.Owned lost) {t p : Nat} (ht : s.specific t = some p) :
    s.correlationIdDeinit t p = some (s.cleared t p) ∧ (s.cleared t p).Owned lost := by
  have hsome : (s.blocks p).isSome = true := (h.blocks p).mpr (Or.inl ⟨t, ht⟩)
  have hfree : s.free p = some { s with blocks := Function.update s.blocks p none } :=
    if_pos hsome
  refine ⟨by rw [CorrelationManager.correlationIdDeinit, hfree]; rfl, ?_⟩
  have hother : ∀ {u q : Nat}, Function.update s.specific t none u = some q →
      u ≠ t ∧ s.specific u = some q := by
    intro u q hu
    by_cases hut : u = t
    · rw [hut, Function.update_self] at hu
      cases hu
    · rw [Function.update_of_ne hut] at hu
      exact ⟨hut, hu⟩
  refine ⟨fun u v q hu hv => h.one u v q (hother hu).2 (hother hv).2, fun q hq => ?_,
    fun q => ?_, fun q hq u hu => h.apart q hq u (hother hu).2⟩
  · dsimp only [cleared] at hq ⊢
    by_cases hqp : q = p
    · rw [hqp, Function.update_self] at hq
      cases hq
    · rw [Function.update_of_ne hqp] at hq
      exact h.fresh q hq
  · dsimp only [cleared]
    by_cases hqp : q = p
    · subst hqp
      rw [Function.update_self]
      refine ⟨fun hq => absurd hq (by simp), ?_⟩
      rintro (⟨u, hu⟩ | hlost)
      · exact absurd (h.one u t q (hother hu).2 ht) (hother hu).1
      · exact absurd ht (h.apart q hlost t)
    · rw [Function.update_of_ne hqp, h.blocks q]
      refine ⟨Or.imp_left ?_, Or.imp_left ?_⟩
      · rintro ⟨u, hu⟩
        have hut : u ≠ t := by
          rintro rfl
          exact hqp (Option.some.inj (hu.symm.trans ht))
        exact ⟨u, by rw [Function.update_of_ne hut]; exact hu⟩
      · rintro ⟨u, hu⟩
        exact ⟨u, (hother hu).2⟩

/-- A thread that has no block takes one that is lost. -/
theorem Owned.take {p : Nat} (h : s.Owned (lost ++ [p])) (hp : p ∉ lost) {t : Nat}
    (ht : s.specific t = none) :
    Owned { s with specific := Function.update s.specific t (some p) } lost := by
  have hfree : ∀ u, s.specific u ≠ some p := h.apart p (List.mem_append_right _ List.mem_cons_self)
  refine ⟨fun u v q hu hv => ?_, h.fresh, fun q => ?_, fun q hq u hu => ?_⟩
  · dsimp only at hu hv
    by_cases hut : u = t
    · by_cases hvt : v = t
      · exact hut.trans hvt.symm
      · rw [hut, Function.update_self] at hu
        rw [Function.update_of_ne hvt] at hv
        exact absurd (hv.trans hu.symm) (hfree v)
    · by_cases hvt : v = t
      · rw [hvt, Function.update_self] at hv
        rw [Function.update_of_ne hut] at hu
        exact absurd (hu.trans hv.symm) (hfree u)
      · rw [Function.update_of_ne hut] at hu
        rw [Function.update_of_ne hvt] at hv
        exact h.one u v q hu hv
  · dsimp only
    rw [h.blocks q, List.mem_append, List.mem_singleton]
    constructor
    · rintro (⟨u, hu⟩ | hlost | rfl)
      · have hut : u ≠ t := by
          rintro rfl
          rw [ht] at hu
          cases hu
        exact Or.inl ⟨u, by rw [Function.update_of_ne hut]; exact hu⟩
      · exact Or.inr hlost
      · exact Or.inl ⟨t, Function.update_self ..⟩
    · rintro (⟨u, hu⟩ | hlost)
      · by_cases hut : u = t
        · rw [hut, Function.update_self] at hu
          exact Or.inr (Or.inr (Option.some.inj hu).symm)
        · rw [Function.update_of_ne hut] at hu
          exact Or.inl ⟨u, hu⟩
      · exact Or.inr (Or.inl hlost)
  · dsimp only at hu
    by_cases hut : u = t
    · rw [hut, Function.update_self] at hu
      exact hp ((Option.some.inj hu) ▸ hq)
    · rw [Function.update_of_ne hut] at hu
      exact h.apart q (List.mem_append_left _ hq) u hu

/-! ## What the pointers lead to -/

/-- The text that the pointer of a thread leads to. -/
def textOf (s : CorrelationManager) (t : Nat) : Option String := (s.specific t).bind s.blocks

theorem Owned.textOf_allocate (h : s.Owned lost) (text : String) (u : Nat) :
    (s.allocate text).textOf u = s.textOf u := by
  unfold textOf CorrelationManager.allocate
  dsimp only
  cases hu : s.specific u with
  | none => rfl
  | some p =>
      have hp : p ≠ s.nextBlock :=
        Nat.ne_of_lt (h.fresh p ((h.blocks p).mpr (Or.inl ⟨u, hu⟩)))
      exact Function.update_of_ne hp _ _

theorem Owned.textOf_cleared (h : s.Owned lost) {t p : Nat} (ht : s.specific t = some p)
    (u : Nat) : (s.cleared t p).textOf u = if u = t then none else s.textOf u := by
  unfold textOf cleared
  dsimp only
  by_cases hut : u = t
  · rw [if_pos hut, hut, Function.update_self]
    rfl
  · rw [if_neg hut, Function.update_of_ne hut]
    cases hu : s.specific u with
    | none => rfl
    | some q =>
        have hqp : q ≠ p := by
          rintro rfl
          exact hut (h.one u t q hu ht)
        exact Function.update_of_ne hqp _ _

/-- The manager after all this, the last of it first. -/
structure After (s : CorrelationManager) (before : List CorrelationOp) (lost : List Nat) :
    Prop where
  key : s.correlationIdKey = true
  owned : s.Owned lost
  text : ∀ t, s.textOf t = (contextOf t before).map Prod.snd

/-- The key has just been made. -/
def initialized : CorrelationManager := (init true start).2

theorem after_initialized : initialized.After [] [] := by
  refine ⟨rfl, ⟨?_, ?_, ?_, ?_⟩, fun _ => rfl⟩
  · intro t u p ht _
    cases ht
  · intro p hp
    cases hp
  · refine fun p => ⟨fun hp => (by cases hp), ?_⟩
    rintro (⟨t, ht⟩ | hp)
    · cases ht
    · exact absurd hp List.not_mem_nil
  · exact fun p hp => absurd hp List.not_mem_nil

variable {before : List CorrelationOp}

theorem After.getCorrelation (h : s.After before lost) (t : Nat) :
    s.getCorrelation t = some (correlationOf (contextOf t before)) := by
  have htext := h.text t
  unfold textOf at htext
  rw [CorrelationManager.getCorrelation, if_neg (by rw [h.key]; decide)]
  cases ht : s.specific t with
  | none =>
      rw [ht] at htext
      cases hc : contextOf t before with
      | none => rfl
      | some c =>
          rw [hc] at htext
          cases htext
  | some p =>
      rw [ht, Option.bind_some] at htext
      dsimp only
      have hsome := (h.owned.blocks p).mpr (Or.inl ⟨t, ht⟩)
      cases hc : contextOf t before with
      | none =>
          rw [hc] at htext
          rw [htext] at hsome
          cases hsome
      | some c =>
          rw [hc] at htext
          exact htext

/-! ## One step -/

theorem After.initDiagnosticEvent (h : s.After before lost) {thread : Nat} {o : LogOutcome}
    {message : String} {severity : Severity}
    (hsafe : (CorrelationOp.initDiagnosticEvent thread o message severity).Safe) :
    ∃ event, s.step (.initDiagnosticEvent thread o message severity)
        = some (.initDiagnosticEvent event, s)
      ∧ ∀ e, event = some e → e.correlationId = correlationOf (contextOf thread before) := by
  rw [step, h.getCorrelation thread, Option.bind_some]
  unfold DiagnosticEventCollector.initDiagnosticEvent
  dsimp only
  by_cases hevent : o.event = false
  · rw [if_pos hevent]
    exact ⟨none, rfl, fun e he => by cases he⟩
  · have hmessage : ¬ o.message = false := by
      rw [hsafe (Bool.of_not_eq_false hevent)]
      decide
    rw [if_neg hevent, if_neg hmessage]
    by_cases hcorrelation : o.correlation = false
    · rw [if_pos hcorrelation]
      exact ⟨none, rfl, fun e he => by cases he⟩
    · rw [if_neg hcorrelation]
      refine ⟨some _, rfl, fun e he => ?_⟩
      obtain rfl := Option.some.inj he
      rfl

/-- What is not safe has no result. -/
theorem After.step_eq_none (h : s.After before lost) {op : CorrelationOp} (hop : ¬ op.Safe) :
    s.step op = none := by
  cases op with
  | setCorrelation thread o =>
      rw [step, CorrelationManager.setCorrelation, if_pos (Or.inr (Bool.of_not_eq_true hop))]
      rfl
  | initDiagnosticEvent thread o message severity =>
      rw [CorrelationOp.Safe, Classical.not_imp] at hop
      rw [step, h.getCorrelation thread, Option.bind_some,
        DiagnosticEventCollector.initDiagnosticEvent, if_neg (by simp [hop.1]),
        if_pos (Bool.of_not_eq_true hop.2)]
      rfl
  | threadExit thread => exact absurd trivial hop

/-- What the context of a thread is after something that another thread has done, or this one. -/
theorem contextOf_threadExit (thread u : Nat) :
    contextOf u (.threadExit thread :: before)
      = if u = thread then none else contextOf u before := by
  show (if thread = u then none else contextOf u before) = _
  by_cases hu : u = thread
  · rw [if_pos hu, if_pos hu.symm]
  · rw [if_neg hu, if_neg (Ne.symm hu)]

/-- A thread can always give up what it has. -/
theorem Owned.clearCurrent (h : s.Owned lost) (thread : Nat) :
    ∃ s₁, s.clearCurrent thread = some s₁ ∧ s₁.correlationIdKey = s.correlationIdKey
      ∧ s₁.Owned lost ∧ (∀ u, s₁.specific u = if u = thread then none else s.specific u)
      ∧ (∀ u, s₁.textOf u = if u = thread then none else s.textOf u)
      ∧ ∀ p, s.specific thread ≠ some p → s₁.blocks p = s.blocks p := by
  unfold CorrelationManager.clearCurrent
  cases ht : s.specific thread with
  | none =>
      refine ⟨s, rfl, rfl, h, fun u => ?_, fun u => ?_, fun _ _ => rfl⟩
      · by_cases hu : u = thread
        · rw [if_pos hu, hu, ht]
        · rw [if_neg hu]
      · by_cases hu : u = thread
        · rw [if_pos hu, hu, textOf, ht]
          rfl
        · rw [if_neg hu]
  | some p =>
      obtain ⟨hdeinit, howned⟩ := h.correlationIdDeinit ht
      refine ⟨_, hdeinit, rfl, howned, fun u => ?_, h.textOf_cleared ht, fun q hq => ?_⟩
      · dsimp only [cleared]
        rw [Function.update_apply]
      · have hqp : q ≠ p := fun he => hq (he ▸ rfl)
        exact Function.update_of_ne hqp _ _

theorem After.threadExit (h : s.After before lost) (thread : Nat) :
    ∃ s', s.step (.threadExit thread) = some (.threadExit, s')
      ∧ s'.After (.threadExit thread :: before) lost := by
  obtain ⟨s₁, hclear, hkey, howned, _, htext, _⟩ := h.owned.clearCurrent thread
  refine ⟨s₁, ?_, hkey.trans h.key, howned, fun u => ?_⟩
  · rw [step, CorrelationManager.threadExit, hclear]
    rfl
  · rw [contextOf_threadExit, htext u, h.text u]
    by_cases hu : u = thread
    · rw [if_pos hu, if_pos hu]
      rfl
    · rw [if_neg hu, if_neg hu]

/-- A new id is generated: the thread has let go of its old block, and the new one is nobody's. -/
theorem After.generated (h : s.After before lost) (thread : Nat) (id : String) :
    ∃ s₁, (s.allocate id).clearCurrent thread = some s₁
      ∧ s₁.correlationIdKey = true ∧ s₁.Owned (lost ++ [s.nextBlock])
      ∧ s₁.specific thread = none ∧ s₁.blocks s.nextBlock = some id
      ∧ ∀ u, s₁.textOf u = if u = thread then none else s.textOf u := by
  have howned := h.owned.allocate id
  obtain ⟨s₁, hclear, hkey, howned₁, hspecific, htext, hblocks⟩ := howned.clearCurrent thread
  refine ⟨s₁, hclear, hkey.trans h.key, howned₁, (hspecific thread).trans (if_pos rfl), ?_,
    fun u => ?_⟩
  · rw [hblocks s.nextBlock (howned.apart _ (List.mem_append_right _ List.mem_cons_self) thread)]
    exact Function.update_self ..
  · rw [htext u, h.owned.textOf_allocate]

theorem After.setCorrelation (h : s.After before lost) (thread : Nat) {o : SetOutcome}
    (hmalloc : o.malloc = true) :
    ∃ result s', s.step (.setCorrelation thread o)
        = some (.setCorrelation result s.nextBlock, s')
      ∧ s'.After (.setCorrelation thread o :: before)
        (lost ++ CorrelationOp.lost () (.setCorrelation thread o)
          (.setCorrelation result s.nextBlock)) := by
  have hready : ¬ (s.correlationIdKey = false ∨ o.malloc = false) := by
    rw [h.key, hmalloc]
    decide
  have hcontext : ∀ u, contextOf u (.setCorrelation thread o :: before)
      = if u = thread then
          o.uniqueId.elim (contextOf u before) fun id =>
            if o.setspecific then some (before.length, id) else none
        else contextOf u before := by
    intro u
    rw [contextOf, CorrelationOp.contextAfter]
    by_cases hu : u = thread
    · rw [if_pos hu, if_pos hu.symm]
      cases o.uniqueId <;> rfl
    · rw [if_neg hu, if_neg (Ne.symm hu)]
  rw [step, CorrelationManager.setCorrelation, if_neg hready]
  cases hid : o.uniqueId with
  | none =>
      refine ⟨false, s.allocate "", rfl, h.key, ?_, fun u => ?_⟩
      · rw [CorrelationOp.lost, hid, if_neg (by simp)]
        exact h.owned.allocate ""
      · rw [hcontext u, hid, h.owned.textOf_allocate, h.text u, Option.elim_none, ite_self]
  | some id =>
      obtain ⟨s₁, hclear, hkey, howned, hnone, hblock, htext⟩ := h.generated thread id
      dsimp only
      rw [hclear]
      cases hset : o.setspecific with
      | false =>
          refine ⟨true, s₁, rfl, hkey, ?_, fun u => ?_⟩
          · rw [CorrelationOp.lost, hid, hset, if_neg (by simp)]
            exact howned
          · rw [hcontext u, hid, hset, htext u, h.text u]
            by_cases hu : u = thread
            · rw [if_pos hu, if_pos hu]
              rfl
            · rw [if_neg hu, if_neg hu]
      | true =>
          have hfresh : s.nextBlock ∉ lost := fun hmem =>
            Nat.lt_irrefl _ (h.owned.fresh _ ((h.owned.blocks _).mpr (Or.inr hmem)))
          refine ⟨true, { s₁ with specific := Function.update s₁.specific thread (some s.nextBlock) },
            rfl, hkey, ?_, fun u => ?_⟩
          · rw [CorrelationOp.lost, hid, hset, if_pos ⟨rfl, rfl⟩, List.append_nil]
            exact howned.take hfresh hnone
          · rw [hcontext u, hid, hset]
            by_cases hu : u = thread
            · rw [if_pos hu, hu, textOf]
              dsimp only
              rw [Function.update_self]
              exact hblock
            · have hother := htext u
              rw [if_neg hu] at hother
              rw [if_neg hu, ← h.text u, ← hother, textOf, textOf]
              dsimp only
              rw [Function.update_of_ne hu]

/-- **What one step does**, whichever thread takes it. -/
theorem After.step (h : s.After before lost) {op : CorrelationOp} (hop : op.Safe) :
    ∃ out s', s.step op = some (out, s')
      ∧ s'.After (op :: before) (lost ++ CorrelationOp.lost () op out)
      ∧ ∀ e, out = .initDiagnosticEvent (some e) →
        e.correlationId = correlationOf (contextOf op.thread before) := by
  cases op with
  | setCorrelation thread o =>
      obtain ⟨result, s', hs, h'⟩ := h.setCorrelation thread hop
      exact ⟨_, s', hs, h', fun e he => by cases he⟩
  | initDiagnosticEvent thread o message severity =>
      obtain ⟨event, hs, hevent⟩ := h.initDiagnosticEvent hop
      refine ⟨_, s, hs, ⟨h.key, ?_, h.text⟩, fun e he => ?_⟩
      · rw [CorrelationOp.lost, List.append_nil]
        · exact h.owned
        · intro _ _ _ _ ho
          cases ho
      · exact hevent e (CorrelationOutput.initDiagnosticEvent.inj he)
  | threadExit thread =>
      obtain ⟨s', hs, h'⟩ := h.threadExit thread
      refine ⟨_, s', hs, ?_, fun e he => by cases he⟩
      rw [CorrelationOp.lost, List.append_nil]
      · exact h'
      · intro _ _ _ _ ho
        cases ho

/-! ## Whole runs -/

/-- What a thread has recorded has the correlation of its context. -/
theorem After.run_correlated :
    ∀ {ops : List CorrelationOp} {before : List CorrelationOp} {s s' : CorrelationManager}
      {lost : List Nat} {outs : List CorrelationOutput}, s.After before lost →
      run CorrelationManager.step s ops = some (outs, s') →
      s'.After (ops.reverse ++ before) (lost ++ tally (CorrelationOp.lost ()) ops outs)
        ∧ ∀ i op e, ops[i]? = some op → outs[i]? = some (.initDiagnosticEvent (some e)) →
          e.correlationId
            = correlationOf (contextOf op.thread ((ops.take i).reverse ++ before)) := by
  intro ops
  induction ops with
  | nil =>
      intro before s s' lost outs h hrun
      obtain ⟨rfl, rfl⟩ := Prod.mk.inj (Option.some.inj hrun)
      refine ⟨?_, fun i op e hop => by cases hop⟩
      rw [tally, List.zipWith_nil_left, List.flatten_nil, List.append_nil]
      exact h
  | cons op ops ih =>
      intro before s s' lost outs h hrun
      obtain ⟨out, t, outs', hs, hrest⟩ := run_cons_eq_some hrun
      have houts : outs = out :: outs' := by
        rw [run, hs] at hrun
        dsimp only at hrun
        rw [hrest] at hrun
        exact (Prod.mk.inj (Option.some.inj hrun)).1.symm
      subst houts
      have hsafe : op.Safe := by
        by_contra hnot
        rw [h.step_eq_none hnot] at hs
        cases hs
      obtain ⟨out', t', hs', h', hevent⟩ := h.step hsafe
      obtain ⟨rfl, rfl⟩ := Prod.mk.inj (Option.some.inj (hs'.symm.trans hs))
      obtain ⟨hend, hrecorded⟩ := ih h' hrest
      refine ⟨?_, fun i op' e hop hout => ?_⟩
      · rw [tally_cons, ← List.append_assoc, List.reverse_cons, List.append_assoc,
          List.singleton_append]
        exact hend
      · cases i with
        | zero =>
            obtain rfl := Option.some.inj hop
            exact hevent e (Option.some.inj hout)
        | succ i =>
            have hi := hrecorded i op' e hop hout
            rw [List.take_succ_cons, List.reverse_cons, List.append_assoc, List.singleton_append]
            exact hi

theorem After.exists_run : ∀ {ops before : List CorrelationOp} {s : CorrelationManager}
    {lost : List Nat}, s.After before lost →
    ((∃ outs s', run CorrelationManager.step s ops = some (outs, s')) ↔ ∀ op ∈ ops, op.Safe) := by
  intro ops
  induction ops with
  | nil => exact fun {_ s _} _ => ⟨fun _ op hop => absurd hop List.not_mem_nil, fun _ => ⟨[], s, rfl⟩⟩
  | cons op ops ih =>
      intro before s lost h
      rw [List.forall_mem_cons]
      constructor
      · rintro ⟨outs, s', hrun⟩
        obtain ⟨out, t, outs', hs, hrest⟩ := run_cons_eq_some hrun
        have hsafe : op.Safe := by
          by_contra hnot
          rw [h.step_eq_none hnot] at hs
          cases hs
        obtain ⟨out', t', hs', h', _⟩ := h.step hsafe
        obtain ⟨rfl, rfl⟩ := Prod.mk.inj (Option.some.inj (hs'.symm.trans hs))
        exact ⟨hsafe, (ih h').mp ⟨outs', s', hrest⟩⟩
      · rintro ⟨hsafe, hrest⟩
        obtain ⟨out, t, hs, h', _⟩ := h.step hsafe
        obtain ⟨outs, s', hrun⟩ := (ih h').mpr hrest
        refine ⟨out :: outs, s', ?_⟩
        rw [run, hs]
        dsimp only
        rw [hrun]

/--
**No block of a correlation is freed twice or read after it was freed.** Whatever the threads do, it
goes wrong exactly if memory that was not there is written to. The blocks that there are then are
the one of each thread and those that were lost when they were allocated; and when the manager is
deinitialised by a thread, all are left but its own.
-/
theorem blocks_accounted (ops : List CorrelationOp) :
    ((∃ outs s, run step initialized ops = some (outs, s)) ↔ ∀ op ∈ ops, op.Safe)
      ∧ ∀ outs s, run step initialized ops = some (outs, s) →
        (∀ p, (s.blocks p).isSome
          ↔ (∃ t, s.specific t = some p) ∨ p ∈ tally (CorrelationOp.lost ()) ops outs)
        ∧ ∀ thread, ∃ s', s.deinit thread = some s' ∧ ∀ p, (s'.blocks p).isSome
          ↔ (∃ t, t ≠ thread ∧ s.specific t = some p)
            ∨ p ∈ tally (CorrelationOp.lost ()) ops outs := by
  refine ⟨after_initialized.exists_run, fun outs s hrun => ?_⟩
  have h := (after_initialized.run_correlated hrun).1
  rw [List.nil_append] at h
  refine ⟨h.owned.blocks, fun thread => ?_⟩
  obtain ⟨s₁, hclear, _, howned, hspecific, _, _⟩ := h.owned.clearCurrent thread
  refine ⟨_, by rw [deinit, if_neg (by rw [h.key]; decide), hclear]; rfl, fun p => ?_⟩
  dsimp only
  rw [howned.blocks p]
  refine or_congr_left ⟨?_, ?_⟩
  · rintro ⟨t, ht⟩
    rw [hspecific t] at ht
    by_cases hne : t = thread
    · rw [if_pos hne] at ht
      cases ht
    · rw [if_neg hne] at ht
      exact ⟨t, hne, ht⟩
  · rintro ⟨t, hne, ht⟩
    refine ⟨t, ?_⟩
    rw [hspecific t, if_neg hne]
    exact ht

/-- The id that is generated at a place of the run. -/
def generatedAt (ops : List CorrelationOp) (k : Nat) : Option String :=
  ops[k]?.bind CorrelationOp.uniqueId

theorem contextOf_take {ops : List CorrelationOp} {t i k : Nat} {id : String}
    (h : contextOf t (ops.take i).reverse = some (k, id)) : generatedAt ops k = some id := by
  have hgenerated := contextOf_generated h
  rw [List.reverse_reverse] at hgenerated
  obtain ⟨op, hop, hid⟩ := Option.bind_eq_some_iff.mp hgenerated
  rw [List.getElem?_take] at hop
  split at hop
  · rw [generatedAt, hop]
    exact hid
  · cases hop

/--
**Diagnostics have the same correlation exactly if they belong together.** Whichever way the
threads interleave, two diagnostics that are recorded in a run have the same correlation if and
only if they are recorded in the same context: by the same thread, after the same renewal of its
correlation and before the next, or both by threads that have none. The generated ids are to
differ from each other, and from the empty one.
-/
theorem same_correlation_iff {ops : List CorrelationOp} {outs : List CorrelationOutput}
    {s : CorrelationManager} (hrun : run step initialized ops = some (outs, s))
    (hunique : ∀ k k' id, generatedAt ops k = some id → generatedAt ops k' = some id → k = k')
    (hguid : ∀ k, generatedAt ops k ≠ some EMPTY_GUID) {i j : Nat} {op op' : CorrelationOp}
    {e e' : DiagnosticEvent} (hop : ops[i]? = some op)
    (hout : outs[i]? = some (.initDiagnosticEvent (some e))) (hop' : ops[j]? = some op')
    (hout' : outs[j]? = some (.initDiagnosticEvent (some e'))) :
    e.correlationId = e'.correlationId
      ↔ contextOf op.thread (ops.take i).reverse = contextOf op'.thread (ops.take j).reverse := by
  have hrecorded := (after_initialized.run_correlated hrun).2
  have he := hrecorded i op e hop hout
  have he' := hrecorded j op' e' hop' hout'
  rw [List.append_nil] at he he'
  rw [he, he']
  constructor
  · intro hsame
    cases hc : contextOf op.thread (ops.take i).reverse with
    | none =>
        cases hc' : contextOf op'.thread (ops.take j).reverse with
        | none => rfl
        | some c' =>
            obtain ⟨k', id'⟩ := c'
            rw [hc, hc'] at hsame
            have hempty : EMPTY_GUID = id' := hsame
            exact absurd (hempty ▸ contextOf_take hc') (hguid k')
    | some c =>
        obtain ⟨k, id⟩ := c
        cases hc' : contextOf op'.thread (ops.take j).reverse with
        | none =>
            rw [hc, hc'] at hsame
            have hempty : id = EMPTY_GUID := hsame
            exact absurd (hempty ▸ contextOf_take hc) (hguid k)
        | some c' =>
            obtain ⟨k', id'⟩ := c'
            rw [hc, hc'] at hsame
            obtain rfl : id = id' := hsame
            rw [hunique k k' id (contextOf_take hc) (contextOf_take hc')]
  · intro hsame
    rw [hsame]

/-- Nothing fails while an event is recorded. -/
def recordingEvent : LogOutcome :=
  ⟨true, true, true, 1, 2, 0, "", .ok, .ok, .ok, none, ⟨true, true, true⟩⟩

/-- Two threads with a correlation each. -/
def twoThreads : List CorrelationOp :=
  [.setCorrelation 1 ⟨true, some "a", true⟩, .setCorrelation 2 ⟨true, some "b", true⟩,
    .initDiagnosticEvent 1 recordingEvent "one" .error,
    .initDiagnosticEvent 2 recordingEvent "two" .error]

theorem same_correlation_iff_two_threads :
    ∃ outs s, run step initialized twoThreads = some (outs, s)
      ∧ ∃ e e', outs[2]? = some (.initDiagnosticEvent (some e))
        ∧ outs[3]? = some (.initDiagnosticEvent (some e'))
        ∧ (e.correlationId = e'.correlationId
          ↔ contextOf 1 (twoThreads.take 2).reverse = contextOf 2 (twoThreads.take 3).reverse) := by
  refine ⟨_, _, rfl, _, _, rfl, rfl, ?_⟩
  refine @same_correlation_iff twoThreads _ _ rfl ?_ ?_ 2 3 _ _ _ _ rfl rfl rfl rfl
  · intro k k' id hk hk'
    rcases k with _ | _ | _ | _ | k <;> rcases k' with _ | _ | _ | _ | k' <;>
      simp [generatedAt, twoThreads, CorrelationOp.uniqueId] at hk hk' ⊢ <;>
      exact absurd (hk.trans hk'.symm) (by decide)
  · intro k hk
    rcases k with _ | _ | _ | _ | k <;>
      simp [generatedAt, twoThreads, CorrelationOp.uniqueId, EMPTY_GUID] at hk

end CorrelationManager

end SecurityAgent
