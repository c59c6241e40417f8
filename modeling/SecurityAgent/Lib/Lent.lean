import Mathlib.Logic.Function.Basic

/-!
# Values that are handed out by reference

An owner keeps a value in each of its places, and a borrower is given what a place has. Where that
is a reference, the borrower may read what the owner has freed since. Where it is a copy, it cannot.

`Places` is what the two may do, however the values are kept. As long as nothing is read that was
freed before, the two ways of keeping them cannot be told apart: `Agrees` is kept by whatever is
done, and what is read is the same. And the blocks in use are then the owner's, no others.
-/

namespace Lent

/-- What is done to places. `none` is a fault. -/
structure Places (ι α σ : Type) where
  /-- The owner frees what is in the place, and does not forget it. -/
  free : ι → σ → Option σ
  /-- The owner forgets what is in the place. -/
  clear : ι → σ → σ
  /-- The owner puts a copy of the value into the place. -/
  put : ι → α → σ → σ
  /-- The borrower is given what is in the place. -/
  lend : ι → σ → σ
  /-- The borrower reads what it was given of the place. -/
  read : ι → σ → Option (Option α)

variable {ι α : Type} [DecidableEq ι]

/-- Places that have references to blocks. -/
structure References (ι α : Type) where
  /-- The blocks in use. -/
  block : Nat → Option α
  next : Nat
  owner : ι → Option Nat
  lent : ι → Option Nat

/-- There is nothing in any place. -/
def References.empty : References ι α := ⟨fun _ => none, 0, fun _ => none, fun _ => none⟩

/-- A reference is what the borrower is given. -/
def byReference : Places ι α (References ι α) where
  free i r :=
    match r.owner i with
    | none => some r
    | some p => (r.block p).map fun _ => { r with block := Function.update r.block p none }
  clear i r := { r with owner := Function.update r.owner i none }
  put i a r := { r with
    block := Function.update r.block r.next (some a)
    next := r.next + 1
    owner := Function.update r.owner i (some r.next) }
  lend i r := { r with lent := Function.update r.lent i (r.owner i) }
  read i r :=
    match r.lent i with
    | none => some none
    | some p => (r.block p).map some

/-- Places that have the values themselves. -/
structure Copies (ι α : Type) where
  owner : ι → Option α
  /-- What is in the place has been freed and not yet forgotten. -/
  freed : ι → Bool
  lent : ι → Option α
  /-- What was given of the place has been freed. -/
  stale : ι → Bool

/-- There is nothing in any place. -/
def Copies.empty : Copies ι α := ⟨fun _ => none, fun _ => false, fun _ => none, fun _ => false⟩

/-- A copy is what the borrower is given. -/
def byCopy : Places ι α (Copies ι α) where
  free i c := some { c with
    freed := Function.update c.freed i true, stale := Function.update c.stale i true }
  clear i c := { c with
    owner := Function.update c.owner i none, freed := Function.update c.freed i false }
  put i a c := { c with
    owner := Function.update c.owner i (some a), freed := Function.update c.freed i false }
  lend i c := { c with
    lent := Function.update c.lent i (c.owner i), stale := Function.update c.stale i (c.freed i) }
  read i c := some (c.lent i)

/-- What was given of the place has not been freed. -/
def Copies.Fresh (c : Copies ι α) (i : ι) : Prop := c.lent i ≠ none → c.stale i = false

/-- The references are those of the values. -/
structure Agrees (r : References ι α) (c : Copies ι α) : Prop where
  inUse : ∀ p a, r.block p = some a → p < r.next ∧ ∃ i, r.owner i = some p
  /-- No two places share a block. -/
  apart : ∀ i j p, r.owner i = some p → r.owner j = some p → i = j
  ownerNone : ∀ i, r.owner i = none ↔ c.owner i = none
  bound : ∀ i p, r.owner i = some p → p < r.next
  kept : ∀ i p, r.owner i = some p → c.freed i = false → r.block p = c.owner i
  gone : ∀ i p, r.owner i = some p → c.freed i = true → r.block p = none
  lentNone : ∀ i, r.lent i = none ↔ c.lent i = none
  /-- What is not stale is still in its place. -/
  live : ∀ i p, r.lent i = some p → c.stale i = false →
    r.owner i = some p ∧ c.freed i = false ∧ c.lent i = c.owner i
  stale : ∀ i p, r.lent i = some p → c.stale i = true → p < r.next ∧ r.block p = none

omit [DecidableEq ι] in
theorem agrees_empty : Agrees (References.empty : References ι α) Copies.empty where
  inUse := fun p a h => by cases h
  apart := fun i j p h => by cases h
  ownerNone := fun i => ⟨fun _ => rfl, fun _ => rfl⟩
  bound := fun i p h => by cases h
  kept := fun i p h => by cases h
  gone := fun i p h => by cases h
  lentNone := fun i => ⟨fun _ => rfl, fun _ => rfl⟩
  live := fun i p h => by cases h
  stale := fun i p h => by cases h

namespace Agrees

variable {r : References ι α} {c : Copies ι α}

/-- Nothing is freed twice, as long as what is freed is forgotten then. -/
theorem free (h : Agrees r c) {i : ι} (hfreed : c.freed i = false) :
    ∃ r' c', byReference.free i r = some r' ∧ byCopy.free i c = some c' ∧ Agrees r' c'
      ∧ c'.owner = c.owner ∧ c'.freed = Function.update c.freed i true := by
  -- whoever is not stale afterwards was given another place
  have hother : ∀ j, Function.update c.stale i true j = false → j ≠ i := fun j hj he => by
    rw [he, Function.update_self] at hj
    cases hj
  cases howner : r.owner i with
  | none =>
      have hne : ∀ j p, r.owner j = some p → j ≠ i := fun j p hj he => by
        rw [he, howner] at hj
        cases hj
      refine ⟨r, _, by rw [byReference]; dsimp only; rw [howner], rfl, ?_, rfl, rfl⟩
      refine ⟨h.inUse, h.apart, h.ownerNone, h.bound, fun j p hj hf => ?_, fun j p hj hf => ?_,
        h.lentNone, fun j p hj hs => ?_, fun j p hj hs => ?_⟩
      all_goals dsimp only at *
      · rw [Function.update_of_ne (hne j p hj)] at hf
        exact h.kept j p hj hf
      · rw [Function.update_of_ne (hne j p hj)] at hf
        exact h.gone j p hj hf
      · have hji := hother j hs
        rw [Function.update_of_ne hji] at hs ⊢
        exact h.live j p hj hs
      · by_cases he : j = i
        · cases hold : c.stale j with
          | true => exact h.stale j p hj hold
          | false => exact absurd he (hne j p (h.live j p hj hold).1)
        · rw [Function.update_of_ne he] at hs
          exact h.stale j p hj hs
  | some p =>
      have hblock := h.kept i p howner hfreed
      obtain ⟨a, ha⟩ := Option.ne_none_iff_exists'.mp fun hnone =>
        absurd ((h.ownerNone i).mpr hnone) (by rw [howner]; exact Option.some_ne_none p)
      rw [ha] at hblock
      have hgone : ∀ q, r.block q = none → Function.update r.block p none q = none := fun q hq => by
        by_cases he : q = p
        · rw [he, Function.update_self]
        · rw [Function.update_of_ne he, hq]
      refine ⟨{ r with block := Function.update r.block p none }, _, ?_, rfl, ?_, rfl, rfl⟩
      · rw [byReference]
        dsimp only
        rw [howner]
        dsimp only
        rw [hblock]
        rfl
      refine ⟨fun q b hq => ?_, h.apart, h.ownerNone, h.bound, fun j q hj hf => ?_,
        fun j q hj hf => ?_, h.lentNone, fun j q hj hs => ?_, fun j q hj hs => ?_⟩
      all_goals dsimp only at *
      · by_cases he : q = p
        · rw [he, Function.update_self] at hq
          cases hq
        · rw [Function.update_of_ne he] at hq
          exact h.inUse q b hq
      · have hji : j ≠ i := fun he => by
          rw [he, Function.update_self] at hf
          cases hf
        rw [Function.update_of_ne hji] at hf
        -- another place has another block
        have hqp : q ≠ p := fun he => hji (h.apart j i p (he ▸ hj) howner)
        rw [Function.update_of_ne hqp]
        exact h.kept j q hj hf
      · by_cases he : j = i
        · rw [he, howner] at hj
          rw [← Option.some.inj hj, Function.update_self]
        · rw [Function.update_of_ne he] at hf
          exact hgone q (h.gone j q hj hf)
      · have hji := hother j hs
        rw [Function.update_of_ne hji] at hs ⊢
        exact h.live j q hj hs
      · cases hold : c.stale j with
        | true =>
            obtain ⟨hlt, hnone⟩ := h.stale j q hj hold
            exact ⟨hlt, hgone q hnone⟩
        | false =>
            by_cases he : j = i
            · -- it was in its place until now
              have hlive := (h.live j q hj hold).1
              refine ⟨h.bound j q hlive, ?_⟩
              rw [he, howner] at hlive
              rw [← Option.some.inj hlive, Function.update_self]
            · rw [Function.update_of_ne he, hold] at hs
              cases hs

/-- What is forgotten has been freed. -/
theorem clear (h : Agrees r c) {i : ι} (hfreed : c.freed i = true ∨ c.owner i = none) :
    Agrees (byReference.clear i r) (byCopy.clear i c) := by
  have hdead : ∀ p, r.owner i = some p → r.block p = none := fun p hp => by
    rcases hfreed with hfreed | hnone
    · exact h.gone i p hp hfreed
    · rw [(h.ownerNone i).mpr hnone] at hp
      cases hp
  have hother : ∀ j p, Function.update r.owner i none j = some p → j ≠ i := fun j p hj he => by
    rw [he, Function.update_self] at hj
    cases hj
  refine ⟨fun p a hp => ?_, fun j k p hj hk => ?_, fun j => ?_, fun j p hj => ?_,
    fun j p hj hf => ?_, fun j p hj hf => ?_, h.lentNone, fun j p hj hs => ?_, h.stale⟩
  · have hblock : r.block p = some a := hp
    obtain ⟨hlt, j, hj⟩ := h.inUse p a hblock
    have hne : j ≠ i := fun he => by
      rw [hdead p (he ▸ hj)] at hblock
      cases hblock
    exact ⟨hlt, j, (Function.update_of_ne hne _ _).trans hj⟩
  all_goals simp only [byReference, byCopy] at *
  · have hji := hother j p hj
    have hki := hother k p hk
    rw [Function.update_of_ne hji] at hj
    rw [Function.update_of_ne hki] at hk
    exact h.apart j k p hj hk
  · by_cases he : j = i
    · rw [he, Function.update_self, Function.update_self]
      exact ⟨fun _ => rfl, fun _ => rfl⟩
    · rw [Function.update_of_ne he, Function.update_of_ne he]
      exact h.ownerNone j
  · have hji := hother j p hj
    rw [Function.update_of_ne hji] at hj
    exact h.bound j p hj
  · have hji := hother j p hj
    rw [Function.update_of_ne hji] at hj hf
    rw [Function.update_of_ne hji]
    exact h.kept j p hj hf
  · have hji := hother j p hj
    rw [Function.update_of_ne hji] at hj hf
    exact h.gone j p hj hf
  · obtain ⟨howner, hnot, hlent⟩ := h.live j p hj hs
    have hne : j ≠ i := fun he => by
      subst he
      rcases hfreed with hfreed | hnone
      · rw [hnot] at hfreed
        cases hfreed
      · rw [(h.ownerNone j).mpr hnone] at howner
        cases howner
    rw [Function.update_of_ne hne, Function.update_of_ne hne, Function.update_of_ne hne]
    exact ⟨howner, hnot, hlent⟩

/-- A value is put where there is none. -/
theorem put (h : Agrees r c) {i : ι} (hempty : c.owner i = none) (a : α) :
    Agrees (byReference.put i a r) (byCopy.put i a c) := by
  have hnone := (h.ownerNone i).mpr hempty
  have hold : ∀ p, p < r.next → Function.update r.block r.next (some a) p = r.block p :=
    fun p hp => Function.update_of_ne (by omega) _ _
  have hne : ∀ j p, r.owner j = some p → j ≠ i := fun j p hj he => by
    rw [he, hnone] at hj
    cases hj
  -- a place has the new block, or what it had
  have hcases : ∀ j p, Function.update r.owner i (some r.next) j = some p →
      (j = i ∧ p = r.next) ∨ (j ≠ i ∧ r.owner j = some p ∧ p < r.next) := fun j p hj => by
    by_cases he : j = i
    · rw [he, Function.update_self] at hj
      exact Or.inl ⟨he, (Option.some.inj hj).symm⟩
    · rw [Function.update_of_ne he] at hj
      exact Or.inr ⟨he, hj, h.bound j p hj⟩
  refine ⟨fun p b hp => ?_, fun j k p hj hk => ?_, fun j => ?_, fun j p hj => ?_,
    fun j p hj hf => ?_, fun j p hj hf => ?_, h.lentNone, fun j p hj hs => ?_, fun j p hj hs => ?_⟩
  all_goals simp only [byReference, byCopy] at *
  · by_cases he : p = r.next
    · exact ⟨by omega, i, by rw [Function.update_self, he]⟩
    · rw [Function.update_of_ne he] at hp
      obtain ⟨hlt, j, hj⟩ := h.inUse p b hp
      exact ⟨by omega, j, by rw [Function.update_of_ne (hne j p hj)]; exact hj⟩
  · rcases hcases j p hj with ⟨hji, hp⟩ | ⟨-, hjp, hp⟩
    · rcases hcases k p hk with ⟨hki, -⟩ | ⟨-, -, hlt⟩
      · rw [hji, hki]
      · omega
    · rcases hcases k p hk with ⟨-, hnext⟩ | ⟨-, hkp, -⟩
      · omega
      · exact h.apart j k p hjp hkp
  · by_cases he : j = i
    · rw [he, Function.update_self, Function.update_self]
      exact ⟨fun hf => absurd hf (Option.some_ne_none _), fun hf => absurd hf (Option.some_ne_none _)⟩
    · rw [Function.update_of_ne he, Function.update_of_ne he]
      exact h.ownerNone j
  · rcases hcases j p hj with ⟨-, hp⟩ | ⟨-, -, hp⟩ <;> omega
  · rcases hcases j p hj with ⟨hji, hp⟩ | ⟨hji, hjp, hp⟩
    · rw [hji, hp, Function.update_self, Function.update_self]
    · rw [Function.update_of_ne hji] at hf
      rw [hold p hp, Function.update_of_ne hji]
      exact h.kept j p hjp hf
  · rcases hcases j p hj with ⟨hji, -⟩ | ⟨hji, hjp, hp⟩
    · rw [hji, Function.update_self] at hf
      cases hf
    · rw [Function.update_of_ne hji] at hf
      rw [hold p hp]
      exact h.gone j p hjp hf
  · obtain ⟨howner, hlive⟩ := h.live j p hj hs
    have hji := hne j p howner
    rw [Function.update_of_ne hji, Function.update_of_ne hji, Function.update_of_ne hji]
    exact ⟨howner, hlive⟩
  · obtain ⟨hlt, hblock⟩ := h.stale j p hj hs
    exact ⟨Nat.lt_succ_of_lt hlt, (hold p hlt).trans hblock⟩

/-- The borrower is given what is in the place, be it freed or not. -/
theorem lend (h : Agrees r c) (i : ι) : Agrees (byReference.lend i r) (byCopy.lend i c) := by
  refine ⟨h.inUse, h.apart, h.ownerNone, h.bound, h.kept, h.gone, fun j => ?_, fun j p hj hs => ?_,
    fun j p hj hs => ?_⟩
  all_goals simp only [byReference, byCopy] at *
  all_goals by_cases he : j = i
  · rw [he, Function.update_self, Function.update_self]
    exact h.ownerNone i
  · rw [Function.update_of_ne he, Function.update_of_ne he]
    exact h.lentNone j
  · subst he
    rw [Function.update_self] at hj hs ⊢
    exact ⟨hj, hs, rfl⟩
  · rw [Function.update_of_ne he] at hj hs ⊢
    exact h.live j p hj hs
  · subst he
    rw [Function.update_self] at hj hs
    exact ⟨h.bound j p hj, h.gone j p hj hs⟩
  · rw [Function.update_of_ne he] at hj hs
    exact h.stale j p hj hs

/-- **What is read is what was given, as long as it has not been freed**; otherwise to read it is a
fault. -/
theorem read (h : Agrees r c) (i : ι) :
    (c.Fresh i → byReference.read i r = some (c.lent i))
      ∧ (¬ c.Fresh i → byReference.read i r = none) := by
  cases hlent : r.lent i with
  | none =>
      have hnone := (h.lentNone i).mp hlent
      refine ⟨fun _ => ?_, fun hstale => absurd (fun hne => absurd hnone hne) hstale⟩
      simp only [byReference]
      rw [hlent, hnone]
  | some p =>
      have hne : c.lent i ≠ none := fun hnone => by
        rw [(h.lentNone i).mpr hnone] at hlent
        cases hlent
      have hread : byReference.read i r = (r.block p).map some := by
        simp only [byReference]
        rw [hlent]
      rw [hread]
      refine ⟨fun hfresh => ?_, fun hstale => ?_⟩
      · obtain ⟨howner, hfreed, hsame⟩ := h.live i p hlent (hfresh hne)
        obtain ⟨a, ha⟩ := Option.ne_none_iff_exists'.mp hne
        rw [h.kept i p howner hfreed, ← hsame, ha]
        rfl
      · have htrue : c.stale i = true := by
          cases hs : c.stale i with
          | true => rfl
          | false => exact absurd (fun _ => hs) hstale
        rw [(h.stale i p hlent htrue).2]
        rfl

omit [DecidableEq ι] in
/-- The blocks in use are those that are in the places and have not been freed. -/
theorem inUse_iff (h : Agrees r c) (p : Nat) :
    r.block p ≠ none ↔ ∃ i, r.owner i = some p ∧ c.freed i = false := by
  constructor
  · intro hne
    obtain ⟨a, ha⟩ := Option.ne_none_iff_exists'.mp hne
    obtain ⟨-, i, hi⟩ := h.inUse p a ha
    cases hf : c.freed i with
    | false => exact ⟨i, hi, hf⟩
    | true => exact absurd (h.gone i p hi hf) hne
  · rintro ⟨i, hi, hf⟩ hnone
    rw [h.kept i p hi hf] at hnone
    rw [(h.ownerNone i).mpr hnone] at hi
    cases hi

end Agrees

end Lent
