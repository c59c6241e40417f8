import Mathlib.Algebra.BigOperators.Group.List.Basic
import Mathlib.Algebra.Order.Monoid.Unbundled.Basic
import Mathlib.Algebra.Order.Monoid.Defs
import Mathlib.Tactic.Abel
import SecurityAgent.Lib.Run

/-!
# Accounts that can only lose

Something flows into a store and out of it again, and may get lost on the way but
never comes from nowhere. Each piece of a computation then has an entry: what it
gives out and leaves in the store is at most what was there and came in, and it is
just that exactly under some condition. Entries of consecutive pieces add up, and
so do those of the steps of a run: as nothing comes from nowhere, no loss can make
up for another.
-/

namespace Ledger

open Machine

variable {M : Type} [AddCommMonoid M] [PartialOrder M]

/-- From the level `a` to the level `b`, with `gain` coming in and `spend` given out. Nothing is
lost exactly if `C`. -/
structure Entry (C : Prop) (a gain spend b : M) : Prop where
  le : spend + b ≤ a + gain
  exact : spend + b = a + gain ↔ C

namespace Entry

theorem congr {C C' : Prop} {a gain spend b : M} (h : Entry C a gain spend b) (hc : C ↔ C') :
    Entry C' a gain spend b := ⟨h.le, h.exact.trans hc⟩

/-- Nothing happens. -/
theorem rest (a : M) : Entry True a 0 0 a := by
  refine ⟨?_, iff_of_true ?_ trivial⟩
  · rw [add_zero, zero_add]
  · rw [add_zero, zero_add]

variable [IsOrderedCancelAddMonoid M]

/-- One piece after another. -/
theorem trans {C C' : Prop} {a gain spend b gain' spend' c : M} (h : Entry C a gain spend b)
    (h' : Entry C' b gain' spend' c) :
    Entry (C ∧ C') a (gain + gain') (spend + spend') c := by
  -- the level in between stands on both sides
  have hl : (spend + spend' + c) + b = (spend + b) + (spend' + c) := by abel
  have hr : (a + (gain + gain')) + b = (a + gain) + (b + gain') := by abel
  have hsum := add_le_add h.le h'.le
  refine ⟨?_, ?_⟩
  · rw [← hl, ← hr] at hsum
    exact le_of_add_le_add_right hsum
  · rw [← h.exact, ← h'.exact, ← add_eq_add_iff_eq_and_eq h.le h'.le, ← hl, ← hr]
    exact (add_left_inj b).symm

end Entry

variable [IsOrderedCancelAddMonoid M] {σ ι ο : Type}

/-- **The exact balance rule.** If `C` is the condition under which a step loses nothing, then a run
has lost nothing exactly if all its steps met `C`. -/
theorem runTotal_entry {step : σ → ι → ο × σ} {C : σ → ι → Prop} (level : σ → M)
    (gain spend : ο → M)
    (hstep : ∀ s i, Entry (C s i) (level s) (gain (step s i).1) (spend (step s i).1)
      (level (step s i).2)) :
    ∀ (is : List ι) (s : σ), Entry (Along (total step) C s is) (level s)
      ((runTotal step s is).1.map gain).sum ((runTotal step s is).1.map spend).sum
      (level (runTotal step s is).2) := by
  intro is
  induction is with
  | nil => intro s; exact Entry.rest (level s)
  | cons i is ih =>
      intro s
      rw [along_total]
      simp only [runTotal, List.map_cons, List.sum_cons]
      exact (hstep s i).trans (ih _)

end Ledger
