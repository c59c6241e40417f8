import Mathlib.Data.Nat.Find

/-!
# Loops that look at what others do

`while (cond) body`, where each round sees something that the loop has no say in: the
answers of a device, or the fields that other threads write. What is seen is a sequence
without an end, of which the loop looks at as much as it has rounds.

Nothing can be said of a loop before it is known to be left. The variant rule gives that,
for whatever is seen; the other rules are about the rounds up to then.
-/

namespace Loop

variable {σ ι : Type}

/-- The state after so many rounds, had the condition always been true. -/
def after (body : ι → σ → σ) (seen : Nat → ι) (s : σ) : Nat → σ
  | 0 => s
  | n + 1 => body (seen n) (after body seen s n)

/-- The loop is left after `n` rounds: its condition is true before each of them, and false then. -/
structure Leaves (cond : σ → Bool) (body : ι → σ → σ) (seen : Nat → ι) (s : σ) (n : Nat) : Prop where
  stays : ∀ m < n, cond (after body seen s m) = true
  leaves : cond (after body seen s n) = false

section Rules

variable {cond : σ → Bool} {body : ι → σ → σ} {seen : Nat → ι} {s : σ} {n : Nat}

/-- **The invariant rule**: what a round keeps while the condition is true holds up to the end. -/
theorem Leaves.invariant {I : σ → Prop} (h : Leaves cond body seen s n) (h0 : I s)
    (hstep : ∀ i s, I s → cond s = true → I (body i s)) : ∀ m ≤ n, I (after body seen s m) := by
  intro m
  induction m with
  | zero => intro _; exact h0
  | succ m ih =>
      intro hm
      exact hstep _ _ (ih (by omega)) (h.stays m (by omega))

/-- **The variant rule**: a loop whose rounds keep an invariant and count something down is left,
and after no more rounds than there was to count. -/
theorem exists_leaves {I : σ → Prop} (variant : σ → Nat) (h0 : I s)
    (hstep : ∀ i s, I s → cond s = true → I (body i s) ∧ variant (body i s) < variant s) :
    ∃ n ≤ variant s, Leaves cond body seen s n := by
  -- if the condition is true before `n` rounds, they have counted down by `n`
  have hdown : ∀ n, (∀ m < n, cond (after body seen s m) = true) →
      I (after body seen s n) ∧ variant (after body seen s n) + n ≤ variant s := by
    intro n
    induction n with
    | zero => intro _; exact ⟨h0, Nat.le_refl _⟩
    | succ n ih =>
        intro hstays
        obtain ⟨hI, hle⟩ := ih fun m hm => hstays m (by omega)
        obtain ⟨hI', hlt⟩ := hstep (seen n) _ hI (hstays n (by omega))
        refine ⟨hI', ?_⟩
        show variant (body (seen n) (after body seen s n)) + (n + 1) ≤ variant s
        omega
  have hends : ∃ n, cond (after body seen s n) = false := by
    by_contra hnever
    have hstays : ∀ m, cond (after body seen s m) = true := fun m =>
      (Bool.not_eq_false _).mp fun hfalse => hnever ⟨m, hfalse⟩
    have hmany := (hdown (variant s + 1) fun m _ => hstays m).2
    omega
  have hstays : ∀ m < Nat.find hends, cond (after body seen s m) = true := fun m hm =>
    (Bool.not_eq_false _).mp (Nat.find_min hends hm)
  have hle := (hdown _ hstays).2
  exact ⟨Nat.find hends, by omega, hstays, Nat.find_spec hends⟩

/-- **A loop that is never left**: a round keeps an invariant under which the condition is true. -/
theorem not_leaves {I : σ → Prop} (h0 : I s) (hcond : ∀ s, I s → cond s = true)
    (hstep : ∀ n s, I s → I (body (seen n) s)) : ¬ Leaves cond body seen s n := by
  intro h
  have hall : ∀ m, I (after body seen s m) := by
    intro m
    induction m with
    | zero => exact h0
    | succ m ih => exact hstep m _ ih
  exact absurd ((hcond _ (hall n)).symm.trans h.leaves) Bool.true_eq_false.mp

end Rules

end Loop
