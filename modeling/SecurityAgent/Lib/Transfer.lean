import SecurityAgent.Lib.Run

/-!
# What is handed to a machine and what it hands back

A machine holds items in several places. A step may be handed items for a place, and may hand
items of a place back. If every step hands back from the front what it has been handed at the back,
so does every run: all that has been handed in has been handed back, or is still held, in its order.
-/

namespace Machine

variable {σ ι ο κ β : Type}

/-- What the steps of a run amount to, by their inputs and outputs. -/
def tally (f : ι → ο → List β) (is : List ι) (os : List ο) : List β :=
  (List.zipWith f is os).flatten

theorem tally_cons (f : ι → ο → List β) (i : ι) (is : List ι) (o : ο) (os : List ο) :
    tally f (i :: is) (o :: os) = f i o ++ tally f is os := rfl

/-- **Nothing is lost along a run** if nothing is lost in a step. -/
theorem run_conserves {step : σ → ι → Option (ο × σ)} {C : σ → ι → Prop} {I : σ → Prop}
    (held : κ → σ → List β) (goesIn comesOut : κ → ι → ο → List β)
    (hstep : ∀ s i, I s → C s i → ∃ o s', step s i = some (o, s') ∧ I s'
      ∧ ∀ k, held k s ++ goesIn k i o = comesOut k i o ++ held k s') :
    ∀ {is : List ι} {s : σ}, I s → Along step C s is →
      ∃ os s', run step s is = some (os, s') ∧ I s'
        ∧ ∀ k, held k s ++ tally (goesIn k) is os = tally (comesOut k) is os ++ held k s' := by
  intro is
  induction is with
  | nil => exact fun {s} h _ => ⟨[], s, rfl, h, fun k => List.append_nil (held k s)⟩
  | cons i is ih =>
      intro s h hC
      obtain ⟨o, t, hs, ht, hmoved⟩ := hstep s i h hC.1
      obtain ⟨os, s', hrun, hs', hrest⟩ := ih ht (hC.2 o t hs)
      refine ⟨o :: os, s', ?_, hs', fun k => ?_⟩
      · rw [run, hs]
        dsimp only
        rw [hrun]
      · rw [tally_cons, tally_cons, ← List.append_assoc, hmoved k, List.append_assoc, hrest k,
          List.append_assoc]

end Machine
