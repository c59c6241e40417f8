import Mathlib.Data.List.Basic

/-!
# Programs that leave something as they found it

A program with a state may change it for a while and has to put it back. What
has to come back is a `view` of the state, and there may be views it need not come back
to: `may` says which ones count.

A resource is acquired and released: `Held c i j` says that the view was `i` when `c` was acquired
and is `j` since. What happens in between keeps the view at `j`; the release brings it back to `i`.
-/

namespace Keeping

variable {σ ι α β γ : Type} (view : σ → ι) (may : ι → Prop)

/-- Whatever the program does, in the end the view is as it was. -/
def Keeps (m : StateM σ α) : Prop := ∀ s, may (view s) → view (m s).2 = view s

/-- A resource that is acquired is held, be it in vain. -/
def Acquires (held : γ → ι → ι → Prop) (m : StateM σ γ) : Prop :=
  ∀ s, may (view s) → held (m s).1 (view s) (view (m s).2)

/-- What was held is given back. -/
def Releases (held : γ → ι → ι → Prop) (m : γ → StateM σ β) : Prop :=
  ∀ c i s, may i → held c i (view s) → view (m c s).2 = i

variable {view may}

theorem Keeps.pure (a : α) : Keeps view may (pure a) := fun _ _ => rfl

theorem Keeps.bind {m : StateM σ α} {f : α → StateM σ β} (hm : Keeps view may m)
    (hf : ∀ a, Keeps view may (f a)) : Keeps view may (m >>= f) := by
  intro s hs
  have hfirst : view (m s).2 = view s := hm s hs
  have hsecond : view (f (m s).1 (m s).2).2 = view (m s).2 := hf _ _ (hfirst ▸ hs)
  exact hsecond.trans hfirst

theorem Keeps.map {m : StateM σ α} (hm : Keeps view may m) (f : α → β) :
    Keeps view may (f <$> m) := fun s hs => hm s hs

/-- **What is between acquiring and releasing may do as it likes, as long as it keeps the view it
finds.** -/
theorem Keeps.bracket {held : γ → ι → ι → Prop} {acquire : StateM σ γ} {body : γ → StateM σ α}
    {release : γ → StateM σ β} (hmay : ∀ c i j, may i → held c i j → may j)
    (hacquire : Acquires view may held acquire) (hbody : ∀ c, Keeps view may (body c))
    (hrelease : Releases view may held release) :
    Keeps view may (acquire >>= fun c => body c >>= fun a => release c >>= fun _ => Pure.pure a) := by
  intro s hs
  have hheld := hacquire s hs
  have hkept := hbody (acquire s).1 (acquire s).2 (hmay _ _ _ hs hheld)
  have hback : view (release (acquire s).1 (body (acquire s).1 (acquire s).2).2).2 = view s :=
    hrelease _ _ _ hs (hkept ▸ hheld)
  exact hback

/-! ## Resources that may not be there -/

/-- What is held of a resource if it has been acquired; otherwise nothing has changed. -/
def HeldIfSome (held : γ → ι → ι → Prop) : Option γ → ι → ι → Prop
  | none, i, j => j = i
  | some c, i, j => held c i j

theorem HeldIfSome.mayStill {held : γ → ι → ι → Prop} (hheld : ∀ c i j, may i → held c i j → may j)
    {c : Option γ} {i j : ι} (hi : may i) (h : HeldIfSome held c i j) : may j := by
  cases c with
  | none => exact (show j = i from h) ▸ hi
  | some c => exact hheld c i j hi h

/-- Releasing what is there, and leaving alone what is not. -/
theorem Releases.ifSome {held : γ → ι → ι → Prop} {m : γ → StateM σ β} (h : Releases view may held m)
    {m' : Option γ → StateM σ β} {b : β} (hnone : m' none = Pure.pure b)
    (hsome : ∀ c, m' (some c) = m c) : Releases view may (HeldIfSome held) m' := by
  intro c i s hi hheld
  cases c with
  | none =>
      rw [hnone]
      exact hheld
  | some c =>
      rw [hsome]
      exact h c i s hi hheld

end Keeping
