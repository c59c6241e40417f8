import Mathlib.Data.List.Forall2

/-!
# Queues that may lose but do not reorder

Items go in at the back and are taken from the front. Of those that are taken some come
out and the others are lost. Whatever comes out is in the order in which it went in,
and no item comes out twice; nothing is lost under some condition. Pieces of a run that pass
items on so pass them on together.
-/

namespace Conduit

variable {α : Type} {C C' : Prop} {a b c pushed pushed' out out' taken : List α}

/-- From the queue `a` to the queue `b`, with `pushed` going in and `out` coming out; nothing is lost
under the condition `C`. -/
def Passes (C : Prop) (a pushed out b : List α) : Prop :=
  ∃ taken, a ++ pushed = taken ++ b ∧ out.Sublist taken ∧ (C → out = taken)

namespace Passes

/-- Nothing happens. -/
theorem rest (a : List α) : Passes True a [] [] a :=
  ⟨[], List.append_nil a, List.Sublist.refl [], fun _ => rfl⟩

/-- Items go in. -/
theorem push (a pushed : List α) : Passes True a pushed [] (a ++ pushed) :=
  ⟨[], rfl, List.Sublist.refl [], fun _ => rfl⟩

/-- Items are taken. -/
theorem take (h : a = taken ++ b) (hout : out.Sublist taken) (hexact : C → out = taken) :
    Passes C a [] out b :=
  ⟨taken, by rw [List.append_nil, h], hout, hexact⟩

/-- One piece after another. -/
theorem trans (h : Passes C a pushed out b) (h' : Passes C' b pushed' out' c) :
    Passes (C ∧ C') a (pushed ++ pushed') (out ++ out') c := by
  obtain ⟨taken, hsplit, hsub, hexact⟩ := h
  obtain ⟨taken', hsplit', hsub', hexact'⟩ := h'
  refine ⟨taken ++ taken', ?_, hsub.append hsub', fun hC => ?_⟩
  · rw [← List.append_assoc, hsplit, List.append_assoc, hsplit', List.append_assoc]
  · rw [hexact hC.1, hexact' hC.2]

/-- What is left has been there or gone in. -/
theorem mem (h : Passes C a pushed out b) {x : α} (hx : x ∈ b) : x ∈ a ++ pushed := by
  obtain ⟨taken, hsplit, _, _⟩ := h
  rw [hsplit]
  exact List.mem_append_right taken hx

theorem mono (h : Passes C a pushed out b) (hC : C' → C) : Passes C' a pushed out b := by
  obtain ⟨taken, hsplit, hsub, hexact⟩ := h
  exact ⟨taken, hsplit, hsub, fun h => hexact (hC h)⟩

theorem sublist (h : Passes C [] pushed out b) : out.Sublist pushed := by
  obtain ⟨taken, hsplit, hsub, _⟩ := h
  rw [List.nil_append] at hsplit
  rw [hsplit]
  exact hsub.trans (List.sublist_append_left taken b)

end Passes

/-! ## Fates -/

variable {β κ : Type} [DecidableEq κ] {k : κ} {x : α} {fates fates' : List (α × Option κ)}

/-- What has gone the way `k`. -/
def via (k : κ) : List (α × Option κ) → List α
  | [] => []
  | f :: fates => if f.2 = some k then f.1 :: via k fates else via k fates

theorem via_append : via k (fates ++ fates') = via k fates ++ via k fates' := by
  induction fates with
  | nil => rfl
  | cons f fates ih =>
      rw [List.cons_append, via, via, ih]
      split <;> rfl

end Conduit
