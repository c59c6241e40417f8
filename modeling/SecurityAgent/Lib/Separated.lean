import Mathlib.Algebra.GroupWithZero.Nat
import Mathlib.Data.List.Basic

/-!
# Pieces of text with a separator between them

No piece contains the separator. Then the text is cut where it was put together, and
whatever is read from every piece is read from the text.

The pieces are decimal numbers more often than not. A number is one or more digits, and
it is what they stand for.
-/

namespace Separated

/-- A text without the separator. -/
def Free (separator : Char) (piece : List Char) : Prop := separator ∉ piece

/-- Every piece but the first has the separator before it. -/
theorem intercalate_cons (separator : Char) (piece : List Char) (rest : List (List Char)) :
    [separator].intercalate (piece :: rest) = piece ++ rest.flatMap (separator :: ·) := by
  induction rest generalizing piece with
  | nil => rw [List.intercalate_singleton, List.flatMap_nil, List.append_nil]
  | cons next rest ih =>
      rw [List.intercalate_cons_cons, ih, List.flatMap_cons, List.append_assoc]
      rfl

/-- **The text determines the pieces.** -/
theorem intercalate_injective {separator : Char} {pieces pieces' : List (List Char)}
    (hne : pieces ≠ []) (hfree : ∀ piece ∈ pieces, Free separator piece)
    (hne' : pieces' ≠ []) (hfree' : ∀ piece ∈ pieces', Free separator piece)
    (h : [separator].intercalate pieces = [separator].intercalate pieces') : pieces = pieces' := by
  rw [← List.splitOn_intercalate separator hfree hne, h,
    List.splitOn_intercalate separator hfree' hne']

/-- Two texts with pieces for the same places. -/
theorem map_intercalate_injective {α : Type} {separator : Char} {places : List α}
    {f g : α → List Char} (hf : ∀ i ∈ places, Free separator (f i))
    (hg : ∀ i ∈ places, Free separator (g i))
    (h : [separator].intercalate (places.map f) = [separator].intercalate (places.map g)) :
    ∀ i ∈ places, f i = g i := by
  intro i hi
  have hne : ∀ f : α → List Char, places.map f ≠ [] := fun f hnil => by
    rw [List.map_eq_nil_iff] at hnil
    rw [hnil] at hi
    exact List.not_mem_nil hi
  have hpieces := intercalate_injective (hne f) (List.forall_mem_map.mpr hf) (hne g)
    (List.forall_mem_map.mpr hg) h
  exact List.map_inj_left.mp hpieces i hi

/-- There are separators only where there is more than one piece. -/
theorem mem_intercalate {separator c : Char} {pieces : List (List Char)}
    (h : c ∈ [separator].intercalate pieces) : c = separator ∨ ∃ piece ∈ pieces, c ∈ piece := by
  induction pieces with
  | nil => exact absurd h (by simp [List.intercalate])
  | cons piece rest ih =>
      cases rest with
      | nil =>
          rw [List.intercalate_singleton] at h
          exact Or.inr ⟨piece, List.mem_cons_self, h⟩
      | cons next rest =>
          rw [List.intercalate_cons_cons, List.append_assoc] at h
          rcases List.mem_append.mp h with hpiece | h
          · exact Or.inr ⟨piece, List.mem_cons_self, hpiece⟩
          rcases List.mem_append.mp h with hseparator | hrest
          · exact Or.inl (List.mem_singleton.mp hseparator)
          rcases ih hrest with hseparator | ⟨other, hmem, hc⟩
          · exact Or.inl hseparator
          · exact Or.inr ⟨other, List.mem_cons_of_mem _ hmem, hc⟩

/-- What is in a piece is in the text. -/
theorem mem_intercalate_of_mem {separator c : Char} {piece : List Char} {pieces : List (List Char)}
    (hpiece : piece ∈ pieces) (hc : c ∈ piece) : c ∈ [separator].intercalate pieces := by
  cases pieces with
  | nil => exact absurd hpiece List.not_mem_nil
  | cons first rest =>
      rw [intercalate_cons]
      rcases List.mem_cons.mp hpiece with rfl | hrest
      · exact List.mem_append_left _ hc
      · exact List.mem_append_right _
          (List.mem_flatMap.mpr ⟨piece, hrest, List.mem_cons_of_mem _ hc⟩)

/-! ## Decimal numbers -/

/-- The number that a text of digits stands for, `none` if it is anything else. -/
def readDecimal (text : List Char) : Option Nat :=
  if text ≠ [] ∧ text.all Char.isDigit = true then some (Nat.ofDigitChars 10 text 0) else none

theorem isDigit_toDigits {n : Nat} {c : Char} (h : c ∈ Nat.toDigits 10 n) : c.isDigit = true :=
  Nat.isDigit_of_mem_toDigits (by omega) (by omega) h

theorem free_toDigits {separator : Char} (h : separator.isDigit = false) (n : Nat) :
    Free separator (Nat.toDigits 10 n) := fun hmem => by
  rw [isDigit_toDigits hmem] at h
  exact absurd h.symm Bool.false_ne_true

/-- **A number is read back from its digits.** -/
theorem readDecimal_toDigits (n : Nat) : readDecimal (Nat.toDigits 10 n) = some n := by
  have hall : (Nat.toDigits 10 n).all Char.isDigit = true :=
    List.all_eq_true.mpr fun _ hc => isDigit_toDigits hc
  unfold readDecimal
  rw [if_pos ⟨Nat.toDigits_ne_nil, hall⟩, Nat.ofDigitChars_ten_toDigits]

/-- A number is known by its digits. -/
theorem toDigits_injective {n m : Nat} (h : Nat.toDigits 10 n = Nat.toDigits 10 m) : n = m := by
  have hvalue := congrArg readDecimal h
  rw [readDecimal_toDigits, readDecimal_toDigits] at hvalue
  exact Option.some.inj hvalue

theorem toList_toString (n : Nat) : (toString n).toList = Nat.toDigits 10 n := by
  rw [Nat.toString_eq_ofList_toDigits, String.toList_ofList]

/-- Of anything that is not a digit no number is read. -/
theorem readDecimal_of_mem {text : List Char} {c : Char} (h : c ∈ text)
    (hc : c.isDigit = false) : readDecimal text = none := by
  unfold readDecimal
  refine if_neg fun ⟨_, hall⟩ => ?_
  rw [List.all_eq_true.mp hall c h] at hc
  exact absurd hc.symm Bool.false_ne_true

end Separated
