import Mathlib.Data.List.Basic

/-!
# Blocks of memory that nothing has been written to

A block that has just been allocated holds something, but nothing that is known. Its cells are
`none` until they are written to. What is read from written cells only is the same whatever the
memory held before; to read another cell is a fault, as it is to read behind the end.
-/

namespace Block

variable {α : Type}

/-- What has been written to each cell of a block, if anything. -/
abbrev Cells (α : Type) := List (Option α)

/-- A block as it is allocated. -/
def fresh (size : Nat) : Cells α := List.replicate size none

/-- These values are written to the cells from an offset on. -/
def write (cells : Cells α) (offset : Nat) (values : List α) : Cells α :=
  cells.take offset ++ values.map some ++ cells.drop (offset + values.length)

/-- What the memory holds, if it held this when it was allocated. -/
def fill (cells : Cells α) (contents : List α) : List α :=
  List.zipWith (fun cell old => cell.getD old) cells contents

/-- What is read up to a terminator, `none` for a fault. -/
def readTo [DecidableEq α] (terminator : α) : Cells α → Option (List α)
  | [] => none
  | none :: _ => none
  | some value :: rest =>
      if value = terminator then some [] else (readTo terminator rest).map (value :: ·)

/-! ## Writing -/

theorem write_append {front rest : Cells α} {offset : Nat} (h : front.length = offset)
    (values : List α) :
    write (front ++ rest) offset values = front ++ values.map some ++ rest.drop values.length := by
  unfold write
  rw [List.take_left' h, ← List.drop_drop, List.drop_left' h]

theorem length_write {cells : Cells α} {offset : Nat} {values : List α}
    (h : offset + values.length ≤ cells.length) :
    (write cells offset values).length = cells.length := by
  unfold write
  rw [List.length_append, List.length_append, List.length_take, List.length_map, List.length_drop]
  omega

/-! ## What the memory held -/

theorem fill_fresh {size : Nat} {contents : List α} (h : contents.length = size) :
    fill (fresh size) contents = contents := by
  unfold fill fresh
  induction contents generalizing size with
  | nil => rw [List.zipWith_nil_right]
  | cons value rest ih =>
      cases size with
      | zero => cases h
      | succ size =>
          rw [List.replicate_succ, List.zipWith_cons_cons, ih (Nat.succ.inj h)]
          rfl

/-! ## Reading -/

variable [DecidableEq α] {terminator : α}

theorem readTo_fresh (size : Nat) : readTo terminator (fresh size) = none := by
  cases size <;> rfl

theorem readTo_append {values : List α} (h : terminator ∉ values) (rest : Cells α) :
    readTo terminator (values.map some ++ some terminator :: rest) = some values := by
  induction values with
  | nil => exact if_pos rfl
  | cons value values ih =>
      obtain ⟨hvalue, hvalues⟩ := not_or.mp (mt List.mem_cons.mpr h)
      rw [List.map_cons, List.cons_append, readTo, if_neg (Ne.symm hvalue), ih hvalues]
      rfl

/-- **What is read without a fault does not depend on what the memory held**, nor on what is
behind it. -/
theorem takeWhile_fill {cells : Cells α} {values : List α}
    (h : readTo terminator cells = some values) {contents : List α}
    (hlen : contents.length = cells.length) (behind : List α) :
    (fill cells contents ++ behind).takeWhile (· ≠ terminator) = values := by
  induction cells generalizing values contents with
  | nil => cases h
  | cons cell cells ih =>
      cases contents with
      | nil => cases hlen
      | cons old contents =>
          cases cell with
          | none => cases h
          | some value =>
              rw [readTo] at h
              have hfill : fill (some value :: cells) (old :: contents)
                  = value :: fill cells contents := rfl
              rw [hfill, List.cons_append]
              by_cases hend : value = terminator
              · rw [if_pos hend] at h
                cases h
                rw [List.takeWhile_cons_of_neg (by simp [hend])]
              · rw [if_neg hend] at h
                obtain ⟨values', hrest, rfl⟩ := Option.map_eq_some_iff.mp h
                rw [List.takeWhile_cons_of_pos (by simp [hend]), ih hrest (Nat.succ.inj hlen)]

end Block
