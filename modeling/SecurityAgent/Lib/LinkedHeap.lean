import Mathlib.Data.List.Induction
import Mathlib.Logic.Function.Basic

/-!
# Doubly linked lists in a heap

A heap maps addresses to cells; a cell holds a value and two links. `Segment`
says that a list of addressed values is laid out in the heap as a doubly linked
segment, with a given neighbour on either side. It is the only notion the
operations need: linking a cell at the back and unlinking the one at the front
each rewrite a segment at one end, and a segment cut in two is two segments.

The two traversals at the end are what a program can observe. They are given
fuel, and `none` stands for a dangling link or for running out of it; on a
segment, fuel equal to the number of cells is enough.
-/

namespace LinkedHeap

variable {α : Type}

/-- Addresses. Only their identity matters. -/
abbrev Addr := Nat

/-- A cell: a value between two links, `none` being the null link. -/
structure Cell (α : Type) where
  /-- What the cell holds. -/
  val : α
  /-- The cell after this one. -/
  next : Option Addr
  /-- The cell before this one. -/
  prev : Option Addr

/-- A heap: an unallocated or freed address holds nothing. -/
abbrev Heap (α : Type) := Addr → Option (Cell α)

/-- The address of the first cell of a list, or `dflt` if the list is empty. -/
def headAddr (dflt : Option Addr) : List (Addr × α) → Option Addr
  | [] => dflt
  | (p, _) :: _ => some p

/-- The address of the last cell of a list, or `dflt` if the list is empty. -/
def lastAddr (dflt : Option Addr) : List (Addr × α) → Option Addr
  | [] => dflt
  | (p, _) :: cs => lastAddr (some p) cs

/-- `cs` is laid out in the heap between the neighbours `before` and `after`. -/
def Segment (h : Heap α) (before : Option Addr) : List (Addr × α) → Option Addr → Prop
  | [], _ => True
  | (p, x) :: cs, after =>
      h p = some ⟨x, headAddr after cs, before⟩ ∧ Segment h (some p) cs after

/-! ## Cutting and joining segments -/

theorem headAddr_append (d : Option Addr) (cs ds : List (Addr × α)) :
    headAddr d (cs ++ ds) = headAddr (headAddr d ds) cs := by
  cases cs with
  | nil => rfl
  | cons c cs => rfl

theorem lastAddr_append (d : Option Addr) (cs ds : List (Addr × α)) :
    lastAddr d (cs ++ ds) = lastAddr (lastAddr d cs) ds := by
  induction cs generalizing d with
  | nil => rfl
  | cons c cs ih => exact ih _

@[simp] theorem lastAddr_concat (d : Option Addr) (cs : List (Addr × α)) (p : Addr) (x : α) :
    lastAddr d (cs ++ [(p, x)]) = some p := by
  rw [lastAddr_append]; rfl

theorem segment_append {h : Heap α} {b a : Option Addr} {cs ds : List (Addr × α)} :
    Segment h b (cs ++ ds) a
      ↔ Segment h b cs (headAddr a ds) ∧ Segment h (lastAddr b cs) ds a := by
  induction cs generalizing b with
  | nil => simp [Segment, lastAddr]
  | cons c cs ih =>
      simp only [List.cons_append, Segment, ih, headAddr_append, lastAddr, and_assoc]

/-- Writing a cell the segment does not use leaves the segment as it was. -/
theorem segment_update {h : Heap α} {b a : Option Addr} {cs : List (Addr × α)} {q : Addr}
    {c : Option (Cell α)} (hq : q ∉ cs.map Prod.fst) :
    Segment (Function.update h q c) b cs a ↔ Segment h b cs a := by
  induction cs generalizing b with
  | nil => rfl
  | cons d cs ih =>
      simp only [List.map_cons, List.mem_cons, not_or] at hq
      simp only [Segment, ih hq.2, Function.update_of_ne (Ne.symm hq.1)]

/-! ## Linking at the back, unlinking at the front -/

/-- Link a new cell behind the last one. -/
theorem segment_pushBack {h : Heap α} {cs : List (Addr × α)} {l q : Addr} {x y : α}
    (hs : Segment h none (cs ++ [(l, y)]) none) (hnd : ((cs ++ [(l, y)]).map Prod.fst).Nodup)
    (hq : q ∉ (cs ++ [(l, y)]).map Prod.fst) :
    Segment (Function.update (Function.update h q (some ⟨x, none, some l⟩)) l
      (some ⟨y, some q, lastAddr none cs⟩)) none (cs ++ [(l, y), (q, x)]) none := by
  have hcs : l ∉ cs.map Prod.fst := by
    rw [List.map_append, List.nodup_append] at hnd
    exact fun hm => hnd.2.2 l hm l (by simp) rfl
  have hql : q ≠ l := fun he => hq (by simp [he])
  have hqc : q ∉ cs.map Prod.fst := fun hm => hq (by rw [List.map_append]; simp [hm])
  rw [segment_append] at hs
  rw [segment_append, segment_update hcs, segment_update hqc]
  refine ⟨hs.1, ?_, ?_, trivial⟩
  · rw [Function.update_self]; rfl
  · rw [Function.update_of_ne hql, Function.update_self]; rfl

/-- Unlink the first cell: its successor loses its backward link, and the cell is freed. -/
theorem segment_popFront {h : Heap α} {cs : List (Addr × α)} {p n : Addr} {x y : α}
    (hs : Segment h none ((p, x) :: (n, y) :: cs) none)
    (hnd : (((p, x) :: (n, y) :: cs).map Prod.fst).Nodup) :
    Segment (Function.update (Function.update h n (some ⟨y, headAddr none cs, none⟩)) p none)
      none ((n, y) :: cs) none := by
  simp only [List.map_cons, List.nodup_cons] at hnd
  have hpn : p ∉ ((n, y) :: cs).map Prod.fst := hnd.1
  rw [segment_update hpn]
  refine ⟨by rw [Function.update_self], ?_⟩
  rw [segment_update hnd.2.1]
  exact hs.2.2

/-! ## What a program can see -/

/-- Follow the forward links from an address. -/
def forward (h : Heap α) : Nat → Option Addr → Option (List α)
  | _, none => some []
  | 0, some _ => none
  | fuel + 1, some p =>
      match h p with
      | none => none
      | some c => (forward h fuel c.next).map (c.val :: ·)

/-- Follow the backward links from an address. -/
def backward (h : Heap α) : Nat → Option Addr → Option (List α)
  | _, none => some []
  | 0, some _ => none
  | fuel + 1, some p =>
      match h p with
      | none => none
      | some c => (backward h fuel c.prev).map (c.val :: ·)

theorem forward_segment {h : Heap α} : ∀ {cs : List (Addr × α)} {b : Option Addr} {fuel : Nat},
    Segment h b cs none → cs.length ≤ fuel →
    forward h fuel (headAddr none cs) = some (cs.map Prod.snd) := by
  intro cs
  induction cs with
  | nil => intro b fuel _ _; cases fuel <;> rfl
  | cons c cs ih =>
      intro b fuel hs hf
      cases fuel with
      | zero => exact absurd hf (by simp)
      | succ f =>
          rw [headAddr, forward, hs.1]
          dsimp only
          rw [ih hs.2 (Nat.le_of_succ_le_succ hf)]
          rfl

/-- Read from the other end: the induction is on the segment's last cell. -/
theorem backward_segment {h : Heap α} : ∀ {cs : List (Addr × α)} {a : Option Addr} {fuel : Nat},
    Segment h none cs a → cs.length ≤ fuel →
    backward h fuel (lastAddr none cs) = some (cs.map Prod.snd).reverse := by
  intro cs
  induction cs using List.reverseRecOn with
  | nil => intro a fuel _ _; cases fuel <;> rfl
  | append_singleton cs c ih =>
      intro a fuel hs hf
      rw [segment_append] at hs
      cases fuel with
      | zero => exact absurd hf (by simp)
      | succ f =>
          have hf' : cs.length ≤ f := by simpa using hf
          rw [lastAddr_concat, backward, hs.2.1]
          dsimp only
          rw [ih hs.1 hf']
          simp

end LinkedHeap
