import Mathlib.Algebra.GroupWithZero.Nat
import Mathlib.Data.List.Basic
import SecurityAgent.Lib.Separated

/-!
# Internet addresses

Four bytes are a word, and which one depends on the machine: it is loaded from
memory and stored back in the machine's own order. The text of an address does
not depend on it: `inet_ntop` prints the bytes as they stand in memory.

The text of four bytes determines them, and it never looks like that of sixteen.
-/

namespace Inet

/-- Four bytes, as they stand in memory and in a packet. -/
structure Quad where
  a : UInt8
  b : UInt8
  c : UInt8
  d : UInt8
  deriving DecidableEq

/-- The order in which a machine keeps the bytes of a word. -/
inductive Endianness where
  | little
  | big
  deriving DecidableEq

namespace Endianness

/-- The bytes of a word, the lowest one first. -/
def word (low second third high : UInt8) : UInt32 :=
  UInt32.ofNat (low.toNat + 256 * (second.toNat + 256 * (third.toNat + 256 * high.toNat)))

/-- One of the bytes of a word. -/
def byte (n : UInt32) (i : Nat) : UInt8 := UInt8.ofNat (n.toNat / 256 ^ i)

/-- The word that four bytes are. -/
def load : Endianness → Quad → UInt32
  | little, ⟨a, b, c, d⟩ => word a b c d
  | big, ⟨a, b, c, d⟩ => word d c b a

/-- The bytes that a word is kept as. -/
def store : Endianness → UInt32 → Quad
  | little, n => ⟨byte n 0, byte n 1, byte n 2, byte n 3⟩
  | big, n => ⟨byte n 3, byte n 2, byte n 1, byte n 0⟩

theorem bytes_word (low second third high : UInt8) :
    byte (word low second third high) 0 = low ∧ byte (word low second third high) 1 = second
      ∧ byte (word low second third high) 2 = third ∧ byte (word low second third high) 3 = high := by
  have h₀ := low.toNat_lt
  have h₁ := second.toNat_lt
  have h₂ := third.toNat_lt
  have h₃ := high.toNat_lt
  have hword : (word low second third high).toNat
      = low.toNat + 256 * (second.toNat + 256 * (third.toNat + 256 * high.toNat)) := by
    unfold word
    rw [UInt32.toNat_ofNat']
    omega
  have hbyte : ∀ (i : Nat) (b : UInt8),
      (word low second third high).toNat / 256 ^ i % 256 = b.toNat →
      byte (word low second third high) i = b := by
    intro i b h
    unfold byte
    rw [← UInt8.toNat_inj, UInt8.toNat_ofNat']
    exact h
  -- every byte is a digit to the base 256
  refine ⟨hbyte 0 low ?_, hbyte 1 second ?_, hbyte 2 third ?_, hbyte 3 high ?_⟩ <;>
    rw [hword] <;> omega

/-- **What is loaded is stored back as it was.** -/
theorem store_load (endianness : Endianness) (q : Quad) :
    endianness.store (endianness.load q) = q := by
  obtain ⟨a, b, c, d⟩ := q
  cases endianness with
  | little =>
      obtain ⟨h₀, h₁, h₂, h₃⟩ := bytes_word a b c d
      unfold store load
      dsimp only
      rw [h₀, h₁, h₂, h₃]
  | big =>
      obtain ⟨h₀, h₁, h₂, h₃⟩ := bytes_word d c b a
      unfold store load
      dsimp only
      rw [h₀, h₁, h₂, h₃]

end Endianness

/-! ## Four bytes -/

/-- The decimal digits of a byte. -/
def decimal (byte : UInt8) : List Char := Nat.toDigits 10 byte.toNat

/-- `inet_ntop` with `AF_INET`. -/
def ntop4 (q : Quad) : List Char :=
  decimal q.a ++ '.' :: (decimal q.b ++ '.' :: (decimal q.c ++ '.' :: decimal q.d))

theorem decimal_injective {byte byte' : UInt8} (h : decimal byte = decimal byte') :
    byte = byte' :=
  UInt8.toNat_inj.mp (Separated.toDigits_injective h)

theorem length_decimal_le (byte : UInt8) : (decimal byte).length ≤ 3 := by
  have hlt := byte.toNat_lt
  exact (Nat.length_toDigits_le_iff (by omega) (by omega)).mpr (by omega)

/-- The four numbers are separated by dots. -/
theorem ntop4_eq (q : Quad) : ntop4 q = ['.'].intercalate ([q.a, q.b, q.c, q.d].map decimal) := by
  rw [List.map_cons, Separated.intercalate_cons]
  simp [ntop4]

/-- **The text of an address determines it.** -/
theorem ntop4_injective {q q' : Quad} (h : ntop4 q = ntop4 q') : q = q' := by
  have hfree : ∀ q : Quad, ∀ piece ∈ [q.a, q.b, q.c, q.d].map decimal, Separated.Free '.' piece :=
    fun q => List.forall_mem_map.mpr fun byte _ => Separated.free_toDigits (by decide) byte.toNat
  rw [ntop4_eq, ntop4_eq] at h
  have hpieces := Separated.intercalate_injective (List.cons_ne_nil _ _) (hfree q)
    (List.cons_ne_nil _ _) (hfree q') h
  have hbytes : [q.a, q.b, q.c, q.d] = [q'.a, q'.b, q'.c, q'.d] :=
    List.map_injective_iff.mpr (fun _ _ => decimal_injective) hpieces
  obtain ⟨a, b, c, d⟩ := q
  obtain ⟨a', b', c', d'⟩ := q'
  simp only [List.cons.injEq, and_true] at hbytes
  obtain ⟨rfl, rfl, rfl, rfl⟩ := hbytes
  rfl

theorem mem_ntop4 {q : Quad} {c : Char} (h : c ∈ ntop4 q) : c.isDigit = true ∨ c = '.' := by
  rw [ntop4_eq] at h
  rcases Separated.mem_intercalate h with hdot | ⟨piece, hpiece, hmem⟩
  · exact Or.inr hdot
  · obtain ⟨byte, -, rfl⟩ := List.mem_map.mp hpiece
    exact Or.inl (Separated.isDigit_toDigits hmem)

theorem length_ntop4_le (q : Quad) : (ntop4 q).length ≤ 15 := by
  have ha := length_decimal_le q.a
  have hb := length_decimal_le q.b
  have hc := length_decimal_le q.c
  have hd := length_decimal_le q.d
  unfold ntop4
  simp only [List.length_append, List.length_cons]
  omega

/-! ## Sixteen bytes -/

/-- A run of groups that are zero. -/
structure Run where
  base : Nat
  len : Nat

/-- The longer of two runs, the first one among equals. -/
def Run.longer : Option Run → Option Run → Option Run
  | best, none => best
  | none, some current => some current
  | some best, some current => if best.len < current.len then some current else some best

/-- The longest run of zeros, `i` being the index of the first group that is left. -/
def longestZeros : List UInt16 → Nat → Option Run → Option Run → Option Run
  | [], _, best, current => Run.longer best current
  | group :: rest, i, best, current =>
      if group = 0 then
        longestZeros rest (i + 1) best
          (some (match current with
            | none => ⟨i, 1⟩
            | some run => ⟨run.base, run.len + 1⟩))
      else longestZeros rest (i + 1) (Run.longer best current) none

/-- The two groups of four bytes. -/
def Quad.groups (q : Quad) : List UInt16 :=
  [256 * q.a.toUInt16 + q.b.toUInt16, 256 * q.c.toUInt16 + q.d.toUInt16]

/-- Groups with colons between them, without leading zeros. -/
def joined : List UInt16 → List Char
  | [] => []
  | [group] => Nat.toDigits 16 group.toNat
  | group :: rest => Nat.toDigits 16 group.toNat ++ ':' :: joined rest

/-- `inet_ntop` with `AF_INET6`. The longest run of two zeros or more is left out, and what is behind
it is four bytes where it says that the address is one of four bytes. -/
def ntop6 (q₀ q₁ q₂ q₃ : Quad) : List Char :=
  let groups := q₀.groups ++ q₁.groups ++ q₂.groups ++ q₃.groups
  match (longestZeros groups 0 none none).filter (2 ≤ ·.len) with
  | none => joined groups
  | some ⟨base, len⟩ =>
      joined (groups.take base) ++ ':' :: ':' ::
        (if base = 0 ∧ len = 6 then ntop4 q₃
        else if base = 0 ∧ len = 5 ∧ groups[5]? = some 0xffff then
          Nat.toDigits 16 0xffff ++ ':' :: ntop4 q₃
        else joined (groups.drop (base + len)))

example : ntop6 ⟨0x20, 0x01, 0x0d, 0xb8⟩ ⟨0, 0, 0, 0⟩ ⟨0, 1, 0, 0⟩ ⟨0, 0, 0, 1⟩
    = "2001:db8::1:0:0:1".toList := by decide
example : ntop6 ⟨0, 0, 0, 0⟩ ⟨0, 0, 0, 0⟩ ⟨0, 0, 0xff, 0xff⟩ ⟨127, 0, 0, 1⟩
    = "::ffff:127.0.0.1".toList := by decide
example : ntop6 ⟨0, 0, 0, 0⟩ ⟨0, 0, 0, 0⟩ ⟨0, 0, 0, 0⟩ ⟨0, 0, 0, 1⟩ = "::1".toList := by decide

theorem colon_mem_joined (group group' : UInt16) (rest : List UInt16) :
    ':' ∈ joined (group :: group' :: rest) :=
  List.mem_append_right _ List.mem_cons_self

theorem colon_mem_ntop6 (q₀ q₁ q₂ q₃ : Quad) : ':' ∈ ntop6 q₀ q₁ q₂ q₃ := by
  unfold ntop6
  dsimp only
  split
  · exact colon_mem_joined _ _ _
  · exact List.mem_append_right _ List.mem_cons_self

/-- **No text of four bytes is one of sixteen.** -/
theorem ntop4_ne_ntop6 (q q₀ q₁ q₂ q₃ : Quad) : ntop4 q ≠ ntop6 q₀ q₁ q₂ q₃ := by
  intro h
  have hcolon : ':' ∈ ntop4 q := h ▸ colon_mem_ntop6 q₀ q₁ q₂ q₃
  rcases mem_ntop4 hcolon with hdigit | hdot
  · exact absurd hdigit (by decide)
  · exact absurd hdot (by decide)

end Inet
