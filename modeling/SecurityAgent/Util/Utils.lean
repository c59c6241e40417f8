import Mathlib.Algebra.GroupWithZero.Nat
import Mathlib.Data.List.Basic
import SecurityAgent.Lib.Scanf
import SecurityAgent.Lib.Separated

/-!
# Strings and bytes: `utils.c`

Text is a `String` whose characters are its bytes. Buffers are what they hold.
-/

namespace SecurityAgent.Utils

/-- `Utils_ConcatenateToString`: what the buffer holds afterwards and the room that is left, `none`
when the text and its terminator do not fit. -/
def concatenateToString (buffer : String) (bufferSize : Nat) (text : String) :
    Option (String × Nat) :=
  if text.length ≥ bufferSize then none else some (buffer ++ text, bufferSize - text.length)

/-- `Utils_Substring`, the two offsets being counted from either end. -/
def substring (malloc : Bool) (src : String) (startOffset endOffset : Nat) : Option String :=
  if startOffset ≥ src.length ∨ endOffset ≥ src.length ∨ startOffset + endOffset ≥ src.length then
    none
  else if malloc then
    some (String.ofList ((src.toList.drop startOffset).take (src.length - startOffset - endOffset)))
  else none

/-! ## C strings -/

/-- The terminator of a C string. -/
def nul : Char := Char.ofNat 0

/-- The C string that starts here: what stands before the first terminator. -/
def cString (bytes : List Char) : String := String.ofList (bytes.takeWhile (· ≠ nul))

theorem not_mem_takeWhile_nul (bytes : List Char) : nul ∉ bytes.takeWhile (· ≠ nul) := by
  intro h
  exact of_decide_eq_true (List.all_eq_true.mp List.all_takeWhile nul h) rfl

/-- Before the terminator is reached, all of it belongs to the string. -/
theorem cString_append {front : List Char} (h : nul ∉ front) (rest : List Char) :
    cString (front ++ rest) = String.ofList (front ++ rest.takeWhile (· ≠ nul)) := by
  have hfront : ∀ c ∈ front, decide (c ≠ nul) = true := by
    intro c hc
    refine decide_eq_true fun heq => h ?_
    rwa [← heq]
  unfold cString
  rw [List.takeWhile_append_of_pos hfront]

theorem cString_append_nul {front rest : List Char} (h : nul ∉ front) :
    cString (front ++ nul :: rest) = String.ofList front := by
  rw [cString_append h, List.takeWhile_cons_of_neg (by simp), List.append_nil]

/-- Behind the terminator nothing matters. -/
theorem cString_append_of_mem {front : List Char} (h : nul ∈ front) (rest : List Char) :
    cString (front ++ rest) = cString front := by
  obtain ⟨before, after, rfl, hbefore⟩ := List.eq_append_cons_of_mem h
  rw [List.append_assoc, List.cons_append, cString_append_nul hbefore, cString_append_nul hbefore]

/-- `strlen`. A pointer is `none` where it is `NULL`, and then there is no result. -/
def strlen : Option String → Option Nat
  | none => none
  | some s => some s.length

/-- `Utils_AreStringsEqual`. -/
def areStringsEqual (firstString : String) (firstStringLength : UInt32) (secondString : String)
    (secondStringLength : UInt32) (caseSensitive : Bool) : Bool :=
  if firstStringLength ≠ secondStringLength then false
  else
    let first := firstString.toList.take secondStringLength.toNat
    let second := secondString.toList.take secondStringLength.toNat
    if caseSensitive then first == second
    else first.map Char.toLower == second.map Char.toLower

/-- `Utils_UnsafeAreStringsEqual`; the lengths are cut to 32 bits. -/
def unsafeAreStringsEqual (firstString secondString : Option String) (caseSensitive : Bool) :
    Option Bool :=
  match firstString, secondString with
  | some first, some second =>
      some (areStringsEqual first (UInt32.ofNat first.length) second (UInt32.ofNat second.length)
        caseSensitive)
  | _, _ => none

/-- Two strings of less than 4 GiB are compared as they are, or in lower case. -/
theorem unsafeAreStringsEqual_eq {first second : String} (hfirst : first.length < 2 ^ 32)
    (hsecond : second.length < 2 ^ 32) (caseSensitive : Bool) :
    unsafeAreStringsEqual (some first) (some second) caseSensitive
      = some (if caseSensitive then first.toList == second.toList
        else first.toList.map Char.toLower == second.toList.map Char.toLower) := by
  unfold unsafeAreStringsEqual areStringsEqual
  have htoNat : ∀ {n : Nat}, n < 2 ^ 32 → (UInt32.ofNat n).toNat = n := fun h =>
    UInt32.toNat_ofNat_of_lt h
  by_cases hlen : first.length = second.length
  · have htakeFirst : first.toList.take second.length = first.toList :=
      List.take_of_length_le (by rw [String.length_toList]; omega)
    have htakeSecond : second.toList.take second.length = second.toList :=
      List.take_of_length_le (Nat.le_of_eq String.length_toList)
    dsimp only
    rw [hlen, if_neg (fun h => h rfl), htoNat hsecond, htakeFirst, htakeSecond]
  · have hne : UInt32.ofNat first.length ≠ UInt32.ofNat second.length := fun h => hlen (by
      rw [← htoNat hfirst, ← htoNat hsecond, h])
    have hlists : first.toList.length ≠ second.toList.length := by
      rwa [String.length_toList, String.length_toList]
    have hcase : first.toList ≠ second.toList := fun h => hlists (congrArg List.length h)
    have hlower : first.toList.map Char.toLower ≠ second.toList.map Char.toLower := fun h => by
      have hlen := congrArg List.length h
      rw [List.length_map, List.length_map] at hlen
      exact hlists hlen
    dsimp only
    rw [if_pos hne, beq_eq_false_iff_ne.mpr hcase, beq_eq_false_iff_ne.mpr hlower, ite_self]

/-- `Utils_CreateStringCopy`: its result, and the pointer it is to set. -/
def createStringCopy (malloc : Bool) (newCopy src : Option String) : Bool × Option String :=
  match src with
  | none => (false, newCopy)
  | some src => if malloc = false then (false, none) else (true, some src)

/-- A `char` array. -/
structure CharArray (size : Nat) where
  bytes : List Char
  length_bytes : bytes.length = size
  deriving DecidableEq

namespace CharArray

variable {size : Nat}

/-- After `memset` with 0. -/
def zero : CharArray size := ⟨List.replicate size nul, List.length_replicate⟩

/-- The C string in it. -/
def text (dest : CharArray size) : String := cString dest.bytes

/-- `memcpy` of some bytes to its start, as far as there is room. -/
def overwrite (dest : CharArray size) (bytes : List Char) : CharArray size :=
  ⟨(bytes ++ dest.bytes.drop bytes.length).take size, by
    rw [List.length_take, List.length_append, List.length_drop, dest.length_bytes]
    omega⟩

/-- `Utils_CopyString` of a string with its terminator; `srcLength` is cut to 32 bits. -/
def copyString (dest : CharArray size) (src : String) : Bool × CharArray size :=
  let srcLength := UInt32.ofNat (src.length + 1)
  if size < srcLength.toNat then (false, dest)
  else (true, dest.overwrite ((src.toList ++ [nul]).take srcLength.toNat))

/-- `Utils_CopyString` of so many bytes of a string: the array, or `none` if it returns false. -/
def copyBytes (dest : CharArray size) (src : String) (srcLength destLength : UInt32) :
    Option (CharArray size) :=
  if destLength < srcLength then none else some (dest.overwrite (src.toList.take srcLength.toNat))

/-- `Utils_ConcatenateToString` at the start of it: a text that does not fit is cut off. -/
def concatenateToString (dest : CharArray size) (text : String) : Bool × CharArray size :=
  (decide (text.length < size), dest.overwrite (text.toList.take (size - 1) ++ [nul]))

theorem bytes_overwrite {dest : CharArray size} {bytes : List Char} (h : bytes.length ≤ size) :
    (dest.overwrite bytes).bytes = bytes ++ dest.bytes.drop bytes.length := by
  refine List.take_of_length_le ?_
  rw [List.length_append, List.length_drop, dest.length_bytes]
  omega

/-- A string written with its terminator is what is read, whatever stands behind it. -/
theorem text_overwrite {dest : CharArray size} {s : String} (hnul : nul ∉ s.toList)
    (hsize : s.length < size) : (dest.overwrite (s.toList ++ [nul])).text = s := by
  have hlen : (s.toList ++ [nul]).length ≤ size := by
    rw [List.length_append, String.length_toList]
    exact hsize
  unfold text
  rw [bytes_overwrite hlen, List.append_assoc, List.cons_append, cString_append_nul hnul,
    String.ofList_toList]

/-- In an array that was empty, no more is read than has been written. -/
theorem length_text_overwrite_zero {bytes : List Char} (h : bytes.length ≤ size) :
    ((zero : CharArray size).overwrite bytes).text.length ≤ bytes.length := by
  unfold text cString
  rw [bytes_overwrite h, ← String.length_toList, String.toList_ofList, List.takeWhile_append]
  have hzero : ((zero : CharArray size).bytes.drop bytes.length).takeWhile (· ≠ nul) = [] := by
    simp [zero]
  split
  · exact Nat.le_of_eq (by rw [hzero, List.append_nil])
  · exact (List.takeWhile_sublist _).length_le

theorem text_zero : (zero : CharArray size).text = "" := by
  have hnothing : (List.replicate size nul).takeWhile (· ≠ nul) = [] := by simp
  unfold text cString
  rw [zero, hnothing]

/-- In an array that was empty, a string needs no terminator. -/
theorem text_overwrite_zero {s : String} (hnul : nul ∉ s.toList) (hsize : s.length ≤ size) :
    ((zero : CharArray size).overwrite s.toList).text = s := by
  have hlen : s.toList.length ≤ size := by
    rw [String.length_toList]
    exact hsize
  have hzero : ((zero : CharArray size).bytes.drop s.toList.length).takeWhile (· ≠ nul) = [] := by
    simp [zero]
  unfold text
  rw [bytes_overwrite hlen, cString_append hnul, hzero, List.append_nil, String.ofList_toList]

end CharArray

/-! ## Decimal text -/

theorem length_toString_le {n k : Nat} (hk : 0 < k) (hn : n < 10 ^ k) : (toString n).length ≤ k :=
  (Nat.length_repr_le_iff hk).mpr hn

/-- There are only digits in a number. -/
theorem not_mem_toString {c : Char} (hc : c.isDigit = false) (n : Nat) : c ∉ (toString n).toList := by
  rw [Separated.toList_toString]
  exact Separated.free_toDigits hc n

/-- A number is known by its text. -/
theorem toString_injective {n m : Nat} (h : toString n = toString m) : n = m := by
  have hdigits := congrArg String.toList h
  rw [Separated.toList_toString, Separated.toList_toString] at hdigits
  exact Separated.toDigits_injective hdigits

/-- A number of 31 bits is the same as an `int`. -/
theorem toInt_toInt32 {n : UInt32} (h : n.toNat < 2 ^ 31) : n.toInt32.toInt = n.toNat :=
  BitVec.toInt_eq_toNat_of_lt (show 2 * n.toNat < 2 ^ 32 by omega)

/-- `Utils_IntegerToString`, if it returns true. -/
def integerToString (input : Int32) (outputSize : Nat) : Option String :=
  if (toString input.toInt).length + 1 > outputSize then none else some (toString input.toInt)

/-! ## Hexadecimal text -/

/-- The value of a hexadecimal digit. -/
def hexDigit (c : Char) : Option UInt8 :=
  if '0' ≤ c ∧ c ≤ '9' then some (UInt8.ofNat (c.toNat - '0'.toNat))
  else if 'a' ≤ c ∧ c ≤ 'f' then some (UInt8.ofNat (c.toNat - 'a'.toNat + 10))
  else if 'A' ≤ c ∧ c ≤ 'F' then some (UInt8.ofNat (c.toNat - 'A'.toNat + 10))
  else none

/-- `sscanf` with `%2hhx`: blanks are skipped and not counted, a sign is counted, and one digit is
enough, also where it is the `0` of a `0x`. -/
def scanHexByte (text : List Char) : Option UInt8 :=
  match text.dropWhile Scanf.isBlank with
  | [] => none
  | '+' :: rest => rest.head?.bind hexDigit
  | '-' :: rest => (rest.head?.bind hexDigit).map fun digit => -digit
  | c :: rest =>
      (hexDigit c).map fun high =>
        match rest.head?.bind hexDigit with
        | some low => high * 16 + low
        | none => high

/-- The loop of `Utils_HexStringToByteArray`; every scan sees the rest of the text. -/
def scanHexBytes : Nat → List Char → Option (List UInt8)
  | 0, _ => some []
  | rounds + 1, text =>
      (scanHexByte text).bind fun byte =>
        (scanHexBytes rounds (text.drop 2)).map fun bytes => byte :: bytes

/-- `Utils_HexStringToByteArray`: the bytes, and their number is the size that is given back. The
length of the text is cut to 32 bits. -/
def hexStringToByteArray (hexString : String) (bufferSize : Nat) : Option (List UInt8) :=
  let hexStringLen := (UInt32.ofNat hexString.length).toNat
  if hexStringLen % 2 = 1 ∨ hexStringLen / 2 ≥ bufferSize then none
  else scanHexBytes (hexStringLen / 2) hexString.toList

example : hexStringToByteArray "0A0b fF" 500 = none := by decide
example : hexStringToByteArray "020000350101" 500 = some [2, 0, 0, 53, 1, 1] := by decide

end SecurityAgent.Utils
