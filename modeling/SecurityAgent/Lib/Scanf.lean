import Mathlib.Data.List.Basic
import Mathlib.Tactic.Ring

/-!
# `sscanf`

A format is a list of directives. Each takes what it can from the front of the text, or
fails, and then nothing after it is read. `scan` gives what was assigned up to there.

`%X` reads with `strtoul`: a number that 64 bits do not hold becomes the greatest
one, and of what is read the low 32 bits are stored.

The lemmas say what a directive takes from a text that was printed for it, whatever follows.
-/

namespace Scanf

/-- `isspace`. -/
def isBlank (c : Char) : Bool := c = ' ' || (9 ≤ c.toNat && c.toNat ≤ 13)

/-- The value of a hexadecimal digit. -/
def hexValue (c : Char) : Option Nat :=
  if '0' ≤ c ∧ c ≤ '9' then some (c.toNat - 48)
  else if 'A' ≤ c ∧ c ≤ 'F' then some (c.toNat - 55)
  else if 'a' ≤ c ∧ c ≤ 'f' then some (c.toNat - 87)
  else none

/-- `[0-9A-Fa-f]`. -/
def isHex (c : Char) : Bool := (hexValue c).isSome

/-- The number that hexadecimal digits stand for. -/
def valueOf (digits : List Char) : Nat :=
  digits.foldl (fun n c => 16 * n + (hexValue c).getD 0) 0

/-- `ULONG_MAX`. -/
def ULONG_MAX : Nat := 2 ^ 64 - 1

/-- `strtoul`, with the digits it has found. -/
def strtoul (negative : Bool) (digits : List Char) : Nat :=
  if valueOf digits > ULONG_MAX then ULONG_MAX
  else if negative then (2 ^ 64 - valueOf digits) % 2 ^ 64 else valueOf digits

/-- A sign, if there is one, and what comes after it. -/
def sign : List Char → Bool × List Char
  | '-' :: rest => (true, rest)
  | '+' :: rest => (false, rest)
  | text => (false, text)

/-- What comes after `0x`, if it is there. -/
def dropHexPrefix : List Char → List Char
  | '0' :: 'x' :: rest => rest
  | '0' :: 'X' :: rest => rest
  | text => text

inductive Directive where
  /-- White space in the format. -/
  | blanks
  /-- Any other character in it. -/
  | char (c : Char)
  /-- `%*d`. -/
  | skipInt
  /-- `%[...]` with a width. -/
  | set (width : Nat) (allowed : Char → Bool)
  /-- `%X`. -/
  | hexInt
  /-- `%*s`. -/
  | skipWord
  /-- `%s`. -/
  | word

/-- What is assigned. -/
inductive Scanned where
  | text (s : List Char)
  | number (n : UInt32)
  deriving DecidableEq

/-- What a directive assigns, and what it leaves. -/
def Directive.read : Directive → List Char → Option (List Scanned × List Char)
  | .blanks, text => some ([], text.dropWhile isBlank)
  | .char _, [] => none
  | .char c, d :: rest => if d = c then some ([], rest) else none
  | .skipInt, text =>
      let digits := (sign (text.dropWhile isBlank)).2
      if digits.takeWhile Char.isDigit = [] then none
      else some ([], digits.dropWhile Char.isDigit)
  | .set width allowed, text =>
      let taken := (text.take width).takeWhile allowed
      if taken = [] then none else some ([.text taken], text.drop taken.length)
  | .hexInt, text =>
      let (negative, signless) := sign (text.dropWhile isBlank)
      let digits := dropHexPrefix signless
      -- a prefix alone is a zero
      if digits.takeWhile isHex = [] ∧ digits = signless then none
      else some ([.number (UInt32.ofNat (strtoul negative (digits.takeWhile isHex)))],
        digits.dropWhile isHex)
  | .skipWord, text =>
      let text := text.dropWhile isBlank
      if text.takeWhile (!isBlank ·) = [] then none else some ([], text.dropWhile (!isBlank ·))
  | .word, text =>
      let text := text.dropWhile isBlank
      if text.takeWhile (!isBlank ·) = [] then none
      else some ([.text (text.takeWhile (!isBlank ·))], text.dropWhile (!isBlank ·))

/-- All that is assigned. -/
def scan : List Directive → List Char → List Scanned
  | [], _ => []
  | directive :: format, text =>
      match directive.read text with
      | none => []
      | some (assigned, rest) => assigned ++ scan format rest

theorem scan_cons {directive : Directive} {format : List Directive} {text rest : List Char}
    {assigned : List Scanned} (h : directive.read text = some (assigned, rest)) :
    scan (directive :: format) text = assigned ++ scan format rest := by
  rw [scan, h]

/-! ## Where a text ends -/

/-- None of the characters of this kind comes next. -/
def Stops (p : Char → Bool) (rest : List Char) : Prop := ∀ c ∈ rest.head?, p c = false

theorem Stops.cons {p : Char → Bool} {c : Char} (h : p c = false) (rest : List Char) :
    Stops p (c :: rest) := fun d hd => by
  rw [List.head?_cons, Option.mem_some_iff] at hd
  exact hd ▸ h

theorem Stops.append {p : Char → Bool} {text : List Char} (h : Stops p text) (hne : text ≠ [])
    (rest : List Char) : Stops p (text ++ rest) := by
  obtain ⟨c, cs, rfl⟩ := List.exists_cons_of_ne_nil hne
  exact Stops.cons (h c rfl) _

theorem takeWhile_append_stops {p : Char → Bool} {text rest : List Char}
    (htext : ∀ c ∈ text, p c = true) (hrest : Stops p rest) :
    (text ++ rest).takeWhile p = text := by
  rw [List.takeWhile_append_of_pos htext]
  cases rest with
  | nil => rw [List.takeWhile_nil, List.append_nil]
  | cons c cs =>
      have hc : ¬ p c = true := by
        rw [hrest c rfl]
        exact Bool.false_ne_true
      rw [List.takeWhile_cons_of_neg hc, List.append_nil]

theorem dropWhile_append_stops {p : Char → Bool} {text rest : List Char}
    (htext : ∀ c ∈ text, p c = true) (hrest : Stops p rest) :
    (text ++ rest).dropWhile p = rest := by
  rw [List.dropWhile_append_of_pos htext]
  cases rest with
  | nil => rfl
  | cons c cs =>
      have hc : ¬ p c = true := by
        rw [hrest c rfl]
        exact Bool.false_ne_true
      exact List.dropWhile_cons_of_neg hc

/-! ## The directives on what was printed for them -/

section Printed

variable {blank text rest : List Char}

theorem read_blanks (hblank : ∀ c ∈ blank, isBlank c = true) (hrest : Stops isBlank rest) :
    Directive.blanks.read (blank ++ rest) = some ([], rest) := by
  rw [Directive.read, dropWhile_append_stops hblank hrest]

theorem read_char (c : Char) : (Directive.char c).read (c :: rest) = some ([], rest) :=
  if_pos rfl

/-- A number without a sign. -/
theorem read_skipInt (hblank : ∀ c ∈ blank, isBlank c = true) (hne : text ≠ [])
    (htext : ∀ c ∈ text, c.isDigit = true) (hrest : Stops Char.isDigit rest) :
    Directive.skipInt.read (blank ++ text ++ rest) = some ([], rest) := by
  obtain ⟨d, ds, rfl⟩ := List.exists_cons_of_ne_nil hne
  have hd : d.isDigit = true := htext d List.mem_cons_self
  have hspace : isBlank d = false := by
    unfold Char.isDigit at hd
    simp only [Bool.and_eq_true, decide_eq_true_eq] at hd
    have hlow : 48 ≤ d.toNat := hd.1
    have hblank : d ≠ ' ' := fun h => absurd (h ▸ hlow) (by decide)
    simp only [isBlank, hblank, decide_false, Bool.false_or, Bool.and_eq_false_iff,
      decide_eq_false_iff_not]
    right
    omega
  have hskip : (blank ++ (d :: ds) ++ rest).dropWhile isBlank = d :: ds ++ rest := by
    rw [List.append_assoc]
    exact dropWhile_append_stops hblank (Stops.cons hspace _)
  have hsign : sign (d :: ds ++ rest) = (false, d :: ds ++ rest) := by
    have hminus : d ≠ '-' := fun h => absurd (h ▸ hd) (by decide)
    have hplus : d ≠ '+' := fun h => absurd (h ▸ hd) (by decide)
    rw [List.cons_append, sign.eq_3 _ (fun _ h => hminus (List.cons.inj h).1)
      (fun _ h => hplus (List.cons.inj h).1)]
  unfold Directive.read
  dsimp only
  rw [hskip, hsign, takeWhile_append_stops htext hrest, dropWhile_append_stops htext hrest,
    if_neg (List.cons_ne_nil _ _)]

theorem read_set {width : Nat} {allowed : Char → Bool} (hne : text ≠ [])
    (hwidth : text.length ≤ width) (htext : ∀ c ∈ text, allowed c = true)
    (hrest : Stops allowed rest) :
    (Directive.set width allowed).read (text ++ rest) = some ([.text text], rest) := by
  have htaken : ((text ++ rest).take width).takeWhile allowed = text := by
    -- whether the width ends the text or what follows it does
    rw [List.take_append, List.take_of_length_le hwidth]
    refine takeWhile_append_stops htext ?_
    intro c hc
    cases rest with
    | nil => rw [List.take_nil] at hc; exact absurd hc (by simp)
    | cons d ds =>
        cases hroom : width - text.length with
        | zero => rw [hroom] at hc; exact absurd hc (by simp)
        | succ n =>
            rw [hroom] at hc
            exact hrest c hc
  unfold Directive.read
  dsimp only
  rw [htaken, if_neg hne, List.drop_left]

/-- A word: there is something, and no white space in it. -/
def IsWord (text : List Char) : Prop := text ≠ [] ∧ ∀ c ∈ text, isBlank c = false

theorem IsWord.stops {text : List Char} (h : IsWord text) : Stops isBlank text := fun c hc =>
  h.2 c (List.mem_of_mem_head? hc)

theorem IsWord.isWordChar {text : List Char} (h : IsWord text) :
    ∀ c ∈ text, (!isBlank c) = true := fun c hc => by rw [h.2 c hc]; rfl

/-- What comes after a word, or nothing. -/
theorem stops_not_isBlank (h : ∀ c ∈ rest.head?, isBlank c = true) :
    Stops (!isBlank ·) rest := fun c hc => by
  show (!isBlank c) = false
  rw [h c hc]
  rfl

theorem takeWhile_word (h : IsWord text) (hrest : ∀ c ∈ rest.head?, isBlank c = true) :
    (text ++ rest).takeWhile (!isBlank ·) = text :=
  takeWhile_append_stops h.isWordChar (stops_not_isBlank hrest)

theorem dropWhile_word (h : IsWord text) (hrest : ∀ c ∈ rest.head?, isBlank c = true) :
    (text ++ rest).dropWhile (!isBlank ·) = rest :=
  dropWhile_append_stops h.isWordChar (stops_not_isBlank hrest)

theorem dropWhile_isBlank_word (h : IsWord text) :
    (text ++ rest).dropWhile isBlank = text ++ rest :=
  dropWhile_append_stops (fun _ hc => absurd hc List.not_mem_nil) (h.stops.append h.1 rest)

theorem read_skipWord (h : IsWord text) (hrest : ∀ c ∈ rest.head?, isBlank c = true) :
    Directive.skipWord.read (text ++ rest) = some ([], rest) := by
  unfold Directive.read
  dsimp only
  rw [dropWhile_isBlank_word h, takeWhile_word h hrest, dropWhile_word h hrest, if_neg h.1]

theorem read_word (h : IsWord text) (hrest : ∀ c ∈ rest.head?, isBlank c = true) :
    Directive.word.read (text ++ rest) = some ([.text text], rest) := by
  unfold Directive.read
  dsimp only
  rw [dropWhile_isBlank_word h, takeWhile_word h hrest, dropWhile_word h hrest, if_neg h.1]

end Printed

/-- A word that is skipped assigns nothing, whether it is there or not. -/
theorem skipWord_assigns (text : List Char) :
    Directive.skipWord.read text = none ∨ ∃ rest, Directive.skipWord.read text = some ([], rest) := by
  unfold Directive.read
  dsimp only
  split
  · exact Or.inl rfl
  · exact Or.inr ⟨_, rfl⟩

/-! ## Hexadecimal numbers -/

/-- An upper case hexadecimal digit. -/
def hexDigit (n : Nat) : Char := if n < 10 then Char.ofNat (48 + n) else Char.ofNat (55 + n)

/-- `%0kX`, of a number that has no more than `k` digits. -/
def hexDigits : Nat → Nat → List Char
  | 0, _ => []
  | k + 1, n => hexDigits k (n / 16) ++ [hexDigit (n % 16)]

theorem hexValue_hexDigit : ∀ d < 16, hexValue (hexDigit d) = some d := by decide

theorem isBlank_hexDigit : ∀ d < 16, isBlank (hexDigit d) = false := by decide

theorem length_hexDigits (k n : Nat) : (hexDigits k n).length = k := by
  induction k generalizing n with
  | zero => rfl
  | succ k ih => rw [hexDigits, List.length_append, ih]; rfl

theorem mem_hexDigits {k n : Nat} {c : Char} (h : c ∈ hexDigits k n) :
    ∃ d < 16, c = hexDigit d := by
  induction k generalizing n with
  | zero => exact absurd h List.not_mem_nil
  | succ k ih =>
      rcases List.mem_append.mp h with hfront | hlast
      · exact ih hfront
      · exact ⟨n % 16, Nat.mod_lt _ (by omega), List.mem_singleton.mp hlast⟩

/-- A text of hexadecimal digits. -/
def IsHexText (text : List Char) : Prop := ∀ c ∈ text, ∃ d < 16, c = hexDigit d

theorem isHexText_hexDigits (k n : Nat) : IsHexText (hexDigits k n) := fun _ hc => mem_hexDigits hc

theorem IsHexText.append {text text' : List Char} (h : IsHexText text) (h' : IsHexText text') :
    IsHexText (text ++ text') := fun c hc => (List.mem_append.mp hc).elim (h c) (h' c)

theorem IsHexText.isHex {text : List Char} (h : IsHexText text) : ∀ c ∈ text, isHex c = true := by
  intro c hc
  obtain ⟨d, hd, rfl⟩ := h c hc
  unfold Scanf.isHex
  rw [hexValue_hexDigit d hd]
  rfl

theorem IsHexText.not_blank {text : List Char} (h : IsHexText text) :
    ∀ c ∈ text, isBlank c = false := by
  intro c hc
  obtain ⟨d, hd, rfl⟩ := h c hc
  exact isBlank_hexDigit d hd

theorem valueOf_append (digits digits' : List Char) :
    valueOf (digits ++ digits') = valueOf digits * 16 ^ digits'.length + valueOf digits' := by
  have hfrom : ∀ (l : List Char) (n : Nat), l.foldl (fun n c => 16 * n + (hexValue c).getD 0) n
      = n * 16 ^ l.length + valueOf l := by
    intro l
    induction l with
    | nil => intro n; simp [valueOf]
    | cons c cs ih =>
        intro n
        unfold valueOf
        rw [List.foldl_cons, List.foldl_cons, ih, ih, List.length_cons]
        ring
  unfold valueOf
  rw [List.foldl_append, hfrom]
  rfl

theorem valueOf_hexDigits (k n : Nat) : valueOf (hexDigits k n) = n % 16 ^ k := by
  induction k generalizing n with
  | zero => rw [Nat.pow_zero, Nat.mod_one]; rfl
  | succ k ih =>
      have hlast : valueOf [hexDigit (n % 16)] = n % 16 := by
        unfold valueOf
        rw [List.foldl_cons, List.foldl_nil, hexValue_hexDigit _ (Nat.mod_lt _ (by omega)),
          Nat.mul_zero, Nat.zero_add, Option.getD_some]
      have hmod : n % 16 ^ (k + 1) = n % 16 + 16 * (n / 16 % 16 ^ k) := by
        rw [Nat.pow_succ, Nat.mul_comm, Nat.mod_mul]
      rw [hexDigits, valueOf_append, ih, hlast, List.length_singleton, hmod]
      omega

/-- **`%X` reads the number that digits stand for.** With two digits there is no prefix to mistake
them for. -/
theorem read_hexInt {blank text rest : List Char} (hblank : ∀ c ∈ blank, isBlank c = true)
    (htext : IsHexText text) (hlen : 2 ≤ text.length) (hrest : Stops isHex rest) :
    Directive.hexInt.read (blank ++ text ++ rest)
      = some ([.number (UInt32.ofNat (min (valueOf text) ULONG_MAX))], rest) := by
  obtain ⟨c, c', cs, rfl⟩ : ∃ c c' cs, text = c :: c' :: cs := by
    rcases text with _ | ⟨c, _ | ⟨c', cs⟩⟩
    · exact absurd hlen (by decide)
    · exact absurd hlen (by simp)
    · exact ⟨c, c', cs, rfl⟩
  have hskip : (blank ++ (c :: c' :: cs) ++ rest).dropWhile isBlank = c :: c' :: cs ++ rest := by
    rw [List.append_assoc]
    exact dropWhile_append_stops hblank (Stops.cons (htext.not_blank c List.mem_cons_self) _)
  have hne : ∀ d, isHex d = false → c ≠ d ∧ c' ≠ d := by
    intro d hd
    have hc := htext.isHex c List.mem_cons_self
    have hc' := htext.isHex c' (List.mem_cons_of_mem _ List.mem_cons_self)
    constructor
    · rintro rfl
      rw [hd] at hc
      exact Bool.false_ne_true hc
    · rintro rfl
      rw [hd] at hc'
      exact Bool.false_ne_true hc'
  -- no digit is a sign, and a second digit is not the `x` of a prefix
  have hsign : sign (c :: c' :: cs ++ rest) = (false, c :: c' :: cs ++ rest) := by
    rw [List.cons_append, sign.eq_3 _ (fun _ h => (hne '-' (by decide)).1 (List.cons.inj h).1)
      (fun _ h => (hne '+' (by decide)).1 (List.cons.inj h).1)]
  have hfront : dropHexPrefix (c :: c' :: cs ++ rest) = c :: c' :: cs ++ rest := by
    rw [List.cons_append, List.cons_append, dropHexPrefix.eq_3 _
      (fun _ h => (hne 'x' (by decide)).2 (List.cons.inj (List.cons.inj h).2).1)
      (fun _ h => (hne 'X' (by decide)).2 (List.cons.inj (List.cons.inj h).2).1)]
  have hvalue : strtoul false (c :: c' :: cs) = min (valueOf (c :: c' :: cs)) ULONG_MAX := by
    unfold strtoul
    split
    · rw [Nat.min_eq_right (by omega)]
    · rw [if_neg Bool.false_ne_true, Nat.min_eq_left (by omega)]
  unfold Directive.read
  dsimp only
  rw [hskip, hsign]
  dsimp only
  rw [hfront, takeWhile_append_stops htext.isHex hrest, dropWhile_append_stops htext.isHex hrest,
    if_neg fun h => List.cons_ne_nil _ _ h.1, hvalue]

/-- Where hexadecimal digits come next, there is no white space. -/
theorem IsHexText.stops {text : List Char} (h : IsHexText text) (hne : 0 < text.length)
    (rest : List Char) : Stops isBlank (text ++ rest) := by
  have hstops : Stops isBlank text := fun c hc => h.not_blank c (List.mem_of_mem_head? hc)
  exact hstops.append (List.ne_nil_of_length_pos hne) rest

/-- A number of up to eight digits is read as it was printed. -/
theorem scan_hexDigits {k n : Nat} (hk : 2 ≤ k) (hn : n < 16 ^ k) (hword : n < 2 ^ 32)
    (format : List Directive) {rest : List Char} (hrest : Stops isHex rest) :
    scan (.hexInt :: format) (hexDigits k n ++ rest)
      = .number (UInt32.ofNat n) :: scan format rest := by
  have hlen : 2 ≤ (hexDigits k n).length := by
    rw [length_hexDigits]
    exact hk
  have hvalue : min (valueOf (hexDigits k n)) ULONG_MAX = n := by
    rw [valueOf_hexDigits, Nat.mod_eq_of_lt hn]
    unfold ULONG_MAX
    omega
  have hread := read_hexInt (fun c (hc : c ∈ []) => absurd hc List.not_mem_nil)
    (isHexText_hexDigits k n) hlen hrest
  rw [List.nil_append, hvalue] at hread
  exact scan_cons hread

/-- A text that is nothing but a number. -/
theorem scan_hexInt {text : List Char} (htext : IsHexText text) (hlen : 2 ≤ text.length) :
    scan [.hexInt] text = [.number (UInt32.ofNat (min (valueOf text) ULONG_MAX))] := by
  have hread : Directive.hexInt.read ([] ++ text ++ [])
      = some ([.number (UInt32.ofNat (min (valueOf text) ULONG_MAX))], []) :=
    read_hexInt (fun _ h => absurd h List.not_mem_nil) htext hlen fun _ h => by simp at h
  rw [List.nil_append, List.append_nil] at hread
  exact scan_cons hread

end Scanf
