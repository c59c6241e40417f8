import SecurityAgent.Util.Utils

/-!
# Which texts are decoded

`Utils_HexStringToByteArray` decodes a text of hexadecimal digits two by two. Each pair is
left to `sscanf`, which has its own idea of a number: white space and a sign may stand before it,
and one digit will do. So a text is refused only where no number begins at all,
and a text that is accepted need not be the spelling of anything.
-/

namespace SecurityAgent.Utils

/-- The bytes are spelled by the text, two digits for each. -/
inductive Spells : List Char → List UInt8 → Prop where
  | nil : Spells [] []
  | cons {c d : Char} {high low : UInt8} {text : List Char} {bytes : List UInt8} :
      hexDigit c = some high → hexDigit d = some low → Spells text bytes →
      Spells (c :: d :: text) ((high * 16 + low) :: bytes)

/-- A text of hexadecimal digits. -/
def IsHexText (text : List Char) : Prop := ∀ c ∈ text, (hexDigit c).isSome = true

/-- A number begins here, as `sscanf` sees it. -/
def BeginsNumber (text : List Char) : Prop :=
  ∃ c rest, text.dropWhile Scanf.isBlank = c :: rest ∧ ((hexDigit c).isSome = true
    ∨ ((c = '+' ∨ c = '-') ∧ ∃ d rest', rest = d :: rest' ∧ (hexDigit d).isSome = true))

/-- What is asked of the decoder for one text and one size of the buffer. -/
structure Decodes (hexString : String) (bufferSize : Nat) : Prop where
  /-- It succeeds for the texts of hexadecimal digits that fit, with a byte for the terminator. -/
  succeeds : (∃ bytes, hexStringToByteArray hexString bufferSize = some bytes)
    ↔ hexString.length % 2 = 0 ∧ IsHexText hexString.toList ∧ hexString.length / 2 < bufferSize
  spells : ∀ bytes, hexStringToByteArray hexString bufferSize = some bytes →
    Spells hexString.toList bytes

/-! ## Spellings -/

theorem Spells.length {text : List Char} {bytes : List UInt8} (h : Spells text bytes) :
    text.length = 2 * bytes.length := by
  induction h with
  | nil => rfl
  | cons _ _ _ ih =>
      rw [List.length_cons, List.length_cons, List.length_cons, ih]
      omega

theorem Spells.isHexText {text : List Char} {bytes : List UInt8} (h : Spells text bytes) :
    IsHexText text := by
  induction h with
  | nil => exact fun c hc => absurd hc List.not_mem_nil
  | cons hc hd _ ih =>
      intro e he
      rcases List.mem_cons.mp he with rfl | he
      · exact Option.isSome_of_eq_some hc
      rcases List.mem_cons.mp he with rfl | he
      · exact Option.isSome_of_eq_some hd
      · exact ih e he

/-! ## One scan -/

theorem isBlank_of_hexDigit {c : Char} {digit : UInt8} (h : hexDigit c = some digit) :
    Scanf.isBlank c = false := by
  have hlow : 48 ≤ c.toNat := by
    unfold hexDigit at h
    split at h
    · next hdigit =>
        exact hdigit.1
    split at h
    · next hdigit =>
        have ha : 97 ≤ c.toNat := hdigit.1
        omega
    split at h
    · next hdigit =>
        have hA : 65 ≤ c.toNat := hdigit.1
        omega
    · exact absurd h (Option.some_ne_none digit).symm
  have hblank : c ≠ ' ' := fun h => absurd (h ▸ hlow) (by decide)
  unfold Scanf.isBlank
  simp only [hblank, decide_false, Bool.false_or, Bool.and_eq_false_iff, decide_eq_false_iff_not]
  right
  omega

theorem hexDigit_sign : hexDigit '+' = none ∧ hexDigit '-' = none := by decide

/-- Two digits are a byte, whatever follows. -/
theorem scanHexByte_digits {c d : Char} {high low : UInt8} (hc : hexDigit c = some high)
    (hd : hexDigit d = some low) (rest : List Char) :
    scanHexByte (c :: d :: rest) = some (high * 16 + low) := by
  have hblank : ¬ Scanf.isBlank c = true := by
    rw [isBlank_of_hexDigit hc]
    exact Bool.false_ne_true
  have hplus : c ≠ '+' := by
    rintro rfl
    exact absurd (hexDigit_sign.1.symm.trans hc) (Option.some_ne_none _).symm
  have hminus : c ≠ '-' := by
    rintro rfl
    exact absurd (hexDigit_sign.2.symm.trans hc) (Option.some_ne_none _).symm
  unfold scanHexByte
  rw [List.dropWhile_cons_of_neg hblank]
  simp [hc, hd]

theorem isSome_bind_head? (rest : List Char) : (rest.head?.bind hexDigit).isSome = true
    ↔ ∃ d rest', rest = d :: rest' ∧ (hexDigit d).isSome = true := by
  cases rest with
  | nil => exact ⟨fun h => absurd h Bool.false_ne_true, fun ⟨_, _, h, _⟩ => absurd h (by simp)⟩
  | cons d rest' =>
      constructor
      · exact fun h => ⟨d, rest', rfl, h⟩
      · rintro ⟨_, _, h, hd⟩
        obtain ⟨rfl, rfl⟩ := List.cons.inj h
        exact hd

/-- **A scan finds a number exactly where one begins.** -/
theorem scanHexByte_isSome_iff (text : List Char) :
    (scanHexByte text).isSome = true ↔ BeginsNumber text := by
  have hbegins : ∀ c rest, text.dropWhile Scanf.isBlank = c :: rest →
      (BeginsNumber text ↔ (hexDigit c).isSome = true
        ∨ ((c = '+' ∨ c = '-') ∧ (rest.head?.bind hexDigit).isSome = true)) := by
    intro c rest htext
    unfold BeginsNumber
    rw [htext, isSome_bind_head?]
    constructor
    · rintro ⟨_, _, h, hnumber⟩
      obtain ⟨rfl, rfl⟩ := List.cons.inj h
      exact hnumber
    · exact fun hnumber => ⟨c, rest, rfl, hnumber⟩
  have hplus : (hexDigit '+').isSome = false := by decide
  have hminus : (hexDigit '-').isSome = false := by decide
  unfold scanHexByte
  split
  · next htext =>
      refine ⟨fun h => absurd h Bool.false_ne_true, ?_⟩
      rintro ⟨_, _, h, _⟩
      exact absurd (htext.symm.trans h) (by simp)
  · next rest htext => simp [hbegins _ _ htext, hplus]
  · next rest htext =>
      rw [hbegins _ _ htext, Option.isSome_map]
      simp [hminus]
  · next c rest hnotPlus hnotMinus htext =>
      have hc : ¬ (c = '+' ∨ c = '-') := by
        rintro (rfl | rfl)
        · exact hnotPlus rfl
        · exact hnotMinus rfl
      simp [hbegins _ _ htext, hc]

/-! ## The loop -/

/-- A spelling is decoded to its bytes. -/
theorem scanHexBytes_spells {text : List Char} {bytes : List UInt8} (h : Spells text bytes) :
    scanHexBytes bytes.length text = some bytes := by
  induction h with
  | nil => rfl
  | cons hc hd _ ih =>
      rw [List.length_cons, scanHexBytes, scanHexByte_digits hc hd, Option.bind_some]
      show (scanHexBytes _ _).map _ = _
      rw [List.drop_succ_cons, List.drop_succ_cons, List.drop_zero, ih, Option.map_some]

theorem length_scanHexBytes {rounds : Nat} {text : List Char} {bytes : List UInt8}
    (h : scanHexBytes rounds text = some bytes) : bytes.length = rounds := by
  induction rounds generalizing text bytes with
  | zero =>
      obtain rfl : [] = bytes := Option.some.inj h
      rfl
  | succ rounds ih =>
      rw [scanHexBytes] at h
      obtain ⟨byte, -, h⟩ := Option.bind_eq_some_iff.mp h
      obtain ⟨bytes', hrest, rfl⟩ := Option.map_eq_some_iff.mp h
      rw [List.length_cons, ih hrest]

/-- The loop gets to its end if a number begins at every second character. -/
theorem scanHexBytes_isSome_iff (rounds : Nat) (text : List Char) :
    (∃ bytes, scanHexBytes rounds text = some bytes)
      ↔ ∀ i < rounds, BeginsNumber (text.drop (2 * i)) := by
  induction rounds generalizing text with
  | zero => exact ⟨fun _ i hi => absurd hi (Nat.not_lt_zero i), fun _ => ⟨[], rfl⟩⟩
  | succ rounds ih =>
      have hstep : (∃ bytes, scanHexBytes (rounds + 1) text = some bytes)
          ↔ BeginsNumber text ∧ ∃ bytes, scanHexBytes rounds (text.drop 2) = some bytes := by
        rw [scanHexBytes, ← scanHexByte_isSome_iff]
        cases scanHexByte text with
        | none => simp
        | some byte => simp
      rw [hstep, ih]
      constructor
      · rintro ⟨hfirst, hrest⟩ i hi
        cases i with
        | zero => exact hfirst
        | succ i =>
            have hnext := hrest i (Nat.lt_of_succ_lt_succ hi)
            rwa [List.drop_drop, Nat.add_comm, ← Nat.mul_succ] at hnext
      · intro h
        refine ⟨h 0 (Nat.succ_pos _), fun i hi => ?_⟩
        rw [List.drop_drop, Nat.add_comm, ← Nat.mul_succ]
        exact h (i + 1) (Nat.succ_lt_succ hi)

/-- Every text of digits of even length is a spelling. -/
theorem exists_spells : ∀ {text : List Char}, text.length % 2 = 0 → IsHexText text →
    ∃ bytes, Spells text bytes
  | [], _, _ => ⟨[], .nil⟩
  | [_], heven, _ => absurd heven Nat.one_ne_zero
  | c :: d :: text, heven, htext => by
      obtain ⟨high, hc⟩ := Option.isSome_iff_exists.mp (htext c List.mem_cons_self)
      obtain ⟨low, hd⟩ := Option.isSome_iff_exists.mp
        (htext d (List.mem_cons_of_mem _ List.mem_cons_self))
      rw [List.length_cons, List.length_cons] at heven
      have heven' : text.length % 2 = 0 := by omega
      obtain ⟨bytes, hrest⟩ := exists_spells heven' fun e he =>
        htext e (List.mem_cons_of_mem _ (List.mem_cons_of_mem _ he))
      exact ⟨_, .cons hc hd hrest⟩

/-! ## The decoder -/

/-- **Spellings are decoded**, as long as the length of the text is not cut. -/
theorem hexStringToByteArray_spells {hexString : String} {bytes : List UInt8} {bufferSize : Nat}
    (h : Spells hexString.toList bytes) (hfits : bytes.length < bufferSize)
    (hlength : hexString.length < 2 ^ 32) :
    hexStringToByteArray hexString bufferSize = some bytes := by
  have hlen : (UInt32.ofNat hexString.length).toNat = 2 * bytes.length := by
    rw [UInt32.toNat_ofNat', Nat.mod_eq_of_lt hlength, ← String.length_toList, h.length]
  unfold hexStringToByteArray
  dsimp only
  rw [hlen, if_neg (by omega), Nat.mul_div_cancel_left _ (Nat.succ_pos 1)]
  exact scanHexBytes_spells h

/-- A text is refused for its length, or because no number begins at some pair of it; if it is not,
it should be digits of which none is cut off. -/
def RefusedOrDigits (hexString : String) (bufferSize : Nat) : Prop :=
  (hexString.length < 2 ^ 32 ∧ IsHexText hexString.toList)
    ∨ hexString.length % 2 ^ 32 % 2 = 1
    ∨ bufferSize ≤ hexString.length % 2 ^ 32 / 2
    ∨ ∃ i < hexString.length % 2 ^ 32 / 2, ¬ BeginsNumber (hexString.toList.drop (2 * i))

theorem beginsNumber_of_isHexText {text : List Char} (h : IsHexText text) (hne : text ≠ []) :
    BeginsNumber text := by
  obtain ⟨c, rest, rfl⟩ := List.exists_cons_of_ne_nil hne
  obtain ⟨digit, hc⟩ := Option.isSome_iff_exists.mp (h c List.mem_cons_self)
  have hblank : ¬ Scanf.isBlank c = true := by
    rw [isBlank_of_hexDigit hc]
    exact Bool.false_ne_true
  exact ⟨c, rest, List.dropWhile_cons_of_neg hblank, Or.inl (h c List.mem_cons_self)⟩

/-- When the decoder succeeds. -/
theorem hexStringToByteArray_succeeds_iff (hexString : String) (bufferSize : Nat) :
    (∃ bytes, hexStringToByteArray hexString bufferSize = some bytes)
      ↔ hexString.length % 2 ^ 32 % 2 = 0 ∧ hexString.length % 2 ^ 32 / 2 < bufferSize
        ∧ ∀ i < hexString.length % 2 ^ 32 / 2, BeginsNumber (hexString.toList.drop (2 * i)) := by
  rw [← scanHexBytes_isSome_iff]
  unfold hexStringToByteArray
  dsimp only
  rw [UInt32.toNat_ofNat']
  by_cases hno : hexString.length % 2 ^ 32 % 2 = 1 ∨ hexString.length % 2 ^ 32 / 2 ≥ bufferSize
  · rw [if_pos hno]
    refine ⟨fun ⟨_, h⟩ => absurd h (by simp), fun ⟨heven, hfits, _⟩ => ?_⟩
    omega
  · rw [if_neg hno]
    exact ⟨fun h => ⟨by omega, by omega, h⟩, fun h => h.2.2⟩

theorem length_hexStringToByteArray {hexString : String} {bufferSize : Nat} {bytes : List UInt8}
    (h : hexStringToByteArray hexString bufferSize = some bytes) :
    bytes.length = hexString.length % 2 ^ 32 / 2 := by
  unfold hexStringToByteArray at h
  dsimp only at h
  rw [UInt32.toNat_ofNat'] at h
  split at h
  · exact absurd h (Option.some_ne_none bytes).symm
  · exact length_scanHexBytes h

/-- A number begins at every pair of digits. -/
theorem IsHexText.beginsNumber_drop {hexString : String} (h : IsHexText hexString.toList) {i : Nat}
    (hi : i < hexString.length / 2) : BeginsNumber (hexString.toList.drop (2 * i)) := by
  refine beginsNumber_of_isHexText (fun c hc => h c (List.mem_of_mem_drop hc)) ?_
  rw [Ne, List.drop_eq_nil_iff, String.length_toList]
  omega

/--
**Which texts are decoded as they should be.** Digits are, as long as the length of the text is not
cut; of the other texts those are that some scan refuses.
-/
theorem decodes_iff (hexString : String) (bufferSize : Nat) :
    Decodes hexString bufferSize ↔ RefusedOrDigits hexString bufferSize := by
  have hsucceeds := hexStringToByteArray_succeeds_iff hexString bufferSize
  constructor
  · intro h
    by_cases hfails : hexString.length % 2 ^ 32 % 2 = 1
        ∨ bufferSize ≤ hexString.length % 2 ^ 32 / 2
        ∨ ∃ i < hexString.length % 2 ^ 32 / 2, ¬ BeginsNumber (hexString.toList.drop (2 * i))
    · exact Or.inr hfails
    simp only [not_or, not_exists, not_and, Classical.not_not] at hfails
    obtain ⟨hodd, hfits, hnumbers⟩ := hfails
    obtain ⟨bytes, hbytes⟩ := hsucceeds.mpr ⟨by omega, by omega, hnumbers⟩
    -- as many digits are spelled as have been counted
    have hspells := h.spells bytes hbytes
    have hlen := hspells.length
    rw [String.length_toList, length_hexStringToByteArray hbytes] at hlen
    exact Or.inl ⟨by omega, hspells.isHexText⟩
  · rintro (⟨hlength, hhex⟩ | hfails)
    · rw [Nat.mod_eq_of_lt hlength] at hsucceeds
      have hnumbers : ∀ i < hexString.length / 2, BeginsNumber (hexString.toList.drop (2 * i)) :=
        fun i hi => hhex.beginsNumber_drop hi
      refine ⟨hsucceeds.trans ⟨fun h => ⟨h.1, hhex, h.2.1⟩, fun h => ⟨h.1, h.2.2, hnumbers⟩⟩, ?_⟩
      intro bytes hbytes
      obtain ⟨heven, hfits, -⟩ := hsucceeds.mp ⟨bytes, hbytes⟩
      obtain ⟨bytes', hspells⟩ := exists_spells (by rwa [String.length_toList]) hhex
      have hlen := hspells.length
      rw [String.length_toList] at hlen
      have hbytes' : hexStringToByteArray hexString bufferSize = some bytes' :=
        hexStringToByteArray_spells hspells (by omega) hlength
      obtain rfl := Option.some.inj (hbytes'.symm.trans hbytes)
      exact hspells
    · have hno : ¬ ∃ bytes, hexStringToByteArray hexString bufferSize = some bytes := by
        rw [hsucceeds]
        rintro ⟨heven, hfits, hnumbers⟩
        rcases hfails with hodd | hlong | ⟨i, hi, hnumber⟩
        · omega
        · omega
        · exact hnumber (hnumbers i hi)
      refine ⟨⟨fun h => absurd h hno, ?_⟩, fun bytes h => absurd ⟨bytes, h⟩ hno⟩
      rintro ⟨heven, hhex, hfits⟩
      rcases hfails with hodd | hlong | ⟨i, hi, hnumber⟩
      · omega
      · omega
      · exact absurd (hhex.beginsNumber_drop (by omega)) hnumber

/-- **A sign is taken for a digit.** -/
theorem sign_decoded : ¬ Decodes "+1" 500 := fun h => by
  have hbytes : hexStringToByteArray "+1" 500 = some [1] := by decide
  have hsign := (h.spells [1] hbytes).isHexText '+' (by decide)
  exact absurd hsign (by decide)

end SecurityAgent.Utils
