import SecurityAgent.Iptables.IptablesTexts
import SecurityAgent.Lib.Separated

/-!
# Reading an address back

An address is printed with its mask, which has three forms: a mask of leading ones is printed as
their number, no mask as nothing, and any other mask byte by byte. The forms do not look alike, so
that the text says which address, which mask and whether it is negated.
-/

namespace SecurityAgent.IptablesUtils

open Utils

/-- The mask whose first bits are ones, and all others zeros. There is at least one. -/
def IsPrefixMask (mask : UInt32) (bits : Nat) : Prop :=
  0 < bits ∧ bits ≤ 32 ∧ mask.toNat = 2 ^ 32 - 2 ^ (32 - bits)

/-- The mark of a negation. -/
def negation (invert : Bool) : String := if invert then IPTABLES_NEGATE else IPTABLES_EMPTY

/-! ## The bytes of a word -/

/-- A byte as it is printed. -/
def byteDigits (n shift : UInt32) : List Char := Nat.toDigits 10 (n >>> shift &&& 0xFF).toNat

theorem toList_ipBytes (n : UInt32) :
    (ipBytes n).toList = ['.'].intercalate ([24, 16, 8, 0].map (byteDigits n)) := by
  unfold ipBytes byteDigits
  simp only [String.toList_append, Separated.toList_toString,
    List.map_cons, List.map_nil, List.intercalate_cons_cons, List.intercalate_singleton,
    UInt32.shiftRight_zero, List.append_assoc]
  rfl

theorem toNat_byte (n : UInt32) {shift : UInt32} (h : shift.toNat < 32) :
    (n >>> shift &&& 0xFF).toNat = n.toNat / 2 ^ shift.toNat % 256 := by
  have hmask : ((0xFF : UInt32).toNat) = 2 ^ 8 - 1 := rfl
  rw [UInt32.toNat_and, UInt32.toNat_shiftRight, hmask, Nat.and_two_pow_sub_one_eq_mod,
    Nat.mod_eq_of_lt h, Nat.shiftRight_eq_div_pow]

theorem mem_ipBytes {n : UInt32} {c : Char} (h : c ∈ (ipBytes n).toList) :
    c = '.' ∨ c.isDigit = true := by
  rw [toList_ipBytes] at h
  rcases Separated.mem_intercalate h with hdot | ⟨piece, hpiece, hmem⟩
  · exact Or.inl hdot
  · obtain ⟨shift, -, rfl⟩ := List.mem_map.mp hpiece
    exact Or.inr (Separated.isDigit_toDigits hmem)

/-- **The four bytes determine the word.** -/
theorem ipBytes_injective {n n' : UInt32} (h : ipBytes n = ipBytes n') : n = n' := by
  have htext := congrArg String.toList h
  rw [toList_ipBytes, toList_ipBytes] at htext
  have hpieces := Separated.map_intercalate_injective
    (fun _ _ => Separated.free_toDigits (by decide) _)
    (fun _ _ => Separated.free_toDigits (by decide) _) htext
  have hbyte : ∀ shift ∈ [(24 : UInt32), 16, 8, 0], shift.toNat < 32 →
      n.toNat / 2 ^ shift.toNat % 256 = n'.toNat / 2 ^ shift.toNat % 256 := by
    intro shift hmem hlt
    have hvalue := Separated.toDigits_injective (hpieces shift hmem)
    rwa [toNat_byte n hlt, toNat_byte n' hlt] at hvalue
  have h₃ := hbyte 24 (by simp) (by decide)
  have h₂ := hbyte 16 (by simp) (by decide)
  have h₁ := hbyte 8 (by simp) (by decide)
  have h₀ := hbyte 0 (by simp) (by decide)
  have hlt := n.toNat_lt
  have hlt' := n'.toNat_lt
  simp only [UInt32.reduceToNat] at h₃ h₂ h₁ h₀
  exact UInt32.toNat_inj.mp (by omega)

/-! ## The form of a mask -/

/-- The masks that the loop tries. -/
def leading : Nat → UInt32
  | 0 => 0xffffffff
  | i + 1 => leading i <<< 1

theorem toNat_leading : ∀ i < 33, (leading i).toNat = 2 ^ 32 - 2 ^ i := by decide

/-- The number of leading ones is one. -/
theorem IsPrefixMask.unique {mask : UInt32} {bits bits' : Nat} (h : IsPrefixMask mask bits)
    (h' : IsPrefixMask mask bits') : bits = bits' := by
  obtain ⟨-, hle, hmask⟩ := h
  obtain ⟨-, hle', hmask'⟩ := h'
  have hpow : ∀ k, 2 ^ (32 - k) ≤ 2 ^ 32 := fun k =>
    Nat.pow_le_pow_right (Nat.succ_pos 1) (Nat.sub_le 32 k)
  have heq : 2 ^ (32 - bits) = 2 ^ (32 - bits') := by
    have hle₁ := hpow bits
    have hle₂ := hpow bits'
    omega
  have hexponent := Nat.pow_right_injective (Nat.le_refl 2) heq
  omega

theorem isPrefixMask_leading {i : Nat} (h : i < 32) : IsPrefixMask (leading i) (32 - i) := by
  refine ⟨by omega, by omega, ?_⟩
  rw [toNat_leading i (by omega), Nat.sub_sub_self (Nat.le_of_lt h)]

theorem IsPrefixMask.eq_leading {mask : UInt32} {bits : Nat} (h : IsPrefixMask mask bits) :
    mask = leading (32 - bits) := by
  obtain ⟨hpos, hle, hmask⟩ := h
  exact UInt32.toNat_inj.mp (hmask.trans (toNat_leading _ (by omega)).symm)

/-- The loop finds the first of the masks it tries that is the one. -/
theorem findMask_cases (mask : UInt32) (rounds i : Nat) :
    (∃ k < rounds, mask = leading (i + k) ∧ findMask mask rounds (leading i) i = (true, i + k))
      ∨ ((∀ k < rounds, mask ≠ leading (i + k))
        ∧ (findMask mask rounds (leading i) i).1 = false) := by
  induction rounds generalizing i with
  | zero => exact Or.inr ⟨fun k hk => absurd hk (Nat.not_lt_zero k), rfl⟩
  | succ rounds ih =>
      unfold findMask
      by_cases hmask : leading i = mask
      · rw [if_pos hmask]
        exact Or.inl ⟨0, Nat.succ_pos rounds, hmask.symm, rfl⟩
      · rw [if_neg hmask]
        rcases ih (i + 1) with ⟨k, hk, hfound, heq⟩ | ⟨hno, hfalse⟩
        · rw [Nat.add_right_comm, Nat.add_assoc] at hfound
          rw [Nat.add_right_comm, Nat.add_assoc] at heq
          exact Or.inl ⟨k + 1, Nat.succ_lt_succ hk, hfound, heq⟩
        · refine Or.inr ⟨fun k hk => ?_, hfalse⟩
          cases k with
          | zero => exact fun h => hmask h.symm
          | succ k =>
              have hnext := hno k (Nat.lt_of_succ_lt_succ hk)
              rwa [Nat.add_right_comm, Nat.add_assoc] at hnext

/-- **What is printed for a mask.** -/
theorem maskText_cases (mask : UInt32) :
    (∃ bits, IsPrefixMask mask bits ∧ maskText mask = "/" ++ toString bits)
      ∨ ((¬ ∃ bits, IsPrefixMask mask bits)
        ∧ maskText mask = if mask = 0 then "" else "/" ++ ipBytes mask) := by
  unfold maskText
  rcases findMask_cases mask 32 0 with ⟨k, hk, hmask, heq⟩ | ⟨hno, hfalse⟩
  · rw [Nat.zero_add] at hmask heq
    refine Or.inl ⟨32 - k, hmask ▸ isPrefixMask_leading hk, ?_⟩
    have hfound : findMask mask 32 0xffffffff 0 = (true, k) := heq
    rw [hfound, if_pos rfl]
  · refine Or.inr ⟨fun ⟨bits, h⟩ => ?_, ?_⟩
    · have hlt : 32 - bits < 32 := by
        have hpos := h.1
        omega
      exact hno (32 - bits) hlt (by rw [Nat.zero_add]; exact h.eq_leading)
    · have hfound : (findMask mask 32 0xffffffff 0).1 = false := hfalse
      rw [if_neg (by rw [hfound]; exact Bool.false_ne_true)]

/-- There is a dot between bytes, and none in a number. -/
theorem ipBytes_ne_number (n : UInt32) (k : Nat) : ipBytes n ≠ toString k := by
  intro h
  have hdot : '.' ∈ (ipBytes n).toList := by
    rw [toList_ipBytes, List.map_cons, List.map_cons, List.intercalate_cons_cons]
    simp
  rw [h, Separated.toList_toString] at hdot
  exact Separated.free_toDigits (by decide) k hdot

theorem slash_ne_empty (text : String) : "/" ++ text ≠ "" := by
  intro h
  have hlist := congrArg String.toList h
  rw [String.toList_append] at hlist
  exact absurd hlist (by simp)

/-- **The forms of a mask determine it.** -/
theorem maskText_injective {mask mask' : UInt32} (h : maskText mask = maskText mask') :
    mask = mask' := by
  have hother : ∀ {mask mask' : UInt32} {bits : Nat}, maskText mask = "/" ++ toString bits →
      maskText mask' = (if mask' = 0 then "" else "/" ++ ipBytes mask') →
      maskText mask ≠ maskText mask' := by
    intro mask mask' bits hmask hmask' h
    rw [hmask, hmask'] at h
    split at h
    · exact slash_ne_empty _ h
    · exact ipBytes_ne_number _ _ ((String.append_right_inj "/").mp h).symm
  rcases maskText_cases mask with ⟨bits, hbits, hmask⟩ | ⟨-, hmask⟩ <;>
    rcases maskText_cases mask' with ⟨bits', hbits', hmask'⟩ | ⟨-, hmask'⟩
  · rw [hmask, hmask'] at h
    rw [hbits.eq_leading, hbits'.eq_leading, toString_injective ((String.append_right_inj "/").mp h)]
  · exact absurd h (hother hmask hmask')
  · exact absurd h.symm (hother hmask' hmask)
  · rw [hmask, hmask'] at h
    split at h <;> split at h
    · exact (‹mask = 0›).trans (‹mask' = 0›).symm
    · exact absurd h.symm (slash_ne_empty _)
    · exact absurd h (slash_ne_empty _)
    · exact ipBytes_injective ((String.append_right_inj "/").mp h)

/-! ## The whole text -/

/-- What is printed for an address. -/
def printedIp (ip mask : UInt32) (invert : Bool) : String :=
  negation invert ++ ipBytes ip ++ maskText mask

theorem stops_maskText (mask : UInt32) : Scanf.Stops (· ≠ '/') (maskText mask).toList := by
  have hslash : ∀ text : String, Scanf.Stops (· ≠ '/') ("/" ++ text).toList := fun text => by
    rw [String.toList_append]
    exact Scanf.Stops.cons (by decide) _
  rcases maskText_cases mask with ⟨bits, -, h⟩ | ⟨-, h⟩
  · rw [h]
    exact hslash _
  · rw [h]
    split
    · exact fun c hc => absurd hc (by simp)
    · exact hslash _

theorem not_mark_mem {c : Char} (h : c = '.' ∨ c.isDigit = true) : c ≠ '!' ∧ c ≠ '/' := by
  constructor <;>
  · rintro rfl
    exact absurd h (by decide)

theorem not_mem_maskText (mask : UInt32) : '!' ∉ (maskText mask).toList := by
  have hslash : ∀ text : String, '!' ∉ text.toList → '!' ∉ ("/" ++ text).toList := by
    intro text htext
    rw [String.toList_append]
    exact List.not_mem_append (by decide) htext
  have hbytes : '!' ∉ (ipBytes mask).toList := fun h => (not_mark_mem (mem_ipBytes h)).1 rfl
  rcases maskText_cases mask with ⟨bits, -, h⟩ | ⟨-, h⟩
  · rw [h]
    refine hslash _ ?_
    rw [Separated.toList_toString]
    exact Separated.free_toDigits (by decide) bits
  · rw [h]
    split
    · exact by simp
    · exact hslash _ hbytes

/-- Whether a text is negated is seen from the mark. -/
theorem mark_mem_printedIp (ip mask : UInt32) (invert : Bool) :
    '!' ∈ (printedIp ip mask invert).toList ↔ invert = true := by
  have hbytes : '!' ∉ (ipBytes ip).toList := fun h => (not_mark_mem (mem_ipBytes h)).1 rfl
  have hmask := not_mem_maskText mask
  unfold printedIp
  rw [String.toList_append, String.toList_append]
  cases invert with
  | false =>
      have hmark : '!' ∉ (negation false).toList := by decide
      simp [hbytes, hmask, hmark]
  | true =>
      have hmark : '!' ∈ (negation true).toList := by decide
      simp [hmark]

/-- **The text determines the address, the mask and the negation.** -/
theorem printedIp_injective {ip ip' mask mask' : UInt32} {invert invert' : Bool}
    (h : printedIp ip mask invert = printedIp ip' mask' invert') :
    ip = ip' ∧ mask = mask' ∧ invert = invert' := by
  have hinvert : invert = invert' := by
    rw [Bool.eq_iff_iff, ← mark_mem_printedIp ip mask invert, h, mark_mem_printedIp]
  subst hinvert
  have hfree : ∀ ip : UInt32, ∀ c ∈ (ipBytes ip).toList, decide (c ≠ '/') = true := fun ip c hc =>
    decide_eq_true (not_mark_mem (mem_ipBytes hc)).2
  have hlist := congrArg String.toList h
  unfold printedIp at hlist
  simp only [String.toList_append, List.append_assoc] at hlist
  have hrest := List.append_cancel_left hlist
  -- the address ends where the mask begins
  have hip := congrArg (List.takeWhile (· ≠ '/')) hrest
  rw [Scanf.takeWhile_append_stops (hfree ip) (stops_maskText mask),
    Scanf.takeWhile_append_stops (hfree ip') (stops_maskText mask')] at hip
  rw [hip] at hrest
  exact ⟨ipBytes_injective (String.toList_injective hip),
    maskText_injective (String.toList_injective (List.append_cancel_left hrest)), rfl⟩

/-- What is answered is what is printed, however large the buffer. -/
theorem eq_printedIp_of_formatIp {ip mask : UInt32} {invert : Bool} {bufferSize : Nat}
    {text : String} (h : formatIp ip mask invert bufferSize = .ok text) :
    text = printedIp ip mask invert := by
  by_cases hno : ip = 0 ∧ mask = 0
  · unfold formatIp at h
    rw [if_pos hno] at h
    cases h
  · rw [formatIp_writeText hno] at h
    exact eq_of_writeText h

/--
**Addresses are printed so that they can be told apart.** For every address with every mask, negated
or not, of which not both are zero: with enough room there is a text, no other address, mask or
negation has it, and a mask of leading ones is printed as their number and no other mask as a number.
-/
theorem formatIp_determines {ip mask : UInt32} (hno : ¬ (ip = 0 ∧ mask = 0)) (invert : Bool)
    {bufferSize : Nat} (hroom : 32 < bufferSize) :
    ∃ text, formatIp ip mask invert bufferSize = .ok text
      ∧ (∀ (ip' mask' : UInt32) (invert' : Bool) (bufferSize' : Nat),
        formatIp ip' mask' invert' bufferSize' = .ok text →
          ip' = ip ∧ mask' = mask ∧ invert' = invert)
      ∧ (∀ bits, IsPrefixMask mask bits →
        text = negation invert ++ ipBytes ip ++ "/" ++ toString bits)
      ∧ ((¬ ∃ bits, IsPrefixMask mask bits) →
        ∀ bits : Nat, text ≠ negation invert ++ ipBytes ip ++ "/" ++ toString bits) := by
  have hcancel : ∀ bits : Nat, printedIp ip mask invert
      = negation invert ++ ipBytes ip ++ "/" ++ toString bits ↔ maskText mask = "/" ++ toString bits := by
    intro bits
    have hassoc : negation invert ++ ipBytes ip ++ "/" ++ toString bits
        = negation invert ++ ipBytes ip ++ ("/" ++ toString bits) := String.append_assoc
    unfold printedIp
    rw [hassoc]
    exact String.append_right_inj _
  refine ⟨printedIp ip mask invert, ?_, fun ip' mask' invert' bufferSize' h => ?_, fun bits h => ?_,
    fun hnone bits h => ?_⟩
  · rw [formatIp_eq ip mask invert hroom, ipText, if_neg hno]
    rfl
  · obtain ⟨hip, hmask, hinvert⟩ := printedIp_injective (eq_printedIp_of_formatIp h)
    exact ⟨hip.symm, hmask.symm, hinvert.symm⟩
  · rw [hcancel]
    rcases maskText_cases mask with ⟨bits', hbits', hmask⟩ | ⟨hnone, -⟩
    · rw [hmask, h.unique hbits']
    · exact absurd ⟨bits, h⟩ hnone
  · rw [hcancel] at h
    rcases maskText_cases mask with ⟨bits', hbits', -⟩ | ⟨-, hmask⟩
    · exact hnone ⟨bits', hbits'⟩
    · rw [hmask] at h
      split at h
      · exact slash_ne_empty _ h.symm
      · exact ipBytes_ne_number _ _ ((String.append_right_inj "/").mp h)

/-- `192.168.0.0/14`, not negated. -/
theorem formatIp_determines_prefix :
    ∃ text, formatIp 0xc0a80000 0xfffc0000 false 50 = .ok text ∧ text = "192.168.0.0/14" := by
  have hno : ¬ ((0xc0a80000 : UInt32) = 0 ∧ (0xfffc0000 : UInt32) = 0) := by decide
  have hroom : 32 < 50 := by omega
  obtain ⟨text, htext, -, hbits, -⟩ := formatIp_determines hno false hroom
  exact ⟨text, htext, hbits 14 (by unfold IsPrefixMask; decide)⟩

end SecurityAgent.IptablesUtils
