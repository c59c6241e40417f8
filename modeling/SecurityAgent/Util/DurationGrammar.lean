import Mathlib.Data.List.TakeWhile
import SecurityAgent.Util.Duration

/-!
# Which texts are durations

The reader is put together from `sscanf`, `strchr` and pointer steps. What it accepts is
a grammar all the same: `P`, a date section, and after a `T` a time section, each a list
of counts with their designators in order. A count is what `%u` takes: blanks, a sign and
digits. A count that is *plain*, digits and nothing else, is what the format means by a
number.

`advance_text` says what the chain of blocks makes of a text of that shape, and
`advance_shape` that it accepts no other. Both are inductions over the blocks, so that
they serve the date and the time alike. The block of the years and that of the months
differ from the others in the source, and from a result of zero they do what the others
do, the years with a unit of nothing.
-/

namespace SecurityAgent

namespace TimeUtils

/-! ## Counts -/

/-- What the conversion `%u` takes. -/
structure Count where
  blanks : List Char
  sign : Option Char
  digits : List Char
  isSpace_blanks : ∀ c ∈ blanks, isSpace c = true
  sign_cases : sign = none ∨ sign = some '+' ∨ sign = some '-'
  digits_ne_nil : digits ≠ []
  isDigit_digits : ∀ c ∈ digits, c.isDigit = true

namespace Count

/-- Its text. -/
def text (q : Count) : List Char := q.blanks ++ (q.sign.toList ++ q.digits)

/-- What the conversion stores. -/
def stored (q : Count) : UInt32 := UInt32.ofNat (strtoul (q.sign == some '-') q.digits)

/-- The number its digits write. -/
def value (q : Count) : Nat := Nat.ofDigitChars 10 q.digits 0

/-- Digits and nothing else. -/
def Plain (q : Count) : Prop := q.blanks = [] ∧ q.sign = none

instance (q : Count) : Decidable q.Plain := inferInstanceAs (Decidable (_ ∧ _))

/-- A count begins with a blank, a sign or a digit. -/
theorem text_cons (q : Count) : ∃ c cs, q.text = c :: cs
    ∧ (isSpace c = true ∨ c = '+' ∨ c = '-' ∨ c.isDigit = true) := by
  obtain ⟨blanks, sign, digits, hblanks, hsign, hne, hdigits⟩ := q
  cases blanks with
  | cons c cs => exact ⟨c, _, rfl, Or.inl (hblanks c List.mem_cons_self)⟩
  | nil =>
      rcases hsign with rfl | rfl | rfl
      · cases digits with
        | nil => exact absurd rfl hne
        | cons d ds =>
            have hd : d.isDigit = true := hdigits d List.mem_cons_self
            exact ⟨d, ds, rfl, Or.inr (Or.inr (Or.inr hd))⟩
      · exact ⟨'+', digits, rfl, Or.inr (Or.inl rfl)⟩
      · exact ⟨'-', digits, rfl, Or.inr (Or.inr (Or.inl rfl))⟩

/-- What stands in a count is a blank, a sign or a digit. -/
theorem mem_text {q : Count} {c : Char} (h : c ∈ q.text) :
    isSpace c = true ∨ c = '+' ∨ c = '-' ∨ c.isDigit = true := by
  unfold text at h
  rcases List.mem_append.mp h with hb | h
  · exact Or.inl (q.isSpace_blanks c hb)
  · rcases List.mem_append.mp h with hs | hd
    · rw [Option.mem_toList] at hs
      rcases q.sign_cases with hq | hq | hq <;> rw [hq] at hs
      · exact absurd hs (by simp)
      · exact Or.inr (Or.inl (Option.some.inj hs).symm)
      · exact Or.inr (Or.inr (Or.inl (Option.some.inj hs).symm))
    · exact Or.inr (Or.inr (Or.inr (q.isDigit_digits c hd)))

end Count

/-- A character that cannot stand in a count. -/
def Foreign (c : Char) : Prop :=
  isSpace c = false ∧ c ≠ '+' ∧ c ≠ '-' ∧ c.isDigit = false

instance (c : Char) : Decidable (Foreign c) := inferInstanceAs (Decidable (_ ∧ _))

theorem Foreign.not_mem_text {c : Char} (h : Foreign c) (q : Count) : ∀ d ∈ q.text, d ≠ c := by
  intro d hd he
  obtain ⟨hspace, hplus, hminus, hdigit⟩ := h
  rcases Count.mem_text hd with hs | hp | hm | hn
  · rw [he, hspace] at hs
    exact absurd hs (by simp)
  · exact hplus (he ▸ hp)
  · exact hminus (he ▸ hm)
  · rw [he, hdigit] at hn
    exact absurd hn (by simp)

/-- Where a count starts, no section is over. -/
theorem Count.not_dateEnds (q : Count) (rest : List Char) : dateEnds (q.text ++ rest) = false := by
  obtain ⟨c, cs, htext, hc⟩ := q.text_cons
  have hT : c ≠ 'T' := by
    rintro rfl
    rcases hc with h | h | h | h <;> exact absurd h (by decide)
  rw [htext]
  simp [dateEnds, hT]

theorem Count.not_timeEnds (q : Count) (rest : List Char) : timeEnds (q.text ++ rest) = false := by
  obtain ⟨c, cs, htext, -⟩ := q.text_cons
  rw [htext]
  rfl

/-! ## Scanning one count -/

theorem dropWhile_isSpace_text (q : Count) (rest : List Char) :
    (q.text ++ rest).dropWhile isSpace = q.sign.toList ++ (q.digits ++ rest) := by
  obtain ⟨blanks, sign, digits, hblanks, hsign, hne, hdigits⟩ := q
  have hstart : ∃ c cs, sign.toList ++ (digits ++ rest) = c :: cs ∧ isSpace c = false := by
    rcases hsign with rfl | rfl | rfl
    · cases digits with
      | nil => exact absurd rfl hne
      | cons d ds =>
          exact ⟨d, ds ++ rest, rfl, isSpace_of_isDigit (hdigits d List.mem_cons_self)⟩
    · exact ⟨'+', digits ++ rest, rfl, by decide⟩
    · exact ⟨'-', digits ++ rest, rfl, by decide⟩
  obtain ⟨c, cs, hcons, hc⟩ := hstart
  show (blanks ++ (sign.toList ++ digits) ++ rest).dropWhile isSpace = _
  rw [List.append_assoc, List.append_assoc, List.dropWhile_append_of_pos hblanks]
  show (sign.toList ++ (digits ++ rest)).dropWhile isSpace = _
  rw [hcons, List.dropWhile_cons_of_neg (by simp [hc])]

/-- A count before a character that is no digit is scanned as what is stored. -/
theorem scanUnsignedChar_text (q : Count) {c : Char} (hc : c.isDigit = false)
    (rest : List Char) : scanUnsignedChar (q.text ++ c :: rest) = some (q.stored, c) := by
  have hspace := dropWhile_isSpace_text q (c :: rest)
  have htake : (q.digits ++ c :: rest).takeWhile Char.isDigit = q.digits := by
    rw [List.takeWhile_append_of_pos q.isDigit_digits, List.takeWhile_cons_of_neg (by simp [hc]),
      List.append_nil]
  have hdrop : (q.digits ++ c :: rest).dropWhile Char.isDigit = c :: rest := by
    rw [List.dropWhile_append_of_pos q.isDigit_digits,
      List.dropWhile_cons_of_neg (by simp [hc])]
  -- the sign is taken off, so that what is left are the digits
  have hsign : ((q.sign.toList ++ (q.digits ++ c :: rest)).head? == some '-')
        = (q.sign == some '-')
      ∧ (if (q.sign.toList ++ (q.digits ++ c :: rest)).head? == some '-'
            || (q.sign.toList ++ (q.digits ++ c :: rest)).head? == some '+' then
          (q.sign.toList ++ (q.digits ++ c :: rest)).tail
        else q.sign.toList ++ (q.digits ++ c :: rest)) = q.digits ++ c :: rest := by
    rcases q.sign_cases with hq | hq | hq
    · obtain ⟨d, ds, hds⟩ := List.exists_cons_of_ne_nil q.digits_ne_nil
      have hd : d.isDigit = true := q.isDigit_digits d (hds ▸ List.mem_cons_self)
      have hminus : d ≠ '-' := ne_of_isDigit rfl hd
      have hplus : d ≠ '+' := ne_of_isDigit rfl hd
      rw [hq, hds]
      simp [hminus, hplus]
    · rw [hq]; simp
    · rw [hq]; simp
  unfold scanUnsignedChar
  rw [hspace]
  simp only [hsign.2, htake, hdrop, if_neg q.digits_ne_nil]
  rw [hsign.1]
  rfl

/-- Whatever is scanned is a count and the character after it. -/
theorem scanUnsignedChar_shape {s : List Char} {n : UInt32} {c : Char}
    (h : scanUnsignedChar s = some (n, c)) :
    ∃ (q : Count) (rest : List Char), s = q.text ++ c :: rest ∧ n = q.stored := by
  unfold scanUnsignedChar at h
  generalize hs' : s.dropWhile isSpace = s' at h
  have hs : s = s.takeWhile isSpace ++ s' := by rw [← hs', List.takeWhile_append_dropWhile]
  have hblanks : ∀ b ∈ s.takeWhile isSpace, isSpace b = true := fun b hb =>
    List.mem_takeWhile_imp hb
  -- the three ways `s'` can start
  have hcase : ∃ sign : Option Char, (sign = none ∨ sign = some '+' ∨ sign = some '-')
      ∧ (s'.head? == some '-') = (sign == some '-')
      ∧ s' = sign.toList ++ (if s'.head? == some '-' || s'.head? == some '+' then s'.tail
          else s') := by
    by_cases hm : s'.head? = some '-'
    · obtain ⟨tl, rfl⟩ := List.head?_eq_some_iff.mp hm
      exact ⟨some '-', Or.inr (Or.inr rfl), rfl, rfl⟩
    · by_cases hp : s'.head? = some '+'
      · obtain ⟨tl, rfl⟩ := List.head?_eq_some_iff.mp hp
        exact ⟨some '+', Or.inr (Or.inl rfl), rfl, rfl⟩
      · refine ⟨none, Or.inl rfl, by simp [hm], ?_⟩
        simp [hm, hp]
  obtain ⟨sign, hsign, hneg, hrest⟩ := hcase
  dsimp only at h
  generalize hbody : (if s'.head? == some '-' || s'.head? == some '+' then s'.tail else s') = body
    at h hrest
  split at h
  · exact absurd h (by simp)
  · rename_i hne
    split at h
    · exact absurd h (by simp)
    · rename_i d tl hdrop
      obtain ⟨rfl, rfl⟩ := Prod.mk.inj (Option.some.inj h)
      have hdigits : body = body.takeWhile Char.isDigit ++ d :: tl := by
        rw [← hdrop, List.takeWhile_append_dropWhile]
      refine ⟨⟨s.takeWhile isSpace, sign, body.takeWhile Char.isDigit, hblanks, hsign, hne,
        fun _ hb => List.mem_takeWhile_imp hb⟩, tl, ?_, ?_⟩
      · show s = s.takeWhile isSpace ++ (sign.toList ++ body.takeWhile Char.isDigit) ++ d :: tl
        rw [List.append_assoc, List.append_assoc, ← hdigits, ← hrest]
        exact hs
      · show UInt32.ofNat (strtoul (s'.head? == some '-') _) = UInt32.ofNat (strtoul _ _)
        rw [hneg]

/-! ## Components and sections -/

/-- A designator, with the reader's limit for its count. -/
structure Block where
  specifier : Char
  max : UInt32
  /-- What the reader counts it as. -/
  unit : UInt32
  /-- What it is. -/
  milliseconds : Nat

/-- A block the chain can be made of: the designator cannot stand in a count, and within the limit
the product of count and unit does not wrap. -/
structure Block.Ok (b : Block) : Prop where
  foreign : Foreign b.specifier
  fits : b.max.toNat * b.unit.toNat < 2 ^ 32

/-- A count and its designator. -/
structure Component where
  block : Block
  count : Count

namespace Component

def text (c : Component) : List Char := c.count.text ++ [c.block.specifier]

/-- The reader's limit is kept. -/
def Within (c : Component) : Prop := c.count.stored ≤ c.block.max

instance (c : Component) : Decidable c.Within := inferInstanceAs (Decidable (_ ≤ _))

/-- What the reader counts. -/
def counted (c : Component) : Nat := c.count.stored.toNat * c.block.unit.toNat

/-- What it amounts to. -/
def amount (c : Component) : Nat := c.count.value * c.block.milliseconds

end Component

def componentsText (cs : List Component) : List Char := cs.flatMap Component.text

/-- What the reader counts of a section. -/
def countedTotal (cs : List Component) : Nat := (cs.map Component.counted).sum

/-- What a section amounts to. -/
def amountTotal (cs : List Component) : Nat := (cs.map Component.amount).sum

/-- The reader's blocks for a list of designators. -/
def readBlocks (ends : List Char → Bool) (bs : List Block) : ScanState → Option UInt32 :=
  bs.foldr (fun b next => component b.specifier b.max b.unit ends next) fail

theorem readBlocks_cons (ends : List Char → Bool) (b : Block) (bs : List Block) :
    readBlocks ends (b :: bs) = component b.specifier b.max b.unit ends (readBlocks ends bs) := rfl

theorem componentsText_cons (c : Component) (cs : List Component) (tail : List Char) :
    componentsText (c :: cs) ++ tail
      = c.count.text ++ c.block.specifier :: (componentsText cs ++ tail) := by
  simp [componentsText, Component.text]

theorem countedTotal_cons (c : Component) (cs : List Component) :
    countedTotal (c :: cs) = c.counted + countedTotal cs := List.sum_cons

section Sections

variable {ends : List Char → Bool} (hends : ∀ (q : Count) rest, ends (q.text ++ rest) = false)

include hends

/-- **What the chain makes of a section**: its total, if every count is within its limit and the
total fits. -/
theorem advance_text {tail : List Char} (htail : ends tail = true) :
    ∀ {bs : List Block} {cs : List Component} {r : UInt32}, (∀ b ∈ bs, b.Ok) →
      (bs.map Block.specifier).Nodup → (cs.map Component.block).Sublist bs →
      advance ends (readBlocks ends bs) (componentsText cs ++ tail) r
        = if (∀ c ∈ cs, c.Within) ∧ r.toNat + countedTotal cs < 2 ^ 32 then
            some (UInt32.ofNat (r.toNat + countedTotal cs))
          else none := by
  have hdone : ∀ (bs : List Block) (r : UInt32),
      advance ends (readBlocks ends bs) (componentsText [] ++ tail) r
        = if (∀ c ∈ ([] : List Component), c.Within) ∧ r.toNat + countedTotal [] < 2 ^ 32 then
            some (UInt32.ofNat (r.toNat + countedTotal []))
          else none := by
    intro bs r
    have hr := r.toNat_lt
    show advance ends _ tail r = _
    rw [advance_of_ends htail, if_pos ⟨by simp, hr⟩]
    simp [countedTotal]
  intro bs
  induction bs with
  | nil =>
      intro cs r _ _ hsub
      obtain rfl : cs = [] := by simpa using hsub
      exact hdone [] r
  | cons b bs ih =>
      intro cs r hok hnd hsub
      cases cs with
      | nil => exact hdone (b :: bs) r
      | cons c cs =>
          have hoks : ∀ b' ∈ bs, b'.Ok := fun b' hb' => hok b' (List.mem_cons_of_mem _ hb')
          rw [List.map_cons, List.nodup_cons] at hnd
          have hforeign : Foreign c.block.specifier :=
            (hok c.block (hsub.subset List.mem_cons_self)).foreign
          rw [componentsText_cons]
          have hscan := scanUnsignedChar_text c.count hforeign.2.2.2 (componentsText cs ++ tail)
          rw [advance_of_scan (hends _ _) hscan, readBlocks_cons]
          rw [List.map_cons] at hsub
          cases hsub with
          | cons _ hsub' =>
              -- a later block's component: this block passes it on
              have hne : c.block.specifier ≠ b.specifier := fun he =>
                hnd.1 (he ▸ List.mem_map_of_mem (hsub'.subset List.mem_cons_self))
              have hlater : advance ends (readBlocks ends bs)
                    (c.count.text ++ c.block.specifier :: (componentsText cs ++ tail)) r
                  = readBlocks ends bs _ := advance_of_scan (hends _ _) hscan
              rw [component_ne hne, ← hlater, ← componentsText_cons]
              exact ih hoks hnd.2 hsub'
          | cons_cons _ hsub' =>
              have hb := hok c.block List.mem_cons_self
              have hafter := afterChar_append (hforeign.not_mem_text c.count)
                (componentsText cs ++ tail)
              rw [countedTotal_cons, component, if_pos rfl]
              by_cases hmax : c.count.stored ≤ c.block.max
              · have hle : c.counted ≤ c.block.max.toNat * c.block.unit.toNat :=
                  Nat.mul_le_mul_right _ (UInt32.le_iff_toNat_le.mp hmax)
                have hfits := hb.fits
                have hmul : (c.count.stored * c.block.unit).toNat = c.counted := by
                  rw [UInt32.toNat_mul]
                  exact Nat.mod_eq_of_lt (Nat.lt_of_le_of_lt hle hfits)
                rw [if_neg (UInt32.not_lt.mpr hmax), hafter]
                by_cases hsum : r.toNat + c.counted < 2 ^ 32
                · have hadd : (r + c.count.stored * c.block.unit).toNat = r.toNat + c.counted := by
                    rw [UInt32.toNat_add, hmul]
                    exact Nat.mod_eq_of_lt hsum
                  rw [addUnsignedIntsWithOverflowCheck_of_lt (by rw [hmul]; exact hsum),
                    Option.bind_some, ih hoks hnd.2 hsub', hadd]
                  simp only [List.forall_mem_cons, Component.Within, hmax, true_and, Nat.add_assoc]
                · -- the sum so far does not fit, so that the whole does not either
                  have hover : addUnsignedIntsWithOverflowCheck r
                      (c.count.stored * c.block.unit) = none := by
                    have hr := r.toNat_lt
                    unfold addUnsignedIntsWithOverflowCheck
                    rw [hmul, if_pos (by omega)]
                  rw [hover, Option.bind_none, if_neg (by omega)]
              · rw [if_pos (UInt32.not_le.mp hmax), if_neg]
                intro h
                exact hmax (h.1 c List.mem_cons_self)

omit hends in
/-- **What the chain accepts is a section.** -/
theorem advance_shape {v : UInt32} :
    ∀ {bs : List Block} {text : List Char} {r : UInt32}, (∀ b ∈ bs, b.Ok) →
      advance ends (readBlocks ends bs) text r = some v →
      ∃ (cs : List Component) (tail : List Char), (cs.map Component.block).Sublist bs
        ∧ text = componentsText cs ++ tail ∧ ends tail = true := by
  intro bs
  induction bs with
  | nil =>
      intro text r _ h
      unfold advance at h
      split at h
      · rename_i hend
        exact ⟨[], text, List.Sublist.slnil, rfl, hend⟩
      · split at h <;> exact absurd h (by simp [readBlocks, fail])
  | cons b bs ih =>
      intro text r hok h
      have hoks : ∀ b' ∈ bs, b'.Ok := fun b' hb' => hok b' (List.mem_cons_of_mem _ hb')
      by_cases hend : ends text = true
      · exact ⟨[], text, List.nil_sublist _, rfl, hend⟩
      · have hend' : ends text = false := by simpa using hend
        cases hscan : scanUnsignedChar text with
        | none =>
            unfold advance at h
            rw [hend', hscan] at h
            exact absurd h (by simp)
        | some scanned =>
            obtain ⟨n, c⟩ := scanned
            rw [advance_of_scan hend' hscan, readBlocks_cons] at h
            by_cases hc : c = b.specifier
            · -- this block's component
              obtain ⟨q, rest, rfl, -⟩ := scanUnsignedChar_shape hscan
              rw [component, if_pos hc] at h
              split at h
              · exact absurd h (by simp)
              · obtain ⟨r', -, h⟩ := Option.bind_eq_some_iff.mp h
                rw [← hc, afterChar_append ((hc ▸ (hok b List.mem_cons_self).foreign).not_mem_text q)]
                  at h
                obtain ⟨cs, tail, hsub, rfl, htail⟩ := ih hoks h
                refine ⟨⟨b, q⟩ :: cs, tail, hsub.cons_cons b, ?_, htail⟩
                rw [componentsText_cons, hc]
            · have hlater : advance ends (readBlocks ends bs) text r = readBlocks ends bs _ :=
                advance_of_scan hend' hscan
              rw [component_ne hc, ← hlater] at h
              obtain ⟨cs, tail, hsub, htext, htail⟩ := ih hoks h
              exact ⟨cs, tail, hsub.cons b, htext, htail⟩

end Sections

end TimeUtils

end SecurityAgent
