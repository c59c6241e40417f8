import Mathlib.Algebra.GroupWithZero.Nat
import Mathlib.Data.List.Basic
import SecurityAgent.Lib.Separated
import SecurityAgent.Util.TimeUtils

/-!
# Printing a duration and reading it back

The printer writes a list of components, largest unit first and zero counts left
out; the reader is a chain of blocks, one for each designator in the same order.
`chain_text` is the whole of the matter: on the text of a list of components the
chain for that list returns what was there plus the components' total. It is an
induction over the list, so it serves the date and the time section alike.
-/

namespace SecurityAgent

namespace TimeUtils

/-! ## Scanning what was printed -/

/-- Where a number starts there is a digit. -/
theorem digits_cons (n : Nat) : ∃ d ds, Nat.toDigits 10 n = d :: ds ∧ d.isDigit = true := by
  cases h : Nat.toDigits 10 n with
  | nil => exact absurd h Nat.toDigits_ne_nil
  | cons d ds => exact ⟨d, ds, rfl, Separated.isDigit_toDigits (h ▸ List.mem_cons_self)⟩

theorem ne_of_isDigit {c d : Char} (hc : c.isDigit = false) (hd : d.isDigit = true) : d ≠ c :=
  fun he => by rw [he, hc] at hd; exact absurd hd (by simp)

theorem isSpace_of_isDigit {d : Char} (h : d.isDigit = true) : isSpace d = false := by
  have hne := fun c hc => ne_of_isDigit (c := c) hc h
  simp [isSpace, hne ' ' rfl, hne '\t' rfl, hne '\n' rfl, hne '\x0b' rfl, hne '\x0c' rfl,
    hne '\r' rfl]

theorem strtoul_digits (n : UInt32) :
    UInt32.ofNat (strtoul false (Nat.toDigits 10 n.toNat)) = n := by
  have hn := n.toNat_lt
  unfold strtoul
  rw [Nat.ofDigitChars_ten_toDigits]
  dsimp only
  rw [if_neg (by omega)]
  simp

theorem scanUnsignedChar_digits (n : UInt32) {c : Char} (hc : c.isDigit = false)
    (rest : List Char) :
    scanUnsignedChar (Nat.toDigits 10 n.toNat ++ c :: rest) = some (n, c) := by
  obtain ⟨d, ds, hds, hd⟩ := digits_cons n.toNat
  have hspace : (Nat.toDigits 10 n.toNat ++ c :: rest).dropWhile isSpace
      = Nat.toDigits 10 n.toNat ++ c :: rest := by
    rw [hds, List.cons_append, List.dropWhile_cons_of_neg (by simp [isSpace_of_isDigit hd])]
  have hhead : (Nat.toDigits 10 n.toNat ++ c :: rest).head? = some d := by rw [hds]; rfl
  have hminus : (some d == some '-') = false := by simpa using ne_of_isDigit rfl hd
  have hplus : (some d == some '+') = false := by simpa using ne_of_isDigit rfl hd
  have htake : (Nat.toDigits 10 n.toNat ++ c :: rest).takeWhile Char.isDigit
      = Nat.toDigits 10 n.toNat := by
    rw [List.takeWhile_append_of_pos fun _ => Separated.isDigit_toDigits,
      List.takeWhile_cons_of_neg (by simp [hc]), List.append_nil]
  have hdrop : (Nat.toDigits 10 n.toNat ++ c :: rest).dropWhile Char.isDigit = c :: rest := by
    rw [List.dropWhile_append_of_pos fun _ => Separated.isDigit_toDigits,
      List.dropWhile_cons_of_neg (by simp [hc])]
  unfold scanUnsignedChar
  simp only [hspace, hhead, hminus, hplus, Bool.or_self, Bool.false_eq_true, if_false, htake,
    hdrop, Nat.toDigits_ne_nil, strtoul_digits]

theorem afterChar_append {c : Char} {cs : List Char} (h : ∀ d ∈ cs, d ≠ c) (rest : List Char) :
    afterChar c (cs ++ c :: rest) = rest := by
  unfold afterChar
  rw [List.dropWhile_append_of_pos fun d hd => by simpa using h d hd,
    List.dropWhile_cons_of_neg (by simp)]
  rfl

theorem addUnsignedIntsWithOverflowCheck_of_lt {a b : UInt32}
    (h : a.toNat + b.toNat < 2 ^ 32) :
    addUnsignedIntsWithOverflowCheck a b = some (a + b) := if_neg (by omega)

theorem addUnsignedIntsWithOverflowCheck_eq_some {a b r : UInt32}
    (h : addUnsignedIntsWithOverflowCheck a b = some r) : r.toNat = a.toNat + b.toNat := by
  have hb := b.toNat_lt
  unfold addUnsignedIntsWithOverflowCheck at h
  split at h
  · exact absurd h (by simp)
  · obtain rfl := Option.some.inj h
    rw [UInt32.toNat_add]
    omega

/-! ## A list of components -/

/-- One component of a section: how many of which unit, and the reader's limit for it. -/
structure Part where
  specifier : Char
  max : UInt32
  unit : UInt32
  count : UInt32

/-- What the printer writes for it. -/
def Part.text (p : Part) : List Char :=
  if p.count > 0 then Nat.toDigits 10 p.count.toNat ++ [p.specifier] else []

/-- The text of a section. -/
def sectionText (ps : List Part) : List Char := ps.flatMap Part.text

/-- The milliseconds of a section. -/
def sectionTotal (ps : List Part) : Nat := (ps.map fun p => p.count.toNat * p.unit.toNat).sum

/-- The reader's blocks for a section. -/
def chain (ends : List Char → Bool) (ps : List Part) : ScanState → Option UInt32 :=
  ps.foldr (fun p next => component p.specifier p.max p.unit ends next) fail

/-- The reader accepts the count, and the designator is no digit. -/
def Part.Ok (p : Part) : Prop := p.count ≤ p.max ∧ p.specifier.isDigit = false

theorem sectionText_cons (p : Part) (ps : List Part) :
    sectionText (p :: ps) = p.text ++ sectionText ps := rfl

theorem sectionTotal_cons (p : Part) (ps : List Part) :
    sectionTotal (p :: ps) = p.count.toNat * p.unit.toNat + sectionTotal ps := by
  simp [sectionTotal]

theorem Part.text_of_zero {p : Part} (h : ¬ p.count > 0) : p.text = [] := if_neg h

theorem Part.text_of_pos {p : Part} (h : p.count > 0) :
    p.text = Nat.toDigits 10 p.count.toNat ++ [p.specifier] := if_pos h

theorem Part.count_eq_zero {p : Part} (h : ¬ p.count > 0) : p.count.toNat = 0 := by
  simpa [UInt32.lt_iff_toNat_lt] using h

/-- A section that is not empty starts with a digit. -/
theorem sectionText_head {ps : List Part} (h : sectionText ps ≠ []) (tail : List Char) :
    ∃ d ds, sectionText ps ++ tail = d :: ds ∧ d.isDigit = true := by
  induction ps with
  | nil => exact absurd rfl h
  | cons p ps ih =>
      rw [sectionText_cons] at h ⊢
      by_cases hp : p.count > 0
      · obtain ⟨d, ds, hds, hd⟩ := digits_cons p.count.toNat
        exact ⟨d, _, by rw [p.text_of_pos hp, hds]; rfl, hd⟩
      · rw [p.text_of_zero hp] at h ⊢
        exact ih h

/-- A section that is empty counts nothing. -/
theorem sectionTotal_eq_zero {ps : List Part} (h : sectionText ps = []) :
    sectionTotal ps = 0 := by
  induction ps with
  | nil => rfl
  | cons p ps ih =>
      rw [sectionText_cons, List.append_eq_nil_iff] at h
      have hp : ¬ p.count > 0 := fun hp => by
        rw [p.text_of_pos hp] at h
        exact absurd h.1 (by simp)
      rw [sectionTotal_cons, Part.count_eq_zero hp, ih h.2]
      omega

/-- The first thing the reader scans in it is its first component. -/
theorem scan_sectionText {ps : List Part} (hok : ∀ p ∈ ps, p.Ok) (h : sectionText ps ≠ [])
    (tail : List Char) :
    ∃ p ∈ ps, scanUnsignedChar (sectionText ps ++ tail) = some (p.count, p.specifier) := by
  induction ps with
  | nil => exact absurd rfl h
  | cons p ps ih =>
      rw [sectionText_cons] at h ⊢
      by_cases hp : p.count > 0
      · refine ⟨p, List.mem_cons_self, ?_⟩
        rw [p.text_of_pos hp, List.append_assoc, List.append_assoc]
        exact scanUnsignedChar_digits _ (hok p List.mem_cons_self).2 _
      · rw [p.text_of_zero hp] at h ⊢
        obtain ⟨q, hq, hscan⟩ := ih (fun q hq => hok q (List.mem_cons_of_mem _ hq)) h
        exact ⟨q, List.mem_cons_of_mem _ hq, hscan⟩

/-- One block on a component of its own: it adds and moves on. -/
theorem component_self {c : Char} {max unit n r : UInt32} {text rest : List Char}
    (ends : List Char → Bool) (next : ScanState → Option UInt32)
    (hafter : afterChar c text = rest) (hn : n ≤ max)
    (hfit : r.toNat + n.toNat * unit.toNat < 2 ^ 32) :
    ∃ v, v.toNat = r.toNat + n.toNat * unit.toNat
      ∧ component c max unit ends next ⟨text, r, n, c⟩ = advance ends next rest v := by
  have hmul : (n * unit).toNat = n.toNat * unit.toNat := by
    rw [UInt32.toNat_mul]; exact Nat.mod_eq_of_lt (by omega)
  refine ⟨r + n * unit, ?_, ?_⟩
  · rw [UInt32.toNat_add, hmul]; exact Nat.mod_eq_of_lt hfit
  · have hadd : addUnsignedIntsWithOverflowCheck r (n * unit) = some (r + n * unit) :=
      addUnsignedIntsWithOverflowCheck_of_lt (by rw [hmul]; exact hfit)
    rw [component, if_pos rfl, if_neg (UInt32.not_lt.mpr hn), hadd, Option.bind_some, hafter]

theorem advance_of_ends {ends : List Char → Bool} {next : ScanState → Option UInt32}
    {text : List Char} {r : UInt32} (h : ends text = true) :
    advance ends next text r = some r := if_pos h

theorem advance_of_scan {ends : List Char → Bool} {next : ScanState → Option UInt32}
    {text : List Char} {r temp : UInt32} {specifier : Char} (h : ends text = false)
    (hscan : scanUnsignedChar text = some (temp, specifier)) :
    advance ends next text r = next ⟨text, r, temp, specifier⟩ := by
  unfold advance
  rw [h, hscan]
  rfl

/-- A block passes on what is not its own. -/
theorem component_ne {c : Char} {max unit : UInt32} {ends : List Char → Bool}
    {next : ScanState → Option UInt32} {s : ScanState} (h : s.specifier ≠ c) :
    component c max unit ends next s = next s := if_neg h

/-- **Reading a printed section** returns what was there plus the section's total. -/
theorem chain_text (ends : List Char → Bool) {tail : List Char} (htail : ends tail = true)
    (hdigit : ∀ d ds, d.isDigit = true → ends (d :: ds) = false) :
    ∀ {ps : List Part} {r temp : UInt32} {specifier : Char}, (∀ p ∈ ps, p.Ok) →
      (ps.map Part.specifier).Nodup → r.toNat + sectionTotal ps < 2 ^ 32 →
      sectionText ps ≠ [] →
      scanUnsignedChar (sectionText ps ++ tail) = some (temp, specifier) →
      ∃ v, chain ends ps ⟨sectionText ps ++ tail, r, temp, specifier⟩ = some v
        ∧ v.toNat = r.toNat + sectionTotal ps := by
  intro ps
  induction ps with
  | nil => intro _ _ _ _ _ _ hne; exact absurd rfl hne
  | cons p ps ih =>
      intro r temp specifier hok hnd hfit hne hscan
      have hokp := hok p List.mem_cons_self
      have hoks : ∀ q ∈ ps, q.Ok := fun q hq => hok q (List.mem_cons_of_mem _ hq)
      rw [List.map_cons, List.nodup_cons] at hnd
      rw [sectionTotal_cons] at hfit ⊢
      rw [sectionText_cons] at hne hscan ⊢
      show ∃ v, component p.specifier p.max p.unit ends (chain ends ps) _ = some v ∧ _
      by_cases hp : p.count > 0
      · have htext : p.text ++ sectionText ps ++ tail
            = Nat.toDigits 10 p.count.toNat ++ p.specifier :: (sectionText ps ++ tail) := by
          rw [p.text_of_pos hp]; simp
        have hafter : afterChar p.specifier (p.text ++ sectionText ps ++ tail)
            = sectionText ps ++ tail := by
          rw [htext]
          exact afterChar_append
            (fun d hd => ne_of_isDigit hokp.2 (Separated.isDigit_toDigits hd)) _
        rw [htext, scanUnsignedChar_digits p.count hokp.2] at hscan
        obtain ⟨rfl, rfl⟩ := Prod.mk.inj (Option.some.inj hscan)
        obtain ⟨v, hv, hc⟩ := component_self ends (chain ends ps) hafter hokp.1
          (Nat.lt_of_le_of_lt (Nat.add_le_add_left (Nat.le_add_right _ _) _) hfit)
        rw [hc]
        by_cases hps : sectionText ps = []
        · -- the last component there is
          have htotal := sectionTotal_eq_zero hps
          rw [hps, List.nil_append, advance_of_ends htail]
          exact ⟨v, rfl, by omega⟩
        · obtain ⟨d, ds, hd, hdig⟩ := sectionText_head hps tail
          obtain ⟨q, _, hscan'⟩ := scan_sectionText hoks hps tail
          rw [advance_of_scan (by rw [hd]; exact hdigit d ds hdig) hscan']
          obtain ⟨w, hw, hwv⟩ := ih (r := v) hoks hnd.2 (by omega) hps hscan'
          exact ⟨w, hw, by omega⟩
      · -- not printed: the block passes the later component on
        rw [p.text_of_zero hp, List.nil_append] at hne hscan ⊢
        obtain ⟨q, hq, hscan'⟩ := scan_sectionText hoks hne tail
        rw [hscan'] at hscan
        obtain ⟨rfl, rfl⟩ := Prod.mk.inj (Option.some.inj hscan)
        have hspec : q.specifier ≠ p.specifier := fun he =>
          hnd.1 (he ▸ List.mem_map_of_mem hq)
        have hzero := Part.count_eq_zero hp
        rw [component_ne hspec]
        obtain ⟨w, hw, hwv⟩ := ih (r := r) hoks hnd.2 (by rw [hzero] at hfit; omega) hne hscan'
        exact ⟨w, hw, by rw [hzero]; omega⟩

/-! ## The two sections of a duration -/

/-- The date components the printer finds in `milisec`. -/
def dateParts (milisec : UInt32) : List Part :=
  [⟨'M', MAX_MONTHS_IN_UINT32, MILLISECONDS_IN_A_MONTH, milisec / MILLISECONDS_IN_A_MONTH⟩,
    ⟨'W', MAX_WEEKS_IN_UINT32, MILLISECONDS_IN_A_WEEK,
      milisec % MILLISECONDS_IN_A_MONTH / MILLISECONDS_IN_A_WEEK⟩,
    ⟨'D', MAX_DAYS_IN_UINT32, MILLISECONDS_IN_A_DAY,
      milisec % MILLISECONDS_IN_A_MONTH % MILLISECONDS_IN_A_WEEK / MILLISECONDS_IN_A_DAY⟩]

/-- What is left of `milisec` after the date. -/
def timeOfDay (milisec : UInt32) : UInt32 :=
  milisec % MILLISECONDS_IN_A_MONTH % MILLISECONDS_IN_A_WEEK % MILLISECONDS_IN_A_DAY

/-- The time components. -/
def timeParts (milisec : UInt32) : List Part :=
  [⟨'H', MAX_HOURS_IN_UINT32, MILLISECONDS_IN_AN_HOUR,
      timeOfDay milisec / MILLISECONDS_IN_AN_HOUR⟩,
    ⟨'M', MAX_MINUTES_IN_UINT32, MILLISECONDS_IN_A_MINUTE,
      timeOfDay milisec % MILLISECONDS_IN_AN_HOUR / MILLISECONDS_IN_A_MINUTE⟩,
    ⟨'S', MAX_SECONDS_IN_UINT32, MILLISECONDS_IN_A_SECOND,
      timeOfDay milisec % MILLISECONDS_IN_AN_HOUR % MILLISECONDS_IN_A_MINUTE
        / MILLISECONDS_IN_A_SECOND⟩]

/-- The text of a duration. -/
def durationText (milisec : UInt32) : List Char :=
  'P' :: (sectionText (dateParts milisec)
    ++ if sectionText (timeParts milisec) = [] then []
      else 'T' :: sectionText (timeParts milisec))

theorem toNat_units : MILLISECONDS_IN_A_MONTH.toNat = 2592000000
    ∧ MILLISECONDS_IN_A_WEEK.toNat = 604800000 ∧ MILLISECONDS_IN_A_DAY.toNat = 86400000
    ∧ MILLISECONDS_IN_AN_HOUR.toNat = 3600000 ∧ MILLISECONDS_IN_A_MINUTE.toNat = 60000
    ∧ MILLISECONDS_IN_A_SECOND.toNat = 1000 := by decide

theorem toNat_limits : MAX_MONTHS_IN_UINT32.toNat = 1 ∧ MAX_WEEKS_IN_UINT32.toNat = 7
    ∧ MAX_DAYS_IN_UINT32.toNat = 49 ∧ MAX_HOURS_IN_UINT32.toNat = 1193
    ∧ MAX_MINUTES_IN_UINT32.toNat = 71582 ∧ MAX_SECONDS_IN_UINT32.toNat = 4294967 := by decide

theorem dateParts_ok (milisec : UInt32) : ∀ p ∈ dateParts milisec, p.Ok := by
  have hm := milisec.toNat_lt
  obtain ⟨h1, h2, h3, _⟩ := toNat_units
  obtain ⟨l1, l2, l3, _⟩ := toNat_limits
  intro p hp
  simp only [dateParts, List.mem_cons, List.not_mem_nil, or_false] at hp
  rcases hp with rfl | rfl | rfl <;> refine ⟨?_, rfl⟩ <;>
    simp only [UInt32.le_iff_toNat_le, UInt32.toNat_div, UInt32.toNat_mod, h1, h2, h3, l1, l2,
      l3] <;> omega

theorem timeParts_ok (milisec : UInt32) : ∀ p ∈ timeParts milisec, p.Ok := by
  obtain ⟨h1, h2, h3, h4, h5, h6⟩ := toNat_units
  obtain ⟨_, _, _, l4, l5, l6⟩ := toNat_limits
  intro p hp
  simp only [timeParts, timeOfDay, List.mem_cons, List.not_mem_nil, or_false] at hp
  rcases hp with rfl | rfl | rfl <;> refine ⟨?_, rfl⟩ <;>
    simp only [UInt32.le_iff_toNat_le, UInt32.toNat_div, UInt32.toNat_mod, h1, h2, h3, h4, h5,
      h6, l4, l5, l6] <;> omega

theorem sectionTotal_nil : sectionTotal [] = 0 := rfl

/-- Together the components are the whole seconds of the duration. -/
theorem sectionTotal_parts (milisec : UInt32) :
    sectionTotal (dateParts milisec) + sectionTotal (timeParts milisec)
      = milisec.toNat - milisec.toNat % 1000 := by
  obtain ⟨h1, h2, h3, h4, h5, h6⟩ := toNat_units
  rw [dateParts, timeParts]
  simp only [sectionTotal_cons, sectionTotal_nil]
  simp only [timeOfDay, UInt32.toNat_div, UInt32.toNat_mod, h1, h2, h3, h4, h5, h6]
  omega

/-! ## The printer writes that text -/

/-- Print one component. -/
def Part.print (buffer : List Char × Nat) (p : Part) : Option (List Char × Nat) :=
  printComponent p.count p.specifier buffer

theorem Part.print_eq (p : Part) {text : List Char} {room : Nat} (h : p.text.length < room) :
    p.print (text, room) = some (text ++ p.text, room - p.text.length) := by
  unfold Part.print printComponent
  by_cases hp : p.count > 0
  · rw [p.text_of_pos hp] at h ⊢
    rw [if_pos hp, concatenateToString, if_neg (Nat.not_le.mpr h)]
  · rw [p.text_of_zero hp, if_neg hp]; simp

/-- A section that fits is printed whole. -/
theorem print_section {ps : List Part} :
    ∀ {text : List Char} {room : Nat}, (sectionText ps).length < room →
      ps.foldlM Part.print (text, room)
        = some (text ++ sectionText ps, room - (sectionText ps).length) := by
  induction ps with
  | nil => intro text room _; simp [sectionText]
  | cons p ps ih =>
      intro text room h
      rw [sectionText_cons, List.length_append] at h ⊢
      rw [List.foldlM_cons, p.print_eq (by omega), Option.bind_eq_bind, Option.bind_some,
        ih (by omega), List.append_assoc, Nat.sub_sub]

theorem Part.length_text {p : Part} (k : Nat) (hk : 0 < k) (h : p.count.toNat < 10 ^ k) :
    p.text.length ≤ k + 1 := by
  unfold Part.text
  split
  · have := (Nat.length_toDigits_le_iff (by decide) hk).mpr h
    simpa using this
  · exact Nat.zero_le _

/-- The time section is printed where there is one. -/
theorem sectionText_timeParts (milisec : UInt32) :
    sectionText (timeParts milisec) = []
      ↔ ¬ (timeOfDay milisec / MILLISECONDS_IN_AN_HOUR > 0
        ∨ timeOfDay milisec % MILLISECONDS_IN_AN_HOUR / MILLISECONDS_IN_A_MINUTE > 0
        ∨ timeOfDay milisec % MILLISECONDS_IN_AN_HOUR % MILLISECONDS_IN_A_MINUTE
          / MILLISECONDS_IN_A_SECOND > 0) := by
  simp only [sectionText, timeParts, List.flatMap_cons, List.flatMap_nil, List.append_nil,
    List.append_eq_nil_iff, Part.text, not_or]
  constructor
  · rintro ⟨h1, h2, h3⟩
    refine ⟨fun h => ?_, fun h => ?_, fun h => ?_⟩
    · rw [if_pos h] at h1; exact absurd h1 (by simp)
    · rw [if_pos h] at h2; exact absurd h2 (by simp)
    · rw [if_pos h] at h3; exact absurd h3 (by simp)
  · rintro ⟨h1, h2, h3⟩
    exact ⟨if_neg h1, if_neg h2, if_neg h3⟩

/-- A date takes six characters at most and a time nine: the smallest buffer the printer
accepts is never too short. -/
theorem length_sections (milisec : UInt32) :
    (sectionText (dateParts milisec)).length ≤ 6
      ∧ (sectionText (timeParts milisec)).length ≤ 9 := by
  have hm := milisec.toNat_lt
  obtain ⟨h1, h2, h3, h4, h5, h6⟩ := toNat_units
  have hsum : ∀ p q r : Part, ∀ k, 0 < k → p.count.toNat < 10 ^ k → q.count.toNat < 10 ^ k →
      r.count.toNat < 10 ^ k → (sectionText [p, q, r]).length ≤ 3 * (k + 1) := by
    intro p q r k hk hp hq hr
    have := Part.length_text k hk hp
    have := Part.length_text k hk hq
    have := Part.length_text k hk hr
    simp only [sectionText, List.flatMap_cons, List.flatMap_nil, List.length_append,
      List.length_nil]
    omega
  constructor
  · refine hsum _ _ _ 1 (by decide) ?_ ?_ ?_ <;>
      simp only [UInt32.toNat_div, UInt32.toNat_mod, h1, h2, h3] <;> omega
  · refine hsum _ _ _ 2 (by decide) ?_ ?_ ?_ <;>
      simp only [timeOfDay, UInt32.toNat_div, UInt32.toNat_mod, h1, h2, h3, h4, h5, h6] <;> omega

/-- The text of a duration leaves room in the smallest buffer for its end. -/
theorem length_durationText (milisec : UInt32) :
    (durationText milisec).length < DURATION_MAX_LENGTH := by
  obtain ⟨hdate, htime⟩ := length_sections milisec
  show _ < 19
  unfold durationText
  split_ifs <;> simp only [List.length_cons, List.length_append, List.length_nil] <;> omega

/-- **The printer prints the components.** -/
theorem millisecondsToISO8601DurationString_eq {milisec : UInt32} {len : Nat}
    (hms : MILLISECONDS_IN_A_SECOND ≤ milisec) (hlen : DURATION_MAX_LENGTH ≤ len) :
    millisecondsToISO8601DurationString milisec len = some (durationText milisec) := by
  obtain ⟨hdate, htime⟩ := length_sections milisec
  have hroom : 19 ≤ len := hlen
  have hP : concatenateToString ([], len) ['P'] = some (['P'], len - 1) :=
    if_neg (by simp only [List.length_singleton]; omega)
  have hshape : millisecondsToISO8601DurationString milisec len
      = (concatenateToString ([], len) ['P']).bind fun buffer =>
          ((dateParts milisec).foldlM Part.print buffer).bind fun buffer =>
            if sectionText (timeParts milisec) = [] then some buffer.1
            else ((timeParts milisec).foldlM Part.print (buffer.1 ++ ['T'], buffer.2)).bind
              fun buffer => some buffer.1 := by
    unfold millisecondsToISO8601DurationString
    rw [if_neg (UInt32.not_lt.mpr hms), if_neg (Nat.not_lt.mpr hlen)]
    simp only [sectionText_timeParts, ite_not]
    simp only [dateParts, timeParts, timeOfDay, List.foldlM_cons, List.foldlM_nil, Part.print,
      Option.bind_eq_bind, Option.pure_def, Option.bind_assoc, Option.bind_some]
  rw [hshape, hP, Option.bind_some, print_section (by omega), Option.bind_some, durationText]
  split
  · simp
  · rw [print_section (by omega)]
    simp

/-! ## The reader reads it back -/

theorem timeEnds_digit {d : Char} {ds : List Char} (_ : d.isDigit = true) :
    timeEnds (d :: ds) = false := rfl

theorem dateEnds_digit {d : Char} {ds : List Char} (h : d.isDigit = true) :
    dateEnds (d :: ds) = false := by
  have := ne_of_isDigit (c := 'T') rfl h
  simp [dateEnds, this]

/-- From a zero result the block of the months is like every other. -/
theorem monthComponent_zero {ends : List Char → Bool} {next : ScanState → Option UInt32}
    {s : ScanState} (h : s.result = 0) :
    monthComponent ends next s
      = component 'M' MAX_MONTHS_IN_UINT32 MILLISECONDS_IN_A_MONTH ends next s := by
  have hlt := (s.temp * MILLISECONDS_IN_A_MONTH).toNat_lt
  have hadd : addUnsignedIntsWithOverflowCheck 0 (s.temp * MILLISECONDS_IN_A_MONTH)
      = some (s.temp * MILLISECONDS_IN_A_MONTH) := by
    rw [addUnsignedIntsWithOverflowCheck_of_lt (by rw [UInt32.toNat_zero]; omega),
      UInt32.zero_add]
  unfold monthComponent component
  rw [h, hadd]
  simp only [Option.bind_some]

theorem parseDateString_text {milisec : UInt32} (tail : List Char)
    (hne : sectionText (dateParts milisec) ≠ []) (htail : dateEnds tail = true) :
    ∃ v, parseDateString (sectionText (dateParts milisec) ++ tail) = some v
      ∧ v.toNat = sectionTotal (dateParts milisec) := by
  have hm := milisec.toNat_lt
  have hsum := sectionTotal_parts milisec
  obtain ⟨p, hp, hscan⟩ := scan_sectionText (dateParts_ok milisec) hne tail
  obtain ⟨v, hv, hval⟩ := chain_text (r := 0) dateEnds htail (fun _ _ => dateEnds_digit)
    (dateParts_ok milisec) (by simp [dateParts]) (by simp only [UInt32.toNat_zero]; omega) hne
    hscan
  refine ⟨v, ?_, by simpa using hval⟩
  have hY : p.specifier ≠ 'Y' := by
    simp only [dateParts, List.mem_cons, List.not_mem_nil, or_false] at hp
    rcases hp with rfl | rfl | rfl <;> simp
  unfold parseDateString
  rw [hscan]
  dsimp only
  rw [yearComponent, if_neg hY, monthComponent_zero rfl]
  exact hv

theorem parseTimeString_text {milisec : UInt32} (hne : sectionText (timeParts milisec) ≠ []) :
    ∃ v, parseTimeString (sectionText (timeParts milisec)) = some v
      ∧ v.toNat = sectionTotal (timeParts milisec) := by
  have hm := milisec.toNat_lt
  have hsum := sectionTotal_parts milisec
  obtain ⟨p, hp, hscan⟩ := scan_sectionText (timeParts_ok milisec) hne []
  obtain ⟨v, hv, hval⟩ := chain_text (r := 0) timeEnds rfl
    (fun _ _ => timeEnds_digit) (timeParts_ok milisec) (by simp [timeParts])
    (by simp only [UInt32.toNat_zero]; omega) hne hscan
  rw [List.append_nil] at hscan hv
  refine ⟨v, ?_, by simpa using hval⟩
  unfold parseTimeString
  rw [hscan]
  exact hv

/-- A section is made of digits and of its designators. -/
theorem mem_sectionText {ps : List Part} {c : Char} (h : c ∈ sectionText ps) :
    c.isDigit = true ∨ c ∈ ps.map Part.specifier := by
  obtain ⟨p, hp, hc⟩ := List.mem_flatMap.mp h
  unfold Part.text at hc
  split at hc
  · rcases List.mem_append.mp hc with hd | hs
    · exact Or.inl (Separated.isDigit_toDigits hd)
    · exact Or.inr (List.mem_singleton.mp hs ▸ List.mem_map_of_mem hp)
  · exact absurd hc (by simp)

theorem not_mem_dateText {milisec : UInt32} : 'T' ∉ sectionText (dateParts milisec) := by
  intro h
  rcases mem_sectionText h with hd | hs
  · exact absurd hd (by decide)
  · exact absurd hs (by simp [dateParts])

/-- What the reader makes of its two sections. -/
theorem iso8601DurationString_of_sections {dateString : List Char} {a b r : UInt32}
    (hdate : dateSection dateString = some a) (htime : timeSection ('P' :: dateString) = some b)
    (hadd : addUnsignedIntsWithOverflowCheck a b = some r) (hr : r ≠ 0) :
    iso8601DurationStringToMilliseconds ('P' :: dateString) = some r := by
  unfold iso8601DurationStringToMilliseconds
  rw [if_pos List.head?_cons]
  simp only [List.tail_cons, hdate, htime, Option.bind_eq_bind, Option.bind_some, hadd,
    if_neg hr]

/-- A date that was printed is read by `parseDateString`. -/
theorem dateSection_text {milisec : UInt32} (tail : List Char)
    (h : sectionText (dateParts milisec) ≠ []) :
    dateSection (sectionText (dateParts milisec) ++ tail)
      = parseDateString (sectionText (dateParts milisec) ++ tail) := by
  obtain ⟨d, ds, hds, hd⟩ := sectionText_head h tail
  rw [hds]
  exact if_neg fun he => ne_of_isDigit (c := 'T') rfl hd (Option.some.inj he)

/--
**Printing a duration and reading it back** rounds it down to whole seconds.
-/
theorem duration_read_print {milisec : UInt32} (hms : MILLISECONDS_IN_A_SECOND ≤ milisec) :
    ∃ v, iso8601DurationStringToMilliseconds (durationText milisec) = some v
      ∧ v.toNat = milisec.toNat - milisec.toNat % 1000 := by
  have hm := milisec.toNat_lt
  have hsum := sectionTotal_parts milisec
  have hms' : 1000 ≤ milisec.toNat := UInt32.le_iff_toNat_le.mp hms
  -- the two sections are added, and are not both zero
  have hread : ∀ (dateString : List Char) (a b : UInt32), dateSection dateString = some a →
      timeSection ('P' :: dateString) = some b → a.toNat = sectionTotal (dateParts milisec) →
      b.toNat = sectionTotal (timeParts milisec) →
      ∃ v, iso8601DurationStringToMilliseconds ('P' :: dateString) = some v
        ∧ v.toNat = milisec.toNat - milisec.toNat % 1000 := by
    intro dateString a b hdate htime ha hb
    have hfit : a.toNat + b.toNat < 2 ^ 32 := by omega
    have hval : (a + b).toNat = milisec.toNat - milisec.toNat % 1000 := by
      rw [UInt32.toNat_add, Nat.mod_eq_of_lt hfit, ha, hb, hsum]
    refine ⟨a + b, iso8601DurationString_of_sections hdate htime
      (addUnsignedIntsWithOverflowCheck_of_lt hfit) fun h0 => ?_, hval⟩
    rw [h0, UInt32.toNat_zero] at hval
    omega
  have hT : ∀ c ∈ 'P' :: sectionText (dateParts milisec), c ≠ 'T' := by
    intro c hc he
    rcases List.mem_cons.mp hc with hp | hd
    · exact absurd (he.symm.trans hp) (by decide)
    · exact not_mem_dateText (he ▸ hd)
  unfold durationText
  by_cases htime : sectionText (timeParts milisec) = []
  · -- a date alone
    have hdate : sectionText (dateParts milisec) ≠ [] := fun h => by
      rw [sectionTotal_eq_zero h, sectionTotal_eq_zero htime] at hsum
      omega
    rw [if_pos htime]
    obtain ⟨a, ha, hval⟩ := parseDateString_text [] hdate rfl
    refine hread _ a 0 ((dateSection_text [] hdate).trans ha) (if_neg fun h => ?_) hval
      (sectionTotal_eq_zero htime).symm
    rw [List.append_nil] at h
    exact hT 'T' h rfl
  · rw [if_neg htime]
    obtain ⟨b, hb, hbval⟩ := parseTimeString_text htime
    have hafter : timeSection ('P' :: (sectionText (dateParts milisec)
        ++ 'T' :: sectionText (timeParts milisec))) = some b := by
      rw [timeSection, if_pos (by simp), ← List.cons_append, afterChar_append hT, hb]
    by_cases hdate : sectionText (dateParts milisec) = []
    · refine hread _ 0 b ?_ hafter (sectionTotal_eq_zero hdate).symm hbval
      rw [hdate, List.nil_append]
      rfl
    · obtain ⟨a, ha, haval⟩ :=
        parseDateString_text ('T' :: sectionText (timeParts milisec)) hdate rfl
      exact hread _ a b ((dateSection_text _ hdate).trans ha) hafter haval hbval

/--
**Printing is inverted by reading**, down to whole seconds, and the text with its end takes no more
than the smallest buffer.
-/
theorem printed_duration_is_read (milisec : UInt32) (len : Nat)
    (hms : 1000 ≤ milisec.toNat) (hlen : 19 ≤ len) :
    ∃ (text : List Char) (v : UInt32), millisecondsToISO8601DurationString milisec len = some text
      ∧ text.length + 1 ≤ 19
      ∧ iso8601DurationStringToMilliseconds text = some v
      ∧ v.toNat = milisec.toNat - milisec.toNat % 1000 := by
  have hsecond : MILLISECONDS_IN_A_SECOND ≤ milisec := UInt32.le_iff_toNat_le.mpr hms
  obtain ⟨v, hread, hv⟩ := duration_read_print hsecond
  have hprint := millisecondsToISO8601DurationString_eq hsecond hlen
  exact ⟨durationText milisec, v, hprint, length_durationText milisec, hread, hv⟩

theorem printed_duration_is_read_max :
    ∃ (text : List Char) (v : UInt32), millisecondsToISO8601DurationString 4294967295 19 = some text
      ∧ text.length + 1 ≤ 19
      ∧ iso8601DurationStringToMilliseconds text = some v
      ∧ v.toNat = (4294967295 : UInt32).toNat - (4294967295 : UInt32).toNat % 1000 :=
  printed_duration_is_read 4294967295 19 (by decide) (by decide)

/-! ## What can be read -/

/-- Started on whole seconds, it returns whole seconds. -/
def WholeSeconds (f : ScanState → Option UInt32) : Prop :=
  ∀ s v, s.result.toNat % 1000 = 0 → f s = some v → v.toNat % 1000 = 0

theorem advance_wholeSeconds {ends : List Char → Bool} {next : ScanState → Option UInt32}
    (hnext : WholeSeconds next) {text : List Char} {r v : UInt32} (hr : r.toNat % 1000 = 0)
    (h : advance ends next text r = some v) : v.toNat % 1000 = 0 := by
  unfold advance at h
  split at h
  · obtain rfl := Option.some.inj h; exact hr
  · split at h
    · exact absurd h (by simp)
    · exact hnext _ _ hr h

/-- Within the reader's limit a product of counts and seconds does not wrap. -/
theorem mul_wholeSeconds {n max unit : UInt32} (hn : ¬ n > max) (hunit : unit.toNat % 1000 = 0)
    (hmax : max.toNat * unit.toNat < 2 ^ 32) : (n * unit).toNat % 1000 = 0 := by
  have hle : n.toNat ≤ max.toNat := UInt32.le_iff_toNat_le.mp (UInt32.not_lt.mp hn)
  have hlt : n.toNat * unit.toNat < 2 ^ 32 :=
    Nat.lt_of_le_of_lt (Nat.mul_le_mul_right _ hle) hmax
  rw [UInt32.toNat_mul, Nat.mod_eq_of_lt hlt, Nat.mul_mod, hunit, Nat.mul_zero, Nat.zero_mod]

theorem component_wholeSeconds {c : Char} {max unit : UInt32} {ends : List Char → Bool}
    {next : ScanState → Option UInt32} (hnext : WholeSeconds next)
    (hunit : unit.toNat % 1000 = 0) (hmax : max.toNat * unit.toNat < 2 ^ 32) :
    WholeSeconds (component c max unit ends next) := by
  intro s v hs h
  unfold component at h
  split at h
  · split at h
    · exact absurd h (by simp)
    · rename_i hn
      obtain ⟨r, hr, hadv⟩ := Option.bind_eq_some_iff.mp h
      refine advance_wholeSeconds hnext ?_ hadv
      rw [addUnsignedIntsWithOverflowCheck_eq_some hr, Nat.add_mod, hs,
        mul_wholeSeconds hn hunit hmax]
  · exact hnext s v hs h

theorem yearComponent_wholeSeconds {ends : List Char → Bool} {next : ScanState → Option UInt32}
    (hnext : WholeSeconds next) : WholeSeconds (yearComponent ends next) := by
  intro s v hs h
  unfold yearComponent at h
  split at h
  · split at h
    · exact absurd h (by simp)
    · exact advance_wholeSeconds hnext hs h
  · exact hnext s v hs h

theorem monthComponent_wholeSeconds {ends : List Char → Bool} {next : ScanState → Option UInt32}
    (hnext : WholeSeconds next) : WholeSeconds (monthComponent ends next) := by
  intro s v hs h
  unfold monthComponent at h
  split at h
  · split at h
    · exact absurd h (by simp)
    · rename_i hn
      exact advance_wholeSeconds hnext (mul_wholeSeconds hn (by decide) (by decide)) h
  · exact hnext s v hs h

theorem fail_wholeSeconds : WholeSeconds fail := fun _ _ _ h => absurd h (by simp [fail])

theorem dateSection_wholeSeconds {dateString : List Char} {v : UInt32}
    (h : dateSection dateString = some v) : v.toNat % 1000 = 0 := by
  unfold dateSection at h
  split at h
  · obtain rfl := Option.some.inj h; rfl
  · unfold parseDateString at h
    split at h
    · exact absurd h (by simp)
    · refine yearComponent_wholeSeconds (monthComponent_wholeSeconds ?_) _ v rfl h
      exact component_wholeSeconds (component_wholeSeconds fail_wholeSeconds (by decide)
        (by decide)) (by decide) (by decide)

theorem timeSection_wholeSeconds {duration : List Char} {v : UInt32}
    (h : timeSection duration = some v) : v.toNat % 1000 = 0 := by
  unfold timeSection at h
  split at h
  · unfold parseTimeString at h
    split at h
    · exact absurd h (by simp)
    · refine component_wholeSeconds (component_wholeSeconds (component_wholeSeconds
        fail_wholeSeconds ?_ ?_) ?_ ?_) ?_ ?_ _ v rfl h <;> decide
  · obtain rfl := Option.some.inj h; rfl

/-- **What is read is a positive number of whole seconds.** -/
theorem iso8601DurationString_wholeSeconds {duration : List Char} {v : UInt32}
    (h : iso8601DurationStringToMilliseconds duration = some v) :
    v.toNat % 1000 = 0 ∧ MILLISECONDS_IN_A_SECOND ≤ v := by
  unfold iso8601DurationStringToMilliseconds at h
  split at h
  · obtain ⟨a, ha, h⟩ := Option.bind_eq_some_iff.mp h
    obtain ⟨b, hb, h⟩ := Option.bind_eq_some_iff.mp h
    obtain ⟨r, hr, h⟩ := Option.bind_eq_some_iff.mp h
    split at h
    · exact absurd h (by simp)
    · rename_i h0
      obtain rfl := Option.some.inj h
      have hmod : r.toNat % 1000 = 0 := by
        rw [addUnsignedIntsWithOverflowCheck_eq_some hr, Nat.add_mod,
          dateSection_wholeSeconds ha, timeSection_wholeSeconds hb]
      have hpos : r.toNat ≠ 0 := fun he => h0 (UInt32.toNat_inj.mp he)
      refine ⟨hmod, UInt32.le_iff_toNat_le.mpr ?_⟩
      show 1000 ≤ r.toNat
      omega
  · exact absurd h (by simp)

/-- A whole number of seconds is printed and read back as it is. -/
theorem duration_round_trip {milisec : UInt32} (hmod : milisec.toNat % 1000 = 0)
    (hms : MILLISECONDS_IN_A_SECOND ≤ milisec) :
    millisecondsToISO8601DurationString milisec DURATION_MAX_LENGTH = some (durationText milisec)
      ∧ iso8601DurationStringToMilliseconds (durationText milisec) = some milisec := by
  obtain ⟨v, hv, hval⟩ := duration_read_print hms
  refine ⟨millisecondsToISO8601DurationString_eq hms (Nat.le_refl _), ?_⟩
  rw [hv, UInt32.toNat_inj.mp (hval.trans (by rw [hmod]; rfl))]

end TimeUtils

end SecurityAgent
