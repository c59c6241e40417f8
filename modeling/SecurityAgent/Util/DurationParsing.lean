import SecurityAgent.Util.DurationGrammar

/-!
# What the duration reader accepts and what it makes of it

A duration text is a date section and a time section with at least one component
between them. `read_text` gives the reader's result on every such text, with whatever
blanks and signs `%u` lets pass, and `read_shape` says that there is no other text it
accepts. What the format says of a duration is `expected`, the sum of its components when
32 bits hold it; the reader differs where `%u` loses what it reads (a count of `2 ^ 32` or
more) and in the years, which it checks and does not count.
-/

namespace SecurityAgent

namespace TimeUtils

/-! ## The two sections -/

def dateBlocks : List Block :=
  [⟨'Y', MAX_YEARS_IN_UINT32, 0, 365 * 86400000⟩,
    ⟨'M', MAX_MONTHS_IN_UINT32, MILLISECONDS_IN_A_MONTH, 30 * 86400000⟩,
    ⟨'W', MAX_WEEKS_IN_UINT32, MILLISECONDS_IN_A_WEEK, 7 * 86400000⟩,
    ⟨'D', MAX_DAYS_IN_UINT32, MILLISECONDS_IN_A_DAY, 86400000⟩]

def timeBlocks : List Block :=
  [⟨'H', MAX_HOURS_IN_UINT32, MILLISECONDS_IN_AN_HOUR, 3600000⟩,
    ⟨'M', MAX_MINUTES_IN_UINT32, MILLISECONDS_IN_A_MINUTE, 60000⟩,
    ⟨'S', MAX_SECONDS_IN_UINT32, MILLISECONDS_IN_A_SECOND, 1000⟩]

theorem dateBlocks_ok : ∀ b ∈ dateBlocks, b.Ok := by
  intro b hb
  simp only [dateBlocks, List.mem_cons, List.not_mem_nil, or_false] at hb
  rcases hb with rfl | rfl | rfl | rfl <;> exact ⟨by decide, by decide⟩

theorem timeBlocks_ok : ∀ b ∈ timeBlocks, b.Ok := by
  intro b hb
  simp only [timeBlocks, List.mem_cons, List.not_mem_nil, or_false] at hb
  rcases hb with rfl | rfl | rfl <;> exact ⟨by decide, by decide⟩

/-- From a zero result the block of the years adds nothing, and goes on from zero. -/
theorem yearComponent_zero {ends : List Char → Bool} {next next' : ScanState → Option UInt32}
    (hnext : ∀ s : ScanState, s.result = 0 → next s = next' s) {s : ScanState}
    (h : s.result = 0) :
    yearComponent ends next s = component 'Y' MAX_YEARS_IN_UINT32 0 ends next' s := by
  have hadd : addUnsignedIntsWithOverflowCheck 0 (s.temp * 0) = some 0 := by
    rw [UInt32.mul_zero]
    rfl
  have hadvance : ∀ text, advance ends next text 0 = advance ends next' text 0 := by
    intro text
    unfold advance
    split
    · rfl
    · split
      · rfl
      · exact hnext _ rfl
  unfold yearComponent component
  rw [h, hadd, Option.bind_some, hadvance, hnext s h]

/-- A date, if it is there, is read by the chain of its blocks. -/
theorem dateSection_eq (s : List Char) :
    dateSection s
      = if s = [] then none else advance dateEnds (readBlocks dateEnds dateBlocks) s 0 := by
  by_cases hnil : s = []
  · rw [if_pos hnil, hnil]
    rfl
  · rw [if_neg hnil]
    by_cases hT : s.head? = some 'T'
    · have hends : dateEnds s = true := by simp [dateEnds, hT]
      rw [advance_of_ends hends]
      exact if_pos hT
    · have hends : dateEnds s = false := by
        obtain ⟨c, cs, rfl⟩ := List.exists_cons_of_ne_nil hnil
        have hc : c ≠ 'T' := fun h => hT (by rw [h]; rfl)
        simp [dateEnds, hc]
      show (if s.head? = some 'T' then some 0 else parseDateString s) = _
      rw [if_neg hT]
      unfold parseDateString advance
      rw [hends]
      cases scanUnsignedChar s with
      | none => rfl
      | some scanned => exact yearComponent_zero (fun _ => monthComponent_zero) rfl

theorem parseTimeString_eq (s : List Char) :
    parseTimeString s
      = if s = [] then none else advance timeEnds (readBlocks timeEnds timeBlocks) s 0 := by
  cases s with
  | nil => rfl
  | cons c cs =>
      rw [if_neg (by simp)]
      unfold parseTimeString advance
      cases scanUnsignedChar (c :: cs) with
      | none => rfl
      | some scanned => rfl

/-! ## Durations -/

/-- The text of a duration, taken apart. -/
structure DurationText where
  date : List Component
  /-- What stands after the `T`, if there is one. -/
  time : Option (List Component)
  date_sublist : (date.map Component.block).Sublist dateBlocks
  time_sublist : ∀ cs ∈ time, cs ≠ [] ∧ (cs.map Component.block).Sublist timeBlocks
  some_component : date ≠ [] ∨ time ≠ none

namespace DurationText

/-- From the `T` on. -/
def timeText (d : DurationText) : List Char :=
  match d.time with
  | none => []
  | some cs => 'T' :: componentsText cs

def text (d : DurationText) : List Char := 'P' :: (componentsText d.date ++ d.timeText)

def components (d : DurationText) : List Component := d.date ++ d.time.getD []

/-- Well formed: its counts are digits and nothing else. -/
def Plain (d : DurationText) : Prop := ∀ c ∈ d.components, c.count.Plain

instance (d : DurationText) : Decidable d.Plain :=
  inferInstanceAs (Decidable (∀ c ∈ d.components, c.count.Plain))

/-- The sum of its components. -/
def amount (d : DurationText) : Nat := amountTotal d.components

/-- The sum the reader takes: of the counts as they are stored, the years left out. -/
def counted (d : DurationText) : Nat := countedTotal d.components

/-- The reader's limits are kept, and its sum is not zero and fits. -/
def Accepted (d : DurationText) : Prop :=
  (∀ c ∈ d.components, c.Within) ∧ 0 < d.counted ∧ d.counted < 2 ^ 32

instance (d : DurationText) : Decidable d.Accepted := inferInstanceAs (Decidable (_ ∧ _))

/-- What a duration is to be read as. -/
def expected (d : DurationText) : Option UInt32 :=
  if 1 ≤ d.amount ∧ d.amount ≤ 2 ^ 32 - 1 then some (UInt32.ofNat d.amount) else none

end DurationText

/-! ## No section has a `T` in it -/

theorem not_mem_componentsText {cs : List Component} {bs : List Block} {c : Char}
    (hsub : (cs.map Component.block).Sublist bs) (hforeign : Foreign c)
    (hc : ∀ b ∈ bs, b.specifier ≠ c) : ∀ d ∈ componentsText cs, d ≠ c := by
  intro d hd
  obtain ⟨comp, hcomp, hd⟩ := List.mem_flatMap.mp hd
  rcases List.mem_append.mp hd with hcount | hspec
  · exact hforeign.not_mem_text comp.count d hcount
  · rw [List.mem_singleton.mp hspec]
    exact hc _ (hsub.subset (List.mem_map_of_mem hcomp))

theorem T_not_mem_date {cs : List Component} (hsub : (cs.map Component.block).Sublist dateBlocks) :
    ∀ d ∈ 'P' :: componentsText cs, d ≠ 'T' := by
  rw [List.forall_mem_cons]
  exact ⟨by decide, not_mem_componentsText hsub (by decide) (by decide)⟩

/-- What stands after the date is nothing or begins with a `T`. -/
theorem dateEnds_cases {tail : List Char} (h : dateEnds tail = true) :
    tail = [] ∨ ∃ rest, tail = 'T' :: rest := by
  cases tail with
  | nil => exact Or.inl rfl
  | cons c cs =>
      have hc : c = 'T' := by simpa [dateEnds] using h
      exact Or.inr ⟨cs, by rw [hc]⟩

theorem componentsText_eq_nil {cs : List Component} (h : componentsText cs = []) : cs = [] := by
  cases cs with
  | nil => rfl
  | cons c cs =>
      have hcons := componentsText_cons c cs []
      rw [List.append_nil, h] at hcons
      exact absurd hcons.symm (by simp)

theorem countedTotal_append (cs cs' : List Component) :
    countedTotal (cs ++ cs') = countedTotal cs + countedTotal cs' := by
  simp [countedTotal]

/-! ## What the reader makes of a duration -/

/-- The result of a section, as the chain gives it. -/
def sectionResult (cs : List Component) : Option UInt32 :=
  if (∀ c ∈ cs, c.Within) ∧ countedTotal cs < 2 ^ 32 then some (UInt32.ofNat (countedTotal cs))
  else none

theorem advance_date {cs : List Component} {tail : List Char} (htail : dateEnds tail = true)
    (hsub : (cs.map Component.block).Sublist dateBlocks) :
    advance dateEnds (readBlocks dateEnds dateBlocks) (componentsText cs ++ tail) 0
      = sectionResult cs := by
  rw [advance_text Count.not_dateEnds htail dateBlocks_ok (by decide) hsub]
  simp only [UInt32.toNat_zero, Nat.zero_add]
  rfl

theorem advance_time {cs : List Component}
    (hsub : (cs.map Component.block).Sublist timeBlocks) :
    advance timeEnds (readBlocks timeEnds timeBlocks) (componentsText cs) 0
      = sectionResult cs := by
  have htail : timeEnds [] = true := rfl
  have htext := advance_text Count.not_timeEnds htail (r := 0) timeBlocks_ok (by decide) hsub
  rw [List.append_nil] at htext
  rw [htext]
  simp only [UInt32.toNat_zero, Nat.zero_add]
  rfl

/-- The end of the reader: the two results are added, and zero is refused. -/
theorem sum_sections (cs cs' : List Component) :
    ((sectionResult cs).bind fun a => (sectionResult cs').bind fun b =>
        (addUnsignedIntsWithOverflowCheck a b).bind fun r => if r = 0 then none else some r)
      = if (∀ c ∈ cs ++ cs', c.Within) ∧ 0 < countedTotal (cs ++ cs')
            ∧ countedTotal (cs ++ cs') < 2 ^ 32 then
          some (UInt32.ofNat (countedTotal (cs ++ cs')))
        else none := by
  rw [countedTotal_append]
  unfold sectionResult
  by_cases hA : (∀ c ∈ cs, c.Within) ∧ countedTotal cs < 2 ^ 32
  · rw [if_pos hA, Option.bind_some]
    by_cases hB : (∀ c ∈ cs', c.Within) ∧ countedTotal cs' < 2 ^ 32
    · have ha : (UInt32.ofNat (countedTotal cs)).toNat = countedTotal cs :=
        UInt32.toNat_ofNat_of_lt' hA.2
      have hb : (UInt32.ofNat (countedTotal cs')).toNat = countedTotal cs' :=
        UInt32.toNat_ofNat_of_lt' hB.2
      rw [if_pos hB, Option.bind_some]
      by_cases hsum : countedTotal cs + countedTotal cs' < 2 ^ 32
      · rw [addUnsignedIntsWithOverflowCheck_of_lt (by rw [ha, hb]; exact hsum), Option.bind_some,
          ← UInt32.ofNat_add]
        have hzero : UInt32.ofNat (countedTotal cs + countedTotal cs') = 0
            ↔ countedTotal cs + countedTotal cs' = 0 := by
          rw [← UInt32.toNat_inj, UInt32.toNat_ofNat_of_lt' hsum]
          rfl
        by_cases hpos : 0 < countedTotal cs + countedTotal cs'
        · rw [if_neg (fun h => absurd (hzero.mp h) (by omega)),
            if_pos ⟨List.forall_mem_append.mpr ⟨hA.1, hB.1⟩, hpos, hsum⟩]
        · rw [if_pos (hzero.mpr (by omega)), if_neg (fun h => hpos h.2.1)]
      · have hover : addUnsignedIntsWithOverflowCheck (UInt32.ofNat (countedTotal cs))
            (UInt32.ofNat (countedTotal cs')) = none := by
          unfold addUnsignedIntsWithOverflowCheck
          rw [ha, hb, if_pos (by omega)]
        rw [hover, Option.bind_none, if_neg (fun h => hsum h.2.2)]
    · rw [if_neg hB, Option.bind_none, if_neg]
      intro h
      exact hB ⟨(List.forall_mem_append.mp h.1).2, by omega⟩
  · rw [if_neg hA, Option.bind_none, if_neg]
    intro h
    exact hA ⟨(List.forall_mem_append.mp h.1).1, by omega⟩

/-- **What is read of a duration text**: the sum of its counts as they are stored. -/
theorem read_text (d : DurationText) :
    iso8601DurationStringToMilliseconds d.text
      = if d.Accepted then some (UInt32.ofNat d.counted) else none := by
  have hread : iso8601DurationStringToMilliseconds d.text
      = (dateSection (componentsText d.date ++ d.timeText)).bind fun a =>
          (timeSection d.text).bind fun b =>
            (addUnsignedIntsWithOverflowCheck a b).bind fun r =>
              if r = 0 then none else some r := rfl
  have hsum := sum_sections d.date (d.time.getD [])
  obtain ⟨date, time, hdate, htime, hsome⟩ := d
  cases time with
  | none =>
      -- a date alone
      have hne : date ≠ [] := hsome.resolve_right (by simp)
      have hsection : dateSection (componentsText date ++ []) = sectionResult date := by
        rw [dateSection_eq, if_neg, advance_date rfl hdate]
        intro h
        rw [List.append_nil] at h
        exact hne (componentsText_eq_nil h)
      have hnotime : timeSection ('P' :: (componentsText date ++ [])) = sectionResult [] := by
        rw [List.append_nil]
        exact if_neg fun h => T_not_mem_date hdate 'T' h rfl
      rw [hread]
      show (dateSection (componentsText date ++ [])).bind _ = _
      rw [hsection]
      refine Eq.trans ?_ hsum
      show (sectionResult date).bind (fun a =>
        (timeSection ('P' :: (componentsText date ++ []))).bind _) = _
      rw [hnotime]
      rfl
  | some cs =>
      obtain ⟨hne, hsub⟩ := htime cs rfl
      have hsection : dateSection (componentsText date ++ 'T' :: componentsText cs)
          = sectionResult date := by
        rw [dateSection_eq, if_neg (by simp), advance_date rfl hdate]
      have hafter : afterChar 'T' ('P' :: (componentsText date ++ 'T' :: componentsText cs))
          = componentsText cs := by
        rw [← List.cons_append]
        exact afterChar_append (T_not_mem_date hdate) _
      have htimed : timeSection ('P' :: (componentsText date ++ 'T' :: componentsText cs))
          = sectionResult cs := by
        rw [timeSection, if_pos (by simp), hafter, parseTimeString_eq,
          if_neg (fun h => hne (componentsText_eq_nil h)), advance_time hsub]
      rw [hread]
      show (dateSection (componentsText date ++ 'T' :: componentsText cs)).bind _ = _
      rw [hsection]
      refine Eq.trans ?_ hsum
      show (sectionResult date).bind (fun a =>
        (timeSection ('P' :: (componentsText date ++ 'T' :: componentsText cs))).bind _) = _
      rw [htimed]
      rfl

/-- **What is read is a duration text.** -/
theorem read_shape {text : List Char} {v : UInt32}
    (h : iso8601DurationStringToMilliseconds text = some v) : ∃ d : DurationText, d.text = text := by
  unfold iso8601DurationStringToMilliseconds at h
  split at h
  · rename_i hP
    obtain ⟨s, rfl⟩ := List.head?_eq_some_iff.mp hP
    obtain ⟨a, ha, h⟩ := Option.bind_eq_some_iff.mp h
    obtain ⟨b, hb, -⟩ := Option.bind_eq_some_iff.mp h
    rw [List.tail_cons, dateSection_eq] at ha
    split at ha
    · exact absurd ha (by simp)
    · rename_i hs
      obtain ⟨cs, tail, hsub, rfl, htail⟩ := advance_shape dateBlocks_ok ha
      rcases dateEnds_cases htail with rfl | ⟨rest, rfl⟩
      · have hcs : cs ≠ [] := fun hnil => hs (by rw [hnil]; rfl)
        exact ⟨⟨cs, none, hsub, by simp, Or.inl hcs⟩, rfl⟩
      · -- the first `T` is where the date ends
        have hafter : afterChar 'T' ('P' :: (componentsText cs ++ 'T' :: rest)) = rest := by
          rw [← List.cons_append]
          exact afterChar_append (T_not_mem_date hsub) _
        rw [timeSection, if_pos (by simp), hafter, parseTimeString_eq] at hb
        split at hb
        · exact absurd hb (by simp)
        · rename_i hrest
          obtain ⟨cs', tail', hsub', rfl, htail'⟩ := advance_shape timeBlocks_ok hb
          obtain rfl : tail' = [] := by
            cases tail' with
            | nil => rfl
            | cons c tl => exact absurd htail' (by simp [timeEnds])
          rw [List.append_nil] at hrest ⊢
          have hcs' : cs' ≠ [] := fun hnil => hrest (by rw [hnil]; rfl)
          refine ⟨⟨cs, some cs', hsub, ?_, Or.inr (by simp)⟩, rfl⟩
          intro cs'' hcs''
          obtain rfl := Option.some.inj hcs''
          exact ⟨hcs', hsub'⟩
  · exact absurd h (by simp)

/-! ## Well-formed texts -/

theorem Count.Plain.stored_eq {q : Count} (h : q.Plain) (hv : q.value < 2 ^ 32) :
    q.stored.toNat = q.value := by
  have hstored : q.stored = UInt32.ofNat (strtoul (q.sign == some '-') q.digits) := rfl
  have hstrtoul : strtoul (q.sign == some '-') q.digits = q.value := by
    rw [h.2]
    unfold strtoul
    show (if q.value ≥ 2 ^ 64 then 2 ^ 64 - 1 else _) = q.value
    rw [if_neg (by omega)]
    rfl
  rw [hstored, hstrtoul, UInt32.toNat_ofNat_of_lt' hv]

/-- What is true of the blocks of both sections: a count whose amount fits 32 bits is within the
limit, and the unit counts in full or, for a count of zero, not at all. -/
def Block.Exact (b : Block) : Prop :=
  0 < b.milliseconds ∧ ∀ n, n * b.milliseconds < 2 ^ 32 →
    n ≤ b.max.toNat ∧ n * b.unit.toNat = n * b.milliseconds

theorem blocks_exact : ∀ b ∈ dateBlocks ++ timeBlocks, b.Exact := by
  obtain ⟨h1, h2, h3, h4, h5, h6⟩ := toNat_units
  obtain ⟨l1, l2, l3, l4, l5, l6⟩ := toNat_limits
  intro b hb
  simp only [dateBlocks, timeBlocks, List.cons_append, List.nil_append, List.mem_cons,
    List.not_mem_nil, or_false] at hb
  rcases hb with rfl | rfl | rfl | rfl | rfl | rfl | rfl
  · -- a year is more than fits: the count is zero
    refine ⟨by decide, fun n hn => ?_⟩
    dsimp only at hn ⊢
    have hzero : n = 0 := by omega
    rw [hzero]
    exact ⟨Nat.zero_le _, by rw [Nat.zero_mul, Nat.zero_mul]⟩
  all_goals
    refine ⟨by decide, fun n hn => ?_⟩
    dsimp only at hn ⊢
    simp only [h1, h2, h3, h4, h5, h6, l1, l2, l3, l4, l5, l6]
    exact ⟨by omega, trivial⟩

theorem DurationText.block_mem (d : DurationText) :
    ∀ c ∈ d.components, c.block ∈ dateBlocks ++ timeBlocks := by
  intro c hc
  rcases List.mem_append.mp hc with hdate | htime
  · exact List.mem_append_left _ (d.date_sublist.subset (List.mem_map_of_mem hdate))
  · cases ht : d.time with
    | none =>
        rw [ht] at htime
        exact absurd htime (by simp)
    | some cs =>
        rw [ht] at htime
        exact List.mem_append_right _
          ((d.time_sublist cs ht).2.subset (List.mem_map_of_mem htime))

/-- A component whose amount fits is read for what it is. -/
theorem Component.counted_eq {c : Component} (hplain : c.count.Plain) (hexact : c.block.Exact)
    (h : c.amount < 2 ^ 32) : c.Within ∧ c.counted = c.amount := by
  have hvalue : c.count.value < 2 ^ 32 :=
    Nat.lt_of_le_of_lt (Nat.le_mul_of_pos_right _ hexact.1) h
  obtain ⟨hmax, hunit⟩ := hexact.2 c.count.value h
  have hstored := hplain.stored_eq hvalue
  refine ⟨UInt32.le_iff_toNat_le.mpr (by rw [hstored]; exact hmax), ?_⟩
  unfold Component.counted
  rw [hstored]
  exact hunit

theorem countedTotal_eq {cs : List Component} (hplain : ∀ c ∈ cs, c.count.Plain)
    (hexact : ∀ c ∈ cs, c.block.Exact) (h : amountTotal cs < 2 ^ 32) :
    (∀ c ∈ cs, c.Within) ∧ countedTotal cs = amountTotal cs := by
  induction cs with
  | nil => exact ⟨by simp, rfl⟩
  | cons c cs ih =>
      have hcons : amountTotal (c :: cs) = c.amount + amountTotal cs := List.sum_cons
      rw [List.forall_mem_cons] at hplain hexact
      rw [hcons] at h
      obtain ⟨hwithin, hcounted⟩ := Component.counted_eq hplain.1 hexact.1 (by omega)
      obtain ⟨hrest, htotal⟩ := ih hplain.2 hexact.2 (by omega)
      refine ⟨List.forall_mem_cons.mpr ⟨hwithin, hrest⟩, ?_⟩
      rw [countedTotal_cons, hcounted, htotal, hcons]

/--
**A well-formed duration is read exactly** when its sum fits 32 bits, and also when it does not but
the reader refuses what it makes of it. Otherwise it is taken for another duration: one without its
years, or with counts cut to 32 bits.
-/
theorem duration_read_exactly_iff (d : DurationText) (h : d.Plain) :
    iso8601DurationStringToMilliseconds d.text = d.expected
      ↔ d.amount < 2 ^ 32 ∨ ¬ d.Accepted := by
  rw [read_text]
  unfold DurationText.expected
  by_cases hfits : d.amount < 2 ^ 32
  · have hexact := fun c hc => blocks_exact _ (d.block_mem c hc)
    obtain ⟨hwithin, hcounted⟩ : (∀ c ∈ d.components, c.Within) ∧ d.counted = d.amount :=
      countedTotal_eq h hexact hfits
    have haccepted : d.Accepted ↔ 1 ≤ d.amount ∧ d.amount ≤ 2 ^ 32 - 1 := by
      unfold DurationText.Accepted
      rw [hcounted]
      constructor
      · rintro ⟨-, hpos, -⟩
        omega
      · rintro ⟨hpos, -⟩
        exact ⟨hwithin, hpos, hfits⟩
    rw [hcounted]
    simp only [haccepted, hfits, true_or]
  · have hnone : ¬ (1 ≤ d.amount ∧ d.amount ≤ 2 ^ 32 - 1) := by omega
    rw [if_neg hnone]
    constructor
    · intro heq
      refine Or.inr fun haccepted => ?_
      rw [if_pos haccepted] at heq
      exact absurd heq (by simp)
    · intro hor
      exact if_neg (hor.resolve_left hfits)

/-- A count of decimal digits. -/
def digitsCount (digits : List Char) (hne : digits ≠ []) (h : ∀ c ∈ digits, c.isDigit = true) :
    Count := ⟨[], none, digits, by simp, Or.inl rfl, hne, h⟩

theorem isDigit_one : ∀ c ∈ ['1'], c.isDigit = true := fun c hc => by
  rw [List.mem_singleton.mp hc]
  rfl

/-- A year and a day. -/
def yearAndDay : DurationText :=
  ⟨[⟨⟨'Y', MAX_YEARS_IN_UINT32, 0, 365 * 86400000⟩, digitsCount ['1'] (by decide) isDigit_one⟩,
      ⟨⟨'D', MAX_DAYS_IN_UINT32, MILLISECONDS_IN_A_DAY, 86400000⟩,
        digitsCount ['1'] (by decide) isDigit_one⟩],
    none, ((List.Sublist.refl [_]).cons _).cons _ |>.cons_cons _, by simp, Or.inl (by simp)⟩

theorem duration_read_exactly_iff_year :
    yearAndDay.Plain ∧ (iso8601DurationStringToMilliseconds yearAndDay.text = yearAndDay.expected
      ↔ yearAndDay.amount < 2 ^ 32 ∨ ¬ yearAndDay.Accepted) := by
  have hplain : yearAndDay.Plain := by decide
  exact ⟨hplain, duration_read_exactly_iff yearAndDay hplain⟩

/-- A year and a day is more than 32 bits hold and is read as a day. -/
theorem year_read_as_nothing :
    ¬ ∀ d : DurationText, d.Plain → iso8601DurationStringToMilliseconds d.text = d.expected := by
  intro h
  have hread := h yearAndDay (by decide)
  exact absurd hread (by decide)

/-! ## All other texts -/

theorem Count.Plain.text_eq {q : Count} (h : q.Plain) : q.text = q.digits := by
  unfold Count.text
  rw [h.1, h.2]
  rfl

/-- A well-formed text has no blank in it. -/
theorem DurationText.Plain.not_isSpace {d : DurationText} (h : d.Plain) :
    ∀ c ∈ d.text, isSpace c = false := by
  have hcomponents : ∀ cs : List Component, (∀ c ∈ cs, c ∈ d.components) →
      ∀ c ∈ componentsText cs, isSpace c = false := by
    intro cs hcs c hc
    obtain ⟨comp, hcomp, hc⟩ := List.mem_flatMap.mp hc
    rcases List.mem_append.mp hc with hcount | hspec
    · rw [(h comp (hcs comp hcomp)).text_eq] at hcount
      exact isSpace_of_isDigit (comp.count.isDigit_digits c hcount)
    · have hspecs : ∀ b ∈ dateBlocks ++ timeBlocks, isSpace b.specifier = false := by decide
      rw [List.mem_singleton.mp hspec]
      exact hspecs _ (d.block_mem comp (hcs comp hcomp))
  intro c hc
  rcases List.mem_cons.mp hc with rfl | hc
  · rfl
  · rcases List.mem_append.mp hc with hdate | htime
    · exact hcomponents d.date (fun _ => List.mem_append_left _) c hdate
    · cases ht : d.time with
      | none =>
          rw [DurationText.timeText, ht] at htime
          exact absurd htime (by simp)
      | some cs =>
          rw [DurationText.timeText, ht] at htime
          rcases List.mem_cons.mp htime with rfl | htime
          · rfl
          · refine hcomponents cs (fun comp hcomp => ?_) c htime
            refine List.mem_append_right _ ?_
            rw [ht]
            exact hcomp

/--
**A text that is not well formed is refused** exactly when there is no way to read it as a duration
with blanks or signs before its counts, such that the counts, as `%u` stores them, are within the
reader's limits and sum up to something that is not zero and fits.
-/
theorem malformed_duration_refused_iff (text : List Char)
    (hmalformed : ∀ d : DurationText, d.Plain → d.text ≠ text) :
    iso8601DurationStringToMilliseconds text = none
      ↔ ∀ d : DurationText, ¬ d.Plain → d.text = text → ¬ d.Accepted := by
  constructor
  · intro hnone d _ htext haccepted
    rw [← htext, read_text, if_pos haccepted] at hnone
    exact absurd hnone (by simp)
  · intro hrefused
    cases hread : iso8601DurationStringToMilliseconds text with
    | none => rfl
    | some v =>
        obtain ⟨d, htext⟩ := read_shape hread
        have hplain : ¬ d.Plain := fun hplain => hmalformed d hplain htext
        rw [← htext, read_text, if_neg (hrefused d hplain htext)] at hread
        exact absurd hread (by simp)

theorem blank_not_well_formed : ∀ d : DurationText, d.Plain → d.text ≠ ['P', ' ', '1', 'D'] := by
  intro d hplain htext
  have hspace := hplain.not_isSpace ' ' (by rw [htext]; simp)
  exact absurd hspace (by decide)

theorem malformed_duration_refused_iff_blank :
    iso8601DurationStringToMilliseconds ['P', ' ', '1', 'D'] = none
      ↔ ∀ d : DurationText, ¬ d.Plain → d.text = ['P', ' ', '1', 'D'] → ¬ d.Accepted :=
  malformed_duration_refused_iff _ blank_not_well_formed

/-- A blank before a count goes through. -/
theorem blank_accepted :
    ¬ ∀ text : List Char, (∀ d : DurationText, d.Plain → d.text ≠ text) →
      iso8601DurationStringToMilliseconds text = none := by
  intro h
  have hread := h ['P', ' ', '1', 'D'] blank_not_well_formed
  exact absurd hread (by decide)

end TimeUtils

end SecurityAgent
