import SecurityAgent.Iptables.PortExpressions

/-!
# The ports of a multiport match

An entry is a port, or with its flag the lowest port of a range whose highest port is the
entry behind it. The loop takes one entry or two in a step, and does not look whether there is
a second one: a range that begins with the last entry that is counted ends with one that is not.

That is when the flags at the end of the count are an odd number of flags that are set.
-/

namespace SecurityAgent.IptablesMultiport

open Utils IptablesUtils

/-! ## What the entries describe -/

/-- An entry: a port, and whether a range begins with it. -/
def entryAt (ports : Nat → UInt16) (pflags : Nat → UInt8) (j : Nat) : UInt16 × Bool :=
  (ports j, pflags j &&& MULTIPORT_RANGE_FLAG ≠ 0)

/-- The ports and ranges that entries describe, `none` if a range has no end. -/
def described : List (UInt16 × Bool) → Option (List PortItem)
  | [] => some []
  | (port, false) :: rest => (described rest).map (.single port.toNat :: ·)
  | (low, true) :: (high, _) :: rest =>
      (described rest).map (.range low.toNat high.toNat :: ·)
  | [(_, true)] => none

/-- The entries that are counted. -/
def countedEntries (info : XtMultiportV1) : List (UInt16 × Bool) :=
  (List.range info.count.toNat).map (entryAt info.ports info.pflags)

/-- Whether all other ports are meant. -/
def inverted (info : XtMultiportV1) : Bool := info.invert &&& MULTIPORT_INVERT_FLAG ≠ 0

/-! ## What the loop reads -/

/-- What comes after a text was written, and the entries that are read for it. -/
def thenRead (written : Option (String × Nat))
    (next : String × Nat → Option (String × Nat) × List Nat) : Option (String × Nat) × List Nat :=
  match written with
  | none => (none, [])
  | some buffer => next buffer

/-- The loop over the ports, with the indices of the entries it reads. -/
def formatPortsReading (count : Nat) (ports : Nat → UInt16) (pflags : Nat → UInt8) :
    Nat → Nat → String × Nat → Option (String × Nat) × List Nat
  | 0, _, buffer => (some buffer, [])
  | rounds + 1, j, buffer =>
      if j < count then
        thenRead (writeIf (j > 0) "," buffer) fun buffer =>
          if pflags j &&& MULTIPORT_RANGE_FLAG ≠ 0 then
            ((thenRead (concatenateToString buffer.1 buffer.2
              (toString (ports j).toNat ++ "-" ++ toString (ports (j + 1)).toNat))
                (formatPortsReading count ports pflags rounds (j + 2))).map id ([j, j + 1] ++ ·))
          else
            ((thenRead (concatenateToString buffer.1 buffer.2 (toString (ports j).toNat))
              (formatPortsReading count ports pflags rounds (j + 1))).map id ([j] ++ ·))
      else (some buffer, [])

/-- The entries that are read for a match. -/
def entriesRead (info : XtMultiportV1) (bufferSize : Nat) : List Nat :=
  (thenRead (writeIf (inverted info) IPTABLES_NEGATE_EXPRESSION_START ("", bufferSize))
    (formatPortsReading info.count.toNat info.ports info.pflags info.count.toNat 0)).2

theorem fst_thenRead (written : Option (String × Nat))
    {next : String × Nat → Option (String × Nat) × List Nat}
    {onward : String × Nat → Option (String × Nat)} (h : ∀ buffer, (next buffer).1 = onward buffer) :
    (thenRead written next).1 = written.bind onward := by
  cases written with
  | none => rfl
  | some buffer => exact h buffer

/-- **It is the loop.** -/
theorem fst_formatPortsReading (count : Nat) (ports : Nat → UInt16) (pflags : Nat → UInt8)
    (rounds j : Nat) (buffer : String × Nat) :
    (formatPortsReading count ports pflags rounds j buffer).1
      = formatPorts count ports pflags rounds j buffer := by
  induction rounds generalizing j buffer with
  | zero => rfl
  | succ rounds ih =>
      unfold formatPortsReading formatPorts
      split
      · refine fst_thenRead _ fun buffer => ?_
        split
        · exact fst_thenRead _ (ih (j + 2))
        · exact fst_thenRead _ (ih (j + 1))
      · rfl

/-- The entries from an index on that a walk comes by. -/
def walked (count : Nat) (pflags : Nat → UInt8) : Nat → Nat → List Nat
  | 0, _ => []
  | rounds + 1, j =>
      if j < count then
        if pflags j &&& MULTIPORT_RANGE_FLAG ≠ 0 then [j, j + 1] ++ walked count pflags rounds (j + 2)
        else [j] ++ walked count pflags rounds (j + 1)
      else []

/-- With room for every text the walk is not broken off. -/
theorem snd_formatPortsReading {count : Nat} {ports : Nat → UInt16} {pflags : Nat → UInt8}
    (rounds j : Nat) (buffer : String) {room : Nat} (hroom : 12 * rounds < room) :
    (formatPortsReading count ports pflags rounds j (buffer, room)).2
      = walked count pflags rounds j := by
  induction rounds generalizing j buffer room with
  | zero => rfl
  | succ rounds ih =>
      unfold formatPortsReading walked
      by_cases hj : j < count
      swap
      · rw [if_neg hj, if_neg hj]
      have hcomma : (if decide (j > 0) then "," else "").length ≤ 1 :=
        length_ite_le (by decide) (by decide)
      have hfirst := length_port_le (ports j)
      have hrange := length_portRange_le (ports j) (ports (j + 1))
      rw [if_pos hj, if_pos hj, writeIf_fits (k := 1) _ (by decide) (by omega)]
      dsimp only [thenRead]
      split
      · rw [concatenateToString_fits hrange (by omega)]
        exact congrArg ([j, j + 1] ++ ·) (ih (j + 2) _ (by omega))
      · rw [concatenateToString_fits hfirst (by omega)]
        exact congrArg ([j] ++ ·) (ih (j + 1) _ (by omega))

/-! ## What is printed -/

/-- The ports and ranges that a walk comes by. -/
def portItems (count : Nat) (ports : Nat → UInt16) (pflags : Nat → UInt8) :
    Nat → Nat → List PortItem
  | 0, _ => []
  | rounds + 1, j =>
      if j < count then
        if pflags j &&& MULTIPORT_RANGE_FLAG ≠ 0 then
          .range (ports j).toNat (ports (j + 1)).toNat :: portItems count ports pflags rounds (j + 2)
        else .single (ports j).toNat :: portItems count ports pflags rounds (j + 1)
      else []

open PortExpression in
/-- A port that is not the first has a comma before it. -/
theorem toList_portsText_pos {count : Nat} {ports : Nat → UInt16} {pflags : Nat → UInt8}
    (rounds : Nat) {j : Nat} (hpos : 0 < j) :
    (portsText count ports pflags rounds j).toList
      = (portItems count ports pflags rounds j).flatMap (',' :: itemText ·) := by
  induction rounds generalizing j with
  | zero => rfl
  | succ rounds ih =>
      unfold portsText portItems
      by_cases hj : j < count
      swap
      · rw [if_neg hj, if_neg hj]
        rfl
      rw [if_pos hj, if_pos hj, if_pos (decide_eq_true hpos)]
      split
      · rw [List.flatMap_cons, ← ih (Nat.succ_pos _)]
        simp [itemText]
      · rw [List.flatMap_cons, ← ih (Nat.succ_pos _)]
        simp [itemText]

open PortExpression in
/-- **The ports are printed with commas between them.** -/
theorem toList_portsText {count : Nat} {ports : Nat → UInt16} {pflags : Nat → UInt8}
    (rounds : Nat) :
    (portsText count ports pflags rounds 0).toList
      = itemsText (portItems count ports pflags rounds 0) := by
  unfold itemsText
  cases rounds with
  | zero => rfl
  | succ rounds =>
      unfold portsText portItems
      by_cases hj : 0 < count
      swap
      · rw [if_neg hj, if_neg hj]
        rfl
      rw [if_pos hj, if_pos hj, if_neg (by simp), String.empty_append]
      split
      · rw [List.map_cons, Separated.intercalate_cons, List.flatMap_map,
          ← toList_portsText_pos _ (Nat.succ_pos _)]
        simp [itemText]
      · rw [List.map_cons, Separated.intercalate_cons, List.flatMap_map,
          ← toList_portsText_pos _ (Nat.succ_pos _)]
        simp [itemText]

/-! ## Where a range has no end -/

/-- The number of flags at the end that are set. -/
def lastFlags (flags : List Bool) : Nat := (flags.reverse.takeWhile id).length

theorem lastFlags_le (flags : List Bool) : lastFlags flags ≤ flags.length := by
  have hle := (List.takeWhile_sublist (l := flags.reverse) id).length_le
  rwa [List.length_reverse] at hle

/-- A flag before others counts only if all of them are set. -/
theorem lastFlags_cons (flag : Bool) (flags : List Bool) :
    lastFlags (flag :: flags)
      = if lastFlags flags = flags.length then flags.length + flag.toNat else lastFlags flags := by
  unfold lastFlags
  rw [List.reverse_cons, List.takeWhile_append, List.length_reverse]
  split
  · rw [List.length_append, List.length_reverse]
    cases flag <;> rfl
  · rfl

/-- A port takes none of them, -/
theorem lastFlags_single (flags : List Bool) : lastFlags (false :: flags) = lastFlags flags := by
  rw [lastFlags_cons]
  split
  · next h => exact h.symm
  · rfl

/-- and a range takes two or none. -/
theorem lastFlags_range (flag : Bool) (flags : List Bool) :
    lastFlags (true :: flag :: flags) % 2 = lastFlags flags % 2 := by
  have hle := lastFlags_le flags
  rw [lastFlags_cons, lastFlags_cons, List.length_cons]
  by_cases hall : lastFlags flags = flags.length
  · rw [if_pos hall, hall]
    cases flag with
    | false => rw [if_neg (by simp), Bool.toNat_false, Nat.add_zero]
    | true =>
        rw [if_pos (by simp), Bool.toNat_true]
        omega
  · rw [if_neg hall, if_neg (by omega)]

/-- **A range has no end exactly if the flags at the end are an odd number.** -/
theorem described_isSome_iff (entries : List (UInt16 × Bool)) :
    (described entries).isSome = true ↔ lastFlags (entries.map Prod.snd) % 2 = 0 := by
  induction entries using described.induct with
  | case1 => exact ⟨fun _ => rfl, fun _ => rfl⟩
  | case2 port rest ih =>
      rw [described, Option.isSome_map, ih, List.map_cons, lastFlags_single]
  | case3 low high flag rest ih =>
      rw [described, Option.isSome_map, ih, List.map_cons, List.map_cons, lastFlags_range]
  | case4 port =>
      rw [described]
      exact ⟨fun h => absurd h Bool.false_ne_true, fun h => absurd h Nat.one_ne_zero⟩

/-- The entries from an index on. -/
def entriesFrom (ports : Nat → UInt16) (pflags : Nat → UInt8) (j n : Nat) : List (UInt16 × Bool) :=
  (List.range' j n).map (entryAt ports pflags)

theorem countedEntries_eq (info : XtMultiportV1) :
    countedEntries info = entriesFrom info.ports info.pflags 0 info.count.toNat := by
  unfold countedEntries entriesFrom
  rw [List.range_eq_range']

theorem walk_end {count : Nat} {ports : Nat → UInt16} {pflags : Nat → UInt8} (rounds : Nat) :
    portItems count ports pflags rounds count = [] ∧ walked count pflags rounds count = [] := by
  cases rounds with
  | zero => exact ⟨rfl, rfl⟩
  | succ rounds => exact ⟨if_neg (Nat.lt_irrefl count), if_neg (Nat.lt_irrefl count)⟩

/--
**A walk over entries that are all described** comes by what they describe, and by no entry behind
them; any other walk comes by the entry behind them.
-/
theorem walk_described {ports : Nat → UInt16} {pflags : Nat → UInt8} (n : Nat) :
    ∀ {rounds j : Nat}, n ≤ rounds →
      (∀ items, described (entriesFrom ports pflags j n) = some items →
        portItems (j + n) ports pflags rounds j = items
          ∧ ∀ i ∈ walked (j + n) pflags rounds j, i < j + n)
      ∧ (described (entriesFrom ports pflags j n) = none →
        j + n ∈ walked (j + n) pflags rounds j) := by
  induction n using Nat.strongRecOn with
  | _ n ih =>
      intro rounds j hrounds
      cases n with
      | zero =>
          obtain ⟨hitems, hwalked⟩ := @walk_end j ports pflags rounds
          rw [Nat.add_zero, hitems, hwalked]
          refine ⟨fun items h => ⟨Option.some.inj h, fun i hi => absurd hi List.not_mem_nil⟩,
            fun h => ?_⟩
          cases h
      | succ n =>
          cases rounds with
          | zero => exact absurd hrounds (Nat.not_succ_le_zero n)
          | succ rounds =>
              have hj : j < j + (n + 1) := by omega
              have hentries : entriesFrom ports pflags j (n + 1)
                  = entryAt ports pflags j :: entriesFrom ports pflags (j + 1) n := rfl
              unfold portItems walked
              rw [if_pos hj, if_pos hj, hentries]
              by_cases hflag : pflags j &&& MULTIPORT_RANGE_FLAG ≠ 0
              · have hentry : entryAt ports pflags j = (ports j, true) :=
                  Prod.ext rfl (decide_eq_true hflag)
                rw [if_pos hflag, if_pos hflag, hentry]
                cases n with
                | zero =>
                    -- there is no entry behind it
                    refine ⟨fun items h => ?_, fun _ => ?_⟩
                    · cases h
                    · exact List.mem_append_left _ (List.mem_cons_of_mem _ List.mem_cons_self)
                | succ n =>
                    have hnext : entriesFrom ports pflags (j + 1) (n + 1)
                        = entryAt ports pflags (j + 1) :: entriesFrom ports pflags (j + 2) n := rfl
                    obtain ⟨hsome, hnone⟩ := @ih n (by omega) rounds (j + 2) (by omega)
                    -- a range is two entries, and the walk goes on behind both
                    have hcount : j + 2 + n = j + (n + 1 + 1) := by omega
                    rw [hcount] at hsome hnone
                    rw [hnext, described]
                    refine ⟨fun items h => ?_, fun h => ?_⟩
                    · obtain ⟨rest, hrest, rfl⟩ := Option.map_eq_some_iff.mp h
                      obtain ⟨hitems, hread⟩ := hsome rest hrest
                      refine ⟨by rw [hitems]; rfl, fun i hi => ?_⟩
                      rcases List.mem_append.mp hi with hpair | hi
                      · rcases List.mem_pair.mp hpair with rfl | rfl <;> omega
                      · exact hread i hi
                    · exact List.mem_append_right _ (hnone (Option.map_eq_none_iff.mp h))
              · have hentry : entryAt ports pflags j = (ports j, false) :=
                  Prod.ext rfl (decide_eq_false hflag)
                obtain ⟨hsome, hnone⟩ := @ih n (by omega) rounds (j + 1) (by omega)
                have hcount : j + 1 + n = j + (n + 1) := by omega
                rw [hcount] at hsome hnone
                rw [if_neg hflag, if_neg hflag, hentry, described]
                refine ⟨fun items h => ?_, fun h => ?_⟩
                · obtain ⟨rest, hrest, rfl⟩ := Option.map_eq_some_iff.mp h
                  obtain ⟨hitems, hread⟩ := hsome rest hrest
                  refine ⟨by rw [hitems], fun i hi => ?_⟩
                  rcases List.mem_append.mp hi with hone | hi
                  · rw [List.mem_singleton.mp hone]
                    exact hj
                  · exact hread i hi
                · exact List.mem_append_right _ (hnone (Option.map_eq_none_iff.mp h))

/-! ## A whole match -/

/-- What is printed for a match is its ports and ranges. -/
theorem toList_multiportText (info : XtMultiportV1) :
    (multiportText (.revision1 info)).toList
      = (⟨inverted info, portItems info.count.toNat info.ports info.pflags info.count.toNat 0⟩
        : PortExpression).text := by
  have hports := @toList_portsText info.count.toNat info.ports info.pflags info.count.toNat
  unfold multiportText PortExpression.text inverted
  dsimp only
  rw [String.toList_append, String.toList_append, hports]
  generalize decide (info.invert &&& MULTIPORT_INVERT_FLAG ≠ 0) = invert
  cases invert with
  | false => simp
  | true => simp [IPTABLES_NEGATE_EXPRESSION_START, IPTABLES_NEGATE_EXPRESSION_END]

/-- With enough room the entries that are read are those of a walk. -/
theorem entriesRead_eq (info : XtMultiportV1) {bufferSize : Nat} (h : 183 < bufferSize) :
    entriesRead info bufferSize
      = walked info.count.toNat info.pflags info.count.toNat 0 := by
  have hcount := info.count_le
  unfold XT_MULTI_PORTS at hcount
  have hstart : (if inverted info then IPTABLES_NEGATE_EXPRESSION_START else "").length ≤ 2 :=
    length_expressionStart_le (inverted info = true)
  unfold entriesRead
  rw [writeIf_fits (k := 2) _ (by decide) (by omega)]
  exact snd_formatPortsReading _ _ _ (by omega)

/-- The text says what the entries that are counted describe, and no other entry is read. -/
def DecodesCounted (info : XtMultiportV1) (bufferSize : Nat) : Prop :=
  (∃ text items, formatMultiportV1Match info bufferSize = .ok text
    ∧ described (countedEntries info) = some items
    ∧ PortExpression.read text = some ⟨inverted info, items⟩)
  ∧ ∀ i ∈ entriesRead info bufferSize, i < info.count.toNat

/-- The flags of the entries that are counted. -/
def countedFlags (info : XtMultiportV1) : List Bool := (countedEntries info).map Prod.snd

/--
**When the text of a match is that of the entries that are counted**: when of their flags an even
number at the end is set, that is when no range begins with the last of them.
-/
theorem decodesCounted_iff (info : XtMultiportV1) {bufferSize : Nat} (hroom : 183 < bufferSize) :
    DecodesCounted info bufferSize ↔ lastFlags (countedFlags info) % 2 = 0 := by
  obtain ⟨hsome, hnone⟩ := @walk_described info.ports info.pflags info.count.toNat
    info.count.toNat 0 (Nat.le_refl _)
  rw [Nat.zero_add, ← countedEntries_eq] at hsome hnone
  unfold DecodesCounted countedFlags
  rw [← described_isSome_iff, entriesRead_eq info hroom, formatMultiportV1Match_eq info hroom]
  constructor
  · rintro ⟨-, hread⟩
    cases hdescribed : described (countedEntries info) with
    | some items => rfl
    | none => exact absurd (hread _ (hnone hdescribed)) (Nat.lt_irrefl _)
  · intro h
    obtain ⟨items, hdescribed⟩ := Option.isSome_iff_exists.mp h
    obtain ⟨hitems, hread⟩ := hsome items hdescribed
    refine ⟨⟨_, items, rfl, hdescribed, ?_⟩, hread⟩
    rw [PortExpression.read_of_text (toList_multiportText info), hitems]

/-- The ports 4 and 6 to 8 and 12, of which the second entry begins the range. -/
theorem decodesCounted_iff_mixed :
    DecodesCounted
      { flags := 0
        count := 4
        ports := fun j => [4, 6, 8, 12].getD j 0
        count_le := by decide
        pflags := fun j => if j = 1 then 1 else 0
        invert := 1 } 300 := by
  have hroom : 183 < 300 := by omega
  exact (decodesCounted_iff _ hroom).mpr rfl

/-- As many entries as there are, and a range begins with the last: the entry behind them is
read. -/
theorem last_range_reads_behind :
    ¬ DecodesCounted
      { flags := 0
        count := 15
        ports := fun j => if j < 15 then 80 else 0
        count_le := by decide
        pflags := fun j => if j = 14 then 1 else 0
        invert := 0 } 300 := by
  rintro ⟨-, hread⟩
  exact absurd (hread 15 (by decide)) (Nat.lt_irrefl 15)

end SecurityAgent.IptablesMultiport
