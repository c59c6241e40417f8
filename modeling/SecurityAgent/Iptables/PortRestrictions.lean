import SecurityAgent.Iptables.MultiportPorts

/-!
# Which match restricts the ports

A rule restricts the ports of a side by the first of its matches that does: a tcp or a udp
match by a range, inverted or not, and a multiport match by the ports it lists.

A query passes over all udp matches, and over a tcp match whose range is of all ports even where
it is inverted. It stops at a multiport match of no known size and has nothing to say there,
and the text of a single port that is inverted is none that is read.
-/

namespace SecurityAgent

namespace IptablesPortUtils

open IptablesUtils IptablesMultiport

def XT_UDP_INV_SRCPT : UInt8 := 0x01
def XT_UDP_INV_DSTPT : UInt8 := 0x02

/-! ## What a rule says of its ports -/

/-- The lowest and the highest port on a side. -/
def sidePorts (isSrcPorts : Bool) (info : XtPorts) : UInt16 × UInt16 :=
  if isSrcPorts then info.spts else info.dpts

/-- Whether all other ports are meant, by the flags for the two sides. -/
def sideInverted (isSrcPorts : Bool) (info : XtPorts) (invSrc invDst : UInt8) : Bool :=
  if isSrcPorts then info.invflags &&& invSrc ≠ 0 else info.invflags &&& invDst ≠ 0

/-- A range restricts the ports unless it is of all, and not inverted. -/
def RangeRestricts (ports : UInt16 × UInt16) (invert : Bool) : Prop :=
  ¬ (IsFull ports.1 ports.2 ∧ invert = false)

instance (ports : UInt16 × UInt16) (invert : Bool) : Decidable (RangeRestricts ports invert) :=
  inferInstanceAs (Decidable (¬ (_ ∧ _)))

/-- The data of a multiport match is of a side unless it is of the other alone. -/
def OfSide (isSrcPorts : Bool) (data : MultiportData) : Prop :=
  data.flags ≠ if isSrcPorts then XT_MULTIPORT_DESTINATION else XT_MULTIPORT_SOURCE

instance (isSrcPorts : Bool) (data : MultiportData) : Decidable (OfSide isSrcPorts data) :=
  inferInstanceAs (Decidable (_ ≠ _))

/-- Whether a match restricts the ports of a side. -/
def restricts (isSrcPorts : Bool) : EntryMatch → Bool
  | .tcp info => RangeRestricts (sidePorts isSrcPorts info)
      (sideInverted isSrcPorts info XT_TCP_INV_SRCPT XT_TCP_INV_DSTPT)
  | .udp info => RangeRestricts (sidePorts isSrcPorts info)
      (sideInverted isSrcPorts info XT_UDP_INV_SRCPT XT_UDP_INV_DSTPT)
  | .multiport data => OfSide isSrcPorts data
  | .iprange _ | .other _ => false

/-- Ports that a match lists, or all others. -/
structure NamedPorts where
  inverted : Bool
  ranges : List (Nat × Nat)
  deriving DecidableEq

/-- A range of ports on a side. -/
def namedRange (ports : UInt16 × UInt16) (invert : Bool) : NamedPorts :=
  ⟨invert, [(ports.1.toNat, ports.2.toNat)]⟩

/-- The ports that a match restricts a side to. Of data of another size they are not known. -/
def namedPorts (isSrcPorts : Bool) : EntryMatch → Option NamedPorts
  | .tcp info => some (namedRange (sidePorts isSrcPorts info)
      (sideInverted isSrcPorts info XT_TCP_INV_SRCPT XT_TCP_INV_DSTPT))
  | .udp info => some (namedRange (sidePorts isSrcPorts info)
      (sideInverted isSrcPorts info XT_UDP_INV_SRCPT XT_UDP_INV_DSTPT))
  | .multiport (.revision0 info) =>
      some ⟨false, (List.range info.count.toNat).map fun j =>
        ((info.ports j).toNat, (info.ports j).toNat)⟩
  | .multiport (.revision1 info) =>
      -- a range ends with the entry behind it, whether or not that one is counted
      some ⟨inverted info, (portItems info.count.toNat info.ports info.pflags
        info.count.toNat 0).map PortItem.bounds⟩
  | .multiport (.otherSize _) | .iprange _ | .other _ => none

end IptablesPortUtils

/-- What a text says, as ports. -/
def PortExpression.named (e : PortExpression) : IptablesPortUtils.NamedPorts :=
  ⟨e.inverted, e.items.map PortItem.bounds⟩

namespace IptablesPortUtils

open IptablesUtils IptablesMultiport

/-- **A restriction is never missed**: there is no answer exactly if no match restricts the side,
and a text says what the first match does that restricts it. -/
def NeverMissed (isSrcPorts : Bool) (entryMatches : List EntryMatch) (bufferSize : Nat) : Prop :=
  (getPort isSrcPorts bufferSize entryMatches = .error .noData
    ↔ ∀ m ∈ entryMatches, restricts isSrcPorts m = false)
  ∧ ∀ text, getPort isSrcPorts bufferSize entryMatches = .ok text →
    ∃ m e, entryMatches.find? (restricts isSrcPorts) = some m
      ∧ PortExpression.read text = some e ∧ namedPorts isSrcPorts m = some e.named

/-! ## Where a query stops -/

/-- A query stops at a tcp match whose range is not of all ports, and at a multiport match. -/
def stops (isSrcPorts : Bool) : EntryMatch → Bool
  | .tcp info => ¬ IsFull (sidePorts isSrcPorts info).1 (sidePorts isSrcPorts info).2
  | .multiport data => OfSide isSrcPorts data
  | .udp _ | .iprange _ | .other _ => false

/-- Its text is one that is read. -/
def legible (isSrcPorts : Bool) : EntryMatch → Bool
  | .tcp info => ¬ ((sidePorts isSrcPorts info).1 = (sidePorts isSrcPorts info).2
      ∧ sideInverted isSrcPorts info XT_TCP_INV_SRCPT XT_TCP_INV_DSTPT = true)
  | .multiport (.otherSize _) => false
  | .multiport (.revision0 _) | .multiport (.revision1 _) | .udp _ | .iprange _ | .other _ => true

theorem restricts_of_stops {isSrcPorts : Bool} {m : EntryMatch} (h : stops isSrcPorts m = true) :
    restricts isSrcPorts m = true := by
  cases m with
  | tcp info => exact decide_eq_true fun hopen => of_decide_eq_true h hopen.1
  | multiport data => exact h
  | udp | iprange | other => exact absurd h Bool.false_ne_true

theorem portsOfMatch_tcp (isSrcPorts : Bool) (info : XtPorts) :
    portsOfMatch isSrcPorts (.tcp info)
      = rangedPortsText (sidePorts isSrcPorts info).1 (sidePorts isSrcPorts info).2
        (sideInverted isSrcPorts info XT_TCP_INV_SRCPT XT_TCP_INV_DSTPT) := by
  cases isSrcPorts <;> rfl

theorem portsOfData_eq (isSrcPorts : Bool) (data : MultiportData) :
    portsOfData isSrcPorts data
      = if OfSide isSrcPorts data then some (multiportText data) else none := by
  unfold portsOfData OfSide
  cases isSrcPorts <;> simp

/-- **Where a query does not stop there is no text.** -/
theorem portsOfMatch_eq_none {isSrcPorts : Bool} {m : EntryMatch}
    (h : stops isSrcPorts m = false) : portsOfMatch isSrcPorts m = none := by
  cases m with
  | tcp info =>
      rw [portsOfMatch_tcp]
      exact rangedPortsText_full (Classical.not_not.mp (of_decide_eq_false h)) _
  | multiport data =>
      exact (portsOfData_eq isSrcPorts data).trans (if_neg (of_decide_eq_false h))
  | udp | iprange | other => rfl

/-- The entries of a match without flags are single ports. -/
theorem portItems_single {count : Nat} (ports : Nat → UInt16) (rounds : Nat) {j : Nat}
    (h : count - j ≤ rounds) :
    portItems count ports (fun _ => 0) rounds j
      = (List.range' j (count - j)).map fun i => .single (ports i).toNat := by
  induction rounds generalizing j with
  | zero =>
      rw [Nat.le_zero.mp h]
      rfl
  | succ rounds ih =>
      unfold portItems
      by_cases hj : j < count
      · have hleft : count - j = count - (j + 1) + 1 := by omega
        rw [if_pos hj, if_neg (by decide), ih (by omega), hleft, List.range'_succ, List.map_cons]
      · have hleft : count - j = 0 := by omega
        rw [if_neg hj, hleft]
        rfl

theorem toList_revision0 (info : XtMultiport) :
    (multiportText (.revision0 info)).toList
      = (⟨false, (List.range info.count.toNat).map fun j => .single (info.ports j).toNat⟩
        : PortExpression).text := by
  have hitems := portItems_single info.ports info.count.toNat (j := 0) (Nat.sub_le _ 0)
  rw [Nat.sub_zero, ← List.range_eq_range'] at hitems
  rw [← hitems]
  exact toList_portsText _

/-- **Where a query stops there is a text**, and what is read from it is what the match says, but
for data of another size: of it the text says that there is no port. -/
theorem portsOfMatch_cases {isSrcPorts : Bool} {m : EntryMatch} (h : stops isSrcPorts m = true) :
    ∃ text, portsOfMatch isSrcPorts m = some text
      ∧ (legible isSrcPorts m = true →
        ∃ e, PortExpression.read text = some e ∧ namedPorts isSrcPorts m = some e.named)
      ∧ (legible isSrcPorts m = false →
        ∀ e, PortExpression.read text = some e →
          e.items = [] ∧ namedPorts isSrcPorts m = none) := by
  cases m with
  | tcp info =>
      obtain ⟨text, htext, hdescribes⟩ := rangedPortsText_cases (of_decide_eq_true h)
        (sideInverted isSrcPorts info XT_TCP_INV_SRCPT XT_TCP_INV_DSTPT)
      refine ⟨text, (portsOfMatch_tcp isSrcPorts info).trans htext, ?_⟩
      by_cases hport : (sidePorts isSrcPorts info).1 = (sidePorts isSrcPorts info).2
          ∧ sideInverted isSrcPorts info XT_TCP_INV_SRCPT XT_TCP_INV_DSTPT = true
      · rw [if_pos hport] at hdescribes
        refine ⟨fun hlegible => absurd hport (of_decide_eq_true hlegible), fun _ e he => ?_⟩
        rw [hdescribes.2] at he
        cases he
      · rw [if_neg hport] at hdescribes
        refine ⟨fun _ => ⟨_, hdescribes.2, congrArg some ?_⟩,
          fun hillegible => absurd hport (of_decide_eq_false hillegible)⟩
        unfold PortExpression.named namedRange
        rw [List.map_singleton, bounds_rangedItem]
  | multiport data =>
      refine ⟨_, (portsOfData_eq isSrcPorts data).trans (if_pos (of_decide_eq_true h)), ?_⟩
      cases data with
      | revision0 info =>
          refine ⟨fun _ => ⟨_, PortExpression.read_of_text (toList_revision0 info), ?_⟩,
            fun hillegible => absurd hillegible.symm Bool.false_ne_true⟩
          unfold PortExpression.named
          rw [List.map_map]
          rfl
      | revision1 info =>
          exact ⟨fun _ => ⟨_, PortExpression.read_of_text (toList_multiportText info), rfl⟩,
            fun hillegible => absurd hillegible.symm Bool.false_ne_true⟩
      | otherSize flags =>
          refine ⟨fun hlegible => absurd hlegible Bool.false_ne_true, fun _ e he => ?_⟩
          have hempty : PortExpression.read "" = some ⟨false, []⟩ := by decide
          have heq := Option.some.inj (hempty.symm.trans he)
          exact ⟨heq ▸ rfl, rfl⟩
  | udp | iprange | other => exact absurd h Bool.false_ne_true

/-- What is asked for is the text of the first match at which the query stops. -/
theorem findSome?_portsOfMatch (isSrcPorts : Bool) (entryMatches : List EntryMatch) :
    entryMatches.findSome? (portsOfMatch isSrcPorts)
      = (entryMatches.find? (stops isSrcPorts)).bind (portsOfMatch isSrcPorts) := by
  induction entryMatches with
  | nil => rfl
  | cons m rest ih =>
      rw [List.findSome?_cons, List.find?_cons]
      cases hstops : stops isSrcPorts m with
      | false =>
          rw [portsOfMatch_eq_none hstops]
          exact ih
      | true =>
          obtain ⟨text, htext, -⟩ := portsOfMatch_cases hstops
          simp only [htext, Option.bind_some]

/-- If a query stops at the first match that restricts the ports, it is the first at which it
stops. -/
theorem find?_stops {isSrcPorts : Bool} {entryMatches : List EntryMatch} {m : EntryMatch}
    (h : entryMatches.find? (restricts isSrcPorts) = some m) (hstops : stops isSrcPorts m = true) :
    entryMatches.find? (stops isSrcPorts) = some m := by
  obtain ⟨-, before, after, heq, hbefore⟩ := List.find?_eq_some_iff_append.mp h
  refine List.find?_eq_some_iff_append.mpr ⟨hstops, before, after, heq, fun other hmem => ?_⟩
  have hother := hbefore other hmem
  cases hs : stops isSrcPorts other with
  | false => rfl
  | true =>
      rw [restricts_of_stops hs] at hother
      exact absurd hother Bool.false_ne_true

/-! ## When no restriction is missed -/

/-- No match restricts the side, or the query stops at a match whose text is read, and which lists
the same ports as the first that restricts the side. -/
def StopsInTime (isSrcPorts : Bool) (entryMatches : List EntryMatch) : Prop :=
  (∀ m ∈ entryMatches, restricts isSrcPorts m = false)
    ∨ ∃ first m, entryMatches.find? (restricts isSrcPorts) = some first
      ∧ entryMatches.find? (stops isSrcPorts) = some m ∧ legible isSrcPorts m = true
      ∧ namedPorts isSrcPorts m = namedPorts isSrcPorts first

/-- A match that the query passes over lists one range. -/
theorem ranges_ne_nil {isSrcPorts : Bool} {m : EntryMatch} {ports : NamedPorts}
    (hstops : stops isSrcPorts m = false) (hports : namedPorts isSrcPorts m = some ports)
    (hm : restricts isSrcPorts m = true) : ports.ranges ≠ [] := by
  cases m with
  | tcp info | udp info =>
      cases hports
      exact List.cons_ne_nil _ _
  | multiport data => exact absurd (hm.symm.trans hstops) (by simp)
  | iprange | other => cases hports

/--
**When a query misses no restriction of the ports.** For a list of matches of any length: exactly
if it stops in time.
-/
theorem neverMissed_iff (isSrcPorts : Bool) (entryMatches : List EntryMatch) {bufferSize : Nat}
    (hroom : 183 < bufferSize) :
    NeverMissed isSrcPorts entryMatches bufferSize ↔ StopsInTime isSrcPorts entryMatches := by
  have hquery := getPort_eq isSrcPorts hroom entryMatches
  rw [findSome?_portsOfMatch] at hquery
  unfold NeverMissed
  rw [hquery]
  constructor
  · rintro ⟨hnone, hsome⟩
    cases hstop : entryMatches.find? (stops isSrcPorts) with
    | none =>
        rw [hstop] at hnone
        exact Or.inl (hnone.mp rfl)
    | some m =>
        have hstops := List.find?_some hstop
        obtain ⟨text, htext, hlegible, hillegible⟩ := portsOfMatch_cases hstops
        rw [hstop, Option.bind_some, htext] at hsome
        obtain ⟨first, e, hfirst, hread, hnamed⟩ := hsome text rfl
        refine Or.inr ⟨first, m, hfirst, hstop, ?_⟩
        cases hm : legible isSrcPorts m with
        | true =>
            obtain ⟨e', hread', hnamed'⟩ := hlegible hm
            rw [hread, Option.some.injEq] at hread'
            exact ⟨rfl, by rw [hnamed', hnamed, hread']⟩
        | false =>
            obtain ⟨hitems, hunknown⟩ := hillegible hm e hread
            -- what cannot be read names nothing, and a match passed over names a range
            have hitself : stops isSrcPorts first = true := by
              by_contra hno
              refine ranges_ne_nil (Bool.eq_false_iff.mpr hno) hnamed (List.find?_some hfirst) ?_
              unfold PortExpression.named
              rw [hitems, List.map_nil]
            rw [find?_stops hfirst hitself, Option.some.injEq] at hstop
            rw [← hstop, hnamed] at hunknown
            cases hunknown
  · rintro (hopen | ⟨first, m, hfirst, hstop, hlegible, hsame⟩)
    · have hstop : entryMatches.find? (stops isSrcPorts) = none :=
        List.find?_eq_none.mpr fun m hm hstops =>
          Bool.false_ne_true ((hopen m hm).symm.trans (restricts_of_stops hstops))
      rw [hstop]
      exact ⟨⟨fun _ => hopen, fun _ => rfl⟩, fun text h => by cases h⟩
    · obtain ⟨text, htext, hdescribes, -⟩ := portsOfMatch_cases (List.find?_some hstop)
      obtain ⟨e, hread, hnamed⟩ := hdescribes hlegible
      rw [hstop, Option.bind_some, htext]
      refine ⟨⟨fun h => (by cases h), fun hopen => ?_⟩, fun text' h => ?_⟩
      · have hfound := List.find?_some hfirst
        rw [hopen first (List.mem_of_find?_eq_some hfirst)] at hfound
        exact absurd hfound Bool.false_ne_true
      · cases h
        exact ⟨first, e, hfirst, hread, hsame ▸ hnamed⟩

/-- `-p tcp --dport 80`, after a match that says nothing of ports. -/
theorem neverMissed_iff_tcp :
    NeverMissed false [.other "state", .tcp ⟨(0, 65535), (80, 80), 0⟩] 300 := by
  have hroom : 183 < 300 := by omega
  exact (neverMissed_iff false _ hroom).mpr (Or.inr ⟨_, _, rfl, rfl, rfl, rfl⟩)

/-- `-p udp --dport 53`: the rule is reported as if it were open. -/
theorem udp_port_missed : ¬ NeverMissed false [.udp ⟨(0, 65535), (53, 53), 0⟩] 300 := by
  rintro ⟨hnone, -⟩
  have hopen := hnone.mp rfl (.udp ⟨(0, 65535), (53, 53), 0⟩) (List.mem_singleton.mpr rfl)
  exact absurd hopen (by decide)

end IptablesPortUtils

end SecurityAgent
