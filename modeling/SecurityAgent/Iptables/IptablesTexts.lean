import SecurityAgent.Iptables.IptablesUtils

/-!
# There is room for every text

What is asked of a rule is written to a buffer of 300 bytes. No text is that long, so
that what comes back is the text that is meant: the functions here give it without a buffer,
and `none` where the rule does not restrict what is asked for.
-/

namespace SecurityAgent

open Utils IptablesUtils

theorem writeText_of_lt {bufferSize : Nat} {text : String} (h : text.length < bufferSize) :
    writeText bufferSize text = .ok text := by
  unfold writeText concatenateToString
  rw [if_neg (Nat.not_le.mpr h), String.empty_append]

theorem eq_of_writeText {bufferSize : Nat} {text buffer : String}
    (h : writeText bufferSize text = .ok buffer) : buffer = text := by
  unfold writeText concatenateToString at h
  split at h
  · cases h
  · next hwritten =>
      split at hwritten
      · cases hwritten
      · cases hwritten
        cases h
        exact String.empty_append

/-! ## Lengths -/

theorem length_port_le (port : UInt16) : (toString port.toNat).length ≤ 5 := by
  have hlt := port.toNat_lt
  exact length_toString_le (by omega) (by omega)

theorem length_portRange_le (low high : UInt16) :
    (toString low.toNat ++ "-" ++ toString high.toNat).length ≤ 11 := by
  have hlow := length_port_le low
  have hhigh := length_port_le high
  have hdash : "-".length = 1 := rfl
  simp only [String.length_append, hdash]
  omega

theorem length_byte_le (n : UInt32) : (toString (n &&& 0xFF).toNat).length ≤ 3 := by
  have hle : (n &&& 0xFF).toNat ≤ 255 := by
    rw [UInt32.toNat_and]
    exact Nat.and_le_right
  exact length_toString_le (by omega) (by omega)

theorem length_ipBytes_le (n : UInt32) : (ipBytes n).length ≤ 15 := by
  have h₁ := length_byte_le (n >>> 24)
  have h₂ := length_byte_le (n >>> 16)
  have h₃ := length_byte_le (n >>> 8)
  have h₄ := length_byte_le n
  have hdot : ".".length = 1 := rfl
  unfold ipBytes
  simp only [String.length_append, hdot]
  omega

theorem length_ite_le {c : Prop} [Decidable c] {s t : String} {k : Nat} (hs : s.length ≤ k)
    (ht : t.length ≤ k) : (if c then s else t).length ≤ k := by
  split
  · exact hs
  · exact ht

/-! The marks of a negation, where there is one. -/

theorem length_negate_le (c : Prop) [Decidable c] :
    (if c then IPTABLES_NEGATE else IPTABLES_EMPTY).length ≤ 1 :=
  length_ite_le (Nat.le_refl 1) (Nat.zero_le 1)

theorem length_expressionStart_le (c : Prop) [Decidable c] :
    (if c then IPTABLES_NEGATE_EXPRESSION_START else IPTABLES_EMPTY).length ≤ 2 :=
  length_ite_le (Nat.le_refl 2) (Nat.zero_le 2)

theorem length_expressionEnd_le (c : Prop) [Decidable c] :
    (if c then IPTABLES_NEGATE_EXPRESSION_END else IPTABLES_EMPTY).length ≤ 1 :=
  length_ite_le (Nat.le_refl 1) (Nat.zero_le 1)

/-- The answer that is meant. -/
def answer {α : Type} : Option α → Except IptablesResult α
  | none => .error .noData
  | some value => .ok value

theorem writeText_answer {bufferSize k : Nat} {text : String} (h : text.length ≤ k)
    (hk : k < bufferSize) : writeText bufferSize text = answer (some text) :=
  writeText_of_lt (Nat.lt_of_le_of_lt h hk)

/-! ## Addresses -/

namespace IptablesUtils

/-- What stands behind an address. -/
def maskText (mask : UInt32) : String :=
  if (findMask mask 32 0xffffffff 0).1 then
    "/" ++ toString (32 - (findMask mask 32 0xffffffff 0).2)
  else if mask = 0 then "" else "/" ++ ipBytes mask

/-- An address with its mask. -/
def ipText (ip mask : UInt32) (invert : Bool) : Option String :=
  if ip = 0 ∧ mask = 0 then none
  else some ((if invert then IPTABLES_NEGATE else IPTABLES_EMPTY) ++ ipBytes ip ++ maskText mask)

theorem length_maskText_le (mask : UInt32) : (maskText mask).length ≤ 16 := by
  have hslash : "/".length = 1 := rfl
  have hbits : ∀ i, (toString (32 - i)).length ≤ 2 := fun i =>
    length_toString_le (by omega) (by omega)
  have hmask := length_ipBytes_le mask
  unfold maskText
  split
  · have hlen := hbits (findMask mask 32 0xffffffff 0).2
    rw [String.length_append, hslash]
    omega
  · refine length_ite_le (Nat.zero_le _) ?_
    rw [String.length_append, hslash]
    omega

/-- What is written, whatever the size of the buffer. -/
theorem formatIp_writeText {ip mask : UInt32} (hno : ¬ (ip = 0 ∧ mask = 0)) (invert : Bool)
    (bufferSize : Nat) :
    formatIp ip mask invert bufferSize = writeText bufferSize
      ((if invert then IPTABLES_NEGATE else IPTABLES_EMPTY) ++ ipBytes ip ++ maskText mask) := by
  -- the three forms of the mask
  unfold formatIp maskText
  rw [if_neg hno]
  dsimp only
  split
  · simp only [String.append_assoc]
  · split
    · rw [String.append_empty]
    · simp only [String.append_assoc]

theorem formatIp_eq (ip mask : UInt32) (invert : Bool) {bufferSize : Nat} (h : 32 < bufferSize) :
    formatIp ip mask invert bufferSize = answer (ipText ip mask invert) := by
  by_cases hno : ip = 0 ∧ mask = 0
  · unfold formatIp ipText
    rw [if_pos hno, if_pos hno]
    rfl
  have hfront := length_negate_le (invert = true)
  have hip := length_ipBytes_le ip
  have hlen := length_maskText_le mask
  have htext : ((if invert = true then IPTABLES_NEGATE else IPTABLES_EMPTY) ++ ipBytes ip
      ++ maskText mask).length ≤ 32 := by
    rw [String.length_append, String.length_append]
    omega
  unfold ipText
  rw [formatIp_writeText hno, if_neg hno]
  exact writeText_answer htext h

end IptablesUtils

namespace IptablesIprange

/-- A range of addresses. -/
def rangedIpText (minIp maxIp : UInt32) (invert : Bool) : String :=
  (if invert then IPTABLES_NEGATE_EXPRESSION_START else IPTABLES_EMPTY) ++ ipBytes minIp ++ "-"
    ++ ipBytes maxIp ++ (if invert then IPTABLES_NEGATE_EXPRESSION_END else IPTABLES_EMPTY)

/-- The range a match gives for one side. -/
def rangeOfMatch (isSrcIp : Bool) : EntryMatch → Option String
  | .iprange info =>
      if isSrcIp = true ∧ info.flags &&& IPRANGE_SRC ≠ 0 then
        some (rangedIpText info.srcMin info.srcMax (info.flags &&& IPRANGE_SRC_INV ≠ 0))
      else if isSrcIp = false ∧ info.flags &&& IPRANGE_DST ≠ 0 then
        some (rangedIpText info.dstMin info.dstMax (info.flags &&& IPRANGE_DST_INV ≠ 0))
      else none
  | .tcp _ | .udp _ | .multiport _ | .other _ => none

theorem formatRangedIp_eq (minIp maxIp : UInt32) (invert : Bool) {bufferSize : Nat}
    (h : 34 < bufferSize) :
    formatRangedIp minIp maxIp invert bufferSize = .ok (rangedIpText minIp maxIp invert) := by
  refine writeText_of_lt (Nat.lt_of_le_of_lt ?_ h)
  have hmin := length_ipBytes_le minIp
  have hmax := length_ipBytes_le maxIp
  have hdash : "-".length = 1 := rfl
  have hfront := length_expressionStart_le (invert = true)
  have hback := length_expressionEnd_le (invert = true)
  simp only [String.length_append, hdash]
  omega

theorem tryGetRangedIp_eq (isSrcIp : Bool) {bufferSize : Nat} (h : 34 < bufferSize) :
    ∀ entryMatches : List EntryMatch, tryGetRangedIp isSrcIp bufferSize entryMatches
      = answer (entryMatches.findSome? (rangeOfMatch isSrcIp)) := by
  intro entryMatches
  induction entryMatches with
  | nil => rfl
  | cons m rest ih =>
      rw [List.findSome?_cons]
      cases m with
      | iprange info =>
          unfold tryGetRangedIp
          rw [formatRangedIp_eq _ _ _ h, formatRangedIp_eq _ _ _ h, ih]
          by_cases hsrc : isSrcIp = true ∧ info.flags &&& IPRANGE_SRC ≠ 0
          · have hrange : rangeOfMatch isSrcIp (.iprange info) = some _ := if_pos hsrc
            rw [if_pos hsrc, hrange]
            rfl
          by_cases hdst : isSrcIp = false ∧ info.flags &&& IPRANGE_DST ≠ 0
          · have hrange : rangeOfMatch isSrcIp (.iprange info) = some _ :=
              (if_neg hsrc).trans (if_pos hdst)
            rw [if_neg hsrc, if_pos hdst, hrange]
            rfl
          · have hrange : rangeOfMatch isSrcIp (.iprange info) = none :=
              (if_neg hsrc).trans (if_neg hdst)
            rw [if_neg hsrc, if_neg hdst, hrange]
      | tcp | udp | multiport | other => exact ih

end IptablesIprange

namespace IptEntry

/-- The address of one side: a range goes before the address of the rule itself. -/
def addressText (entry : IptEntry) (isSrcIp : Bool) : Option String :=
  (entry.entryMatches.findSome? (IptablesIprange.rangeOfMatch isSrcIp)).or
    (if isSrcIp then
      ipText entry.src entry.smsk (entry.invflags &&& IptablesIpUtils.IPT_INV_SRCIP ≠ 0)
    else ipText entry.dst entry.dmsk (entry.invflags &&& IptablesIpUtils.IPT_INV_DSTIP ≠ 0))

theorem getIp_eq (entry : IptEntry) (isSrcIp : Bool) {bufferSize : Nat} (h : 34 < bufferSize) :
    IptablesIpUtils.getIp entry isSrcIp bufferSize = answer (entry.addressText isSrcIp) := by
  unfold IptablesIpUtils.getIp addressText
  rw [IptablesIprange.tryGetRangedIp_eq isSrcIp h]
  cases entry.entryMatches.findSome? (IptablesIprange.rangeOfMatch isSrcIp) with
  | some text => rfl
  | none =>
      unfold IptablesIpUtils.getRegularIp
      rw [formatIp_eq _ _ _ (by omega), formatIp_eq _ _ _ (by omega)]
      cases isSrcIp <;> rfl

end IptEntry

/-! ## Ports -/

namespace IptablesUtils

/-- A range of ports. -/
def rangedPortsText (lowPort highPort : UInt16) (invert : Bool) : Option String :=
  if lowPort ≠ MIN_PORT ∨ highPort ≠ MAX_PORT then
    some (if lowPort = highPort then
      (if invert then IPTABLES_NEGATE_EXPRESSION_START else IPTABLES_EMPTY)
        ++ toString lowPort.toNat ++ " "
    else
      (if invert then IPTABLES_NEGATE_EXPRESSION_START else IPTABLES_EMPTY)
        ++ toString lowPort.toNat ++ "-" ++ toString highPort.toNat
        ++ (if invert then IPTABLES_NEGATE_EXPRESSION_END else IPTABLES_EMPTY))
  else none

theorem formatRangedPorts_eq (lowPort highPort : UInt16) (invert : Bool) {bufferSize : Nat}
    (h : 14 < bufferSize) : formatRangedPorts lowPort highPort invert bufferSize
      = answer (rangedPortsText lowPort highPort invert) := by
  have hlow := length_port_le lowPort
  have hhigh := length_port_le highPort
  have hdash : "-".length = 1 := rfl
  have hblank : " ".length = 1 := rfl
  have hfront := length_expressionStart_le (invert = true)
  have hback := length_expressionEnd_le (invert = true)
  unfold formatRangedPorts rangedPortsText
  split
  · dsimp only
    split
    · refine writeText_answer (k := 14) ?_ h
      simp only [String.length_append, hblank]
      omega
    · refine writeText_answer (k := 14) ?_ h
      simp only [String.length_append, hdash]
      omega
  · rfl

end IptablesUtils

namespace IptablesMultiport

/-- The ports from an index on. -/
def portsText (count : Nat) (ports : Nat → UInt16) (pflags : Nat → UInt8) : Nat → Nat → String
  | 0, _ => ""
  | rounds + 1, j =>
      if j < count then
        (if decide (j > 0) then "," else "")
          ++ (if pflags j &&& MULTIPORT_RANGE_FLAG ≠ 0 then
            toString (ports j).toNat ++ "-" ++ toString (ports (j + 1)).toNat
              ++ portsText count ports pflags rounds (j + 2)
          else toString (ports j).toNat ++ portsText count ports pflags rounds (j + 1))
      else ""

/-- There is room for what is added, and it is added. -/
theorem concatenateToString_fits {buffer text : String} {room k : Nat} (h : text.length ≤ k)
    (hk : k < room) :
    concatenateToString buffer room text = some (buffer ++ text, room - text.length) := by
  unfold concatenateToString
  exact if_neg (Nat.not_le.mpr (Nat.lt_of_le_of_lt h hk))

theorem writeIf_fits (condition : Bool) {buffer text : String} {room k : Nat} (h : text.length ≤ k)
    (hk : k < room) :
    writeIf condition text (buffer, room) = some (buffer ++ (if condition then text else ""),
      room - (if condition then text else "").length) := by
  unfold writeIf
  cases condition with
  | false => exact congrArg some (Prod.ext String.append_empty.symm rfl)
  | true => exact concatenateToString_fits h hk

/-- A round writes at most a comma and two ports. -/
theorem formatPorts_eq {count : Nat} {ports : Nat → UInt16} {pflags : Nat → UInt8} :
    ∀ (rounds j : Nat) (buffer : String) (room : Nat), 12 * rounds < room →
      ∃ room', formatPorts count ports pflags rounds j (buffer, room)
          = some (buffer ++ portsText count ports pflags rounds j, room')
        ∧ room ≤ room' + 12 * rounds := by
  intro rounds
  induction rounds with
  | zero =>
      intro j buffer room _
      exact ⟨room, by rw [portsText, String.append_empty, formatPorts], Nat.le_add_right _ _⟩
  | succ rounds ih =>
      intro j buffer room hroom
      unfold formatPorts portsText
      by_cases hj : j < count
      swap
      · rw [if_neg hj, if_neg hj, String.append_empty]
        exact ⟨room, rfl, Nat.le_add_right _ _⟩
      rw [if_pos hj, if_pos hj, writeIf_fits (k := 1) _ (by decide) (by omega), Option.bind_some]
      have hcomma : (if decide (j > 0) then "," else "").length ≤ 1 :=
        length_ite_le (by decide) (by decide)
      have hfirst := length_port_le (ports j)
      have hrange := length_portRange_le (ports j) (ports (j + 1))
      dsimp only
      by_cases hflag : pflags j &&& MULTIPORT_RANGE_FLAG ≠ 0
      · rw [if_pos hflag, if_pos hflag, concatenateToString_fits hrange (by omega),
          Option.bind_some]
        obtain ⟨room', hrest, hleft⟩ := ih (j + 2) (buffer ++ (if decide (j > 0) then "," else "")
          ++ (toString (ports j).toNat ++ "-" ++ toString (ports (j + 1)).toNat))
          (room - (if decide (j > 0) then "," else "").length
            - (toString (ports j).toNat ++ "-" ++ toString (ports (j + 1)).toNat).length) (by omega)
        refine ⟨room', hrest.trans ?_, by omega⟩
        simp only [String.append_assoc]
      · rw [if_neg hflag, if_neg hflag, concatenateToString_fits hfirst (by omega),
          Option.bind_some]
        obtain ⟨room', hrest, hleft⟩ := ih (j + 1) (buffer ++ (if decide (j > 0) then "," else "")
          ++ toString (ports j).toNat)
          (room - (if decide (j > 0) then "," else "").length - (toString (ports j).toNat).length)
          (by omega)
        refine ⟨room', hrest.trans ?_, by omega⟩
        simp only [String.append_assoc]

/-- All the ports of a match. -/
def multiportText : MultiportData → String
  | .revision0 info => portsText info.count.toNat info.ports (fun _ => 0) info.count.toNat 0
  | .revision1 info =>
      let invert : Bool := info.invert &&& MULTIPORT_INVERT_FLAG ≠ 0
      (if invert then IPTABLES_NEGATE_EXPRESSION_START else "")
        ++ portsText info.count.toNat info.ports info.pflags info.count.toNat 0
        ++ (if invert then IPTABLES_NEGATE_EXPRESSION_END else "")
  | .otherSize _ => ""

theorem formatMultiportMatch_eq (info : XtMultiport) {bufferSize : Nat} (h : 183 < bufferSize) :
    formatMultiportMatch info bufferSize = .ok (multiportText (.revision0 info)) := by
  have hcount := info.count_le
  unfold XT_MULTI_PORTS at hcount
  obtain ⟨room, hports, -⟩ := @formatPorts_eq info.count.toNat info.ports (fun _ => 0)
    info.count.toNat 0 "" bufferSize (by omega)
  unfold formatMultiportMatch
  rw [hports, String.empty_append]
  rfl

theorem formatMultiportV1Match_eq (info : XtMultiportV1) {bufferSize : Nat} (h : 183 < bufferSize) :
    formatMultiportV1Match info bufferSize = .ok (multiportText (.revision1 info)) := by
  have hcount := info.count_le
  unfold XT_MULTI_PORTS at hcount
  unfold formatMultiportV1Match multiportText
  dsimp only
  generalize (decide (info.invert &&& MULTIPORT_INVERT_FLAG ≠ 0)) = invert
  have hstart : (if invert then IPTABLES_NEGATE_EXPRESSION_START else "").length ≤ 2 :=
    length_expressionStart_le (invert = true)
  rw [writeIf_fits (k := 2) _ (by decide) (by omega), Option.bind_some, String.empty_append]
  obtain ⟨room, hports, hroom⟩ := @formatPorts_eq info.count.toNat info.ports info.pflags
    info.count.toNat 0 (if invert then IPTABLES_NEGATE_EXPRESSION_START else "")
    (bufferSize - (if invert then IPTABLES_NEGATE_EXPRESSION_START else "").length) (by omega)
  rw [hports, Option.bind_some, writeIf_fits (k := 1) _ (by decide) (by omega)]

/-- The ports a match gives for one side. -/
def portsOfData (isSrcPorts : Bool) (data : MultiportData) : Option String :=
  if isSrcPorts = true ∧ data.flags = XT_MULTIPORT_DESTINATION
      ∨ isSrcPorts = false ∧ data.flags = XT_MULTIPORT_SOURCE then none
  else some (multiportText data)

theorem getPorts_eq (data : MultiportData) (isSrcPorts : Bool) {bufferSize : Nat}
    (h : 183 < bufferSize) :
    getPorts data isSrcPorts bufferSize = answer (portsOfData isSrcPorts data) := by
  unfold getPorts portsOfData
  by_cases hsrc : isSrcPorts = true ∧ data.flags = XT_MULTIPORT_DESTINATION
  · rw [if_pos hsrc, if_pos (Or.inl hsrc)]
    rfl
  rw [if_neg hsrc]
  by_cases hdst : isSrcPorts = false ∧ data.flags = XT_MULTIPORT_SOURCE
  · rw [if_pos hdst, if_pos (Or.inr hdst)]
    rfl
  rw [if_neg hdst, if_neg (not_or.mpr ⟨hsrc, hdst⟩)]
  cases data with
  | revision0 info => exact formatMultiportMatch_eq info h
  | revision1 info => exact formatMultiportV1Match_eq info h
  | otherSize flags => rfl

end IptablesMultiport

namespace IptablesPortUtils

/-- The ports a match of any kind gives for one side. -/
def portsOfMatch (isSrcPorts : Bool) : EntryMatch → Option String
  | .tcp info =>
      if isSrcPorts then
        rangedPortsText info.spts.1 info.spts.2 (info.invflags &&& XT_TCP_INV_SRCPT ≠ 0)
      else rangedPortsText info.dpts.1 info.dpts.2 (info.invflags &&& XT_TCP_INV_DSTPT ≠ 0)
  | .multiport data => IptablesMultiport.portsOfData isSrcPorts data
  | .iprange _ | .udp _ | .other _ => none

theorem getPortsOfMatch_eq (isSrcPorts : Bool) {bufferSize : Nat} (h : 183 < bufferSize)
    (m : EntryMatch) :
    getPortsOfMatch isSrcPorts bufferSize m = answer (portsOfMatch isSrcPorts m) := by
  cases m with
  | tcp info =>
      have hroom : 14 < bufferSize := by omega
      cases isSrcPorts with
      | true => exact formatRangedPorts_eq _ _ _ hroom
      | false => exact formatRangedPorts_eq _ _ _ hroom
  | multiport data => exact IptablesMultiport.getPorts_eq data isSrcPorts h
  | iprange | udp | other => rfl

theorem getPort_eq (isSrcPorts : Bool) {bufferSize : Nat} (h : 183 < bufferSize) :
    ∀ entryMatches : List EntryMatch, getPort isSrcPorts bufferSize entryMatches
      = answer (entryMatches.findSome? (portsOfMatch isSrcPorts)) := by
  intro entryMatches
  induction entryMatches with
  | nil => rfl
  | cons m rest ih =>
      unfold getPort
      rw [getPortsOfMatch_eq isSrcPorts h, List.findSome?_cons]
      cases portsOfMatch isSrcPorts m with
      | none => exact ih
      | some text => rfl

end IptablesPortUtils

/-! ## Protocols and actions -/

/-- Two strings are compared by their lengths first, which are cut to 32 bits. -/
theorem unsafeAreStringsEqual_iff {first second : String} (hfirst : first.length < 2 ^ 32)
    (hsecond : second.length < 2 ^ 32) :
    unsafeAreStringsEqual (some first) (some second) true = some true ↔ first = second := by
  rw [unsafeAreStringsEqual_eq hfirst hsecond, if_pos rfl, Option.some.injEq, beq_iff_eq,
    String.toList_inj]

theorem IptablesName.equals_iff (name : IptablesName) (text : String) (h : text.length < 2 ^ 32) :
    unsafeAreStringsEqual (some text) (some name.text) true = some true ↔ name.text = text := by
  have hname := name.length_lt
  rw [unsafeAreStringsEqual_iff h (by omega)]
  exact eq_comm

/-- What a target or a policy of this name does. -/
def actionOf (name : String) : IptablesActionType :=
  if name = IPTABLES_ACCEPT_VERDICT then .allow
  else if name = IPTABLES_REJECT_VERDICT ∨ name = IPTABLES_DROP_VERDICT then .deny
  else .other

theorem getActionTypeEnumFromActionString_eq (name : IptablesName) :
    getActionTypeEnumFromActionString (some name.text) = .ok (actionOf name.text) := by
  have haccept := name.equals_iff IPTABLES_ACCEPT_VERDICT (by decide)
  have hreject := name.equals_iff IPTABLES_REJECT_VERDICT (by decide)
  have hdrop := name.equals_iff IPTABLES_DROP_VERDICT (by decide)
  unfold getActionTypeEnumFromActionString actionOf
  rw [if_neg (Option.some_ne_none _)]
  simp only [haccept, hreject, hdrop]
  split
  · rfl
  · split <;> rfl

namespace IptEntry

/-- The ports of one side: those of the first match that restricts them. -/
def portText (entry : IptEntry) (isSrcPorts : Bool) : Option String :=
  entry.entryMatches.findSome? (IptablesPortUtils.portsOfMatch isSrcPorts)

/-- The protocol can be said: there is none, or it has a name. -/
def Reportable (entry : IptEntry) : Prop :=
  entry.proto = 0 ∨ entry.proto = IPPROTO_TCP ∨ entry.proto = IPPROTO_UDP
    ∨ entry.proto = IPPROTO_ICMP

instance (entry : IptEntry) : Decidable entry.Reportable :=
  inferInstanceAs (Decidable (_ ∨ _ ∨ _ ∨ _))

/-- The name of the protocol. -/
def protocolText (entry : IptEntry) : Option String :=
  if entry.proto = 0 then none
  else (protocolString entry.proto).map fun name =>
    (if entry.invflags &&& IptablesRulesIterator.IPT_INV_PROTO ≠ 0 then IPTABLES_NEGATE
      else IPTABLES_EMPTY) ++ name

theorem protocolString_eq_none_iff (protocol : UInt16) :
    protocolString protocol = none
      ↔ ¬ (protocol = IPPROTO_TCP ∨ protocol = IPPROTO_UDP ∨ protocol = IPPROTO_ICMP) := by
  unfold protocolString
  by_cases htcp : protocol = IPPROTO_TCP
  · rw [if_pos htcp]
    exact ⟨fun h => (by cases h), fun h => absurd (Or.inl htcp) h⟩
  by_cases hudp : protocol = IPPROTO_UDP
  · rw [if_neg htcp, if_pos hudp]
    exact ⟨fun h => (by cases h), fun h => absurd (Or.inr (Or.inl hudp)) h⟩
  by_cases hicmp : protocol = IPPROTO_ICMP
  · rw [if_neg htcp, if_neg hudp, if_pos hicmp]
    exact ⟨fun h => (by cases h), fun h => absurd (Or.inr (Or.inr hicmp)) h⟩
  · rw [if_neg htcp, if_neg hudp, if_neg hicmp]
    exact ⟨fun _ hnamed => hnamed.elim htcp fun h => h.elim hudp hicmp, fun _ => rfl⟩

theorem length_protocolString_le {protocol : UInt16} {name : String}
    (h : protocolString protocol = some name) : name.length ≤ 4 := by
  unfold protocolString at h
  split at h
  · exact (Option.some.inj h) ▸ by decide
  · split at h
    · exact (Option.some.inj h) ▸ by decide
    · split at h
      · exact (Option.some.inj h) ▸ by decide
      · cases h

/-- **A protocol without a name is an error**, any other is said. -/
theorem getProtocol_eq (entry : IptEntry) {bufferSize : Nat} (h : 5 < bufferSize) :
    IptablesRulesIterator.getProtocol entry bufferSize
      = if entry.Reportable then answer entry.protocolText else .error .exception := by
  unfold IptablesRulesIterator.getProtocol protocolText formatProtocol
  by_cases hzero : entry.proto = 0
  · have hr : entry.Reportable := Or.inl hzero
    rw [if_pos hzero, if_pos hzero, if_pos hr]
    rfl
  rw [if_neg hzero, if_neg hzero]
  cases hname : protocolString entry.proto with
  | none =>
      have hnot := (protocolString_eq_none_iff _).mp hname
      rw [if_neg fun hr : entry.Reportable => hnot (hr.resolve_left hzero)]
  | some name =>
      have hr : entry.Reportable := Or.inr (Classical.byContradiction fun hno => by
        rw [(protocolString_eq_none_iff _).mpr hno] at hname
        cases hname)
      have hlen := length_protocolString_le hname
      have hfront := length_negate_le
        (decide (entry.invflags &&& IptablesRulesIterator.IPT_INV_PROTO ≠ 0) = true)
      rw [if_pos hr]
      dsimp only
      rw [writeText_answer (k := 5) (by rw [String.length_append]; omega) h]
      simp only [decide_eq_true_eq, Option.map_some]

/-- What the rule does with a packet: its target by its name. -/
def action (entry : IptEntry) : Option IptablesActionType :=
  match entry.target with
  | none => none
  | some targetName => if targetName.text = "" then none else some (actionOf targetName.text)

/-- Whether there is a `goto` or not, there is room for the name of the target. -/
theorem getAction_eq (entry : IptEntry) {bufferSize : Nat} (h : 37 < bufferSize) :
    (IptablesRulesIterator.getAction entry bufferSize).map Prod.fst = answer entry.action := by
  unfold IptablesRulesIterator.getAction action
  cases entry.target with
  | none => rfl
  | some targetName =>
      dsimp only
      by_cases hempty : targetName.text = ""
      · rw [if_pos hempty, if_pos hempty]
        rfl
      rw [if_neg hempty, if_neg hempty, getActionTypeEnumFromActionString_eq]
      have hname := targetName.length_lt
      have hgoto : ("goto " ++ targetName.text).length < bufferSize := by
        have hlen : "goto ".length = 5 := rfl
        rw [String.length_append, hlen]
        omega
      rw [writeText_of_lt hgoto, writeText_of_lt (by omega)]
      dsimp only
      split
      · rfl
      · split <;> rfl

end IptEntry

namespace IptablesChain

/-- What the chain does with a packet that no rule decides. -/
def policyAction (chain : IptablesChain) : Option IptablesActionType :=
  if chain.builtin then chain.policy.map fun policy => actionOf policy.text else none

theorem getPolicyAction_eq (chain : IptablesChain) :
    IptablesIterator.getPolicyAction chain = answer chain.policyAction := by
  unfold IptablesIterator.getPolicyAction policyAction
  cases hbuiltin : chain.builtin with
  | false => rfl
  | true =>
      obtain ⟨policy, hpolicy⟩ := Option.isSome_iff_exists.mp (chain.policy_of_builtin hbuiltin)
      simp only [hpolicy, Bool.true_eq_false, if_false, if_true, Option.map_some]
      exact getActionTypeEnumFromActionString_eq policy

end IptablesChain

end SecurityAgent
