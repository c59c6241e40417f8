import SecurityAgent.Collectors.FirewallCollector
import SecurityAgent.Iptables.IptablesTexts

/-!
# What the firewall report says

Where every rule has a protocol that can be named, or none, the report has an entry for each
rule of a chain, numbered from 0 in the order of the rules, and then one for the policy with
the next number, chain after chain. One rule with any other protocol, and there is
no report.
-/

namespace SecurityAgent

open Utils IptablesUtils

/-! ## Entries -/

/-- An entry of the report; what is `none` is left out. -/
structure FirewallEntry where
  priority : Nat
  chainName : String
  direction : Option String
  sourceAddress : Option String
  sourcePort : Option String
  destinationAddress : Option String
  destinationPort : Option String
  protocol : Option String
  action : Option String

namespace FirewallEntry

open FirewallCollector

/-- A member that may be left out. -/
def optional (key : String) (value : Option String) : Json.Members :=
  (value.map fun text => (key, Json.string text)).toList

/-- The entry as it is written. -/
def toJson (entry : FirewallEntry) : Json :=
  .object ([(FIREWALL_RULES_ENABLED_KEY, .bool true),
      (FIREWALL_RULES_PRIORITY_KEY, .number entry.priority),
      (FIREWALL_RULES_CHAIN_NAME_KEY, .string entry.chainName)]
    ++ optional FIREWALL_RULES_DIRECTION_KEY entry.direction
    ++ optional FIREWALL_RULES_SRC_ADDRESS_KEY entry.sourceAddress
    ++ optional FIREWALL_RULES_SRC_PORT_KEY entry.sourcePort
    ++ optional FIREWALL_RULES_DEST_ADDRESS_KEY entry.destinationAddress
    ++ optional FIREWALL_RULES_DEST_PORT_KEY entry.destinationPort
    ++ optional FIREWALL_RULES_PROTOCOL_KEY entry.protocol
    ++ optional FIREWALL_RULES_ACTION_KEY entry.action)

end FirewallEntry

/-- What an action is called. -/
def IptablesActionType.name : IptablesActionType → String
  | .allow => FirewallCollector.FIREWALL_ALLOW_RULE
  | .deny => FirewallCollector.FIREWALL_DENY_RULE
  | .other => FirewallCollector.FIREWALL_OTHER_RULE

namespace IptablesChain

open FirewallCollector

/-- The direction of the packets that go through a chain, for the two chains that have one. -/
def direction (chain : IptablesChain) : Option String :=
  if chain.name.text = FIREWALL_INPUT_CHAIN then some FIREWALL_DIRECTION_IN
  else if chain.name.text = FIREWALL_OUTPUT_CHAIN then some FIREWALL_DIRECTION_OUT
  else none

/-- The entry that is meant for a rule. -/
def ruleEntry (chain : IptablesChain) (priority : Nat) (rule : IptEntry) : FirewallEntry where
  priority := priority
  chainName := chain.name.text
  direction := chain.direction
  sourceAddress := rule.addressText true
  sourcePort := rule.portText true
  destinationAddress := rule.addressText false
  destinationPort := rule.portText false
  protocol := rule.protocolText
  action := rule.action.map IptablesActionType.name

/-- The entry that is meant for the policy. -/
def policyEntry (chain : IptablesChain) (priority : Nat) : FirewallEntry where
  priority := priority
  chainName := chain.name.text
  direction := chain.direction
  sourceAddress := none
  sourcePort := none
  destinationAddress := none
  destinationPort := none
  protocol := none
  action := chain.policyAction.map IptablesActionType.name

/-- What is to be reported of a chain: its rules, by their place in it, and the policy. -/
def report (chain : IptablesChain) : List FirewallEntry :=
  chain.rules.mapIdx chain.ruleEntry ++ [chain.policyEntry chain.rules.length]

/-- Every rule of the chain can be reported. -/
def Reportable (chain : IptablesChain) : Prop := ∀ rule ∈ chain.rules, rule.Reportable

instance (chain : IptablesChain) : Decidable chain.Reportable :=
  inferInstanceAs (Decidable (∀ rule ∈ chain.rules, rule.Reportable))

end IptablesChain

/-! ## Writing an entry -/

namespace JsonObjectWriter

open FirewallEntry FirewallCollector

theorem Written.skip {ruleWriter : JsonObjectWriter} {keys : List String} {members : Json.Members}
    (h : Written ruleWriter keys members) (key : String) :
    Written ruleWriter (key :: keys) (members ++ optional key none) where
  rootObject := h.rootObject.trans (List.append_nil _).symm
  mem_keys m hm := List.mem_cons_of_mem _ (h.mem_keys m (List.append_nil members ▸ hm))

/-- An answer is written, or left out where there is none. -/
theorem Written.writeRuleStringElement {ruleWriter : JsonObjectWriter} {keys : List String}
    {members : Json.Members} (h : Written ruleWriter keys members) (key : String)
    (hkey : key ∉ keys) (value : Option String) :
    ∃ ruleWriter', FirewallCollector.writeRuleStringElement (answer value) key ruleWriter
        = some ruleWriter' ∧ Written ruleWriter' (key :: keys) (members ++ optional key value) := by
  cases value with
  | none => exact ⟨ruleWriter, rfl, h.skip key⟩
  | some text => exact ⟨_, rfl, h.add _ hkey (.string text)⟩

theorem Written.writeAction {ruleWriter : JsonObjectWriter} {keys : List String}
    {members : Json.Members} (h : Written ruleWriter keys members)
    (hkey : FIREWALL_RULES_ACTION_KEY ∉ keys) (action : Option IptablesActionType) :
    ∃ ruleWriter', FirewallCollector.writeAction (answer action) ruleWriter = some ruleWriter'
      ∧ ruleWriter'.rootObject
        = members ++ optional FIREWALL_RULES_ACTION_KEY (action.map IptablesActionType.name) := by
  cases action with
  | none => exact ⟨ruleWriter, rfl, (h.skip FIREWALL_RULES_ACTION_KEY).rootObject⟩
  | some actionType =>
      cases actionType with
      | allow => exact ⟨_, rfl, (h.add _ hkey (.string FIREWALL_ALLOW_RULE)).rootObject⟩
      | deny => exact ⟨_, rfl, (h.add _ hkey (.string FIREWALL_DENY_RULE)).rootObject⟩
      | other => exact ⟨_, rfl, (h.add _ hkey (.string FIREWALL_OTHER_RULE)).rootObject⟩

end JsonObjectWriter

namespace FirewallCollector

open FirewallEntry JsonObjectWriter

/-- The keys every entry begins with. -/
def startKeys : List String :=
  [FIREWALL_RULES_DIRECTION_KEY, FIREWALL_RULES_CHAIN_NAME_KEY, FIREWALL_RULES_PRIORITY_KEY,
    FIREWALL_RULES_ENABLED_KEY]

theorem toInt_priority {priority : Nat} (h : priority < 2 ^ 31) :
    (UInt32.ofNat priority).toInt32.toInt = priority := by
  have hnat : (UInt32.ofNat priority).toNat = priority :=
    UInt32.toNat_ofNat_of_lt (Nat.lt_trans h (by decide))
  rw [toInt_toInt32 (by rw [hnat]; exact h), hnat]

theorem written_startEntry (chain : IptablesChain) {priority : Nat} (h : priority < 2 ^ 31) :
    Written (startEntry chain.name.text (UInt32.ofNat priority)) startKeys
      ([(FIREWALL_RULES_ENABLED_KEY, .bool true), (FIREWALL_RULES_PRIORITY_KEY, .number priority),
        (FIREWALL_RULES_CHAIN_NAME_KEY, .string chain.name.text)]
        ++ optional FIREWALL_RULES_DIRECTION_KEY chain.direction) := by
  have henabled := written_init.add FIREWALL_RULES_ENABLED_KEY (by decide) (.bool true)
  have hpriority := henabled.add FIREWALL_RULES_PRIORITY_KEY (by decide)
    (.number (UInt32.ofNat priority).toInt32.toInt)
  have hname := hpriority.add FIREWALL_RULES_CHAIN_NAME_KEY (by decide)
    (.string chain.name.text)
  have hshort := chain.name.length_lt
  have hlength : chain.name.text.length < 2 ^ 32 := by omega
  have hinput : unsafeAreStringsEqual (some chain.name.text) (some FIREWALL_INPUT_CHAIN) true
      = some true ↔ chain.name.text = FIREWALL_INPUT_CHAIN :=
    unsafeAreStringsEqual_iff hlength (by decide)
  have houtput : unsafeAreStringsEqual (some chain.name.text) (some FIREWALL_OUTPUT_CHAIN) true
      = some true ↔ chain.name.text = FIREWALL_OUTPUT_CHAIN :=
    unsafeAreStringsEqual_iff hlength (by decide)
  have hnumber : (.number priority : Json) = .number (UInt32.ofNat priority).toInt32.toInt := by
    rw [toInt_priority h]
    rfl
  unfold startEntry writeRuleDirectionAndChainElements IptablesChain.direction
  dsimp only
  simp only [hinput, houtput, hnumber]
  split
  · exact hname.add FIREWALL_RULES_DIRECTION_KEY (by decide)
      (.string FIREWALL_DIRECTION_IN)
  · split
    · exact hname.add FIREWALL_RULES_DIRECTION_KEY (by decide)
        (.string FIREWALL_DIRECTION_OUT)
    · exact hname.skip FIREWALL_RULES_DIRECTION_KEY

/-- **A rule is written as it is meant to be if its protocol can be said, and not at all
otherwise.** -/
theorem writeRules_eq (chain : IptablesChain) (rule : IptEntry) {priority : Nat}
    (h : priority < 2 ^ 31) :
    writeRules true chain.name.text rule (UInt32.ofNat priority)
      = if rule.Reportable then some (chain.ruleEntry priority rule).toJson else none := by
  have hstart := written_startEntry chain h
  unfold startKeys at hstart
  obtain ⟨w₁, hw₁, h₁⟩ := hstart.writeRuleStringElement
    FIREWALL_RULES_SRC_ADDRESS_KEY (by decide) (rule.addressText true)
  obtain ⟨w₂, hw₂, h₂⟩ := h₁.writeRuleStringElement
    FIREWALL_RULES_SRC_PORT_KEY (by decide) (rule.portText true)
  obtain ⟨w₃, hw₃, h₃⟩ := h₂.writeRuleStringElement
    FIREWALL_RULES_DEST_ADDRESS_KEY (by decide) (rule.addressText false)
  obtain ⟨w₄, hw₄, h₄⟩ := h₃.writeRuleStringElement
    FIREWALL_RULES_DEST_PORT_KEY (by decide) (rule.portText false)
  obtain ⟨w₅, hw₅, h₅⟩ := h₄.writeRuleStringElement
    FIREWALL_RULES_PROTOCOL_KEY (by decide) rule.protocolText
  obtain ⟨w₆, hw₆, h₆⟩ := h₅.writeAction (by decide) rule.action
  have hsrc : IptablesRulesIterator.getSrcIp rule BUFFER_MAX_SIZE
      = answer (rule.addressText true) := rule.getIp_eq true (by decide)
  have hsrcPort : IptablesRulesIterator.getSrcPort rule BUFFER_MAX_SIZE
      = answer (rule.portText true) := IptablesPortUtils.getPort_eq true (by decide) _
  have hdest : IptablesRulesIterator.getDestIp rule BUFFER_MAX_SIZE
      = answer (rule.addressText false) := rule.getIp_eq false (by decide)
  have hdestPort : IptablesRulesIterator.getDestPort rule BUFFER_MAX_SIZE
      = answer (rule.portText false) := IptablesPortUtils.getPort_eq false (by decide) _
  have hprotocol := rule.getProtocol_eq (show 5 < BUFFER_MAX_SIZE by decide)
  have haction := rule.getAction_eq (show 37 < BUFFER_MAX_SIZE by decide)
  unfold writeRules
  rw [if_neg Bool.true_eq_false.mp]
  simp only [hsrc, hsrcPort, hdest, hdestPort, hprotocol, haction, hw₁, hw₂, hw₃, hw₄,
    Option.bind_eq_bind, Option.bind_some]
  by_cases hr : rule.Reportable
  · simp only [if_pos hr, hw₅, hw₆, Option.bind_some, JsonObjectWriter.rootValue, h₆]
    rfl
  · rw [if_neg hr, if_neg hr]
    rfl

/-- The policy is always written. -/
theorem writePolicyRule_eq (chain : IptablesChain) {priority : Nat} (h : priority < 2 ^ 31) :
    writePolicyRule true chain (UInt32.ofNat priority)
      = some (chain.policyEntry priority).toJson := by
  have hstart := written_startEntry chain h
  obtain ⟨w, hw, hmembers⟩ := hstart.writeAction (by decide) chain.policyAction
  unfold writePolicyRule
  rw [if_neg Bool.true_eq_false.mp, chain.getPolicyAction_eq, hw]
  have hnone : ∀ key, optional key none = [] := fun _ => rfl
  unfold IptablesChain.policyEntry toJson
  simp only [Option.map_some, JsonObjectWriter.rootValue, hmembers, hnone, List.append_nil]

/-! ## Chains -/

/-- The entries from a rule on, the number of which is given. -/
theorem iterateRulesFrom_eq (chain : IptablesChain) :
    ∀ (rules : List IptEntry) (priority : Nat), priority + rules.length < 2 ^ 31 →
      iterateRulesFrom (fun _ => true) chain rules (UInt32.ofNat priority)
        = if ∀ rule ∈ rules, rule.Reportable then
            some ((rules.mapIdx fun i rule => (chain.ruleEntry (priority + i) rule).toJson)
              ++ [(chain.policyEntry (priority + rules.length)).toJson])
          else none := by
  intro rules
  induction rules with
  | nil =>
      intro priority h
      have hpriority : priority < 2 ^ 31 := Nat.lt_of_le_of_lt (Nat.le_add_right _ _) h
      have hpolicy := writePolicyRule_eq chain hpriority
      rw [iterateRulesFrom, hpolicy, if_pos fun _ hm => absurd hm List.not_mem_nil]
      rfl
  | cons rule rest ih =>
      intro priority h
      rw [List.length_cons] at h
      have hnext : UInt32.ofNat priority + 1 = UInt32.ofNat (priority + 1) :=
        (UInt32.ofNat_add priority 1).symm
      have hrest := ih (priority + 1) (by omega)
      rw [iterateRulesFrom, writeRules_eq chain rule (by omega), hnext, hrest]
      by_cases hr : rule.Reportable
      · rw [if_pos hr, Option.bind_some]
        by_cases hall : ∀ rule ∈ rest, rule.Reportable
        · rw [if_pos hall, if_pos (List.forall_mem_cons.mpr ⟨hr, hall⟩), Option.map_some,
            List.mapIdx_cons, List.length_cons]
          -- the others count on from here
          have hshift : ∀ i, priority + 1 + i = priority + (i + 1) := fun i => by omega
          simp only [hshift, List.cons_append, Nat.add_zero]
        · rw [if_neg hall, if_neg fun h => hall (List.forall_mem_cons.mp h).2]
          rfl
      · rw [if_neg hr, if_neg fun h => hr (List.forall_mem_cons.mp h).1]
        rfl

/-- **A chain is reported rule by rule and then its policy, or not at all.** -/
theorem iterateRules_eq (chain : IptablesChain) :
    iterateRules true (fun _ => true) chain
      = if chain.Reportable then some (chain.report.map FirewallEntry.toJson) else none := by
  have hrules := iterateRulesFrom_eq chain chain.rules 0
    (by rw [Nat.zero_add]; exact chain.length_rules_lt)
  unfold iterateRules IptablesChain.report IptablesChain.Reportable
  rw [if_neg Bool.true_eq_false.mp]
  refine hrules.trans ?_
  simp only [Nat.zero_add, List.map_append, List.mapIdx_eq_zipIdx_map, List.map_map, List.map_cons,
    List.map_nil]
  rfl

theorem iterateChainsFrom_eq {o : FirewallOutcome} (hiterator : ∀ i, o.rulesIterator i = true)
    (hentry : ∀ i j, o.entry i j = true) :
    ∀ (table : List IptablesChain) (i : Nat), iterateChainsFrom o i table
      = if ∀ chain ∈ table, chain.Reportable then
          some ((table.flatMap IptablesChain.report).map FirewallEntry.toJson)
        else none := by
  intro table
  induction table with
  | nil =>
      intro i
      rw [if_pos fun _ hm => absurd hm List.not_mem_nil]
      rfl
  | cons chain rest ih =>
      intro i
      have hmemory : o.entry i = fun _ => true := funext (hentry i)
      rw [iterateChainsFrom, hiterator, hmemory, iterateRules_eq, ih]
      by_cases hchain : chain.Reportable
      · rw [if_pos hchain, Option.bind_some]
        by_cases hall : ∀ chain ∈ rest, chain.Reportable
        · rw [if_pos hall, if_pos (List.forall_mem_cons.mpr ⟨hchain, hall⟩), Option.map_some,
            List.flatMap_cons, List.map_append]
        · rw [if_neg hall, if_neg fun h => hall (List.forall_mem_cons.mp h).2]
          rfl
      · rw [if_neg hchain, if_neg fun h => hchain (List.forall_mem_cons.mp h).1]
        rfl

end FirewallCollector

/-! ## The report -/

/-- Nothing fails: there is memory and room in the queue, and there are iptables to read. -/
structure FirewallOutcome.Succeeds (clock : Clock) (o : FirewallOutcome) : Prop where
  rootObject : o.rootObject = true
  metadata : o.metadata.Succeeds clock
  array : o.array = true
  changeToRoot : o.changeToRoot = true
  iptcInit : o.iptcInit = .ok
  rulesIterator : ∀ i, o.rulesIterator i = true
  entry : ∀ i j, o.entry i j = true
  payload : o.payload = true
  serialize : o.serialize = true
  push : o.push = true

namespace FirewallCollector

theorem iterateChains_eq {clock : Clock} {o : FirewallOutcome} (ho : o.Succeeds clock)
    (table : List IptablesChain) : iterateChains o table
      = if ∀ chain ∈ table, chain.Reportable then
          some ((table.flatMap IptablesChain.report).map FirewallEntry.toJson)
        else none := by
  unfold iterateChains
  rw [if_neg (by rw [ho.changeToRoot]; exact Bool.true_eq_false.mp), ho.iptcInit]
  exact iterateChainsFrom_eq ho.rulesIterator ho.entry table 0

/--
**The firewall report is complete, or there is none.** If the protocol of every rule can be said,
one event is pushed, and its payload is what is to be reported of each chain, one after the other.
Otherwise the collection fails and nothing is pushed.
-/
theorem firewall_reported {clock : Clock} {o : FirewallOutcome} (ho : o.Succeeds clock)
    (table : List IptablesChain) :
    ((∀ chain ∈ table, chain.Reportable) →
      ∃ event, getEvents clock o table = (.ok, some (.object event))
        ∧ event.lookup GenericEvent.PAYLOAD_KEY
          = some (.array ((table.flatMap IptablesChain.report).map FirewallEntry.toJson)))
    ∧ (¬ (∀ chain ∈ table, chain.Reportable) → getEvents clock o table = (.exception, none)) := by
  obtain ⟨hprints, hid, hwrite⟩ := ho.metadata
  obtain ⟨eventId, hid⟩ := Option.isSome_iff_exists.mp hid
  obtain ⟨localTime, hlocal⟩ := Option.isSome_iff_exists.mp hprints.1
  obtain ⟨utcTime, hutc⟩ := Option.isSome_iff_exists.mp hprints.2
  have hmetadata : ∃ writer, GenericEvent.addMetadata clock o.metadata JsonObjectWriter.init
      GenericEvent.EVENT_PERIODIC_CATEGORY FIREWALL_RULES_NAME
      GenericEvent.EVENT_TYPE_SECURITY_VALUE FIREWALL_RULES_PAYLOAD_SCHEMA_VERSION
      = some writer := by
    unfold GenericEvent.addMetadata GenericEvent.addMetadataWithTimes
    rw [hid, hlocal, hutc]
    exact ⟨_, if_pos hwrite⟩
  obtain ⟨writer, hwriter⟩ := hmetadata
  have hroot : ¬ o.rootObject = false := by rw [ho.rootObject]; exact Bool.true_eq_false.mp
  have harray : ¬ o.array = false := by rw [ho.array]; exact Bool.true_eq_false.mp
  unfold getEvents
  rw [if_neg hroot, hwriter]
  dsimp only
  rw [if_neg harray, iterateChains_eq ho]
  unfold pushReport
  constructor
  · intro hall
    rw [if_pos hall]
    unfold GenericEvent.addPayload
    dsimp only
    rw [if_pos ho.payload]
    dsimp only
    rw [if_pos ⟨ho.serialize, ho.push⟩]
    refine ⟨_, rfl, ?_⟩
    unfold JsonObjectWriter.writeArray
    rw [JsonObjectWriter.lookup_setValue, if_pos rfl]
  · intro hnot
    rw [if_neg hnot]

/-! ## One rule -/

/-- A rule for all addresses that accepts packets of a protocol. -/
def acceptRule (proto : UInt16) : IptEntry :=
  ⟨0, 0, 0, 0, proto, 0, 0, [], some ⟨"ACCEPT", by decide⟩⟩

/-- The chain of what comes in, with one rule. -/
def inputChain (rule : IptEntry) : IptablesChain where
  name := ⟨"INPUT", by decide⟩
  builtin := true
  policy := some ⟨"DROP", by decide⟩
  rules := [rule]
  policy_of_builtin _ := rfl
  rules_fit := by
    show 1 * sizeofIptEntry < 2 ^ 32
    decide

/-- The hour is always the same. -/
def firewallClock : Clock := ⟨fun _ => some "", fun _ => some ""⟩

/-- Nothing fails. -/
def firewallAnswer : FirewallOutcome :=
  ⟨true, ⟨0, some "", true⟩, true, true, .ok, fun _ => true, fun _ _ => true, true, true, true⟩

theorem firewallAnswer_succeeds : firewallAnswer.Succeeds firewallClock :=
  ⟨rfl, ⟨⟨rfl, rfl⟩, rfl, rfl⟩, rfl, rfl, rfl, fun _ => rfl, fun _ _ => rfl, rfl, rfl, rfl⟩

/-- **A rule for the packets of `ipv6` in `ip`, and nothing is reported.** -/
theorem firewall_not_reported :
    ¬ ∀ (clock : Clock) (o : FirewallOutcome) (table : List IptablesChain), o.Succeeds clock →
      ∃ event, getEvents clock o table = (.ok, some (.object event))
        ∧ event.lookup GenericEvent.PAYLOAD_KEY
          = some (.array ((table.flatMap IptablesChain.report).map FirewallEntry.toJson)) := by
  intro h
  obtain ⟨event, hevent, -⟩ := h firewallClock firewallAnswer [inputChain (acceptRule 41)]
    firewallAnswer_succeeds
  have hfails : (getEvents firewallClock firewallAnswer [inputChain (acceptRule 41)]).1
      = .exception := by decide
  rw [hevent] at hfails
  cases hfails

/-- A rule for `tcp`, and the policy. -/
theorem firewall_reported_tcp :
    ∃ event, getEvents firewallClock firewallAnswer [inputChain (acceptRule 6)]
        = (.ok, some (.object event))
      ∧ event.lookup GenericEvent.PAYLOAD_KEY
        = some (.array ([
          ⟨0, "INPUT", some "In", none, none, none, none, some "tcp", some "Allow"⟩,
          ⟨1, "INPUT", some "In", none, none, none, none, none, some "Deny"⟩].map
            FirewallEntry.toJson)) := by
  have hall : ∀ chain ∈ [inputChain (acceptRule 6)], chain.Reportable := by decide
  have hreport := (firewall_reported firewallAnswer_succeeds [inputChain (acceptRule 6)]).1 hall
  exact hreport

end FirewallCollector

end SecurityAgent
