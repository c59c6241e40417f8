import SecurityAgent.Collectors.GenericEvent
import SecurityAgent.Iptables.IptablesUtils

/-!
# The firewall: `firewall_collector.c`

One event reports the whole table. Chain by chain every rule becomes an entry, and after
the rules of a chain comes an entry for its policy.
-/

namespace SecurityAgent

open Utils

/-- What `IptablesIterator_Init` gets from the system. -/
inductive IptcInit where
  | ok
  /-- `malloc` returns `NULL`. -/
  | noMemory
  /-- `iptc_init` fails with `ENOPROTOOPT`: there are no iptables. -/
  | noProtocolOption
  | failed
  deriving DecidableEq, Repr

/-- What the environment answers while the firewall is reported. -/
structure FirewallOutcome where
  /-- `JsonObjectWriter_Init` for the event. -/
  rootObject : Bool
  metadata : MetadataOutcome
  /-- `JsonArrayWriter_Init`. -/
  array : Bool
  /-- `ProcessInfoHandler_ChangeToRoot`. -/
  changeToRoot : Bool
  iptcInit : IptcInit
  /-- The allocations of `IptablesRulesIterator_Init`, by the index of the chain. -/
  rulesIterator : Nat → Bool
  /-- The JSON calls for an entry, by the index of its chain and its own. -/
  entry : Nat → Nat → Bool
  /-- The writes of `GenericEvent_AddPayload`. -/
  payload : Bool
  serialize : Bool
  /-- `SyncQueue_PushBack` returns `QUEUE_OK`. -/
  push : Bool

namespace FirewallCollector

def BUFFER_MAX_SIZE : Nat := 300
def FIREWALL_ALLOW_RULE : String := "Allow"
def FIREWALL_DENY_RULE : String := "Deny"
def FIREWALL_OTHER_RULE : String := "Other"
def FIREWALL_INPUT_CHAIN : String := "INPUT"
def FIREWALL_OUTPUT_CHAIN : String := "OUTPUT"
def FIREWALL_DIRECTION_IN : String := "In"
def FIREWALL_DIRECTION_OUT : String := "Out"
def FIREWALL_RULES_NAME : String := "FirewallConfiguration"
def FIREWALL_RULES_PAYLOAD_SCHEMA_VERSION : String := "1.0"
def FIREWALL_RULES_ENABLED_KEY : String := "Enabled"
def FIREWALL_RULES_ACTION_KEY : String := "Action"
def FIREWALL_RULES_PROTOCOL_KEY : String := "Protocol"
def FIREWALL_RULES_CHAIN_NAME_KEY : String := "ChainName"
def FIREWALL_RULES_DIRECTION_KEY : String := "Direction"
def FIREWALL_RULES_PRIORITY_KEY : String := "Priority"
def FIREWALL_RULES_SRC_ADDRESS_KEY : String := "SourceAddress"
def FIREWALL_RULES_SRC_PORT_KEY : String := "SourcePort"
def FIREWALL_RULES_DEST_ADDRESS_KEY : String := "DestinationAddress"
def FIREWALL_RULES_DEST_PORT_KEY : String := "DestinationPort"

/-- `FirewallCollector_WriteRuleStringElement`. -/
def writeRuleStringElement (iptablesResult : Except IptablesResult String) (keyName : String)
    (ruleWriter : JsonObjectWriter) : Option JsonObjectWriter :=
  match iptablesResult with
  | .ok value => some (ruleWriter.writeString keyName value)
  | .error .noData => some ruleWriter
  | .error _ => none

/-- `FirewallCollector_WriteAction`. -/
def writeAction (iptablesResult : Except IptablesResult IptablesActionType)
    (ruleWriter : JsonObjectWriter) : Option JsonObjectWriter :=
  match iptablesResult with
  | .ok .allow => some (ruleWriter.writeString FIREWALL_RULES_ACTION_KEY FIREWALL_ALLOW_RULE)
  | .ok .deny => some (ruleWriter.writeString FIREWALL_RULES_ACTION_KEY FIREWALL_DENY_RULE)
  | .ok .other => some (ruleWriter.writeString FIREWALL_RULES_ACTION_KEY FIREWALL_OTHER_RULE)
  | .error .noData => some ruleWriter
  | .error _ => none

/-- `FirewallCollector_WriteRuleDirectionAndChainElements`; no iterator gives `NULL` for a name. -/
def writeRuleDirectionAndChainElements (chainName : String) (ruleWriter : JsonObjectWriter) :
    JsonObjectWriter :=
  let ruleWriter := ruleWriter.writeString FIREWALL_RULES_CHAIN_NAME_KEY chainName
  if unsafeAreStringsEqual (some chainName) (some FIREWALL_INPUT_CHAIN) true = some true then
    ruleWriter.writeString FIREWALL_RULES_DIRECTION_KEY FIREWALL_DIRECTION_IN
  else if unsafeAreStringsEqual (some chainName) (some FIREWALL_OUTPUT_CHAIN) true = some true then
    ruleWriter.writeString FIREWALL_RULES_DIRECTION_KEY FIREWALL_DIRECTION_OUT
  else ruleWriter

/-- What every entry begins with. The priority goes through an `int`. -/
def startEntry (chainName : String) (priority : UInt32) : JsonObjectWriter :=
  writeRuleDirectionAndChainElements chainName
    ((JsonObjectWriter.init.writeBool FIREWALL_RULES_ENABLED_KEY true).writeInt
      FIREWALL_RULES_PRIORITY_KEY priority.toInt32)

/-- `FirewallCollector_WriteRules`: the entry that is added to the array. -/
def writeRules (memory : Bool) (chainName : String) (entry : IptEntry) (priority : UInt32) :
    Option Json :=
  if memory = false then none
  else do
    let ruleWriter := startEntry chainName priority
    let ruleWriter ← writeRuleStringElement (IptablesRulesIterator.getSrcIp entry BUFFER_MAX_SIZE)
      FIREWALL_RULES_SRC_ADDRESS_KEY ruleWriter
    let ruleWriter ← writeRuleStringElement (IptablesRulesIterator.getSrcPort entry BUFFER_MAX_SIZE)
      FIREWALL_RULES_SRC_PORT_KEY ruleWriter
    let ruleWriter ← writeRuleStringElement (IptablesRulesIterator.getDestIp entry BUFFER_MAX_SIZE)
      FIREWALL_RULES_DEST_ADDRESS_KEY ruleWriter
    let ruleWriter ← writeRuleStringElement
      (IptablesRulesIterator.getDestPort entry BUFFER_MAX_SIZE)
      FIREWALL_RULES_DEST_PORT_KEY ruleWriter
    let ruleWriter ← writeRuleStringElement
      (IptablesRulesIterator.getProtocol entry BUFFER_MAX_SIZE)
      FIREWALL_RULES_PROTOCOL_KEY ruleWriter
    let ruleWriter ← writeAction
      ((IptablesRulesIterator.getAction entry BUFFER_MAX_SIZE).map Prod.fst) ruleWriter
    some ruleWriter.rootValue

/-- `FirewallCollector_WritePolicyRule`. -/
def writePolicyRule (memory : Bool) (chain : IptablesChain) (rulePriority : UInt32) : Option Json :=
  if memory = false then none
  else
    (writeAction (IptablesIterator.getPolicyAction chain)
      (startEntry chain.name.text rulePriority)).map JsonObjectWriter.rootValue

/-- The loop of `FirewallCollector_IterateRules` over the rules that are left, and the policy. -/
def iterateRulesFrom (memory : Nat → Bool) (chain : IptablesChain) :
    List IptEntry → UInt32 → Option (List Json)
  | [], rulePriority =>
      (writePolicyRule (memory rulePriority.toNat) chain rulePriority).map fun entry => [entry]
  | rule :: rest, rulePriority =>
      (writeRules (memory rulePriority.toNat) chain.name.text rule rulePriority).bind fun entry =>
        (iterateRulesFrom memory chain rest (rulePriority + 1)).map fun entries => entry :: entries

/-- `FirewallCollector_IterateRules`: what it adds to the array. -/
def iterateRules (rulesIterator : Bool) (memory : Nat → Bool) (chain : IptablesChain) :
    Option (List Json) :=
  if rulesIterator = false then none else iterateRulesFrom memory chain chain.rules 0

/-- The loop of `FirewallCollector_IterateChains`, `i` being the index of the first chain left. -/
def iterateChainsFrom (o : FirewallOutcome) : Nat → List IptablesChain → Option (List Json)
  | _, [] => some []
  | i, chain :: rest =>
      (iterateRules (o.rulesIterator i) (o.entry i) chain).bind fun entries =>
        (iterateChainsFrom o (i + 1) rest).map fun others => entries ++ others

/-- `FirewallCollector_IterateChains`. Without iptables there is nothing to report. -/
def iterateChains (o : FirewallOutcome) (table : List IptablesChain) : Option (List Json) :=
  if o.changeToRoot = false then none
  else
    match o.iptcInit with
    | .noProtocolOption => some []
    | .noMemory | .failed => none
    | .ok => iterateChainsFrom o 0 table

/-- The end of `FirewallCollector_GetEvents`: its result, and the event that is pushed. -/
def pushReport (o : FirewallOutcome) (firewallRulesWriter : JsonObjectWriter)
    (rulesPayloadArray : Option (List Json)) : EventCollectorResult × Option Json :=
  match rulesPayloadArray with
  | none => (.exception, none)
  | some rulesPayloadArray =>
      match GenericEvent.addPayload o.payload firewallRulesWriter rulesPayloadArray with
      | none => (.exception, none)
      | some firewallRulesWriter =>
          if o.serialize = true ∧ o.push = true then (.ok, some firewallRulesWriter.rootValue)
          else (.exception, none)

/-- `FirewallCollector_GetEvents`. -/
def getEvents (clock : Clock) (o : FirewallOutcome) (table : List IptablesChain) :
    EventCollectorResult × Option Json :=
  if o.rootObject = false then (.exception, none)
  else
    match GenericEvent.addMetadata clock o.metadata JsonObjectWriter.init
        GenericEvent.EVENT_PERIODIC_CATEGORY FIREWALL_RULES_NAME
        GenericEvent.EVENT_TYPE_SECURITY_VALUE FIREWALL_RULES_PAYLOAD_SCHEMA_VERSION with
    | none => (.exception, none)
    | some firewallRulesWriter =>
        if o.array = false then (.exception, none)
        else pushReport o firewallRulesWriter (iterateChains o table)

end FirewallCollector

end SecurityAgent
