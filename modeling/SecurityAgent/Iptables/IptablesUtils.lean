import SecurityAgent.Iptables.IptablesEntry
import SecurityAgent.Util.Utils

/-!
# Reading a rule: `iptables_utils.c`, `iptables_ip_utils.c`, `iptables_iprange.c`,
`iptables_port_utils.c`, `iptables_multiport.c`, `iptables_rules_iterator.c`

Each question about a rule is answered with a text in a buffer of a given size, with
`IPTABLES_NO_DATA` where the rule does not restrict what is asked for, and with
`IPTABLES_EXCEPTION` where it cannot be said.
-/

namespace SecurityAgent

open Utils

/-- What is asked for is written to a buffer that was empty. -/
def writeText (bufferSize : Nat) (text : String) : Except IptablesResult String :=
  match concatenateToString "" bufferSize text with
  | none => .error .exception
  | some (buffer, _) => .ok buffer

namespace IptablesUtils

def IPTABLES_NEGATE : String := "!"
def IPTABLES_EMPTY : String := ""
def IPTABLES_NEGATE_EXPRESSION_START : String := "!("
def IPTABLES_NEGATE_EXPRESSION_END : String := ")"
def IPTABLES_ACCEPT_VERDICT : String := "ACCEPT"
def IPTABLES_REJECT_VERDICT : String := "REJECT"
def IPTABLES_DROP_VERDICT : String := "DROP"
def IPTABLES_TCP_PROTOCOL : String := "tcp"
def IPTABLES_UDP_PROTOCOL : String := "udp"
def IPTABLES_ICMP_PROTOCOL : String := "icmp"
def IPPROTO_ICMP : UInt16 := 1
def IPPROTO_TCP : UInt16 := 6
def IPPROTO_UDP : UInt16 := 17
def MIN_PORT : UInt16 := 0
def MAX_PORT : UInt16 := 65535

/-- `IP_BYTES`, printed with `%u.%u.%u.%u`. -/
def ipBytes (n : UInt32) : String :=
  toString (n >>> 24 &&& 0xFF).toNat ++ "." ++ toString (n >>> 16 &&& 0xFF).toNat ++ "."
    ++ toString (n >>> 8 &&& 0xFF).toNat ++ "." ++ toString (n &&& 0xFF).toNat

/-- The loop of `IptablesUtils_FormatIp`: whether the mask was found, and `i`. -/
def findMask (mask : UInt32) : Nat → UInt32 → Nat → Bool × Nat
  | 0, _, i => (false, i)
  | rounds + 1, tmpMask, i =>
      if tmpMask = mask then (true, i) else findMask mask rounds (tmpMask <<< 1) (i + 1)

/-- `IptablesUtils_FormatIp`. -/
def formatIp (ip mask : UInt32) (invert : Bool) (bufferSize : Nat) :
    Except IptablesResult String :=
  if ip = 0 ∧ mask = 0 then .error .noData
  else
    let (foundMask, i) := findMask mask 32 0xffffffff 0
    let formatPrefix := if invert then IPTABLES_NEGATE else IPTABLES_EMPTY
    if foundMask then
      writeText bufferSize (formatPrefix ++ ipBytes ip ++ "/" ++ toString (32 - i))
    else if mask = 0 then writeText bufferSize (formatPrefix ++ ipBytes ip)
    else writeText bufferSize (formatPrefix ++ ipBytes ip ++ "/" ++ ipBytes mask)

/-- The `switch` of `IptablesUtils_FormatProtocol`. -/
def protocolString (protocol : UInt16) : Option String :=
  if protocol = IPPROTO_TCP then some IPTABLES_TCP_PROTOCOL
  else if protocol = IPPROTO_UDP then some IPTABLES_UDP_PROTOCOL
  else if protocol = IPPROTO_ICMP then some IPTABLES_ICMP_PROTOCOL
  else none

/-- `IptablesUtils_FormatProtocol`. -/
def formatProtocol (protocol : UInt16) (invert : Bool) (bufferSize : Nat) :
    Except IptablesResult String :=
  match protocolString protocol with
  | none => .error .exception
  | some protocolString =>
      writeText bufferSize ((if invert then IPTABLES_NEGATE else IPTABLES_EMPTY) ++ protocolString)

/-- `IptablesUtils_FormatRangedPorts`. -/
def formatRangedPorts (lowPort highPort : UInt16) (invert : Bool) (bufferSize : Nat) :
    Except IptablesResult String :=
  if lowPort ≠ MIN_PORT ∨ highPort ≠ MAX_PORT then
    let formatPrefix := if invert then IPTABLES_NEGATE_EXPRESSION_START else IPTABLES_EMPTY
    if lowPort = highPort then
      writeText bufferSize (formatPrefix ++ toString lowPort.toNat ++ " ")
    else
      let formatSuffix := if invert then IPTABLES_NEGATE_EXPRESSION_END else IPTABLES_EMPTY
      writeText bufferSize (formatPrefix ++ toString lowPort.toNat ++ "-"
        ++ toString highPort.toNat ++ formatSuffix)
  else .error .noData

/-- `IptablesUtils_GetActionTypeEnumFromActionString`. -/
def getActionTypeEnumFromActionString (action : Option String) :
    Except IptablesResult IptablesActionType :=
  if action = none then .error .exception
  else if unsafeAreStringsEqual (some IPTABLES_ACCEPT_VERDICT) action true = some true then .ok .allow
  else if unsafeAreStringsEqual (some IPTABLES_REJECT_VERDICT) action true = some true
      ∨ unsafeAreStringsEqual (some IPTABLES_DROP_VERDICT) action true = some true then .ok .deny
  else .ok .other

end IptablesUtils

open IptablesUtils

/-! ## Addresses -/

namespace IptablesIprange

def IPRANGE_SRC : UInt8 := 0x01
def IPRANGE_DST : UInt8 := 0x02
def IPRANGE_SRC_INV : UInt8 := 0x10
def IPRANGE_DST_INV : UInt8 := 0x20

/-- `IptablesUtils_FormatRangedIp`. -/
def formatRangedIp (minIp maxIp : UInt32) (invert : Bool) (bufferSize : Nat) :
    Except IptablesResult String :=
  let formatPrefix := if invert then IPTABLES_NEGATE_EXPRESSION_START else IPTABLES_EMPTY
  let formatSuffix := if invert then IPTABLES_NEGATE_EXPRESSION_END else IPTABLES_EMPTY
  writeText bufferSize (formatPrefix ++ ipBytes minIp ++ "-" ++ ipBytes maxIp ++ formatSuffix)

/-- `IptablesIprange_TryGetRangedIp`, the loop over the matches. -/
def tryGetRangedIp (isSrcIp : Bool) (bufferSize : Nat) :
    List EntryMatch → Except IptablesResult String
  | [] => .error .noData
  | .iprange info :: rest =>
      if isSrcIp = true ∧ info.flags &&& IPRANGE_SRC ≠ 0 then
        formatRangedIp info.srcMin info.srcMax (info.flags &&& IPRANGE_SRC_INV ≠ 0) bufferSize
      else if isSrcIp = false ∧ info.flags &&& IPRANGE_DST ≠ 0 then
        formatRangedIp info.dstMin info.dstMax (info.flags &&& IPRANGE_DST_INV ≠ 0) bufferSize
      else tryGetRangedIp isSrcIp bufferSize rest
  | .tcp _ :: rest | .udp _ :: rest | .multiport _ :: rest | .other _ :: rest =>
      tryGetRangedIp isSrcIp bufferSize rest

end IptablesIprange

namespace IptablesIpUtils

def IPT_INV_SRCIP : UInt8 := 0x08
def IPT_INV_DSTIP : UInt8 := 0x10

/-- `IptablesIpUtils_GetRegularIp`. -/
def getRegularIp (entry : IptEntry) (isSrcIp : Bool) (bufferSize : Nat) :
    Except IptablesResult String :=
  if isSrcIp then
    formatIp entry.src entry.smsk (entry.invflags &&& IPT_INV_SRCIP ≠ 0) bufferSize
  else formatIp entry.dst entry.dmsk (entry.invflags &&& IPT_INV_DSTIP ≠ 0) bufferSize

/-- `IptablesIpUtils_GetIp`. -/
def getIp (entry : IptEntry) (isSrcIp : Bool) (bufferSize : Nat) : Except IptablesResult String :=
  match IptablesIprange.tryGetRangedIp isSrcIp bufferSize entry.entryMatches with
  | .error .noData => getRegularIp entry isSrcIp bufferSize
  | result => result

end IptablesIpUtils

/-! ## Ports -/

namespace IptablesMultiport

def MULTIPORT_RANGE_FLAG : UInt8 := 1
def MULTIPORT_INVERT_FLAG : UInt8 := 1
def XT_MULTIPORT_SOURCE : UInt8 := 0
def XT_MULTIPORT_DESTINATION : UInt8 := 1

/-- A text that is written only sometimes. -/
def writeIf (condition : Bool) (text : String) (buffer : String × Nat) : Option (String × Nat) :=
  if condition then concatenateToString buffer.1 buffer.2 text else some buffer

/-- The loops over the ports, from the index `j` on. A flag takes the next port for the end of a
range. -/
def formatPorts (count : Nat) (ports : Nat → UInt16) (pflags : Nat → UInt8) :
    Nat → Nat → String × Nat → Option (String × Nat)
  | 0, _, buffer => some buffer
  | rounds + 1, j, buffer =>
      if j < count then
        (writeIf (j > 0) "," buffer).bind fun buffer =>
          if pflags j &&& MULTIPORT_RANGE_FLAG ≠ 0 then
            (concatenateToString buffer.1 buffer.2
              (toString (ports j).toNat ++ "-" ++ toString (ports (j + 1)).toNat)).bind
                (formatPorts count ports pflags rounds (j + 2))
          else
            (concatenateToString buffer.1 buffer.2 (toString (ports j).toNat)).bind
              (formatPorts count ports pflags rounds (j + 1))
      else some buffer

/-- `IptablesMultiport_FormatMultiportMatch`. -/
def formatMultiportMatch (info : XtMultiport) (bufferSize : Nat) : Except IptablesResult String :=
  match formatPorts info.count.toNat info.ports (fun _ => 0) info.count.toNat 0 ("", bufferSize) with
  | none => .error .exception
  | some (buffer, _) => .ok buffer

/-- `IptablesMultiport_FormatMultiportV1Match`. -/
def formatMultiportV1Match (info : XtMultiportV1) (bufferSize : Nat) :
    Except IptablesResult String :=
  let invert := info.invert &&& MULTIPORT_INVERT_FLAG ≠ 0
  match ((writeIf invert IPTABLES_NEGATE_EXPRESSION_START ("", bufferSize)).bind
      (formatPorts info.count.toNat info.ports info.pflags info.count.toNat 0)).bind
      (writeIf invert IPTABLES_NEGATE_EXPRESSION_END) with
  | none => .error .exception
  | some (buffer, _) => .ok buffer

/-- `IptablesMultiport_GetPorts`. For data of another size nothing is written. -/
def getPorts (data : MultiportData) (isSrcPorts : Bool) (bufferSize : Nat) :
    Except IptablesResult String :=
  if isSrcPorts = true ∧ data.flags = XT_MULTIPORT_DESTINATION then .error .noData
  else if isSrcPorts = false ∧ data.flags = XT_MULTIPORT_SOURCE then .error .noData
  else
    match data with
    | .revision0 info => formatMultiportMatch info bufferSize
    | .revision1 info => formatMultiportV1Match info bufferSize
    | .otherSize _ => .ok ""

end IptablesMultiport

namespace IptablesPortUtils

def XT_TCP_INV_SRCPT : UInt8 := 0x01
def XT_TCP_INV_DSTPT : UInt8 := 0x02

/-- `IptablesPortUtils_GetPortsTcpMatch`. -/
def getPortsTcpMatch (info : XtPorts) (isSrcPorts : Bool) (bufferSize : Nat) :
    Except IptablesResult String :=
  if isSrcPorts then
    formatRangedPorts info.spts.1 info.spts.2 (info.invflags &&& XT_TCP_INV_SRCPT ≠ 0) bufferSize
  else formatRangedPorts info.dpts.1 info.dpts.2 (info.invflags &&& XT_TCP_INV_DSTPT ≠ 0) bufferSize

/-- What one match says of the ports. -/
def getPortsOfMatch (isSrcPorts : Bool) (bufferSize : Nat) :
    EntryMatch → Except IptablesResult String
  | .tcp info => getPortsTcpMatch info isSrcPorts bufferSize
  | .multiport data => IptablesMultiport.getPorts data isSrcPorts bufferSize
  | .iprange _ | .udp _ | .other _ => .error .noData

/-- `IptablesPortUtils_GetPort`, the loop over the matches. -/
def getPort (isSrcPorts : Bool) (bufferSize : Nat) : List EntryMatch → Except IptablesResult String
  | [] => .error .noData
  | currentMatch :: rest =>
      match getPortsOfMatch isSrcPorts bufferSize currentMatch with
      | .error .noData => getPort isSrcPorts bufferSize rest
      | result => result

end IptablesPortUtils

/-! ## Rules -/

namespace IptablesRulesIterator

def IPT_F_GOTO : UInt8 := 0x02
def IPT_INV_PROTO : UInt8 := 0x40

/-- `IptablesRulesIterator_GetSrcIp`. -/
def getSrcIp (entry : IptEntry) (bufferSize : Nat) : Except IptablesResult String :=
  IptablesIpUtils.getIp entry true bufferSize

/-- `IptablesRulesIterator_GetDestIp`. -/
def getDestIp (entry : IptEntry) (bufferSize : Nat) : Except IptablesResult String :=
  IptablesIpUtils.getIp entry false bufferSize

/-- `IptablesRulesIterator_GetSrcPort`. -/
def getSrcPort (entry : IptEntry) (bufferSize : Nat) : Except IptablesResult String :=
  IptablesPortUtils.getPort true bufferSize entry.entryMatches

/-- `IptablesRulesIterator_GetDestPort`. -/
def getDestPort (entry : IptEntry) (bufferSize : Nat) : Except IptablesResult String :=
  IptablesPortUtils.getPort false bufferSize entry.entryMatches

/-- `IptablesRulesIterator_GetProtocol`. -/
def getProtocol (entry : IptEntry) (bufferSize : Nat) : Except IptablesResult String :=
  if entry.proto = 0 then .error .noData
  else formatProtocol entry.proto (entry.invflags &&& IPT_INV_PROTO ≠ 0) bufferSize

/-- `IptablesRulesIterator_GetAction`: the action, and what is in the buffer. -/
def getAction (entry : IptEntry) (bufferSize : Nat) :
    Except IptablesResult (IptablesActionType × String) :=
  match entry.target with
  | none => .error .noData
  | some targetName =>
      if targetName.text = "" then .error .noData
      else
        match getActionTypeEnumFromActionString (some targetName.text) with
        | .error _ => .error .exception
        | .ok actionType =>
            if entry.flags &&& IPT_F_GOTO ≠ 0 then
              (writeText bufferSize ("goto " ++ targetName.text)).map (actionType, ·)
            else if actionType = .other then
              (writeText bufferSize targetName.text).map (actionType, ·)
            else .ok (actionType, "")

end IptablesRulesIterator

namespace IptablesIterator

/-- `IptablesIterator_GetPolicyAction`. -/
def getPolicyAction (chain : IptablesChain) : Except IptablesResult IptablesActionType :=
  if chain.builtin = false then .error .noData
  else
    match chain.policy with
    | none => .error .exception
    | some policy => getActionTypeEnumFromActionString (some policy.text)

end IptablesIterator

end SecurityAgent
