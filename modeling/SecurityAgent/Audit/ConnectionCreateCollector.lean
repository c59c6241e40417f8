import SecurityAgent.Audit.GenericAuditEvent
import SecurityAgent.Util.Utils

/-!
# Connections: `connection_create_collector.c`

An event of a `connect` or an `accept` carries the other side's address as the bytes of a
`sockaddr` in hexadecimal. Addresses that are not of the internet are
filtered out.
-/

namespace SecurityAgent

/-- `ConnectionDirection`. -/
inductive ConnectionDirection where
  | outbound
  | inbound
  deriving DecidableEq, Repr

namespace ConnectionCreateEventCollector

def AUDIT_CONNECTION_CREATION_MAX_BUFF : Nat := 500
def SUPPORTED_PROTOCOL_TCP : String := "tcp"
def AUDIT_CONNECTION_CREATION_SYSCALL_CONNECT : String := "connect"
def AUDIT_CONNECTION_CREATION_SYSCALL_ACCEPT : String := "accept"
def AUDIT_CONNECTION_CREATION_SYSCALLS : List String :=
  [AUDIT_CONNECTION_CREATION_SYSCALL_CONNECT, AUDIT_CONNECTION_CREATION_SYSCALL_ACCEPT]
def AUDIT_CONNECTION_CREATION_EXECUTABLE : String := "exe"
def AUDIT_CONNECTION_CREATION_CMD : String := "proctitle"
def AUDIT_CONNECTION_CREATION_PROCESS_ID : String := "pid"
def AUDIT_CONNECTION_CREATION_USER_ID : String := "uid"
def AUDIT_CONNECTION_CREATION_SYSCALL : String := "syscall"
def AUDIT_CONNECTION_CREATION_REMOTE_SOCKET_ADDRESS : String := "saddr"
def AF_INET : UInt8 := 2
def AF_INET6 : UInt8 := 10
def CONNECTION_CREATION_NAME : String := "ConnectionCreate"
def CONNECTION_CREATION_PAYLOAD_SCHEMA_VERSION : String := "1.0"
def CONNECTION_CREATION_EXECUTABLE_KEY : String := "Executable"
def CONNECTION_CREATION_COMMAND_LINE_KEY : String := "CommandLine"
def CONNECTION_CREATION_PROCESS_ID_KEY : String := "ProcessId"
def CONNECTION_CREATION_USER_ID_KEY : String := "UserId"
def CONNECTION_CREATION_PROTOCOL_KEY : String := "Protocol"
def CONNECTION_CREATION_REMOTE_ADDRESS_KEY : String := "RemoteAddress"
def CONNECTION_CREATION_REMOTE_PORT_KEY : String := "RemotePort"
def CONNECTION_CREATION_DIRECTION_KEY : String := "Direction"
def CONNECTION_CREATION_DIRECTION_INBOUND_NAME : String := "In"
def CONNECTION_CREATION_DIRECTION_OUTBOUND_NAME : String := "Out"

/-! ## The other side -/

/-- `%02x` of a byte. -/
def hexByte (byte : UInt8) : String :=
  String.ofList [(byte.toNat / 16).digitChar, (byte.toNat % 16).digitChar]

/-- `IP_V4_FORMAT_STR`, of the bytes 4 to 7. -/
def ipv4Address (saddrBytes : Nat → UInt8) : String :=
  String.intercalate "." ([4, 5, 6, 7].map fun i => toString (saddrBytes i).toNat)

/-- `IP_V6_FORMAT_STR`, of the bytes 8 to 23. It prints 39 characters, so that the comparison with 39
in the code never fails. -/
def ipv6Address (saddrBytes : Nat → UInt8) : String :=
  String.intercalate ":"
    ([8, 10, 12, 14, 16, 18, 20, 22].map fun i => hexByte (saddrBytes i) ++ hexByte (saddrBytes (i + 1)))

/-- The address and the port in a decoded `sockaddr`. -/
def remoteOf (saddr : List UInt8) : Except EventCollectorResult (String × String) :=
  let saddrBytes i := saddr.getD i 0
  let family := saddrBytes 0
  let port := toString ((saddrBytes 2).toNat * 256 + (saddrBytes 3).toNat)
  if family ≠ AF_INET ∧ family ≠ AF_INET6 then .error .recordFiltered
  else if family = AF_INET then
    if saddr.length < 8 then .error .exception else .ok (ipv4Address saddrBytes, port)
  else if saddr.length < 24 then .error .exception
  else .ok (ipv6Address saddrBytes, port)

/-- `ConnectionCreateEventCollector_GetRemoteInformation`, given buffers of the size it asks for. -/
def getRemoteInformation (e : AuditEvent) : Except EventCollectorResult (String × String) :=
  match e.readString AUDIT_CONNECTION_CREATION_REMOTE_SOCKET_ADDRESS with
  | .error _ => .error .recordHasErrors
  | .ok auditStrValue =>
      match Utils.hexStringToByteArray auditStrValue AUDIT_CONNECTION_CREATION_MAX_BUFF with
      | none => .error .exception
      | some saddr => remoteOf saddr

/-- `ConnectionCreationCollector_GetDirection`. -/
def getDirection (e : AuditEvent) : Except EventCollectorResult ConnectionDirection :=
  match e.interpretString AUDIT_CONNECTION_CREATION_SYSCALL with
  | .error _ => .error .exception
  | .ok syscallName =>
      if syscallName = AUDIT_CONNECTION_CREATION_SYSCALL_CONNECT then .ok .outbound
      else if syscallName = AUDIT_CONNECTION_CREATION_SYSCALL_ACCEPT then .ok .inbound
      else .error .exception

/-! ## The payload -/

/-- `directionString`. -/
def directionString : ConnectionDirection → String
  | .outbound => CONNECTION_CREATION_DIRECTION_OUTBOUND_NAME
  | .inbound => CONNECTION_CREATION_DIRECTION_INBOUND_NAME

/-- A write of `ConnectionCreateEventCollector_GeneratePayload`; the first one that fails is an
exception, the others are taken for errors of the record. -/
def writeMember (written : Bool) (failure : EventCollectorResult) (key value : String)
    (payload : JsonObjectWriter) : Except EventCollectorResult JsonObjectWriter :=
  if written then .ok (payload.writeString key value) else .error failure

/-- `ConnectionCreateEventCollector_GeneratePayload`. -/
def generatePayload (o : RecordOutcome) (e : AuditEvent) :
    Except EventCollectorResult JsonObjectWriter := do
  let direction ← getDirection e
  let (remoteAddress, remotePort) ← getRemoteInformation e
  let payload ← writeMember (o.write CONNECTION_CREATION_PROTOCOL_KEY) .exception
    CONNECTION_CREATION_PROTOCOL_KEY SUPPORTED_PROTOCOL_TCP JsonObjectWriter.init
  let payload ← writeMember (o.write CONNECTION_CREATION_DIRECTION_KEY) .recordHasErrors
    CONNECTION_CREATION_DIRECTION_KEY (directionString direction) payload
  let payload ← writeMember (o.write CONNECTION_CREATION_REMOTE_ADDRESS_KEY) .recordHasErrors
    CONNECTION_CREATION_REMOTE_ADDRESS_KEY remoteAddress payload
  let payload ← writeMember (o.write CONNECTION_CREATION_REMOTE_PORT_KEY) .recordHasErrors
    CONNECTION_CREATION_REMOTE_PORT_KEY remotePort payload
  let payload ← GenericAuditEvent.handleInterpretStringValue
    (o.write CONNECTION_CREATION_EXECUTABLE_KEY) payload e AUDIT_CONNECTION_CREATION_EXECUTABLE
    CONNECTION_CREATION_EXECUTABLE_KEY false
  let payload ← GenericAuditEvent.handleInterpretStringValue
    (o.write CONNECTION_CREATION_COMMAND_LINE_KEY) payload e AUDIT_CONNECTION_CREATION_CMD
    CONNECTION_CREATION_COMMAND_LINE_KEY false
  let payload ← GenericAuditEvent.handleIntValue (o.write CONNECTION_CREATION_PROCESS_ID_KEY)
    payload e AUDIT_CONNECTION_CREATION_PROCESS_ID CONNECTION_CREATION_PROCESS_ID_KEY false
  GenericAuditEvent.handleStringValue (o.write CONNECTION_CREATION_USER_ID_KEY) payload e
    AUDIT_CONNECTION_CREATION_USER_ID CONNECTION_CREATION_USER_ID_KEY false

/-- The payload, for a collector that keeps nothing between records. -/
def generate (o : RecordOutcome) (e : AuditEvent) (kept : Unit) :
    Except EventCollectorResult JsonObjectWriter × Unit :=
  (generatePayload o e, kept)

/-- What tells one connection from another: the process, and where it was accepted also the port. -/
def setToZero (o : RecordOutcome) (e : AuditEvent) (payload : JsonObjectWriter) :
    Except EventCollectorResult JsonObjectWriter :=
  if o.rewrite CONNECTION_CREATION_PROCESS_ID_KEY then
    match getDirection e with
    | .error _ => .error .recordHasErrors
    | .ok .outbound => .ok (payload.writeInt CONNECTION_CREATION_PROCESS_ID_KEY 0)
    | .ok .inbound =>
        if o.rewrite CONNECTION_CREATION_REMOTE_PORT_KEY then
          .ok ((payload.writeInt CONNECTION_CREATION_PROCESS_ID_KEY 0).writeInt
            CONNECTION_CREATION_REMOTE_PORT_KEY 0)
        else .error .exception
  else .error .exception

/-! ## The collector -/

variable (equals : Json → Json → Bool) (serialize : Json → String) (parse : String → Option Json)
  (clock : Clock)

/-- `ConnectionCreateEventCollector_CreateSingleEvent`. -/
def createSingleEvent (o : RecordOutcome) :
    AuditEvent → EventAggregator × Unit →
      EventCollectorResult × Option Json × EventAggregator × Unit :=
  AuditCollector.createSingleEvent clock CONNECTION_CREATION_NAME
    CONNECTION_CREATION_PAYLOAD_SCHEMA_VERSION .exception .ok (generate o) o

/-- `ConnectionCreationCollector_CreateEventForAggregation`. -/
def createEventForAggregation (o : RecordOutcome) :
    AuditEvent → EventAggregator × Unit →
      EventCollectorResult × Option Json × EventAggregator × Unit :=
  AuditCollector.createEventForAggregation equals serialize parse (generate o) (setToZero o) o

/-- What `ConnectionCreateEventCollector_GetEvents` does with one record. Only an exception ends
it. -/
def collector : AuditCollector (EventAggregator × Unit) RecordOutcome where
  searchCriteria := .syscall
  messageTypes := AUDIT_CONNECTION_CREATION_SYSCALLS
  endsLoop result := result = .exception
  createEvent aggregation o e s :=
    if aggregation then createEventForAggregation equals serialize parse o e s
    else createSingleEvent clock o e s
  getAggregatedEvents o s :=
    let (result, events, _, aggregator) := EventAggregator.getAggregatedEvents clock o s.1
    (result, events.map Prod.snd, aggregator, s.2)

end ConnectionCreateEventCollector

end SecurityAgent
