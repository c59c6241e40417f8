import SecurityAgent.Collectors.EventAggregator
import SecurityAgent.Collectors.GenericEvent
import SecurityAgent.Ports.ListeningPortsIterator

/-!
# Listening ports: `listening_ports_collector.c`

One event reports the sockets of all tables. Table by table and line by line every socket becomes a
record, and the process that holds it is looked up by the inode of the socket.
-/

namespace SecurityAgent

open Inet Utils ListeningPortsIterator

/-- What the environment answers while a record is made. -/
structure PortRecordOutcome where
  /-- `JsonObjectWriter_Init` for the record. -/
  payloadWriter : Bool
  /-- `JsonObjectWriter_Init` for its details. -/
  extraDetails : Bool
  /-- `JsonArrayWriter_AddObject`. -/
  addObject : Bool

/-- What the environment answers while the ports are reported. -/
structure PortsOutcome where
  /-- `JsonObjectWriter_Init` for the event. -/
  rootObject : Bool
  metadata : MetadataOutcome
  /-- The map of the inodes to their processes, `none` where it cannot be made. -/
  inodesMap : Option (String → Option Pid)
  /-- `JsonArrayWriter_Init`. -/
  array : Bool
  /-- The tables, by their protocols. -/
  proc : String → ProcOutcome
  /-- The records, by the protocol and the number of the line in the table. -/
  record : String → Nat → PortRecordOutcome
  /-- The writes of `GenericEvent_AddPayload`. -/
  payload : Bool
  serialize : Bool
  /-- `SyncQueue_PushBack` returns `QUEUE_OK`. -/
  push : Bool

namespace ListeningPortsCollector

def MAX_RECORD_VALUE_LENGTH : Nat := 128
/-- `PROTOCOL_TYPES`. -/
def PROTOCOL_TYPES : List String := ["tcp", "tcp6", "udp", "udp6", "raw", "raw6"]
def LISTENING_PORTS_NAME : String := "ListeningPorts"
def LISTENING_PORTS_PAYLOAD_SCHEMA_VERSION : String := "1.0"
def LISTENING_PORTS_PROTOCOL_KEY : String := "Protocol"
def LISTENING_PORTS_LOCAL_ADDRESS_KEY : String := "LocalAddress"
def LISTENING_PORTS_LOCAL_PORT_KEY : String := "LocalPort"
def LISTENING_PORTS_REMOTE_ADDRESS_KEY : String := "RemoteAddress"
def LISTENING_PORTS_REMOTE_PORT_KEY : String := "RemotePort"
def LISTENING_PORTS_PID_KEY : String := "Pid"

/-- `sizeof(value)` where `value` is a parameter: the size of a pointer. -/
def SIZEOF_VALUE : UInt32 := 8

/-- A buffer for a value, as it is after `memset`. -/
abbrev valueBuffer : CharArray MAX_RECORD_VALUE_LENGTH := CharArray.zero

/-- `ListeningPortCollector_AddPidToExtraDetails`, which is all that
`ListeningPortCollector_PopulateExtraDetails` does. -/
def addPidToExtraDetails (portsIterator : ListeningPortsIterator)
    (inodesMap : String → Option Pid) : Option JsonObjectWriter :=
  (portsIterator.getPid valueBuffer SIZEOF_VALUE inodesMap).map fun value =>
    if value.text ≠ "" then JsonObjectWriter.init.writeString LISTENING_PORTS_PID_KEY value.text
    else JsonObjectWriter.init

/-- `ListeningPortCollector_AddSingleRecord`: the object that is added. -/
def addSingleRecord (endianness : Endianness) (o : PortRecordOutcome)
    (portsIterator : ListeningPortsIterator) (protocolType : String)
    (inodesMap : String → Option Pid) : Option Json :=
  if o.payloadWriter = false ∨ o.extraDetails = false then none
  else do
    let payloadWriter := JsonObjectWriter.init.writeString LISTENING_PORTS_PROTOCOL_KEY protocolType
    let value ← portsIterator.getLocalAddress endianness valueBuffer
    let payloadWriter := payloadWriter.writeString LISTENING_PORTS_LOCAL_ADDRESS_KEY value.text
    let value ← portsIterator.getLocalPort valueBuffer
    let payloadWriter := payloadWriter.writeString LISTENING_PORTS_LOCAL_PORT_KEY value.text
    let value ← portsIterator.getRemoteAddress endianness valueBuffer
    let payloadWriter := payloadWriter.writeString LISTENING_PORTS_REMOTE_ADDRESS_KEY value.text
    let value ← portsIterator.getRemotePort valueBuffer
    let payloadWriter := payloadWriter.writeString LISTENING_PORTS_REMOTE_PORT_KEY value.text
    let extraDetails ← addPidToExtraDetails portsIterator inodesMap
    let payloadWriter :=
      if extraDetails.rootObject.length > 0 then
        payloadWriter.writeObject EventAggregator.EXTRA_DETAILS_KEY extraDetails
      else payloadWriter
    if o.addObject then some payloadWriter.rootValue else none

/-- The loop of `ListeningPortCollector_AddPortsByType`, `i` being the number of the line that is
next; each round reads some of the file. -/
def addRecords (endianness : Endianness) (o : PortsOutcome) (protocolType : String)
    (inodesMap : String → Option Pid) :
    Nat → Nat → ListeningPortsIterator → List Json → EventCollectorResult × List Json
  | 0, _, _, payloadArray => (.exception, payloadArray)
  | rounds + 1, i, portsIterator, payloadArray =>
      match getNext (o.proc protocolType) portsIterator with
      | (.noMoreData, _) => (.ok, payloadArray)
      | (.exception, _) => (.exception, payloadArray)
      | (.hasNext, portsIterator) =>
          match addSingleRecord endianness (o.record protocolType i) portsIterator protocolType
              inodesMap with
          | none => (.exception, payloadArray)
          | some record =>
              addRecords endianness o protocolType inodesMap rounds (i + 1) portsIterator
                (payloadArray ++ [record])

/-- `ListeningPortCollector_AddPortsByType`: its result, and the array. -/
def addPortsByType (endianness : Endianness) (o : PortsOutcome) (payloadArray : List Json)
    (protocolType : String) (inodesMap : String → Option Pid) :
    EventCollectorResult × List Json :=
  match ListeningPortsIterator.init (o.proc protocolType) protocolType with
  | none => (.exception, payloadArray)
  | some portsIterator =>
      addRecords endianness o protocolType inodesMap (portsIterator.procFile.length + 1) 0
        portsIterator payloadArray

/-- The loop of `ListeningPortCollector_AddPorts` over the protocols that are left. -/
def addPortsFrom (endianness : Endianness) (o : PortsOutcome) (inodesMap : String → Option Pid) :
    List String → List Json → Option (List Json)
  | [], payloadArray => some payloadArray
  | protocolType :: rest, payloadArray =>
      match addPortsByType endianness o payloadArray protocolType inodesMap with
      | (.ok, payloadArray) => addPortsFrom endianness o inodesMap rest payloadArray
      | _ => none

/-- `ListeningPortCollector_AddPorts`. -/
def addPorts (endianness : Endianness) (o : PortsOutcome)
    (listeningPortsEventWriter : JsonObjectWriter) : Option JsonObjectWriter :=
  o.inodesMap.bind fun inodesMap =>
    if o.array = false then none
    else
      (addPortsFrom endianness o inodesMap PROTOCOL_TYPES []).bind fun payloadArray =>
        GenericEvent.addPayload o.payload listeningPortsEventWriter payloadArray

/-- `ListeningPortCollector_GetEvents`: its result, and the event that is pushed. -/
def getEvents (endianness : Endianness) (clock : Clock) (o : PortsOutcome) :
    EventCollectorResult × Option Json :=
  if o.rootObject = false then (.exception, none)
  else
    match (GenericEvent.addMetadata clock o.metadata JsonObjectWriter.init
        GenericEvent.EVENT_PERIODIC_CATEGORY LISTENING_PORTS_NAME
        GenericEvent.EVENT_TYPE_SECURITY_VALUE LISTENING_PORTS_PAYLOAD_SCHEMA_VERSION).bind
        (addPorts endianness o) with
    | none => (.exception, none)
    | some listeningPortsEventWriter =>
        if o.serialize = true ∧ o.push = true then
          (.ok, some listeningPortsEventWriter.rootValue)
        else (.exception, none)

end ListeningPortsCollector

end SecurityAgent
