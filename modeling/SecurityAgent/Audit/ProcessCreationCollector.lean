import SecurityAgent.Audit.GenericAuditEvent
import SecurityAgent.Util.Utils

/-!
# Process creations: `process_creation_collector.c`

An event of an `execve` has a record with its arguments, which become one
command line. The hash of the executable comes from the integrity rules seen so
far, kept in a map from paths to hashes that every record with a hash adds to.
-/

namespace SecurityAgent

/-- What the environment answers while a process creation is handled. -/
structure ProcessOutcome extends RecordOutcome where
  /-- The buffer for the command line: `NULL`, or what is in it as it is allocated. -/
  commandLineBuffer : Option String
  /-- The allocation of `Utils_Substring`. -/
  substring : Bool
  /-- `Map_AddOrUpdate` has memory. -/
  addOrUpdate : Bool
  /-- `JsonObjectWriter_Init` for the extra details. -/
  extraDetails : Bool

def ProcessOutcome.ok : ProcessOutcome :=
  { RecordOutcome.ok with
    commandLineBuffer := some "", substring := true, addOrUpdate := true, extraDetails := true }

/-- Allocations, JSON building and queue pushes succeed. -/
structure ProcessOutcome.Succeeds (clock : Clock) (o : ProcessOutcome) : Prop where
  record : o.toRecordOutcome.Succeeds clock
  commandLineBuffer : o.commandLineBuffer.isSome = true
  substring : o.substring = true
  extraDetails : o.extraDetails = true

namespace ProcessCreationCollector

def AUDIT_PROCESS_CREATION_TYPE : String := "EXECVE"
def AUDIT_PROCESS_INTEGRITY_TYPE : String := "INTEGRITY_RULE"
def AUDIT_PROCESS_CREATION_TYPES : List String :=
  [AUDIT_PROCESS_CREATION_TYPE, AUDIT_PROCESS_INTEGRITY_TYPE]
def AUDIT_PROCESS_CREATION_EXECUTEABLE : String := "exe"
def AUDIT_PROCESS_CREATION_EXECUTEABLE_HASH : String := "hash"
def AUDIT_PROCESS_CREATION_EXECUTEABLE_PATH : String := "file"
def AUDIT_PROCESS_CREATION_USER_ID : String := "uid"
def AUDIT_PROCESS_CREATION_PROCESS_ID : String := "pid"
def AUDIT_PROCESS_CREATION_PARENT_PROCESS_ID : String := "ppid"
def AUDIT_EXECVE_RECORD_TYPE : Int := 1309
def AUDIT_ARGC : String := "argc"
def AUDIT_MAX_PARAM_LEN : Nat := 10
def PROCESS_CREATION_NAME : String := "ProcessCreate"
def PROCESS_CREATION_PAYLOAD_SCHEMA_VERSION : String := "1.0"
def PROCESS_CREATION_EXECUTABLE_KEY : String := "Executable"
def PROCESS_CREATION_EXECUTABLE_HASH_KEY : String := "Hash"
def PROCESS_CREATION_PROCESS_ID_KEY : String := "ProcessId"
def PROCESS_CREATION_PARENT_PROCESS_ID_KEY : String := "ParentProcessId"
def PROCESS_CREATION_USER_ID_KEY : String := "UserId"
def PROCESS_CREATION_COMMAND_LINE_KEY : String := "CommandLine"

/-- `executableHashMap`, the entry added last first. -/
abbrev ExecutableHashMap := List (String × String)

/-! ## The command line -/

/-- `"a%d"` printed into `item`, which cuts it off. -/
def argumentName (i : Nat) : String :=
  String.ofList ((("a" ++ toString (Int32.ofNat i).toInt).toList).take (AUDIT_MAX_PARAM_LEN - 1))

/-- The loop over the arguments, `count` of them from `i` on. -/
def readArguments (r : AuditRecord) : Nat → Nat → Nat → String → Option String
  | 0, _, _, commandLine => some commandLine
  | count + 1, i, currentBufferSize, commandLine =>
      match r.interpretString (argumentName i) with
      | .error _ => none
      | .ok currentArg =>
          match Utils.concatenateToString commandLine currentBufferSize
              ((if i > 0 then " " else "") ++ currentArg) with
          | none => none
          | some (commandLine', size) => readArguments r count (i + 1) size commandLine'

/-- The command line of one record. `argCount` is compared with an unsigned counter, and a command
line without arguments is the buffer as it was allocated. -/
def recordCommandLine (commandLineBuffer : Option String) (r : AuditRecord) : Option String :=
  match r.maxRecordLength, commandLineBuffer, r.readInt AUDIT_ARGC with
  | .ok maxLen, some buffer, .ok argCount =>
      readArguments r argCount.toUInt32.toNat 0 maxLen (if argCount = 0 then buffer else "")
  | _, _, _ => none

/-- The reading half of `ProcessCreationCollector_ReadCommandLine`. -/
def commandLine (commandLineBuffer : Option String) (e : AuditEvent) : Option String :=
  match e.goto AUDIT_EXECVE_RECORD_TYPE with
  | .error _ => none
  | .ok r => recordCommandLine commandLineBuffer r

/-- `ProcessCreationCollector_ReadCommandLine`. -/
def readCommandLine (o : ProcessOutcome) (e : AuditEvent) (processEventPayload : JsonObjectWriter) :
    Except EventCollectorResult JsonObjectWriter :=
  match commandLine o.commandLineBuffer e with
  | none => .error .exception
  | some commandLine =>
      if o.write PROCESS_CREATION_COMMAND_LINE_KEY then
        .ok (processEventPayload.writeString PROCESS_CREATION_COMMAND_LINE_KEY commandLine)
      else .error .exception

/-! ## The payload -/

/-- `Map_AddOrUpdate`: no path is an argument it refuses, and the result is not looked at. -/
def addOrUpdate (memory : Bool) (map : ExecutableHashMap) (executable : Option String)
    (hash : String) : ExecutableHashMap :=
  match executable with
  | none => map
  | some executable => if memory then (executable, hash) :: map else map

/-- `ProcessCreationCollector_AddEntryToExecutableHashMap`. The hash is between `"sha1:` and `"`. -/
def addEntryToExecutableHashMap (o : ProcessOutcome) (e : AuditEvent) (map : ExecutableHashMap) :
    Except EventCollectorResult ExecutableHashMap :=
  match e.interpretString AUDIT_PROCESS_CREATION_EXECUTEABLE_HASH with
  | .error result => if result = .fieldDoesNotExist then .ok map else .error .exception
  | .ok hash =>
      match Utils.substring o.substring hash 6 1 with
      | none => .error .exception
      | some hash =>
          match e.interpretString AUDIT_PROCESS_CREATION_EXECUTEABLE_PATH with
          | .error result =>
              if result = .fieldDoesNotExist then .ok (addOrUpdate o.addOrUpdate map none hash)
              else .error .exception
          | .ok executable => .ok (addOrUpdate o.addOrUpdate map (some executable) hash)

/-- The end of `ProcessCreationCollector_GeneratePayload`: the hash of the executable. -/
def writeHash (o : ProcessOutcome) (map : ExecutableHashMap) (executable : String)
    (processEventPayload : JsonObjectWriter) : Except EventCollectorResult JsonObjectWriter :=
  if o.extraDetails && o.write PROCESS_CREATION_EXECUTABLE_HASH_KEY
      && o.write EventAggregator.EXTRA_DETAILS_KEY then
    .ok (processEventPayload.writeObject EventAggregator.EXTRA_DETAILS_KEY
      (JsonObjectWriter.init.writeString PROCESS_CREATION_EXECUTABLE_HASH_KEY
        ((map.lookup executable).getD "")))
  else .error .exception

/-- `ProcessCreationCollector_GeneratePayload` up to the hash map: the executable and the payload. -/
def generateFields (o : ProcessOutcome) (e : AuditEvent) :
    Except EventCollectorResult (String × JsonObjectWriter) :=
  match e.interpretString AUDIT_PROCESS_CREATION_EXECUTEABLE with
  | .error _ => .error .exception
  | .ok executable =>
      if o.write PROCESS_CREATION_EXECUTABLE_KEY then do
        let payload ← readCommandLine o e
          (JsonObjectWriter.init.writeString PROCESS_CREATION_EXECUTABLE_KEY executable)
        let payload ← GenericAuditEvent.handleStringValue (o.write PROCESS_CREATION_USER_ID_KEY)
          payload e AUDIT_PROCESS_CREATION_USER_ID PROCESS_CREATION_USER_ID_KEY false
        let payload ← GenericAuditEvent.handleIntValue (o.write PROCESS_CREATION_PROCESS_ID_KEY)
          payload e AUDIT_PROCESS_CREATION_PROCESS_ID PROCESS_CREATION_PROCESS_ID_KEY false
        let payload ← GenericAuditEvent.handleIntValue
          (o.write PROCESS_CREATION_PARENT_PROCESS_ID_KEY)
          payload e AUDIT_PROCESS_CREATION_PARENT_PROCESS_ID PROCESS_CREATION_PARENT_PROCESS_ID_KEY
          false
        .ok (executable, payload)
      else .error .exception

/-- `ProcessCreationCollector_GeneratePayload`. -/
def generatePayload (o : ProcessOutcome) (e : AuditEvent) (map : ExecutableHashMap) :
    Except EventCollectorResult JsonObjectWriter × ExecutableHashMap :=
  match generateFields o e with
  | .error result => (.error result, map)
  | .ok (executable, payload) =>
      match addEntryToExecutableHashMap o e map with
      | .error result => (.error result, map)
      | .ok map' => (writeHash o map' executable payload, map')

/-- What tells one run of an executable from another. -/
def setToZero (o : ProcessOutcome) (_ : AuditEvent) (processEventPayload : JsonObjectWriter) :
    Except EventCollectorResult JsonObjectWriter :=
  if o.rewrite PROCESS_CREATION_PROCESS_ID_KEY && o.rewrite PROCESS_CREATION_PARENT_PROCESS_ID_KEY then
    .ok ((processEventPayload.writeInt PROCESS_CREATION_PROCESS_ID_KEY 0).writeInt
      PROCESS_CREATION_PARENT_PROCESS_ID_KEY 0)
  else .error .exception

/-! ## The collector -/

variable (equals : Json → Json → Bool) (serialize : Json → String) (parse : String → Option Json)
  (clock : Clock)

/-- `ProcessCreationCollector_CreateSingleEvent`. -/
def createSingleEvent (o : ProcessOutcome) :
    AuditEvent → EventAggregator × ExecutableHashMap →
      EventCollectorResult × Option Json × EventAggregator × ExecutableHashMap :=
  AuditCollector.createSingleEvent clock PROCESS_CREATION_NAME
    PROCESS_CREATION_PAYLOAD_SCHEMA_VERSION .recordHasErrors .exception (generatePayload o)
    o.toRecordOutcome

/-- `ProcessCreationCollector_CreateEventForAgrregation`. -/
def createEventForAggregation (o : ProcessOutcome) :
    AuditEvent → EventAggregator × ExecutableHashMap →
      EventCollectorResult × Option Json × EventAggregator × ExecutableHashMap :=
  AuditCollector.createEventForAggregation equals serialize parse (generatePayload o) (setToZero o)
    o.toRecordOutcome

/-- What `ProcessCreationCollector_GetEvents` does with one record, and which results end it: all
but OK, a record with errors and a full queue. -/
def collector : AuditCollector (EventAggregator × ExecutableHashMap) ProcessOutcome where
  searchCriteria := .type
  messageTypes := AUDIT_PROCESS_CREATION_TYPES
  endsLoop result := result ≠ .recordHasErrors && result ≠ .outOfMem && result ≠ .ok
  createEvent aggregation o e s :=
    if aggregation then createEventForAggregation equals serialize parse o e s
    else createSingleEvent clock o e s
  getAggregatedEvents o s :=
    let (result, events, _, aggregator) := EventAggregator.getAggregatedEvents clock o s.1
    (result, events.map Prod.snd, aggregator, s.2)

end ProcessCreationCollector

/-- `sh`, run by user 1 at this time. -/
def shRun (time : AuditTime) : AuditEvent where
  serial := 0
  time := time
  timestamp := true
  firstRecord := 1
  field name := if name = "hash" then .notFound else .found ⟨some "1", some 1, some "/bin/sh"⟩
  records := [⟨true, 1309, some "type=EXECVE argc=1 a0=sh",
    fun _ => .found ⟨some "1", some 1, some "sh"⟩⟩]

end SecurityAgent
