import SecurityAgent.Collectors.GenericEvent
import SecurityAgent.Json.JsonArrayReader
import SecurityAgent.Privileges.ProcessInfoHandler
import SecurityAgent.Util.Utils

/-!
# The baseline: `baseline_collector.c` and `process_utils.c`

A checker is run as root and what it writes is read as JSON: an array of results, of
which those that have not passed are reported. It is run a second time for the checks
of the user's own, if the twin asks for them, and then nothing depends on how that ends.
-/

namespace SecurityAgent

open Utils

/-- What becomes of one command that is run through a shell. -/
structure CommandOutcome where
  /-- `popen`. -/
  popen : Bool
  /-- What there is to read of it. -/
  output : List Char
  /-- `ferror`. -/
  readError : Bool
  /-- `pclose`. -/
  closeResult : Int

namespace ProcessUtils

/-- `ProcessUtils_Execute`: whether it succeeds, what the memory at `output` holds afterwards, and
`outputSize`. What fills the buffer might have been longer, and that is a failure. -/
def execute (command : CommandOutcome) (output : List Char) (outputSize : Nat) :
    Bool × List Char × Nat :=
  if command.popen = false then (false, output, outputSize)
  else
    let read := command.output.take outputSize
    (!command.readError && read.length ≠ outputSize && command.closeResult = 0,
      read ++ output.drop read.length, read.length)

end ProcessUtils

/-- What the environment answers while the payloads of one command are added. -/
structure PayloadsOutcome where
  /-- The buffer: `NULL`, or what is in it and behind it when it is allocated. -/
  buffer : Option (List Char)
  /-- `JsonObjectReader_InitFromString` and `JsonObjectReader_ReadArray` have memory. -/
  reader : Bool
  array : Bool
  /-- `JsonArrayReader_ReadObject` and the JSON calls that write a result, by its index. -/
  readObject : Nat → Bool
  write : Nat → Bool

/-- `BaselineCustomChecksConfiguration`. -/
structure BaselineCustomChecksConfiguration where
  enabled : Bool
  filePath : Option String
  fileHash : Option String

/-- What the environment answers while the baseline is collected. -/
structure BaselineOutcome where
  /-- `JsonObjectWriter_Init` for the event. -/
  rootObject : Bool
  metadata : MetadataOutcome
  /-- `JsonArrayWriter_Init`. -/
  array : Bool
  /-- What becomes of a command. -/
  run : String → CommandOutcome
  baseline : PayloadsOutcome
  /-- What the twin says of the custom checks, `none` when one of the three getters fails. -/
  customChecksConfiguration : Option BaselineCustomChecksConfiguration
  /-- `Utils_StringFormat`. -/
  stringFormat : Bool
  customChecks : PayloadsOutcome
  /-- The writes of `GenericEvent_AddPayload`. -/
  payload : Bool
  serialize : Bool
  /-- `SyncQueue_PushBack` returns `QUEUE_OK`. -/
  push : Bool

namespace BaselineCollector

def OMS_BASELINE_MAX_OUTPUT_SIZE : Nat := 5242880
def OMS_BASELINE_COMMAND : String := "./omsbaseline -d ."
def OMS_BASELINE_RESULT_KEY : String := "result"
def OMS_BASELINE_DESCRIPTION_KEY : String := "description"
def OMS_BASELINE_CCEID_KEY : String := "cceid"
def OMS_BASELINE_ERROR_KEY : String := "error_text"
def OMS_BASELINE_SERVERITY_KEY : String := "severity"
def OMS_BASELINE_PASS_VALUE : String := "PASS"
def OMS_BASELINE_RESULTS_LIST_VALUE : String := "results"
def BASELINE_NAME : String := "OSBaseline"
def BASELINE_PAYLOAD_SCHEMA_VERSION : String := "1.0"
def BASELINE_DESCRIPTION_KEY : String := "Description"
def BASELINE_CCEID_KEY : String := "CceId"
def BASELINE_RESULT_KEY : String := "Result"
def BASELINE_ERROR_KEY : String := "Error"
def BASELINE_SEVERITY_KEY : String := "Severity"

/-- `OMS_BASELINE_CUSTOM_CHECKS_COMMAND`, with the two texts in it. -/
def customChecksCommand (filePath fileHash : String) : String :=
  "./omsbaseline -ccfp " ++ filePath ++ " -ccfh " ++ fileHash

/-! ## Results -/

/-- `BaselineCollector_CopyStringValue`. -/
def copyStringValue (reader : JsonObjectReader) (srcKey : String) (writer : JsonObjectWriter)
    (destKey : String) : Option JsonObjectWriter :=
  match reader.readString srcKey with
  | .error _ => none
  | .ok strValue => some (writer.writeString destKey strValue)

/-- What is copied of a result that has not passed. -/
def resultItem (item : JsonObjectReader) (strValue : String) : Option JsonObjectWriter := do
  let itemWriter := JsonObjectWriter.init.writeString BASELINE_RESULT_KEY strValue
  let itemWriter ← copyStringValue item OMS_BASELINE_DESCRIPTION_KEY itemWriter
    BASELINE_DESCRIPTION_KEY
  let itemWriter ← copyStringValue item OMS_BASELINE_CCEID_KEY itemWriter BASELINE_CCEID_KEY
  let itemWriter ← copyStringValue item OMS_BASELINE_ERROR_KEY itemWriter BASELINE_ERROR_KEY
  copyStringValue item OMS_BASELINE_SERVERITY_KEY itemWriter BASELINE_SEVERITY_KEY

/-- `BaselineCollector_AddSingleResult`: its result, and what it adds to the array. -/
def addSingleResult (write : Bool) (item : JsonObjectReader) :
    EventCollectorResult × Option Json :=
  match item.readString OMS_BASELINE_RESULT_KEY with
  | .error _ => (.exception, none)
  | .ok strValue =>
      if unsafeAreStringsEqual (some OMS_BASELINE_PASS_VALUE) (some strValue) false = some true then
        (.recordFiltered, none)
      else if write = false then (.exception, none)
      else
        match resultItem item strValue with
        | none => (.exception, none)
        | some itemWriter => (.ok, some itemWriter.rootValue)

/-- The loop over the results, `i` being the index of the first one left. -/
def addResults (o : PayloadsOutcome) : Nat → List Json → EventCollectorResult × List Json
  | _, [] => (.ok, [])
  | i, item :: rest =>
      match JsonArrayReader.readObject (o.readObject i) item with
      | .error _ => (.exception, [])
      | .ok reader =>
          let (result, added) := addSingleResult (o.write i) reader
          if result ≠ .ok ∧ result ≠ .recordFiltered then (.exception, [])
          else
            let (result, others) := addResults o (i + 1) rest
            (result, added.toList ++ others)

/-! ## Running the checker -/

/-- `BaselineCollector_RunOmsbaseline`: its result, the buffer, and `bytesRead`. -/
def runOmsbaseline (answer : SetEuid) (command : CommandOutcome) (output : List Char) :
    StateM Privileges (EventCollectorResult × List Char × Nat) := do
  let info ← ProcessInfoHandler.changeToRoot answer
  let run :=
    if info.1 = false then (EventCollectorResult.exception, output, 0)
    else
      let (executed, output, bytesRead) :=
        ProcessUtils.execute command output OMS_BASELINE_MAX_OUTPUT_SIZE
      (if executed then .ok else .exception, output, bytesRead)
  -- the cleanup, for which `processInfoWasSet` says whether the switch has succeeded
  let _ ← ProcessInfoHandler.resetIfRoot answer info
  pure run

/-- What `BaselineCollector_AddPayloads` makes of what has been run. -/
def readOutput (parse : String → Option Json) (o : PayloadsOutcome)
    (run : EventCollectorResult × List Char × Nat) : EventCollectorResult × List Json :=
  let (result, buffer, bufferSize) := run
  if result ≠ .ok then (result, [])
  else if bufferSize = 0 then (.ok, [])
  else
    match JsonObjectReader.initFromString o.reader (parse (cString buffer)) with
    | .error _ => (.exception, [])
    | .ok baselineResult =>
        match JsonArrayReader.init o.array baselineResult OMS_BASELINE_RESULTS_LIST_VALUE with
        | .error _ => (.exception, [])
        | .ok resultsList => addResults o 0 resultsList

/-- `BaselineCollector_AddPayloads`: its result, and what it adds to the array. The buffer begins
with an empty string. -/
def addPayloads (answer : SetEuid) (parse : String → Option Json) (run : String → CommandOutcome)
    (o : PayloadsOutcome) (baselineCommand : String) :
    StateM Privileges (EventCollectorResult × List Json) :=
  match o.buffer with
  | none => pure (.exception, [])
  | some buffer => do
      let run ← runOmsbaseline answer (run baselineCommand) (nul :: buffer.drop 1)
      pure (readOutput parse o run)

/-- `BaselineCollector_AddBaselineCustomChecksPayload`: what it adds, whether it fails or not. -/
def addBaselineCustomChecksPayload (answer : SetEuid) (parse : String → Option Json)
    (run : String → CommandOutcome) (stringFormat : Bool) (o : PayloadsOutcome)
    (filePath fileHash : String) : StateM Privileges (List Json) :=
  if stringFormat = false then pure []
  else Prod.snd <$> addPayloads answer parse run o (customChecksCommand filePath fileHash)

/-- `Utils_IsStringBlank`. -/
def isStringBlank (s : Option String) : Bool :=
  match s with
  | none => true
  | some s => s.toList.all isSpace

/-- `BaselineCollector_IsBaselineCustomChecksEnabled`: the two texts, if they are to be used. -/
def isBaselineCustomChecksEnabled (config : Option BaselineCustomChecksConfiguration) :
    Option (String × String) :=
  match config with
  | none => none
  | some config =>
      match config.filePath, config.fileHash with
      | some filePath, some fileHash =>
          if config.enabled && !isStringBlank config.filePath && !isStringBlank config.fileHash then
            some (filePath, fileHash)
          else none
      | _, _ => none

/-- The payload of the event: the results of the checker, then those of the custom checks. -/
def collectPayloads (answer : SetEuid) (parse : String → Option Json) (o : BaselineOutcome) :
    StateM Privileges (EventCollectorResult × List Json) := do
  let payloads ← addPayloads answer parse o.run o.baseline OMS_BASELINE_COMMAND
  if payloads.1 ≠ .ok then pure payloads
  else
    match isBaselineCustomChecksEnabled o.customChecksConfiguration with
    | none => pure payloads
    | some (filePath, fileHash) => do
        let customChecks ← addBaselineCustomChecksPayload answer parse o.run o.stringFormat
          o.customChecks filePath fileHash
        pure (.ok, payloads.2 ++ customChecks)

/-- The rest of `BaselineCollector_GetEvents`: its result, and the event that is pushed. -/
def pushEvent (o : BaselineOutcome) (baselineEventWriter : JsonObjectWriter)
    (payloads : EventCollectorResult × List Json) : EventCollectorResult × Option Json :=
  if payloads.1 ≠ .ok then (payloads.1, none)
  else
    match GenericEvent.addPayload o.payload baselineEventWriter payloads.2 with
    | none => (.exception, none)
    | some baselineEventWriter =>
        if o.serialize = true ∧ o.push = true then (.ok, some baselineEventWriter.rootValue)
        else (.exception, none)

/-- `BaselineCollector_GetEvents`. -/
def getEvents (answer : SetEuid) (clock : Clock) (parse : String → Option Json)
    (o : BaselineOutcome) : StateM Privileges (EventCollectorResult × Option Json) :=
  if o.rootObject = false then pure (.exception, none)
  else
    match GenericEvent.addMetadata clock o.metadata JsonObjectWriter.init
        GenericEvent.EVENT_PERIODIC_CATEGORY BASELINE_NAME GenericEvent.EVENT_TYPE_SECURITY_VALUE
        BASELINE_PAYLOAD_SCHEMA_VERSION with
    | none => pure (.exception, none)
    | some baselineEventWriter =>
        if o.array = false then pure (.exception, none)
        else pushEvent o baselineEventWriter <$> collectPayloads answer parse o

/-! ## Who the process is afterwards -/

open Keeping ProcessInfoHandler

variable {answer : SetEuid} {parse : String → Option Json}

theorem runOmsbaseline_restores (command : CommandOutcome) (output : List Char) :
    Restores answer (runOmsbaseline answer command output) :=
  restores_asRoot fun _ => Keeps.pure _

theorem addPayloads_restores (run : String → CommandOutcome) (o : PayloadsOutcome)
    (baselineCommand : String) :
    Restores answer (addPayloads answer parse run o baselineCommand) := by
  unfold addPayloads
  cases o.buffer with
  | none => exact Keeps.pure _
  | some buffer => exact (runOmsbaseline_restores _ _).bind fun _ => Keeps.pure _

theorem collectPayloads_restores (o : BaselineOutcome) :
    Restores answer (collectPayloads answer parse o) := by
  refine (addPayloads_restores o.run o.baseline OMS_BASELINE_COMMAND).bind fun payloads => ?_
  by_cases hok : payloads.1 ≠ .ok
  · rw [if_pos hok]
    exact Keeps.pure _
  rw [if_neg hok]
  cases isBaselineCustomChecksEnabled o.customChecksConfiguration with
  | none => exact Keeps.pure _
  | some texts =>
      -- the second run of the checker
      refine Keeps.bind ?_ fun _ => Keeps.pure _
      unfold addBaselineCustomChecksPayload
      split
      · exact Keeps.pure _
      · exact (addPayloads_restores _ _ _).map _

/-- **The baseline collector gives root back**, after each of its runs of the checker. -/
theorem getEvents_restores (clock : Clock) (o : BaselineOutcome) :
    Restores answer (getEvents answer clock parse o) := by
  unfold getEvents
  split
  · exact Keeps.pure _
  · split
    · exact Keeps.pure _
    · split
      · exact Keeps.pure _
      · exact (collectPayloads_restores o).map _

end BaselineCollector

end SecurityAgent
