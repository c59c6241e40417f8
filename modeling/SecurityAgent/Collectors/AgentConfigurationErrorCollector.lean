import SecurityAgent.Collectors.GenericEvent
import SecurityAgent.Twin.TwinConfiguration
import SecurityAgent.Util.TimeDiff
import SecurityAgent.Util.Utils

/-!
# Configuration errors: `agent_configuration_error_collector.c`

A run of the collector looks at the last update of the twin. If it was a success
the settings are checked against each other, and if its settings could not be
parsed they are named in a message. Whether the update has been looked at before
is told from its time, in whole seconds.
-/

namespace SecurityAgent

/-- Code that may `goto cleanup` with a result while it reads the twin configuration. -/
abbrev CollectM := ExceptT EventCollectorResult (StateT TwinModule Option)

/-- What the environment answers to one run. -/
structure ConfigurationErrorOutcome where
  /-- `JsonObjectWriter_Init(&eventHandle)`. -/
  eventWriter : Bool
  metadata : MetadataOutcome
  /-- `JsonArrayWriter_Init(&payloadHandle)`. -/
  payloadWriter : Bool
  /-- The locks of the getters, in the order of the calls. -/
  locks : Nat → EventCollectors.LockOutcomes
  /-- The JSON calls of `AgentConfigurationErrorCollector_AddPayload`. -/
  item : String → Bool
  report : TwinModule.ReportOutcome
  /-- `json_serialize_to_string` on the twin. -/
  print : Json → String
  /-- The writes of `GenericEvent_AddPayload`. -/
  payload : Bool
  /-- `JsonObjectWriter_Serialize`. -/
  serialize : Bool
  /-- `SyncQueue_PushBack` returns 0. -/
  push : Bool

namespace AgentConfigurationErrorCollector

open TwinConfiguration Utils

def ERROR_TYPE_CONFLICT : String := "Conflict"
def ERROR_TYPE_NOT_OPTIMAL : String := "NotOptimal"
def ERROR_TYPE_TYPE_MISMATCH : String := "TypeMismatch"
def EVENT_PROPERTIES_KEY : String := "eventPriorities"
def AGENT_CONFIGURATION_ERROR_CONFIGURATION_NAME_KEY : String := "ConfigurationName"
def AGENT_CONFIGURATION_ERROR_ERROR_KEY : String := "ErrorType"
def AGENT_CONFIGURATION_ERROR_EVENT_NAME : String := "ConfigurationError"
def AGENT_CONFIGURATION_ERROR_EVENT_SCHEMA_VERSION : String := "1.0"
def AGENT_CONFIGURATION_ERROR_MESSAGE_KEY : String := "Message"
def AGENT_CONFIGURATION_ERROR_USED_CONFIGURATION_KEY : String := "UsedConfiguration"
def MESSAGE_BILLING_MULTIPLE : UInt32 := 4 * 1024

/-! ## The message -/

/-- The text the message begins with. -/
def heading : String := "Couldn't parse the following conifgurations:"

/-- One key is added with the format `" %s,"` if it has been recorded. -/
def concatenateKey (status : TwinConfigurationStatus) (key : String) (msg : String × Nat) :
    Option (String × Nat) :=
  if status = .typeMismatch then concatenateToString msg.1 msg.2 (" " ++ key ++ ",") else some msg

/-- `AgentConfigurationErrorCollector_GenerateTypeMismatchMessage`. -/
def generateTypeMismatchMessage (configurationBundleStatus : TwinConfigurationBundleStatus)
    (size : Nat) : Option String := do
  let msg ← concatenateToString "" size heading
  let msg ← concatenateKey configurationBundleStatus.maxLocalCacheSize MAX_LOCAL_CACHE_SIZE_KEY msg
  let msg ← concatenateKey configurationBundleStatus.maxMessageSize MAX_MESSAGE_SIZE_KEY msg
  let msg ← concatenateKey configurationBundleStatus.lowPriorityMessageFrequency
    LOW_PRIORITY_MESSAGE_FREQUENCY_KEY msg
  let msg ← concatenateKey configurationBundleStatus.highPriorityMessageFrequency
    HIGH_PRIORITY_MESSAGE_FREQUENCY_KEY msg
  let msg ← concatenateKey configurationBundleStatus.snapshotFrequency SNAPSHOT_FREQUENCY_KEY msg
  let msg ← concatenateKey configurationBundleStatus.eventPriorities EVENT_PROPERTIES_KEY msg
  -- the terminator is written over the second last character
  return String.ofList (msg.1.toList.take (msg.1.length - 2))

/-! ## The payload -/

/-- `AgentConfigurationErrorCollector_AddPayload`. -/
def addPayload (o : ConfigurationErrorOutcome) (payload : List Json)
    (configurationName error msg usedConfig : String) : CollectM (List Json) :=
  if o.item configurationName then
    return payload ++ [((((JsonObjectWriter.init.writeString
      AGENT_CONFIGURATION_ERROR_CONFIGURATION_NAME_KEY configurationName).writeString
      AGENT_CONFIGURATION_ERROR_USED_CONFIGURATION_KEY usedConfig).writeString
      AGENT_CONFIGURATION_ERROR_MESSAGE_KEY msg).writeString
      AGENT_CONFIGURATION_ERROR_ERROR_KEY error).rootValue]
  else throw .exception

/-- A setting, or the end of the run when it cannot be had. -/
def getSetting
    (get : TwinModule → Option (Except TwinConfigurationResult UInt32 × TwinModule)) :
    CollectM UInt32 := fun s =>
  (get s).map fun
    | (.error _, s) => (.error .exception, s)
    | (.ok value, s) => (.ok value, s)

/-- `sprintf` with `"%d"`, which takes an `int`. -/
def printInt (value : UInt32) : String := toString value.toInt32.toInt

/-- `AgentConfigurationErrorCollector_ValidateMaxLocalCacheSizeIsHigherThanMaxMessageSize`. -/
def validateMaxLocalCacheSizeIsHigherThanMaxMessageSize (o : ConfigurationErrorOutcome)
    (payload : List Json) : CollectM (List Json) := do
  let maxCacheConfig ← getSetting (TwinModule.getMaxLocalCacheSize (o.locks 0))
  let maxMessageSizeConfig ← getSetting (TwinModule.getMaxMessageSize (o.locks 1))
  if maxCacheConfig < maxMessageSizeConfig then
    addPayload o payload MAX_LOCAL_CACHE_SIZE_KEY ERROR_TYPE_CONFLICT
      "maxLocalCacheSize is lower than maxMessageSize" (printInt maxCacheConfig)
  else return payload

/-- `AgentConfigurationErrorCollector_ValidateMaxMessageSizeOptimal`. -/
def validateMaxMessageSizeOptimal (o : ConfigurationErrorOutcome) (payload : List Json) :
    CollectM (List Json) := do
  let maxMessageSizeConfig ← getSetting (TwinModule.getMaxMessageSize (o.locks 2))
  if maxMessageSizeConfig % MESSAGE_BILLING_MULTIPLE ≠ 0 then
    addPayload o payload MAX_MESSAGE_SIZE_KEY ERROR_TYPE_NOT_OPTIMAL
      "maxMessageSize is not optimal" (printInt maxMessageSizeConfig)
  else return payload

/-- `AgentConfigurationErrorCollector_ValidateHighPrioFreqIsLowerThanLowPrioFreq`. -/
def validateHighPrioFreqIsLowerThanLowPrioFreq (o : ConfigurationErrorOutcome)
    (payload : List Json) : CollectM (List Json) := do
  let highPrioFreq ← getSetting (TwinModule.getHighPriorityMessageFrequency (o.locks 3))
  let lowPrioFreq ← getSetting (TwinModule.getLowPriorityMessageFrequency (o.locks 4))
  if highPrioFreq > lowPrioFreq then
    match TimeUtils.millisecondsToISO8601DurationString highPrioFreq TimeUtils.DURATION_MAX_LENGTH with
    | none => throw .exception
    | some configAsString =>
        addPayload o payload HIGH_PRIORITY_MESSAGE_FREQUENCY_KEY ERROR_TYPE_CONFLICT
          "high priority frequency is higher than low priority frequency"
          (String.ofList configAsString)
  else return payload

/-- `TwinConfiguration_GetSerializedTwinConfiguration` as a step of a run. -/
def getSerializedTwinConfiguration (objectName : String) (o : ConfigurationErrorOutcome) :
    CollectM String := fun s =>
  (TwinModule.getSerializedTwinConfiguration objectName o.report s).map fun
    | (.ok, some twin, s) => (.ok (o.print twin), s)
    | (_, _, s) => (.error .exception, s)

/-- `AgentConfigurationErrorCollector_CreateTypeMismatchPayload`. -/
def createTypeMismatchPayload (objectName : String) (o : ConfigurationErrorOutcome)
    (lastUpdateResult : TwinConfigurationUpdateResult) (payload : List Json) :
    CollectM (List Json) :=
  match generateTypeMismatchMessage lastUpdateResult.configurationBundleStatus 512 with
  | none => throw .exception
  | some buffer => do
      let currentConfiguration ← getSerializedTwinConfiguration objectName o
      addPayload o payload "TwinConfiguration" ERROR_TYPE_TYPE_MISMATCH buffer currentConfiguration

/-! ## The event -/

/-- The payload that the result of the last update calls for. -/
def createPayload (objectName : String) (o : ConfigurationErrorOutcome)
    (lastTwinUpdateResult : TwinConfigurationUpdateResult) : CollectM (List Json) :=
  match lastTwinUpdateResult.lastUpdateResult with
  | .ok => do
      let payload ← validateMaxLocalCacheSizeIsHigherThanMaxMessageSize o []
      let payload ← validateMaxMessageSizeOptimal o payload
      validateHighPrioFreqIsLowerThanLowPrioFreq o payload
  | .parseException => createTypeMismatchPayload objectName o lastTwinUpdateResult []
  | _ => return []

/-- The event, up to its push. -/
def createEvent (clock : Clock) (objectName : String) (o : ConfigurationErrorOutcome)
    (lastTwinUpdateResult : TwinConfigurationUpdateResult) : CollectM Json :=
  if o.eventWriter = false then throw .exception
  else
    match GenericEvent.addMetadata clock o.metadata JsonObjectWriter.init
        GenericEvent.EVENT_TRIGGERED_CATEGORY AGENT_CONFIGURATION_ERROR_EVENT_NAME
        GenericEvent.EVENT_TYPE_OPERATIONAL_VALUE
        AGENT_CONFIGURATION_ERROR_EVENT_SCHEMA_VERSION with
    | none => throw .exception
    | some event =>
        if o.payloadWriter = false then throw .exception
        else do
          let payload ← createPayload objectName o lastTwinUpdateResult
          match GenericEvent.addPayload o.payload event payload with
          | none => throw .exception
          | some event => return event.rootValue

/-- `AgentConfigurationErrorCollector_PushEvent`. -/
def pushEvent (o : ConfigurationErrorOutcome) : EventCollectorResult :=
  if o.serialize ∧ o.push then .ok else .exception

/-- What a run does: whether it gets past the comparison of the times, what it returns, and the
event that it has pushed. -/
structure CollectorRun where
  attempted : Bool
  result : EventCollectorResult
  pushed : Option Json

/-- `AgentConfigurationErrorCollector_GetEvents`: the run, `lastEvent` and the module after it. The
marker is moved on whatever came of the event. -/
def getEvents (clock : Clock) (objectName : String) (o : ConfigurationErrorOutcome)
    (lastEvent : Int) (s : TwinModule) : Option (CollectorRun × Int × TwinModule) :=
  let lastTwinUpdateResult := s.updateResult
  if TimeUtils.getTimeDiff lastTwinUpdateResult.lastUpdateTime lastEvent = 0 then
    some (⟨false, .ok, none⟩, lastTwinUpdateResult.lastUpdateTime, s)
  else
    match createEvent clock objectName o lastTwinUpdateResult s with
    | none => none
    | some (.error result, s) =>
        some (⟨true, result, none⟩, lastTwinUpdateResult.lastUpdateTime, s)
    | some (.ok event, s) =>
        some (⟨true, pushEvent o, if pushEvent o = .ok then some event else none⟩,
          lastTwinUpdateResult.lastUpdateTime, s)

end AgentConfigurationErrorCollector

end SecurityAgent
