import SecurityAgent.Twin.EventCollectors

/-!
# The twin configuration: `twin_configuration.c`

`Update` replaces the effective configuration by the one a document gives. It
extracts its own settings into a local record, then lets the event collectors
commit theirs, then frees its own strings and copies the local record over the
static one; so by the time it can still fail, something has been changed
already.

A step that would free freed memory, or wait for a lock that is never released,
has no result: `none`.
-/

namespace SecurityAgent

open JsonObjectReader TwinConfigurationUtils

/-- `TwinConfigurationStatus`. -/
inductive TwinConfigurationStatus where
  | ok
  | typeMismatch
  deriving DecidableEq, Repr

/-- `TwinConfigurationBundleStatus`. -/
structure TwinConfigurationBundleStatus where
  maxLocalCacheSize : TwinConfigurationStatus := .ok
  maxMessageSize : TwinConfigurationStatus := .ok
  lowPriorityMessageFrequency : TwinConfigurationStatus := .ok
  highPriorityMessageFrequency : TwinConfigurationStatus := .ok
  snapshotFrequency : TwinConfigurationStatus := .ok
  eventPriorities : TwinConfigurationStatus := .ok
  baselineCustomChecksEnabled : TwinConfigurationStatus := .ok
  baselineCustomChecksFilePath : TwinConfigurationStatus := .ok
  baselineCustomChecksFileHash : TwinConfigurationStatus := .ok
  deriving DecidableEq, Repr

/-- `TwinConfiguration`, its lock apart. A string is `none` where the C has `NULL`. -/
structure TwinConfiguration where
  maxLocalCacheSize : UInt32
  maxMessageSize : UInt32
  lowPriorityMessageFrequency : UInt32
  highPriorityMessageFrequency : UInt32
  snapshotFrequency : UInt32
  baselineCustomChecksEnabled : Bool
  baselineCustomChecksFilePath : Option String
  baselineCustomChecksFileHash : Option String
  deriving DecidableEq, Repr

/-- `TwinConfigurationUpdateResult`. -/
structure TwinConfigurationUpdateResult where
  lastUpdateTime : Int
  lastUpdateResult : TwinConfigurationResult
  configurationBundleStatus : TwinConfigurationBundleStatus
  deriving DecidableEq, Repr

namespace TwinConfiguration

def MAX_LOCAL_CACHE_SIZE_KEY : String := "maxLocalCacheSizeInBytes"
def MAX_MESSAGE_SIZE_KEY : String := "maxMessageSizeInBytes"
def LOW_PRIORITY_MESSAGE_FREQUENCY_KEY : String := "lowPriorityMessageFrequency"
def HIGH_PRIORITY_MESSAGE_FREQUENCY_KEY : String := "highPriorityMessageFrequency"
def SNAPSHOT_FREQUENCY_KEY : String := "snapshotFrequency"
def BASELINE_CUSTOM_CHECKS_ENABLED_KEY : String := "baselineCustomChecksEnabled"
def BASELINE_CUSTOM_CHECKS_FILE_PATH_KEY : String := "baselineCustomChecksFilePath"
def BASELINE_CUSTOM_CHECKS_FILE_HASH_KEY : String := "baselineCustomChecksFileHash"

/-- What `Init` stores, and what a setting is when the twin does not give it. -/
def default : TwinConfiguration where
  maxLocalCacheSize := 10 * 1024 * 1024
  maxMessageSize := 200 * 1024
  lowPriorityMessageFrequency := 5 * TimeUtils.MILLISECONDS_IN_AN_HOUR
  highPriorityMessageFrequency := 7 * TimeUtils.MILLISECONDS_IN_A_MINUTE
  snapshotFrequency := 13 * TimeUtils.MILLISECONDS_IN_AN_HOUR
  baselineCustomChecksEnabled := false
  baselineCustomChecksFilePath := none
  baselineCustomChecksFileHash := none

/-- `{ 0 }`. -/
def zero : TwinConfiguration where
  maxLocalCacheSize := 0
  maxMessageSize := 0
  lowPriorityMessageFrequency := 0
  highPriorityMessageFrequency := 0
  snapshotFrequency := 0
  baselineCustomChecksEnabled := false
  baselineCustomChecksFilePath := none
  baselineCustomChecksFileHash := none

end TwinConfiguration

/-! ## Extracting -/

namespace TwinConfiguration

/-- One setting with its default: the result, the status recorded for it, and the value, which
stays `zero` where none could be read. What the three `SetSingle..OrDefault` share. -/
def setSingleValueFromJsonOrDefault {α β : Type}
    (get : JsonObjectReader → String → Except TwinConfigurationResult α × JsonObjectReader)
    (found : α → β) (zero defaultValue : β) (key : String) (reader : JsonObjectReader) :
    TwinConfigurationResult × TwinConfigurationStatus × β × JsonObjectReader :=
  match get reader key with
  | (.ok value, reader) => (.ok, .ok, found value, reader)
  | (.error .confNotExist, reader) => (.ok, .ok, defaultValue, reader)
  | (.error .parseException, reader) => (.parseException, .typeMismatch, zero, reader)
  | (.error result, reader) => (result, .ok, zero, reader)

/-- `TwinConfiguration_SetSingleUintValueFromJsonOrDefault`. -/
def setSingleUintValueFromJsonOrDefault (defaultValue : UInt32) (key : String) (isTime : Bool) :
    JsonObjectReader →
      TwinConfigurationResult × TwinConfigurationStatus × UInt32 × JsonObjectReader :=
  setSingleValueFromJsonOrDefault
    (if isTime then getConfigurationTimeValueFromJson else getConfigurationUintValueFromJson)
    id 0 defaultValue key

/-- `TwinConfiguration_SetSingleBoolValueFromJsonOrDefault`. -/
def setSingleBoolValueFromJsonOrDefault (defaultValue : Bool) (key : String) :
    JsonObjectReader →
      TwinConfigurationResult × TwinConfigurationStatus × Bool × JsonObjectReader :=
  setSingleValueFromJsonOrDefault getConfigurationBoolValueFromJson id false defaultValue key

/-- `TwinConfiguration_SetSingleStringValueFromJsonOrDefault`. Both its defaults are `NULL`, for
which `Utils_DuplicateString` allocates nothing and succeeds. -/
def setSingleStringValueFromJsonOrDefault (key : String) :
    JsonObjectReader →
      TwinConfigurationResult × TwinConfigurationStatus × Option String × JsonObjectReader :=
  setSingleValueFromJsonOrDefault getConfigurationStringValueFromJson some none none key

/-- What `ExtractConfiguration` works on: the reader, the statuses, and its `result`. -/
structure ExtractState where
  jsonReader : JsonObjectReader
  parsingResult : TwinConfigurationBundleStatus
  result : TwinConfigurationResult

/-- Code that may `goto cleanup` with a result. -/
abbrev ExtractM := EStateM TwinConfigurationResult ExtractState

/-- Extract one setting. A mismatch is recorded and the next setting is read all the same; any
other failure ends the extraction. -/
def extract {α : Type}
    (set : JsonObjectReader →
      TwinConfigurationResult × TwinConfigurationStatus × α × JsonObjectReader)
    (record : TwinConfigurationStatus → TwinConfigurationBundleStatus →
      TwinConfigurationBundleStatus) : ExtractM α := fun s =>
  match set s.jsonReader with
  | (.ok, status, value, reader) =>
      .ok value { s with jsonReader := reader, parsingResult := record status s.parsingResult }
  | (.parseException, status, value, reader) =>
      .ok value { jsonReader := reader, parsingResult := record status s.parsingResult,
                  result := .parseException }
  | (currentKeyResult, status, _, reader) =>
      .error currentKeyResult
        { jsonReader := reader, parsingResult := record status s.parsingResult,
          result := currentKeyResult }

/-- `TwinConfiguration_ExtractConfiguration`. -/
def extractConfiguration : ExtractM TwinConfiguration := do
  let maxLocalCacheSize ← extract
    (setSingleUintValueFromJsonOrDefault default.maxLocalCacheSize MAX_LOCAL_CACHE_SIZE_KEY false)
    fun status bundle => { bundle with maxLocalCacheSize := status }
  let maxMessageSize ← extract
    (setSingleUintValueFromJsonOrDefault default.maxMessageSize MAX_MESSAGE_SIZE_KEY false)
    fun status bundle => { bundle with maxMessageSize := status }
  let highPriorityMessageFrequency ← extract
    (setSingleUintValueFromJsonOrDefault default.highPriorityMessageFrequency
      HIGH_PRIORITY_MESSAGE_FREQUENCY_KEY true)
    fun status bundle => { bundle with highPriorityMessageFrequency := status }
  let lowPriorityMessageFrequency ← extract
    (setSingleUintValueFromJsonOrDefault default.lowPriorityMessageFrequency
      LOW_PRIORITY_MESSAGE_FREQUENCY_KEY true)
    fun status bundle => { bundle with lowPriorityMessageFrequency := status }
  let snapshotFrequency ← extract
    (setSingleUintValueFromJsonOrDefault default.snapshotFrequency SNAPSHOT_FREQUENCY_KEY true)
    fun status bundle => { bundle with snapshotFrequency := status }
  let baselineCustomChecksEnabled ← extract
    (setSingleBoolValueFromJsonOrDefault default.baselineCustomChecksEnabled
      BASELINE_CUSTOM_CHECKS_ENABLED_KEY)
    fun status bundle => { bundle with baselineCustomChecksEnabled := status }
  let baselineCustomChecksFilePath ← extract
    (setSingleStringValueFromJsonOrDefault BASELINE_CUSTOM_CHECKS_FILE_PATH_KEY)
    fun status bundle => { bundle with baselineCustomChecksFilePath := status }
  let baselineCustomChecksFileHash ← extract
    (setSingleStringValueFromJsonOrDefault BASELINE_CUSTOM_CHECKS_FILE_HASH_KEY)
    fun status bundle => { bundle with baselineCustomChecksFileHash := status }
  return {
    maxLocalCacheSize, maxMessageSize, lowPriorityMessageFrequency,
    highPriorityMessageFrequency, snapshotFrequency, baselineCustomChecksEnabled,
    baselineCustomChecksFilePath, baselineCustomChecksFileHash }

/-- `ExtractConfiguration` from a cleared status: the result, the statuses, the record and the
reader. -/
def runExtractConfiguration (jsonReader : JsonObjectReader) :
    TwinConfigurationResult × TwinConfigurationBundleStatus × TwinConfiguration
      × JsonObjectReader :=
  match extractConfiguration ⟨jsonReader, {}, .ok⟩ with
  | .ok configuration s => (s.result, s.parsingResult, configuration, s.jsonReader)
  | .error result s => (result, s.parsingResult, zero, s.jsonReader)

end TwinConfiguration

/-! ## The module -/

/-- The static data of the two modules. -/
structure TwinModule where
  /-- `twinConfiguration`. -/
  configuration : TwinConfiguration
  /-- `twinConfiguration.lock`. -/
  lock : LockHandle
  collectors : EventCollectors
  updateResult : TwinConfigurationUpdateResult
  deriving DecidableEq, Repr

namespace TwinModule

open TwinConfiguration

/-- `TwinConfiguration_Init`, when it returns `TWIN_OK`. -/
def init : TwinModule where
  configuration := TwinConfiguration.default
  lock := .free
  collectors := EventCollectors.init
  updateResult := ⟨0, .ok, {}⟩

/-- `TwinConfiguration_SafeDeinit`. -/
def safeDeinit (s : TwinModule) : TwinModule :=
  { s with configuration := { s.configuration with
      baselineCustomChecksFilePath := none, baselineCustomChecksFileHash := none } }

/-- `TwinConfiguration_Deinit`. -/
def deinit (s : TwinModule) : TwinModule :=
  let s := s.safeDeinit
  { s with collectors := s.collectors.deinit, lock := .null }

/-- What the environment of one update answers. -/
structure UpdateOutcome where
  /-- The `malloc` of the reader on the document. -/
  reader : Bool
  /-- `JsonObjectReader_InitFromString(&jsonReader, "{}")` returns `JSON_READER_OK`. -/
  emptyReader : Bool
  /-- `Lock(twinConfiguration.lock)` and its `Unlock`. -/
  locks : EventCollectors.LockOutcomes
  /-- The event collectors' `Lock` and `Unlock`. -/
  collectorsLocks : EventCollectors.LockOutcomes
  /-- The `malloc` for the copy of the file path. -/
  filePath : Bool
  /-- The `malloc` for the copy of the file hash. -/
  fileHash : Bool
  /-- `TimeUtils_GetCurrentTime()`. -/
  currentTime : Int
  deriving DecidableEq, Repr

/-- Everything succeeds. -/
def UpdateOutcome.ok (currentTime : Int) : UpdateOutcome where
  reader := true
  emptyReader := true
  locks := ⟨true, true⟩
  collectorsLocks := ⟨true, true⟩
  filePath := true
  fileHash := true
  currentTime := currentTime

/-- `Utils_DuplicateString`: the copy, or `none` where there is no memory for it. -/
def duplicateString (malloc : Bool) : Option String → Option (Option String)
  | none => some none
  | some s => if malloc then some (some s) else none

/-- `TwinConfiguration_DeepCopy` into the static record. -/
def deepCopy (o : UpdateOutcome) (src : TwinConfiguration) (s : TwinModule) :
    TwinConfigurationResult × TwinModule :=
  let dest := { src with
    baselineCustomChecksFilePath := s.configuration.baselineCustomChecksFilePath
    baselineCustomChecksFileHash := s.configuration.baselineCustomChecksFileHash }
  match duplicateString o.filePath src.baselineCustomChecksFilePath with
  | none =>
      (.memoryException, { s with configuration := { dest with
        baselineCustomChecksFilePath := none } })
  | some filePath =>
      let dest := { dest with baselineCustomChecksFilePath := filePath }
      match duplicateString o.fileHash src.baselineCustomChecksFileHash with
      | none =>
          (.memoryException, { s with configuration := { dest with
            baselineCustomChecksFileHash := none } })
      | some fileHash =>
          (.ok, { s with configuration := { dest with
            baselineCustomChecksFileHash := fileHash } })

/-- From `cleanup:` on. The lock is released only by the update that took it. -/
def cleanup (o : UpdateOutcome) (isLocked : Bool) (newBundleStatus : TwinConfigurationBundleStatus)
    (returnValue : TwinConfigurationResult) (s : TwinModule) :
    TwinConfigurationResult × TwinModule :=
  let s := { s with updateResult := ⟨o.currentTime, returnValue, newBundleStatus⟩ }
  match (if isLocked then s.lock.unlock o.locks.unlock else (true, s.lock)) with
  | (false, handle) => (.lockException, { s with lock := handle })
  | (true, handle) =>
      let s := { s with lock := handle }
      if returnValue = .memoryException then (returnValue, s.deinit) else (returnValue, s)

/-- `TwinConfiguration_Update` once its reader stands on the agent's own object. -/
def updateFrom (o : UpdateOutcome) (jsonReader : JsonObjectReader) (s : TwinModule) :
    Option (TwinConfigurationResult × TwinModule) :=
  match runExtractConfiguration jsonReader with
  | (.ok, newBundleStatus, newConfiguration, jsonReader) =>
      match s.lock.lock o.locks.lock with
      | none => none
      | some (false, handle) =>
          some (cleanup o false newBundleStatus .lockException { s with lock := handle })
      | some (true, handle) =>
          match EventCollectors.update o.collectorsLocks jsonReader s.collectors with
          | none => none
          | some (.ok, _, collectors) =>
              match deepCopy o newConfiguration
                  (safeDeinit { s with lock := handle, collectors := collectors }) with
              | (returnValue, s) => some (cleanup o true newBundleStatus returnValue s)
          | some (.parseException, _, collectors) =>
              some (cleanup o true { newBundleStatus with eventPriorities := .typeMismatch }
                .parseException { s with lock := handle, collectors := collectors })
          | some (returnValue, _, collectors) =>
              some (cleanup o true newBundleStatus returnValue
                { s with lock := handle, collectors := collectors })
  | (returnValue, newBundleStatus, _, _) =>
      some (cleanup o false newBundleStatus returnValue s)

/-- `TwinConfiguration_Update`. `parsed` is what `json_parse_string` gives for the document. -/
def update (objectName : String) (o : UpdateOutcome) (parsed : Option Json) (complete : Bool)
    (s : TwinModule) : Option (TwinConfigurationResult × TwinModule) :=
  match initFromString o.reader parsed with
  | .error _ => some (cleanup o false {} .exception s)
  | .ok jsonReader =>
      match (if complete then jsonReader.stepIn "desired" else .ok jsonReader) with
      | .error _ => some (cleanup o false {} .parseException s)
      | .ok jsonReader =>
          match jsonReader.stepIn objectName with
          | .ok jsonReader => updateFrom o jsonReader s
          | .error .keyMissing | .error .valueIsNull =>
              -- `jsonReader` is freed here; if no new one comes, it is freed once more
              if o.emptyReader then updateFrom o ⟨[], []⟩ s else none
          | .error _ => some (cleanup o false {} .parseException s)

end TwinModule

/-! ## Single settings -/

namespace TwinModule

/-- `TwinConfiguration_GetFieldInteger`. The field is read before the lock is asked for. -/
def getFieldInteger (o : EventCollectors.LockOutcomes) (field : TwinConfiguration → UInt32)
    (s : TwinModule) : Option (Except TwinConfigurationResult UInt32 × TwinModule) :=
  let value := field s.configuration
  match s.lock.lock o.lock with
  | none => none
  | some (false, handle) => some (.error .lockException, { s with lock := handle })
  | some (true, handle) =>
      match handle.unlock o.unlock with
      | (false, handle) => some (.error .lockException, { s with lock := handle })
      | (true, handle) => some (.ok value, { s with lock := handle })

/-- `TwinConfiguration_GetMaxLocalCacheSize`. -/
def getMaxLocalCacheSize (o : EventCollectors.LockOutcomes) :
    TwinModule → Option (Except TwinConfigurationResult UInt32 × TwinModule) :=
  getFieldInteger o (·.maxLocalCacheSize)

/-- `TwinConfiguration_GetMaxMessageSize`. -/
def getMaxMessageSize (o : EventCollectors.LockOutcomes) :
    TwinModule → Option (Except TwinConfigurationResult UInt32 × TwinModule) :=
  getFieldInteger o (·.maxMessageSize)

/-- `TwinConfiguration_GetHighPriorityMessageFrequency`. -/
def getHighPriorityMessageFrequency (o : EventCollectors.LockOutcomes) :
    TwinModule → Option (Except TwinConfigurationResult UInt32 × TwinModule) :=
  getFieldInteger o (·.highPriorityMessageFrequency)

/-- `TwinConfiguration_GetLowPriorityMessageFrequency`. -/
def getLowPriorityMessageFrequency (o : EventCollectors.LockOutcomes) :
    TwinModule → Option (Except TwinConfigurationResult UInt32 × TwinModule) :=
  getFieldInteger o (·.lowPriorityMessageFrequency)

end TwinModule

/-! ## Reporting -/

namespace TwinModule

open TwinConfiguration EventCollectors

/-- What the environment of one report answers. -/
structure ReportOutcome where
  /-- `JsonObjectWriter_Init(&twinRoot)` and `JsonObjectWriter_Init(&configurationObject)`. -/
  twinRoot : Bool
  configurationObject : Bool
  /-- Whether the `i`-th setting of this module finds the memory it needs. -/
  allocated : Nat → Bool
  /-- The same for the event collectors' settings. -/
  collectorsAllocated : Nat → Bool
  /-- `JsonObjectWriter_WriteObject` and `JsonObjectWriter_Serialize`. -/
  writeObject : Bool
  serialize : Bool
  locks : LockOutcomes
  collectorsLocks : LockOutcomes

/-- Everything succeeds. -/
def ReportOutcome.ok : ReportOutcome where
  twinRoot := true
  configurationObject := true
  allocated := fun _ => true
  collectorsAllocated := fun _ => true
  writeObject := true
  serialize := true
  locks := ⟨true, true⟩
  collectorsLocks := ⟨true, true⟩

/-- A string setting; nothing is written, and nothing can fail, for `NULL`. -/
def writeOptionalString (allocated : Bool) (key : String) : Option String → WriteM Unit
  | none => pure ()
  | some value => writeSetting allocated (writeStringConfigurationToJson · key (some value))

/-- A duration setting. -/
def writeTime (allocated : Bool) (key : String) (milisec : UInt32) : WriteM Unit := do
  let timeSpan ← printDuration milisec
  writeSetting allocated (writeStringConfigurationToJson · key (some timeSpan))

/-- The settings `GetSerializedTwinConfiguration` writes itself. -/
def writeConfiguration (allocated : Nat → Bool) (c : TwinConfiguration) : WriteM Unit := do
  writeSetting (allocated 0)
    (writeUintConfigurationToJson · MAX_LOCAL_CACHE_SIZE_KEY c.maxLocalCacheSize)
  writeSetting (allocated 1)
    (writeUintConfigurationToJson · MAX_MESSAGE_SIZE_KEY c.maxMessageSize)
  writeTime (allocated 2) HIGH_PRIORITY_MESSAGE_FREQUENCY_KEY c.highPriorityMessageFrequency
  writeTime (allocated 3) LOW_PRIORITY_MESSAGE_FREQUENCY_KEY c.lowPriorityMessageFrequency
  writeTime (allocated 4) SNAPSHOT_FREQUENCY_KEY c.snapshotFrequency
  writeSetting (allocated 5) (writeBoolConfigurationToJson ·
    BASELINE_CUSTOM_CHECKS_ENABLED_KEY c.baselineCustomChecksEnabled)
  writeOptionalString (allocated 6) BASELINE_CUSTOM_CHECKS_FILE_PATH_KEY
    c.baselineCustomChecksFilePath
  writeOptionalString (allocated 7) BASELINE_CUSTOM_CHECKS_FILE_HASH_KEY
    c.baselineCustomChecksFileHash

/-- Between the two lock calls of `GetSerializedTwinConfiguration`: the result, the document that
is serialised, and the event collectors. -/
def serializeConfiguration (objectName : String) (o : ReportOutcome) (s : TwinModule) :
    Option (TwinConfigurationResult × Option Json × EventCollectors) :=
  if o.twinRoot = false then some (.exception, none, s.collectors)
  else if o.configurationObject = false then some (.exception, none, s.collectors)
  else
    match writeConfiguration o.allocated s.configuration JsonObjectWriter.init with
    | .error result _ => some (result, none, s.collectors)
    | .ok _ configurationObject =>
        match getPrioritiesJson o.collectorsLocks o.collectorsAllocated configurationObject
            s.collectors with
        | none => none
        | some (.ok, configurationObject, collectors) =>
            if o.writeObject = false then some (.exception, none, collectors)
            else if o.serialize = false then some (.exception, none, collectors)
            else some (.ok, some (JsonObjectWriter.init.writeObject objectName
              configurationObject).rootValue, collectors)
        | some (result, _, collectors) => some (result, none, collectors)

/-- `TwinConfiguration_GetSerializedTwinConfiguration`: its result and the document it hands out
as a text. -/
def getSerializedTwinConfiguration (objectName : String) (o : ReportOutcome) (s : TwinModule) :
    Option (TwinConfigurationResult × Option Json × TwinModule) :=
  match s.lock.lock o.locks.lock with
  | none => none
  | some (false, handle) => some (.lockException, none, { s with lock := handle })
  | some (true, handle) =>
      match serializeConfiguration objectName o s with
      | none => none
      | some (result, twin, collectors) =>
          match handle.unlock o.locks.unlock with
          | (false, handle) =>
              some (.lockException, twin, { s with lock := handle, collectors := collectors })
          | (true, handle) =>
              some (result, twin, { s with lock := handle, collectors := collectors })

end TwinModule

end SecurityAgent
