import SecurityAgent.Twin.TwinConfigurationUtils

/-!
# The event collectors' settings: `twin_configuration_event_collectors.c`

The module keeps its settings in one static record, guarded by a lock and by a
flag that says the lock is taken. `SetValues` reads fourteen settings in a fixed
order into a local record, stops at the first that is invalid, and copies the
record over the static one only when all were read.

In between it normalises the operational priority, and it does so in the static
record, not in the local one.
-/

namespace SecurityAgent

open JsonObjectReader TwinConfigurationUtils

/-- `LOCK_HANDLE`, and whether the lock behind it is taken. -/
inductive LockHandle where
  | null
  | free
  | held
  deriving DecidableEq, Repr

/-- `Lock(handle) == LOCK_OK`. It never returns when the lock is taken already: `none`. -/
def LockHandle.lock (outcome : Bool) : LockHandle → Option (Bool × LockHandle)
  | .null => some (false, .null)
  | .free => some (outcome, if outcome then .held else .free)
  | .held => none

/-- `Unlock(handle) == LOCK_OK`. -/
def LockHandle.unlock (outcome : Bool) : LockHandle → Bool × LockHandle
  | .null => (false, .null)
  | handle => (outcome, if outcome then .free else handle)

/-- `TwinConfigurationEventPriority`. -/
inductive TwinConfigurationEventPriority where
  | operational
  | high
  | low
  | off
  deriving DecidableEq, Repr

/-- `TwinConfigurationEventType`. -/
inductive TwinConfigurationEventType where
  | baseline
  | connectionCreate
  | firewallConfiguration
  | listeningPorts
  | localUsers
  | processCreate
  | systemInformation
  | userLogin
  | diagnostic
  | operationalEvent
  deriving DecidableEq, Repr

/-- `TwinConfigurationEventCollectors`, the lock and its flag apart. -/
structure EventPriorities where
  processCreatePriority : TwinConfigurationEventPriority
  listeningPortsPriority : TwinConfigurationEventPriority
  systemInformationPriority : TwinConfigurationEventPriority
  localUsersPriority : TwinConfigurationEventPriority
  loginPriority : TwinConfigurationEventPriority
  connectionCreatePriority : TwinConfigurationEventPriority
  firewallConfigurationPriority : TwinConfigurationEventPriority
  baselinePriority : TwinConfigurationEventPriority
  diagnostic : TwinConfigurationEventPriority
  operational : TwinConfigurationEventPriority
  processCreateAggregationEnabled : Bool
  connectionCreateAggregationEnabled : Bool
  processCreateAggregationInterval : UInt32
  connectionCreateAggregationInterval : UInt32
  deriving DecidableEq, Repr

/-- The module's static record. -/
structure EventCollectors where
  eventPriorities : EventPriorities
  lock : LockHandle
  isLocked : Bool
  deriving DecidableEq, Repr

namespace EventCollectors

/-! ## Keys and defaults -/

def PROCESS_CREATE_PRIORITY_KEY : String := "eventPriorityProcessCreate"
def LISTENING_PORTS_PRIORITY_KEY : String := "eventPriorityListeningPorts"
def SYSTEM_INFORMATION_PRIORITY_KEY : String := "eventPrioritySystemInformation"
def LOCAL_USERS_PRIORITY_KEY : String := "eventPriorityLocalUsers"
def LOGIN_PRIORITY_KEY : String := "eventPriorityLogin"
def CONNECTION_CREATE_PRIORITY_KEY : String := "eventPriorityConnectionCreate"
def FIREWALL_CONFIGURATION_PRIORITY_KEY : String := "eventPriorityFirewallConfiguration"
def BASELINE_PRIORITY_KEY : String := "eventPriorityOSBaseline"
def DIAGNOSTIC_PRIORITY_KEY : String := "eventPriorityDiagnostic"
def OPERATIONAL_EVENT_KEY : String := "eventPriorityOperational"
def PROCESS_CREATE_AGGREGATION_ENABLED_KEY : String := "aggregationEnabledProcessCreate"
def PROCESS_CREATE_AGGREGATION_INTERVAL_KEY : String := "aggregationIntervalProcessCreate"
def CONNECTION_CREATE_AGGREGATION_ENABLED_KEY : String := "aggregationEnabledConnectionCreate"
def CONNECTION_CREATE_AGGREGATION_INTERVAL_KEY : String := "aggregationIntervalConnectionCreate"

/-- What `Init` stores, and what a setting is when the twin does not give it. -/
def defaultPriorities : EventPriorities where
  processCreatePriority := .low
  listeningPortsPriority := .high
  systemInformationPriority := .low
  localUsersPriority := .high
  loginPriority := .high
  connectionCreatePriority := .low
  firewallConfigurationPriority := .low
  baselinePriority := .low
  diagnostic := .low
  operational := .operational
  processCreateAggregationEnabled := true
  connectionCreateAggregationEnabled := true
  processCreateAggregationInterval := TimeUtils.MILLISECONDS_IN_AN_HOUR
  connectionCreateAggregationInterval := TimeUtils.MILLISECONDS_IN_AN_HOUR

/-- `TwinConfigurationEventCollectors_Init`, when the lock is created. -/
def init : EventCollectors := ⟨defaultPriorities, .free, false⟩

/-- `TwinConfigurationEventCollectors_Deinit`. -/
def deinit (m : EventCollectors) : EventCollectors := { m with lock := .null }

/-! ## The lock -/

/-- `TwinConfigurationEventCollectors_Lock`. -/
def takeLock (outcome : Bool) (m : EventCollectors) : Option (Bool × EventCollectors) :=
  if m.isLocked then some (false, m)
  else
    match m.lock.lock outcome with
    | none => none
    | some (false, handle) => some (false, { m with lock := handle })
    | some (true, handle) => some (true, { m with lock := handle, isLocked := true })

/-- `TwinConfigurationEventCollectors_Unlock`. -/
def releaseLock (outcome : Bool) (m : EventCollectors) : Bool × EventCollectors :=
  if m.isLocked then
    match m.lock.unlock outcome with
    | (false, handle) => (false, { m with lock := handle })
    | (true, handle) => (true, { m with lock := handle, isLocked := false })
  else (true, { m with isLocked := false })

/-! ## Reading -/

/-- `Utils_UnsafeAreStringsEqual(.., .., false)`: `strlen` and `strncasecmp`. -/
def areStringsEqualIgnoringCase (firstString secondString : String) : Bool :=
  firstString.toList.map Char.toLower == secondString.toList.map Char.toLower

/-- `TwinConfigurationEventCollectors_PriorityAsEnum`. -/
def priorityAsEnum (str : String) :
    Except TwinConfigurationResult TwinConfigurationEventPriority :=
  if areStringsEqualIgnoringCase str "high" then .ok .high
  else if areStringsEqualIgnoringCase str "low" then .ok .low
  else if areStringsEqualIgnoringCase str "off" then .ok .off
  else .error .parseException

/-- `TwinConfigurationEventCollectors_PriorityEnumAsString`. -/
def priorityEnumAsString : TwinConfigurationEventPriority → String
  | .high => "high"
  | .operational => "high"
  | .low => "low"
  | .off => "off"

/-- `TwinConfigurationEventCollectors_SetSingleValues`. -/
def setSingleValues (key : String) (defaultValue : TwinConfigurationEventPriority)
    (reader : JsonObjectReader) :
    Except TwinConfigurationResult TwinConfigurationEventPriority × JsonObjectReader :=
  match getConfigurationStringValueFromJson reader key with
  | (.error .confNotExist, reader) => (.ok defaultValue, reader)
  | (.error result, reader) => (.error result, reader)
  | (.ok strValue, reader) => (priorityAsEnum strValue, reader)

/-- A value with a default: what the two `SetSingle` functions below share. -/
def setSingle {α : Type}
    (get : JsonObjectReader → String → Except TwinConfigurationResult α × JsonObjectReader)
    (key : String) (defaultValue : α) (reader : JsonObjectReader) :
    Except TwinConfigurationResult α × JsonObjectReader :=
  match get reader key with
  | (.error .confNotExist, reader) => (.ok defaultValue, reader)
  | (result, reader) => (result, reader)

/-- `TwinConfigurationEventCollectors_SetSingleBoolValue`. -/
def setSingleBoolValue : String → Bool → JsonObjectReader →
    Except TwinConfigurationResult Bool × JsonObjectReader :=
  setSingle getConfigurationBoolValueFromJson

/-- `TwinConfigurationEventCollectors_SetSingleUintTimeValue`. -/
def setSingleUintTimeValue : String → UInt32 → JsonObjectReader →
    Except TwinConfigurationResult UInt32 × JsonObjectReader :=
  setSingle getConfigurationTimeValueFromJson

/-- What `SetValues` works on: the reader and the static record. -/
structure SetValuesState where
  propertiesReader : JsonObjectReader
  eventPriorities : EventPriorities

/-- Code that stops at the first result that is not `TWIN_OK`, and keeps what it has done. -/
abbrev SetValuesM := EStateM TwinConfigurationResult SetValuesState

/-- Read one setting, or stop. -/
def readSetting {α : Type}
    (set : JsonObjectReader → Except TwinConfigurationResult α × JsonObjectReader) :
    SetValuesM α := fun s =>
  match set s.propertiesReader with
  | (.ok value, reader) => .ok value { s with propertiesReader := reader }
  | (.error result, reader) => .error result { s with propertiesReader := reader }

/-- "Operational events can be off/operational prio". -/
def normalised (p : EventPriorities) : EventPriorities :=
  { p with operational := if p.operational = .off then .off else .operational }

/-- `TwinConfigurationEventCollectors_SetValues`. -/
def setValues : SetValuesM Unit := do
  let processCreatePriority ← readSetting
    (setSingleValues PROCESS_CREATE_PRIORITY_KEY defaultPriorities.processCreatePriority)
  let listeningPortsPriority ← readSetting
    (setSingleValues LISTENING_PORTS_PRIORITY_KEY defaultPriorities.listeningPortsPriority)
  let systemInformationPriority ← readSetting
    (setSingleValues SYSTEM_INFORMATION_PRIORITY_KEY defaultPriorities.systemInformationPriority)
  let localUsersPriority ← readSetting
    (setSingleValues LOCAL_USERS_PRIORITY_KEY defaultPriorities.localUsersPriority)
  let loginPriority ← readSetting
    (setSingleValues LOGIN_PRIORITY_KEY defaultPriorities.loginPriority)
  let connectionCreatePriority ← readSetting
    (setSingleValues CONNECTION_CREATE_PRIORITY_KEY defaultPriorities.connectionCreatePriority)
  let firewallConfigurationPriority ← readSetting
    (setSingleValues FIREWALL_CONFIGURATION_PRIORITY_KEY
      defaultPriorities.firewallConfigurationPriority)
  let baselinePriority ← readSetting
    (setSingleValues BASELINE_PRIORITY_KEY defaultPriorities.baselinePriority)
  let diagnostic ← readSetting
    (setSingleValues DIAGNOSTIC_PRIORITY_KEY defaultPriorities.diagnostic)
  let operationalPriority ← readSetting
    (setSingleValues OPERATIONAL_EVENT_KEY defaultPriorities.operational)
  -- in place: the value just read is not touched
  modify fun s => { s with eventPriorities := normalised s.eventPriorities }
  let processCreateAggregationEnabled ← readSetting
    (setSingleBoolValue PROCESS_CREATE_AGGREGATION_ENABLED_KEY
      defaultPriorities.processCreateAggregationEnabled)
  let processCreateAggregationInterval ← readSetting
    (setSingleUintTimeValue PROCESS_CREATE_AGGREGATION_INTERVAL_KEY
      defaultPriorities.processCreateAggregationInterval)
  let connectionCreateAggregationEnabled ← readSetting
    (setSingleBoolValue CONNECTION_CREATE_AGGREGATION_ENABLED_KEY
      defaultPriorities.connectionCreateAggregationEnabled)
  let connectionCreateAggregationInterval ← readSetting
    (setSingleUintTimeValue CONNECTION_CREATE_AGGREGATION_INTERVAL_KEY
      defaultPriorities.connectionCreateAggregationInterval)
  modify fun s => { s with eventPriorities := {
    processCreatePriority, listeningPortsPriority, systemInformationPriority,
    localUsersPriority, loginPriority, connectionCreatePriority, firewallConfigurationPriority,
    baselinePriority, diagnostic, operational := operationalPriority,
    processCreateAggregationEnabled, connectionCreateAggregationEnabled,
    processCreateAggregationInterval, connectionCreateAggregationInterval } }

/-- The lock calls of one operation. -/
structure LockOutcomes where
  /-- `Lock` returns `LOCK_OK` on a free lock. -/
  lock : Bool
  /-- `Unlock` returns `LOCK_OK` on a lock that is there. -/
  unlock : Bool
  deriving DecidableEq, Repr

/-- The frame every public operation has: lock, do the body if the lock was taken, unlock in any
case. `none` where the operation never returns. -/
def locked {β : Type} (o : LockOutcomes) (refused : β)
    (body : EventCollectors → TwinConfigurationResult × β × EventCollectors)
    (m : EventCollectors) : Option (TwinConfigurationResult × β × EventCollectors) :=
  match takeLock o.lock m with
  | none => none
  | some (false, m) => some (.lockException, refused, (releaseLock o.unlock m).2)
  | some (true, m) =>
      match body m with
      | (result, value, m) =>
          match releaseLock o.unlock m with
          | (false, m) => some (.lockException, value, m)
          | (true, m) => some (result, value, m)

/-- `SetValues` on the module, for its result and the reader it leaves. -/
def setValuesBody (propertiesReader : JsonObjectReader) (m : EventCollectors) :
    TwinConfigurationResult × JsonObjectReader × EventCollectors :=
  match setValues ⟨propertiesReader, m.eventPriorities⟩ with
  | .ok _ s => (.ok, s.propertiesReader, { m with eventPriorities := s.eventPriorities })
  | .error result s =>
      (result, s.propertiesReader, { m with eventPriorities := s.eventPriorities })

/-- `TwinConfigurationEventCollectors_Update`. -/
def update (o : LockOutcomes) (propertiesReader : JsonObjectReader) (m : EventCollectors) :
    Option (TwinConfigurationResult × JsonObjectReader × EventCollectors) :=
  locked o propertiesReader (setValuesBody propertiesReader) m

/-! ## The getters -/

/-- `TwinConfigurationEventCollectors_SafeGetPriority`. -/
def safeGetPriority (p : EventPriorities) :
    TwinConfigurationEventType → TwinConfigurationEventPriority
  | .processCreate => p.processCreatePriority
  | .listeningPorts => p.listeningPortsPriority
  | .systemInformation => p.systemInformationPriority
  | .localUsers => p.localUsersPriority
  | .userLogin => p.loginPriority
  | .connectionCreate => p.connectionCreatePriority
  | .firewallConfiguration => p.firewallConfigurationPriority
  | .baseline => p.baselinePriority
  | .diagnostic => p.diagnostic
  | .operationalEvent => p.operational

/-- `TwinConfigurationEventCollectors_GetPriority`. -/
def getPriority (o : LockOutcomes) (eventType : TwinConfigurationEventType)
    (m : EventCollectors) :
    Option (TwinConfigurationResult × Option TwinConfigurationEventPriority × EventCollectors) :=
  locked o none (fun m => (.ok, some (safeGetPriority m.eventPriorities eventType), m)) m

/-- What the two aggregation getters share. `field` is `none` in the `default:` of the switch. -/
def getAggregation {β : Type} (o : LockOutcomes) (field : EventPriorities → Option β)
    (m : EventCollectors) : Option (TwinConfigurationResult × Option β × EventCollectors) :=
  match takeLock o.lock m with
  | none => none
  | some (false, m) => some (.lockException, none, (releaseLock o.unlock m).2)
  | some (true, m) =>
      match field m.eventPriorities with
      -- `return`, and not `goto cleanup`: nothing is unlocked
      | none => some (.exception, none, m)
      | some value =>
          match releaseLock o.unlock m with
          | (false, m) => some (.lockException, some value, m)
          | (true, m) => some (.ok, some value, m)

/-- The switch of `GetAggregationEnabled`. -/
def aggregationEnabled (eventType : TwinConfigurationEventType) (p : EventPriorities) :
    Option Bool :=
  match eventType with
  | .processCreate => some p.processCreateAggregationEnabled
  | .connectionCreate => some p.connectionCreateAggregationEnabled
  | _ => none

/-- The switch of `GetAggregationInterval`. -/
def aggregationInterval (eventType : TwinConfigurationEventType) (p : EventPriorities) :
    Option UInt32 :=
  match eventType with
  | .processCreate => some p.processCreateAggregationInterval
  | .connectionCreate => some p.connectionCreateAggregationInterval
  | _ => none

/-- `TwinConfigurationEventCollectors_GetAggregationEnabled`. -/
def getAggregationEnabled (o : LockOutcomes) (eventType : TwinConfigurationEventType) :
    EventCollectors → Option (TwinConfigurationResult × Option Bool × EventCollectors) :=
  getAggregation o (aggregationEnabled eventType)

/-- `TwinConfigurationEventCollectors_GetAggregationInterval`. -/
def getAggregationInterval (o : LockOutcomes) (eventType : TwinConfigurationEventType) :
    EventCollectors → Option (TwinConfigurationResult × Option UInt32 × EventCollectors) :=
  getAggregation o (aggregationInterval eventType)

/-! ## Writing -/

/-- Code that writes to a writer and stops at the first result that is not `TWIN_OK`. -/
abbrev WriteM := EStateM TwinConfigurationResult JsonObjectWriter

/-- One write; it fails when memory does. -/
def writeSetting (allocated : Bool) (write : JsonObjectWriter → JsonObjectWriter) :
    WriteM Unit := fun writer =>
  if allocated then .ok () (write writer) else .error .exception writer

/-- A duration in a buffer of `DURATION_MAX_LENGTH` bytes. -/
def printDuration (milisec : UInt32) : WriteM String := fun writer =>
  match TimeUtils.millisecondsToISO8601DurationString milisec TimeUtils.DURATION_MAX_LENGTH with
  | none => .error .exception writer
  | some text => .ok (String.ofList text) writer

/-- A priority setting. -/
def writePriority (key : String) (priority : TwinConfigurationEventPriority)
    (writer : JsonObjectWriter) : JsonObjectWriter :=
  writeStringConfigurationToJson writer key (some (priorityEnumAsString priority))

/-- `TwinConfigurationEventCollectors_SafeGetPrioritiesJson`. `allocated i` says whether its
`i`-th write finds the memory it needs. -/
def safeGetPrioritiesJson (allocated : Nat → Bool) (p : EventPriorities) : WriteM Unit := do
  writeSetting (allocated 0) (writePriority BASELINE_PRIORITY_KEY p.baselinePriority)
  writeSetting (allocated 1)
    (writePriority CONNECTION_CREATE_PRIORITY_KEY p.connectionCreatePriority)
  writeSetting (allocated 2) (writePriority DIAGNOSTIC_PRIORITY_KEY p.diagnostic)
  writeSetting (allocated 3)
    (writePriority FIREWALL_CONFIGURATION_PRIORITY_KEY p.firewallConfigurationPriority)
  writeSetting (allocated 4)
    (writePriority LISTENING_PORTS_PRIORITY_KEY p.listeningPortsPriority)
  writeSetting (allocated 5) (writePriority LOCAL_USERS_PRIORITY_KEY p.localUsersPriority)
  writeSetting (allocated 6) (writePriority LOGIN_PRIORITY_KEY p.loginPriority)
  writeSetting (allocated 7) (writePriority OPERATIONAL_EVENT_KEY p.operational)
  writeSetting (allocated 8) (writePriority PROCESS_CREATE_PRIORITY_KEY p.processCreatePriority)
  writeSetting (allocated 9)
    (writePriority SYSTEM_INFORMATION_PRIORITY_KEY p.systemInformationPriority)
  writeSetting (allocated 10) (writeBoolConfigurationToJson ·
    PROCESS_CREATE_AGGREGATION_ENABLED_KEY p.processCreateAggregationEnabled)
  let iso8601Interval ← printDuration p.processCreateAggregationInterval
  writeSetting (allocated 11) (writeStringConfigurationToJson ·
    PROCESS_CREATE_AGGREGATION_INTERVAL_KEY (some iso8601Interval))
  writeSetting (allocated 12) (writeBoolConfigurationToJson ·
    CONNECTION_CREATE_AGGREGATION_ENABLED_KEY p.connectionCreateAggregationEnabled)
  let iso8601Interval ← printDuration p.connectionCreateAggregationInterval
  writeSetting (allocated 13) (writeStringConfigurationToJson ·
    CONNECTION_CREATE_AGGREGATION_INTERVAL_KEY (some iso8601Interval))

/-- `SafeGetPrioritiesJson` on the module, for its result and the writer it leaves. -/
def prioritiesJsonBody (allocated : Nat → Bool) (prioritiesJson : JsonObjectWriter)
    (m : EventCollectors) : TwinConfigurationResult × JsonObjectWriter × EventCollectors :=
  match safeGetPrioritiesJson allocated m.eventPriorities prioritiesJson with
  | .ok _ writer => (.ok, writer, m)
  | .error result writer => (result, writer, m)

/-- `TwinConfigurationEventCollectors_GetPrioritiesJson`. -/
def getPrioritiesJson (o : LockOutcomes) (allocated : Nat → Bool)
    (prioritiesJson : JsonObjectWriter) (m : EventCollectors) :
    Option (TwinConfigurationResult × JsonObjectWriter × EventCollectors) :=
  locked o prioritiesJson (prioritiesJsonBody allocated prioritiesJson) m

end EventCollectors

end SecurityAgent
