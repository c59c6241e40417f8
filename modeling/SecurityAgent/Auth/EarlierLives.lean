import SecurityAgent.Auth.NullSafety

/-!
# What earlier lives leave behind

`LocalConfiguration_Deinit` ends a life, and another initialization may begin the
next. Two of the statics are cleared between them: the connection string and the
agent's id. The other six stay as they are, and an initialization that stops early,
or finds no logging object, does not assign all of them.

So a life is described by what it assigns, and a history by what the last life to
assign a static has put there.
-/

namespace SecurityAgent

open Utils

/-- The branches of `LocalConfiguration_InitConnectionString`. -/
inductive AuthenticationPath where
  | dps
  | device
  | securityModule
  deriving DecidableEq, Repr

namespace LocalConfiguration

open AuthenticationManager JsonObjectReader

/-- The statics that `LocalConfiguration_Deinit` does not reset. -/
structure Statics where
  useDps : Bool
  triggeredEventsInterval : UInt32
  connectionTimeout : UInt32
  remoteConfigurationObjectName : Option String
  systemLoggerMinimumSeverity : Int32
  diagnosticEventMinimumSeverity : Int32
  deriving DecidableEq

def statics (s : LocalConfiguration) : Statics :=
  ⟨s.useDps, s.triggeredEventsInterval, s.connectionTimeout, s.remoteConfigurationObjectName,
    s.systemLoggerMinimumSeverity, s.diagnosticEventMinimumSeverity⟩

/-- What the getters of the local configuration give. -/
structure EffectiveConfiguration where
  connectionString : Option String
  agentId : Option String
  statics : Statics
  deriving DecidableEq

def effective (s : LocalConfiguration) : EffectiveConfiguration :=
  ⟨s.connectionString, s.agentId, s.statics⟩

/-- An initialization and the `LocalConfiguration_Deinit` that follows it. -/
def live (s : LocalConfiguration) (o : InitializationAnswer) : Option LocalConfiguration :=
  (init o s).map fun (_, s) => s.deinit

/-- The object of the configuration, if the initialization gets to it. -/
def configurationOf (o : InitializationAnswer) : Option JsonObjectReader :=
  if o.executableDirectory = false ∨ o.realloc = false then none
  else
    match JsonObjectReader.initFromString o.readerMalloc o.parsed with
    | .error _ => none
    | .ok jsonReader => (jsonReader.stepIn LOCAL_CONFIG_CONFIGURATION).toOption

def agentIdOf (o : InitializationAnswer) : Option String :=
  (configurationOf o).bind fun jsonReader =>
    match readJsonStringConfig jsonReader LOCAL_CONFIG_AGENT_ID with
    | (true, some value) => if o.agentIdMalloc then some value else none
    | _ => none

def triggeredEventsIntervalOf (o : InitializationAnswer) : Option UInt32 :=
  (agentIdOf o).bind fun _ => (configurationOf o).bind fun jsonReader =>
    (jsonReader.readTimeInMilliseconds LOCAL_CONFIG_AGENT_ID_TRIGGERED_EVENTS_INTERVAL).toOption

def connectionTimeoutOf (o : InitializationAnswer) : Option UInt32 :=
  (triggeredEventsIntervalOf o).bind fun _ => (configurationOf o).bind fun jsonReader =>
    (jsonReader.readTimeInMilliseconds LOCAL_CONFIG_CONNECTION_TIMEOUT).toOption

/-- A name that cannot be copied leaves a `NULL` pointer. -/
def objectNameOf (o : InitializationAnswer) : Option (Option String) :=
  (connectionTimeoutOf o).bind fun _ => (configurationOf o).bind fun jsonReader =>
    match readJsonStringConfig jsonReader LOCAL_CONFIG_REMOTE_CONFIGURATION_OBJECT_NAME with
    | (true, some value) => some (if o.objectNameMalloc then some value else none)
    | _ => none

/-- The authentication object, if the initialization gets to it. -/
def authenticationOf (o : InitializationAnswer) : Option JsonObjectReader :=
  match objectNameOf o with
  | some (some _) => (configurationOf o).bind fun jsonReader =>
      (jsonReader.stepIn LOCAL_CONFIG_AUTHENTICATION).toOption
  | _ => none

def hasDpsIdentity (jsonReader : JsonObjectReader) : Bool :=
  match jsonReader.readCString LOCAL_CONFIG_AUTHENTICATION_IDENTITY with
  | .error _ => false
  | .ok identity => decide (Matches identity LOCAL_CONFIG_AUTHENTICATION_IDENTITY_VALUE_DPS)

/-- The document makes the agent use DPS. -/
def setsDps (o : InitializationAnswer) : Bool := (authenticationOf o).any hasDpsIdentity

/-- The credentials, once all their members have been read. -/
def credentialsOf (o : InitializationAnswer) (useDps : Bool) : Option Credentials :=
  ((authenticationOf o).bind fun jsonReader => readCredentials jsonReader useDps).filter (·.parsed)

/-- The branch that complete credentials lead into. -/
def pathOf (c : Credentials) : Option AuthenticationPath :=
  if c.useDps then some .dps
  else if unsafeAreStringsEqual c.identity
      (some LOCAL_CONFIG_AUTHENTICATION_IDENTITY_VALUE_DEVICE) true = some true then some .device
  else if unsafeAreStringsEqual c.identity
      (some LOCAL_CONFIG_AUTHENTICATION_IDENTITY_VALUE_SECURITY_MODULE) true = some true then
    some .securityModule
  else none

/-- The connection string that a manager with a key gives, if it can be copied. -/
def stringOfManager (o : DeviceAnswer) (am : AuthenticationManager) : Option String :=
  if o.copyMalloc then am.getConnectionString o.hub CONNECTION_STRING_SIZE else none

/-- The connection string that the credentials are good for. -/
def connectionStringOf (o : AuthenticationAnswer) (c : Credentials) : Option String :=
  match pathOf c with
  | none => none
  | some .dps =>
      match AuthenticationManager.init.setDPSDetails o.details c.idScope c.registrationId with
      | none => none
      | some (_, am) =>
          match initKey o.key am c.authenticationMethod c.filePath (some "") (some "") with
          | some (true, am) =>
              match am.getHostNameFromDPS o.renew.dps with
              | some (true, am) => stringOfManager o.renew.device am
              | _ => none
          | _ => none
  | some .device =>
      match initKey o.key .init c.authenticationMethod c.filePath c.hostName c.deviceId with
      | some (true, am) => stringOfManager o.renew.device am
      | _ => none
  | some .securityModule =>
      if unsafeAreStringsEqual c.authenticationMethod
          (some LOCAL_CONFIG_AUTHENTICATION_SAS_TOKEN) true = some true ∧ o.copyMalloc = true then
        o.moduleKeyFile.bind fun key =>
          generateConnectionStringFromSharedAccessKey
            (cString (key.toList.takeWhile (· ≠ '\n'))) CONNECTION_STRING_SIZE
            (c.hostName.getD "(null)") (c.deviceId.getD "(null)")
      else none

/-- The connection string that an initialization comes to. -/
def logsIn (o : InitializationAnswer) (useDps : Bool) : Option String :=
  (credentialsOf o useDps).bind (connectionStringOf o.authentication)

/-- A severity, if the initialization gets to the logging object. -/
def severityOf (o : InitializationAnswer) (useDps : Bool) (key : String) : Option Int32 :=
  (logsIn o useDps).bind fun _ => (configurationOf o).bind fun jsonReader =>
    (jsonReader.stepIn LOCAL_CONFIG_LOGGING).toOption.bind fun jsonReader =>
      (jsonReader.readInt key).toOption

/-- What one life assigns, over what it has found. -/
def Statics.afterLife (t : Statics) (o : InitializationAnswer) : Statics where
  useDps := setsDps o || t.useDps
  triggeredEventsInterval := (triggeredEventsIntervalOf o).getD t.triggeredEventsInterval
  connectionTimeout := (connectionTimeoutOf o).getD t.connectionTimeout
  remoteConfigurationObjectName := (objectNameOf o).getD t.remoteConfigurationObjectName
  systemLoggerMinimumSeverity :=
    (severityOf o t.useDps LOCAL_CONFIG_LOGGING_SYSTEM_LOGGER_MINIMUM_SEVERITY).getD
      t.systemLoggerMinimumSeverity
  diagnosticEventMinimumSeverity :=
    (severityOf o t.useDps LOCAL_CONFIG_LOGGING_DIAGNOSTIC_EVENT_MINIMUM_SEVERITY).getD
      t.diagnosticEventMinimumSeverity

/-- What a history of documents leaves in the statics. -/
def leftBy (lives : List InitializationAnswer) : Statics :=
  lives.foldl Statics.afterLife start.statics

/-- What an initialization gives over what it finds. -/
def outcome (o : InitializationAnswer) (t : Statics) :
    LocalConfigurationResult × EffectiveConfiguration :=
  match logsIn o t.useDps with
  | none => (.exception, ⟨none, none, t.afterLife o⟩)
  | some text => (.ok, ⟨some text, agentIdOf o, t.afterLife o⟩)

/-! ## One life -/

end LocalConfiguration

end SecurityAgent
