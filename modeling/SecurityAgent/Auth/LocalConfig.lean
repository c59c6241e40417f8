import SecurityAgent.Auth.AuthenticationManager

/-!
# The local configuration: `local_config.c`

The agent reads its configuration file once, when it starts, and gets itself a
connection string: from the key of its own module, or from the hub with a key of
the device, which may first have to ask DPS for the hub. A connection string that
came through DPS can be renewed later.

As in the authentication manager, a function gives nothing where a string function
is handed a `NULL` pointer.
-/

namespace SecurityAgent

open Utils

/-- `LocalConfigurationResultValues`. -/
inductive LocalConfigurationResult where
  | ok
  | exception
  deriving DecidableEq, Repr

/-- The static variables of the local configuration and the authentication manager's state. -/
structure LocalConfiguration where
  connectionString : Option String
  agentId : Option String
  authenticationManagerInitialized : Bool
  useDps : Bool
  triggeredEventsInterval : UInt32
  connectionTimeout : UInt32
  systemLoggerMinimumSeverity : Int32
  diagnosticEventMinimumSeverity : Int32
  remoteConfigurationObjectName : Option String
  authenticationManager : AuthenticationManager
  deriving DecidableEq

/-- What happens in `LocalConfiguration_InitConnectionStringFromDevice`. -/
structure DeviceAnswer where
  hub : HubAnswer
  /-- The copy of the connection string. -/
  copyMalloc : Bool

/-- What happens in `LocalConfiguration_TryRenewConnectionString`. -/
structure RenewAnswer where
  dps : DpsAnswer
  device : DeviceAnswer

/-- What happens in `LocalConfiguration_InitConnectionString`. -/
structure AuthenticationAnswer where
  details : DetailsAnswer
  key : KeyAnswer
  renew : RenewAnswer
  /-- `FileUtils_ReadFile` on the key of the module. -/
  moduleKeyFile : Option String
  /-- The copy of the module's connection string. -/
  copyMalloc : Bool

/-- What happens in `LocalConfiguration_Init`. -/
structure InitializationAnswer where
  /-- `GetExecutableDirectory` gives a path. -/
  executableDirectory : Bool
  realloc : Bool
  readerMalloc : Bool
  /-- What the configuration file parses to. -/
  parsed : Option Json
  agentIdMalloc : Bool
  objectNameMalloc : Bool
  authentication : AuthenticationAnswer

namespace LocalConfiguration

def CONNECTION_STRING_SIZE : Nat := 500

def LOCAL_CONFIG_CONFIGURATION : String := "Configuration"
def LOCAL_CONFIG_AGENT_ID : String := "AgentId"
def LOCAL_CONFIG_AGENT_ID_TRIGGERED_EVENTS_INTERVAL : String := "TriggerdEventsInterval"
def LOCAL_CONFIG_CONNECTION_TIMEOUT : String := "ConnectionTimeout"
def LOCAL_CONFIG_REMOTE_CONFIGURATION_OBJECT_NAME : String := "RemoteConfigurationObjectName"
def LOCAL_CONFIG_AUTHENTICATION : String := "Authentication"
def LOCAL_CONFIG_AUTHENTICATION_SAS_TOKEN : String := "SasToken"
def LOCAL_CONFIG_AUTHENTICATION_SELF_SIGNED_CERTIFICATE : String := "SelfSignedCertificate"
def LOCAL_CONFIG_AUTHENTICATION_DEVICE_ID : String := "DeviceId"
def LOCAL_CONFIG_AUTHENTICATION_HOST_NAME : String := "HostName"
def LOCAL_CONFIG_AUTHENTICATION_AUTHENTICATION_METHOD : String := "AuthenticationMethod"
def LOCAL_CONFIG_AUTHENTICATION_IDENTITY : String := "Identity"
def LOCAL_CONFIG_AUTHENTICATION_IDENTITY_VALUE_SECURITY_MODULE : String := "SecurityModule"
def LOCAL_CONFIG_AUTHENTICATION_IDENTITY_VALUE_DEVICE : String := "Device"
def LOCAL_CONFIG_AUTHENTICATION_IDENTITY_VALUE_DPS : String := "DPS"
def LOCAL_CONFIG_AUTHENTICATION_FILE_PATH : String := "FilePath"
def LOCAL_CONFIG_AUTHENTICATION_DPS : String := "DPS"
def LOCAL_CONFIG_AUTHENTICATION_DPS_IDSCOPE : String := "IDScope"
def LOCAL_CONFIG_AUTHENTICATION_DPS_REGISTRATION_ID : String := "RegistrationId"
def LOCAL_CONFIG_LOGGING : String := "Logging"
def LOCAL_CONFIG_LOGGING_SYSTEM_LOGGER_MINIMUM_SEVERITY : String := "SystemLoggerMinimumSeverity"
def LOCAL_CONFIG_LOGGING_DIAGNOSTIC_EVENT_MINIMUM_SEVERITY : String :=
  "DiagnoticEventMinimumSeverity"

/-- The statics when the process starts. -/
def start : LocalConfiguration :=
  ⟨none, none, false, false, 0, 0, 0, 0, none, .init⟩

/-- `LocalConfiguration_Deinit`. The name of the remote object is not freed, nor `useDps` reset. -/
def deinit (s : LocalConfiguration) : LocalConfiguration :=
  { s with
    authenticationManager :=
      if s.authenticationManagerInitialized then s.authenticationManager.deinit
      else s.authenticationManager
    authenticationManagerInitialized := false
    connectionString := none
    agentId := none }

/-! ## The connection string -/

/-- The key of the device, read as `authenticationMethod` says. -/
def initKey (o : KeyAnswer) (am : AuthenticationManager)
    (authenticationMethod filePath hostName deviceId : Option String) :
    Option (Bool × AuthenticationManager) :=
  match unsafeAreStringsEqual authenticationMethod (some LOCAL_CONFIG_AUTHENTICATION_SAS_TOKEN)
      true with
  | none => none
  | some true => am.initFromSharedAccessKey o hostName deviceId
  | some false =>
      match unsafeAreStringsEqual authenticationMethod
          (some LOCAL_CONFIG_AUTHENTICATION_SELF_SIGNED_CERTIFICATE) true with
      | none => none
      | some true => am.initFromCertificate o filePath hostName deviceId
      | some false => some (false, am)

/-- `LocalConfiguration_InitAuthenticationThroughDevice`. -/
def initAuthenticationThroughDevice (o : KeyAnswer) (s : LocalConfiguration)
    (authenticationMethod filePath hostName deviceId : Option String) :
    Option (LocalConfigurationResult × LocalConfiguration) :=
  match initKey o .init authenticationMethod filePath hostName deviceId with
  | none => none
  | some (result, am) =>
      some (if result then .ok else .exception,
        { s with authenticationManagerInitialized := true, authenticationManager := am })

/-- `LocalConfiguration_InitAuthenticationThroughDps`. The result of
`AuthenticationManager_SetDPSDetails` is not looked at. -/
def initAuthenticationThroughDps (o : AuthenticationAnswer) (s : LocalConfiguration)
    (idScope registrationId authenticationMethod filePath : Option String) :
    Option (LocalConfigurationResult × LocalConfiguration) :=
  let s := { s with authenticationManagerInitialized := true }
  match AuthenticationManager.init.setDPSDetails o.details idScope registrationId with
  | none => none
  | some (_, am) =>
      match initKey o.key am authenticationMethod filePath (some "") (some "") with
      | none => none
      | some (false, am) => some (.exception, { s with authenticationManager := am })
      | some (true, am) =>
          match am.getHostNameFromDPS o.renew.dps with
          | none => none
          | some (result, am) =>
              some (if result then .ok else .exception, { s with authenticationManager := am })

/-- `LocalConfiguration_InitConnectionStringFromDevice`. -/
def initConnectionStringFromDevice (o : DeviceAnswer) (s : LocalConfiguration) :
    LocalConfigurationResult × LocalConfiguration :=
  match s.authenticationManager.getConnectionString o.hub CONNECTION_STRING_SIZE with
  | none => (.exception, s)
  | some localConnectionString =>
      let (copied, copy) := createStringCopy o.copyMalloc s.connectionString
        (some localConnectionString)
      (if copied then .ok else .exception, { s with connectionString := copy })

/-- `LocalConfiguration_InitConnectionStringFromModule`. -/
def initConnectionStringFromModule (o : AuthenticationAnswer) (s : LocalConfiguration)
    (hostName deviceId : Option String) : LocalConfigurationResult × LocalConfiguration :=
  match o.moduleKeyFile with
  | none => (.exception, s)
  | some key =>
      let sharedAccessKey := cString (key.toList.takeWhile (· ≠ '\n'))
      match AuthenticationManager.generateConnectionStringFromSharedAccessKey sharedAccessKey
          CONNECTION_STRING_SIZE (hostName.getD "(null)") (deviceId.getD "(null)") with
      | none => (.exception, s)
      | some localConnectionString =>
          let (copied, copy) := createStringCopy o.copyMalloc s.connectionString
            (some localConnectionString)
          (if copied then .ok else .exception, { s with connectionString := copy })

/-- `LocalConfiguration_ReadJsonStringConfig`: whether it succeeds, and the pointer it sets, which is
that of an empty string where it says that the key is missing. -/
def readJsonStringConfig (jsonReader : JsonObjectReader) (key : String) : Bool × Option String :=
  match jsonReader.readCString key with
  | .error _ => (false, none)
  | .ok value => (value.length != 0, some value)

/-- The members of the authentication object: whether all have been read, the pointers, and the
reader. -/
structure Credentials where
  parsed : Bool
  authenticationMethod : Option String
  identity : Option String
  filePath : Option String
  idScope : Option String
  registrationId : Option String
  hostName : Option String
  deviceId : Option String
  useDps : Bool
  jsonReader : JsonObjectReader

/-- The reading half of `LocalConfiguration_InitConnectionString`. Whether any member could not be
read is looked at only at the end, and the identity is compared before that. -/
def readCredentials (jsonReader : JsonObjectReader) (useDps : Bool) : Option Credentials :=
  let (readMethod, authenticationMethod) :=
    readJsonStringConfig jsonReader LOCAL_CONFIG_AUTHENTICATION_AUTHENTICATION_METHOD
  let (readIdentity, identity) :=
    readJsonStringConfig jsonReader LOCAL_CONFIG_AUTHENTICATION_IDENTITY
  let (readPath, filePath) := readJsonStringConfig jsonReader LOCAL_CONFIG_AUTHENTICATION_FILE_PATH
  let parsed := readMethod && readIdentity && readPath
  match unsafeAreStringsEqual identity (some LOCAL_CONFIG_AUTHENTICATION_IDENTITY_VALUE_DPS) true with
  | none => none
  | some true =>
      let (steppedIn, inner) :=
        match jsonReader.stepIn LOCAL_CONFIG_AUTHENTICATION_DPS with
        | .error _ => (false, jsonReader)
        | .ok inner => (true, inner)
      let (readScope, idScope) := readJsonStringConfig inner LOCAL_CONFIG_AUTHENTICATION_DPS_IDSCOPE
      let (readId, registrationId) :=
        readJsonStringConfig inner LOCAL_CONFIG_AUTHENTICATION_DPS_REGISTRATION_ID
      let (steppedOut, outer) :=
        match inner.stepOut with
        | .error _ => (false, inner)
        | .ok outer => (true, outer)
      some ⟨parsed && steppedIn && readScope && readId && steppedOut, authenticationMethod, identity,
        filePath, idScope, registrationId, none, none, true, outer⟩
  | some false =>
      let (readHost, hostName) :=
        readJsonStringConfig jsonReader LOCAL_CONFIG_AUTHENTICATION_HOST_NAME
      let (readDevice, deviceId) :=
        readJsonStringConfig jsonReader LOCAL_CONFIG_AUTHENTICATION_DEVICE_ID
      some ⟨parsed && readHost && readDevice, authenticationMethod, identity, filePath, none, none,
        hostName, deviceId, useDps, jsonReader⟩

/-- The other half: the connection string, once everything has been read. -/
def initFromCredentials (o : AuthenticationAnswer) (s : LocalConfiguration) (c : Credentials) :
    Option (LocalConfigurationResult × LocalConfiguration) :=
  if s.useDps then
    match initAuthenticationThroughDps o s c.idScope c.registrationId c.authenticationMethod
        c.filePath with
    | none => none
    | some (.exception, s) => some (.exception, s)
    | some (.ok, s) => some (initConnectionStringFromDevice o.renew.device s)
  else
    match unsafeAreStringsEqual c.identity (some LOCAL_CONFIG_AUTHENTICATION_IDENTITY_VALUE_DEVICE)
        true with
    | none => none
    | some true =>
        match initAuthenticationThroughDevice o.key s c.authenticationMethod c.filePath c.hostName
            c.deviceId with
        | none => none
        | some (.exception, s) => some (.exception, s)
        | some (.ok, s) => some (initConnectionStringFromDevice o.renew.device s)
    | some false =>
        match unsafeAreStringsEqual c.identity
            (some LOCAL_CONFIG_AUTHENTICATION_IDENTITY_VALUE_SECURITY_MODULE) true with
        | none => none
        | some false => some (.exception, s)
        | some true =>
            match unsafeAreStringsEqual c.authenticationMethod
                (some LOCAL_CONFIG_AUTHENTICATION_SAS_TOKEN) true with
            | none => none
            | some true => some (initConnectionStringFromModule o s c.hostName c.deviceId)
            | some false => some (.exception, s)

/-- `LocalConfiguration_InitConnectionString`, and where it leaves the reader. -/
def initConnectionString (o : AuthenticationAnswer) (s : LocalConfiguration)
    (jsonReader : JsonObjectReader) :
    Option (LocalConfigurationResult × LocalConfiguration × JsonObjectReader) :=
  match jsonReader.stepIn LOCAL_CONFIG_AUTHENTICATION with
  | .error _ => some (.exception, s, jsonReader)
  | .ok jsonReader =>
      match readCredentials jsonReader s.useDps with
      | none => none
      | some c =>
          let s := { s with useDps := c.useDps }
          if c.parsed = false then some (.exception, s, c.jsonReader)
          else (initFromCredentials o s c).map fun (result, s) => (result, s, c.jsonReader)

/-! ## Initialization and renewal -/

/-- `LocalConfiguration_InitLogger`. -/
def initLogger (s : LocalConfiguration) (jsonReader : JsonObjectReader) : LocalConfiguration :=
  match jsonReader.stepIn LOCAL_CONFIG_LOGGING with
  | .error _ => s
  | .ok jsonReader =>
      let s :=
        match jsonReader.readInt LOCAL_CONFIG_LOGGING_SYSTEM_LOGGER_MINIMUM_SEVERITY with
        | .error _ => s
        | .ok severity => { s with systemLoggerMinimumSeverity := severity }
      match jsonReader.readInt LOCAL_CONFIG_LOGGING_DIAGNOSTIC_EVENT_MINIMUM_SEVERITY with
      | .error _ => s
      | .ok severity => { s with diagnosticEventMinimumSeverity := severity }

/-- `LocalConfiguration_Init` up to its cleanup. -/
def initBody (o : InitializationAnswer) (s : LocalConfiguration) :
    Option (LocalConfigurationResult × LocalConfiguration) :=
  if o.executableDirectory = false ∨ o.realloc = false then some (.exception, s)
  else
    -- a file is parsed as a text is
    match JsonObjectReader.initFromString o.readerMalloc o.parsed with
    | .error _ => some (.exception, s)
    | .ok jsonReader =>
        match jsonReader.stepIn LOCAL_CONFIG_CONFIGURATION with
        | .error _ => some (.exception, s)
        | .ok jsonReader => readSettings jsonReader
where
  /-- The agent's id, its two times and the name of the remote object, then the connection string. -/
  readSettings (jsonReader : JsonObjectReader) :
      Option (LocalConfigurationResult × LocalConfiguration) :=
    match readJsonStringConfig jsonReader LOCAL_CONFIG_AGENT_ID with
    | (false, _) => some (.exception, s)
    | (true, strValue) =>
        let (copied, agentId) := createStringCopy o.agentIdMalloc s.agentId strValue
        let s := { s with agentId := agentId }
        if copied = false then some (.exception, s)
        else
          match jsonReader.readTimeInMilliseconds LOCAL_CONFIG_AGENT_ID_TRIGGERED_EVENTS_INTERVAL with
          | .error _ => some (.exception, s)
          | .ok triggeredEventsInterval =>
              let s := { s with triggeredEventsInterval := triggeredEventsInterval }
              match jsonReader.readTimeInMilliseconds LOCAL_CONFIG_CONNECTION_TIMEOUT with
              | .error _ => some (.exception, s)
              | .ok connectionTimeout =>
                  let s := { s with connectionTimeout := connectionTimeout }
                  match readJsonStringConfig jsonReader
                      LOCAL_CONFIG_REMOTE_CONFIGURATION_OBJECT_NAME with
                  | (false, _) => some (.exception, s)
                  | (true, strValue) =>
                      let (copied, name) :=
                        createStringCopy o.objectNameMalloc s.remoteConfigurationObjectName strValue
                      let s := { s with remoteConfigurationObjectName := name }
                      if copied = false then some (.exception, s) else finish jsonReader s
  /-- The connection string and the logger. -/
  finish (jsonReader : JsonObjectReader) (s : LocalConfiguration) :
      Option (LocalConfigurationResult × LocalConfiguration) :=
    match initConnectionString o.authentication s jsonReader with
    | none => none
    | some (.exception, s, _) => some (.exception, s)
    | some (.ok, s, jsonReader) =>
        match jsonReader.stepOut with
        | .error _ => some (.exception, s)
        | .ok jsonReader => some (.ok, s.initLogger jsonReader)

/-- `LocalConfiguration_Init`. -/
def init (o : InitializationAnswer) (s : LocalConfiguration) :
    Option (LocalConfigurationResult × LocalConfiguration) :=
  match initBody o s with
  | none => none
  | some (.ok, s) => some (.ok, s)
  | some (.exception, s) => some (.exception, s.deinit)

/-- `LocalConfiguration_TryRenewConnectionString`. -/
def tryRenewConnectionString (o : RenewAnswer) (s : LocalConfiguration) :
    Option (Bool × LocalConfiguration) :=
  match s.authenticationManager.getHostNameFromDPS o.dps with
  | none => none
  | some (false, am) => some (false, { s with authenticationManager := am })
  | some (true, am) =>
      let (result, s) := initConnectionStringFromDevice o.device { s with authenticationManager := am }
      some (result == .ok, s)

end LocalConfiguration

end SecurityAgent
