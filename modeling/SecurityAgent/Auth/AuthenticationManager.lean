import SecurityAgent.Json.JsonObjectReader
import SecurityAgent.Util.Utils

/-!
# Registration and keys: `authentication_manager.c`

The manager asks the provisioning service (DPS) which hub the device is assigned to
and asks that hub for the key of the security module. It keeps what it is told in
fixed arrays.

The requests are the environment: each comes with its answer, and what the body of
a response parses to is part of that. A pointer that may be `NULL` is an `Option`,
and a function that hands one to a string function gives nothing when it is.
-/

namespace SecurityAgent

open Utils

namespace AuthenticationManager

def MAX_BUFF : Nat := 500

def PRIMARY_KEY : String := "authentication.symmetricKey.primaryKey"
def RESPONSE_ASSIGNED_HUB : String := "assignedHub"
def RESPONSE_DEVICE_ID : String := "deviceId"
def RESPONSE_LAST_UPDATED : String := "lastUpdatedDateTimeUtc"
def RESPONSE_STATUS : String := "status"
def RESPONSE_STATUS_ASSIGNED : String := "assigned"

/-- `SECURITY_MODULE_API`, formatted. -/
def securityModuleApi (deviceId : String) : String :=
  "/devices/" ++ deviceId ++ "/modules/azureiotsecurity?api-version=2018-06-30"

/-- `GENERATED_CONNECTION_STRING`, formatted. -/
def generatedConnectionString (hostName deviceId sharedAccessKey : String) : String :=
  "HostName=" ++ hostName ++ ";DeviceId=" ++ deviceId
    ++ ";ModuleId=azureiotsecurity;SharedAccessKey=" ++ sharedAccessKey

def REGISTRATION_API : String := "/%s/registrations/%s?api-version=2019-03-31"
def SAS_TOKEN_SCOPE : String := "%s/registrations/%s"
def REGISTRATION_BODY : String := "\x7b\"registrationId\" : \"%s\"\x7d"

/-- `REGISTRATION_API`, formatted. -/
def registrationApi (idScope registrationId : String) : String :=
  "/" ++ idScope ++ "/registrations/" ++ registrationId ++ "?api-version=2019-03-31"

/-- `REGISTRATION_BODY`, formatted. -/
def registrationBody (registrationId : String) : String :=
  "\x7b\"registrationId\" : \"" ++ registrationId ++ "\"\x7d"

end AuthenticationManager

/-- `AuthenticationManager`. -/
structure AuthenticationManager where
  relativeUrl : CharArray AuthenticationManager.MAX_BUFF
  hostName : CharArray AuthenticationManager.MAX_BUFF
  deviceId : CharArray AuthenticationManager.MAX_BUFF
  sharedAccessKey : Option String
  certificate : Option String
  certificatePrivateKey : Option String
  dpsRelativeUrl : Option String
  sasTokenScope : Option String
  dpsRequestContent : Option String
  idScope : CharArray AuthenticationManager.MAX_BUFF
  registrationId : CharArray AuthenticationManager.MAX_BUFF
  lastDPSUpdateTime : CharArray AuthenticationManager.MAX_BUFF
  deriving DecidableEq

/-- A string member, as the C string functions see it. -/
def JsonObjectReader.readCString (reader : JsonObjectReader) (key : String) :
    Except JsonReaderError String :=
  (reader.readString key).map fun s => cString s.toList

/-- The answer to an HTTP request that has been executed: its status, and what its body parses
to. -/
structure HttpResponse where
  statusCode : UInt32
  parsed : Option Json

/-- What happens in `AuthenticationManager_GetHostNameFromDPSService`. -/
structure DpsAnswer where
  bufferNew : Bool
  scopeMalloc : Bool
  /-- `none` if any step of the request fails. -/
  response : Option HttpResponse
  readerMalloc : Bool

/-- What happens in `AuthenticationManager_GetConnectionStringFromHub`. -/
structure HubAnswer where
  bufferNew : Bool
  response : Option HttpResponse
  readerMalloc : Bool

/-- What a key file or certificate comes to. -/
structure KeyAnswer where
  /-- The buffer for the key. -/
  malloc : Bool
  /-- `FileUtils_ReadFile`: the text in the file, up to the size of the buffer. -/
  keyFile : Option String
  /-- `CertificateManager_LoadFromFileUsingPemFormat` or the one for PKCS 12: the certificate and its
  key. Each may be `NULL`. -/
  certificateFile : Option (Option String × Option String)

/-- The three allocations of `AuthenticationManager_SetDPSDetails`. -/
structure DetailsAnswer where
  dpsRelativeUrl : Bool
  sasTokenScope : Bool
  dpsRequestContent : Bool

namespace AuthenticationManager

/-- `AuthenticationManager_EnsureHttpSuccessStatusCode`. -/
def ensureHttpSuccessStatusCode (statusCode : UInt32) : Bool := statusCode == 200

/-- `AuthenticationManager_Init`. -/
def init : AuthenticationManager :=
  ⟨.zero, .zero, .zero, none, none, none, none, none, none, .zero, .zero, .zero⟩

/-- `AuthenticationManager_DeinitDpsDetails`. -/
def deinitDpsDetails (am : AuthenticationManager) : AuthenticationManager :=
  { am with dpsRelativeUrl := none, sasTokenScope := none, dpsRequestContent := none }

/-- `AuthenticationManager_Deinit`. -/
def deinit (am : AuthenticationManager) : AuthenticationManager :=
  deinitDpsDetails
    { am with certificate := none, certificatePrivateKey := none, sharedAccessKey := none }

/-- `AuthenticationManager_InitSharedProperties`. -/
def initSharedProperties (am : AuthenticationManager) (hostName deviceId : Option String) :
    Option (Bool × AuthenticationManager) :=
  match hostName with
  | none => none
  | some hostName =>
      let (copied, array) := am.hostName.copyString hostName
      let am := { am with hostName := array }
      if copied = false then some (false, am)
      else
        match deviceId with
        | none => none
        | some deviceId =>
            let (copied, array) := am.deviceId.copyString deviceId
            let am := { am with deviceId := array }
            if copied = false then some (false, am)
            else
              let (fits, array) := am.relativeUrl.concatenateToString (securityModuleApi deviceId)
              some (fits, { am with relativeUrl := array })

/-- `AuthenticationManager_InitFromSharedAccessKey`. -/
def initFromSharedAccessKey (o : KeyAnswer) (am : AuthenticationManager)
    (hostName deviceId : Option String) : Option (Bool × AuthenticationManager) :=
  if o.malloc = false then some (false, { am with sharedAccessKey := none })
  else
    match o.keyFile with
    | none => some (false, { am with sharedAccessKey := none })
    | some key =>
        -- a new line ends the key
        let am := { am with sharedAccessKey := some (cString (key.toList.takeWhile (· ≠ '\n'))) }
        match am.initSharedProperties hostName deviceId with
        | none => none
        | some (false, am) => some (false, { am with sharedAccessKey := none })
        | some (true, am) => some (true, am)

/-- `strrchr` for a dot: the text from the last one on. -/
def fileExtension (filePath : String) : Option String :=
  if '.' ∈ filePath.toList then
    some (String.ofList ('.' :: (filePath.toList.reverse.takeWhile (· ≠ '.')).reverse))
  else none

/-- `CertificateManager_LoadFromFile`: its result, the certificate and the private key. -/
def loadFromFile (o : KeyAnswer) (filePath : String) : Bool × Option String × Option String :=
  match fileExtension filePath with
  | none => (false, none, none)
  | some extension =>
      if unsafeAreStringsEqual (some extension) (some ".pem") false = some true
          ∨ unsafeAreStringsEqual (some extension) (some ".pfx") false = some true then
        match o.certificateFile with
        | none => (false, none, none)
        | some (certificate, privateKey) => (true, certificate, privateKey)
      else (false, none, none)

/-- `AuthenticationManager_InitFromCertificate`. -/
def initFromCertificate (o : KeyAnswer) (am : AuthenticationManager) (filePath : Option String)
    (hostName deviceId : Option String) : Option (Bool × AuthenticationManager) :=
  match filePath with
  | none => none
  | some filePath =>
      let (loaded, certificate, privateKey) := loadFromFile o filePath
      let am := { am with certificate := certificate, certificatePrivateKey := privateKey }
      if loaded = false then some (false, am.deinit)
      else
        match am.initSharedProperties hostName deviceId with
        | none => none
        | some (false, am) => some (false, am.deinit)
        | some (true, am) => some (true, am)

/-- The texts `AuthenticationManager_SetDPSDetails` writes once its buffers are allocated, each in as
much room as its format and the two arguments take; `none` if one does not fit. -/
def dpsTexts (am : AuthenticationManager) (idScope registrationId : String) :
    Option (String × String × String) :=
  let sharedSize := registrationId.length + idScope.length + 1
  let room (fmt : String) : Nat := (UInt32.ofNat (fmt.length + sharedSize)).toNat
  let api := registrationApi am.idScope.text am.registrationId.text
  match Utils.concatenateToString "" (room REGISTRATION_API) api with
  | none => none
  | some (dpsRelativeUrl, _) =>
      -- the scope is written with the format of the url
      let scope := if am.sharedAccessKey = none then some ("", room SAS_TOKEN_SCOPE)
        else Utils.concatenateToString "" (room SAS_TOKEN_SCOPE) api
      match scope with
      | none => none
      | some (sasTokenScope, _) =>
          let body := registrationBody am.registrationId.text
          (Utils.concatenateToString "" (room REGISTRATION_BODY) body).map
            fun (dpsRequestContent, _) => (dpsRelativeUrl, sasTokenScope, dpsRequestContent)

/-- `AuthenticationManager_SetDPSDetails`. -/
def setDPSDetails (o : DetailsAnswer) (am : AuthenticationManager)
    (idScope registrationId : Option String) : Option (Bool × AuthenticationManager) :=
  match idScope with
  | none => none
  | some idScope =>
      let (copied, array) := am.idScope.copyString idScope
      let am := { am with idScope := array }
      if copied = false then some (false, am.deinitDpsDetails)
      else
        match registrationId with
        | none => none
        | some registrationId =>
            let (copied, array) := am.registrationId.copyString registrationId
            let am := { am with registrationId := array }
            if copied = false ∨ o.dpsRelativeUrl = false ∨ o.sasTokenScope = false
                ∨ o.dpsRequestContent = false then some (false, am.deinitDpsDetails)
            else
              match am.dpsTexts idScope registrationId with
              | none => some (false, am.deinitDpsDetails)
              | some (dpsRelativeUrl, sasTokenScope, dpsRequestContent) =>
                  some (true, { am with
                    dpsRelativeUrl := some dpsRelativeUrl
                    sasTokenScope := some sasTokenScope
                    dpsRequestContent := some dpsRequestContent })

/-- `AuthenticationManager_UpdateFromDpsResponse`. -/
def updateFromDpsResponse (malloc : Bool) (parsed : Option Json) (am : AuthenticationManager) :
    Bool × AuthenticationManager :=
  match JsonObjectReader.initFromString malloc parsed with
  | .error _ => (false, am)
  | .ok jsonReader =>
      match jsonReader.readCString RESPONSE_STATUS with
      | .error _ => (false, am)
      | .ok status =>
          if unsafeAreStringsEqual (some status) (some RESPONSE_STATUS_ASSIGNED) true ≠ some true then
            (false, am)
          else
            match jsonReader.readCString RESPONSE_ASSIGNED_HUB with
            | .error _ => (false, am)
            | .ok assignedHub =>
                let (copied, array) := am.hostName.copyString assignedHub
                let am := { am with hostName := array }
                if copied = false then (false, am) else updateDevice jsonReader am
where
  /-- From where the device id is read. -/
  updateDevice (jsonReader : JsonObjectReader) (am : AuthenticationManager) :
      Bool × AuthenticationManager :=
    match jsonReader.readCString RESPONSE_DEVICE_ID with
    | .error _ => (false, am)
    | .ok deviceId =>
        let (copied, array) := am.deviceId.copyString deviceId
        let am := { am with deviceId := array }
        if copied = false then (false, am) else updateTime jsonReader deviceId am
  /-- From where the time of the last update is read. If it has not changed, the device has not
  been provisioned again. -/
  updateTime (jsonReader : JsonObjectReader) (deviceId : String) (am : AuthenticationManager) :
      Bool × AuthenticationManager :=
    match jsonReader.readCString RESPONSE_LAST_UPDATED with
    | .error _ => (false, am)
    | .ok lastUpdated =>
        if unsafeAreStringsEqual (some lastUpdated) (some am.lastDPSUpdateTime.text) true
            = some true then
          (false, am)
        else
          let (copied, array) := am.lastDPSUpdateTime.copyString lastUpdated
          let am := { am with lastDPSUpdateTime := array }
          if copied = false then (false, am)
          else
            let (fits, array) := am.relativeUrl.concatenateToString (securityModuleApi deviceId)
            (fits, { am with relativeUrl := array })

/-- `AuthenticationManager_GetHostNameFromDPSService`. The length of the request's content is
measured when the request is made. -/
def getHostNameFromDPSService (o : DpsAnswer) (am : AuthenticationManager) :
    Option (Bool × AuthenticationManager) :=
  if o.bufferNew = false ∨ o.scopeMalloc = false then some (false, am)
  else
    match strlen am.dpsRequestContent with
    | none => none
    | some _ =>
        match o.response with
        | none => some (false, am)
        | some response =>
            if ensureHttpSuccessStatusCode response.statusCode = false then some (false, am)
            else some (updateFromDpsResponse o.readerMalloc response.parsed am)

/-- `AuthenticationManager_GetHostNameFromDPS`. -/
def getHostNameFromDPS (o : DpsAnswer) (am : AuthenticationManager) :
    Option (Bool × AuthenticationManager) :=
  if am.sharedAccessKey ≠ none ∨ am.certificate ≠ none then getHostNameFromDPSService o am
  else some (false, am)

/-- `AuthenticationManager_GenerateConnectionStringFromSharedAccessKey`. -/
def generateConnectionStringFromSharedAccessKey (sharedAccessKey : String)
    (connectionStringSize : Nat) (hostName deviceId : String) : Option String :=
  (Utils.concatenateToString "" connectionStringSize
    (generatedConnectionString hostName deviceId sharedAccessKey)).map Prod.fst

/-- `AuthenticationManager_ExtractConnectionString`. -/
def extractConnectionString (malloc : Bool) (parsed : Option Json) (am : AuthenticationManager)
    (connectionStringSize : Nat) : Option String :=
  match JsonObjectReader.initFromString malloc parsed with
  | .error _ => none
  | .ok jsonReader =>
      match jsonReader.readCString PRIMARY_KEY with
      | .error _ => none
      | .ok sharedAccessKey =>
          generateConnectionStringFromSharedAccessKey sharedAccessKey connectionStringSize
            am.hostName.text am.deviceId.text

/-- `AuthenticationManager_GetConnectionStringFromHub`. -/
def getConnectionStringFromHub (o : HubAnswer) (am : AuthenticationManager)
    (connectionStringSize : Nat) : Option String :=
  if o.bufferNew = false then none
  else
    match o.response with
    | none => none
    | some response =>
        if ensureHttpSuccessStatusCode response.statusCode = false then none
        else extractConnectionString o.readerMalloc response.parsed am connectionStringSize

/-- `AuthenticationManager_GetConnectionString`. -/
def getConnectionString (o : HubAnswer) (am : AuthenticationManager) (connectionStringSize : Nat) :
    Option String :=
  if am.sharedAccessKey ≠ none ∨ am.certificate ≠ none then
    getConnectionStringFromHub o am connectionStringSize
  else none

/-! ## Storing a string -/

/-- A string fits an array: its size, cut to 32 bits, is no larger. -/
def Fits (s : String) : Prop := (UInt32.ofNat (s.length + 1)).toNat ≤ MAX_BUFF

instance (s : String) : Decidable (Fits s) := inferInstanceAs (Decidable (_ ≤ _))

/-- The array as it is after the string has been copied to it. -/
def stored (dest : CharArray MAX_BUFF) (s : String) : CharArray MAX_BUFF := (dest.copyString s).2

theorem copyString_eq (dest : CharArray MAX_BUFF) (s : String) :
    dest.copyString s = (decide (Fits s), stored dest s) := by
  unfold stored CharArray.copyString
  by_cases h : Fits s
  · rw [if_neg (Nat.not_lt.mpr h)]
    exact Prod.ext (decide_eq_true h).symm rfl
  · rw [if_pos (Nat.lt_of_not_le h)]
    exact Prod.ext (decide_eq_false h).symm rfl

theorem stored_of_not_fits {dest : CharArray MAX_BUFF} {s : String} (h : ¬ Fits s) :
    stored dest s = dest := by
  unfold stored CharArray.copyString
  rw [if_pos (Nat.lt_of_not_le h)]

/-- A string shorter than the array is read back as it was copied. -/
theorem text_stored {dest : CharArray MAX_BUFF} {s : String} (hnul : nul ∉ s.toList)
    (h : s.length < MAX_BUFF) : (stored dest s).text = s := by
  have hsize : (UInt32.ofNat (s.length + 1)).toNat = s.length + 1 := by
    rw [UInt32.toNat_ofNat']
    exact Nat.mod_eq_of_lt (by simp only [MAX_BUFF] at h; omega)
  have hall : (s.toList ++ [nul]).take (s.length + 1) = s.toList ++ [nul] :=
    List.take_of_length_le (by rw [List.length_append, String.length_toList]; exact Nat.le_refl _)
  unfold stored CharArray.copyString
  simp only [hsize, hall]
  rw [if_neg (Nat.not_lt.mpr h)]
  exact CharArray.text_overwrite hnul h

end AuthenticationManager

end SecurityAgent
