import Mathlib.Data.List.TakeWhile
import SecurityAgent.Auth.DpsResponse
import SecurityAgent.Auth.NullSafety
import SecurityAgent.Lib.Run

/-!
# When a failed renewal can be repeated

A renewal asks DPS for the hub and then the hub for the key. Whether DPS has
anything new to say is decided by the time of its last update, and that time is
stored while the response is read. A renewal that fails later, be it for want of
memory, has stored it all the same, and the same response is then taken for old.
-/

namespace SecurityAgent

open Utils Machine

namespace Utils

theorem nul_not_mem_cString (bytes : List Char) : nul ∉ (cString bytes).toList := by
  rw [cString, String.toList_ofList]
  exact not_mem_takeWhile_nul bytes

end Utils

/-- The string of a C string member has no terminator in it. -/
theorem JsonObjectReader.nul_not_mem_of_readCString {reader : JsonObjectReader} {key s : String}
    (h : reader.readCString key = .ok s) : nul ∉ s.toList := by
  unfold readCString at h
  cases hread : reader.readString key with
  | error e => simp [hread, Except.map] at h
  | ok value =>
      simp only [hread, Except.map, Except.ok.injEq] at h
      rw [← h]
      exact nul_not_mem_cString _

namespace AuthenticationManager

/-! ## What a response does to the manager -/

/-- A response touches no key and none of the DPS details. -/
theorem updateFromDpsResponse_sameKeys (malloc : Bool) (parsed : Option Json)
    (am : AuthenticationManager) : SameKeys am (updateFromDpsResponse malloc parsed am).2 := by
  have houtcome := updateFromDpsResponse_outcome malloc parsed am
  generalize updateFromDpsResponse malloc parsed am = r at houtcome
  cases houtcome with
  | nothing _ => exact ⟨rfl, rfl, rfl⟩
  | hub _ _ => exact ⟨rfl, rfl, rfl⟩
  | device _ _ _ => exact ⟨rfl, rfl, rfl⟩
  | time _ => exact ⟨rfl, rfl, rfl⟩

/-! ## A manager that DPS has answered -/

/-- It has a key, and the content of the request to DPS. -/
structure Started (am : AuthenticationManager) : Prop where
  hasKey : HasKey am
  content : am.dpsRequestContent ≠ none

theorem Started.of_sameKeys {am am' : AuthenticationManager} (h : Started am)
    (hsame : SameKeys am am') : Started am' where
  hasKey := by
    unfold HasKey
    rw [hsame.sharedAccessKey, hsame.certificate]
    exact h.hasKey
  content := by
    rw [hsame.dpsRequestContent]
    exact h.content

/-- DPS answers with this body. -/
structure Receives (o : DpsAnswer) (parsed : Option Json) : Prop where
  bufferNew : o.bufferNew = true
  scopeMalloc : o.scopeMalloc = true
  response : o.response = some ⟨200, parsed⟩

theorem Receives.unique {o : DpsAnswer} {parsed parsed' : Option Json} (h : Receives o parsed)
    (h' : Receives o parsed') : parsed' = parsed :=
  congrArg HttpResponse.parsed (Option.some.inj (h'.response.symm.trans h.response))

/-- A request to DPS that is not answered changes nothing. -/
theorem Started.getHostNameFromDPS_cases {am : AuthenticationManager} (h : Started am)
    (o : DpsAnswer) :
    ((∀ parsed, ¬ Receives o parsed) ∧ am.getHostNameFromDPS o = some (false, am))
      ∨ ∃ parsed, Receives o parsed
        ∧ am.getHostNameFromDPS o = some (updateFromDpsResponse o.readerMalloc parsed am) := by
  rw [getHostNameFromDPS_of_hasKey h.hasKey, getHostNameFromDPSService]
  by_cases hbuffers : o.bufferNew = false ∨ o.scopeMalloc = false
  · rw [if_pos hbuffers]
    refine Or.inl ⟨fun parsed hr => ?_, rfl⟩
    simp [hr.bufferNew, hr.scopeMalloc] at hbuffers
  rw [if_neg hbuffers]
  simp only [not_or, Bool.not_eq_false] at hbuffers
  obtain ⟨content, hcontent⟩ := Option.ne_none_iff_exists'.mp h.content
  simp only [hcontent, strlen]
  cases hresponse : o.response with
  | none => exact Or.inl ⟨fun parsed hr => by simp [hr.response] at hresponse, rfl⟩
  | some response =>
      obtain ⟨statusCode, parsed⟩ := response
      by_cases hstatus : statusCode = 200
      · obtain rfl := hstatus
        exact Or.inr ⟨parsed, ⟨hbuffers.1, hbuffers.2, hresponse⟩, rfl⟩
      · refine Or.inl ⟨fun parsed' hr => ?_, ?_⟩
        · have heq := Option.some.inj (hresponse.symm.trans hr.response)
          exact hstatus (congrArg HttpResponse.statusCode heq)
        · simp [ensureHttpSuccessStatusCode, hstatus]

/-- A request that succeeds has been made by a manager that could make it. -/
theorem started_of_getHostNameFromDPS {am am' : AuthenticationManager} {o : DpsAnswer}
    (h : am.getHostNameFromDPS o = some (true, am')) : Started am' := by
  have hkey : HasKey am := by
    by_contra hkey
    rw [getHostNameFromDPS_of_no_key hkey] at h
    simp at h
  have hcontent : am.dpsRequestContent ≠ none := by
    intro hcontent
    rw [getHostNameFromDPS_of_hasKey hkey, getHostNameFromDPSService, hcontent] at h
    simp only [strlen] at h
    split at h <;> simp at h
  have hstarted : Started am := ⟨hkey, hcontent⟩
  rcases hstarted.getHostNameFromDPS_cases o with ⟨-, hr⟩ | ⟨parsed, -, hr⟩
  · rw [hr] at h
    simp at h
  · rw [hr] at h
    have hsame := updateFromDpsResponse_sameKeys o.readerMalloc parsed am
    rw [Option.some.inj h] at hsame
    exact hstarted.of_sameKeys hsame

end AuthenticationManager

/-- A DPS response that describes a connection string: the device is assigned to a hub, and whatever
is made of the response has room, even if the key were empty. -/
structure Assignment where
  parsed : Option Json
  reader : JsonObjectReader
  assignedHub : String
  deviceId : String
  lastUpdated : String
  storesHub : AuthenticationManager.StoresHub true parsed reader assignedHub
  readsDevice : AuthenticationManager.ReadsDevice reader deviceId
  readsTime : reader.readCString AuthenticationManager.RESPONSE_LAST_UPDATED = .ok lastUpdated
  timeFits : AuthenticationManager.Fits lastUpdated
  urlFits : (AuthenticationManager.securityModuleApi deviceId).length
    < AuthenticationManager.MAX_BUFF
  describes : (AuthenticationManager.generatedConnectionString assignedHub deviceId "").length
    < LocalConfiguration.CONNECTION_STRING_SIZE

namespace AuthenticationManager

theorem length_le_generatedConnectionString (hub device key : String) :
    hub.length ≤ (generatedConnectionString hub device key).length
      ∧ device.length ≤ (generatedConnectionString hub device key).length := by
  simp only [generatedConnectionString, String.length_append]
  omega

/-- A response is turned down, and the stored time stays, unless all three members are stored. -/
theorem updateFromDpsResponse_time (malloc : Bool) (parsed : Option Json)
    (am : AuthenticationManager) :
    ((∀ reader hub device time, ¬ StoresTime am malloc parsed reader hub device time)
        ∧ (updateFromDpsResponse malloc parsed am).1 = false
        ∧ (updateFromDpsResponse malloc parsed am).2.lastDPSUpdateTime = am.lastDPSUpdateTime)
      ∨ ∃ reader hub device time, StoresTime am malloc parsed reader hub device time
        ∧ updateFromDpsResponse malloc parsed am
          = (decide ((securityModuleApi device).length < MAX_BUFF), { am with
            hostName := stored am.hostName hub
            deviceId := stored am.deviceId device
            lastDPSUpdateTime := stored am.lastDPSUpdateTime time
            relativeUrl :=
              (am.relativeUrl.concatenateToString (securityModuleApi device)).2 }) := by
  have houtcome := updateFromDpsResponse_outcome malloc parsed am
  generalize updateFromDpsResponse malloc parsed am = r at houtcome
  cases houtcome with
  | nothing hno => exact Or.inl ⟨fun _ _ _ _ h => hno _ _ h.toStoresHub, rfl, rfl⟩
  | hub hhub hno =>
      refine Or.inl ⟨fun reader hub device time h => ?_, rfl, rfl⟩
      obtain ⟨rfl, -⟩ := hhub.unique h.toStoresHub
      exact hno device h.toReadsDevice
  | device hhub _ hno =>
      refine Or.inl ⟨fun reader hub device time h => ?_, rfl, rfl⟩
      obtain ⟨rfl, -⟩ := hhub.unique h.toStoresHub
      exact hno time h.toReadsNewTime
  | time hstores => exact Or.inr ⟨_, _, _, _, hstores, rfl⟩

/-- If its time is new, a response that describes a connection string is taken in whole. -/
theorem updateFromDpsResponse_assignment (R : Assignment) {am : AuthenticationManager}
    (hnew : ¬ Matches R.lastUpdated am.lastDPSUpdateTime.text) :
    ∃ am', updateFromDpsResponse true R.parsed am = (true, am')
      ∧ am'.hostName.text = R.assignedHub ∧ am'.deviceId.text = R.deviceId := by
  have hstores : StoresTime am true R.parsed R.reader R.assignedHub R.deviceId R.lastUpdated :=
    { R.storesHub, R.readsDevice with
      readsTime := R.readsTime, isNew := hnew, timeFits := R.timeFits }
  obtain ⟨hhub, hdevice⟩ := length_le_generatedConnectionString R.assignedHub R.deviceId ""
  rcases updateFromDpsResponse_time true R.parsed am with
    ⟨hno, -⟩ | ⟨reader, hub, device, time, h, hu⟩
  · exact absurd hstores (hno _ _ _ _)
  · obtain ⟨rfl, rfl⟩ := R.storesHub.unique h.toStoresHub
    obtain rfl := R.readsDevice.unique h.toReadsDevice
    rw [decide_eq_true R.urlFits] at hu
    refine ⟨_, hu, ?_, ?_⟩
    · exact text_stored (JsonObjectReader.nul_not_mem_of_readCString h.readsHub)
        (Nat.lt_of_le_of_lt hhub R.describes)
    · exact text_stored (JsonObjectReader.nul_not_mem_of_readCString h.readsDevice)
        (Nat.lt_of_le_of_lt hdevice R.describes)

/-- A time that is not new has the response turned down. -/
theorem updateFromDpsResponse_old (R : Assignment) {am : AuthenticationManager}
    (hold : Matches R.lastUpdated am.lastDPSUpdateTime.text) :
    (updateFromDpsResponse true R.parsed am).1 = false := by
  rcases updateFromDpsResponse_time true R.parsed am with
    ⟨-, hfalse, -⟩ | ⟨reader, hub, device, time, h, -⟩
  · exact hfalse
  · obtain ⟨rfl, -⟩ := R.storesHub.unique h.toStoresHub
    obtain rfl : time = R.lastUpdated := Except.ok.inj (h.readsTime.symm.trans R.readsTime)
    exact absurd hold h.isNew

end AuthenticationManager

namespace LocalConfiguration

open AuthenticationManager

/-! ## After a start through DPS -/

theorem initConnectionStringFromDevice_frame (o : DeviceAnswer) (s : LocalConfiguration) :
    (initConnectionStringFromDevice o s).2.authenticationManager = s.authenticationManager
      ∧ (initConnectionStringFromDevice o s).2.useDps = s.useDps := by
  unfold initConnectionStringFromDevice
  split
  · exact ⟨rfl, rfl⟩
  · exact ⟨rfl, rfl⟩

theorem initLogger_frame (s : LocalConfiguration) (jsonReader : JsonObjectReader) :
    (s.initLogger jsonReader).authenticationManager = s.authenticationManager
      ∧ (s.initLogger jsonReader).useDps = s.useDps := by
  unfold initLogger
  split
  · exact ⟨rfl, rfl⟩
  · split <;> split <;> exact ⟨rfl, rfl⟩

theorem started_of_initAuthenticationThroughDps {o : AuthenticationAnswer}
    {s s' : LocalConfiguration} {idScope registrationId authenticationMethod filePath : Option String}
    (h : initAuthenticationThroughDps o s idScope registrationId authenticationMethod filePath
      = some (.ok, s')) : Started s'.authenticationManager := by
  unfold initAuthenticationThroughDps at h
  simp only at h
  split at h
  · cases h
  split at h
  · cases h
  · cases h
  split at h
  · cases h
  · rename_i result am' hdps
    cases result with
    | false => simp at h
    | true =>
        obtain rfl := (Prod.mk.inj (Option.some.inj h)).2
        exact started_of_getHostNameFromDPS hdps

theorem initConnectionStringFromModule_useDps (o : AuthenticationAnswer) (s : LocalConfiguration)
    (hostName deviceId : Option String) :
    (initConnectionStringFromModule o s hostName deviceId).2.useDps = s.useDps := by
  unfold initConnectionStringFromModule
  split
  · rfl
  · simp only
    split <;> rfl

/-- Credentials that succeed through DPS leave the manager started. -/
theorem started_of_initFromCredentials {o : AuthenticationAnswer} {s s' : LocalConfiguration}
    {c : Credentials} (h : initFromCredentials o s c = some (.ok, s')) (hdps : s'.useDps = true) :
    Started s'.authenticationManager := by
  unfold initFromCredentials at h
  cases huse : s.useDps with
  | true =>
      rw [if_pos huse] at h
      split at h
      · cases h
      · cases h
      · rename_i s₁ hauth
        have hframe := initConnectionStringFromDevice_frame o.renew.device s₁
        rw [Option.some.inj h] at hframe
        rw [hframe.1]
        exact started_of_initAuthenticationThroughDps hauth
  | false =>
      -- nothing but the identity of DPS sets `useDps`
      refine absurd hdps (Bool.eq_false_iff.mp ?_)
      rw [if_neg (by simp [huse])] at h
      split at h
      · cases h
      · split at h
        · cases h
        · cases h
        · rename_i s₁ hauth
          have hframe := initConnectionStringFromDevice_frame o.renew.device s₁
          rw [Option.some.inj h] at hframe
          rw [hframe.2]
          unfold initAuthenticationThroughDevice at hauth
          split at hauth
          · cases hauth
          · obtain rfl := (Prod.mk.inj (Option.some.inj hauth)).2
            exact huse
      · split at h
        · cases h
        · cases h
        · split at h
          · cases h
          · have hframe := initConnectionStringFromModule_useDps o s c.hostName c.deviceId
            rw [Option.some.inj h] at hframe
            exact hframe.trans huse
          · cases h

theorem started_of_initConnectionString {o : AuthenticationAnswer} {s s' : LocalConfiguration}
    {jsonReader inner : JsonObjectReader}
    (h : initConnectionString o s jsonReader = some (.ok, s', inner)) (hdps : s'.useDps = true) :
    Started s'.authenticationManager := by
  unfold initConnectionString at h
  split at h
  · cases h
  split at h
  · cases h
  simp only at h
  split at h
  · cases h
  · obtain ⟨⟨result, s₁⟩, hr, heq⟩ := Option.map_eq_some_iff.mp h
    simp only [Prod.mk.injEq] at heq
    obtain ⟨rfl, rfl, -⟩ := heq
    exact started_of_initFromCredentials hr hdps

theorem started_of_finish {o : InitializationAnswer} {s s' : LocalConfiguration}
    {jsonReader : JsonObjectReader} (h : initBody.finish o jsonReader s = some (.ok, s'))
    (hdps : s'.useDps = true) : Started s'.authenticationManager := by
  unfold initBody.finish at h
  split at h
  · cases h
  · cases h
  · rename_i s₁ inner hconnection
    split at h
    · cases h
    · rename_i outer _
      obtain rfl := (Prod.mk.inj (Option.some.inj h)).2
      obtain ⟨ham, huse⟩ := initLogger_frame s₁ outer
      rw [ham]
      exact started_of_initConnectionString hconnection (huse ▸ hdps)

/-- An initialization that succeeds has come to its end. -/
theorem finish_of_init {o : InitializationAnswer} {s s' : LocalConfiguration}
    (h : init o s = some (.ok, s')) :
    ∃ jsonReader s₁, initBody.finish o jsonReader s₁ = some (.ok, s') := by
  have hbody : initBody o s = some (.ok, s') := by
    unfold init at h
    split at h
    · cases h
    · rename_i s₁ hbody
      exact hbody.trans h
    · cases h
  unfold initBody at hbody
  split at hbody
  · cases hbody
  split at hbody
  · cases hbody
  split at hbody
  · cases hbody
  rename_i jsonReader _
  refine ⟨jsonReader, ?_⟩
  unfold initBody.readSettings at hbody
  split at hbody
  · cases hbody
  simp only at hbody
  split at hbody
  · cases hbody
  split at hbody
  · cases hbody
  split at hbody
  · cases hbody
  split at hbody
  · cases hbody
  split at hbody
  · cases hbody
  · exact ⟨_, hbody⟩

/-- A successful start through DPS leaves the manager started. -/
theorem started_of_init {o : InitializationAnswer} {s s' : LocalConfiguration}
    (h : init o s = some (.ok, s')) (hdps : s'.useDps = true) :
    Started s'.authenticationManager := by
  obtain ⟨jsonReader, s₁, hfinish⟩ := finish_of_init h
  exact started_of_finish hfinish hdps

/-! ## One renewal -/

/-- `LocalConfiguration_TryRenewConnectionString`, as a machine. -/
def renew (s : LocalConfiguration) (o : RenewAnswer) : Option (Bool × LocalConfiguration) :=
  tryRenewConnectionString o s

/-- The time of the response is not the one that is stored. -/
def IsNew (R : Assignment) (s : LocalConfiguration) : Prop :=
  ¬ Matches R.lastUpdated s.authenticationManager.lastDPSUpdateTime.text

/-- The call receives a response that is taken up to its time, and what is stored of that is the time
of `R`. -/
def StoresTimeOf (R : Assignment) (s : LocalConfiguration) (o : RenewAnswer) : Prop :=
  ∃ parsed reader hub device time, Receives o.dps parsed
    ∧ StoresTime s.authenticationManager o.dps.readerMalloc parsed reader hub device time
    ∧ Matches R.lastUpdated (stored s.authenticationManager.lastDPSUpdateTime time).text

/-- The call receives `R`, every other step succeeds, and the hub gives this key. -/
structure CallSucceeds (R : Assignment) (key : String) (o : RenewAnswer) : Prop where
  receives : Receives o.dps R.parsed
  readerMalloc : o.dps.readerMalloc = true
  bufferNew : o.device.hub.bufferNew = true
  hubReaderMalloc : o.device.hub.readerMalloc = true
  hub : ∃ body reader, o.device.hub.response = some ⟨200, body⟩
    ∧ JsonObjectReader.initFromString true body = .ok reader
    ∧ reader.readCString PRIMARY_KEY = .ok key
  fits : (generatedConnectionString R.assignedHub R.deviceId key).length < CONNECTION_STRING_SIZE
  copyMalloc : o.device.copyMalloc = true

/-- Such a call returns true, with the connection string that `R` describes. -/
def RetrySucceeds (R : Assignment) (s : LocalConfiguration) : Prop :=
  ∀ key o, CallSucceeds R key o → ∃ s', renew s o = some (true, s')
    ∧ s'.connectionString = some (generatedConnectionString R.assignedHub R.deviceId key)

theorem renew_cases {s : LocalConfiguration} (h : Started s.authenticationManager)
    (o : RenewAnswer) :
    ((∀ parsed, ¬ Receives o.dps parsed) ∧ renew s o = some (false, s))
      ∨ ∃ parsed, Receives o.dps parsed ∧ ∃ result s', renew s o = some (result, s')
        ∧ s'.authenticationManager
          = (updateFromDpsResponse o.dps.readerMalloc parsed s.authenticationManager).2 := by
  unfold renew tryRenewConnectionString
  rcases h.getHostNameFromDPS_cases o.dps with ⟨hno, hr⟩ | ⟨parsed, hreceives, hr⟩
  · rw [hr]
    exact Or.inl ⟨hno, rfl⟩
  · rw [hr]
    refine Or.inr ⟨parsed, hreceives, ?_⟩
    rcases updateFromDpsResponse o.dps.readerMalloc parsed s.authenticationManager with ⟨result, am⟩
    cases result with
    | false => exact ⟨false, _, rfl, rfl⟩
    | true =>
        exact ⟨_, _, rfl,
          (initConnectionStringFromDevice_frame o.device { s with authenticationManager := am }).1⟩

/-- What one renewal does to the stored time. -/
theorem renew_isNew {R : Assignment} {s : LocalConfiguration}
    (h : Started s.authenticationManager) (hnew : IsNew R s) (o : RenewAnswer) :
    ∃ result s', renew s o = some (result, s') ∧ Started s'.authenticationManager
      ∧ (IsNew R s' ↔ ¬ StoresTimeOf R s o) := by
  rcases renew_cases h o with ⟨hno, hr⟩ | ⟨parsed, hreceives, result, s', hr, ham⟩
  · refine ⟨false, s, hr, h, fun _ => ?_, fun _ => hnew⟩
    rintro ⟨parsed, -, -, -, -, hreceives, -⟩
    exact hno parsed hreceives
  refine ⟨result, s', hr, ham ▸ h.of_sameKeys (updateFromDpsResponse_sameKeys _ _ _), ?_⟩
  unfold IsNew
  rw [ham]
  -- only a response that gets as far as its time changes the stored one
  rcases updateFromDpsResponse_time o.dps.readerMalloc parsed s.authenticationManager with
    ⟨hno, -, htime⟩ | ⟨reader, hub, device, time, hstores, hu⟩
  · rw [htime]
    refine ⟨fun _ => ?_, fun _ => hnew⟩
    rintro ⟨parsed', reader, hub, device, time, hreceives', hstores, -⟩
    exact hno reader hub device time (hreceives.unique hreceives' ▸ hstores)
  · rw [hu]
    constructor
    · rintro hnew' ⟨parsed', reader', hub', device', time', hreceives', hstores', hmatches⟩
      obtain rfl := hreceives.unique hreceives'
      obtain ⟨rfl, -⟩ := hstores.toStoresHub.unique hstores'.toStoresHub
      obtain rfl := hstores.toReadsNewTime.unique hstores'.toReadsNewTime
      exact hnew' hmatches
    · intro hstays hmatches
      exact hstays ⟨parsed, reader, hub, device, time, hreceives, hstores, hmatches⟩

/-- With the hub and the device of `R` stored, the connection string is the one it describes. -/
theorem initConnectionStringFromDevice_succeeds {R : Assignment} {key : String} {o : RenewAnswer}
    (ho : CallSucceeds R key o) {s : LocalConfiguration} (hkey : HasKey s.authenticationManager)
    (hhub : s.authenticationManager.hostName.text = R.assignedHub)
    (hdevice : s.authenticationManager.deviceId.text = R.deviceId) :
    initConnectionStringFromDevice o.device s = (.ok, { s with
      connectionString := some (generatedConnectionString R.assignedHub R.deviceId key) }) := by
  obtain ⟨body, reader, hresponse, hparses, hread⟩ := ho.hub
  have hgenerate : generateConnectionStringFromSharedAccessKey key CONNECTION_STRING_SIZE
      R.assignedHub R.deviceId = some (generatedConnectionString R.assignedHub R.deviceId key) := by
    unfold generateConnectionStringFromSharedAccessKey Utils.concatenateToString
    rw [if_neg (Nat.not_le.mpr ho.fits), Option.map_some, String.empty_append]
  have hconnection : s.authenticationManager.getConnectionString o.device.hub CONNECTION_STRING_SIZE
      = some (generatedConnectionString R.assignedHub R.deviceId key) := by
    refine (if_pos hkey).trans ?_
    rw [getConnectionStringFromHub, ho.bufferNew, hresponse]
    simp only [Bool.true_eq_false, if_false, ensureHttpSuccessStatusCode, beq_self_eq_true,
      extractConnectionString, ho.hubReaderMalloc, hparses, hread, hhub, hdevice, hgenerate]
  unfold initConnectionStringFromDevice
  simp only [hconnection, createStringCopy, ho.copyMalloc, Bool.true_eq_false, if_false, if_true]

theorem retrySucceeds_of_isNew {R : Assignment} {s : LocalConfiguration}
    (h : Started s.authenticationManager) (hnew : IsNew R s) : RetrySucceeds R s := by
  intro key o ho
  obtain ⟨am, hupdate, hhub, hdevice⟩ := updateFromDpsResponse_assignment R hnew
  have hsame := updateFromDpsResponse_sameKeys true R.parsed s.authenticationManager
  rw [hupdate] at hsame
  have hdps : s.authenticationManager.getHostNameFromDPS o.dps = some (true, am) := by
    rcases h.getHostNameFromDPS_cases o.dps with ⟨hno, -⟩ | ⟨parsed, hreceives, hr⟩
    · exact absurd ho.receives (hno _)
    · rw [hr, ho.readerMalloc, ← hupdate, ho.receives.unique hreceives]
  have hdevice' := initConnectionStringFromDevice_succeeds ho
    (s := { s with authenticationManager := am }) (h.of_sameKeys hsame).hasKey hhub hdevice
  unfold renew tryRenewConnectionString
  simp only [hdps, hdevice']
  exact ⟨_, rfl, rfl⟩

/-- A call that receives `R`, for which every other step succeeds. -/
def succeedingCall (R : Assignment) : RenewAnswer where
  dps := ⟨true, true, some ⟨200, R.parsed⟩, true⟩
  device := ⟨⟨true, some ⟨200, some (.object [("authentication", .object
    [("symmetricKey", .object [("primaryKey", .string "")])])])⟩, true⟩, true⟩

theorem succeedingCall_succeeds (R : Assignment) : CallSucceeds R "" (succeedingCall R) where
  receives := ⟨rfl, rfl, rfl⟩
  readerMalloc := rfl
  bufferNew := rfl
  hubReaderMalloc := rfl
  hub := ⟨_, _, rfl, rfl, rfl⟩
  fits := R.describes
  copyMalloc := rfl

theorem not_retrySucceeds_of_not_isNew {R : Assignment} {s : LocalConfiguration}
    (h : Started s.authenticationManager) (hold : ¬ IsNew R s) : ¬ RetrySucceeds R s := by
  intro hretry
  have ho := succeedingCall_succeeds R
  obtain ⟨s', hr, -⟩ := hretry "" _ ho
  have hupdate := updateFromDpsResponse_old R (not_not.mp hold)
  unfold renew tryRenewConnectionString at hr
  rcases h.getHostNameFromDPS_cases (succeedingCall R).dps with ⟨hno, -⟩ | ⟨parsed, hreceives, hdps⟩
  · exact hno _ ho.receives
  · rw [hdps, ho.receives.unique hreceives, ho.readerMalloc] at hr
    rcases hu : updateFromDpsResponse true R.parsed s.authenticationManager with ⟨result, am⟩
    rw [hu] at hr hupdate
    obtain rfl := hupdate
    simp at hr

/-! ## Every sequence of renewals -/

theorem renew_started {s s' : LocalConfiguration} {o : RenewAnswer} {result : Bool}
    (h : Started s.authenticationManager) (hr : renew s o = some (result, s')) :
    Started s'.authenticationManager := by
  rcases renew_cases h o with ⟨-, hr'⟩ | ⟨parsed, -, result', s'', hr', ham⟩
  · obtain ⟨-, rfl⟩ := Prod.mk.inj (Option.some.inj (hr'.symm.trans hr))
    exact h
  · obtain ⟨-, rfl⟩ := Prod.mk.inj (Option.some.inj (hr'.symm.trans hr))
    rw [ham]
    exact h.of_sameKeys (updateFromDpsResponse_sameKeys _ _ _)

/-- Every later call can be made again as long as none stores the time of `R`. -/
theorem throughout_retrySucceeds_iff {R : Assignment} {s : LocalConfiguration}
    (h : Started s.authenticationManager) (hnew : IsNew R s) (calls : List RenewAnswer) :
    Throughout renew (RetrySucceeds R) s calls
      ↔ Along renew (fun s o => ¬ StoresTimeOf R s o) s calls := by
  refine throughout_iff_along_of_invariant
    (I := fun s => Started s.authenticationManager ∧ IsNew R s)
    (fun s h => retrySucceeds_of_isNew h.1 h.2) (fun s o result s' h hC hs => ?_)
    (fun s o h hC => ?_) ⟨h, hnew⟩
  · obtain ⟨result', s'', hr, hstarted, hiff⟩ := renew_isNew h.1 h.2 o
    obtain ⟨-, rfl⟩ := Prod.mk.inj (Option.some.inj (hr.symm.trans hs))
    exact ⟨hstarted, hiff.mpr hC⟩
  · obtain ⟨result, s', hr, hstarted, hiff⟩ := renew_isNew h.1 h.2 o
    exact ⟨result, s', hr, not_retrySucceeds_of_not_isNew hstarted (mt hiff.mp hC)⟩

/--
**When a renewal can be repeated.** After a successful start through DPS and any renewals, let one
fail. A response whose time was new to it then renews the connection string, in every later call in
which the other steps succeed, exactly if neither that call nor one in between has stored this time.
-/
theorem renewal_retryable_iff {o₀ : InitializationAnswer} {s₀ s s₁ s₂ : LocalConfiguration}
    (hstart : init o₀ s₀ = some (.ok, s)) (hdps : s.useDps = true) (hreach : Reaches renew s s₁)
    (R : Assignment) (hnew : IsNew R s₁) (o : RenewAnswer) (hfails : renew s₁ o = some (false, s₂))
    (calls : List RenewAnswer) :
    Throughout renew (RetrySucceeds R) s₂ calls
      ↔ ¬ StoresTimeOf R s₁ o ∧ Along renew (fun s o => ¬ StoresTimeOf R s o) s₂ calls := by
  have hstarted : Started s₁.authenticationManager :=
    Reaches.invariant (P := fun s => Started s.authenticationManager) hreach
      (started_of_init hstart hdps) fun s o result s' h hs => renew_started h hs
  obtain ⟨result, s', hr, hstarted₂, hnew₂⟩ := renew_isNew hstarted hnew o
  obtain ⟨rfl, rfl⟩ := Prod.mk.inj (Option.some.inj (hr.symm.trans hfails))
  by_cases hstores : StoresTimeOf R s₁ o
  · have hold := not_retrySucceeds_of_not_isNew hstarted₂ fun h => hnew₂.mp h hstores
    exact ⟨fun h => absurd h.here hold, fun h => absurd hstores h.1⟩
  · rw [throughout_retrySucceeds_iff hstarted₂ (hnew₂.mpr hstores)]
    exact ⟨fun h => ⟨hstores, h⟩, fun h => h.2⟩

/-- A response of DPS that assigns the device to this hub, last updated at this time. -/
def assignedResponse (assignedHub lastUpdated : String) : Json :=
  .object [(RESPONSE_STATUS, .string RESPONSE_STATUS_ASSIGNED),
    (RESPONSE_ASSIGNED_HUB, .string assignedHub), (RESPONSE_DEVICE_ID, .string "device"),
    (RESPONSE_LAST_UPDATED, .string lastUpdated)]

/-- The device is assigned to another hub. -/
def reassignment : Assignment where
  parsed := some (assignedResponse "b" "2")
  reader := ⟨[(RESPONSE_STATUS, .string RESPONSE_STATUS_ASSIGNED),
    (RESPONSE_ASSIGNED_HUB, .string "b"), (RESPONSE_DEVICE_ID, .string "device"),
    (RESPONSE_LAST_UPDATED, .string "2")], []⟩
  assignedHub := "b"
  deviceId := "device"
  lastUpdated := "2"
  storesHub := ⟨rfl, ⟨RESPONSE_STATUS_ASSIGNED, by decide +kernel, by decide +kernel⟩,
    by decide +kernel, by decide +kernel⟩
  readsDevice := ⟨by decide +kernel, by decide +kernel⟩
  readsTime := by decide +kernel
  timeFits := by decide +kernel
  urlFits := by decide +kernel
  describes := by decide +kernel

/-- A start through DPS in which nothing goes wrong. -/
def startThroughDps : InitializationAnswer :=
  { goodAnswer [(LOCAL_CONFIG_AUTHENTICATION_AUTHENTICATION_METHOD, .string "SasToken"),
      (LOCAL_CONFIG_AUTHENTICATION_IDENTITY, .string "DPS"),
      (LOCAL_CONFIG_AUTHENTICATION_FILE_PATH, .string "/key"),
      (LOCAL_CONFIG_AUTHENTICATION_DPS, .object
        [(LOCAL_CONFIG_AUTHENTICATION_DPS_IDSCOPE, .string "scope"),
         (LOCAL_CONFIG_AUTHENTICATION_DPS_REGISTRATION_ID, .string "device")])] with
    authentication :=
      { details := ⟨true, true, true⟩
        key := ⟨true, some "key", none⟩
        renew :=
          { succeedingCall reassignment with
            dps := ⟨true, true, some ⟨200, some (assignedResponse "a" "1")⟩, true⟩ }
        moduleKeyFile := none
        copyMalloc := true } }

/-- The state it leaves. -/
def startedThroughDps : LocalConfiguration where
  connectionString := some (generatedConnectionString "a" "device" "")
  agentId := some "agent"
  authenticationManagerInitialized := true
  useDps := true
  triggeredEventsInterval := 60000
  connectionTimeout := 60000
  systemLoggerMinimumSeverity := 0
  diagnosticEventMinimumSeverity := 0
  remoteConfigurationObjectName := some "conf"
  authenticationManager :=
    { relativeUrl := stored .zero (securityModuleApi "device")
      hostName := stored .zero "a"
      deviceId := stored .zero "device"
      sharedAccessKey := some "key"
      certificate := none
      certificatePrivateKey := none
      dpsRelativeUrl := some (registrationApi "scope" "device")
      sasTokenScope := some ""
      dpsRequestContent := some (registrationBody "device")
      idScope := stored .zero "scope"
      registrationId := stored .zero "device"
      lastDPSUpdateTime := stored .zero "1" }

theorem init_startThroughDps : init startThroughDps start = some (.ok, startedThroughDps) := by
  decide +kernel

theorem isNew_startedThroughDps : IsNew reassignment startedThroughDps := by
  unfold IsNew
  decide +kernel

/-- The hub does not answer. -/
def unansweredCall : RenewAnswer :=
  { succeedingCall reassignment with device := ⟨⟨true, none, true⟩, true⟩ }

/-- There is no memory for the answer of DPS. -/
def unreceivedCall : RenewAnswer :=
  { succeedingCall reassignment with dps := ⟨false, true, none, true⟩ }

theorem renew_unreceivedCall :
    renew startedThroughDps unreceivedCall = some (false, startedThroughDps) := rfl

theorem not_storesTimeOf_unreceivedCall (R : Assignment) (s : LocalConfiguration) :
    ¬ StoresTimeOf R s unreceivedCall := by
  rintro ⟨parsed, -, -, -, -, hreceives, -⟩
  exact absurd hreceives.bufferNew (by decide)

/-- Two renewals without memory, and the device can still be told of its new hub. -/
theorem renewal_retryable_iff_unreceived :
    Throughout renew (RetrySucceeds reassignment) startedThroughDps [unreceivedCall] :=
  (renewal_retryable_iff init_startThroughDps rfl .start reassignment
    isNew_startedThroughDps unreceivedCall renew_unreceivedCall [unreceivedCall]).mpr
    ⟨not_storesTimeOf_unreceivedCall _ _, not_storesTimeOf_unreceivedCall _ _, fun _ _ _ => trivial⟩

/-- **A renewal that cannot be repeated**: the hub has not answered once, and the same response of DPS
is then taken for old. -/
theorem failed_renewal_not_retryable :
    init startThroughDps start = some (.ok, startedThroughDps)
      ∧ IsNew reassignment startedThroughDps
      ∧ ∃ s₁, renew startedThroughDps unansweredCall = some (false, s₁)
      ∧ CallSucceeds reassignment "" (succeedingCall reassignment)
      ∧ (renew s₁ (succeedingCall reassignment)).map Prod.fst = some false := by
  have hruns : (renew startedThroughDps unansweredCall).map Prod.fst = some false
      ∧ ((renew startedThroughDps unansweredCall).bind
        fun r => (renew r.2 (succeedingCall reassignment)).map Prod.fst) = some false := by
    decide +kernel
  obtain ⟨⟨result, s₁⟩, hr, rfl⟩ := Option.map_eq_some_iff.mp hruns.1
  refine ⟨init_startThroughDps, isNew_startedThroughDps, s₁, hr, succeedingCall_succeeds _, ?_⟩
  have hretry := hruns.2
  rwa [hr, Option.bind_some] at hretry

end LocalConfiguration

end SecurityAgent
