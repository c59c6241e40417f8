import SecurityAgent.Auth.LocalConfig

/-!
# Where a `NULL` pointer is measured

Members of the configuration are read one by one, and whether all of them could be
read is looked at only at the end. Three times a pointer is used regardless. The
identity is compared before that. Storing the DPS details may fail, which nobody
looks at, and the request to DPS measures a content that has never been written.
And once an initialization has seen the identity of DPS, a later one stores the
DPS details whatever its own identity is.
-/

namespace SecurityAgent

open Utils

namespace AuthenticationManager

/-- A text is taken for a name. -/
def Matches (text name : String) : Prop :=
  unsafeAreStringsEqual (some text) (some name) true = some true

instance (text name : String) : Decidable (Matches text name) :=
  inferInstanceAs (Decidable (_ = _))

theorem unsafeAreStringsEqual_some (text name : String) :
    unsafeAreStringsEqual (some text) (some name) true = some (decide (Matches text name)) := by
  simp [Matches, unsafeAreStringsEqual]

/-! ## Shared properties and keys -/

/-- The manager has a key to sign its requests with. -/
def HasKey (am : AuthenticationManager) : Prop :=
  am.sharedAccessKey ≠ none ∨ am.certificate ≠ none

theorem getHostNameFromDPS_of_hasKey {am : AuthenticationManager} (h : HasKey am) (o : DpsAnswer) :
    am.getHostNameFromDPS o = am.getHostNameFromDPSService o := if_pos h

theorem getHostNameFromDPS_of_no_key {am : AuthenticationManager} (h : ¬ HasKey am)
    (o : DpsAnswer) : am.getHostNameFromDPS o = some (false, am) := if_neg h

/-- What `AuthenticationManager_InitSharedProperties` leaves alone. -/
structure SameKeys (am am' : AuthenticationManager) : Prop where
  sharedAccessKey : am'.sharedAccessKey = am.sharedAccessKey
  certificate : am'.certificate = am.certificate
  dpsRequestContent : am'.dpsRequestContent = am.dpsRequestContent

/-- With two strings it comes to an end. -/
theorem initSharedProperties_total (am : AuthenticationManager) (hostName deviceId : String) :
    ∃ result am', am.initSharedProperties (some hostName) (some deviceId) = some (result, am')
      ∧ SameKeys am am' := by
  simp only [initSharedProperties, copyString_eq]
  split
  · exact ⟨_, _, rfl, rfl, rfl, rfl⟩
  · split
    · exact ⟨_, _, rfl, rfl, rfl, rfl⟩
    · exact ⟨_, _, rfl, rfl, rfl, rfl⟩

/-- With two empty strings, which is how it is called for DPS, it succeeds. -/
theorem initSharedProperties_empty (am : AuthenticationManager) :
    ∃ am', am.initSharedProperties (some "") (some "") = some (true, am') ∧ SameKeys am am' :=
  ⟨_, rfl, rfl, rfl, rfl⟩

end AuthenticationManager

namespace LocalConfiguration

open AuthenticationManager

/-- With all its strings there, reading the key comes to an end. -/
theorem initKey_total (o : KeyAnswer) (am : AuthenticationManager)
    (authenticationMethod filePath hostName deviceId : String) :
    ∃ r, initKey o am (some authenticationMethod) (some filePath) (some hostName) (some deviceId)
      = some r := by
  unfold initKey
  rw [unsafeAreStringsEqual_some, unsafeAreStringsEqual_some]
  by_cases hsas : Matches authenticationMethod LOCAL_CONFIG_AUTHENTICATION_SAS_TOKEN
  · simp only [hsas, decide_true, initFromSharedAccessKey]
    split
    · exact ⟨_, rfl⟩
    · split
      · exact ⟨_, rfl⟩
      · rename_i key _
        obtain ⟨result, am', hshared, -⟩ := initSharedProperties_total
          { am with sharedAccessKey := some (cString (key.toList.takeWhile (· ≠ '\n'))) }
          hostName deviceId
        rw [hshared]
        cases result <;> exact ⟨_, rfl⟩
  by_cases hcert : Matches authenticationMethod
      LOCAL_CONFIG_AUTHENTICATION_SELF_SIGNED_CERTIFICATE
  · simp only [hsas, hcert, decide_true, decide_false, initFromCertificate]
    rcases loadFromFile o filePath with ⟨loaded, certificate, privateKey⟩
    cases loaded with
    | false => exact ⟨_, rfl⟩
    | true =>
        obtain ⟨result, am', hshared, -⟩ := initSharedProperties_total
          { am with certificate := certificate, certificatePrivateKey := privateKey }
          hostName deviceId
        simp only [hshared]
        cases result <;> exact ⟨_, rfl⟩
  · simp only [hsas, hcert, decide_false]
    exact ⟨_, rfl⟩

/-- The method of authentication gives the manager a key. -/
def KeyLoads (o : KeyAnswer) (authenticationMethod filePath : String) : Prop :=
  if Matches authenticationMethod LOCAL_CONFIG_AUTHENTICATION_SAS_TOKEN then
    o.malloc = true ∧ o.keyFile ≠ none
  else Matches authenticationMethod LOCAL_CONFIG_AUTHENTICATION_SELF_SIGNED_CERTIFICATE
    ∧ (loadFromFile o filePath).1 = true ∧ (loadFromFile o filePath).2.1 ≠ none

/-- How the key is read for DPS, by a manager that has none yet. -/
theorem initKey_dps_cases {am : AuthenticationManager} (hkey : ¬ HasKey am) (o : KeyAnswer)
    (authenticationMethod filePath : String) :
    ∃ result am', initKey o am (some authenticationMethod) (some filePath) (some "") (some "")
        = some (result, am')
      ∧ (result = true → am'.dpsRequestContent = am.dpsRequestContent)
      ∧ (result = true ∧ HasKey am' ↔ KeyLoads o authenticationMethod filePath) := by
  unfold initKey KeyLoads
  rw [unsafeAreStringsEqual_some, unsafeAreStringsEqual_some]
  by_cases hsas : Matches authenticationMethod LOCAL_CONFIG_AUTHENTICATION_SAS_TOKEN
  · simp only [hsas, decide_true, if_true, initFromSharedAccessKey]
    by_cases hmalloc : o.malloc = false
    · simp [hmalloc]
    rw [if_neg hmalloc]
    cases hfile : o.keyFile with
    | none => simp
    | some key =>
        obtain ⟨am', hshared, hsame⟩ := initSharedProperties_empty
          { am with sharedAccessKey := some (cString (key.toList.takeWhile (· ≠ '\n'))) }
        refine ⟨true, am', by simp only [hshared], fun _ => hsame.dpsRequestContent, ?_⟩
        simp [HasKey, hsame.sharedAccessKey, Bool.not_eq_false _ ▸ hmalloc]
  by_cases hcert : Matches authenticationMethod
      LOCAL_CONFIG_AUTHENTICATION_SELF_SIGNED_CERTIFICATE
  · simp only [hsas, hcert, decide_true, decide_false, if_false, true_and, initFromCertificate]
    rcases hload : loadFromFile o filePath with ⟨loaded, certificate, privateKey⟩
    cases loaded with
    | false => simp
    | true =>
        obtain ⟨am', hshared, hsame⟩ := initSharedProperties_empty
          { am with certificate := certificate, certificatePrivateKey := privateKey }
        refine ⟨true, am', by simp [hshared], fun _ => hsame.dpsRequestContent, ?_⟩
        have hnone : am.sharedAccessKey = none := by
          by_contra h
          exact hkey (Or.inl h)
        simp [HasKey, hsame.sharedAccessKey, hsame.certificate, hnone]
  · simp only [hsas, hcert, decide_false, if_false, false_and, iff_false]
    exact ⟨false, am, rfl, by simp, by simp⟩

end LocalConfiguration

namespace AuthenticationManager

/-! ## The DPS details -/

/-- The two texts fit their arrays, and there is memory for what is made of them. -/
structure DetailsFit (o : DetailsAnswer) (idScope registrationId : String) : Prop where
  idScope : Fits idScope
  registrationId : Fits registrationId
  dpsRelativeUrl : o.dpsRelativeUrl = true
  sasTokenScope : o.sasTokenScope = true
  dpsRequestContent : o.dpsRequestContent = true

theorem length_text_stored_zero (s : String) :
    (stored .zero s).text.length ≤ (UInt32.ofNat (s.length + 1)).toNat := by
  unfold stored CharArray.copyString
  by_cases h : MAX_BUFF < (UInt32.ofNat (s.length + 1)).toNat
  · rw [if_pos h]
    exact Nat.zero_le _
  · rw [if_neg h]
    refine Nat.le_trans (CharArray.length_text_overwrite_zero ?_) ?_
    · rw [List.length_take]
      omega
    · rw [List.length_take]
      omega

theorem length_registrationApi (idScope registrationId : String) :
    (registrationApi idScope registrationId).length + 4
      = REGISTRATION_API.length + idScope.length + registrationId.length := by
  have h : REGISTRATION_API.length
      = "/".length + "/registrations/".length + "?api-version=2019-03-31".length + 4 := by
    decide +kernel
  simp only [registrationApi, String.length_append]
  omega

/-- A text that a format makes of one string. -/
theorem length_format {fmt front back : String} (s : String)
    (h : fmt.length = front.length + back.length + 2) :
    (front ++ s ++ back).length + 2 = fmt.length + s.length := by
  rw [String.length_append, String.length_append]
  omega

theorem length_registrationBody (registrationId : String) :
    (registrationBody registrationId).length + 2
      = REGISTRATION_BODY.length + registrationId.length :=
  length_format registrationId (by decide +kernel)

/-- The room for a text is enough for its format with any two strings that fit. -/
theorem concatenateToString_of_fits (fmt text : String) {idScope registrationId : String}
    (hscope : Fits idScope) (hid : Fits registrationId)
    (hfmt : 0 < fmt.length ∧ fmt.length ≤ 1000)
    (htext : text.length + 2 ≤ fmt.length + (UInt32.ofNat (idScope.length + 1)).toNat
      + (UInt32.ofNat (registrationId.length + 1)).toNat) :
    ∃ rest, Utils.concatenateToString ""
      (UInt32.ofNat (fmt.length + (registrationId.length + idScope.length + 1))).toNat text
        = some (text, rest) := by
  simp only [Fits, MAX_BUFF, UInt32.toNat_ofNat'] at hscope hid htext ⊢
  unfold Utils.concatenateToString
  rw [if_neg (by omega), String.empty_append]
  exact ⟨_, rfl⟩

/-- So the texts are written whenever their parts fit. -/
theorem dpsTexts_of_fits {am : AuthenticationManager} {idScope registrationId : String}
    (hkey : am.sharedAccessKey = none) (hscope : Fits idScope) (hid : Fits registrationId)
    (hidScope : am.idScope = stored .zero idScope)
    (hregistrationId : am.registrationId = stored .zero registrationId) :
    ∃ texts, am.dpsTexts idScope registrationId = some texts := by
  have hlen := length_text_stored_zero idScope
  have hlen' := length_text_stored_zero registrationId
  have hurlLen := length_registrationApi am.idScope.text am.registrationId.text
  have hbodyLen := length_registrationBody am.registrationId.text
  rw [hidScope, hregistrationId] at hurlLen
  rw [hregistrationId] at hbodyLen
  obtain ⟨rest, hurl⟩ := concatenateToString_of_fits REGISTRATION_API
    (registrationApi (stored .zero idScope).text (stored .zero registrationId).text) hscope hid
    (by decide +kernel) (by omega)
  obtain ⟨rest', hbody⟩ := concatenateToString_of_fits REGISTRATION_BODY
    (registrationBody (stored .zero registrationId).text) hscope hid (by decide +kernel) (by omega)
  unfold dpsTexts
  simp only [hidScope, hregistrationId, hurl, hbody, hkey, if_true, Option.map_some]
  exact ⟨_, rfl⟩

/-- The content of the request is there exactly if the details could be stored. -/
theorem setDPSDetails_init (o : DetailsAnswer) (idScope registrationId : String) :
    ∃ result am', init.setDPSDetails o (some idScope) (some registrationId) = some (result, am')
      ∧ am'.sharedAccessKey = none ∧ am'.certificate = none
      ∧ (am'.dpsRequestContent ≠ none ↔ DetailsFit o idScope registrationId) := by
  simp only [setDPSDetails, copyString_eq]
  by_cases hscope : Fits idScope
  swap
  · rw [if_pos (decide_eq_false hscope)]
    exact ⟨_, _, rfl, rfl, rfl, fun h => absurd rfl h, fun h => absurd h.idScope hscope⟩
  rw [if_neg (by simp [hscope])]
  by_cases hrest : decide (Fits registrationId) = false ∨ o.dpsRelativeUrl = false
      ∨ o.sasTokenScope = false ∨ o.dpsRequestContent = false
  · rw [if_pos hrest]
    refine ⟨_, _, rfl, rfl, rfl, fun h => absurd rfl h, fun h => ?_⟩
    simp [h.registrationId, h.dpsRelativeUrl, h.sasTokenScope, h.dpsRequestContent] at hrest
  rw [if_neg hrest]
  simp only [not_or, decide_eq_false_iff_not, not_not, Bool.not_eq_false] at hrest
  obtain ⟨hid, hurl, hsas, hcontent⟩ := hrest
  let am' : AuthenticationManager :=
    { init with idScope := stored .zero idScope, registrationId := stored .zero registrationId }
  obtain ⟨texts, htexts⟩ := dpsTexts_of_fits (rfl : am'.sharedAccessKey = none) hscope hid rfl rfl
  refine ⟨true, _, by
    rw [show (init.idScope : CharArray MAX_BUFF) = .zero from rfl,
      show (init.registrationId : CharArray MAX_BUFF) = .zero from rfl, htexts], rfl, rfl,
    fun _ => ⟨hscope, hid, hurl, hsas, hcontent⟩, fun _ => Option.some_ne_none _⟩

end AuthenticationManager

namespace LocalConfiguration

open AuthenticationManager JsonObjectReader

/-! ## Through DPS -/

/-- The request to DPS is made. -/
def MakesRequest (o : AuthenticationAnswer) (authenticationMethod filePath : String) : Prop :=
  KeyLoads o.key authenticationMethod filePath
    ∧ o.renew.dps.bufferNew = true ∧ o.renew.dps.scopeMalloc = true

theorem getHostNameFromDPS_isSome (o : DpsAnswer) (am : AuthenticationManager) :
    (am.getHostNameFromDPS o).isSome = true
      ↔ (HasKey am ∧ o.bufferNew = true ∧ o.scopeMalloc = true → am.dpsRequestContent ≠ none) := by
  by_cases hkey : HasKey am
  swap
  · rw [getHostNameFromDPS_of_no_key hkey]
    exact ⟨fun _ h => absurd h.1 hkey, fun _ => rfl⟩
  rw [getHostNameFromDPS_of_hasKey hkey, getHostNameFromDPSService]
  by_cases hbuffers : o.bufferNew = false ∨ o.scopeMalloc = false
  · rw [if_pos hbuffers]
    refine ⟨fun _ h => ?_, fun _ => rfl⟩
    simp [h.2.1, h.2.2] at hbuffers
  rw [if_neg hbuffers]
  simp only [not_or, Bool.not_eq_false] at hbuffers
  cases hcontent : am.dpsRequestContent with
  | none => exact ⟨fun h => by simp [strlen] at h, fun h => absurd rfl (h ⟨hkey, hbuffers⟩)⟩
  | some content =>
      refine ⟨fun _ _ => Option.some_ne_none _, fun _ => ?_⟩
      simp only [strlen]
      split
      · rfl
      · split <;> rfl

theorem initAuthenticationThroughDps_isSome (o : AuthenticationAnswer) (s : LocalConfiguration)
    (idScope registrationId authenticationMethod filePath : String) :
    (initAuthenticationThroughDps o s (some idScope) (some registrationId)
        (some authenticationMethod) (some filePath)).isSome = true
      ↔ (MakesRequest o authenticationMethod filePath
          → DetailsFit o.details idScope registrationId) := by
  obtain ⟨result, am, hdetails, hshared, hcert, hcontent⟩ :=
    setDPSDetails_init o.details idScope registrationId
  have hkey : ¬ HasKey am := fun h => h.elim (absurd hshared) (absurd hcert)
  obtain ⟨loaded, am', hinit, hsame, hloads⟩ :=
    initKey_dps_cases hkey o.key authenticationMethod filePath
  simp only [initAuthenticationThroughDps, hdetails, hinit, MakesRequest, ← hloads, ← hcontent]
  cases loaded with
  | false => simp
  | true =>
      have hdps := getHostNameFromDPS_isSome o.renew.dps am'
      rw [hsame rfl] at hdps
      simp only [true_and]
      rw [← hdps]
      cases am'.getHostNameFromDPS o.renew.dps <;> rfl

/-! ## The credentials -/

/-- A member of the configuration is there, and not empty. -/
def Configured (jsonReader : JsonObjectReader) (key value : String) : Prop :=
  readJsonStringConfig jsonReader key = (true, some value)

theorem configured_of_read {jsonReader : JsonObjectReader} {key : String} {pointer : Option String}
    (h : readJsonStringConfig jsonReader key = (true, pointer)) :
    ∃ value, pointer = some value ∧ Configured jsonReader key value := by
  cases pointer with
  | none =>
      unfold readJsonStringConfig at h
      split at h <;> simp at h
  | some value => exact ⟨value, rfl, h⟩

theorem readJsonStringConfig_snd_eq_none {jsonReader : JsonObjectReader} {key : String} :
    (readJsonStringConfig jsonReader key).2 = none
      ↔ ¬ ∃ value, jsonReader.readCString key = .ok value := by
  unfold readJsonStringConfig
  cases jsonReader.readCString key <;> simp

/-- The authentication object is complete, and its identity is that of DPS. -/
structure ThroughDps (jsonReader : JsonObjectReader)
    (authenticationMethod filePath idScope registrationId : String) : Prop where
  readsMethod :
    Configured jsonReader LOCAL_CONFIG_AUTHENTICATION_AUTHENTICATION_METHOD authenticationMethod
  readsIdentity : ∃ identity, Configured jsonReader LOCAL_CONFIG_AUTHENTICATION_IDENTITY identity
    ∧ Matches identity LOCAL_CONFIG_AUTHENTICATION_IDENTITY_VALUE_DPS
  readsPath : Configured jsonReader LOCAL_CONFIG_AUTHENTICATION_FILE_PATH filePath
  readsDps : ∃ inner, jsonReader.stepIn LOCAL_CONFIG_AUTHENTICATION_DPS = .ok inner
    ∧ Configured inner LOCAL_CONFIG_AUTHENTICATION_DPS_IDSCOPE idScope
    ∧ Configured inner LOCAL_CONFIG_AUTHENTICATION_DPS_REGISTRATION_ID registrationId

/-- The authentication object is complete, and its identity is another one. -/
structure ThroughHub (jsonReader : JsonObjectReader)
    (authenticationMethod identity filePath hostName deviceId : String) : Prop where
  readsMethod :
    Configured jsonReader LOCAL_CONFIG_AUTHENTICATION_AUTHENTICATION_METHOD authenticationMethod
  readsIdentity : Configured jsonReader LOCAL_CONFIG_AUTHENTICATION_IDENTITY identity
  notDps : ¬ Matches identity LOCAL_CONFIG_AUTHENTICATION_IDENTITY_VALUE_DPS
  readsPath : Configured jsonReader LOCAL_CONFIG_AUTHENTICATION_FILE_PATH filePath
  readsHost : Configured jsonReader LOCAL_CONFIG_AUTHENTICATION_HOST_NAME hostName
  readsDevice : Configured jsonReader LOCAL_CONFIG_AUTHENTICATION_DEVICE_ID deviceId

/-- Reading stops at an identity that is not a string, and nowhere else. -/
theorem readCredentials_eq_none {jsonReader : JsonObjectReader} {useDps : Bool} :
    readCredentials jsonReader useDps = none
      ↔ ¬ ∃ identity, jsonReader.readCString LOCAL_CONFIG_AUTHENTICATION_IDENTITY = .ok identity := by
  rw [← readJsonStringConfig_snd_eq_none]
  rcases h : readJsonStringConfig jsonReader LOCAL_CONFIG_AUTHENTICATION_IDENTITY with
    ⟨readIdentity, identity⟩
  simp only [readCredentials, h]
  cases identity with
  | none => simp [unsafeAreStringsEqual]
  | some identity =>
      rw [unsafeAreStringsEqual_some]
      cases decide (Matches identity LOCAL_CONFIG_AUTHENTICATION_IDENTITY_VALUE_DPS) <;> simp

/-- With the identity of DPS, what has been read. -/
structure CredentialsOfDps (c : Credentials)
    (authenticationMethod filePath idScope registrationId : String) : Prop where
  useDps : c.useDps = true
  authenticationMethod : c.authenticationMethod = some authenticationMethod
  filePath : c.filePath = some filePath
  idScope : c.idScope = some idScope
  registrationId : c.registrationId = some registrationId

/-- With another, what has been read. -/
structure CredentialsOfHub (c : Credentials) (useDps : Bool)
    (authenticationMethod identity filePath hostName deviceId : String) : Prop where
  useDps : c.useDps = useDps
  authenticationMethod : c.authenticationMethod = some authenticationMethod
  identity : c.identity = some identity
  filePath : c.filePath = some filePath
  idScope : c.idScope = none
  hostName : c.hostName = some hostName
  deviceId : c.deviceId = some deviceId

theorem readCredentials_of_throughDps {jsonReader : JsonObjectReader}
    {authenticationMethod filePath idScope registrationId : String}
    (h : ThroughDps jsonReader authenticationMethod filePath idScope registrationId)
    (useDps : Bool) :
    ∃ c, readCredentials jsonReader useDps = some c ∧ c.parsed = true
      ∧ CredentialsOfDps c authenticationMethod filePath idScope registrationId := by
  obtain ⟨hmethod, ⟨identity, hidentity, hdps⟩, hpath, inner, hin, hscope, hid⟩ := h
  unfold Configured at hmethod hidentity hpath hscope hid
  have hout : inner.stepOut = .ok jsonReader :=
    stepOut_of_stepIn (by decide) hin
  simp only [readCredentials, hmethod, hidentity, hpath, unsafeAreStringsEqual_some, hdps,
    decide_true, hin, hscope, hid, hout]
  exact ⟨_, rfl, rfl, rfl, rfl, rfl, rfl, rfl⟩

theorem readCredentials_of_throughHub {jsonReader : JsonObjectReader}
    {authenticationMethod identity filePath hostName deviceId : String}
    (h : ThroughHub jsonReader authenticationMethod identity filePath hostName deviceId)
    (useDps : Bool) :
    ∃ c, readCredentials jsonReader useDps = some c ∧ c.parsed = true
      ∧ CredentialsOfHub c useDps authenticationMethod identity filePath hostName deviceId := by
  obtain ⟨hmethod, hidentity, hdps, hpath, hhost, hdevice⟩ := h
  unfold Configured at hmethod hidentity hpath hhost hdevice
  simp only [readCredentials, hmethod, hidentity, hpath, unsafeAreStringsEqual_some, hdps,
    decide_false, hhost, hdevice]
  exact ⟨_, rfl, rfl, rfl, rfl, rfl, rfl, rfl, rfl, rfl⟩

/-- Everything has been read only from an object that is complete. -/
theorem complete_of_parsed {jsonReader : JsonObjectReader} {useDps : Bool} {c : Credentials}
    (h : readCredentials jsonReader useDps = some c) (hparsed : c.parsed = true) :
    (∃ authenticationMethod filePath idScope registrationId,
        ThroughDps jsonReader authenticationMethod filePath idScope registrationId)
      ∨ ∃ authenticationMethod identity filePath hostName deviceId,
        ThroughHub jsonReader authenticationMethod identity filePath hostName deviceId := by
  unfold readCredentials at h
  rcases hmethod : readJsonStringConfig jsonReader
    LOCAL_CONFIG_AUTHENTICATION_AUTHENTICATION_METHOD with ⟨readMethod, method⟩
  rcases hidentity : readJsonStringConfig jsonReader LOCAL_CONFIG_AUTHENTICATION_IDENTITY with
    ⟨readIdentity, identity⟩
  rcases hpath : readJsonStringConfig jsonReader LOCAL_CONFIG_AUTHENTICATION_FILE_PATH with
    ⟨readPath, path⟩
  simp only [hmethod, hidentity, hpath] at h
  cases identity with
  | none => simp [unsafeAreStringsEqual] at h
  | some identity =>
  -- the identity decides which members are read after it
  rw [unsafeAreStringsEqual_some] at h
  by_cases hdps : Matches identity LOCAL_CONFIG_AUTHENTICATION_IDENTITY_VALUE_DPS
  · simp only [hdps, decide_true] at h
    cases hin : jsonReader.stepIn LOCAL_CONFIG_AUTHENTICATION_DPS with
    | error e =>
        simp only [hin] at h
        obtain rfl := Option.some.inj h
        simp at hparsed
    | ok inner =>
        simp only [hin] at h
        rcases hscope : readJsonStringConfig inner LOCAL_CONFIG_AUTHENTICATION_DPS_IDSCOPE with
          ⟨readScope, idScope⟩
        rcases hid : readJsonStringConfig inner
          LOCAL_CONFIG_AUTHENTICATION_DPS_REGISTRATION_ID with ⟨readId, registrationId⟩
        simp only [hscope, hid] at h
        obtain rfl := Option.some.inj h
        simp only [Bool.and_eq_true, and_true] at hparsed
        obtain ⟨⟨⟨⟨⟨rfl, rfl⟩, rfl⟩, rfl⟩, rfl⟩, -⟩ := hparsed
        obtain ⟨method, -, hmethod⟩ := configured_of_read hmethod
        obtain ⟨path, -, hpath⟩ := configured_of_read hpath
        obtain ⟨idScope, -, hscope⟩ := configured_of_read hscope
        obtain ⟨registrationId, -, hid⟩ := configured_of_read hid
        exact Or.inl ⟨method, path, idScope, registrationId, hmethod, ⟨identity, hidentity, hdps⟩,
          hpath, inner, hin, hscope, hid⟩
  · simp only [hdps, decide_false] at h
    rcases hhost : readJsonStringConfig jsonReader LOCAL_CONFIG_AUTHENTICATION_HOST_NAME with
      ⟨readHost, host⟩
    rcases hdevice : readJsonStringConfig jsonReader LOCAL_CONFIG_AUTHENTICATION_DEVICE_ID with
      ⟨readDevice, device⟩
    simp only [hhost, hdevice] at h
    obtain rfl := Option.some.inj h
    simp only [Bool.and_eq_true] at hparsed
    obtain ⟨⟨⟨⟨rfl, rfl⟩, rfl⟩, rfl⟩, rfl⟩ := hparsed
    obtain ⟨method, -, hmethod⟩ := configured_of_read hmethod
    obtain ⟨path, -, hpath⟩ := configured_of_read hpath
    obtain ⟨host, -, hhost⟩ := configured_of_read hhost
    obtain ⟨device, -, hdevice⟩ := configured_of_read hdevice
    exact Or.inr ⟨method, identity, path, host, device, hmethod, hidentity, hdps, hpath, hhost,
      hdevice⟩

theorem initFromCredentials_of_dps {c : Credentials}
    {authenticationMethod filePath idScope registrationId : String}
    (hc : CredentialsOfDps c authenticationMethod filePath idScope registrationId)
    (o : AuthenticationAnswer) (s : LocalConfiguration) :
    (initFromCredentials o { s with useDps := c.useDps } c).isSome = true
      ↔ (MakesRequest o authenticationMethod filePath
          → DetailsFit o.details idScope registrationId) := by
  rw [← initAuthenticationThroughDps_isSome o { s with useDps := true }]
  simp only [initFromCredentials, hc.useDps, hc.authenticationMethod, hc.filePath, hc.idScope,
    hc.registrationId, if_true]
  rcases initAuthenticationThroughDps o { s with useDps := true } (some idScope)
    (some registrationId) (some authenticationMethod) (some filePath) with
    _ | ⟨result, s'⟩
  · rfl
  · cases result <;> rfl

/-- Without DPS every string is there. -/
theorem initFromCredentials_of_hub {c : Credentials}
    {authenticationMethod identity filePath hostName deviceId : String} {useDps : Bool}
    (hc : CredentialsOfHub c useDps authenticationMethod identity filePath hostName deviceId)
    (o : AuthenticationAnswer) (s : LocalConfiguration) :
    (initFromCredentials o { s with useDps := c.useDps } c).isSome = true ↔ useDps = false := by
  simp only [initFromCredentials, hc.useDps, hc.authenticationMethod, hc.identity, hc.filePath,
    hc.idScope, hc.hostName, hc.deviceId, unsafeAreStringsEqual_some]
  cases useDps with
  | true => simp [initAuthenticationThroughDps, setDPSDetails]
  | false =>
      simp only [Bool.false_eq_true, if_false, iff_true]
      by_cases hdevice : Matches identity LOCAL_CONFIG_AUTHENTICATION_IDENTITY_VALUE_DEVICE
      · obtain ⟨⟨result, am⟩, hkey⟩ :=
          initKey_total o.key .init authenticationMethod filePath hostName deviceId
        simp only [hdevice, decide_true, initAuthenticationThroughDevice, hkey]
        cases result <;> rfl
      by_cases hmodule : Matches identity
          LOCAL_CONFIG_AUTHENTICATION_IDENTITY_VALUE_SECURITY_MODULE
      · simp only [hdevice, hmodule, decide_true, decide_false]
        cases decide (Matches authenticationMethod LOCAL_CONFIG_AUTHENTICATION_SAS_TOKEN) <;> rfl
      · simp only [hdevice, hmodule, decide_false]
        rfl

/-- What keeps the three pointers from being measured while they are `NULL`. -/
structure Guarded (o : AuthenticationAnswer) (useDps : Bool) (jsonReader : JsonObjectReader) :
    Prop where
  /-- The identity is a string. -/
  identity : ∃ identity, jsonReader.readCString LOCAL_CONFIG_AUTHENTICATION_IDENTITY = .ok identity
  /-- No earlier initialization has seen the identity of DPS if this one has another. -/
  notLeftOver : ∀ authenticationMethod identity filePath hostName deviceId,
    ThroughHub jsonReader authenticationMethod identity filePath hostName deviceId →
      useDps = false
  /-- The details of DPS can be stored if the request is made. -/
  details : ∀ authenticationMethod filePath idScope registrationId,
    ThroughDps jsonReader authenticationMethod filePath idScope registrationId →
      MakesRequest o authenticationMethod filePath → DetailsFit o.details idScope registrationId

theorem initConnectionString_isSome (o : AuthenticationAnswer) (s : LocalConfiguration)
    (jsonReader : JsonObjectReader) :
    (initConnectionString o s jsonReader).isSome = true
      ↔ ∀ inner, jsonReader.stepIn LOCAL_CONFIG_AUTHENTICATION = .ok inner →
          Guarded o s.useDps inner := by
  unfold initConnectionString
  cases hin : jsonReader.stepIn LOCAL_CONFIG_AUTHENTICATION with
  | error e => simp
  | ok inner =>
      simp only [Except.ok.injEq, forall_eq']
      constructor
      · intro h
        -- a run that returns got past each of the three
        have hread : ∃ identity, inner.readCString LOCAL_CONFIG_AUTHENTICATION_IDENTITY
            = .ok identity := by
          by_contra hread
          rw [readCredentials_eq_none.mpr hread] at h
          cases h
        refine ⟨hread, fun _ _ _ _ _ hhub => ?_, fun _ _ _ _ hdps => ?_⟩
        · obtain ⟨c, hc, hparsed, hcredentials⟩ := readCredentials_of_throughHub hhub s.useDps
          simp only [hc, hparsed, Bool.true_eq_false, if_false, Option.isSome_map] at h
          exact (initFromCredentials_of_hub hcredentials o s).mp h
        · obtain ⟨c, hc, hparsed, hcredentials⟩ := readCredentials_of_throughDps hdps s.useDps
          simp only [hc, hparsed, Bool.true_eq_false, if_false, Option.isSome_map] at h
          exact (initFromCredentials_of_dps hcredentials o s).mp h
      · intro h
        cases hc : readCredentials inner s.useDps with
        | none => exact absurd h.identity (readCredentials_eq_none.mp hc)
        | some c =>
            by_cases hparsed : c.parsed = false
            · simp only [if_pos hparsed]
              rfl
            simp only [if_neg hparsed, Option.isSome_map]
            rcases complete_of_parsed hc (Bool.not_eq_false _ ▸ hparsed) with
              ⟨_, _, _, _, hdps⟩ | ⟨_, _, _, _, _, hhub⟩
            · obtain ⟨c', hc', -, hcredentials⟩ := readCredentials_of_throughDps hdps s.useDps
              obtain rfl := Option.some.inj (hc.symm.trans hc')
              exact (initFromCredentials_of_dps hcredentials o s).mpr (h.details _ _ _ _ hdps)
            · obtain ⟨c', hc', -, hcredentials⟩ := readCredentials_of_throughHub hhub s.useDps
              obtain rfl := Option.some.inj (hc.symm.trans hc')
              exact (initFromCredentials_of_hub hcredentials o s).mpr
                (h.notLeftOver _ _ _ _ _ hhub)

/-! ## The whole configuration -/

/-- What stands before the authentication object is all read and copied. -/
structure ReadsSettings (o : InitializationAnswer) (jsonReader : JsonObjectReader) : Prop where
  agentId : ∃ value, Configured jsonReader LOCAL_CONFIG_AGENT_ID value
  agentIdMalloc : o.agentIdMalloc = true
  triggeredEventsInterval : ∃ time, jsonReader.readTimeInMilliseconds
    LOCAL_CONFIG_AGENT_ID_TRIGGERED_EVENTS_INTERVAL = .ok time
  connectionTimeout :
    ∃ time, jsonReader.readTimeInMilliseconds LOCAL_CONFIG_CONNECTION_TIMEOUT = .ok time
  objectName : ∃ value, Configured jsonReader LOCAL_CONFIG_REMOTE_CONFIGURATION_OBJECT_NAME value
  objectNameMalloc : o.objectNameMalloc = true

/-- The reader that `LocalConfiguration_Init` gets to the authentication object with. -/
def ReachesAuthentication (o : InitializationAnswer) (jsonReader : JsonObjectReader) : Prop :=
  o.executableDirectory = true ∧ o.realloc = true ∧ ∃ outer configuration,
    JsonObjectReader.initFromString o.readerMalloc o.parsed = .ok outer
      ∧ outer.stepIn LOCAL_CONFIG_CONFIGURATION = .ok configuration
      ∧ ReadsSettings o configuration
      ∧ configuration.stepIn LOCAL_CONFIG_AUTHENTICATION = .ok jsonReader

theorem finish_isSome (o : InitializationAnswer) (jsonReader : JsonObjectReader)
    (s : LocalConfiguration) :
    (initBody.finish o jsonReader s).isSome
      = (initConnectionString o.authentication s jsonReader).isSome := by
  unfold initBody.finish
  rcases initConnectionString o.authentication s jsonReader with _ | ⟨result, s', inner⟩
  · rfl
  · cases result with
    | exception => rfl
    | ok =>
        simp only
        cases inner.stepOut <;> rfl

theorem readSettings_isSome (o : InitializationAnswer) (s : LocalConfiguration)
    (jsonReader : JsonObjectReader) :
    (initBody.readSettings o s jsonReader).isSome = true
      ↔ (ReadsSettings o jsonReader → ∀ inner,
          jsonReader.stepIn LOCAL_CONFIG_AUTHENTICATION = .ok inner →
            Guarded o.authentication s.useDps inner) := by
  -- a setting that is missing stops the reading before the authentication object
  have hstops : ∀ {r : LocalConfigurationResult × LocalConfiguration},
      ¬ ReadsSettings o jsonReader → ((some r).isSome = true
        ↔ (ReadsSettings o jsonReader → ∀ inner,
            jsonReader.stepIn LOCAL_CONFIG_AUTHENTICATION = .ok inner →
              Guarded o.authentication s.useDps inner)) :=
    fun hno => ⟨fun _ h => absurd h hno, fun _ => rfl⟩
  unfold initBody.readSettings
  rcases hagent : readJsonStringConfig jsonReader LOCAL_CONFIG_AGENT_ID with ⟨_ | _, agentId⟩
  · exact hstops fun h => by
      obtain ⟨value, hvalue⟩ := h.agentId
      simp [Configured, hagent] at hvalue
  obtain ⟨agentId, rfl, hagent⟩ := configured_of_read hagent
  cases hcopy : o.agentIdMalloc with
  | false => exact hstops fun h => absurd h.agentIdMalloc (by simp [hcopy])
  | true =>
  simp only [createStringCopy, Bool.true_eq_false, if_false]
  cases htriggered : jsonReader.readTimeInMilliseconds
      LOCAL_CONFIG_AGENT_ID_TRIGGERED_EVENTS_INTERVAL with
  | error e =>
      exact hstops fun h => by
        obtain ⟨time, htime⟩ := h.triggeredEventsInterval
        simp [htriggered] at htime
  | ok triggered =>
  simp only
  cases htimeout : jsonReader.readTimeInMilliseconds LOCAL_CONFIG_CONNECTION_TIMEOUT with
  | error e =>
      exact hstops fun h => by
        obtain ⟨time, htime⟩ := h.connectionTimeout
        simp [htimeout] at htime
  | ok timeout =>
  simp only
  rcases hname : readJsonStringConfig jsonReader LOCAL_CONFIG_REMOTE_CONFIGURATION_OBJECT_NAME with
    ⟨_ | _, name⟩
  · exact hstops fun h => by
      obtain ⟨value, hvalue⟩ := h.objectName
      simp [Configured, hname] at hvalue
  obtain ⟨name, rfl, hname⟩ := configured_of_read hname
  cases hcopy' : o.objectNameMalloc with
  | false => exact hstops fun h => absurd h.objectNameMalloc (by simp [hcopy'])
  | true =>
      simp only [Bool.true_eq_false, if_false]
      rw [finish_isSome, initConnectionString_isSome]
      exact ⟨fun h _ => h, fun h => h ⟨⟨agentId, hagent⟩, hcopy, ⟨triggered, htriggered⟩,
        ⟨timeout, htimeout⟩, ⟨name, hname⟩, hcopy'⟩⟩

theorem initBody_isSome (o : InitializationAnswer) (s : LocalConfiguration) :
    (initBody o s).isSome = true
      ↔ ∀ jsonReader, ReachesAuthentication o jsonReader → Guarded o.authentication s.useDps jsonReader := by
  unfold initBody
  by_cases hpath : o.executableDirectory = false ∨ o.realloc = false
  · rw [if_pos hpath]
    refine ⟨fun _ jsonReader h => ?_, fun _ => rfl⟩
    simp [h.1, h.2.1] at hpath
  rw [if_neg hpath]
  simp only [not_or, Bool.not_eq_false] at hpath
  cases houter : JsonObjectReader.initFromString o.readerMalloc o.parsed with
  | error e =>
      refine ⟨fun _ jsonReader ⟨_, _, outer, _, h, _⟩ => ?_, fun _ => rfl⟩
      simp [houter] at h
  | ok outer =>
      simp only
      cases hconfiguration : outer.stepIn LOCAL_CONFIG_CONFIGURATION with
      | error e =>
          refine ⟨fun _ jsonReader ⟨_, _, outer', _, h, h', _⟩ => ?_, fun _ => rfl⟩
          obtain rfl := Except.ok.inj (houter.symm.trans h)
          simp [hconfiguration] at h'
      | ok configuration =>
          simp only
          rw [readSettings_isSome]
          constructor
          · rintro h jsonReader ⟨_, _, outer', configuration', houter', hin, hsettings, hauth⟩
            obtain rfl := Except.ok.inj (houter.symm.trans houter')
            obtain rfl := Except.ok.inj (hconfiguration.symm.trans hin)
            exact h hsettings jsonReader hauth
          · intro h hsettings inner hauth
            exact h inner ⟨hpath.1, hpath.2, outer, configuration, houter, hconfiguration,
              hsettings, hauth⟩

/-- The local configuration is initialized without a string function being given a `NULL` pointer
exactly if all three are kept from it. -/
theorem init_total_iff (o : InitializationAnswer) (s : LocalConfiguration) :
    (∃ result s', init o s = some (result, s'))
      ↔ ∀ jsonReader, ReachesAuthentication o jsonReader → Guarded o.authentication s.useDps jsonReader := by
  rw [← initBody_isSome]
  unfold init
  rcases initBody o s with _ | ⟨result, s'⟩
  · simp
  · cases result with
    | ok => exact ⟨fun _ => rfl, fun _ => ⟨_, _, rfl⟩⟩
    | exception => exact ⟨fun _ => rfl, fun _ => ⟨_, _, rfl⟩⟩

/-- A run in which nothing goes wrong, on a configuration with this authentication object. -/
def goodAnswer (authentication : List (String × Json)) : InitializationAnswer where
  executableDirectory := true
  realloc := true
  readerMalloc := true
  parsed := some (.object [(LOCAL_CONFIG_CONFIGURATION, .object
    [(LOCAL_CONFIG_AGENT_ID, .string "agent"),
     (LOCAL_CONFIG_AGENT_ID_TRIGGERED_EVENTS_INTERVAL, .string "PT1M"),
     (LOCAL_CONFIG_CONNECTION_TIMEOUT, .string "PT1M"),
     (LOCAL_CONFIG_REMOTE_CONFIGURATION_OBJECT_NAME, .string "conf"),
     (LOCAL_CONFIG_AUTHENTICATION, .object authentication)])])
  agentIdMalloc := true
  objectNameMalloc := true
  authentication :=
    { details := ⟨true, true, true⟩
      key := ⟨true, some "key", none⟩
      renew := ⟨⟨true, true, none, true⟩, ⟨⟨true, none, true⟩, true⟩⟩
      moduleKeyFile := none
      copyMalloc := true }

/-- **Without an identity a `NULL` pointer is measured.** -/
theorem init_measures_null :
    init (goodAnswer [(LOCAL_CONFIG_AUTHENTICATION_AUTHENTICATION_METHOD, .string "SasToken"),
      (LOCAL_CONFIG_AUTHENTICATION_FILE_PATH, .string "/key")]) start = none := by
  decide +kernel

end LocalConfiguration

end SecurityAgent
