import SecurityAgent.Twin.TwinConfiguration

/-!
# What a document says about the configuration

The reference decoding: every setting is looked up in the agent's object, by name
and on its own. No reader moves about in it, and it knows nothing of the order in
which the code asks.

Against it, each of the two passes over a document is one equation. The twin
settings are all read, and the pass succeeds when all were valid
(`runExtractConfiguration_eq`). The collectors' settings are committed when all
were valid; when it is only the last four that are not, the operational priority
has been normalised on the way (`setValues_eq`).
-/

namespace SecurityAgent

open JsonObjectReader TwinConfigurationUtils

/-- The setting is not invalid. -/
def Setting.Valid {α : Type} : Setting α → Prop
  | .invalid => False
  | _ => True

instance {α : Type} : DecidablePred (Setting.Valid (α := α)) := fun s =>
  match s with
  | .absent => isTrue trivial
  | .invalid => isFalse id
  | .value _ => isTrue trivial

/-- The value, if there is one. -/
def Setting.toOption {α : Type} : Setting α → Option α
  | .value a => some a
  | _ => none

/-- The words for a priority; case does not matter. -/
def priorityWord (s : String) : Option TwinConfigurationEventPriority :=
  [("high", TwinConfigurationEventPriority.high), ("low", .low), ("off", .off)].lookup
    (String.ofList (s.toList.map Char.toLower))

/-- A priority. -/
def asPriority : Decoder TwinConfigurationEventPriority := fun v => (asString v).bind priorityWord

/-- A setting whose kind refines another kind. -/
theorem settingOf_bind {α β : Type} {decode : Decoder α} {decode' : Decoder β} {f : α → Option β}
    (h : ∀ v, decode' v = (decode v).bind f) (o : Json.Members) (key : String) :
    settingOf decode' o key = match settingOf decode o key with
      | .absent => .absent
      | .invalid => .invalid
      | .value a => (match f a with
          | none => .invalid
          | some b => .value b) := by
  unfold settingOf
  cases o.lookup key with
  | none => rfl
  | some v =>
      cases v with
      | object members =>
          dsimp only
          cases members.lookup VALUE_KEY with
          | none => rfl
          | some w =>
              simp only [h]
              cases decode w <;> rfl
      | null | bool _ | number _ | string _ | array _ => rfl

/-! ## The reference -/

namespace Reference

open TwinConfiguration EventCollectors

/-- The object a document gives the agent, or that there is none to give it. -/
inductive Location where
  /-- The document cannot be used. -/
  | rejected
  /-- The agent's object is missing or null. -/
  | missing
  | found (object : Json.Members)

/-- The agent's object in the document `members`, under a name without dots. -/
def locate (objectName : String) (members : Json.Members) : Location :=
  match members.lookup objectName with
  | none => .missing
  | some .null => .missing
  | some (.object object) => .found object
  | some _ => .rejected

/-- The agent's object in a document: in its `"desired"` object when it is complete. -/
def location (objectName : String) (complete : Bool) : Json → Location
  | .object members =>
      if complete then
        match members.lookup "desired" with
        | some (.object desired) => locate objectName desired
        | _ => .rejected
      else locate objectName members
  | _ => .rejected

/-- The settings of the object; a missing one is empty. -/
def Location.object : Location → Json.Members
  | .found object => object
  | _ => []

/-- The twin settings are what they should be. -/
def ConfigurationDecodes (o : Json.Members) : Prop :=
  (settingOf asUInt32 o MAX_LOCAL_CACHE_SIZE_KEY).Valid
    ∧ (settingOf asUInt32 o MAX_MESSAGE_SIZE_KEY).Valid
    ∧ (settingOf asTime o HIGH_PRIORITY_MESSAGE_FREQUENCY_KEY).Valid
    ∧ (settingOf asTime o LOW_PRIORITY_MESSAGE_FREQUENCY_KEY).Valid
    ∧ (settingOf asTime o SNAPSHOT_FREQUENCY_KEY).Valid
    ∧ (settingOf asBool o BASELINE_CUSTOM_CHECKS_ENABLED_KEY).Valid
    ∧ (settingOf asString o BASELINE_CUSTOM_CHECKS_FILE_PATH_KEY).Valid
    ∧ (settingOf asString o BASELINE_CUSTOM_CHECKS_FILE_HASH_KEY).Valid

/-- The priorities are what they should be. -/
def PrioritiesDecode (o : Json.Members) : Prop :=
  (settingOf asPriority o PROCESS_CREATE_PRIORITY_KEY).Valid
    ∧ (settingOf asPriority o LISTENING_PORTS_PRIORITY_KEY).Valid
    ∧ (settingOf asPriority o SYSTEM_INFORMATION_PRIORITY_KEY).Valid
    ∧ (settingOf asPriority o LOCAL_USERS_PRIORITY_KEY).Valid
    ∧ (settingOf asPriority o LOGIN_PRIORITY_KEY).Valid
    ∧ (settingOf asPriority o CONNECTION_CREATE_PRIORITY_KEY).Valid
    ∧ (settingOf asPriority o FIREWALL_CONFIGURATION_PRIORITY_KEY).Valid
    ∧ (settingOf asPriority o BASELINE_PRIORITY_KEY).Valid
    ∧ (settingOf asPriority o DIAGNOSTIC_PRIORITY_KEY).Valid
    ∧ (settingOf asPriority o OPERATIONAL_EVENT_KEY).Valid

/-- The aggregation settings are what they should be. -/
def AggregationDecodes (o : Json.Members) : Prop :=
  (settingOf asBool o PROCESS_CREATE_AGGREGATION_ENABLED_KEY).Valid
    ∧ (settingOf asTime o PROCESS_CREATE_AGGREGATION_INTERVAL_KEY).Valid
    ∧ (settingOf asBool o CONNECTION_CREATE_AGGREGATION_ENABLED_KEY).Valid
    ∧ (settingOf asTime o CONNECTION_CREATE_AGGREGATION_INTERVAL_KEY).Valid

instance (o : Json.Members) : Decidable (ConfigurationDecodes o) :=
  inferInstanceAs (Decidable (_ ∧ _ ∧ _ ∧ _ ∧ _ ∧ _ ∧ _ ∧ _))

instance (o : Json.Members) : Decidable (PrioritiesDecode o) :=
  inferInstanceAs (Decidable (_ ∧ _ ∧ _ ∧ _ ∧ _ ∧ _ ∧ _ ∧ _ ∧ _ ∧ _))

instance (o : Json.Members) : Decidable (AggregationDecodes o) :=
  inferInstanceAs (Decidable (_ ∧ _ ∧ _ ∧ _))

/-- The twin settings an object gives. -/
def configuration (o : Json.Members) : TwinConfiguration where
  maxLocalCacheSize :=
    (settingOf asUInt32 o MAX_LOCAL_CACHE_SIZE_KEY).getD default.maxLocalCacheSize
  maxMessageSize := (settingOf asUInt32 o MAX_MESSAGE_SIZE_KEY).getD default.maxMessageSize
  lowPriorityMessageFrequency :=
    (settingOf asTime o LOW_PRIORITY_MESSAGE_FREQUENCY_KEY).getD
      default.lowPriorityMessageFrequency
  highPriorityMessageFrequency :=
    (settingOf asTime o HIGH_PRIORITY_MESSAGE_FREQUENCY_KEY).getD
      default.highPriorityMessageFrequency
  snapshotFrequency := (settingOf asTime o SNAPSHOT_FREQUENCY_KEY).getD default.snapshotFrequency
  baselineCustomChecksEnabled :=
    (settingOf asBool o BASELINE_CUSTOM_CHECKS_ENABLED_KEY).getD
      default.baselineCustomChecksEnabled
  baselineCustomChecksFilePath :=
    (settingOf asString o BASELINE_CUSTOM_CHECKS_FILE_PATH_KEY).toOption
  baselineCustomChecksFileHash :=
    (settingOf asString o BASELINE_CUSTOM_CHECKS_FILE_HASH_KEY).toOption

/-- The collectors' settings an object gives. -/
def priorities (o : Json.Members) : EventPriorities where
  processCreatePriority := (settingOf asPriority o PROCESS_CREATE_PRIORITY_KEY).getD
    defaultPriorities.processCreatePriority
  listeningPortsPriority := (settingOf asPriority o LISTENING_PORTS_PRIORITY_KEY).getD
    defaultPriorities.listeningPortsPriority
  systemInformationPriority := (settingOf asPriority o SYSTEM_INFORMATION_PRIORITY_KEY).getD
    defaultPriorities.systemInformationPriority
  localUsersPriority := (settingOf asPriority o LOCAL_USERS_PRIORITY_KEY).getD
    defaultPriorities.localUsersPriority
  loginPriority := (settingOf asPriority o LOGIN_PRIORITY_KEY).getD
    defaultPriorities.loginPriority
  connectionCreatePriority := (settingOf asPriority o CONNECTION_CREATE_PRIORITY_KEY).getD
    defaultPriorities.connectionCreatePriority
  firewallConfigurationPriority :=
    (settingOf asPriority o FIREWALL_CONFIGURATION_PRIORITY_KEY).getD
      defaultPriorities.firewallConfigurationPriority
  baselinePriority := (settingOf asPriority o BASELINE_PRIORITY_KEY).getD
    defaultPriorities.baselinePriority
  diagnostic := (settingOf asPriority o DIAGNOSTIC_PRIORITY_KEY).getD
    defaultPriorities.diagnostic
  operational := (settingOf asPriority o OPERATIONAL_EVENT_KEY).getD
    defaultPriorities.operational
  processCreateAggregationEnabled :=
    (settingOf asBool o PROCESS_CREATE_AGGREGATION_ENABLED_KEY).getD
      defaultPriorities.processCreateAggregationEnabled
  connectionCreateAggregationEnabled :=
    (settingOf asBool o CONNECTION_CREATE_AGGREGATION_ENABLED_KEY).getD
      defaultPriorities.connectionCreateAggregationEnabled
  processCreateAggregationInterval :=
    (settingOf asTime o PROCESS_CREATE_AGGREGATION_INTERVAL_KEY).getD
      defaultPriorities.processCreateAggregationInterval
  connectionCreateAggregationInterval :=
    (settingOf asTime o CONNECTION_CREATE_AGGREGATION_INTERVAL_KEY).getD
      defaultPriorities.connectionCreateAggregationInterval

/-- The statuses an object deserves, before the event collectors are asked. -/
def bundleStatus (o : Json.Members) : TwinConfigurationBundleStatus where
  maxLocalCacheSize := status (settingOf asUInt32 o MAX_LOCAL_CACHE_SIZE_KEY)
  maxMessageSize := status (settingOf asUInt32 o MAX_MESSAGE_SIZE_KEY)
  lowPriorityMessageFrequency := status (settingOf asTime o LOW_PRIORITY_MESSAGE_FREQUENCY_KEY)
  highPriorityMessageFrequency := status (settingOf asTime o HIGH_PRIORITY_MESSAGE_FREQUENCY_KEY)
  snapshotFrequency := status (settingOf asTime o SNAPSHOT_FREQUENCY_KEY)
  baselineCustomChecksEnabled := status (settingOf asBool o BASELINE_CUSTOM_CHECKS_ENABLED_KEY)
  baselineCustomChecksFilePath :=
    status (settingOf asString o BASELINE_CUSTOM_CHECKS_FILE_PATH_KEY)
  baselineCustomChecksFileHash :=
    status (settingOf asString o BASELINE_CUSTOM_CHECKS_FILE_HASH_KEY)
where
  status {α : Type} (s : Setting α) : TwinConfigurationStatus :=
    if s.Valid then .ok else .typeMismatch

end Reference

/-! ## The pass over the twin settings -/

namespace TwinConfiguration

open Reference

/-- The setting as the code extracts it: what cannot be read is left at zero. -/
def extracted {α β : Type} (found : α → β) (zero defaultValue : β) : Setting α → β
  | .absent => defaultValue
  | .invalid => zero
  | .value a => found a

/-- A result, once one more setting has been read. -/
def noting {α : Type} (setting : Setting α) (result : TwinConfigurationResult) :
    TwinConfigurationResult :=
  if setting.Valid then result else .parseException

section Extract

variable {γ : Type} {key : String} (hkey : '.' ∉ key.toList) (reader : JsonObjectReader)
  (bundle : TwinConfigurationBundleStatus) (result : TwinConfigurationResult)
  (record : TwinConfigurationStatus → TwinConfigurationBundleStatus →
    TwinConfigurationBundleStatus)

theorem extract_bind {α β : Type}
    {get : JsonObjectReader → String → Except TwinConfigurationResult α × JsonObjectReader}
    {decode : Decoder α}
    (hget : ∀ reader, get reader key = ((settingOf decode reader.rootObject key).result, reader))
    (found : α → β) (zero defaultValue : β) (next : β → ExtractM γ) :
    (extract (setSingleValueFromJsonOrDefault get found zero defaultValue key) record >>= next)
        ⟨reader, bundle, result⟩
      = next (extracted found zero defaultValue (settingOf decode reader.rootObject key))
        ⟨reader, record (bundleStatus.status (settingOf decode reader.rootObject key)) bundle,
          noting (settingOf decode reader.rootObject key) result⟩ := by
  have hx : extract (setSingleValueFromJsonOrDefault get found zero defaultValue key) record
        ⟨reader, bundle, result⟩
      = .ok (extracted found zero defaultValue (settingOf decode reader.rootObject key))
        ⟨reader, record (bundleStatus.status (settingOf decode reader.rootObject key)) bundle,
          noting (settingOf decode reader.rootObject key) result⟩ := by
    unfold extract setSingleValueFromJsonOrDefault
    dsimp only
    rw [hget]
    cases settingOf decode reader.rootObject key <;> rfl
  show EStateM.bind _ _ _ = _
  unfold EStateM.bind
  rw [hx]

include hkey

theorem extract_uint_bind (defaultValue : UInt32) (next : UInt32 → ExtractM γ) :
    (extract (setSingleUintValueFromJsonOrDefault defaultValue key false) record >>= next)
        ⟨reader, bundle, result⟩
      = next (extracted id 0 defaultValue (settingOf asUInt32 reader.rootObject key))
        ⟨reader, record (bundleStatus.status (settingOf asUInt32 reader.rootObject key)) bundle,
          noting (settingOf asUInt32 reader.rootObject key) result⟩ :=
  extract_bind reader bundle result record
    (getConfigurationValueFromJson_eq readUint_readsAs rfl hkey) _ _ _ _

theorem extract_time_bind (defaultValue : UInt32) (next : UInt32 → ExtractM γ) :
    (extract (setSingleUintValueFromJsonOrDefault defaultValue key true) record >>= next)
        ⟨reader, bundle, result⟩
      = next (extracted id 0 defaultValue (settingOf asTime reader.rootObject key))
        ⟨reader, record (bundleStatus.status (settingOf asTime reader.rootObject key)) bundle,
          noting (settingOf asTime reader.rootObject key) result⟩ :=
  extract_bind reader bundle result record
    (getConfigurationValueFromJson_eq readTimeInMilliseconds_readsAs rfl hkey) _ _ _ _

theorem extract_bool_bind (defaultValue : Bool) (next : Bool → ExtractM γ) :
    (extract (setSingleBoolValueFromJsonOrDefault defaultValue key) record >>= next)
        ⟨reader, bundle, result⟩
      = next (extracted id false defaultValue (settingOf asBool reader.rootObject key))
        ⟨reader, record (bundleStatus.status (settingOf asBool reader.rootObject key)) bundle,
          noting (settingOf asBool reader.rootObject key) result⟩ :=
  extract_bind reader bundle result record
    (getConfigurationValueFromJson_eq readBool_readsAs rfl hkey) _ _ _ _

theorem extract_string_bind (next : Option String → ExtractM γ) :
    (extract (setSingleStringValueFromJsonOrDefault key) record >>= next)
        ⟨reader, bundle, result⟩
      = next (extracted some none none (settingOf asString reader.rootObject key))
        ⟨reader, record (bundleStatus.status (settingOf asString reader.rootObject key)) bundle,
          noting (settingOf asString reader.rootObject key) result⟩ :=
  extract_bind reader bundle result record
    (getConfigurationValueFromJson_eq readString_readsAs rfl hkey) _ _ _ _

end Extract

theorem extracted_id {α : Type} (zero defaultValue : α) {s : Setting α} (h : s.Valid) :
    extracted id zero defaultValue s = s.getD defaultValue := by
  cases s with
  | absent => rfl
  | invalid => exact h.elim
  | value a => rfl

theorem extracted_some {α : Type} {s : Setting α} (h : s.Valid) :
    extracted some none none s = s.toOption := by
  cases s with
  | absent => rfl
  | invalid => exact h.elim
  | value a => rfl

theorem noting_ok {α : Type} (s : Setting α) :
    noting s .ok = if s.Valid then .ok else .parseException := rfl

theorem noting_ite {α : Type} (s : Setting α) (p : Prop) [Decidable p] :
    noting s (if p then .ok else .parseException)
      = if p ∧ s.Valid then .ok else .parseException := by
  unfold noting
  by_cases hp : p <;> by_cases hs : s.Valid <;> simp [hp, hs]

/-- **The pass over the twin settings** succeeds when they decode, and then gives what they
decode to; it always comes back to the object it started on. -/
theorem runExtractConfiguration_eq (reader : JsonObjectReader) :
    ∃ c, runExtractConfiguration reader
        = (if ConfigurationDecodes reader.rootObject then .ok else .parseException,
            bundleStatus reader.rootObject, c, reader)
      ∧ (ConfigurationDecodes reader.rootObject → c = configuration reader.rootObject) := by
  unfold runExtractConfiguration extractConfiguration
  rw [extract_uint_bind (by decide), extract_uint_bind (by decide),
    extract_time_bind (by decide), extract_time_bind (by decide), extract_time_bind (by decide),
    extract_bool_bind (by decide), extract_string_bind (by decide),
    extract_string_bind (by decide)]
  refine ⟨_, Prod.ext ?_ rfl, ?_⟩
  · show noting _ _ = _
    simp only [noting_ok, noting_ite, and_assoc]
    rfl
  · rintro ⟨h1, h2, h3, h4, h5, h6, h7, h8⟩
    rw [extracted_id _ _ h1, extracted_id _ _ h2, extracted_id _ _ h3, extracted_id _ _ h4,
      extracted_id _ _ h5, extracted_id _ _ h6, extracted_some h7, extracted_some h8]
    rfl

end TwinConfiguration

/-! ## The pass over the collectors' settings -/

namespace EventCollectors

open Reference

section Read

variable {γ : Type} {key : String} (hkey : '.' ∉ key.toList) (reader : JsonObjectReader)
  (p : EventPriorities)

theorem readSetting_bind {α : Type}
    {set : JsonObjectReader → Except TwinConfigurationResult α × JsonObjectReader}
    {setting : Setting α} {defaultValue : α}
    (hset : set reader = (match setting with
      | .absent => .ok defaultValue
      | .invalid => .error .parseException
      | .value a => .ok a, reader)) (next : α → SetValuesM γ) :
    (readSetting set >>= next) ⟨reader, p⟩
      = if setting.Valid then next (setting.getD defaultValue) ⟨reader, p⟩
        else .error .parseException ⟨reader, p⟩ := by
  show EStateM.bind _ _ _ = _
  unfold EStateM.bind readSetting
  dsimp only
  rw [hset]
  cases setting <;> rfl

/-- The code's words for the priorities are the reference's. -/
theorem priorityAsEnum_eq (s : String) :
    priorityAsEnum s = match priorityWord s with
      | none => .error .parseException
      | some priority => .ok priority := by
  have hword : ∀ w : String, w.toList.map Char.toLower = w.toList →
      areStringsEqualIgnoringCase s w = (String.ofList (s.toList.map Char.toLower) == w) := by
    intro w hw
    unfold areStringsEqualIgnoringCase
    rw [hw, Bool.eq_iff_iff, beq_iff_eq, beq_iff_eq, ← String.toList_inj, String.toList_ofList]
  unfold priorityAsEnum priorityWord
  rw [hword "high" (by decide), hword "low" (by decide), hword "off" (by decide)]
  generalize String.ofList (s.toList.map Char.toLower) = w
  simp only [List.lookup_cons, List.lookup_nil]
  cases w == "high" with
  | true => rfl
  | false =>
      cases w == "low" with
      | true => rfl
      | false => cases w == "off" <;> rfl

include hkey

theorem readPriority_bind (defaultValue : TwinConfigurationEventPriority)
    (next : TwinConfigurationEventPriority → SetValuesM γ) :
    (readSetting (setSingleValues key defaultValue) >>= next) ⟨reader, p⟩
      = if (settingOf asPriority reader.rootObject key).Valid then
          next ((settingOf asPriority reader.rootObject key).getD defaultValue) ⟨reader, p⟩
        else .error .parseException ⟨reader, p⟩ := by
  refine readSetting_bind reader p ?_ next
  unfold setSingleValues getConfigurationStringValueFromJson
  rw [getConfigurationValueFromJson_eq readString_readsAs rfl hkey,
    settingOf_bind (fun _ => rfl : ∀ v, asPriority v = (asString v).bind priorityWord)]
  cases settingOf asString reader.rootObject key with
  | absent => rfl
  | invalid => rfl
  | value s =>
      simp only [Setting.result, priorityAsEnum_eq]
      cases priorityWord s <;> rfl

theorem readBool_bind (defaultValue : Bool) (next : Bool → SetValuesM γ) :
    (readSetting (setSingleBoolValue key defaultValue) >>= next) ⟨reader, p⟩
      = if (settingOf asBool reader.rootObject key).Valid then
          next ((settingOf asBool reader.rootObject key).getD defaultValue) ⟨reader, p⟩
        else .error .parseException ⟨reader, p⟩ := by
  refine readSetting_bind reader p ?_ next
  unfold setSingleBoolValue setSingle getConfigurationBoolValueFromJson
  rw [getConfigurationValueFromJson_eq readBool_readsAs rfl hkey]
  cases settingOf asBool reader.rootObject key <;> rfl

theorem readTime_bind (defaultValue : UInt32) (next : UInt32 → SetValuesM γ) :
    (readSetting (setSingleUintTimeValue key defaultValue) >>= next) ⟨reader, p⟩
      = if (settingOf asTime reader.rootObject key).Valid then
          next ((settingOf asTime reader.rootObject key).getD defaultValue) ⟨reader, p⟩
        else .error .parseException ⟨reader, p⟩ := by
  refine readSetting_bind reader p ?_ next
  unfold setSingleUintTimeValue setSingle getConfigurationTimeValueFromJson
  rw [getConfigurationValueFromJson_eq readTimeInMilliseconds_readsAs rfl hkey]
  cases settingOf asTime reader.rootObject key <;> rfl

end Read

theorem normalise_bind {γ : Type} (reader : JsonObjectReader) (p : EventPriorities)
    (next : PUnit → SetValuesM γ) :
    ((modify fun s => { s with eventPriorities := normalised s.eventPriorities }) >>= next)
        ⟨reader, p⟩
      = next ⟨⟩ ⟨reader, normalised p⟩ := rfl

/-- **The pass over the collectors' settings** commits what they decode to, or stops before or
after the operational priority of the record has been normalised. -/
theorem setValues_eq (reader : JsonObjectReader) (p : EventPriorities) :
    setValues ⟨reader, p⟩
      = if PrioritiesDecode reader.rootObject then
          if AggregationDecodes reader.rootObject then
            .ok () ⟨reader, priorities reader.rootObject⟩
          else .error .parseException ⟨reader, normalised p⟩
        else .error .parseException ⟨reader, p⟩ := by
  unfold setValues
  rw [readPriority_bind (by decide), readPriority_bind (by decide),
    readPriority_bind (by decide), readPriority_bind (by decide), readPriority_bind (by decide),
    readPriority_bind (by decide), readPriority_bind (by decide), readPriority_bind (by decide),
    readPriority_bind (by decide), readPriority_bind (by decide)]
  rw [normalise_bind, readBool_bind (by decide), readTime_bind (by decide),
    readBool_bind (by decide), readTime_bind (by decide)]
  by_cases hp : PrioritiesDecode reader.rootObject
  · rw [if_pos hp]
    obtain ⟨h1, h2, h3, h4, h5, h6, h7, h8, h9, h10⟩ := hp
    rw [if_pos h1, if_pos h2, if_pos h3, if_pos h4, if_pos h5, if_pos h6, if_pos h7, if_pos h8,
      if_pos h9, if_pos h10]
    by_cases ha : AggregationDecodes reader.rootObject
    · rw [if_pos ha]
      obtain ⟨h1, h2, h3, h4⟩ := ha
      rw [if_pos h1, if_pos h2, if_pos h3, if_pos h4]
      rfl
    · rw [if_neg ha]
      simp only [ite_eq_right_iff]
      intro h1 h2 h3 h4
      exact absurd ⟨h1, h2, h3, h4⟩ ha
  · rw [if_neg hp]
    refine ite_eq_right_iff.mpr fun h1 => ite_eq_right_iff.mpr fun h2 =>
      ite_eq_right_iff.mpr fun h3 => ite_eq_right_iff.mpr fun h4 => ite_eq_right_iff.mpr fun h5 =>
      ite_eq_right_iff.mpr fun h6 => ite_eq_right_iff.mpr fun h7 => ite_eq_right_iff.mpr fun h8 =>
      ite_eq_right_iff.mpr fun h9 => ite_eq_right_iff.mpr fun h10 => ?_
    exact absurd ⟨h1, h2, h3, h4, h5, h6, h7, h8, h9, h10⟩ hp

end EventCollectors

end SecurityAgent
