import SecurityAgent.Collectors.AgentConfigurationErrorCollector
import SecurityAgent.Twin.Update

/-!
# What the message about bad settings names

Every recorded key is written with a blank before it and a comma after it. To take
the last comma away the terminator is written two characters before the end; but
the end is where the terminator of the text is, so the comma is the first of these
two and the last letter of the last key is the other. Nothing is recorded for the
baseline checks, and then the message is its heading, cut off in the same way.
-/

namespace SecurityAgent

open Utils JsonObjectReader TwinConfigurationUtils Reference TwinConfiguration

namespace AgentConfigurationErrorCollector

/-! ## Reading a message -/

/-- The names that a message lists after its heading, if it has its heading. -/
def listedNames (message : String) : Option (List String) :=
  if heading.toList <+: message.toList then
    some (((message.toList.drop heading.length).splitOn ',').map fun name =>
      String.ofList (name.dropWhile (· = ' ')))
  else none

/-- The message names these settings and nothing else. -/
def NamesExactly (message : String) (keys : List String) : Prop :=
  ∃ names, listedNames message = some names ∧ names.Perm keys

/-- The settings of an object that are not what they should be. The event collectors' settings go by
the name of their group. -/
def badSettings (object : Json.Members) : List String :=
  bad (settingOf asUInt32 object MAX_LOCAL_CACHE_SIZE_KEY).Valid MAX_LOCAL_CACHE_SIZE_KEY
    ++ bad (settingOf asUInt32 object MAX_MESSAGE_SIZE_KEY).Valid MAX_MESSAGE_SIZE_KEY
    ++ bad (settingOf asTime object HIGH_PRIORITY_MESSAGE_FREQUENCY_KEY).Valid
      HIGH_PRIORITY_MESSAGE_FREQUENCY_KEY
    ++ bad (settingOf asTime object LOW_PRIORITY_MESSAGE_FREQUENCY_KEY).Valid
      LOW_PRIORITY_MESSAGE_FREQUENCY_KEY
    ++ bad (settingOf asTime object SNAPSHOT_FREQUENCY_KEY).Valid SNAPSHOT_FREQUENCY_KEY
    ++ bad (settingOf asBool object BASELINE_CUSTOM_CHECKS_ENABLED_KEY).Valid
      BASELINE_CUSTOM_CHECKS_ENABLED_KEY
    ++ bad (settingOf asString object BASELINE_CUSTOM_CHECKS_FILE_PATH_KEY).Valid
      BASELINE_CUSTOM_CHECKS_FILE_PATH_KEY
    ++ bad (settingOf asString object BASELINE_CUSTOM_CHECKS_FILE_HASH_KEY).Valid
      BASELINE_CUSTOM_CHECKS_FILE_HASH_KEY
    ++ bad (PrioritiesDecode object ∧ AggregationDecodes object) EVENT_PROPERTIES_KEY
where
  bad (valid : Prop) [Decidable valid] (key : String) : List String := if valid then [] else [key]

/-- All the names a bad setting can have. -/
def settingKeys : List String :=
  [MAX_LOCAL_CACHE_SIZE_KEY, MAX_MESSAGE_SIZE_KEY, HIGH_PRIORITY_MESSAGE_FREQUENCY_KEY,
    LOW_PRIORITY_MESSAGE_FREQUENCY_KEY, SNAPSHOT_FREQUENCY_KEY, BASELINE_CUSTOM_CHECKS_ENABLED_KEY,
    BASELINE_CUSTOM_CHECKS_FILE_PATH_KEY, BASELINE_CUSTOM_CHECKS_FILE_HASH_KEY,
    EVENT_PROPERTIES_KEY]

theorem badSettings_subset (object : Json.Members) : badSettings object ⊆ settingKeys := by
  have hbad : ∀ (valid : Prop) [Decidable valid] (key : String), key ∈ settingKeys →
      badSettings.bad valid key ⊆ settingKeys := fun valid _ key hkey => by
    unfold badSettings.bad
    split
    · exact List.nil_subset _
    · exact List.cons_subset.mpr ⟨hkey, List.nil_subset _⟩
  unfold badSettings
  repeat' apply List.append_subset.mpr ⟨?_, ?_⟩
  all_goals exact hbad _ _ (by decide)

/-! ## Writing a message -/

/-- The keys that a status makes the message list, in their order. -/
def recordedKeys (b : TwinConfigurationBundleStatus) : List String :=
  recorded b.maxLocalCacheSize MAX_LOCAL_CACHE_SIZE_KEY
    ++ recorded b.maxMessageSize MAX_MESSAGE_SIZE_KEY
    ++ recorded b.lowPriorityMessageFrequency LOW_PRIORITY_MESSAGE_FREQUENCY_KEY
    ++ recorded b.highPriorityMessageFrequency HIGH_PRIORITY_MESSAGE_FREQUENCY_KEY
    ++ recorded b.snapshotFrequency SNAPSHOT_FREQUENCY_KEY
    ++ recorded b.eventPriorities EVENT_PROPERTIES_KEY
where
  recorded (status : TwinConfigurationStatus) (key : String) : List String :=
    if status = .typeMismatch then [key] else []

theorem length_heading : heading.length = 44 := by decide +kernel

/-- The characters of a list of keys, each as it is added to the message. -/
def listing (keys : List String) : List Char :=
  keys.flatMap fun key => ' ' :: key.toList ++ [',']

theorem listing_append (keys keys' : List String) :
    listing (keys ++ keys') = listing keys ++ listing keys' := List.flatMap_append

/-- One key is added if it is recorded, as long as there is room for it. -/
theorem concatenateKey_written {text : String} (status : TwinConfigurationStatus) (key : String)
    {n : Nat}
    (hn : text.length ≤ n) (hroom : n + key.length + 2 < 512) :
    ∃ next : String, concatenateKey status key (text, 512 - text.length)
        = some (next, 512 - next.length)
      ∧ next.toList = text.toList ++ listing (recordedKeys.recorded status key)
      ∧ next.length ≤ n + key.length + 2 := by
  unfold concatenateKey recordedKeys.recorded
  by_cases hstatus : status = .typeMismatch
  · rw [if_pos hstatus, if_pos hstatus]
    have hlen : (" " ++ key ++ ",").length = key.length + 2 := by
      rw [String.length_append, String.length_append]
      show 1 + key.length + 1 = _
      omega
    refine ⟨text ++ (" " ++ key ++ ","), ?_, ?_, ?_⟩
    · unfold concatenateToString
      rw [if_neg (by omega), hlen, String.length_append, hlen]
      exact congrArg (fun room => some (_, room)) (Nat.sub_sub 512 text.length (key.length + 2))
    · simp [listing]
    · rw [String.length_append, hlen]
      omega
  · rw [if_neg hstatus, if_neg hstatus]
    exact ⟨text, rfl, (List.append_nil _).symm, by omega⟩

/-- **The message**: the heading and the recorded keys, without the last two characters. There is
always room for it. -/
theorem generateTypeMismatchMessage_eq (b : TwinConfigurationBundleStatus) :
    ∃ message, generateTypeMismatchMessage b 512 = some message
      ∧ message.toList = (heading.toList ++ listing (recordedKeys b)).take
          ((heading.toList ++ listing (recordedKeys b)).length - 2) := by
  obtain ⟨t₁, h₁, htext₁, hlen₁⟩ := concatenateKey_written b.maxLocalCacheSize
    MAX_LOCAL_CACHE_SIZE_KEY (Nat.le_of_eq length_heading) (by decide +kernel)
  obtain ⟨t₂, h₂, htext₂, hlen₂⟩ := concatenateKey_written b.maxMessageSize
    MAX_MESSAGE_SIZE_KEY hlen₁ (by decide +kernel)
  obtain ⟨t₃, h₃, htext₃, hlen₃⟩ := concatenateKey_written b.lowPriorityMessageFrequency
    LOW_PRIORITY_MESSAGE_FREQUENCY_KEY hlen₂ (by decide +kernel)
  obtain ⟨t₄, h₄, htext₄, hlen₄⟩ := concatenateKey_written b.highPriorityMessageFrequency
    HIGH_PRIORITY_MESSAGE_FREQUENCY_KEY hlen₃ (by decide +kernel)
  obtain ⟨t₅, h₅, htext₅, hlen₅⟩ := concatenateKey_written b.snapshotFrequency
    SNAPSHOT_FREQUENCY_KEY hlen₄ (by decide +kernel)
  obtain ⟨t₆, h₆, htext₆, -⟩ := concatenateKey_written b.eventPriorities
    EVENT_PROPERTIES_KEY hlen₅ (by decide +kernel)
  have hstart : concatenateToString "" 512 heading = some (heading, 512 - heading.length) := by
    rw [concatenateToString, length_heading, if_neg (by omega), String.empty_append]
  have htext : t₆.toList = heading.toList ++ listing (recordedKeys b) := by
    rw [htext₆, htext₅, htext₄, htext₃, htext₂, htext₁]
    simp only [recordedKeys, listing_append, List.append_assoc]
  refine ⟨String.ofList (t₆.toList.take (t₆.length - 2)), ?_, ?_⟩
  · simp only [generateTypeMismatchMessage, hstart, Option.bind_eq_bind, Option.bind_some, h₁, h₂,
      h₃, h₄, h₅, h₆]
    rfl
  · rw [String.toList_ofList, ← String.length_toList, htext]

/-! ## What it lists -/

theorem comma_not_mem_blank {name : List Char} (h : ',' ∉ name) : ',' ∉ ' ' :: name := fun hmem => by
  rcases List.mem_cons.mp hmem with hblank | hname
  · exact absurd hblank (by decide)
  · exact h hname

/-- The characters between two commas are a key as it was added. -/
theorem splitOn_listing {keys : List String} (hkeys : ∀ key ∈ keys, ',' ∉ key.toList)
    {last : List Char} (hlast : ',' ∉ last) :
    (listing keys ++ last).splitOn ',' = keys.map (fun key => ' ' :: key.toList) ++ [last] := by
  induction keys with
  | nil =>
      rw [listing, List.flatMap_nil, List.nil_append, List.map_nil, List.nil_append]
      exact List.splitOn_eq_singleton hlast
  | cons key keys ih =>
      have hkey := comma_not_mem_blank (hkeys key List.mem_cons_self)
      have hcut : listing (key :: keys) ++ last
          = (' ' :: key.toList) ++ ',' :: (listing keys ++ last) := by
        simp [listing]
      have hrest := ih fun k hk => hkeys k (List.mem_cons_of_mem _ hk)
      rw [hcut, List.splitOn_append_cons_self_of_not_mem hkey, hrest, List.map_cons,
        List.cons_append]

/-- The keys that can be recorded, without their last letter, are no names of settings. -/
theorem cut_not_mem {key : String} (h : key ∈ settingKeys) :
    ',' ∉ key.toList ∧ key.toList ≠ []
      ∧ String.ofList ((key.toList.take (key.toList.length - 1)).dropWhile (· = ' '))
          ∉ settingKeys := by
  have hall : ∀ key ∈ settingKeys, ',' ∉ key.toList ∧ key.toList ≠ []
      ∧ String.ofList ((key.toList.take (key.toList.length - 1)).dropWhile (· = ' '))
          ∉ settingKeys := by
    decide +kernel
  exact hall key h

theorem recordedKeys_subset (b : TwinConfigurationBundleStatus) :
    recordedKeys b ⊆ settingKeys := by
  have hrecorded : ∀ (status : TwinConfigurationStatus) (key : String), key ∈ settingKeys →
      recordedKeys.recorded status key ⊆ settingKeys := fun status key hkey => by
    unfold recordedKeys.recorded
    split
    · exact List.cons_subset.mpr ⟨hkey, List.nil_subset _⟩
    · exact List.nil_subset _
  unfold recordedKeys
  repeat' apply List.append_subset.mpr ⟨?_, ?_⟩
  all_goals exact hrecorded _ _ (by decide)

/-- A key without its last letter, as it is read from the message. -/
def cutKey (key : String) : String :=
  String.ofList ((key.toList.take (key.toList.length - 1)).dropWhile (· = ' '))

/-- What a message lists for the keys that are recorded. -/
def cutLast (keys : List String) : Option (List String) :=
  keys.getLast?.map fun last => keys.dropLast ++ [cutKey last]

theorem dropWhile_blank {key : String} (h : key ∈ settingKeys) :
    String.ofList ((' ' :: key.toList).dropWhile (· = ' ')) = key := by
  have hall : ∀ key ∈ settingKeys,
      String.ofList ((' ' :: key.toList).dropWhile (· = ' ')) = key := by
    decide +kernel
  exact hall key h

/-- The names in a message: the recorded keys, the last one cut, and no list where there are
none. -/
theorem listedNames_message {message : String} {keys : List String} (hkeys : keys ⊆ settingKeys)
    (h : message.toList = (heading.toList ++ listing keys).take
      ((heading.toList ++ listing keys).length - 2)) :
    listedNames message = cutLast keys := by
  unfold listedNames
  rcases List.eq_nil_or_concat keys with rfl | ⟨front, last, rfl⟩
  · -- the heading itself is cut off
    have hcut : ¬ heading.toList <+: message.toList := fun hfront => by
      have hlen := hfront.length_le
      rw [h, listing, List.flatMap_nil, List.append_nil, List.length_take] at hlen
      rw [String.length_toList, length_heading] at hlen
      omega
    rw [if_neg hcut]
    rfl
  · rw [List.concat_eq_append] at h hkeys ⊢
    have hlast : last ∈ settingKeys := hkeys (List.mem_append_right _ (List.mem_singleton_self last))
    have hfront : front ⊆ settingKeys := fun key hkey => hkeys (List.mem_append_left _ hkey)
    obtain ⟨hcomma, hne, -⟩ := cut_not_mem hlast
    have hpos : 0 < last.toList.length := List.length_pos_iff.mpr hne
    -- the two characters are the comma and the last letter of the last key
    have htext : heading.toList ++ listing (front ++ [last])
        = (heading.toList ++ (listing front ++ ' ' :: last.toList.take (last.toList.length - 1)))
          ++ [last.toList.getLast hne, ','] := by
      have hsplit := List.dropLast_concat_getLast hne
      rw [List.dropLast_eq_take] at hsplit
      have hend : last.toList ++ [',']
          = last.toList.take (last.toList.length - 1) ++ [last.toList.getLast hne, ','] := by
        rw [List.append_cons (last.toList.take _), hsplit]
      have hone : listing [last] = ' ' :: (last.toList ++ [',']) := by simp [listing]
      rw [listing_append, hone, hend]
      simp only [List.append_assoc, List.cons_append]
    have hmessage : message.toList
        = heading.toList ++ (listing front ++ ' ' :: last.toList.take (last.toList.length - 1)) := by
      rw [h, htext, List.length_append]
      exact List.take_left' rfl
    have hcut : ',' ∉ ' ' :: last.toList.take (last.toList.length - 1) :=
      comma_not_mem_blank fun htake => hcomma (List.mem_of_mem_take htake)
    rw [hmessage, if_pos (List.prefix_append _ _), ← String.length_toList, List.drop_left,
      splitOn_listing (fun key hkey => (cut_not_mem (hfront hkey)).1) hcut, List.map_append,
      List.map_map, cutLast, List.getLast?_concat, Option.map_some, List.dropLast_concat]
    have hnames : front.map ((fun name : List Char => String.ofList (name.dropWhile (· = ' ')))
        ∘ fun key => ' ' :: key.toList) = front :=
      (List.map_congr_left fun key hkey => dropWhile_blank (hfront hkey)).trans (List.map_id _)
    rw [hnames]
    rfl

/-- What is listed in this way is not exactly the names of any settings. -/
theorem cutLast_not_perm {keys names names' : List String} (hkeys : keys ⊆ settingKeys)
    (h : cutLast keys = some names) (hnames' : names' ⊆ settingKeys) : ¬ names.Perm names' := by
  intro hperm
  obtain ⟨last, hlast, rfl⟩ := Option.map_eq_some_iff.mp h
  have hmem : cutKey last ∈ names' :=
    hperm.mem_iff.mp (List.mem_append_right _ (List.mem_singleton_self _))
  exact (cut_not_mem (hkeys (List.mem_of_getLast? hlast))).2.2 (hnames' hmem)

/-! ## After an update -/

theorem cleanup_updateResult (o : TwinModule.UpdateOutcome) (isLocked : Bool)
    (b : TwinConfigurationBundleStatus) (r : TwinConfigurationResult) (s : TwinModule) :
    (TwinModule.cleanup o isLocked b r s).2.updateResult = ⟨o.currentTime, r, b⟩ := by
  unfold TwinModule.cleanup
  dsimp only
  split
  · rfl
  · split
    · rfl
    · rfl

/-- An update that comes to its end behind the lock has a bad setting of the event collectors if it
ends with `TWIN_PARSE_EXCEPTION`. -/
theorem recorded_of_finish {o : TwinModule.UpdateOutcome} {b : TwinConfigurationBundleStatus}
    {c : TwinConfiguration} {s s' : TwinModule} {answer r : TwinConfigurationResult}
    (hfinish : TwinModule.finish o b c s answer = (r, s'))
    (hparse : s'.updateResult.lastUpdateResult = .parseException) :
    s'.updateResult.configurationBundleStatus = { b with eventPriorities := .typeMismatch } := by
  have hs' : s' = (TwinModule.finish o b c s answer).2 := by rw [hfinish]
  subst hs'
  unfold TwinModule.finish at hparse ⊢
  cases answer with
  | parseException => rw [cleanup_updateResult]
  | ok =>
      -- the copy can only be short of memory
      have hcopy := TwinModule.deepCopy_eq o c s
      by_cases hcopies : TwinModule.Copies o c
      · rw [if_pos hcopies] at hcopy
        simp only [hcopy, cleanup_updateResult] at hparse
        cases hparse
      · rw [if_neg hcopies] at hcopy
        obtain ⟨c', -, hcopy⟩ := hcopy
        simp only [hcopy, cleanup_updateResult] at hparse
        cases hparse
  | confNotExist | lockException | memoryException | exception =>
      simp only [cleanup_updateResult] at hparse
      cases hparse

/-- What is recorded when the settings of an object cannot be parsed. -/
theorem recorded_of_parseException {objectName : String} {o : TwinModule.UpdateOutcome}
    {parsed : Option Json} {complete : Bool} {object : Json.Members} {s s' : TwinModule}
    {r : TwinConfigurationResult}
    (hobject : TwinModule.objectRead objectName o parsed complete = some object)
    (hupdate : TwinModule.update objectName o parsed complete s = some (r, s'))
    (hparse : s'.updateResult.lastUpdateResult = .parseException) :
    recordedKeys s'.updateResult.configurationBundleStatus
      = if ConfigurationDecodes object then [EVENT_PROPERTIES_KEY]
        else recordedKeys (bundleStatus object) := by
  obtain ⟨around, hfrom⟩ := TwinModule.update_of_read hobject s
  rw [hfrom] at hupdate
  by_cases hdecodes : ConfigurationDecodes object
  swap
  · have hreader : ¬ ConfigurationDecodes (JsonObjectReader.mk object around).rootObject := hdecodes
    rw [TwinModule.updateFrom_undecoded hreader] at hupdate
    obtain ⟨-, rfl⟩ := Prod.mk.inj (Option.some.inj hupdate)
    rw [if_neg hdecodes]
  rw [if_pos hdecodes]
  have hvalid : recordedKeys { bundleStatus object with eventPriorities := .typeMismatch }
      = [EVENT_PROPERTIES_KEY] := by
    obtain ⟨h₁, h₂, h₃, h₄, h₅, -⟩ := hdecodes
    simp [recordedKeys, recordedKeys.recorded, bundleStatus, bundleStatus.status, h₁, h₂, h₃, h₄, h₅]
  have hreader : ConfigurationDecodes (JsonObjectReader.mk object around).rootObject := hdecodes
  -- nothing but the event collectors' settings can then end it with that result
  cases hlock : s.lock with
  | held =>
      rw [TwinModule.updateFrom_blocked hreader hlock] at hupdate
      cases hupdate
  | null =>
      rw [TwinModule.updateFrom_refused hreader
        (by rw [hlock]; rfl)] at hupdate
      obtain ⟨-, rfl⟩ := Prod.mk.inj (Option.some.inj hupdate)
      cases hparse
  | free =>
      cases hlocked : o.locks.lock with
      | false =>
          rw [TwinModule.updateFrom_refused hreader
            (by rw [hlock, hlocked]; rfl)] at hupdate
          obtain ⟨-, rfl⟩ := Prod.mk.inj (Option.some.inj hupdate)
          cases hparse
      | true =>
          rw [TwinModule.updateFrom_taken hreader hlock hlocked,
            Option.map_eq_some_iff] at hupdate
          obtain ⟨⟨answer, reader', collectors⟩, -, hfinish⟩ := hupdate
          rw [← hvalid]
          exact congrArg recordedKeys (recorded_of_finish hfinish hparse)

/-- **The message never names exactly the bad settings**: it lists what has been recorded, which
leaves the baseline checks out, and of the last of these the last letter is missing. -/
theorem message_names_no_update {objectName : String} {o : TwinModule.UpdateOutcome}
    {parsed : Option Json} {complete : Bool} {object : Json.Members} {s s' : TwinModule}
    {r : TwinConfigurationResult}
    (hobject : TwinModule.objectRead objectName o parsed complete = some object)
    (hupdate : TwinModule.update objectName o parsed complete s = some (r, s'))
    (hparse : s'.updateResult.lastUpdateResult = .parseException) :
    ∃ message,
      generateTypeMismatchMessage s'.updateResult.configurationBundleStatus 512 = some message
        ∧ listedNames message = cutLast
            (if ConfigurationDecodes object then [EVENT_PROPERTIES_KEY]
              else recordedKeys (bundleStatus object))
        ∧ ¬ NamesExactly message (badSettings object) := by
  obtain ⟨message, hmessage, htext⟩ :=
    generateTypeMismatchMessage_eq s'.updateResult.configurationBundleStatus
  have hkeys := recordedKeys_subset s'.updateResult.configurationBundleStatus
  have hlisted := listedNames_message hkeys htext
  refine ⟨message, hmessage, ?_, ?_⟩
  · rw [hlisted, recorded_of_parseException hobject hupdate hparse]
  · rintro ⟨names, hnames, hperm⟩
    exact cutLast_not_perm hkeys (hlisted.symm.trans hnames) (badSettings_subset object) hperm

/-- A twin whose only setting is the size of a message, which it gives as a text. -/
def textForSize : Json :=
  .object [("conf", .object [(MAX_MESSAGE_SIZE_KEY, .object [(VALUE_KEY, .string "big")])])]

/-- Its message has a name that is no setting's. -/
theorem message_of_textForSize :
    ∃ (object : Json.Members) (r : TwinConfigurationResult) (s' : TwinModule) (message : String),
      TwinModule.objectRead "conf" (.ok 1) (some textForSize) false = some object
        ∧ TwinModule.update "conf" (.ok 1) (some textForSize) false .init = some (r, s')
        ∧ s'.updateResult.lastUpdateResult = .parseException
        ∧ generateTypeMismatchMessage s'.updateResult.configurationBundleStatus 512 = some message
        ∧ ¬ NamesExactly message (badSettings object) := by
  refine ⟨[(MAX_MESSAGE_SIZE_KEY, .object [(VALUE_KEY, .string "big")])], .parseException,
    { TwinModule.init with updateResult :=
      ⟨1, .parseException, { maxMessageSize := .typeMismatch }⟩ },
    "Couldn't parse the following conifgurations: maxMessageSizeInByte", rfl, by decide +kernel, rfl,
    by decide +kernel, ?_⟩
  rintro ⟨names, hnames, hperm⟩
  have hlisted : listedNames "Couldn't parse the following conifgurations: maxMessageSizeInByte"
      = some ["maxMessageSizeInByte"] := by decide +kernel
  have hbad : badSettings [(MAX_MESSAGE_SIZE_KEY, .object [(VALUE_KEY, .string "big")])]
      = ["maxMessageSizeInBytes"] := by decide +kernel
  rw [hlisted] at hnames
  obtain rfl := Option.some.inj hnames
  rw [hbad, List.perm_singleton] at hperm
  exact absurd hperm (by decide)

/-- The names in it, as for every update. -/
theorem message_names_no_update_textForSize :
    ∃ message, generateTypeMismatchMessage { maxMessageSize := .typeMismatch } 512 = some message
      ∧ listedNames message = some ["maxMessageSizeInByte"] := by
  obtain ⟨message, hmessage, hlisted, -⟩ := @message_names_no_update "conf" (.ok 1) (some textForSize)
    false [(MAX_MESSAGE_SIZE_KEY, .object [(VALUE_KEY, .string "big")])] .init
    { TwinModule.init with updateResult :=
      ⟨1, .parseException, { maxMessageSize := .typeMismatch }⟩ } .parseException rfl
    (by decide +kernel) rfl
  refine ⟨message, hmessage, hlisted.trans ?_⟩
  decide +kernel

end AgentConfigurationErrorCollector

end SecurityAgent
