import SecurityAgent.Twin.Priorities
import SecurityAgent.Twin.Report

/-!
# What is reported, read back

The writer and the reader of a setting are separate code. Kind by kind they fit:
the bits of an unsigned number, whole seconds, booleans, strings. The operational
priority has no word, and is reported as `"high"`; and a name with a dot in it is
written as it stands but followed dot by dot when it is read. Everything else
comes back (`report_round_trip_iff`).
-/

namespace SecurityAgent

open JsonObjectReader TwinConfigurationUtils EventCollectors

/-- A written setting, read. -/
theorem settingOf_written {α : Type} (decode : Decoder α) {ws : List (String × Json)}
    (hnd : (ws.map Prod.fst).Nodup) {key : String} {value : Json} (h : (key, value) ∈ ws) :
    settingOf decode (writeAll [] ws) key = match decode value with
      | none => .invalid
      | some a => .value a := by
  unfold settingOf
  rw [lookup_writeAll hnd h]
  rfl

theorem settingOf_not_written {α : Type} (decode : Decoder α) {ws : List (String × Json)}
    {key : String} (h : key ∉ ws.map Prod.fst) :
    settingOf decode (writeAll [] ws) key = .absent := by
  unfold settingOf
  rw [lookup_writeAll_of_not_mem h]
  rfl

/-! ## Kind by kind -/

theorem asUInt32_written (n : UInt32) : asUInt32 (.number n.toInt32.toInt) = some n := by
  have hint : int32OfDouble (n.toInt32.toInt : Rat) = n.toInt32 := by
    have ht : n.toInt32.toInt.tdiv ((1 : Nat) : Int) = n.toInt32.toInt := Int.tdiv_one _
    have hlo := n.toInt32.le_toInt
    have hhi := n.toInt32.toInt_lt
    unfold int32OfDouble
    rw [Rat.num_intCast, Rat.den_intCast]
    dsimp only
    rw [ht, if_pos ⟨by omega, by omega⟩, Int32.ofInt_toInt]
  show some (int32OfDouble _).toUInt32 = _
  rw [hint, UInt32.toUInt32_toInt32]

theorem asTime_written {milisec : UInt32} (h : WholeSeconds milisec) :
    asTime (timeValue milisec) = some milisec := by
  show TimeUtils.iso8601DurationStringToMilliseconds (String.ofList _).toList = _
  rw [String.toList_ofList]
  exact (TimeUtils.duration_round_trip h.1 h.2).2

theorem asBool_written (b : Bool) : asBool (.bool b) = some b := rfl

/-- What a priority comes back as: its word is read as the priority it was meant for. -/
def reread : TwinConfigurationEventPriority → TwinConfigurationEventPriority
  | .operational => .high
  | priority => priority

theorem asPriority_written (priority : TwinConfigurationEventPriority) :
    asPriority (.string (priorityEnumAsString priority)) = some (reread priority) := by
  cases priority <;> decide

theorem reread_eq_self_iff (priority : TwinConfigurationEventPriority) :
    reread priority = priority ↔ priority ≠ .operational := by
  cases priority <;> decide

/-! ## The whole object -/

namespace TwinModule

open TwinConfiguration Reference

/-- All the writes of a report. -/
def reported (s : TwinModule) : List (String × Json) :=
  s.configuration.reported ++ EventCollectors.reported s.collectors.eventPriorities

/-- The keys of a report, by what becomes of the two optional settings. -/
def reportedKeys (filePath fileHash : Bool) : List String :=
  [MAX_LOCAL_CACHE_SIZE_KEY, MAX_MESSAGE_SIZE_KEY, HIGH_PRIORITY_MESSAGE_FREQUENCY_KEY,
    LOW_PRIORITY_MESSAGE_FREQUENCY_KEY, SNAPSHOT_FREQUENCY_KEY, BASELINE_CUSTOM_CHECKS_ENABLED_KEY]
  ++ (if filePath then [BASELINE_CUSTOM_CHECKS_FILE_PATH_KEY] else [])
  ++ (if fileHash then [BASELINE_CUSTOM_CHECKS_FILE_HASH_KEY] else [])
  ++ [BASELINE_PRIORITY_KEY, CONNECTION_CREATE_PRIORITY_KEY, DIAGNOSTIC_PRIORITY_KEY,
    FIREWALL_CONFIGURATION_PRIORITY_KEY, LISTENING_PORTS_PRIORITY_KEY, LOCAL_USERS_PRIORITY_KEY,
    LOGIN_PRIORITY_KEY, OPERATIONAL_EVENT_KEY, PROCESS_CREATE_PRIORITY_KEY,
    SYSTEM_INFORMATION_PRIORITY_KEY, PROCESS_CREATE_AGGREGATION_ENABLED_KEY,
    PROCESS_CREATE_AGGREGATION_INTERVAL_KEY, CONNECTION_CREATE_AGGREGATION_ENABLED_KEY,
    CONNECTION_CREATE_AGGREGATION_INTERVAL_KEY]

theorem keys_reported (s : TwinModule) :
    s.reported.map Prod.fst = reportedKeys s.configuration.baselineCustomChecksFilePath.isSome
      s.configuration.baselineCustomChecksFileHash.isSome := by
  unfold reported TwinConfiguration.reported
  cases s.configuration.baselineCustomChecksFilePath <;>
    cases s.configuration.baselineCustomChecksFileHash <;> rfl

theorem nodup_reported (s : TwinModule) : (s.reported.map Prod.fst).Nodup := by
  rw [keys_reported]
  generalize s.configuration.baselineCustomChecksFilePath.isSome = filePath
  generalize s.configuration.baselineCustomChecksFileHash.isSome = fileHash
  cases filePath <;> cases fileHash <;> decide +kernel

/-- A setting that was written, and what is read for it. -/
theorem settingOf_reported {s : TwinModule} {α : Type} {decode : Decoder α} {key : String}
    {value : Json} {a : α} (h : (key, value) ∈ s.reported) (hdecode : decode value = some a) :
    settingOf decode (writeAll [] s.reported) key = .value a := by
  rw [settingOf_written decode (nodup_reported s) h, hdecode]

theorem settingOf_filePath (s : TwinModule) :
    settingOf asString (writeAll [] s.reported) BASELINE_CUSTOM_CHECKS_FILE_PATH_KEY
      = match s.configuration.baselineCustomChecksFilePath with
        | none => .absent
        | some filePath => .value filePath := by
  cases hp : s.configuration.baselineCustomChecksFilePath with
  | none =>
      refine settingOf_not_written asString ?_
      rw [keys_reported, hp]
      cases s.configuration.baselineCustomChecksFileHash.isSome <;> decide +kernel
  | some filePath =>
      have hdecode : asString (.string filePath) = some filePath := rfl
      refine settingOf_reported ?_ hdecode
      unfold reported TwinConfiguration.reported
      rw [hp]
      simp only [optionalWrite, List.mem_append, List.mem_cons, true_or, or_true]

theorem settingOf_fileHash (s : TwinModule) :
    settingOf asString (writeAll [] s.reported) BASELINE_CUSTOM_CHECKS_FILE_HASH_KEY
      = match s.configuration.baselineCustomChecksFileHash with
        | none => .absent
        | some fileHash => .value fileHash := by
  cases hh : s.configuration.baselineCustomChecksFileHash with
  | none =>
      refine settingOf_not_written asString ?_
      rw [keys_reported, hh]
      cases s.configuration.baselineCustomChecksFilePath.isSome <;> decide +kernel
  | some fileHash =>
      have hdecode : asString (.string fileHash) = some fileHash := rfl
      refine settingOf_reported ?_ hdecode
      unfold reported TwinConfiguration.reported
      rw [hh]
      simp only [optionalWrite, List.mem_append, List.mem_cons, true_or, or_true]

/-- The twin settings come back. -/
theorem configuration_reported {s : TwinModule} (hd : s.configuration.DurationsPrint) :
    ConfigurationDecodes (writeAll [] s.reported)
      ∧ Reference.configuration (writeAll [] s.reported) = s.configuration := by
  have hread : ∀ {α : Type} {decode : Decoder α} {k : String} {value : Json} {a : α},
      decode value = some a → (k, value) ∈ s.configuration.reported →
        settingOf decode (writeAll [] s.reported) k = .value a :=
    fun hdecode h => settingOf_reported (List.mem_append_left _ h) hdecode
  have h1 := hread (asUInt32_written s.configuration.maxLocalCacheSize)
    (k := MAX_LOCAL_CACHE_SIZE_KEY) (by simp [TwinConfiguration.reported])
  have h2 := hread (asUInt32_written s.configuration.maxMessageSize)
    (k := MAX_MESSAGE_SIZE_KEY) (by simp [TwinConfiguration.reported])
  have h3 := hread (asTime_written hd.high)
    (k := HIGH_PRIORITY_MESSAGE_FREQUENCY_KEY) (by simp [TwinConfiguration.reported])
  have h4 := hread (asTime_written hd.low)
    (k := LOW_PRIORITY_MESSAGE_FREQUENCY_KEY) (by simp [TwinConfiguration.reported])
  have h5 := hread (asTime_written hd.snapshot)
    (k := SNAPSHOT_FREQUENCY_KEY) (by simp [TwinConfiguration.reported])
  have h6 := hread (asBool_written s.configuration.baselineCustomChecksEnabled)
    (k := BASELINE_CUSTOM_CHECKS_ENABLED_KEY) (by simp [TwinConfiguration.reported])
  have h7 := settingOf_filePath s
  have h8 := settingOf_fileHash s
  constructor
  · unfold ConfigurationDecodes
    rw [h1, h2, h3, h4, h5, h6, h7, h8]
    refine ⟨trivial, trivial, trivial, trivial, trivial, trivial, ?_, ?_⟩
    · cases s.configuration.baselineCustomChecksFilePath <;> trivial
    · cases s.configuration.baselineCustomChecksFileHash <;> trivial
  · unfold Reference.configuration
    rw [h1, h2, h3, h4, h5, h6, h7, h8]
    obtain ⟨⟨n1, n2, n3, n4, n5, b, filePath, fileHash⟩, handle, m, u⟩ := s
    cases filePath <;> cases fileHash <;> rfl

/-- The priorities as they come back. -/
def rereadAll (p : EventPriorities) : EventPriorities :=
  { p with
    processCreatePriority := reread p.processCreatePriority
    listeningPortsPriority := reread p.listeningPortsPriority
    systemInformationPriority := reread p.systemInformationPriority
    localUsersPriority := reread p.localUsersPriority
    loginPriority := reread p.loginPriority
    connectionCreatePriority := reread p.connectionCreatePriority
    firewallConfigurationPriority := reread p.firewallConfigurationPriority
    baselinePriority := reread p.baselinePriority
    diagnostic := reread p.diagnostic
    operational := reread p.operational }

/-- The collectors' settings come back, the priorities by their words. -/
theorem priorities_reported {s : TwinModule}
    (hd : EventCollectors.DurationsPrint s.collectors.eventPriorities) :
    PrioritiesDecode (writeAll [] s.reported) ∧ AggregationDecodes (writeAll [] s.reported)
      ∧ Reference.priorities (writeAll [] s.reported) = rereadAll s.collectors.eventPriorities := by
  generalize hp : s.collectors.eventPriorities = p at hd
  have hread : ∀ {α : Type} {decode : Decoder α} {k : String} {value : Json} {a : α},
      decode value = some a → (k, value) ∈ EventCollectors.reported p →
        settingOf decode (writeAll [] s.reported) k = .value a :=
    fun hdecode h => settingOf_reported (List.mem_append_right _ (hp ▸ h)) hdecode
  have h1 := hread (asPriority_written p.processCreatePriority)
    (k := PROCESS_CREATE_PRIORITY_KEY) (by simp [EventCollectors.reported])
  have h2 := hread (asPriority_written p.listeningPortsPriority)
    (k := LISTENING_PORTS_PRIORITY_KEY) (by simp [EventCollectors.reported])
  have h3 := hread (asPriority_written p.systemInformationPriority)
    (k := SYSTEM_INFORMATION_PRIORITY_KEY) (by simp [EventCollectors.reported])
  have h4 := hread (asPriority_written p.localUsersPriority)
    (k := LOCAL_USERS_PRIORITY_KEY) (by simp [EventCollectors.reported])
  have h5 := hread (asPriority_written p.loginPriority)
    (k := LOGIN_PRIORITY_KEY) (by simp [EventCollectors.reported])
  have h6 := hread (asPriority_written p.connectionCreatePriority)
    (k := CONNECTION_CREATE_PRIORITY_KEY) (by simp [EventCollectors.reported])
  have h7 := hread (asPriority_written p.firewallConfigurationPriority)
    (k := FIREWALL_CONFIGURATION_PRIORITY_KEY) (by simp [EventCollectors.reported])
  have h8 := hread (asPriority_written p.baselinePriority)
    (k := BASELINE_PRIORITY_KEY) (by simp [EventCollectors.reported])
  have h9 := hread (asPriority_written p.diagnostic)
    (k := DIAGNOSTIC_PRIORITY_KEY) (by simp [EventCollectors.reported])
  have h10 := hread (asPriority_written p.operational)
    (k := OPERATIONAL_EVENT_KEY) (by simp [EventCollectors.reported])
  have h11 := hread (asBool_written p.processCreateAggregationEnabled)
    (k := PROCESS_CREATE_AGGREGATION_ENABLED_KEY) (by simp [EventCollectors.reported])
  have h12 := hread (asTime_written hd.processCreate)
    (k := PROCESS_CREATE_AGGREGATION_INTERVAL_KEY) (by simp [EventCollectors.reported])
  have h13 := hread (asBool_written p.connectionCreateAggregationEnabled)
    (k := CONNECTION_CREATE_AGGREGATION_ENABLED_KEY) (by simp [EventCollectors.reported])
  have h14 := hread (asTime_written hd.connectionCreate)
    (k := CONNECTION_CREATE_AGGREGATION_INTERVAL_KEY) (by simp [EventCollectors.reported])
  refine ⟨?_, ?_, ?_⟩
  · unfold PrioritiesDecode
    rw [h1, h2, h3, h4, h5, h6, h7, h8, h9, h10]
    exact ⟨trivial, trivial, trivial, trivial, trivial, trivial, trivial, trivial, trivial, trivial⟩
  · unfold AggregationDecodes
    rw [h11, h12, h13, h14]
    exact ⟨trivial, trivial, trivial, trivial⟩
  · unfold Reference.priorities
    rw [h1, h2, h3, h4, h5, h6, h7, h8, h9, h10, h11, h12, h13, h14]
    rfl

/-! ## The round trip -/

/-- In every reachable configuration the operational event alone is at the operational priority. -/
theorem others_reachable {objectName : String} {s : TwinModule}
    (h : Machine.Reaches (step objectName) init s) (eventType : TwinConfigurationEventType)
    (he : eventType ≠ .operationalEvent) :
    safeGetPriority s.collectors.eventPriorities eventType ≠ .operational := by
  revert eventType
  refine h.invariant (P := fun s => ∀ eventType, eventType ≠ .operationalEvent →
    safeGetPriority s.collectors.eventPriorities eventType ≠ .operational)
    normal_default.others fun s call r s' hs hstep eventType he => ?_
  rcases (step_settings hstep).2 with hp | hp | ⟨object, hp⟩
  · rw [hp]
    exact hs eventType he
  · rw [hp]
    have hkept := hs eventType he
    cases eventType
    case operationalEvent => exact absurd rfl he
    all_goals exact hkept
  · rw [hp]
    exact others_priorities object eventType he

/-- When it is alone there, the priorities come back unless it is. -/
theorem rereadAll_eq_self_iff {p : EventPriorities} (h : ∀ eventType, eventType ≠ .operationalEvent →
    safeGetPriority p eventType ≠ .operational) :
    rereadAll p = p ↔ p.operational ≠ .operational := by
  have hothers : ∀ eventType, eventType ≠ .operationalEvent →
      reread (safeGetPriority p eventType) = safeGetPriority p eventType :=
    fun eventType he => (reread_eq_self_iff _).mpr (h eventType he)
  rw [← reread_eq_self_iff]
  constructor
  · intro hp
    exact congrArg EventPriorities.operational hp
  · intro ho
    obtain ⟨p1, p2, p3, p4, p5, p6, p7, p8, p9, p10, e1, e2, i1, i2⟩ := p
    unfold rereadAll
    rw [show reread p1 = p1 from hothers .processCreate (by decide),
      show reread p2 = p2 from hothers .listeningPorts (by decide),
      show reread p3 = p3 from hothers .systemInformation (by decide),
      show reread p4 = p4 from hothers .localUsers (by decide),
      show reread p5 = p5 from hothers .userLogin (by decide),
      show reread p6 = p6 from hothers .connectionCreate (by decide),
      show reread p7 = p7 from hothers .firewallConfiguration (by decide),
      show reread p8 = p8 from hothers .baseline (by decide),
      show reread p9 = p9 from hothers .diagnostic (by decide),
      show reread p10 = p10 from ho]

/-- The object an update finds in a report. -/
theorem objectRead_reported (objectName : String) (s : TwinModule) (t : Int) :
    objectRead objectName (.ok t) (some (reportedTwin objectName s)) false
      = if '.' ∈ objectName.toList then some [] else some (writeAll [] s.reported) := by
  have hlocated : located objectName false (some (reportedTwin objectName s))
      = locateDotted objectName [(objectName, .object (writeAll [] s.reported))] := rfl
  have hreader : (UpdateOutcome.ok t).reader = true := rfl
  unfold objectRead
  rw [hreader, if_pos rfl, hlocated]
  by_cases hdot : '.' ∈ objectName.toList
  · rw [if_pos hdot]
    unfold locateDotted
    rw [Json.dotget_of_dot hdot]
    rfl
  · rw [if_neg hdot, locateDotted_of_no_dot hdot]
    unfold locate
    rw [List.lookup_cons, beq_self_eq_true]

/-- The configuration comes back: nothing stands for the operational priority, and under a name
with a dot in it nothing is found. -/
def ComesBack (objectName : String) (s : TwinModule) : Prop :=
  if '.' ∈ objectName.toList then s.configuration = TwinConfiguration.default
    ∧ s.collectors.eventPriorities = defaultPriorities
  else s.collectors.eventPriorities.operational ≠ .operational

/-- **The reported twin, read back.** Any report of a reachable configuration, given back as the
text it is sent as, is accepted; and the settings are unchanged exactly when they come back. -/
theorem report_round_trip_iff (objectName : String) (s : TwinModule)
    (hreach : Machine.Reaches (step objectName) init s) (hs : s.Usable) (o : ReportOutcome)
    (twin : Json) (s₁ : TwinModule)
    (hreport : getSerializedTwinConfiguration objectName o s = some (.ok, some twin, s₁))
    (serialize : Json → String) (parse : String → Option Json)
    (hparson : parse (serialize twin) = some twin) (t : Int) :
    (∃ s', update objectName (.ok t) (parse (serialize twin)) false s₁ = some (.ok, s')
        ∧ s'.configuration = s.configuration
        ∧ s'.collectors.eventPriorities = s.collectors.eventPriorities)
      ↔ ComesBack objectName s := by
  have hd : s.DurationsPrint :=
    hreach.invariant durationsPrint_init fun _ _ _ _ hd hstep => durationsPrint_step hd hstep
  obtain ⟨rfl, rfl⟩ := report_eq hs hd hreport
  rw [hparson]
  have hread := objectRead_reported objectName s₁ t
  have hsucceeds : ∀ object, Succeeds (.ok t) object :=
    fun _ => ⟨rfl, ⟨fun _ => rfl, fun _ => rfl⟩, rfl⟩
  -- whatever the object, it is committed
  have hupdate : ∀ object,
      objectRead objectName (.ok t) (some (reportedTwin objectName s₁)) false = some object →
      Reference.ConfigurationDecodes object → Reference.PrioritiesDecode object →
      Reference.AggregationDecodes object →
      update objectName (.ok t) (some (reportedTwin objectName s₁)) false s₁
        = some (.ok, committed (.ok t) object) := by
    intro object ho hc hp ha
    have hcommits : Commits objectName s₁ ⟨.ok t, some (reportedTwin objectName s₁), false⟩ object :=
      ⟨ho, hc, hs.lock, rfl, hs.collectors, rfl, hp, ha⟩
    exact update_succeeds hcommits (hsucceeds object)
  unfold ComesBack
  by_cases hdot : '.' ∈ objectName.toList
  · rw [if_pos hdot] at hread ⊢
    rw [hupdate [] hread (by decide) (by decide) (by decide)]
    constructor
    · rintro ⟨s', hs', hconf, hprio⟩
      obtain ⟨-, rfl⟩ := Prod.mk.inj (Option.some.inj hs')
      exact ⟨hconf.symm, hprio.symm⟩
    · rintro ⟨hconf, hprio⟩
      exact ⟨_, rfl, hconf.symm, hprio.symm⟩
  · rw [if_neg hdot] at hread ⊢
    obtain ⟨hc, hconf⟩ := configuration_reported hd.configuration
    obtain ⟨hp, ha, hprio⟩ := priorities_reported hd.collectors
    rw [hupdate _ hread hc hp ha, ← rereadAll_eq_self_iff (others_reachable hreach), ← hprio]
    constructor
    · rintro ⟨s', hs', -, hprio'⟩
      obtain ⟨-, rfl⟩ := Prod.mk.inj (Option.some.inj hs')
      exact hprio'
    · intro hprio'
      exact ⟨_, rfl, hconf, hprio'⟩

/-- The text of the report after `Init`, under the name `"agent"`. -/
def defaultsText : String :=
  "\x7b\"agent\":\x7b"
    ++ "\"maxLocalCacheSizeInBytes\":\x7b\"value\":10485760\x7d,"
    ++ "\"maxMessageSizeInBytes\":\x7b\"value\":204800\x7d,"
    ++ "\"highPriorityMessageFrequency\":\x7b\"value\":\"PT7M\"\x7d,"
    ++ "\"lowPriorityMessageFrequency\":\x7b\"value\":\"PT5H\"\x7d,"
    ++ "\"snapshotFrequency\":\x7b\"value\":\"PT13H\"\x7d,"
    ++ "\"baselineCustomChecksEnabled\":\x7b\"value\":false\x7d,"
    ++ "\"eventPriorityOSBaseline\":\x7b\"value\":\"low\"\x7d,"
    ++ "\"eventPriorityConnectionCreate\":\x7b\"value\":\"low\"\x7d,"
    ++ "\"eventPriorityDiagnostic\":\x7b\"value\":\"low\"\x7d,"
    ++ "\"eventPriorityFirewallConfiguration\":\x7b\"value\":\"low\"\x7d,"
    ++ "\"eventPriorityListeningPorts\":\x7b\"value\":\"high\"\x7d,"
    ++ "\"eventPriorityLocalUsers\":\x7b\"value\":\"high\"\x7d,"
    ++ "\"eventPriorityLogin\":\x7b\"value\":\"high\"\x7d,"
    ++ "\"eventPriorityOperational\":\x7b\"value\":\"high\"\x7d,"
    ++ "\"eventPriorityProcessCreate\":\x7b\"value\":\"low\"\x7d,"
    ++ "\"eventPrioritySystemInformation\":\x7b\"value\":\"low\"\x7d,"
    ++ "\"aggregationEnabledProcessCreate\":\x7b\"value\":true\x7d,"
    ++ "\"aggregationIntervalProcessCreate\":\x7b\"value\":\"PT1H\"\x7d,"
    ++ "\"aggregationEnabledConnectionCreate\":\x7b\"value\":true\x7d,"
    ++ "\"aggregationIntervalConnectionCreate\":\x7b\"value\":\"PT1H\"\x7d\x7d\x7d"

theorem report_round_trip_iff_defaults :
    (∃ s', update "agent" (.ok 0) (some (reportedTwin "agent" init)) false init = some (.ok, s')
        ∧ s'.configuration = init.configuration
        ∧ s'.collectors.eventPriorities = init.collectors.eventPriorities)
      ↔ ComesBack "agent" init := by
  have hround := report_round_trip_iff "agent" init .start ⟨rfl, rfl, rfl⟩ .ok
    (reportedTwin "agent" init) init (report_ok ⟨rfl, rfl, rfl⟩ durationsPrint_init)
    (fun _ => defaultsText)
    (fun text => if text = defaultsText then some (reportedTwin "agent" init) else none)
    (if_pos rfl) 0
  rwa [if_pos rfl] at hround

/-- The configuration after `Init` is reported with the operational priority as `"high"`, and that
is what it is when the report has been read back. -/
theorem reported_operational_comes_back_high :
    ¬ ∀ (objectName : String) (s : TwinModule) (o : ReportOutcome) (twin : Json)
      (s₁ : TwinModule) (serialize : Json → String) (parse : String → Option Json) (t : Int),
      Machine.Reaches (step objectName) init s → s.Usable →
      getSerializedTwinConfiguration objectName o s = some (.ok, some twin, s₁) →
      parse (serialize twin) = some twin →
      ∃ s', update objectName (.ok t) (parse (serialize twin)) false s₁ = some (.ok, s')
        ∧ s'.configuration = s.configuration
        ∧ s'.collectors.eventPriorities = s.collectors.eventPriorities := by
  intro h
  obtain ⟨s', hs', -, hprio⟩ := h "agent" init .ok (reportedTwin "agent" init) init
    (fun _ => defaultsText)
    (fun text => if text = defaultsText then some (reportedTwin "agent" init) else none) 0
    .start ⟨rfl, rfl, rfl⟩ (report_ok ⟨rfl, rfl, rfl⟩ durationsPrint_init) (if_pos rfl)
  rw [if_pos rfl] at hs'
  have hdot : '.' ∉ "agent".toList := by decide
  have hread := objectRead_reported "agent" init 0
  rw [if_neg hdot] at hread
  obtain ⟨hc, -⟩ := configuration_reported durationsPrint_init.configuration
  obtain ⟨hp, ha, hreread⟩ := priorities_reported durationsPrint_init.collectors
  have hcommits : Commits "agent" init ⟨.ok 0, some (reportedTwin "agent" init), false⟩
      (writeAll [] (reported init)) :=
    ⟨hread, hc, rfl, rfl, ⟨rfl, rfl⟩, rfl, hp, ha⟩
  have hstep := update_succeeds hcommits ⟨rfl, ⟨fun _ => rfl, fun _ => rfl⟩, rfl⟩
  obtain ⟨-, rfl⟩ := Prod.mk.inj (Option.some.inj (hs'.symm.trans hstep))
  have hhigh := congrArg EventPriorities.operational (hreread.symm.trans hprio)
  exact absurd hhigh (by decide)

end TwinModule

end SecurityAgent
