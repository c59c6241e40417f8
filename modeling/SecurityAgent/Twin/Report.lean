import SecurityAgent.Twin.Commit
import SecurityAgent.Twin.LockBalance
import SecurityAgent.Util.Duration

/-!
# What is reported

A report writes the settings one by one, each as an object with a `"value"`. A
write is a key and a value, a report is a list of writes, and what it gives is
the document in which every key has its value (`report_eq`).

A duration that cannot be printed would end the report. It never comes to that:
every duration a twin can give is a positive number of whole seconds, and so are
the defaults (`durations_reachable`).
-/

namespace SecurityAgent

open TwinConfigurationUtils EventCollectors

/-! ## Writes -/

/-- A setting as an object. -/
def settingObject (value : Json) : Json := .object [(VALUE_KEY, value)]

/-- The settings `ws` written one after the other. -/
def writeAll (ms : Json.Members) (ws : List (String × Json)) : Json.Members :=
  ws.foldl (fun ms w => Json.setMember ms w.1 (settingObject w.2)) ms

theorem lookup_writeAll_of_not_mem {ws : List (String × Json)} {key : String}
    (h : key ∉ ws.map Prod.fst) (ms : Json.Members) :
    (writeAll ms ws).lookup key = ms.lookup key := by
  induction ws generalizing ms with
  | nil => rfl
  | cons w ws ih =>
      rw [List.map_cons, List.mem_cons, not_or] at h
      show (writeAll (Json.setMember ms w.1 _) ws).lookup key = _
      rw [ih h.2, Json.lookup_setMember, if_neg h.1]

theorem writeAll_append (ms : Json.Members) (ws ws' : List (String × Json)) :
    writeAll ms (ws ++ ws') = writeAll (writeAll ms ws) ws' := List.foldl_append

/-- When no key is written twice, every key has the value written for it. -/
theorem lookup_writeAll {ws : List (String × Json)} (hnd : (ws.map Prod.fst).Nodup)
    {key : String} {value : Json} (h : (key, value) ∈ ws) (ms : Json.Members) :
    (writeAll ms ws).lookup key = some (settingObject value) := by
  induction ws generalizing ms with
  | nil => exact absurd h List.not_mem_nil
  | cons w ws ih =>
      rw [List.map_cons, List.nodup_cons] at hnd
      show (writeAll (Json.setMember ms w.1 _) ws).lookup key = _
      rcases List.mem_cons.mp h with rfl | hmem
      · rw [lookup_writeAll_of_not_mem hnd.1, Json.lookup_setMember, if_pos rfl]
      · exact ih hnd.2 hmem _

/-- The code `x` makes the writes `ws` when it succeeds, and it does when `available` holds. -/
structure Writes (available : Prop) (x : WriteM Unit) (ws : List (String × Json)) : Prop where
  succeeds : available → ∀ writer, x writer = .ok () ⟨writeAll writer.rootObject ws⟩
  writes : ∀ writer writer', x writer = .ok () writer' →
    writer'.rootObject = writeAll writer.rootObject ws

theorem bind_of_ok {x y : WriteM Unit} {writer writer' : JsonObjectWriter}
    (h : x writer = .ok () writer') : (x >>= fun _ => y) writer = y writer' := by
  show EStateM.bind _ _ _ = _
  unfold EStateM.bind
  rw [h]

theorem bind_of_error {x y : WriteM Unit} {writer writer' : JsonObjectWriter}
    {result : TwinConfigurationResult} (h : x writer = .error result writer') :
    (x >>= fun _ => y) writer = .error result writer' := by
  show EStateM.bind _ _ _ = _
  unfold EStateM.bind
  rw [h]

theorem Writes.bind {available : Prop} {x y : WriteM Unit} {ws ws' : List (String × Json)}
    (hx : Writes available x ws) (hy : Writes available y ws') :
    Writes available (x >>= fun _ => y) (ws ++ ws') := by
  constructor
  · intro h writer
    rw [bind_of_ok (hx.succeeds h writer), writeAll_append]
    exact hy.succeeds h _
  · intro writer writer' h
    cases hw : x writer with
    | error result w =>
        rw [bind_of_error hw] at h
        exact absurd h (by simp)
    | ok u w =>
        rw [bind_of_ok hw] at h
        rw [hy.writes w writer' h, hx.writes writer w hw, writeAll_append]

theorem writes_nothing (available : Prop) : Writes available (pure ()) [] :=
  ⟨fun _ _ => rfl, fun _ _ h => by cases h; rfl⟩

theorem writes_setting {available : Prop} {allocated : Bool} (h : available → allocated = true)
    {write : JsonObjectWriter → JsonObjectWriter} {key : String} {value : Json}
    (hwrite : ∀ writer, (write writer).rootObject
      = Json.setMember writer.rootObject key (settingObject value)) :
    Writes available (writeSetting allocated write) [(key, value)] := by
  constructor
  · intro ha writer
    rw [h ha]
    exact congrArg (EStateM.Result.ok ()) (congrArg JsonObjectWriter.mk (hwrite writer))
  · intro writer writer' hw
    unfold writeSetting at hw
    cases allocated with
    | false => exact absurd hw (by simp)
    | true => rw [← (EStateM.Result.ok.inj hw).2]; exact hwrite writer

/-- The value of a duration. -/
def timeValue (milisec : UInt32) : Json :=
  .string (String.ofList (TimeUtils.durationText milisec))

/-- A printed duration, and what is done with it. -/
theorem printDuration_bind {milisec : UInt32} (h : TimeUtils.MILLISECONDS_IN_A_SECOND ≤ milisec)
    {α : Type} (next : String → WriteM α) :
    (printDuration milisec >>= next)
      = next (String.ofList (TimeUtils.durationText milisec)) := by
  have hprint := TimeUtils.millisecondsToISO8601DurationString_eq h (Nat.le_refl _)
  funext writer
  show EStateM.bind _ _ _ = _
  unfold EStateM.bind printDuration
  rw [hprint]

/-! ## What the two modules write -/

/-- A positive number of whole seconds. -/
def WholeSeconds (milisec : UInt32) : Prop :=
  milisec.toNat % 1000 = 0 ∧ TimeUtils.MILLISECONDS_IN_A_SECOND ≤ milisec

/-- The writes of an optional string. -/
def optionalWrite (key : String) : Option String → List (String × Json)
  | none => []
  | some value => [(key, .string value)]

namespace TwinConfiguration

/-- The writes of `GetSerializedTwinConfiguration`. -/
def reported (c : TwinConfiguration) : List (String × Json) :=
  [(MAX_LOCAL_CACHE_SIZE_KEY, .number c.maxLocalCacheSize.toInt32.toInt)]
    ++ ([(MAX_MESSAGE_SIZE_KEY, .number c.maxMessageSize.toInt32.toInt)]
    ++ ([(HIGH_PRIORITY_MESSAGE_FREQUENCY_KEY, timeValue c.highPriorityMessageFrequency)]
    ++ ([(LOW_PRIORITY_MESSAGE_FREQUENCY_KEY, timeValue c.lowPriorityMessageFrequency)]
    ++ ([(SNAPSHOT_FREQUENCY_KEY, timeValue c.snapshotFrequency)]
    ++ ([(BASELINE_CUSTOM_CHECKS_ENABLED_KEY, .bool c.baselineCustomChecksEnabled)]
    ++ (optionalWrite BASELINE_CUSTOM_CHECKS_FILE_PATH_KEY c.baselineCustomChecksFilePath
    ++ optionalWrite BASELINE_CUSTOM_CHECKS_FILE_HASH_KEY c.baselineCustomChecksFileHash))))))

/-- The frequencies are durations the printer takes. -/
structure DurationsPrint (c : TwinConfiguration) : Prop where
  high : WholeSeconds c.highPriorityMessageFrequency
  low : WholeSeconds c.lowPriorityMessageFrequency
  snapshot : WholeSeconds c.snapshotFrequency

end TwinConfiguration

namespace EventCollectors

/-- The writes of `SafeGetPrioritiesJson`. -/
def reported (p : EventPriorities) : List (String × Json) :=
  [(BASELINE_PRIORITY_KEY, .string (priorityEnumAsString p.baselinePriority))]
    ++ ([(CONNECTION_CREATE_PRIORITY_KEY, .string (priorityEnumAsString p.connectionCreatePriority))]
    ++ ([(DIAGNOSTIC_PRIORITY_KEY, .string (priorityEnumAsString p.diagnostic))]
    ++ ([(FIREWALL_CONFIGURATION_PRIORITY_KEY,
        .string (priorityEnumAsString p.firewallConfigurationPriority))]
    ++ ([(LISTENING_PORTS_PRIORITY_KEY, .string (priorityEnumAsString p.listeningPortsPriority))]
    ++ ([(LOCAL_USERS_PRIORITY_KEY, .string (priorityEnumAsString p.localUsersPriority))]
    ++ ([(LOGIN_PRIORITY_KEY, .string (priorityEnumAsString p.loginPriority))]
    ++ ([(OPERATIONAL_EVENT_KEY, .string (priorityEnumAsString p.operational))]
    ++ ([(PROCESS_CREATE_PRIORITY_KEY, .string (priorityEnumAsString p.processCreatePriority))]
    ++ ([(SYSTEM_INFORMATION_PRIORITY_KEY,
        .string (priorityEnumAsString p.systemInformationPriority))]
    ++ ([(PROCESS_CREATE_AGGREGATION_ENABLED_KEY, .bool p.processCreateAggregationEnabled)]
    ++ ([(PROCESS_CREATE_AGGREGATION_INTERVAL_KEY, timeValue p.processCreateAggregationInterval)]
    ++ ([(CONNECTION_CREATE_AGGREGATION_ENABLED_KEY, .bool p.connectionCreateAggregationEnabled)]
    ++ [(CONNECTION_CREATE_AGGREGATION_INTERVAL_KEY,
        timeValue p.connectionCreateAggregationInterval)]))))))))))))

/-- The intervals are durations the printer takes. -/
structure DurationsPrint (p : EventPriorities) : Prop where
  processCreate : WholeSeconds p.processCreateAggregationInterval
  connectionCreate : WholeSeconds p.connectionCreateAggregationInterval

theorem writes_safeGetPrioritiesJson {p : EventPriorities} (h : DurationsPrint p)
    (allocated : Nat → Bool) :
    Writes (∀ i, allocated i = true) (safeGetPrioritiesJson allocated p) (reported p) := by
  unfold safeGetPrioritiesJson reported
  rw [printDuration_bind h.processCreate.2, printDuration_bind h.connectionCreate.2]
  iterate 13 refine (writes_setting (fun ha => ha _) fun _ => rfl).bind ?_
  exact writes_setting (fun ha => ha _) fun _ => rfl

end EventCollectors

namespace TwinModule

theorem writes_time {available : Prop} {allocated : Bool} (ha : available → allocated = true)
    {milisec : UInt32} (h : WholeSeconds milisec) (key : String) :
    Writes available (writeTime allocated key milisec) [(key, timeValue milisec)] := by
  unfold writeTime
  rw [printDuration_bind h.2]
  exact writes_setting ha fun _ => rfl

theorem writes_optionalString {available : Prop} {allocated : Bool}
    (ha : available → allocated = true) (key : String) (value : Option String) :
    Writes available (writeOptionalString allocated key value) (optionalWrite key value) := by
  cases value with
  | none => exact writes_nothing available
  | some value => exact writes_setting ha fun _ => rfl

theorem writes_configuration {c : TwinConfiguration} (h : c.DurationsPrint)
    (allocated : Nat → Bool) :
    Writes (∀ i, allocated i = true) (writeConfiguration allocated c) c.reported := by
  unfold writeConfiguration TwinConfiguration.reported
  iterate 2 refine (writes_setting (fun ha => ha _) fun _ => rfl).bind ?_
  refine (writes_time (fun ha => ha _) h.high _).bind ?_
  refine (writes_time (fun ha => ha _) h.low _).bind ?_
  refine (writes_time (fun ha => ha _) h.snapshot _).bind ?_
  refine (writes_setting (fun ha => ha _) fun _ => rfl).bind ?_
  exact (writes_optionalString (fun ha => ha _) _ _).bind
    (writes_optionalString (fun ha => ha _) _ _)

/-! ## The report -/

/-- The document a report gives. -/
def reportedTwin (objectName : String) (s : TwinModule) : Json :=
  .object [(objectName, .object
    (writeAll [] (s.configuration.reported ++ EventCollectors.reported s.collectors.eventPriorities)))]

/-- Every duration setting can be printed. -/
structure DurationsPrint (s : TwinModule) : Prop where
  configuration : s.configuration.DurationsPrint
  collectors : EventCollectors.DurationsPrint s.collectors.eventPriorities

/-- The result of the event collectors' part, and the writer it leaves. -/
def written (allocated : Nat → Bool) (p : EventPriorities) (writer : JsonObjectWriter) :
    TwinConfigurationResult × JsonObjectWriter :=
  match safeGetPrioritiesJson allocated p writer with
  | .ok _ writer => (.ok, writer)
  | .error result writer => (result, writer)

theorem prioritiesJsonBody_eq (allocated : Nat → Bool) (writer : JsonObjectWriter)
    (m : EventCollectors) :
    prioritiesJsonBody allocated writer m
      = ((written allocated m.eventPriorities writer).1,
          (written allocated m.eventPriorities writer).2, m) := by
  unfold prioritiesJsonBody written
  cases safeGetPrioritiesJson allocated m.eventPriorities writer <;> rfl

/-- The event collectors' part, on a module that is free. -/
theorem getPrioritiesJson_free {o : LockOutcomes} {allocated : Nat → Bool}
    {writer : JsonObjectWriter} {m : EventCollectors} (hm : m.Free) :
    getPrioritiesJson o allocated writer m
      = if o.lock then
          some (if o.unlock then (written allocated m.eventPriorities writer).1
              else .lockException,
            (written allocated m.eventPriorities writer).2, released o.unlock m)
        else some (.lockException, writer, m) := by
  unfold getPrioritiesJson
  rw [locked_free hm fun m' => by rw [prioritiesJsonBody_eq]; exact ⟨rfl, rfl⟩,
    prioritiesJsonBody_eq]
  rfl

variable {objectName : String} {o : ReportOutcome} {s : TwinModule}

theorem rootValue_writeObject (objectName : String) (writer : JsonObjectWriter) :
    (JsonObjectWriter.init.writeObject objectName writer).rootValue
      = .object [(objectName, .object writer.rootObject)] := rfl

theorem released_free {m : EventCollectors} (hm : m.Free) : released true m = m := by
  obtain ⟨p, handle, flag⟩ := m
  obtain ⟨rfl, rfl⟩ : handle = .free ∧ flag = false := ⟨hm.lock, hm.flag⟩
  rfl

/-- What is between the locks gives the document when everything is there. -/
theorem serializeConfiguration_ok (hs : s.collectors.Free) (hd : s.DurationsPrint) :
    serializeConfiguration objectName .ok s
      = some (.ok, some (reportedTwin objectName s), s.collectors) := by
  have hconf := (writes_configuration hd.configuration fun _ => true).succeeds (fun _ => rfl)
    JsonObjectWriter.init
  have hprio := (writes_safeGetPrioritiesJson hd.collectors fun _ => true).succeeds
    (fun _ => rfl) ⟨writeAll [] s.configuration.reported⟩
  unfold serializeConfiguration reportedTwin
  simp only [ReportOutcome.ok, Bool.true_eq_false, if_false]
  rw [hconf]
  dsimp only
  rw [getPrioritiesJson_free hs]
  unfold written
  rw [show JsonObjectWriter.init.rootObject = [] from rfl, hprio]
  rw [if_pos rfl, if_pos rfl, released_free hs, writeAll_append]
  dsimp only
  rw [rootValue_writeObject]

/-- It gives one only when all of it succeeds. -/
theorem serializeConfiguration_some (hs : s.collectors.Free) (hd : s.DurationsPrint)
    {r : TwinConfigurationResult} {twin : Json} {m : EventCollectors}
    (h : serializeConfiguration objectName o s = some (r, some twin, m)) :
    twin = reportedTwin objectName s ∧ m = s.collectors := by
  unfold serializeConfiguration at h
  split at h
  · exact absurd h (by simp)
  split at h
  · exact absurd h (by simp)
  cases hconf : writeConfiguration o.allocated s.configuration JsonObjectWriter.init with
  | error result _ => rw [hconf] at h; exact absurd h (by simp)
  | ok _ writer =>
      rw [hconf] at h
      dsimp only at h
      rw [getPrioritiesJson_free hs] at h
      cases hlock : o.collectorsLocks.lock with
      | false => rw [hlock] at h; exact absurd h (by simp)
      | true =>
          cases hunlock : o.collectorsLocks.unlock with
          | false => rw [hlock, hunlock] at h; exact absurd h (by simp)
          | true =>
              rw [hlock, hunlock, if_pos rfl, if_pos rfl] at h
              unfold written at h
              cases hprio : safeGetPrioritiesJson o.collectorsAllocated
                  s.collectors.eventPriorities writer with
              | error result w =>
                  obtain rfl := onlyException_safeGetPrioritiesJson _ _ _ _ _ hprio
                  rw [hprio] at h
                  exact absurd h (by simp)
              | ok _ w =>
                  rw [hprio] at h
                  dsimp only at h
                  split at h
                  · exact absurd h (by simp)
                  split at h
                  · exact absurd h (by simp)
                  simp only [Option.some.injEq, Prod.mk.injEq] at h
                  obtain ⟨-, rfl, rfl⟩ := h
                  have hw := (writes_configuration hd.configuration _).writes _ _ hconf
                  have hw' := (writes_safeGetPrioritiesJson hd.collectors _).writes _ _ hprio
                  refine ⟨?_, released_free hs⟩
                  rw [rootValue_writeObject, hw', hw, ← writeAll_append]
                  rfl

/-- With locks and memory a report is made. -/
theorem report_ok (hs : s.Usable) (hd : s.DurationsPrint) :
    getSerializedTwinConfiguration objectName .ok s
      = some (.ok, some (reportedTwin objectName s), s) := by
  obtain ⟨c, handle, m, u⟩ := s
  obtain rfl : handle = .free := hs.lock
  unfold getSerializedTwinConfiguration
  rw [serializeConfiguration_ok hs.collectors hd]
  rfl

/-- Whatever the environment answers, a report that is made is that one. -/
theorem report_eq (hs : s.Usable) (hd : s.DurationsPrint) {twin : Json} {s' : TwinModule}
    (h : getSerializedTwinConfiguration objectName o s = some (.ok, some twin, s')) :
    twin = reportedTwin objectName s ∧ s' = s := by
  obtain ⟨c, handle, m, u⟩ := s
  obtain rfl : handle = .free := hs.lock
  unfold getSerializedTwinConfiguration at h
  cases hlock : o.locks.lock with
  | false => rw [hlock] at h; exact absurd h (by simp [LockHandle.lock])
  | true =>
      rw [hlock] at h
      simp only [LockHandle.lock, if_true] at h
      cases hser : serializeConfiguration objectName o ⟨c, .free, m, u⟩ with
      | none => rw [hser] at h; exact absurd h (by simp)
      | some answer =>
          obtain ⟨r, twin', m'⟩ := answer
          rw [hser] at h
          cases hunlock : o.locks.unlock with
          | false => rw [hunlock] at h; exact absurd h (by simp [LockHandle.unlock])
          | true =>
              rw [hunlock] at h
              simp only [LockHandle.unlock, if_true, Option.some.injEq, Prod.mk.injEq] at h
              obtain ⟨-, rfl, rfl⟩ := h
              obtain ⟨htwin, rfl⟩ := serializeConfiguration_some hs.collectors hd hser
              exact ⟨htwin, rfl⟩

/-! ## Every configuration there can be -/

theorem settingOf_asTime {object : Json.Members} {key : String} {milisec : UInt32}
    (h : settingOf JsonObjectReader.asTime object key = .value milisec) : WholeSeconds milisec := by
  have hdecode : ∀ v, JsonObjectReader.asTime v = some milisec → WholeSeconds milisec := by
    intro v hv
    cases v with
    | string text => exact TimeUtils.iso8601DurationString_wholeSeconds hv
    | null | bool _ | number _ | array _ | object _ => exact absurd hv (by simp [JsonObjectReader.asTime])
  unfold settingOf at h
  split at h
  · exact absurd h (by simp)
  · exact absurd h (by simp)
  · split at h
    · exact absurd h (by simp)
    · split at h
      · exact absurd h (by simp)
      · rename_i v _ _ hv
        rw [Setting.value.inj h] at hv
        exact hdecode _ hv
  · exact absurd h (by simp)

/-- What a document gives for a duration, or its default. -/
theorem getD_wholeSeconds {object : Json.Members} {key : String} {d : UInt32}
    (hd : WholeSeconds d) :
    WholeSeconds ((settingOf JsonObjectReader.asTime object key).getD d) := by
  cases h : settingOf JsonObjectReader.asTime object key with
  | absent | invalid => exact hd
  | value milisec => exact settingOf_asTime h

theorem durationsPrint_configuration (object : Json.Members) :
    (Reference.configuration object).DurationsPrint where
  high := getD_wholeSeconds ⟨by decide, by decide⟩
  low := getD_wholeSeconds ⟨by decide, by decide⟩
  snapshot := getD_wholeSeconds ⟨by decide, by decide⟩

theorem durationsPrint_priorities (object : Json.Members) :
    EventCollectors.DurationsPrint (Reference.priorities object) where
  processCreate := getD_wholeSeconds ⟨by decide, by decide⟩
  connectionCreate := getD_wholeSeconds ⟨by decide, by decide⟩

theorem durationsPrint_init : DurationsPrint init where
  configuration := ⟨⟨by decide, by decide⟩, ⟨by decide, by decide⟩, ⟨by decide, by decide⟩⟩
  collectors := ⟨⟨by decide, by decide⟩, ⟨by decide, by decide⟩⟩

/-- An update keeps the durations printable, whatever becomes of it. -/
theorem durationsPrint_step {call : UpdateCall} {r : TwinConfigurationResult} {s' : TwinModule}
    (hs : s.DurationsPrint) (hstep : step objectName s call = some (r, s')) :
    s'.DurationsPrint := by
  obtain ⟨hconf, hprio⟩ := step_settings hstep
  constructor
  · rcases hconf with h | ⟨object, filePath, fileHash, h⟩
    · exact h ▸ hs.configuration
    · rw [h]
      obtain ⟨hhigh, hlow, hsnapshot⟩ := durationsPrint_configuration object
      exact ⟨hhigh, hlow, hsnapshot⟩
  · rcases hprio with h | h | ⟨object, h⟩
    · exact h ▸ hs.collectors
    · rw [h]
      exact ⟨hs.collectors.processCreate, hs.collectors.connectionCreate⟩
    · exact h ▸ durationsPrint_priorities object

/-- The duration settings. -/
def durations (s : TwinModule) : List UInt32 :=
  [s.configuration.highPriorityMessageFrequency, s.configuration.lowPriorityMessageFrequency,
    s.configuration.snapshotFrequency,
    s.collectors.eventPriorities.processCreateAggregationInterval,
    s.collectors.eventPriorities.connectionCreateAggregationInterval]

theorem DurationsPrint.mem (hd : s.DurationsPrint) {milisec : UInt32}
    (h : milisec ∈ s.durations) : WholeSeconds milisec := by
  obtain ⟨⟨h1, h2, h3⟩, h4, h5⟩ := hd
  simp only [durations, List.mem_cons, List.not_mem_nil, or_false] at h
  rcases h with rfl | rfl | rfl | rfl | rfl <;> assumption

/-- **Every reachable configuration can be reported**: its durations are a second or more, their
texts fit the buffer, and a report fails only if a lock or the memory does. -/
theorem durations_reported (objectName : String) (calls : List UpdateCall) :
    Machine.Throughout (step objectName)
      (fun s => (∀ milisec ∈ s.durations, 1000 ≤ milisec.toNat ∧ milisec.toNat < 2 ^ 32
          ∧ ∃ text, TimeUtils.millisecondsToISO8601DurationString milisec
              TimeUtils.DURATION_MAX_LENGTH = some text
            ∧ text.length < TimeUtils.DURATION_MAX_LENGTH)
        ∧ (s.Usable → getSerializedTwinConfiguration objectName .ok s
          = some (.ok, some (reportedTwin objectName s), s))) init calls := by
  refine Machine.Throughout.of_invariant (I := DurationsPrint) (fun s hd => ?_)
    (fun s call r s' hd hstep => durationsPrint_step hd hstep) durationsPrint_init
  refine ⟨fun milisec hm => ?_, fun hs => report_ok hs hd⟩
  have hms := (hd.mem hm).2
  refine ⟨UInt32.le_iff_toNat_le.mp hms, milisec.toNat_lt, _, ?_,
    TimeUtils.length_durationText milisec⟩
  exact TimeUtils.millisecondsToISO8601DurationString_eq hms (Nat.le_refl _)

end TwinModule

end SecurityAgent
