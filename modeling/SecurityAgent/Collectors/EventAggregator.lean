import SecurityAgent.Collectors.GenericEvent
import SecurityAgent.Lib.Run
import SecurityAgent.Storage.SyncQueue
import SecurityAgent.Util.TimeDiff

/-!
# Counting equal events: `event_aggregator.c`

The aggregator keeps one item for each payload it has seen, with the number of
times it has seen it. When the interval has passed, or when aggregation has been turned off,
every item is made into one event that carries its hit count, and the items
are dropped, all of them, whether their events got into the queue or not.

The linked list is a list, new items at its end. What the JSON parser and its comparison
do with payloads are arguments.
-/

namespace SecurityAgent

/-- `EventAggregatorResult`. -/
inductive EventAggregatorResult where
  | ok
  | disabled
  | exception
  deriving DecidableEq, Repr

/-- `AggregatedEventItem`. -/
structure AggregatedEventItem where
  json : JsonObjectWriter
  hitCount : UInt32

/-- `EventAggregator`. -/
structure EventAggregator where
  eventType : String
  eventName : String
  payloadSchemaVersion : String
  aggregatedEvents : List AggregatedEventItem
  lastAggregationTime : Int

/-- What the environment answers during one `EventAggregator_AggregateEvent`. -/
structure AggregateOutcome where
  /-- `TwinConfigurationEventCollectors_GetAggregationEnabled`, `none` when it fails. -/
  isEnabled : Option Bool
  /-- The allocation of an item. -/
  malloc : Bool
  /-- The allocations of `JsonObjectWriter_Copy`. -/
  copy : Bool
  /-- `singlylinkedlist_add`. -/
  add : Bool

/-- What the environment answers while one item is made into an event. -/
structure EmitOutcome where
  /-- `JsonObjectWriter_Init`. -/
  event : Bool
  metadata : MetadataOutcome
  /-- `JsonArrayWriter_Init`. -/
  payloads : Bool
  /-- `JsonObjectWriter_Init` for the aggregation metadata, where the payload has no details. -/
  details : Bool
  /-- The writes of the aggregation metadata. -/
  writeDetails : Bool
  /-- `JsonArrayWriter_AddObject`. -/
  addObject : Bool
  /-- `GenericEvent_AddPayload`. -/
  addPayload : Bool
  /-- `JsonObjectWriter_Serialize`. -/
  serialize : Bool
  /-- `SyncQueue_PushBack`. -/
  push : SyncQueueResult

/-- Nothing fails. -/
structure EmitOutcome.Succeeds (clock : Clock) (o : EmitOutcome) : Prop where
  event : o.event = true
  metadata : o.metadata.Succeeds clock
  payloads : o.payloads = true
  details : o.details = true
  writeDetails : o.writeDetails = true
  addObject : o.addObject = true
  addPayload : o.addPayload = true
  serialize : o.serialize = true
  push : o.push = .queue .ok

/-- What the environment answers during one `EventAggregator_GetAggregatedEvents`. -/
structure EmissionOutcome where
  /-- `TimeUtils_GetCurrentTime`. -/
  now : Int
  isEnabled : Option Bool
  /-- `TwinConfigurationEventCollectors_GetAggregationInterval`. -/
  aggregationInterval : Option UInt32
  item : Nat → EmitOutcome

namespace EventAggregator

def HIT_COUNT_KEY : String := "HitCount"
def START_TIME_LOCAL_KEY : String := "StartTimeLocal"
def START_TIME_UTC_KEY : String := "StartTimeUtc"
def END_TIME_LOCAL_KEY : String := "EndTimeLocal"
def END_TIME_UTC_KEY : String := "EndTimeUtc"
def EXTRA_DETAILS_KEY : String := "ExtraDetails"

/-! ## Counting -/

section

variable (equals : Json → Json → Bool) (serialize : Json → String) (parse : String → Option Json)

/-- `EventAggregator_MatchEvent`. -/
def matchEvent (eventPayload : JsonObjectWriter) (item : AggregatedEventItem) : Bool :=
  equals item.json.rootValue eventPayload.rootValue

/-- One more hit for the first item with this payload, `none` if there is no such item:
`EventAggregator_SearchEvent` and the increment. -/
def hit (eventPayload : JsonObjectWriter) :
    List AggregatedEventItem → Option (List AggregatedEventItem)
  | [] => none
  | item :: items =>
      if matchEvent equals eventPayload item then
        some ({ item with hitCount := item.hitCount + 1 } :: items)
      else (hit eventPayload items).map (item :: ·)

/-- `EventAggregator_AddNewEvent`. -/
def addNewEvent (o : AggregateOutcome) (a : EventAggregator) (eventPayload : JsonObjectWriter) :
    EventAggregatorResult × EventAggregator :=
  if o.malloc then
    match JsonObjectWriter.initFromString o.copy (parse (serialize eventPayload.rootValue)) with
    | none => (.exception, a)
    | some json =>
        if o.add then
          (.ok, { a with aggregatedEvents := a.aggregatedEvents ++ [⟨json, 1⟩] })
        else (.exception, a)
  else (.exception, a)

/-- `EventAggregator_AggregateEvent`. -/
def aggregateEvent (o : AggregateOutcome) (a : EventAggregator) (eventPayload : JsonObjectWriter) :
    EventAggregatorResult × EventAggregator :=
  match o.isEnabled with
  | none => (.exception, a)
  | some false => (.disabled, a)
  | some true =>
      match hit equals eventPayload a.aggregatedEvents with
      | none => addNewEvent serialize parse o a eventPayload
      | some items => (.ok, { a with aggregatedEvents := items })

end

/-! ## Emitting -/

variable (clock : Clock)

/-- The writer `EventAggregator_AddAggregationMetadata` writes its metadata with: on the details of
the payload if it has any, else on an object of its own. -/
def detailsWriter (o : EmitOutcome) (payload : JsonObjectWriter) : Option JsonObjectWriter :=
  match payload.stepIn EXTRA_DETAILS_KEY with
  | some details => some details
  | none => if o.details then some JsonObjectWriter.init else none

/-- `EventAggregator_AddAggregationMetadata`. Details that are there are written to in place. -/
def addAggregationMetadata (o : EmitOutcome) (payload : JsonObjectWriter) (hitCount : UInt32)
    (aggregationStartTime aggregationEndTime : Int) : Option JsonObjectWriter :=
  match detailsWriter o payload, clock.timeAsString aggregationStartTime,
      clock.utcTimeAsString aggregationStartTime, clock.timeAsString aggregationEndTime,
      clock.utcTimeAsString aggregationEndTime with
  | some metadata, some startLocal, some startUtc, some endLocal, some endUtc =>
      if o.writeDetails then
        some (payload.writeObject EXTRA_DETAILS_KEY
          (((((metadata.writeInt HIT_COUNT_KEY hitCount.toInt32).writeString
            START_TIME_LOCAL_KEY startLocal).writeString START_TIME_UTC_KEY startUtc).writeString
            END_TIME_LOCAL_KEY endLocal).writeString END_TIME_UTC_KEY endUtc))
      else none
  | _, _, _, _, _ => none

/-- The document `EventAggregator_CreateSingleAggregatedEvent` makes of an item, up to its push. -/
def aggregatedEvent (o : EmitOutcome) (a : EventAggregator) (item : AggregatedEventItem)
    (aggregationEndTime : Int) : Option Json :=
  if o.event && o.payloads && o.addObject && o.serialize then
    (GenericEvent.addMetadata clock o.metadata JsonObjectWriter.init
        GenericEvent.EVENT_AGGREGATED_CATEGORY a.eventName a.eventType
        a.payloadSchemaVersion).bind fun event =>
      (addAggregationMetadata clock o item.json item.hitCount a.lastAggregationTime
        aggregationEndTime).bind fun payload =>
      (GenericEvent.addPayload o.addPayload event [payload.rootValue]).map
        JsonObjectWriter.rootValue
  else none

/-- `EventAggregator_CreateSingleAggregatedEvent`: its result and the event that is in the queue
when it returns, if any. -/
def createSingleAggregatedEvent (o : EmitOutcome) (a : EventAggregator) (item : AggregatedEventItem)
    (aggregationEndTime : Int) : EventAggregatorResult × Option Json :=
  match aggregatedEvent clock o a item aggregationEndTime with
  | none => (.exception, none)
  | some output =>
      match o.push with
      | .queue .ok => (.ok, some output)
      | .queue .maxMemoryExceeded => (.ok, none)
      | _ => (.exception, none)

/-- The loop of `EventAggregator_CreateAggregatedEvents`: its result, and the events with the items
they are of. -/
def createEvents (o : Nat → EmitOutcome) (a : EventAggregator) (aggregationEndTime : Int) :
    Nat → List AggregatedEventItem → EventAggregatorResult × List (AggregatedEventItem × Json)
  | _, [] => (.ok, [])
  | i, item :: items =>
      let (itemResult, pushed) := createSingleAggregatedEvent clock (o i) a item aggregationEndTime
      let (result, events) := createEvents o a aggregationEndTime (i + 1) items
      (if itemResult = .ok then result else .exception,
        (pushed.map fun event => (item, event)).toList ++ events)

/-- `EventAggregator_CreateAggregatedEvents`; the list is cleared whatever happened. -/
def createAggregatedEvents (o : Nat → EmitOutcome) (a : EventAggregator) (aggregationEndTime : Int) :
    EventAggregatorResult × List (AggregatedEventItem × Json) × EventAggregator :=
  let (result, events) := createEvents clock o a aggregationEndTime 0 a.aggregatedEvents
  (result, events, { a with aggregatedEvents := [] })

/-- `isIntervalPassed`: an `int32_t` compared with a `uint32_t`. -/
def isIntervalPassed (now lastAggregationTime : Int) (aggregationInterval : UInt32) : Bool :=
  (TimeUtils.getTimeDiff now lastAggregationTime).toUInt32 > aggregationInterval

/-- `EventAggregator_GetAggregatedEvents`: its result, the events it pushed, and whether it called
`EventAggregator_CreateAggregatedEvents`. -/
def getAggregatedEvents (o : EmissionOutcome) (a : EventAggregator) :
    EventAggregatorResult × List (AggregatedEventItem × Json) × Bool × EventAggregator :=
  match o.isEnabled, o.aggregationInterval with
  | some isAggregationEnabled, some aggregationInterval =>
      if isAggregationEnabled = false
          ∨ isIntervalPassed o.now a.lastAggregationTime aggregationInterval = true then
        let (result, events, a') := createAggregatedEvents clock o.item a o.now
        (result, events, true, { a' with lastAggregationTime := o.now })
      else (.ok, [], false, a)
  | _, _ => (.exception, [], false, a)

/-- The call makes events: aggregation is turned off, or the interval has passed. -/
def Emits (o : EmissionOutcome) (a : EventAggregator) : Prop :=
  ∃ isAggregationEnabled aggregationInterval, o.isEnabled = some isAggregationEnabled
    ∧ o.aggregationInterval = some aggregationInterval
    ∧ (isAggregationEnabled = false
      ∨ isIntervalPassed o.now a.lastAggregationTime aggregationInterval = true)

/-- The aggregator after events have been made. -/
def emptied (o : EmissionOutcome) (a : EventAggregator) : EventAggregator :=
  { a with aggregatedEvents := [], lastAggregationTime := o.now }

variable {clock}

theorem getAggregatedEvents_emits {o : EmissionOutcome} {a : EventAggregator} (h : Emits o a) :
    getAggregatedEvents clock o a
      = ((createEvents clock o.item a o.now 0 a.aggregatedEvents).1,
        (createEvents clock o.item a o.now 0 a.aggregatedEvents).2, true, emptied o a) := by
  obtain ⟨isAggregationEnabled, aggregationInterval, henabled, hinterval, hcase⟩ := h
  unfold getAggregatedEvents
  rw [henabled, hinterval]
  dsimp only
  rw [if_pos hcase]
  rfl

theorem getAggregatedEvents_keeps {o : EmissionOutcome} {a : EventAggregator}
    (h : ¬ Emits o a) : ∃ r, getAggregatedEvents clock o a = (r, [], false, a) := by
  unfold getAggregatedEvents
  cases henabled : o.isEnabled with
  | none => exact ⟨_, rfl⟩
  | some isAggregationEnabled =>
      cases hinterval : o.aggregationInterval with
      | none => exact ⟨_, rfl⟩
      | some aggregationInterval =>
          dsimp only
          rw [if_neg fun hcase => h ⟨_, _, henabled, hinterval, hcase⟩]
          exact ⟨_, rfl⟩

end EventAggregator

end SecurityAgent
