import SecurityAgent.Audit.AuditCollector

/-!
# Making events of audit records: `generic_audit_event.c`, and what the two collectors share

A field goes from a record into the payload by one of three handlers. A payload goes
into the queue inside an event of its own, or to the aggregator after what would
tell one such event from another has been set to zero.
-/

namespace SecurityAgent

/-- What the environment answers while one record is handled. -/
structure RecordOutcome where
  /-- `JsonObjectWriter_Init` for the event. -/
  event : Bool
  metadata : MetadataOutcome
  /-- `JsonObjectWriter_Init` for the payload. -/
  payload : Bool
  /-- The writes of a member of the payload, by its key. -/
  write : String → Bool
  /-- The writes over it for the aggregator. -/
  rewrite : String → Bool
  /-- `JsonArrayWriter_Init`. -/
  payloads : Bool
  /-- `JsonArrayWriter_AddObject`. -/
  addObject : Bool
  /-- `GenericEvent_AddPayload`. -/
  addPayload : Bool
  /-- `JsonObjectWriter_Serialize`. -/
  serialize : Bool
  /-- `SyncQueue_PushBack`. -/
  push : SyncQueueResult
  aggregate : AggregateOutcome

/-- Nothing fails. -/
def RecordOutcome.ok : RecordOutcome :=
  ⟨true, ⟨0, some "", true⟩, true, fun _ => true, fun _ => true, true, true, true, true, .queue .ok,
    ⟨some true, true, true, true⟩⟩

/-- Allocations, JSON building and queue pushes succeed. -/
structure RecordOutcome.Succeeds (clock : Clock) (o : RecordOutcome) : Prop where
  event : o.event = true
  metadata : o.metadata.Succeeds clock
  payload : o.payload = true
  write : ∀ key, o.write key = true
  rewrite : ∀ key, o.rewrite key = true
  payloads : o.payloads = true
  addObject : o.addObject = true
  addPayload : o.addPayload = true
  serialize : o.serialize = true
  push : o.push = .queue .ok
  aggregate : o.aggregate.malloc = true ∧ o.aggregate.copy = true ∧ o.aggregate.add = true

namespace GenericAuditEvent

/-- The three handlers of `generic_audit_event.c`: `read` is what was read and `put` writes it. -/
def handleValue {α : Type} (written isOptional : Bool) (read : Except AuditSearchResult α)
    (put : α → JsonObjectWriter) (eventWriter : JsonObjectWriter) :
    Except EventCollectorResult JsonObjectWriter :=
  match read with
  | .ok value => if written then .ok (put value) else .error .exception
  | .error auditResult =>
      if isOptional = true ∧ auditResult = .fieldDoesNotExist then .ok eventWriter
      else .error .recordHasErrors

/-- `GenericAuditEvent_HandleIntValue`. -/
def handleIntValue (written : Bool) (eventWriter : JsonObjectWriter) (e : AuditEvent)
    (auditField jsonKey : String) (isOptional : Bool) :
    Except EventCollectorResult JsonObjectWriter :=
  handleValue written isOptional (e.readInt auditField) (eventWriter.writeInt jsonKey) eventWriter

/-- `GenericAuditEvent_HandleStringValue`. -/
def handleStringValue (written : Bool) (eventWriter : JsonObjectWriter) (e : AuditEvent)
    (auditField jsonKey : String) (isOptional : Bool) :
    Except EventCollectorResult JsonObjectWriter :=
  handleValue written isOptional (e.readString auditField) (eventWriter.writeString jsonKey)
    eventWriter

/-- `GenericAuditEvent_HandleInterpretStringValue`. -/
def handleInterpretStringValue (written : Bool) (eventWriter : JsonObjectWriter) (e : AuditEvent)
    (auditField jsonKey : String) (isOptional : Bool) :
    Except EventCollectorResult JsonObjectWriter :=
  handleValue written isOptional (e.interpretString auditField) (eventWriter.writeString jsonKey)
    eventWriter

end GenericAuditEvent

namespace AuditCollector

variable {τ : Type}

/-- `ProcessCreationCollector_CreateSingleEvent` and `ConnectionCreateEventCollector_CreateSingleEvent`.
They differ in the payload, in what a record without a time comes to, and in what an event that cannot
be serialized does. -/
def createSingleEvent (clock : Clock) (eventName payloadSchemaVersion : String)
    (noTime notSerialized : EventCollectorResult)
    (generatePayload : AuditEvent → τ → Except EventCollectorResult JsonObjectWriter × τ)
    (o : RecordOutcome) (e : AuditEvent) (s : EventAggregator × τ) :
    EventCollectorResult × Option Json × EventAggregator × τ :=
  if o.event = false then (.exception, none, s)
  else
    match e.getEventTime with
    | .error _ => (noTime, none, s)
    | .ok eventTimeInSeconds =>
        match GenericEvent.addMetadataWithTimes clock o.metadata JsonObjectWriter.init
            GenericEvent.EVENT_TRIGGERED_CATEGORY eventName GenericEvent.EVENT_TYPE_SECURITY_VALUE
            payloadSchemaVersion eventTimeInSeconds.toNat with
        | none => (.exception, none, s)
        | some event =>
            if o.payload = false then (.exception, none, s)
            else
              let (generated, extra) := generatePayload e s.2
              match generated with
              | .error result => (result, none, s.1, extra)
              | .ok payload =>
                  if o.payloads && o.addObject then
                    match GenericEvent.addPayload o.addPayload event [payload.rootValue] with
                    | none => (.exception, none, s.1, extra)
                    | some event =>
                        if o.serialize then
                          match o.push with
                          | .queue .ok => (.ok, some event.rootValue, s.1, extra)
                          | .queue .maxMemoryExceeded => (.outOfMem, none, s.1, extra)
                          | _ => (.exception, none, s.1, extra)
                        else (notSerialized, none, s.1, extra)
                  else (.exception, none, s.1, extra)

/-- `ProcessCreationCollector_CreateEventForAgrregation` and
`ConnectionCreationCollector_CreateEventForAggregation`. They differ in the payload and in what they
set to zero. -/
def createEventForAggregation (equals : Json → Json → Bool) (serialize : Json → String)
    (parse : String → Option Json)
    (generatePayload : AuditEvent → τ → Except EventCollectorResult JsonObjectWriter × τ)
    (setToZero : AuditEvent → JsonObjectWriter → Except EventCollectorResult JsonObjectWriter)
    (o : RecordOutcome) (e : AuditEvent) (s : EventAggregator × τ) :
    EventCollectorResult × Option Json × EventAggregator × τ :=
  if o.payload = false then (.exception, none, s)
  else
    let (generated, extra) := generatePayload e s.2
    match generated.bind (setToZero e) with
    | .error result => (result, none, s.1, extra)
    | .ok payload =>
        let (result, aggregator) :=
          EventAggregator.aggregateEvent equals serialize parse o.aggregate s.1 payload
        if result = .ok then (.ok, some payload.rootValue, aggregator, extra)
        else (.exception, none, aggregator, extra)

end AuditCollector

end SecurityAgent
