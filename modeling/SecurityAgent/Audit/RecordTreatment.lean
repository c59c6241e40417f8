import SecurityAgent.Audit.GenericAuditEvent

/-!
# What becomes of the records of a run

A record is one of three things to a collector: an event is made of it, it is
passed over, or it ends the loop. What a run makes is then an event for each
well-formed record up to the first that ends the loop, and the others are behind it.
-/

namespace SecurityAgent

namespace AuditCollector

variable {σ ω τ : Type}

/-- What a collector does with its records: which are well formed, which end the loop, and what the
event of a record is to say. -/
structure Treats (c : AuditCollector σ ω) (o : CollectionOutcome ω) (aggregation : Bool)
    (wellFormed : AuditEvent → Bool) (stops : Nat → AuditEvent → Bool)
    (describes : AuditEvent → Json → Prop) : Prop where
  event : ∀ i e s, wellFormed e = true → stops i e = false →
    ∃ j s', c.createEvent aggregation (o.record i) e s = (.ok, some j, s') ∧ describes e j
  passed : ∀ i e s, wellFormed e = false → stops i e = false →
    ∃ r s', c.createEvent aggregation (o.record i) e s = (r, none, s') ∧ c.endsLoop r = false
  stopped : ∀ i e s, stops i e = true →
    ∃ r s', c.createEvent aggregation (o.record i) e s = (r, none, s') ∧ c.endsLoop r = true
  ok : c.endsLoop .ok = false

/-- The records before the first that ends the loop. -/
def beforeStop (stops : Nat → AuditEvent → Bool) : Nat → List AuditEvent → List AuditEvent
  | _, [] => []
  | i, e :: es => if stops i e then [] else e :: beforeStop stops (i + 1) es

variable {wellFormed : AuditEvent → Bool} {stops : Nat → AuditEvent → Bool}

variable {c : AuditCollector σ ω} {o : CollectionOutcome ω} {aggregation : Bool}
  {describes : AuditEvent → Json → Prop}

/-- **What a run makes**: one event for each well-formed record before the first that ends the
loop, in order. -/
theorem Treats.made (h : c.Treats o aggregation wellFormed stops describes) (es : List AuditEvent) :
    ∀ i s, List.Forall₂ describes ((beforeStop stops i es).filter wellFormed)
      (handleAll c o aggregation i es s).made := by
  induction es with
  | nil => exact fun i s => List.Forall₂.nil
  | cons e es ih =>
      intro i s
      cases hstop : stops i e with
      | true =>
          obtain ⟨r, s', hcreate, hends⟩ := h.stopped i e s hstop
          simp only [beforeStop, hstop, if_true, handleAll, hcreate, hends, Collection.after,
            Collection.stopped, Option.toList_none, List.nil_append, List.filter_nil]
          exact List.Forall₂.nil
      | false =>
          simp only [beforeStop, hstop, Bool.false_eq_true, if_false]
          cases hwell : wellFormed e with
          | true =>
              obtain ⟨j, s', hcreate, hdescribes⟩ := h.event i e s hwell hstop
              simp only [handleAll, hcreate, h.ok, Bool.false_eq_true, if_false, Collection.after,
                Option.toList_some, List.cons_append, List.nil_append]
              rw [List.filter_cons_of_pos hwell]
              exact List.Forall₂.cons hdescribes (ih (i + 1) s')
          | false =>
              obtain ⟨r, s', hcreate, hends⟩ := h.passed i e s hwell hstop
              simp only [handleAll, hcreate, hends, Bool.false_eq_true, if_false, Collection.after,
                Option.toList_none, List.nil_append]
              rw [List.filter_cons_of_neg (by rw [hwell]; decide)]
              exact ih (i + 1) s'

section

variable {clock : Clock} {eventName payloadSchemaVersion : String}
  {noTime notSerialized : EventCollectorResult}
  {generatePayload : AuditEvent → τ → Except EventCollectorResult JsonObjectWriter × τ}
  {r : RecordOutcome} {e : AuditEvent} {s : EventAggregator × τ}

/-- An event of its own says which kind it is and when it happened, and has one payload. -/
def IsEvent (clock : Clock) (eventName : String) (time : UInt32) (payload : JsonObjectWriter)
    (event : Json) : Prop :=
  ∃ members, event = .object members
    ∧ members.lookup GenericEvent.EVENT_NAME_KEY = some (.string eventName)
    ∧ members.lookup GenericEvent.EVENT_LOCAL_TIMESTAMP_KEY
      = (clock.timeAsString time.toNat).map Json.string
    ∧ members.lookup GenericEvent.PAYLOAD_KEY = some (.array [payload.rootValue])

variable (eventName payloadSchemaVersion) in
/-- The metadata of an event, for a time that can be printed. -/
theorem addMetadataWithTimes_isSome (hr : r.Succeeds clock) {time : Int} (hp : clock.Prints time) :
    ∃ event, GenericEvent.addMetadataWithTimes clock r.metadata JsonObjectWriter.init
        GenericEvent.EVENT_TRIGGERED_CATEGORY eventName GenericEvent.EVENT_TYPE_SECURITY_VALUE
        payloadSchemaVersion time = some event
      ∧ event.rootObject.lookup GenericEvent.EVENT_NAME_KEY = some (.string eventName)
      ∧ event.rootObject.lookup GenericEvent.EVENT_LOCAL_TIMESTAMP_KEY
        = (clock.timeAsString time).map Json.string := by
  obtain ⟨_, hid, hwrite⟩ := hr.metadata
  obtain ⟨eventId, hid⟩ := Option.isSome_iff_exists.mp hid
  obtain ⟨localTime, hlocal⟩ := Option.isSome_iff_exists.mp hp.1
  obtain ⟨utcTime, hutc⟩ := Option.isSome_iff_exists.mp hp.2
  unfold GenericEvent.addMetadataWithTimes
  rw [hid, hlocal, hutc]
  dsimp only
  rw [if_pos hwrite]
  refine ⟨_, rfl, ?_, ?_⟩
  · simp [JsonObjectWriter.writeString, JsonObjectWriter.lookup_setValue,
      GenericEvent.EVENT_NAME_KEY, GenericEvent.EVENT_UTC_TIMESTAMP_KEY,
      GenericEvent.EVENT_LOCAL_TIMESTAMP_KEY, GenericEvent.EVENT_ID_KEY,
      GenericEvent.EVENT_PAYLOAD_SCHEMA_VERSION_KEY]
  · simp [JsonObjectWriter.writeString, JsonObjectWriter.lookup_setValue,
      GenericEvent.EVENT_UTC_TIMESTAMP_KEY, GenericEvent.EVENT_LOCAL_TIMESTAMP_KEY]

theorem createSingleEvent_ok (hr : r.Succeeds clock)
    (hclock : ∀ time : UInt32, clock.Prints time.toNat) (ht : e.timestamp = true)
    {payload : JsonObjectWriter} {extra : τ}
    (hpayload : generatePayload e s.2 = (.ok payload, extra)) :
    ∃ event, createSingleEvent clock eventName payloadSchemaVersion noTime notSerialized
        generatePayload r e s = (.ok, some event, s.1, extra)
      ∧ IsEvent clock eventName (UInt32.ofInt e.time.sec) payload event := by
  obtain ⟨event, hevent, hname, htime⟩ := addMetadataWithTimes_isSome eventName payloadSchemaVersion hr
    (hclock (UInt32.ofInt e.time.sec))
  simp only [createSingleEvent, hr.event, hr.payload, AuditEvent.getEventTime, ht, hevent, hpayload,
    hr.payloads, hr.addObject, hr.addPayload, hr.serialize, hr.push, GenericEvent.addPayload,
    Bool.true_eq_false, if_false, if_true, Bool.and_self]
  refine ⟨_, rfl, _, rfl, ?_, ?_, ?_⟩
  · rw [← hname]
    simp [JsonObjectWriter.writeArray, JsonObjectWriter.writeBool, JsonObjectWriter.lookup_setValue,
      GenericEvent.EVENT_NAME_KEY, GenericEvent.PAYLOAD_KEY, GenericEvent.EVENT_IS_EMPTY_KEY]
  · rw [← htime]
    simp [JsonObjectWriter.writeArray, JsonObjectWriter.writeBool, JsonObjectWriter.lookup_setValue,
      GenericEvent.EVENT_LOCAL_TIMESTAMP_KEY, GenericEvent.PAYLOAD_KEY,
      GenericEvent.EVENT_IS_EMPTY_KEY]
  · simp [JsonObjectWriter.writeArray, JsonObjectWriter.lookup_setValue, GenericEvent.PAYLOAD_KEY]

end

section

variable {equals : Json → Json → Bool} {serialize : Json → String} {parse : String → Option Json}
  {clock : Clock}
  {generatePayload : AuditEvent → τ → Except EventCollectorResult JsonObjectWriter × τ}
  {setToZero : AuditEvent → JsonObjectWriter → Except EventCollectorResult JsonObjectWriter}
  {r : RecordOutcome} {e : AuditEvent} {s : EventAggregator × τ}

end

end AuditCollector

end SecurityAgent
