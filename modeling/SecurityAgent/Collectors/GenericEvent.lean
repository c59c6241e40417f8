import SecurityAgent.Json.JsonObjectWriter

/-!
# What all events have: `generic_event.c`

An event names its category, its type and its schema, has an identifier and two times, and
carries an array of payloads. How times are printed is the C library's matter.
-/

namespace SecurityAgent

/-- `EventCollectorResult`. -/
inductive EventCollectorResult where
  | ok
  | recordHasErrors
  | recordFiltered
  | outOfMem
  | exception
  deriving DecidableEq, Repr

/-- What `TimeUtils_GetTimeAsString` and `TimeUtils_GetLocalTimeAsUTCTimeAsString` print, `none`
when they return false. -/
structure Clock where
  timeAsString : Int → Option String
  utcTimeAsString : Int → Option String

/-- A time that can be printed. -/
def Clock.Prints (clock : Clock) (time : Int) : Prop :=
  (clock.timeAsString time).isSome = true ∧ (clock.utcTimeAsString time).isSome = true

/-- What the environment answers while metadata are added. -/
structure MetadataOutcome where
  /-- `TimeUtils_GetCurrentTime`. -/
  currentTime : Int
  /-- `UniqueId_Generate`. -/
  uniqueId : Option String
  /-- Every `JsonObjectWriter_WriteString`. -/
  write : Bool

/-- Nothing fails. -/
def MetadataOutcome.Succeeds (clock : Clock) (o : MetadataOutcome) : Prop :=
  clock.Prints o.currentTime ∧ o.uniqueId.isSome = true ∧ o.write = true

namespace GenericEvent

def EVENT_CATEGORY_KEY : String := "Category"
def EVENT_TYPE_KEY : String := "EventType"
def EVENT_NAME_KEY : String := "Name"
def EVENT_PAYLOAD_SCHEMA_VERSION_KEY : String := "PayloadSchemaVersion"
def EVENT_ID_KEY : String := "Id"
def EVENT_LOCAL_TIMESTAMP_KEY : String := "TimestampLocal"
def EVENT_UTC_TIMESTAMP_KEY : String := "TimestampUTC"
def EVENT_IS_EMPTY_KEY : String := "IsEmpty"
def PAYLOAD_KEY : String := "Payload"
def EVENT_PERIODIC_CATEGORY : String := "Periodic"
def EVENT_TRIGGERED_CATEGORY : String := "Triggered"
def EVENT_AGGREGATED_CATEGORY : String := "Aggregated"
def EVENT_TYPE_SECURITY_VALUE : String := "Security"
def EVENT_TYPE_OPERATIONAL_VALUE : String := "Operational"

/-- `GenericEvent_AddMetadataWithTimes`. -/
def addMetadataWithTimes (clock : Clock) (o : MetadataOutcome) (eventWriter : JsonObjectWriter)
    (eventCategory eventName eventType eventPayloadVersion : String) (eventLocalTime : Int) :
    Option JsonObjectWriter :=
  match o.uniqueId, clock.timeAsString eventLocalTime, clock.utcTimeAsString eventLocalTime with
  | some eventId, some localTime, some utcTime =>
      if o.write then
        some (((((((eventWriter.writeString EVENT_CATEGORY_KEY eventCategory).writeString
          EVENT_TYPE_KEY eventType).writeString EVENT_NAME_KEY eventName).writeString
          EVENT_PAYLOAD_SCHEMA_VERSION_KEY eventPayloadVersion).writeString
          EVENT_ID_KEY eventId).writeString EVENT_LOCAL_TIMESTAMP_KEY localTime).writeString
          EVENT_UTC_TIMESTAMP_KEY utcTime)
      else none
  | _, _, _ => none

/-- `GenericEvent_AddMetadata`. -/
def addMetadata (clock : Clock) (o : MetadataOutcome) (eventWriter : JsonObjectWriter)
    (eventCategory eventName eventType eventPayloadVersion : String) : Option JsonObjectWriter :=
  addMetadataWithTimes clock o eventWriter eventCategory eventName eventType eventPayloadVersion
    o.currentTime

/-- Metadata are added if nothing fails, the name among them. -/
theorem addMetadata_cases (clock : Clock) (o : MetadataOutcome)
    (eventCategory eventName eventType eventPayloadVersion : String) :
    (o.Succeeds clock → ∃ eventWriter, addMetadata clock o JsonObjectWriter.init eventCategory
      eventName eventType eventPayloadVersion = some eventWriter
        ∧ eventWriter.rootObject.lookup EVENT_NAME_KEY = some (.string eventName))
      ∧ (¬ o.Succeeds clock → addMetadata clock o JsonObjectWriter.init eventCategory eventName
        eventType eventPayloadVersion = none) := by
  unfold MetadataOutcome.Succeeds Clock.Prints addMetadata addMetadataWithTimes
  cases o.uniqueId with
  | none => exact ⟨fun h => absurd h.2.1 (by decide), fun _ => rfl⟩
  | some eventId =>
      cases clock.timeAsString o.currentTime with
      | none => exact ⟨fun h => absurd h.1.1 (by decide), fun _ => rfl⟩
      | some localTime =>
          cases clock.utcTimeAsString o.currentTime with
          | none => exact ⟨fun h => absurd h.1.2 (by decide), fun _ => rfl⟩
          | some utcTime =>
              cases o.write with
              | false => exact ⟨fun h => absurd h.2.2 (by decide), fun _ => rfl⟩
              | true =>
                  exact ⟨fun _ => ⟨_, rfl, rfl⟩,
                    fun h => absurd ⟨⟨rfl, rfl⟩, rfl, rfl⟩ h⟩

/-- `GenericEvent_AddPayload`. `write` says whether both writes succeed. -/
def addPayload (write : Bool) (eventWriter : JsonObjectWriter) (payloads : List Json) :
    Option JsonObjectWriter :=
  if write then
    some ((eventWriter.writeBool EVENT_IS_EMPTY_KEY (payloads.length == 0)).writeArray
      PAYLOAD_KEY payloads)
  else none

end GenericEvent

end SecurityAgent
