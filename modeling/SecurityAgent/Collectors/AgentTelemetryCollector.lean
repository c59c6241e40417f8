import Mathlib.Algebra.Ring.Int.Defs
import SecurityAgent.Collectors.GenericEvent
import SecurityAgent.Storage.MeteredQueue

/-!
# Reporting dropped events: `agent_telemetry_collector.c`

The collector reads the counters of the two event queues, resetting each as it
reads it, puts what it read into one event and pushes that into a queue. It holds
no lock over all this, so other pushes come in between: it is a machine here, and
`Collection` is where `AgentTelemetryCollector_AddDroppedEventsEvent` stands.

A step also says what has happened in it, for the accounts: which counters went
up, which event was placed in a queue, and which counts were given up with the
event they were for.
-/

namespace SecurityAgent

open Machine

variable {μ : Type}

/-- `AgentQueueMeter`. -/
inductive AgentQueueMeter where
  | highPriority
  | lowPriority
  deriving DecidableEq, Repr

/-- The fields of `QueueCounter`. -/
inductive CounterField where
  | collected
  | dropped
  deriving DecidableEq, Repr

/-- The count in a field. -/
def QueueCounter.get (c : QueueCounter) : CounterField → UInt32
  | .collected => c.collected
  | .dropped => c.dropped

namespace AgentTelemetryCollector

def AGENT_TELEMETRY_QUEUE_EVENTS_KEY : String := "Queue"
def AGENT_TELEMETRY_COLLECTED_EVENTS_KEY : String := "CollectedEvents"
def AGENT_TELEMETRY_DROPPED_EVENTS_KEY : String := "DroppedEvents"
def AGENT_TELEMETRY_DROPPED_EVENTS_NAME : String := "DroppedEventsStatistics"
def AGENT_TELEMETRY_DROPPED_EVENTS_SCHEMA_VERSION : String := "1.0"
def HIGH_PRIO_QUEUE_NAME : String := "High"
def LOW_PRIO_QUEUE_NAME : String := "Low"

/-- The `queueName` of a queue. -/
def queueName : AgentQueueMeter → String
  | .highPriority => HIGH_PRIO_QUEUE_NAME
  | .lowPriority => LOW_PRIO_QUEUE_NAME

/-- The object `AgentTelemetryCollector_AddDroppedEventsStatsPayload` writes. `WriteInt` takes an
`int`: a count from `2^31` on is written as a negative number. -/
def statsPayload (queueCounterData : QueueCounter) (queueMeter : AgentQueueMeter) : Json :=
  (((JsonObjectWriter.init.writeString AGENT_TELEMETRY_QUEUE_EVENTS_KEY
    (queueName queueMeter)).writeInt AGENT_TELEMETRY_COLLECTED_EVENTS_KEY
    queueCounterData.collected.toInt32).writeInt AGENT_TELEMETRY_DROPPED_EVENTS_KEY
    queueCounterData.dropped.toInt32).rootValue

/-- Where `AgentTelemetryCollector_AddDroppedEventsEvent` stands. -/
inductive Collection where
  /-- It is not running. -/
  | idle
  /-- The payload array has what it has; the counters of `queueMeter` are read next. -/
  | reading (event : JsonObjectWriter) (payload : List Json) (queueMeter : AgentQueueMeter)
  /-- They have been read, and are written into the payload next. -/
  | writing (event : JsonObjectWriter) (payload : List Json) (queueMeter : AgentQueueMeter)
      (counterData : QueueCounter)
  /-- The payload is complete. -/
  | adding (event : JsonObjectWriter) (payload : List Json)
  /-- The event is complete. -/
  | pushing (event : JsonObjectWriter)

/-- What the environment answers to the collector's next step. -/
structure CollectorOutcome (μ : Type) where
  /-- The JSON calls of the step, allocations included. -/
  json : Bool
  clock : Clock
  metadata : MetadataOutcome
  /-- The lock of the counter read, or of the queue pushed to. -/
  lock : LockOutcome
  /-- The queue the event goes to. -/
  queue : AgentQueueMeter
  mon : MonitorCalls μ
  push : PushOutcome
  /-- The length of the serialized event. -/
  dataSize : UInt32

/-- Both queues and the collector. -/
structure Telemetry (μ : Type) where
  monitor : μ
  queues : AgentQueueMeter → MeteredQueue Json
  collection : Collection

/-- One thing that happens: a push by anyone, or the collector's next step. -/
inductive TelemetryOp (μ : Type) where
  | pushBack (queue : AgentQueueMeter) (lock : LockOutcome) (mon : MonitorCalls μ)
      (o : PushOutcome) (event : Json) (dataSize : UInt32)
  | collect (o : CollectorOutcome μ)

/-- What has happened in a step. -/
structure Happened where
  /-- The calls of `AgentTelemetryCounter_IncreaseBy` that went through. -/
  increments : AgentQueueMeter → CounterField → Nat
  /-- The telemetry event a push placed in a queue. -/
  placed : Option Json
  /-- The counts that were read and have gone with their event. -/
  lost : AgentQueueMeter → CounterField → Int

/-- Nothing of note. -/
def Happened.nothing : Happened := ⟨fun _ _ => 0, none, fun _ _ => 0⟩

/-! ## Accounts -/

/-- The count as it is written into an event. -/
def writtenCount (c : QueueCounter) (field : CounterField) : Int := (c.get field).toInt32.toInt

/-- The key a count is written under. -/
def fieldKey : CounterField → String
  | .collected => AGENT_TELEMETRY_COLLECTED_EVENTS_KEY
  | .dropped => AGENT_TELEMETRY_DROPPED_EVENTS_KEY

/-- The count an object of a payload has for a queue. -/
def payloadCount (queueMeter : AgentQueueMeter) (field : CounterField) : Json → Int
  | .object ms =>
      match ms.lookup AGENT_TELEMETRY_QUEUE_EVENTS_KEY, ms.lookup (fieldKey field) with
      | some (.string name), some (.number n) => if name = queueName queueMeter then n.num else 0
      | _, _ => 0
  | _ => 0

/-- The counts a payload has for a queue. -/
def payloadCounts (payload : List Json) (queueMeter : AgentQueueMeter) (field : CounterField) :
    Int :=
  (payload.map (payloadCount queueMeter field)).sum

/-- The counts an event carries for a queue. -/
def carriedCounts (event : Json) (queueMeter : AgentQueueMeter) (field : CounterField) : Int :=
  match event with
  | .object ms =>
      match ms.lookup GenericEvent.PAYLOAD_KEY with
      | some (.array payload) => payloadCounts payload queueMeter field
      | _ => 0
  | _ => 0

/-- The counts a collection has read and not placed yet. -/
def Collection.held (collection : Collection) (queueMeter : AgentQueueMeter)
    (field : CounterField) : Int :=
  match collection with
  | .idle => 0
  | .reading _ payload _ => payloadCounts payload queueMeter field
  | .writing _ payload read counterData => payloadCounts payload queueMeter field
      + if read = queueMeter then writtenCount counterData field else 0
  | .adding _ payload => payloadCounts payload queueMeter field
  | .pushing event => carriedCounts event.rootValue queueMeter field

/-- What one push, behind the queue's lock, adds to its counters. -/
def pushIncrements (lock : LockOutcome) (consumed : MemoryMonitorResult) (o : PushOutcome) :
    CounterField → Nat
  | .collected => (lock.lock && o.collectedLock).toNat
  | .dropped => (lock.lock && decide (consumed = .memoryExceeded) && o.droppedLock).toNat

/-- The increments of one queue. -/
def incrementsOf (queue : AgentQueueMeter) (increments : CounterField → Nat)
    (queueMeter : AgentQueueMeter) (field : CounterField) : Nat :=
  if queueMeter = queue then increments field else 0

/-! ## Steps -/

/-- `SyncQueue_PushBack` on one of the queues. -/
def pushBack (s : Telemetry μ) (queue : AgentQueueMeter) (lock : LockOutcome)
    (mon : MonitorCalls μ) (o : PushOutcome) (event : Json) (dataSize : UInt32) :
    SyncQueueResult × Telemetry μ :=
  let (result, m', q') := SyncQueue.pushBack lock mon o s.monitor (s.queues queue) event dataSize
  (result, { s with monitor := m', queues := Function.update s.queues queue q' })

/-- What that push adds to the counters. -/
def pushBackIncrements (s : Telemetry μ) (queue : AgentQueueMeter) (lock : LockOutcome)
    (mon : MonitorCalls μ) (o : PushOutcome) (dataSize : UInt32) :
    AgentQueueMeter → CounterField → Nat :=
  incrementsOf queue
    (pushIncrements lock (mon.consume s.monitor (queueCalculateItemSize dataSize)).1 o)

/-- A step that fails: the collector gives up, and what it has read with it. -/
def giveUp (s : Telemetry μ) : Happened × Telemetry μ :=
  ({ Happened.nothing with lost := s.collection.held }, { s with collection := .idle })

/-- The collector's next step. -/
def collect (s : Telemetry μ) (o : CollectorOutcome μ) : Happened × Telemetry μ :=
  match s.collection with
  | .idle =>
      match GenericEvent.addMetadata o.clock o.metadata JsonObjectWriter.init
          GenericEvent.EVENT_PERIODIC_CATEGORY AGENT_TELEMETRY_DROPPED_EVENTS_NAME
          GenericEvent.EVENT_TYPE_OPERATIONAL_VALUE
          AGENT_TELEMETRY_DROPPED_EVENTS_SCHEMA_VERSION with
      | none => giveUp s
      | some event =>
          if o.json then
            (Happened.nothing, { s with collection := .reading event [] .highPriority })
          else giveUp s
  | .reading event payload queueMeter =>
      -- `AgentTelemetryProvider_GetQueueCounterData`
      let counter := (s.queues queueMeter).counter
      let (taken, counterData, counter') :=
        AgentTelemetryCounter.snapshotAndReset o.lock ⟨0, 0⟩ counter
      let s' : Telemetry μ := { s with
        queues := Function.update s.queues queueMeter
          { s.queues queueMeter with counter := counter' } }
      if taken then
        (Happened.nothing, { s' with collection := .writing event payload queueMeter counterData })
      else
        ({ Happened.nothing with
            lost := (Collection.writing event payload queueMeter counterData).held },
          { s' with collection := .idle })
  | .writing event payload queueMeter counterData =>
      if o.json then
        let payload' := payload ++ [statsPayload counterData queueMeter]
        match queueMeter with
        | .highPriority =>
            (Happened.nothing, { s with collection := .reading event payload' .lowPriority })
        | .lowPriority => (Happened.nothing, { s with collection := .adding event payload' })
      else giveUp s
  | .adding event payload =>
      match GenericEvent.addPayload o.json event payload with
      | none => giveUp s
      | some event' => (Happened.nothing, { s with collection := .pushing event' })
  | .pushing event =>
      -- `AgentTelemetryCollector_PushEvent`
      if o.json = false then giveUp s
      else
        let (result, s') := pushBack s o.queue o.lock o.mon o.push event.rootValue o.dataSize
        let increments := pushBackIncrements s o.queue o.lock o.mon o.push o.dataSize
        match result with
        | .queue .ok =>
            ({ Happened.nothing with increments, placed := some event.rootValue },
              { s' with collection := .idle })
        | _ =>
            ({ Happened.nothing with increments, lost := s.collection.held },
              { s' with collection := .idle })

/-- One thing that happens. -/
def step (s : Telemetry μ) : TelemetryOp μ → Happened × Telemetry μ
  | .pushBack queue lock mon o event dataSize =>
      ({ Happened.nothing with
          increments := pushBackIncrements s queue lock mon o dataSize },
        (pushBack s queue lock mon o event dataSize).2)
  | .collect o => collect s o

/-- Empty queues and no collection. -/
def init (m : μ) : Telemetry μ := ⟨m, fun _ => .init, .idle⟩

/-- The current value of a counter. -/
def Telemetry.current (s : Telemetry μ) (queueMeter : AgentQueueMeter) (field : CounterField) :
    Nat :=
  ((s.queues queueMeter).counter.get field).toNat

end AgentTelemetryCollector

end SecurityAgent
