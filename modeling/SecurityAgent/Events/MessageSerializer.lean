import SecurityAgent.Json.JsonObjectWriter
import SecurityAgent.Storage.SyncQueue

/-!
# The security message: `message_serializer.c`

A message takes events from a list of queues, in the order they are given, each
queue from its front, as long as the next event keeps the size *strictly* below
the maximum. An event is taken out of its queue first and parsed afterwards.

Whether a lock, an allocation or a JSON write succeeds is an argument, and so is
`parse`, what the JSON parser makes of a text. The buffer is modelled by the
document it is the text of.
-/

namespace SecurityAgent

/-- An event in a queue: its text and its size. -/
abbrev Event := QueueItem String

/-- `MessageSerializerResultValues`. -/
inductive MessageSerializerResult where
  | ok
  | memoryExceeded
  | empty
  | partialMessage
  | exception
  deriving DecidableEq, Repr

/-- `SerializaerSizeLimits`. -/
structure SerializaerSizeLimits where
  currentMessageSize : UInt32
  maxMessageSize : UInt32

/-- `sizeLimitationCondition`. -/
def sizeLimitationCondition (limits : SerializaerSizeLimits) (_data : String) (size : UInt32) :
    Bool :=
  limits.currentMessageSize + size < limits.maxMessageSize

/-- What the environment answers while one event is added. -/
structure EventOutcome where
  /-- Around `SyncQueue_PopFrontIf`. -/
  popLock : LockOutcome
  /-- The allocations of `JsonObjectWriter_InitFromString`. -/
  eventWriter : Bool
  /-- `JsonArrayWriter_AddObject == JSON_WRITER_OK`. -/
  addObject : Bool
  /-- Around the `SyncQueue_GetSize` that follows. -/
  sizeLock : LockOutcome
  deriving DecidableEq

/-- Nothing fails. -/
def EventOutcome.ok : EventOutcome := ⟨.ok, true, true, .ok⟩

/-- What the environment answers while one queue is emptied. -/
structure VisitOutcome where
  /-- Around the first `SyncQueue_GetSize`. -/
  sizeLock : LockOutcome
  event : Nat → EventOutcome

def VisitOutcome.ok : VisitOutcome := ⟨.ok, fun _ => .ok⟩

/-- What the environment answers while a message is built. -/
structure MessageOutcome where
  /-- `JsonObjectWriter_Init`. -/
  messageWriter : Bool
  agentVersion : Bool
  agentId : Bool
  schemaVersion : Bool
  /-- `TwinConfiguration_GetMaxMessageSize`, `none` when it does not return `TWIN_OK`. -/
  maxMessageSize : Option UInt32
  /-- `JsonArrayWriter_Init`. -/
  eventsArray : Bool
  visit : Nat → VisitOutcome
  /-- `JsonObjectWriter_WriteArray`. -/
  writeArray : Bool
  /-- `JsonObjectWriter_Serialize`. -/
  serialize : Bool

/-- Nothing fails, and the maximum size is `maxMessageSize`. -/
def MessageOutcome.ok (maxMessageSize : UInt32) : MessageOutcome :=
  ⟨true, true, true, true, some maxMessageSize, true, fun _ => .ok, true, true⟩

/-- The events array as built so far, and the running size. -/
structure EventsArray where
  events : List Json
  currentMessageSize : UInt32

namespace MessageSerializer

section

variable (parse : String → Option Json) (maxMessageSize : UInt32)

/-- `MessageSerializer_AddSingleEvent`. -/
def addSingleEvent (o : EventOutcome) (s : EventsArray) (queue : List Event) :
    MessageSerializerResult × EventsArray × List Event :=
  match SyncQueue.popFrontIf o.popLock
      (sizeLimitationCondition ⟨s.currentMessageSize, maxMessageSize⟩) queue with
  | (.queue .isEmpty, _, queue') => (.empty, s, queue')
  | (.queue .conditionFailed, _, queue') => (.memoryExceeded, s, queue')
  | (.queue .ok, some event, queue') =>
      match JsonObjectWriter.initFromString o.eventWriter (parse event.data) with
      | none => (.exception, s, queue')
      | some eventWriter =>
          if o.addObject then
            (.ok, ⟨s.events ++ [eventWriter.rootValue], s.currentMessageSize + event.dataSize⟩,
              queue')
          else (.exception, s, queue')
  | (_, _, queue') => (.exception, s, queue')

/-- The loop of `MessageSerializer_AddEventsFromQueue`. Its first argument is the `queueSize` it
last read: an event that is added leaves one less, so the loop is a recursion on it. -/
def addEvents (o : Nat → EventOutcome) :
    Nat → Nat → EventsArray → List Event → MessageSerializerResult × EventsArray × List Event
  | 0, _, s, queue => (.ok, s, queue)
  | queueSize + 1, i, s, queue =>
      if s.currentMessageSize < maxMessageSize then
        match addSingleEvent parse maxMessageSize (o i) s queue with
        | (.ok, s', queue') =>
            match SyncQueue.getSize (o i).sizeLock queue' with
            | none => (.exception, s', queue')
            | some _ => addEvents o queueSize (i + 1) s' queue'
        | (.memoryExceeded, s', queue') => (.ok, s', queue')
        | (.empty, s', queue') => (.ok, s', queue')
        | (_, s', queue') => (.exception, s', queue')
      else (.ok, s, queue)

/-- `MessageSerializer_AddEventsFromQueue`. -/
def addEventsFromQueue (o : VisitOutcome) (s : EventsArray) (queue : List Event) :
    MessageSerializerResult × EventsArray × List Event :=
  match SyncQueue.getSize o.sizeLock queue with
  | none => (.exception, s, queue)
  | some queueSize => addEvents parse maxMessageSize o.event queueSize 0 s queue

/-- The loop over the queues in `MessageSerializer_GenerateEventList`. -/
def addQueues (o : Nat → VisitOutcome) :
    Nat → MessageSerializerResult → EventsArray → List (List Event) →
      MessageSerializerResult × EventsArray × List (List Event)
  | _, result, s, [] => (result, s, [])
  | i, result, s, queue :: queues =>
      if s.currentMessageSize < maxMessageSize then
        let (r, s₁, queue') := addEventsFromQueue parse maxMessageSize (o i) s queue
        let (result', s', queues') :=
          addQueues o (i + 1) (if r = .ok then result else .partialMessage) s₁ queues
        (result', s', queue' :: queues')
      else
        let (result', s', queues') := addQueues o (i + 1) result s queues
        (result', s', queue :: queues')

end

def EVENTS_KEY : String := "Events"
def AGENT_VERSION_KEY : String := "AgentVersion"
def AGENT_ID_KEY : String := "AgentId"
def MESSAGE_SCHEMA_VERSION_KEY : String := "MessageSchemaVersion"
def AGENT_VERSION : String := "0.0.5"
def DEFAULT_MESSAGE_SCHEMA_VERSION : String := "1.0"

variable (parse : String → Option Json)

/-- `MessageSerializer_GenerateEventList`, up to its cleanup. -/
def fillEventList (o : MessageOutcome) (queues : List (List Event)) (parentObj : JsonObjectWriter) :
    MessageSerializerResult × EventsArray × List (List Event) × JsonObjectWriter :=
  if queues.length = 0 then (.ok, ⟨[], 0⟩, queues, parentObj)
  else
    match o.maxMessageSize with
    | none => (.exception, ⟨[], 0⟩, queues, parentObj)
    | some maxMessageSize =>
        if o.eventsArray = false then (.exception, ⟨[], 0⟩, queues, parentObj)
        else
          let (result, s, queues') := addQueues parse maxMessageSize o.visit 0 .ok ⟨[], 0⟩ queues
          if o.writeArray then (result, s, queues', parentObj.writeArray EVENTS_KEY s.events)
          else (.exception, s, queues', parentObj)

/-- `MessageSerializer_GenerateEventList`. -/
def generateEventList (o : MessageOutcome) (queues : List (List Event))
    (parentObj : JsonObjectWriter) :
    MessageSerializerResult × List (List Event) × JsonObjectWriter :=
  let (result, s, queues', parentObj') := fillEventList parse o queues parentObj
  (if s.currentMessageSize = 0 then .empty else result, queues', parentObj')

/-- The writer of a message before its events. -/
def messageHeader (agentId : String) : JsonObjectWriter :=
  ((JsonObjectWriter.init.writeString AGENT_VERSION_KEY AGENT_VERSION).writeString
    AGENT_ID_KEY agentId).writeString MESSAGE_SCHEMA_VERSION_KEY DEFAULT_MESSAGE_SCHEMA_VERSION

/-- `MessageSerializer_CreateSecurityMessage`: its result, the document in the buffer, and the
queues. `agentId` is `LocalConfiguration_GetAgentId()`. -/
def createSecurityMessage (agentId : String) (o : MessageOutcome) (queues : List (List Event)) :
    MessageSerializerResult × Option Json × List (List Event) :=
  if o.messageWriter = false ∨ o.agentVersion = false ∨ o.agentId = false
      ∨ o.schemaVersion = false then (.exception, none, queues)
  else
    let (result, queues', writer) := generateEventList parse o queues (messageHeader agentId)
    if result = .ok ∨ result = .partialMessage then
      if o.serialize then (result, some writer.rootValue, queues') else (.exception, none, queues')
    else (result, none, queues')

end MessageSerializer

end SecurityAgent
