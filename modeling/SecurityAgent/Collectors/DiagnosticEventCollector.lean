import SecurityAgent.Collectors.GenericEvent
import SecurityAgent.Storage.Accounting
import SecurityAgent.Storage.MeteredQueue
import SecurityAgent.Tasks.EventMonitorTask

/-!
# Diagnostics: `diagnostic_event_collector.c` and `logger.c`

What is logged at a severity that is high enough becomes an event in a queue of the
collector's own, which draws on the memory monitor as all queues do. When the event
monitor comes to the diagnostics, the events are taken out again and pushed, each as
an event of its own, into the queue of their priority.
-/

namespace SecurityAgent

/-- `Severity`. -/
inductive Severity where
  | debug
  | information
  | warning
  | error
  | fatal
  deriving DecidableEq, Repr

/-- The value of a severity. -/
def Severity.value : Severity → Nat
  | .debug => 0
  | .information => 1
  | .warning => 2
  | .error => 3
  | .fatal => 4

/-- `DiagnosticEvent`. -/
structure DiagnosticEvent where
  message : String
  severity : Severity
  processId : Int32
  threadId : UInt32
  timeLocal : Int
  correlationId : String

/-- The memory monitor, the collector's own queue, and what the logger compares with. -/
structure Diagnostics where
  monitor : MemoryMonitor
  /-- What is in `eventsQueue`. -/
  queue : MeteredQueue DiagnosticEvent
  /-- `eventsQueue` is not `NULL`. -/
  initialized : Bool
  diagnosticEventMinimumSeverity : Severity

/-- What the environment answers when something is logged. -/
structure LogOutcome where
  /-- `malloc(sizeof(DiagnosticEvent))`. -/
  event : Bool
  /-- The copies of the message and the correlation. -/
  message : Bool
  correlation : Bool
  processId : Int32
  threadId : UInt32
  timeLocal : Int
  /-- `CorrelationManager_GetCorrelation`. -/
  correlationId : String
  /-- The lock of the queue. -/
  lock : LockOutcome
  /-- The monitor's locks and its limit. -/
  consumeLock : LockOutcome
  releaseLock : LockOutcome
  limit : Option UInt32
  push : PushOutcome

/-- What the environment answers while one event is made and pushed. -/
structure SingleEventOutcome where
  rootObject : Bool
  clock : Clock
  metadata : MetadataOutcome
  /-- `JsonArrayWriter_Init`. -/
  array : Bool
  /-- The JSON calls of `DiagnosticEventCollector_AddPayload`. -/
  item : Bool
  /-- The writes of `GenericEvent_AddPayload`. -/
  payload : Bool
  serialize : Bool
  /-- `SyncQueue_PushBack` to the queue of the priority returns `QUEUE_OK`. -/
  push : Bool

/-- What the environment answers while the queue is emptied. -/
structure CollectOutcome where
  size : LockOutcome
  /-- The lock of the queue and of the monitor when an event is popped. -/
  pop : Nat → LockOutcome
  release : Nat → LockOutcome
  single : Nat → SingleEventOutcome

namespace DiagnosticEventCollector

def DIAGNOSTIC_MESSAGE_KEY : String := "Message"
def DIAGNOSTIC_SEVERITY_KEY : String := "Severity"
def DIAGNOSTIC_PROCESSID_KEY : String := "ProcessId"
def DIAGNOSTIC_THREAD_KEY : String := "ThreadId"
def DIAGNOSTIC_CORRELATION_KEY : String := "CorrelationId"
def DIAGNOSTIC_NAME : String := "Diagnostic"
def DIAGNOSTIC_PAYLOAD_SCHEMA_VERSION : String := "1.0"
def EVENT_TYPE_DIAGNOSTIC_VALUE : String := "Diagnostic"
def LOG_MAX_BUFF : Nat := 500

/-- `sizeof(DiagnosticEvent)`, on LP64. -/
def sizeofDiagnosticEvent : Nat := 40

/-- `DiagnosticEventCollector_ConvertToString`. -/
def convertToString : Severity → String
  | .debug => "Debug"
  | .information => "Information"
  | .warning => "Warning"
  | .error => "Error"
  | .fatal => "Fatal"

/-! ## Recording -/

/-- The size an event is given. -/
def eventSize (message : String) : UInt32 :=
  UInt32.ofNat (sizeofDiagnosticEvent + sizeofPointer.toNat + (message.length + 1))

/-- `DiagnosticEventCollector_InitDiagnosticEvent`. A message that cannot be copied leaves
`correlationId` as the block has it, and `DeinitDiagnosticEvent` frees it: there is no result. -/
def initDiagnosticEvent (o : LogOutcome) (message : String) (severity : Severity) :
    Option (Option DiagnosticEvent) :=
  if o.event = false then some none
  else if o.message = false then none
  else if o.correlation = false then some none
  else some (some ⟨message, severity, o.processId, o.threadId, o.timeLocal, o.correlationId⟩)

/-- `DiagnosticEventCollector_AddEvent`. An event that is not pushed is freed. -/
def addEvent (o : LogOutcome) (message : String) (severity : Severity) (s : Diagnostics) :
    Option (EventCollectorResult × Diagnostics) :=
  (initDiagnosticEvent o message severity).map fun
    | none => (.exception, s)
    | some event =>
        let (result, monitor, queue) :=
          SyncQueue.pushBack o.lock (.real o.consumeLock o.releaseLock o.limit) o.push s.monitor
            s.queue event (eventSize message)
        (if result = .queue .ok then .ok else .exception,
          { s with monitor := monitor, queue := queue })

/-- `Logger_LogEvent` with the text that the format gives, as far as it fits the buffer. Nothing
here depends on what the system logger does. -/
def logEvent (o : LogOutcome) (severity : Severity) (text : String) (s : Diagnostics) :
    Option Diagnostics :=
  if 0 < text.length ∧ s.diagnosticEventMinimumSeverity.value ≤ severity.value
      ∧ s.initialized = true then
    (addEvent o (String.ofList (text.toList.take (LOG_MAX_BUFF - 1))) severity s).map Prod.snd
  else some s

/-! ## Collecting -/

/-- `DiagnosticEventCollector_AddPayload`. -/
def addPayload (write : Bool) (event : DiagnosticEvent) : Option (List Json) :=
  if write then
    some [(((((JsonObjectWriter.init.writeString DIAGNOSTIC_MESSAGE_KEY event.message).writeString
      DIAGNOSTIC_SEVERITY_KEY (convertToString event.severity)).writeInt
      DIAGNOSTIC_PROCESSID_KEY event.processId).writeInt
      DIAGNOSTIC_THREAD_KEY event.threadId.toInt32).writeString
      DIAGNOSTIC_CORRELATION_KEY event.correlationId).rootValue]
  else none

/-- `DiagnosticEventCollector_GetSingleEvent`: the event it pushes. -/
def getSingleEvent (o : SingleEventOutcome) (event : DiagnosticEvent) : Option Json :=
  if o.rootObject = false then none
  else
    match GenericEvent.addMetadataWithTimes o.clock o.metadata JsonObjectWriter.init
        GenericEvent.EVENT_TRIGGERED_CATEGORY DIAGNOSTIC_NAME EVENT_TYPE_DIAGNOSTIC_VALUE
        DIAGNOSTIC_PAYLOAD_SCHEMA_VERSION event.timeLocal with
    | none => none
    | some rootObject =>
        if o.array = false then none
        else
          match addPayload o.item event with
          | none => none
          | some diagnosticEventsArray =>
              match GenericEvent.addPayload o.payload rootObject diagnosticEventsArray with
              | none => none
              | some rootObject =>
                  if o.serialize ∧ o.push then some rootObject.rootValue else none

/-- The loop of `DiagnosticEventCollector_GetEvents`, with `counter` rounds to go. An event is taken
out before anything is known of the one made from it. -/
def collect (o : CollectOutcome) :
    Nat → Diagnostics → EventCollectorResult × List Json × Diagnostics
  | 0, s => (.ok, [], s)
  | counter + 1, s =>
      if (o.pop counter).lock = false then (.exception, [], s)
      else
        let (_, item, monitor, items) :=
          Fifo.popFront (.real .ok (o.release counter) none) s.monitor s.queue.items
        let s := { s with monitor := monitor, queue := { s.queue with items := items } }
        if (o.pop counter).unlock = false then (.exception, [], s)
        else
          match item with
          | none => (.ok, [], s)
          | some item =>
              match getSingleEvent (o.single counter) item.data with
              | none => (.exception, [], s)
              | some event =>
                  let (result, events, s) := collect o counter s
                  (result, event :: events, s)

/-- `DiagnosticEventCollector_GetEvents`: its result, and the events it has pushed. -/
def getEvents (o : CollectOutcome) (s : Diagnostics) :
    EventCollectorResult × List Json × Diagnostics :=
  match SyncQueue.getSize o.size s.queue.items with
  | none => (.exception, [], s)
  | some eventQueueSize => collect o eventQueueSize s

/-! ## The event monitor's last step -/

/-- What the environment answers in `EventMonitorTask_MonitorSingleEvents`. -/
structure MonitorStep where
  /-- `TwinConfigurationEventCollectors_GetPriority`. -/
  priority : Option TwinConfigurationEventPriority
  collect : CollectOutcome
  log : LogOutcome

/-- What is logged at its end. -/
def finishedText : EventCollectorResult → String
  | .ok => "[event_monitor_task.c] collection finished successfully."
  | _ => "[event_monitor_task.c] collection failed."

/-- `EventMonitorTask_MonitorSingleEvents` for the diagnostics: whether the round goes on. -/
def monitorSingleEvents (o : MonitorStep) (s : Diagnostics) : Option (Bool × Diagnostics) :=
  match o.priority with
  | none => some (false, s)
  | some priority =>
      let (result, s) :=
        match priority with
        | .off => (.ok, s)
        | .operational | .high | .low =>
            let (result, _, s) := getEvents o.collect s
            (result, s)
      (logEvent o.log .debug (finishedText result) s).map fun s => (true, s)

end DiagnosticEventCollector

end SecurityAgent
