import SecurityAgent.Events.Conservation
import SecurityAgent.Util.TimeDiff

/-!
# Sending events: `event_publisher_task.c`

The task owns three queues. A send takes one of the two priority queues as its main
queue, and does nothing if that one is empty; a message takes from the operational
queue, the main queue and the other one, in that order. What the twin
configuration, the memory monitor, the clock and the hub answer are arguments.
-/

namespace SecurityAgent

/-- The queue a send is for. -/
inductive MainQueue where
  | high
  | low
  deriving DecidableEq

/-- The queues of `EventPublisherTask`. -/
structure PublisherQueues where
  operationalEventsQueue : List Event
  highPriorityEventQueue : List Event
  lowPriorityEventQueue : List Event
  deriving DecidableEq

namespace PublisherQueues

def main (q : PublisherQueues) : MainQueue → List Event
  | .high => q.highPriorityEventQueue
  | .low => q.lowPriorityEventQueue

/-- `queuesOrder`: the operational queue, the main queue and the padding queue. -/
def order (q : PublisherQueues) : MainQueue → List (List Event)
  | .high => [q.operationalEventsQueue, q.highPriorityEventQueue, q.lowPriorityEventQueue]
  | .low => [q.operationalEventsQueue, q.lowPriorityEventQueue, q.highPriorityEventQueue]

/-- The queues after the serializer has gone through `queuesOrder`; there are three. -/
def reorder (q : PublisherQueues) : MainQueue → List (List Event) → PublisherQueues
  | .high, [operational, high, low] => ⟨operational, high, low⟩
  | .low, [operational, low, high] => ⟨operational, high, low⟩
  | _, _ => q

end PublisherQueues

/-- `EventPublisherTask`, its times in seconds. -/
structure EventPublisherTask where
  queues : PublisherQueues
  highPriorityQueueLastExecution : Int
  lowPriorityQueueLastExecution : Int

/-- What the environment answers during one `EventPublisherTask_SendEvents`. -/
structure SendOutcome where
  /-- Around `SyncQueue_GetSize`. -/
  sizeLock : LockOutcome
  message : MessageOutcome
  /-- `IoTHubAdapter_SendMessageAsync`. -/
  send : Bool

/-- Nothing fails. -/
def SendOutcome.ok (maxMessageSize : UInt32) : SendOutcome := ⟨.ok, .ok maxMessageSize, true⟩

/-- What one send does beside emptying queues. -/
structure SendReport where
  result : Bool
  /-- `MessageSerializer_CreateSecurityMessage` is called. -/
  attempted : Bool
  /-- The message the hub accepts, if any. -/
  accepted : Option Json

/-- What the environment answers during one `EventPublisherTask_Execute`; `none` is a lookup that
fails. -/
structure ExecuteOutcome where
  highPriorityMessageFrequency : Option UInt32
  lowPriorityMessageFrequency : Option UInt32
  maxMessageSize : Option UInt32
  currentConsumption : Option UInt32
  currentTime : Int
  pressureSend : SendOutcome
  highSend : SendOutcome
  lowSend : SendOutcome

namespace EventPublisherTask

variable (parse : String → Option Json) (agentId : String)

/-- `EventPublisherTask_SendEvents`. -/
def sendEvents (o : SendOutcome) (main : MainQueue) (q : PublisherQueues) :
    SendReport × PublisherQueues :=
  match SyncQueue.getSize o.sizeLock (q.main main) with
  | none => (⟨false, false, none⟩, q)
  | some 0 => (⟨true, false, none⟩, q)
  | some _ =>
      let (serializationResult, buffer, queues') :=
        MessageSerializer.createSecurityMessage parse agentId o.message (q.order main)
      let q' := q.reorder main queues'
      if serializationResult ≠ .ok ∧ serializationResult ≠ .partialMessage then
        (⟨false, true, none⟩, q')
      else
        match buffer with
        | none => (⟨true, true, none⟩, q')
        | some message =>
            if o.send then (⟨true, true, some message⟩, q') else (⟨false, true, none⟩, q')

def lastExecution (t : EventPublisherTask) : MainQueue → Int
  | .high => t.highPriorityQueueLastExecution
  | .low => t.lowPriorityQueueLastExecution

def setLastExecution (t : EventPublisherTask) (time : Int) : MainQueue → EventPublisherTask
  | .high => { t with highPriorityQueueLastExecution := time }
  | .low => { t with lowPriorityQueueLastExecution := time }

/-- A guarded send of `EventPublisherTask_Execute`. -/
def sendIf (condition : Bool) (o : SendOutcome) (main : MainQueue) (currentTime : Int)
    (t : EventPublisherTask) : List (MainQueue × SendReport) × EventPublisherTask :=
  if condition then
    let (report, queues') := sendEvents parse agentId o main t.queues
    ([(main, report)], { t with queues := queues' }.setLastExecution currentTime main)
  else ([], t)

/-- `EventPublisherTask_Execute` after its lookups. -/
def executeWith (highFrequency lowFrequency maxMessageSize currentMemoryConsumption : UInt32)
    (o : ExecuteOutcome) (t : EventPublisherTask) :
    List (MainQueue × SendReport) × EventPublisherTask :=
  let (sent₁, t₁) := sendIf parse agentId (currentMemoryConsumption > maxMessageSize)
    o.pressureSend .high o.currentTime t
  let highTimeDiff :=
    (TimeUtils.getTimeDiff o.currentTime t₁.highPriorityQueueLastExecution).toUInt32
  let lowTimeDiff :=
    (TimeUtils.getTimeDiff o.currentTime t₁.lowPriorityQueueLastExecution).toUInt32
  let (sent₂, t₂) := sendIf parse agentId (highTimeDiff > highFrequency) o.highSend .high
    o.currentTime t₁
  let (sent₃, t₃) := sendIf parse agentId (lowTimeDiff > lowFrequency) o.lowSend .low
    o.currentTime t₂
  (sent₁ ++ sent₂ ++ sent₃, t₃)

/-- `EventPublisherTask_Execute`: the sends it makes, and the task. -/
def execute (o : ExecuteOutcome) (t : EventPublisherTask) :
    List (MainQueue × SendReport) × EventPublisherTask :=
  match o.highPriorityMessageFrequency, o.lowPriorityMessageFrequency, o.maxMessageSize,
      o.currentConsumption with
  | some highFrequency, some lowFrequency, some maxMessageSize, some consumption =>
      executeWith parse agentId highFrequency lowFrequency maxMessageSize consumption o t
  | _, _, _, _ => ([], t)

end EventPublisherTask

end SecurityAgent
