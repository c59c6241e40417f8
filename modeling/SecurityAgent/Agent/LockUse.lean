import SecurityAgent.Lib.LockOrder
import SecurityAgent.Twin.Interleaving

/-!
# What the agent does with its locks

Every function that takes a lock, or that is called while one is held, as the script of the locks
it takes and of the functions it calls. A lock that cannot be taken makes its function return.

Recording a log event pushes into the diagnostic queue, and pushing into a queue may
log: `shouldSendLogs` says for which queues. The event collectors' configuration has a lock with
rules of its own (`EventCollectors.Threads`), and is entered as such.
-/

namespace SecurityAgent

open Locking

/-- `SecurityAgentQueues`. -/
inductive QueueName where
  | operationalEvents
  | highPriority
  | lowPriority
  | diagnosticEvent
  | twinUpdates
  deriving DecidableEq, Repr

/-- The `SyncedCounter`s: one of each queue, and the adapter's. -/
inductive CounterName where
  | queue (q : QueueName)
  | message
  deriving DecidableEq, Repr

/-- The locks, without that of the event collectors' configuration. -/
inductive AgentLock where
  /-- `iotHubAdapterLock`. -/
  | iotHubAdapter
  | queue (q : QueueName)
  /-- `memoryMonitorLock`. -/
  | memoryMonitor
  | twinConfiguration
  | counter (c : CounterName)
  deriving DecidableEq, Repr

/-- The public operations of the event collectors' configuration. -/
inductive CollectorsOperation where
  | update
  | getPriority
  | getAggregationEnabled
  | getAggregationInterval
  | getPrioritiesJson
  deriving DecidableEq, Repr

/-- The functions. -/
inductive AgentFunction where
  -- `agent_telemetry_counters.c`
  | counterIncreaseBy (c : CounterName)
  | counterSnapshotAndReset (c : CounterName)
  -- `twin_configuration.c`
  | twinConfigurationGetField
  | twinConfigurationUpdate
  | twinConfigurationGetSerializedTwinConfiguration
  -- `synchronized_memory_monitor.c`
  | internalMemoryMonitorConsume
  | memoryMonitorConsume
  | memoryMonitorRelease
  | memoryMonitorCurrentConsumption
  -- `queue.c` and `synchronized_queue.c`
  | queuePushBack (q : QueueName)
  | queuePopFront (q : QueueName)
  | queuePopFrontIf (q : QueueName)
  | queueDeinit (q : QueueName)
  | syncQueuePushBack (q : QueueName)
  | syncQueuePopFront (q : QueueName)
  | syncQueuePopFrontIf (q : QueueName)
  | syncQueueGetSize (q : QueueName)
  -- `logger.c` and `diagnostic_event_collector.c`
  | loggerLogEvent
  | diagnosticEventCollectorAddEvent
  | diagnosticEventCollectorDeinit
  | diagnosticEventCollectorGetEvents (priorityQueue : QueueName)
  -- `local_config.c` and `authentication_manager.c`
  | localConfigurationTryRenewConnectionString
  -- `iothub_adapter.c`
  | iotHubAdapterInit
  | iotHubAdapterDeinit
  | iotHubAdapterConnect
  | iotHubAdapterReinit
  | iotHubAdapterSendMessageAsync
  | iotHubAdapterSendMessageAsyncInternal
  | iotHubAdapterSetReportedPropertiesAsync
  | iotHubAdapterSendConfirmCallback
  | iotHubAdapterConnectionStatusCallback
  | iotHubAdapterDeviceTwinCallback
  | iotHubAdapterSetReportedConfirmCallback
  -- `message_serializer.c`
  | messageSerializerAddSingleEvent (q : QueueName)
  | messageSerializerAddEventsFromQueue (q : QueueName)
  | messageSerializerCreateSecurityMessage (mainQueue paddingQueue : QueueName)
  -- the tasks
  | eventPublisherTaskSendEvents (mainQueue paddingQueue : QueueName)
  | eventPublisherTaskExecute
  | updateTwinTaskUpdateTwinReportedProperties
  | updateTwinTaskExecute
  | updateTwinTaskDeinit
  | agentTelemetryProviderGetCounterData
  | collect (queue : QueueName)
  | eventMonitorTaskMonitorSingleEvents
  | eventMonitorTaskExecute
  deriving DecidableEq, Repr

abbrev AgentScript := Script AgentLock AgentFunction CollectorsOperation

namespace AgentScript

/-- One after the other. -/
def inOrder (scripts : List AgentScript) : AgentScript := scripts.foldr .andThen .nothing

/-- One of several. -/
def oneOf (scripts : List AgentScript) : AgentScript := scripts.foldr .either .nothing

/-- `if (Lock(l) != LOCK_OK) return; ...; Unlock(l)`. -/
def locked (l : AgentLock) (body : AgentScript) : AgentScript := .either .nothing (.holding l body)

/-- What may be left out: a branch that is not taken, or what is behind an early return. -/
def optional (s : AgentScript) : AgentScript := .either .nothing s

end AgentScript

open AgentScript

namespace AgentFunction

/-- `Logger_...`. -/
def log : AgentScript := .call loggerLogEvent

variable (shouldSendLogs : QueueName → Bool)

/-- `if (queue->shouldSendLogs)`. -/
def logIfSent (q : QueueName) : AgentScript := if shouldSendLogs q then log else .nothing

/-- What a collector that is given this queue does with locks, in whatever order: it pushes events,
logs, and looks into the configuration and at the counters. -/
def collecting (queue : QueueName) : AgentScript :=
  .repeated (oneOf [.call (syncQueuePushBack queue), log, .call twinConfigurationGetField,
    .call twinConfigurationGetSerializedTwinConfiguration, .enter .getAggregationEnabled,
    .enter .getAggregationInterval, .call agentTelemetryProviderGetCounterData])

/-- The scripts of the functions. -/
def script : AgentFunction → AgentScript
  | counterIncreaseBy c => locked (.counter c) .nothing
  | counterSnapshotAndReset c => locked (.counter c) .nothing
  | twinConfigurationGetField => locked .twinConfiguration .nothing
  | twinConfigurationUpdate =>
      -- the document is parsed before the lock is taken
      optional (locked .twinConfiguration (.enter .update))
  | twinConfigurationGetSerializedTwinConfiguration =>
      locked .twinConfiguration (optional (.enter .getPrioritiesJson))
  | internalMemoryMonitorConsume => .call twinConfigurationGetField
  | memoryMonitorConsume => locked .memoryMonitor (.call internalMemoryMonitorConsume)
  | memoryMonitorRelease => locked .memoryMonitor .nothing
  | memoryMonitorCurrentConsumption => locked .memoryMonitor .nothing
  | queuePushBack q =>
      inOrder [.call memoryMonitorConsume,
        oneOf [
          -- MEMORY_MONITOR_MEMORY_EXCEEDED
          inOrder [logIfSent shouldSendLogs q, .call (counterIncreaseBy (.queue q))],
          -- MEMORY_MONITOR_EXCEPTION
          logIfSent shouldSendLogs q,
          -- malloc fails
          .call memoryMonitorRelease],
        .call (counterIncreaseBy (.queue q))]
  | queuePopFront _ => optional (.call memoryMonitorRelease)
  | queuePopFrontIf q => optional (.call (queuePopFront q))
  | queueDeinit q => .repeated (.call (queuePopFront q))
  | syncQueuePushBack q => locked (.queue q) (.call (queuePushBack q))
  | syncQueuePopFront q => locked (.queue q) (.call (queuePopFront q))
  | syncQueuePopFrontIf q => locked (.queue q) (.call (queuePopFrontIf q))
  | syncQueueGetSize q => locked (.queue q) .nothing
  | loggerLogEvent => optional (.call diagnosticEventCollectorAddEvent)
  | diagnosticEventCollectorAddEvent => optional (.call (syncQueuePushBack .diagnosticEvent))
  | diagnosticEventCollectorDeinit =>
      inOrder [.call (syncQueueGetSize .diagnosticEvent),
        .repeated (inOrder [.call (syncQueuePopFront .diagnosticEvent),
          optional (.call (syncQueueGetSize .diagnosticEvent))])]
  | diagnosticEventCollectorGetEvents priorityQueue =>
      inOrder [.call (syncQueueGetSize .diagnosticEvent),
        .repeated (inOrder [.call (syncQueuePopFront .diagnosticEvent),
          optional (.call (syncQueuePushBack priorityQueue))])]
  | localConfigurationTryRenewConnectionString => .repeated log
  | iotHubAdapterInit =>
      oneOf [log, log, inOrder [.holding .iotHubAdapter .nothing, optional log]]
  | iotHubAdapterDeinit => oneOf [log, inOrder [.holding .iotHubAdapter .nothing, optional log]]
  | iotHubAdapterConnect => optional log
  | iotHubAdapterReinit =>
      oneOf [log, inOrder [.call iotHubAdapterConnect, optional log]]
  | iotHubAdapterSendMessageAsync =>
      oneOf [log, inOrder [.holding .iotHubAdapter (.call iotHubAdapterSendMessageAsyncInternal),
        optional log]]
  | iotHubAdapterSendMessageAsyncInternal =>
      oneOf [log,
        inOrder [
          optional (inOrder [.call localConfigurationTryRenewConnectionString,
            oneOf [log, inOrder [.call iotHubAdapterReinit, optional log]]]),
          oneOf [log,
            inOrder [optional (.call (counterIncreaseBy .message)),
              .call (counterIncreaseBy .message), log]]]]
  | iotHubAdapterSetReportedPropertiesAsync => log
  | iotHubAdapterSendConfirmCallback => oneOf [log, .call (counterIncreaseBy .message)]
  | iotHubAdapterConnectionStatusCallback => optional log
  | iotHubAdapterDeviceTwinCallback =>
      inOrder [log, oneOf [log, inOrder [optional log, .call (syncQueuePushBack .twinUpdates),
        optional log]]]
  | iotHubAdapterSetReportedConfirmCallback => optional log
  | messageSerializerAddSingleEvent q =>
      inOrder [.call (syncQueuePopFrontIf q), optional log]
  | messageSerializerAddEventsFromQueue q =>
      inOrder [.call (syncQueueGetSize q),
        .repeated (inOrder [.call (messageSerializerAddSingleEvent q),
          optional (.call (syncQueueGetSize q))])]
  | messageSerializerCreateSecurityMessage mainQueue paddingQueue =>
      oneOf [log, inOrder [.call twinConfigurationGetField, oneOf [log,
        inOrder [optional (.call (messageSerializerAddEventsFromQueue .operationalEvents)),
          optional (.call (messageSerializerAddEventsFromQueue mainQueue)),
          optional (.call (messageSerializerAddEventsFromQueue paddingQueue)),
          optional log]]]]
  | eventPublisherTaskSendEvents mainQueue paddingQueue =>
      inOrder [.call (syncQueueGetSize mainQueue),
        optional (inOrder [.call (messageSerializerCreateSecurityMessage mainQueue paddingQueue),
          optional (inOrder [.call iotHubAdapterSendMessageAsync, optional log])])]
  | eventPublisherTaskExecute =>
      inOrder [.call twinConfigurationGetField, .call twinConfigurationGetField,
        .call twinConfigurationGetField, .call memoryMonitorCurrentConsumption,
        optional (.call (eventPublisherTaskSendEvents .highPriority .lowPriority)),
        optional (.call (eventPublisherTaskSendEvents .highPriority .lowPriority)),
        optional (.call (eventPublisherTaskSendEvents .lowPriority .highPriority))]
  | updateTwinTaskUpdateTwinReportedProperties =>
      inOrder [.call twinConfigurationGetSerializedTwinConfiguration,
        optional (.call iotHubAdapterSetReportedPropertiesAsync)]
  | updateTwinTaskExecute =>
      inOrder [.call (syncQueueGetSize .twinUpdates),
        optional (inOrder [.call (syncQueuePopFront .twinUpdates),
          optional (inOrder [.call twinConfigurationUpdate,
            optional (.call updateTwinTaskUpdateTwinReportedProperties)])])]
  | updateTwinTaskDeinit =>
      inOrder [.call (syncQueueGetSize .twinUpdates),
        .repeated (inOrder [.call (syncQueuePopFront .twinUpdates),
          optional (.call (syncQueueGetSize .twinUpdates))])]
  | agentTelemetryProviderGetCounterData =>
      oneOf [.call (counterSnapshotAndReset (.queue .highPriority)),
        .call (counterSnapshotAndReset (.queue .lowPriority)),
        .call (counterSnapshotAndReset .message)]
  | collect queue => collecting queue
  | eventMonitorTaskMonitorSingleEvents =>
      inOrder [.enter .getPriority,
        oneOf ([.operationalEvents, .highPriority, .lowPriority].map fun queue =>
          .either (.call (collect queue)) (.call (diagnosticEventCollectorGetEvents queue))),
        optional log]
  | eventMonitorTaskExecute =>
      inOrder [.call twinConfigurationGetField,
        .repeated (inOrder [optional log, .call eventMonitorTaskMonitorSingleEvents])]

end AgentFunction

/-- `SecurityAgent_InitAllQueues`: all queues send logs but the one logging pushes into. -/
def Agent.shouldSendLogs : QueueName → Bool
  | .diagnosticEvent => false
  | .operationalEvents => true
  | .highPriority => true
  | .lowPriority => true
  | .twinUpdates => true

/-- The event collectors' configuration as a thread finds it there. -/
def collectorsConfiguration : Component Nat CollectorsOperation EventCollectors.Threads where
  within s t _ s' := ∃ move, move.thread = t ∧ s.step move = some (none, s')
  leaves s t _ s' := ∃ move refused, move.thread = t ∧ s.step move = some (some refused, s')

abbrev AgentSystem := System AgentLock AgentFunction CollectorsOperation Nat EventCollectors.Threads

/-- Threads that have these functions to run. -/
def AgentSystem.start (program : Nat → List AgentFunction) : AgentSystem where
  threads t := calls (program t)
  component := .init

end SecurityAgent
