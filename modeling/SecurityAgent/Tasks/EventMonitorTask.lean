import SecurityAgent.Twin.EventCollectors
import SecurityAgent.Util.TimeDiff

/-!
# Running the collectors: `event_monitor_task.c`

The task has two timers, one for the periodic collectors and one for the triggered ones, both at
time 0 to begin with. When one expires its collectors run in order, each into the queue
of its event's priority, until the priority of one cannot be had.
-/

namespace SecurityAgent

/-- The collectors, by their `GetEvents` functions. -/
inductive EventCollector where
  | agentTelemetry
  | localUsers
  | systemInformation
  | listeningPort
  | firewall
  | baseline
  | diagnosticEvent
  | agentConfigurationError
  | processCreation
  | userLogin
  | connectionCreateEvent
  deriving DecidableEq, Repr

/-- `EventMonitorTask`, its queues apart. -/
structure EventMonitorTask where
  lastPeriodicExecution : Int
  lastTriggeredExecution : Int

/-- What the environment answers during one `EventMonitorTask_Execute`. -/
structure MonitorOutcome where
  /-- `TwinConfiguration_GetSnapshotFrequency`, `none` when it fails. -/
  snapshotFrequency : Option UInt32
  currentTime : Int
  /-- `LocalConfiguration_GetTriggeredEventInterval`. -/
  triggeredEventInterval : UInt32
  /-- `TwinConfigurationEventCollectors_GetPriority`. -/
  priority : TwinConfigurationEventType → Option TwinConfigurationEventPriority

/-- A collector that ran, with the priority whose queue it was given. -/
abbrev CollectorRun := EventCollector × TwinConfigurationEventPriority

namespace EventMonitorTask

/-- `EventMonitorTask_Init`. -/
def init : EventMonitorTask := ⟨0, 0⟩

/-- `EventMonitorTask_MonitorSingleEvents`, one after the other: an event that is off is not
collected, and a priority that cannot be had ends the round. -/
def monitorEvents (priority : TwinConfigurationEventType → Option TwinConfigurationEventPriority) :
    List (TwinConfigurationEventType × EventCollector) → List CollectorRun
  | [] => []
  | (eventType, collector) :: rest =>
      match priority eventType with
      | none => []
      | some .off => monitorEvents priority rest
      | some p => (collector, p) :: monitorEvents priority rest

/-- The order of `EventMonitorTask_MonitorPeriodicEvents`. -/
def periodicEvents : List (TwinConfigurationEventType × EventCollector) :=
  [(.operationalEvent, .agentTelemetry), (.localUsers, .localUsers),
    (.systemInformation, .systemInformation), (.listeningPorts, .listeningPort),
    (.firewallConfiguration, .firewall), (.baseline, .baseline), (.diagnostic, .diagnosticEvent)]

/-- The order of `EventMonitorTask_MonitorTriggeredEvents`. -/
def triggeredEvents : List (TwinConfigurationEventType × EventCollector) :=
  [(.operationalEvent, .agentConfigurationError), (.processCreate, .processCreation),
    (.userLogin, .userLogin), (.connectionCreate, .connectionCreateEvent),
    (.diagnostic, .diagnosticEvent)]

/-- `timeDiff >= interval`, on what `TimeUtils_GetTimeDiff` leaves in a `uint32_t`. -/
def intervalReached (currentTime lastExecution : Int) (interval : UInt32) : Bool :=
  (TimeUtils.getTimeDiff currentTime lastExecution).toUInt32 ≥ interval

/-- `EventMonitorTask_Execute`: the round of periodic collectors and the round of triggered ones,
where they are run, and the task. -/
def execute (o : MonitorOutcome) (t : EventMonitorTask) :
    Option (List CollectorRun) × Option (List CollectorRun) × EventMonitorTask :=
  match o.snapshotFrequency with
  | none => (none, none, t)
  | some periodicFrequency =>
      let (periodic, t₁) :=
        if intervalReached o.currentTime t.lastPeriodicExecution periodicFrequency then
          (some (monitorEvents o.priority periodicEvents),
            { t with lastPeriodicExecution := o.currentTime })
        else (none, t)
      if intervalReached o.currentTime t₁.lastTriggeredExecution o.triggeredEventInterval then
        (periodic, some (monitorEvents o.priority triggeredEvents),
          { t₁ with lastTriggeredExecution := o.currentTime })
      else (periodic, none, t₁)

end EventMonitorTask

end SecurityAgent
