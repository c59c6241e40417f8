import Mathlib.Logic.Function.Basic
import SecurityAgent.Agent.LockUse

/-!
# The agent from its start to its end: `security_agent.c`, `scheduler_thread.c` and `main.c`

The main thread initialises the components one after the other, connects, starts a
thread for each of the three tasks, and waits for them. Where a step fails, it takes down again
what has been set up, going by a flag for each component. What it does is a list of
actions, given what the functions it calls return; the threads of the tasks take their steps in
between.
-/

namespace SecurityAgent

/-- The tasks that run in threads of their own. -/
inductive TaskName where
  | publisher
  | monitor
  | updateTwin
  deriving DecidableEq, Repr

/-- What is initialised and deinitialised. -/
inductive AgentComponent where
  | logger
  | iothub
  | localConfiguration
  | memoryMonitor
  | twinConfiguration
  | queue (q : QueueName)
  | diagnosticEventCollector
  | agentTelemetryProvider
  | iothubAdapter
  | updateTwinTask
  | publisherTask
  /-- The two that `EventMonitorTask_InitCollectors` initialises. -/
  | processCreationCollector
  | connectionCreateEventCollector
  deriving DecidableEq, Repr

/-- What the functions return that the agent calls while it starts. -/
structure AgentOutcome where
  /-- The `Init` of a component succeeds. -/
  initialises : AgentComponent → Bool
  /-- `ProcessInfoHandler_SwitchRealAndEffectiveUsers`. -/
  switchRealAndEffectiveUsers : Bool
  /-- `IoTHubAdapter_Connect`. -/
  connect : Bool
  /-- `SyncQueue_GetSize` of the twin updates, `none` when it fails. -/
  twinUpdatesQueueSize : Option Nat
  /-- `ThreadAPI_Create`. -/
  threadCreate : TaskName → Bool

/-- What the main thread does. -/
inductive AgentAction where
  | initialise (c : AgentComponent)
  | deinitialise (c : AgentComponent)
  /-- It executes a task itself. -/
  | execute (t : TaskName)
  /-- `SchedulerThread_Init`. -/
  | schedulerInit (t : TaskName)
  /-- The call of `ThreadAPI_Create`. -/
  | threadCreate (t : TaskName)
  /-- `scheduler->state = SCHEDULER_THREAD_STARTED`, after it. -/
  | setStarted (t : TaskName)
  /-- `if (SchedulerThread_GetState(...) == SCHEDULER_THREAD_STARTED)`: stop and join. -/
  | stopIfStarted (t : TaskName)
  /-- `SchedulerThread_Stop`. -/
  | schedulerStop (t : TaskName)
  /-- `ThreadAPI_Join`. -/
  | join (t : TaskName)
  /-- `SchedulerThread_Deinit`. -/
  | schedulerDeinit (t : TaskName)
  deriving DecidableEq, Repr

/-! ## Starting -/

/-- The steps of `SecurityAgent_Init` and `SecurityAgent_Start`. -/
inductive AgentStep where
  | initialise (c : AgentComponent)
  | switchRealAndEffectiveUsers
  | connectAndUpdateConfiguration
  /-- The first half of `SecurityAgent_StartAsyncTask`. -/
  | initThread (t : TaskName)
  /-- Its second half. -/
  | startThread (t : TaskName)
  deriving DecidableEq, Repr

/-- The flags of `SecurityAgent`. The tasks' `taskInitiated` are those of their components. -/
structure Agent where
  initiated : AgentComponent → Bool
  taskThreadInitiated : TaskName → Bool

namespace AgentStep

/-- The step succeeds. -/
def succeeds (o : AgentOutcome) : AgentStep → Bool
  | initialise c => o.initialises c
  | switchRealAndEffectiveUsers => o.switchRealAndEffectiveUsers
  | connectAndUpdateConfiguration => o.connect && o.twinUpdatesQueueSize.any (0 < ·)
  | initThread _ => true
  | startThread t => o.threadCreate t

/-- What a step does that succeeds. -/
def actions : AgentStep → List AgentAction
  | initialise c => [.initialise c]
  | switchRealAndEffectiveUsers => []
  | connectAndUpdateConfiguration => [.execute .updateTwin]
  | initThread t => [.schedulerInit t]
  | startThread t => [.threadCreate t, .setStarted t]

/-- The flag that is set after a step. The telemetry provider has none, and
`asyncMonitorTask.taskInitiated`, which stands for the two collectors, is set nowhere. -/
def setsFlag : AgentComponent → Bool
  | .agentTelemetryProvider => false
  | .processCreationCollector => false
  | .connectionCreateEventCollector => false
  | _ => true

end AgentStep

namespace Agent

/-- `SecurityAgent_Init`, `SecurityAgent_InitAllQueues` within it: each step is taken if all
before it have succeeded. -/
def initSteps : List AgentStep :=
  [.initialise .logger, .initialise .iothub, .initialise .localConfiguration,
    .initialise .memoryMonitor, .initialise .twinConfiguration, .switchRealAndEffectiveUsers,
    .initialise (.queue .diagnosticEvent), .initialise (.queue .operationalEvents),
    .initialise (.queue .highPriority), .initialise (.queue .lowPriority),
    .initialise (.queue .twinUpdates), .initialise .diagnosticEventCollector,
    .initialise .agentTelemetryProvider, .initialise .iothubAdapter]

/-- `SecurityAgent_Start`. -/
def startSteps : List AgentStep :=
  [.initialise .updateTwinTask, .connectAndUpdateConfiguration,
    .initialise .publisherTask, .initThread .publisher, .startThread .publisher,
    .initialise .processCreationCollector, .initialise .connectionCreateEventCollector,
    .initThread .monitor, .startThread .monitor,
    .initThread .updateTwin, .startThread .updateTwin]

/-- The flags after these steps; `memset` has cleared them before. -/
def after (done : List AgentStep) : Agent where
  initiated c := AgentStep.setsFlag c && done.contains (.initialise c)
  taskThreadInitiated t := done.contains (.initThread t)

/-! ## Taking down -/

variable (a : Agent)

def deinitialiseIf (c : AgentComponent) : List AgentAction :=
  if a.initiated c then [.deinitialise c] else []

/-- `SecurityAgent_StopAsyncTask`. -/
def stopAsyncTask (t : TaskName) : List AgentAction :=
  if a.taskThreadInitiated t then [.stopIfStarted t, .schedulerDeinit t] else []

/-- `SecurityAgent_Deinit`. -/
def deinit : List AgentAction :=
  a.stopAsyncTask .publisher ++ a.deinitialiseIf .publisherTask
    ++ a.stopAsyncTask .monitor ++ a.deinitialiseIf .processCreationCollector
    ++ a.deinitialiseIf .connectionCreateEventCollector
    ++ a.stopAsyncTask .updateTwin ++ a.deinitialiseIf .updateTwinTask
    ++ a.deinitialiseIf .iothubAdapter ++ a.deinitialiseIf .twinConfiguration
    ++ [.deinitialise .agentTelemetryProvider]
    ++ a.deinitialiseIf .diagnosticEventCollector
    ++ a.deinitialiseIf (.queue .highPriority) ++ a.deinitialiseIf (.queue .lowPriority)
    ++ a.deinitialiseIf (.queue .twinUpdates) ++ a.deinitialiseIf (.queue .operationalEvents)
    ++ a.deinitialiseIf (.queue .diagnosticEvent)
    ++ a.deinitialiseIf .memoryMonitor ++ a.deinitialiseIf .localConfiguration
    ++ a.deinitialiseIf .iothub ++ a.deinitialiseIf .logger

/-- `SecurityAgent_Wait`. -/
def wait : List AgentAction :=
  [.join .publisher, .join .monitor, .schedulerStop .updateTwin, .join .updateTwin]

/-- `SecurityAgent_Stop`. -/
def stop : List AgentAction := [.schedulerStop .publisher, .schedulerStop .monitor] ++ wait

end Agent

/-! ## The main thread -/

/-- The steps before the first that does not succeed. -/
def AgentStep.upToFailure (o : AgentOutcome) (steps : List AgentStep) : List AgentStep :=
  steps.takeWhile (·.succeeds o)

namespace Agent

/-- What the main thread does when these steps are all that succeed. -/
def takesDown (done : List AgentStep) : List AgentAction :=
  done.flatMap AgentStep.actions ++ (after done).deinit

/-- The same when all succeed, `ending` being what it calls then. -/
def runsAndTakesDown (ending : List AgentAction) : List AgentAction :=
  (initSteps ++ startSteps).flatMap AgentStep.actions ++ ending
    ++ (after (initSteps ++ startSteps)).deinit

/-- `SecurityAgent_Init` and, if it succeeds, `SecurityAgent_Start`; if both do, `ending`; and
`SecurityAgent_Deinit`, which `SecurityAgent_Init` calls itself where it fails. -/
def run (ending : List AgentAction) (o : AgentOutcome) : List AgentAction :=
  let initialised := AgentStep.upToFailure o initSteps
  if initialised ≠ initSteps then takesDown initialised
  else
    let started := AgentStep.upToFailure o startSteps
    if started ≠ startSteps then takesDown (initSteps ++ started) else runsAndTakesDown ending

/-- `main`. -/
def main (o : AgentOutcome) : List AgentAction := run wait o

end Agent

/-! ## The threads -/

/-- `SchedulerThreadState`. -/
inductive SchedulerThreadState where
  | created
  | started
  | stopped
  deriving DecidableEq, Repr

/-- `SchedulerThread`, as far as both threads look at it. -/
structure SchedulerThread where
  state : SchedulerThreadState
  continueRunning : Bool

/-- Where a thread is in `SchedulerThread_MainFunc`. -/
inductive WorkerPhase where
  /-- At the condition of the loop. -/
  | testing
  /-- In the task. -/
  | working
  | sleeping
  /-- Behind the loop. -/
  | leaving
  | ended
  deriving DecidableEq, Repr

/-- All threads of the agent. -/
structure AgentWorld where
  /-- The component is initialised. -/
  up : AgentComponent → Bool
  scheduler : TaskName → SchedulerThread
  /-- The thread of a task, from its creation until it is joined. -/
  worker : TaskName → Option WorkerPhase
  /-- What the main thread has still to do. -/
  main : List AgentAction

namespace AgentWorld

/-- Before the first action. -/
def start (main : List AgentAction) : AgentWorld where
  up _ := false
  scheduler _ := ⟨.created, false⟩
  worker _ := none
  main := main

/-- A thread has been created and has not come to its end. -/
def Runs (w : AgentWorld) (t : TaskName) : Prop := ∃ p, w.worker t = some p ∧ p ≠ .ended

/-- What an action changes, the list of what is left apart. -/
def act (w : AgentWorld) (rest : List AgentAction) : AgentAction → AgentWorld
  | .initialise c => { w with up := Function.update w.up c true, main := rest }
  | .deinitialise c => { w with up := Function.update w.up c false, main := rest }
  | .execute _ => { w with main := rest }
  | .schedulerInit t =>
      { w with scheduler := Function.update w.scheduler t ⟨.created, true⟩, main := rest }
  | .threadCreate t => { w with worker := Function.update w.worker t (some .testing), main := rest }
  | .setStarted t =>
      { w with scheduler := Function.update w.scheduler t
                 { w.scheduler t with state := .started }, main := rest }
  | .stopIfStarted t =>
      if (w.scheduler t).state = .started then
        { w with main := .schedulerStop t :: .join t :: rest }
      else { w with main := rest }
  | .schedulerStop t =>
      { w with scheduler := Function.update w.scheduler t
                 { w.scheduler t with continueRunning := false }, main := rest }
  | .join t => { w with worker := Function.update w.worker t none, main := rest }
  | .schedulerDeinit t =>
      { w with scheduler := Function.update w.scheduler t ⟨.created, false⟩, main := rest }

/-- What is done next in `SchedulerThread_MainFunc`. -/
def workerNext (s : SchedulerThread) : WorkerPhase → WorkerPhase
  | .testing => if s.continueRunning then .working else .leaving
  | .working => .sleeping
  | .sleeping => .testing
  | .leaving => .ended
  | .ended => .ended

/-- A thread that ends sets its state before. -/
def leave (s : SchedulerThread) : WorkerPhase → SchedulerThread
  | .leaving => { s with state := .stopped }
  | _ => s

/-- One step of one thread. A join waits until the thread has ended. -/
inductive Step : AgentWorld → AgentWorld → Prop where
  | main {w a rest} : w.main = a :: rest → (∀ t, a = .join t → ¬ w.Runs t) → Step w (w.act rest a)
  | worker {w t p} : w.worker t = some p → p ≠ .ended →
      Step w { w with
        worker := Function.update w.worker t (some (workerNext (w.scheduler t) p))
        scheduler := Function.update w.scheduler t (leave (w.scheduler t) p) }

/-- What any interleaving leads to. -/
inductive Reachable (begun : AgentWorld) : AgentWorld → Prop where
  | refl : Reachable begun begun
  | tail {w w'} : Reachable begun w → Step w w' → Reachable begun w'

end AgentWorld

/-! ## What is used -/

/-- What logging uses. -/
def loggingUses : List AgentComponent :=
  [.logger, .diagnosticEventCollector, .queue .diagnosticEvent, .memoryMonitor, .twinConfiguration]

/-- What a task uses while it is executed. -/
def TaskName.uses : TaskName → List AgentComponent
  | .publisher => [.publisherTask, .queue .operationalEvents, .queue .highPriority,
      .queue .lowPriority, .iothub, .iothubAdapter, .localConfiguration] ++ loggingUses
  -- the telemetry provider points to the counter of the adapter
  | .monitor => [.queue .operationalEvents, .queue .highPriority, .queue .lowPriority,
      .agentTelemetryProvider, .iothubAdapter, .localConfiguration, .processCreationCollector,
      .connectionCreateEventCollector] ++ loggingUses
  | .updateTwin => [.updateTwinTask, .queue .twinUpdates, .iothub, .iothubAdapter] ++ loggingUses

/-- What the callbacks use that the IoT SDK may call as long as the adapter is initialised. -/
def callbacksUse : List AgentComponent := .queue .twinUpdates :: loggingUses

/-- What the `Deinit` of a component uses. -/
def AgentComponent.deinitUses : AgentComponent → List AgentComponent
  | queue _ => [.memoryMonitor]
  | diagnosticEventCollector => [.queue .diagnosticEvent, .memoryMonitor]
  | iothubAdapter => [.iothub, .logger]
  | updateTwinTask => [.queue .twinUpdates, .memoryMonitor]
  | _ => []

end SecurityAgent
