import SecurityAgent.Agent.LockUse

/-!
# What the agent's threads wait for

The locks are taken in an order: the adapter's, then a queue's, the diagnostic queue's
after the others', then the memory monitor's, then the twin configuration's, and
the counters' last. What breaks the order is a diagnostic queue that logs, and it is initialised so
that it does not. So whoever waits is led on to somebody who can go on, with one
exception: the event collectors' configuration, whose lock may be left taken.
-/

namespace SecurityAgent

open Locking AgentScript

/-- The order of the locks. -/
def AgentLock.rank : AgentLock → Nat
  | .iotHubAdapter => 1
  | .queue .diagnosticEvent => 3
  | .queue _ => 2
  | .memoryMonitor => 4
  | .twinConfiguration => 5
  | .counter _ => 6

theorem AgentLock.rank_le (l : AgentLock) : l.rank ≤ 6 := by
  cases l with
  | iotHubAdapter => exact (by decide : (1 : Nat) ≤ 6)
  | queue q => cases q <;> exact (by decide)
  | memoryMonitor => exact (by decide : (4 : Nat) ≤ 6)
  | twinConfiguration => exact (by decide : (5 : Nat) ≤ 6)
  | counter c => exact Nat.le_refl 6

namespace AgentFunction

/-- The highest lock that may be held where the function is called. -/
def most : AgentFunction → Nat
  | counterIncreaseBy _ => 5
  | counterSnapshotAndReset _ => 5
  | twinConfigurationGetField => 4
  | twinConfigurationUpdate => 4
  | twinConfigurationGetSerializedTwinConfiguration => 4
  | internalMemoryMonitorConsume => 4
  | memoryMonitorConsume => 3
  | memoryMonitorRelease => 3
  | memoryMonitorCurrentConsumption => 3
  | queuePushBack q => (AgentLock.queue q).rank
  | queuePopFront q => (AgentLock.queue q).rank
  | queuePopFrontIf q => (AgentLock.queue q).rank
  | queueDeinit q => (AgentLock.queue q).rank
  | syncQueuePushBack q => (AgentLock.queue q).rank - 1
  | syncQueuePopFront q => (AgentLock.queue q).rank - 1
  | syncQueuePopFrontIf q => (AgentLock.queue q).rank - 1
  | syncQueueGetSize q => (AgentLock.queue q).rank - 1
  | loggerLogEvent => 2
  | diagnosticEventCollectorAddEvent => 2
  | localConfigurationTryRenewConnectionString => 1
  | iotHubAdapterConnect => 1
  | iotHubAdapterReinit => 1
  | iotHubAdapterSendMessageAsyncInternal => 1
  | _ => 0

variable {shouldSendLogs : QueueName → Bool}

/-- Pushing logs under the queue's own lock, which is below the diagnostic queue's. -/
theorem ordered_logIfSent (h : shouldSendLogs .diagnosticEvent = false) (q : QueueName) :
    (logIfSent shouldSendLogs q).Ordered AgentLock.rank most (AgentLock.queue q).rank := by
  unfold logIfSent
  cases hq : shouldSendLogs q with
  | false => exact trivial
  | true =>
      cases q with
      | diagnosticEvent => exact absurd (h.symm.trans hq) Bool.false_ne_true
      | operationalEvents => exact Nat.le_refl 2
      | highPriority => exact Nat.le_refl 2
      | lowPriority => exact Nat.le_refl 2
      | twinUpdates => exact Nat.le_refl 2

/-- Only pushing into a queue asks whether the queue logs. -/
theorem script_eq_quiet {f : AgentFunction} (h : ∀ q, f ≠ queuePushBack q) :
    script shouldSendLogs f = script (fun _ => false) f := by
  cases f with
  | queuePushBack q => exact absurd rfl (h q)
  | _ => rfl

/-- **Every function takes its locks in order**, unless the diagnostic queue logs. -/
theorem ordered_script (h : shouldSendLogs .diagnosticEvent = false) (f : AgentFunction) :
    (script shouldSendLogs f).Ordered AgentLock.rank most (most f) := by
  by_cases hpush : ∃ q, f = queuePushBack q
  · obtain ⟨q, rfl⟩ := hpush
    have hlog := ordered_logIfSent h q
    have hconsume : (AgentLock.queue q).rank ≤ 3 := by cases q <;> decide
    have hcounter : (AgentLock.queue q).rank ≤ 5 := Nat.le_trans hconsume (by decide)
    exact ⟨hconsume, ⟨⟨hlog, hcounter, trivial⟩, hlog, hconsume, trivial⟩, hcounter, trivial⟩
  · rw [script_eq_quiet (not_exists.mp hpush)]
    cases f with
    | queuePushBack q => exact absurd ⟨q, rfl⟩ hpush
    | queuePopFront q => cases q <;> decide
    | queuePopFrontIf q => cases q <;> decide
    | queueDeinit q => cases q <;> decide
    | syncQueuePushBack q => cases q <;> decide
    | syncQueuePopFront q => cases q <;> decide
    | syncQueuePopFrontIf q => cases q <;> decide
    | syncQueueGetSize q => cases q <;> decide
    | counterIncreaseBy c => exact ⟨trivial, Nat.le_refl 6, trivial⟩
    | counterSnapshotAndReset c => exact ⟨trivial, Nat.le_refl 6, trivial⟩
    | diagnosticEventCollectorGetEvents q => cases q <;> decide
    | messageSerializerAddSingleEvent q => cases q <;> decide
    | messageSerializerAddEventsFromQueue q => cases q <;> decide
    | messageSerializerCreateSecurityMessage q q' => cases q <;> cases q' <;> decide
    | eventPublisherTaskSendEvents q q' => cases q <;> cases q' <;> decide
    | collect q => cases q <;> decide
    | _ => decide

end AgentFunction

/-! ## The event collectors' configuration -/

/-- A thread that wants the lock while it is taken. -/
def EventCollectors.Threads.Waits (s : EventCollectors.Threads) (t : Nat) : Prop :=
  s.phase t = .acquiring ∧ s.collectors.lock = .held

/-- A thread goes on in any phase but this one. -/
theorem EventCollectors.Threads.step_or_waits (s : EventCollectors.Threads) (t : Nat) :
    (∃ r, s.step ⟨t, id, false⟩ = some r) ∨ s.Waits t := by
  unfold step
  dsimp only
  cases hp : s.phase t with
  | outside =>
      dsimp only
      split <;> exact Or.inl ⟨_, rfl⟩
  | acquiring =>
      cases hlock : s.collectors.lock with
      | null => exact Or.inl ⟨_, rfl⟩
      | free => exact Or.inl ⟨_, rfl⟩
      | held => exact Or.inr ⟨hp, hlock⟩
  | setting => exact Or.inl ⟨_, rfl⟩
  | inBody => exact Or.inl ⟨_, rfl⟩
  | testing refused =>
      dsimp only
      split <;> exact Or.inl ⟨_, rfl⟩
  | releasing refused => exact Or.inl ⟨_, rfl⟩
  | clearing refused => exact Or.inl ⟨_, rfl⟩

namespace AgentSystem

/-- Whom a thread waits for, and whom that one waits for, ends with a thread that can go on, or
that wants the lock of the event collectors' configuration. -/
def LeadsOn (shouldSendLogs : QueueName → Bool) (s : AgentSystem) (t : Nat) : Prop :=
  ∃ u, Relation.ReflTransGen s.WaitsFor t u
    ∧ ((∃ s', Step (AgentFunction.script shouldSendLogs) collectorsConfiguration s u s')
      ∨ s.Enters u ∧ s.component.Waits u)

/-- An operation of the configuration goes on, or wants its lock. -/
theorem enters_leadsOn {shouldSendLogs : QueueName → Bool} {s : AgentSystem} {u : Nat}
    (h : s.Enters u) :
    (∃ s', Step (AgentFunction.script shouldSendLogs) collectorsConfiguration s u s')
      ∨ s.Enters u ∧ s.component.Waits u := by
  obtain ⟨c, k, hk⟩ := id h
  rcases s.component.step_or_waits u with ⟨⟨o, c'⟩, hstep⟩ | hwaits
  · cases o with
    | none => exact Or.inl ⟨_, .within hk ⟨_, rfl, hstep⟩⟩
    | some refused => exact Or.inl ⟨_, .leaves hk ⟨_, refused, rfl, hstep⟩⟩
  · exact Or.inr ⟨h, hwaits⟩

/-! ## A diagnostic queue that logs -/

section DiagnosticLogs

/-- One thread, and what it has still to do. -/
def alone (k : Stack AgentLock AgentFunction CollectorsOperation) : AgentSystem where
  threads t := if t = 0 then k else []
  component := .init

theorem alone_self (k : Stack AgentLock AgentFunction CollectorsOperation) :
    (alone k).threads 0 = k := rfl

theorem alone_of_ne (k : Stack AgentLock AgentFunction CollectorsOperation) {t : Nat} (h : t ≠ 0) :
    (alone k).threads t = [] := if_neg h

theorem free_alone {k : Stack AgentLock AgentFunction CollectorsOperation} {l : AgentLock}
    (h : Instruction.unlock l ∉ k) : (alone k).Free l := by
  intro t
  by_cases ht : t = 0
  · subst ht
    rwa [alone_self]
  · rw [alone_of_ne k ht]
    exact List.not_mem_nil

variable {body : AgentFunction → AgentScript} {begun : AgentSystem}

theorem reachable_alone {k k' : Stack AgentLock AgentFunction CollectorsOperation}
    (h : Reachable body collectorsConfiguration begun (alone k))
    (hgoes : Goes body (alone k).Free k k') :
    Reachable body collectorsConfiguration begun (alone k') := by
  have hgoes' : Goes body (alone k).Free ((alone k).threads 0) k' := by rwa [alone_self]
  have hnext : ({ alone k with threads := Function.update (alone k).threads 0 k' } : AgentSystem)
      = alone k' := by
    refine congrArg (fun threads => System.mk threads _) (funext fun t => ?_)
    by_cases ht : t = 0
    · subst ht
      rw [Function.update_self, if_pos rfl]
    · rw [Function.update_of_ne ht, alone_of_ne k ht, if_neg ht]
  rw [← hnext]
  exact h.tail (.goes hgoes')

variable {shouldSendLogs : QueueName → Bool}

/-- A thread that pushes one diagnostic event. -/
def pushesOne (t : Nat) : List AgentFunction :=
  if t = 0 then [.syncQueuePushBack .diagnosticEvent] else []

theorem start_pushesOne :
    AgentSystem.start pushesOne = alone (calls [.syncQueuePushBack .diagnosticEvent]) := by
  unfold AgentSystem.start alone pushesOne
  congr 1
  funext t
  by_cases ht : t = 0
  · rw [if_pos ht, if_pos ht]
  · rw [if_neg ht, if_neg ht]
    rfl

/-- What a push does once it has asked the memory monitor. -/
def exceededOrNot (shouldSendLogs : QueueName → Bool) : AgentScript :=
  inOrder [
    oneOf [
      inOrder [AgentFunction.logIfSent shouldSendLogs .diagnosticEvent,
        .call (.counterIncreaseBy (.queue .diagnosticEvent))],
      AgentFunction.logIfSent shouldSendLogs .diagnosticEvent,
      .call .memoryMonitorRelease],
    .call (.counterIncreaseBy (.queue .diagnosticEvent))]

/-- What is left of a push that logs: the two counts, and the lock. -/
def pushLeft : Stack AgentLock AgentFunction CollectorsOperation :=
  [.todo (inOrder [.call (.counterIncreaseBy (.queue .diagnosticEvent))]),
    .todo (inOrder [.call (.counterIncreaseBy (.queue .diagnosticEvent))]),
    .unlock (.queue .diagnosticEvent)]

/-- Pushing a diagnostic event runs into the memory limit, logs that, and so pushes another one,
while the lock of the first is still taken. -/
theorem pushes_while_pushing (h : shouldSendLogs .diagnosticEvent = true) :
    Reachable (AgentFunction.script shouldSendLogs) collectorsConfiguration
      (AgentSystem.start pushesOne)
      (alone (.todo (.holding (.queue .diagnosticEvent) (.call (.queuePushBack .diagnosticEvent)))
        :: pushLeft)) := by
  rw [start_pushesOne]
  have hlocked : Reachable (AgentFunction.script shouldSendLogs) collectorsConfiguration
      (alone (calls [.syncQueuePushBack .diagnosticEvent]))
      (alone [.todo (.call (.queuePushBack .diagnosticEvent)),
        .unlock (.queue .diagnosticEvent)]) :=
    reachable_alone (reachable_alone (reachable_alone .refl .call) .other)
      (.lock (free_alone (by simp)))
  -- the memory monitor looks up its limit ...
  have hlimit : Reachable (AgentFunction.script shouldSendLogs) collectorsConfiguration
      (alone (calls [.syncQueuePushBack .diagnosticEvent]))
      (alone [.todo .nothing, .unlock .twinConfiguration, .unlock .memoryMonitor,
        .todo (exceededOrNot shouldSendLogs), .unlock (.queue .diagnosticEvent)]) :=
    reachable_alone (reachable_alone (reachable_alone (reachable_alone (reachable_alone
      (reachable_alone (reachable_alone (reachable_alone (reachable_alone hlocked .call) .andThen)
      .call) .other) (.lock (free_alone (by simp)))) .call) .call) .other)
      (.lock (free_alone (by simp)))
  -- ... which is exceeded
  have hexceeded : Reachable (AgentFunction.script shouldSendLogs) collectorsConfiguration
      (alone (calls [.syncQueuePushBack .diagnosticEvent]))
      (alone (.todo (AgentFunction.logIfSent shouldSendLogs .diagnosticEvent) :: pushLeft)) :=
    reachable_alone (reachable_alone (reachable_alone (reachable_alone (reachable_alone
      (reachable_alone hlimit .nothing) .unlock) .unlock) .andThen) .one) .andThen
  rw [show AgentFunction.logIfSent shouldSendLogs .diagnosticEvent = AgentFunction.log from
    if_pos h] at hexceeded
  exact reachable_alone (reachable_alone (reachable_alone (reachable_alone (reachable_alone
    (reachable_alone hexceeded .call) .other) .call) .other) .call) .other

/-- It then waits for itself. -/
theorem not_leadsOn_pushing :
    ¬ LeadsOn shouldSendLogs (alone (.todo (.holding (.queue .diagnosticEvent)
      (.call (.queuePushBack .diagnosticEvent))) :: pushLeft)) 0 := by
  rintro ⟨u, hchain, hend⟩
  -- nobody else has anything to do
  have hself : u = 0 := by
    rcases Relation.ReflTransGen.cases_tail hchain with heq | ⟨v, -, l, a, k, -, hl⟩
    · exact heq
    · by_contra hne
      rw [alone_of_ne _ hne] at hl
      exact absurd hl List.not_mem_nil
  subst hself
  rcases hend with ⟨s', hstep⟩ | ⟨⟨c, k, hk⟩, -⟩
  · cases hstep with
    | goes hgoes =>
        rw [alone_self] at hgoes
        cases hgoes with
        | lock hfree =>
            have hheld := hfree 0
            rw [alone_self] at hheld
            exact hheld (by simp [pushLeft])
    | within hk _ =>
        rw [alone_self] at hk
        exact absurd hk (by simp)
    | leaves hk _ =>
        rw [alone_self] at hk
        exact absurd hk (by simp)
  · rw [alone_self] at hk
    exact absurd hk (by simp)

end DiagnosticLogs

/-- **Only the event collectors' lock can stop the agent.** However many threads run its functions,
and in whatever order they take their steps, whoever waits is led on to a thread that can go on or
that wants that lock. It takes a diagnostic queue that does not log. -/
theorem waits_lead_on_iff (shouldSendLogs : QueueName → Bool) :
    (∀ (program : Nat → List AgentFunction) (s : AgentSystem),
      Reachable (AgentFunction.script shouldSendLogs) collectorsConfiguration (start program) s →
      ∀ t, s.threads t ≠ [] → LeadsOn shouldSendLogs s t)
    ↔ shouldSendLogs .diagnosticEvent = false := by
  constructor
  · intro h
    by_contra hlogs
    refine not_leadsOn_pushing (h pushesOne _ (pushes_while_pushing ?_) 0 ?_)
    · exact (Bool.not_eq_false _).mp hlogs
    · rw [alone_self]
      exact List.cons_ne_nil _ _
  · intro h program s hreachable t ht
    have hordered := hreachable.ordered (AgentFunction.ordered_script h) fun t => ordered_calls _
    obtain ⟨u, hchain, hend⟩ := leads_on AgentLock.rank_le hordered t ht
    exact ⟨u, hchain, hend.elim Or.inl enters_leadsOn⟩

/-- The agent's own queues are initialised in that way. -/
example : Agent.shouldSendLogs .diagnosticEvent = false := rfl

end AgentSystem

end SecurityAgent
