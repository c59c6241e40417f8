import SecurityAgent.Collectors.DiagnosticEventCollector
import SecurityAgent.Lib.Run

/-!
# Diagnostics that are switched off

The logger records whatever is severe enough, and the priority of the diagnostics is
nothing it looks at. It is the event monitor that does, when it decides whether to
collect. So with the diagnostics off the queue is filled and never emptied, and what
it holds is missing to the other queues from then on. A pass with any other priority
takes every event out (`collect_empties`).
-/

namespace SecurityAgent

open Machine

namespace MemoryMonitor

/-- What is granted: both lock calls succeed and the sum is within the limit. -/
theorem consume_eq_ok_iff (o : LockOutcome) (limit : Option UInt32) (m : MemoryMonitor)
    (n : UInt32) :
    (consume o limit m n).1 = .ok
      ↔ o = .ok ∧ ∃ l, limit = some l ∧ m.currentConsumptionInBytes + n ≤ l := by
  obtain ⟨lock, unlock⟩ := o
  unfold consume synchronized internalConsume
  cases lock with
  | false => simp [LockOutcome.ok]
  | true =>
      cases limit with
      | none => cases unlock <;> simp [LockOutcome.ok]
      | some l =>
          by_cases hl : m.currentConsumptionInBytes + n > l
          · have hnot : ¬ m.currentConsumptionInBytes + n ≤ l := UInt32.not_le.mpr hl
            cases unlock <;> simp [hl, hnot, LockOutcome.ok]
          · have hle : m.currentConsumptionInBytes + n ≤ l := UInt32.not_lt.mp hl
            cases unlock <;> simp [hl, hle, LockOutcome.ok]

end MemoryMonitor

namespace DiagnosticEventCollector

/-- What the collector's own queue takes of the shared cache. -/
def heldBytes (s : Diagnostics) : Nat := bytes s.queue.items

/-- No event is so small that it takes nothing. -/
theorem heldBytes_eq_zero_iff (s : Diagnostics) : heldBytes s = 0 ↔ s.queue.items = [] := by
  have hlen := length_le_bytes s.queue.items
  unfold heldBytes
  constructor
  · intro h
    rw [h] at hlen
    exact List.length_eq_zero_iff.mp (Nat.le_zero.mp hlen)
  · intro h
    rw [h]
    rfl

/-! ## What is recorded -/

/-- The message of what is logged. -/
def recordedMessage (text : String) : String := String.ofList (text.toList.take (LOG_MAX_BUFF - 1))

/-- What is logged is severe enough, and there is room for its event. -/
structure Recorded (s : Diagnostics) (o : LogOutcome) (severity : Severity) (text : String) :
    Prop where
  written : 0 < text.length
  severe : s.diagnosticEventMinimumSeverity.value ≤ severity.value
  initialized : s.initialized = true
  event : o.event = true
  message : o.message = true
  correlation : o.correlation = true
  lock : o.lock.lock = true
  consumeLock : o.consumeLock = .ok
  limit : ∃ l, o.limit = some l ∧ s.monitor.currentConsumptionInBytes
    + queueCalculateItemSize (eventSize (recordedMessage text)) ≤ l
  push : o.push.malloc = true

/-- A log call adds the event that is recorded, and nothing else is changed in the queue. -/
theorem logEvent_items {o : LogOutcome} {severity : Severity} {text : String} {s s' : Diagnostics}
    (h : logEvent o severity text s = some s') :
    (Recorded s o severity text ∧ ∃ event, s'.queue.items
        = s.queue.items ++ [⟨event, eventSize (recordedMessage text)⟩])
      ∨ ¬ Recorded s o severity text ∧ s'.queue.items = s.queue.items := by
  unfold logEvent at h
  by_cases hlogged : 0 < text.length ∧ s.diagnosticEventMinimumSeverity.value ≤ severity.value
      ∧ s.initialized = true
  swap
  · rw [if_neg hlogged] at h
    obtain rfl := Option.some.inj h
    exact Or.inr ⟨fun hr => hlogged ⟨hr.written, hr.severe, hr.initialized⟩, rfl⟩
  rw [if_pos hlogged] at h
  obtain ⟨hwritten, hsevere, hinitialized⟩ := hlogged
  change (addEvent o (recordedMessage text) severity s).map Prod.snd = some s' at h
  unfold addEvent initDiagnosticEvent at h
  by_cases hevent : o.event = false
  · rw [if_pos hevent] at h
    obtain rfl := Option.some.inj h
    exact Or.inr ⟨fun hr => Bool.noConfusion (hr.event.symm.trans hevent), rfl⟩
  rw [if_neg hevent] at h
  by_cases hmessage : o.message = false
  · rw [if_pos hmessage] at h
    cases h
  rw [if_neg hmessage] at h
  by_cases hcorrelation : o.correlation = false
  · rw [if_pos hcorrelation] at h
    obtain rfl := Option.some.inj h
    exact Or.inr ⟨fun hr => Bool.noConfusion (hr.correlation.symm.trans hcorrelation), rfl⟩
  rw [if_neg hcorrelation] at h
  obtain rfl := Option.some.inj h
  -- the push decides
  have hpush := SyncQueue.pushBack_cases o.lock (.real o.consumeLock o.releaseLock o.limit) o.push
    s.monitor s.queue (⟨recordedMessage text, severity, o.processId, o.threadId, o.timeLocal,
      o.correlationId⟩ : DiagnosticEvent) (eventSize (recordedMessage text))
  have hgranted := MemoryMonitor.consume_eq_ok_iff o.consumeLock o.limit s.monitor
    (queueCalculateItemSize (eventSize (recordedMessage text)))
  rcases hpush with ⟨hitems, hlock, hconsume, hmalloc, -⟩ | ⟨hitems, -, hnot, -⟩
  · obtain ⟨hlocks, hlimit⟩ := hgranted.mp hconsume
    exact Or.inl ⟨⟨hwritten, hsevere, hinitialized, Bool.not_eq_false _ ▸ hevent,
      Bool.not_eq_false _ ▸ hmessage, Bool.not_eq_false _ ▸ hcorrelation, hlock, hlocks, hlimit,
      hmalloc⟩, _, hitems⟩
  · refine Or.inr ⟨fun hr => hnot ⟨hr.lock, hgranted.mpr ⟨hr.consumeLock, hr.limit⟩, hr.push⟩, ?_⟩
    exact hitems

/-! ## Passes -/

/-- What a round has run was not switched off. -/
theorem not_off_of_mem_monitorEvents
    {priority : TwinConfigurationEventType → Option TwinConfigurationEventPriority}
    {events : List (TwinConfigurationEventType × EventCollector)} {collector : EventCollector}
    {p : TwinConfigurationEventPriority}
    (h : (collector, p) ∈ EventMonitorTask.monitorEvents priority events) :
    ∃ eventType, (eventType, collector) ∈ events ∧ priority eventType ≠ some .off := by
  induction events with
  | nil => exact absurd h List.not_mem_nil
  | cons e rest ih =>
      obtain ⟨eventType, c⟩ := e
      unfold EventMonitorTask.monitorEvents at h
      split at h
      · exact absurd h List.not_mem_nil
      · obtain ⟨t, hmem, hp⟩ := ih h
        exact ⟨t, List.mem_cons_of_mem _ hmem, hp⟩
      · rename_i q hoff hq
        rcases List.mem_cons.mp h with heq | hrest
        · obtain ⟨rfl, rfl⟩ := Prod.mk.inj heq
          refine ⟨eventType, List.mem_cons_self, fun hp => ?_⟩
          rw [hq] at hp
          exact hoff (Option.some.inj hp)
        · obtain ⟨t, hmem, hp⟩ := ih hrest
          exact ⟨t, List.mem_cons_of_mem _ hmem, hp⟩

/-- With the diagnostics off neither round of the event monitor runs their collector. -/
theorem diagnosticEvent_not_run
    {priority : TwinConfigurationEventType → Option TwinConfigurationEventPriority}
    (hoff : priority .diagnostic = some .off) (p : TwinConfigurationEventPriority) :
    (.diagnosticEvent, p)
        ∉ EventMonitorTask.monitorEvents priority EventMonitorTask.periodicEvents
      ∧ (.diagnosticEvent, p)
        ∉ EventMonitorTask.monitorEvents priority EventMonitorTask.triggeredEvents := by
  have htype : ∀ eventType, ((eventType, EventCollector.diagnosticEvent)
        ∈ EventMonitorTask.periodicEvents → eventType = .diagnostic)
      ∧ ((eventType, EventCollector.diagnosticEvent)
        ∈ EventMonitorTask.triggeredEvents → eventType = .diagnostic) := by
    intro eventType
    cases eventType <;> decide
  refine ⟨fun h => ?_, fun h => ?_⟩
  · obtain ⟨eventType, hmem, hp⟩ := not_off_of_mem_monitorEvents h
    obtain rfl := (htype eventType).1 hmem
    exact hp hoff
  · obtain ⟨eventType, hmem, hp⟩ := not_off_of_mem_monitorEvents h
    obtain rfl := (htype eventType).2 hmem
    exact hp hoff

/-- **A pass that collects empties the queue**, if nothing fails on the way. -/
theorem collect_empties {o : CollectOutcome} (hpop : ∀ i, o.pop i = .ok)
    (hsingle : ∀ i event, getSingleEvent (o.single i) event ≠ none) :
    ∀ (counter : Nat) (s : Diagnostics), s.queue.items.length ≤ counter →
      (collect o counter s).1 = .ok ∧ heldBytes (collect o counter s).2.2 = 0 := by
  intro counter
  induction counter with
  | zero =>
      intro s hlen
      rw [heldBytes_eq_zero_iff]
      exact ⟨rfl, List.length_eq_zero_iff.mp (Nat.le_zero.mp hlen)⟩
  | succ counter ih =>
      intro s hlen
      unfold collect
      rw [hpop counter, if_neg (by decide)]
      cases hitems : s.queue.items with
      | nil =>
          refine ⟨rfl, ?_⟩
          rw [heldBytes_eq_zero_iff]
          rfl
      | cons item rest =>
          rw [hitems, List.length_cons] at hlen
          obtain ⟨event, hevent⟩ := Option.ne_none_iff_exists'.mp (hsingle counter item.data)
          simp only [Fifo.popFront, LockOutcome.ok, Bool.true_eq_false, if_false, hevent]
          exact ih _ (by show rest.length ≤ counter; omega)

/-! ## Runs with the diagnostics off -/

/-- What happens to the queue while the diagnostics are off. -/
inductive OffOp where
  /-- Something is logged. -/
  | log (o : LogOutcome) (severity : Severity) (text : String)
  /-- The other queues take from the cache or give back. -/
  | others (monitor : MemoryMonitor)
  /-- A pass of the event monitor gets to the diagnostics, and finds that they are off. -/
  | pass (collect : CollectOutcome) (log : LogOutcome)

/-- One of them. -/
def offStep (s : Diagnostics) : OffOp → Option (Unit × Diagnostics)
  | .log o severity text => (logEvent o severity text s).map fun s' => ((), s')
  | .others monitor => some ((), { s with monitor := monitor })
  | .pass collect log => (monitorSingleEvents ⟨some .off, collect, log⟩ s).map fun r => ((), r.2)

/-- It makes the logger record an event. A pass logs one line of its own. -/
def OffOp.Records (s : Diagnostics) : OffOp → Prop
  | .log o severity text => Recorded s o severity text
  | .others _ => False
  | .pass _ recorded => Recorded s recorded .debug (finishedText .ok)

/-- **No step with the diagnostics off takes anything out**: the queue is left as it is, or, when
something is recorded, grows. -/
theorem offStep_items {s s' : Diagnostics} {op : OffOp} {out : Unit}
    (h : offStep s op = some (out, s')) :
    (op.Records s ∧ ∃ item, s'.queue.items = s.queue.items ++ [item])
      ∨ ¬ op.Records s ∧ s'.queue.items = s.queue.items := by
  cases op with
  | log o severity text =>
      obtain ⟨t, ht, heq⟩ := Option.map_eq_some_iff.mp h
      obtain ⟨-, rfl⟩ := Prod.mk.inj heq
      rcases logEvent_items ht with ⟨hr, event, hitems⟩ | hno
      · exact Or.inl ⟨hr, _, hitems⟩
      · exact Or.inr hno
  | others monitor =>
      obtain ⟨-, rfl⟩ := Prod.mk.inj (Option.some.inj h)
      exact Or.inr ⟨id, rfl⟩
  | pass collect log =>
      -- what is left of the pass is its debug line
      obtain ⟨⟨goesOn, t⟩, ht, heq⟩ := Option.map_eq_some_iff.mp h
      obtain ⟨-, rfl⟩ := Prod.mk.inj heq
      obtain ⟨u, hu, heq⟩ := Option.map_eq_some_iff.mp ht
      obtain ⟨-, rfl⟩ := Prod.mk.inj heq
      rcases logEvent_items hu with ⟨hr, event, hitems⟩ | hno
      · exact Or.inl ⟨hr, _, hitems⟩
      · exact Or.inr hno

/-- **What the diagnostics hold after a pass that finds them off is nothing exactly when nothing has
been recorded**, over any run that has begun with an empty queue. -/
theorem heldBytes_off_iff {s s' : Diagnostics} {ops : List OffOp} {collect : CollectOutcome}
    {log : LogOutcome} {outs : List Unit} (hempty : s.queue.items = [])
    (hrun : run offStep s (ops ++ [.pass collect log]) = some (outs, s')) :
    heldBytes s' = 0
      ↔ Along offStep (fun s op => ¬ op.Records s) s (ops ++ [.pass collect log]) := by
  rw [heldBytes_eq_zero_iff]
  refine run_end_iff_along (I := fun s => s.queue.items = []) ?_ ?_ ?_ hempty hrun
  · intro s op out s' hs hno h
    rcases offStep_items h with ⟨hr, -⟩ | ⟨-, hitems⟩
    · exact absurd hr hno
    · rw [hitems, hs]
  · intro s op out s' hs hr h hs'
    rcases offStep_items h with ⟨-, item, hitems⟩ | ⟨hno, -⟩
    · rw [hitems] at hs'
      exact List.append_ne_nil_of_right_ne_nil _ (List.cons_ne_nil _ _) hs'
    · exact hr hno
  · intro s op out s' hs h hs'
    rcases offStep_items h with ⟨-, item, hitems⟩ | ⟨-, hitems⟩
    · rw [hitems] at hs'
      exact List.append_ne_nil_of_right_ne_nil _ (List.cons_ne_nil _ _) hs'
    · exact hs (hitems ▸ hs')

/-- An agent that has just started, where the logger keeps warnings and worse. -/
def justStarted : Diagnostics := ⟨MemoryMonitor.init, MeteredQueue.init, true, .warning⟩

/-- Nothing fails when an event is logged. -/
def recording : LogOutcome :=
  ⟨true, true, true, 1, 1, 0, "", .ok, .ok, .ok, some 2560000, ⟨true, true, true⟩⟩

/-- Nothing fails when the queue is emptied. -/
def emptying : CollectOutcome :=
  ⟨.ok, fun _ => .ok, fun _ => .ok, fun _ => ⟨true, ⟨fun _ => some "", fun _ => some ""⟩,
    ⟨0, some "", true⟩, true, true, true, true, true⟩⟩

/-- A pass that finds the diagnostics off leaves the queue of the agent empty. -/
theorem heldBytes_off_recording :
    ∃ outs s', run offStep justStarted ([.log recording .debug "a"] ++ [.pass emptying recording])
        = some (outs, s') ∧ (heldBytes s' = 0
          ↔ Along offStep (fun s op => ¬ op.Records s) justStarted
            ([.log recording .debug "a"] ++ [.pass emptying recording])) :=
  ⟨_, _, rfl, heldBytes_off_iff rfl rfl⟩

/-- **One warning stays in the cache** when a pass has found the diagnostics off. -/
theorem off_keeps_event :
    ¬ ∀ (ops : List OffOp) (collect : CollectOutcome) (log : LogOutcome) (outs : List Unit)
      (s' : Diagnostics),
      run offStep justStarted (ops ++ [.pass collect log]) = some (outs, s') → heldBytes s' = 0 := by
  intro h
  have hheld := h [.log recording .warning "a"] emptying recording [(), ()] _ rfl
  exact absurd hheld (by decide)

end DiagnosticEventCollector

end SecurityAgent
