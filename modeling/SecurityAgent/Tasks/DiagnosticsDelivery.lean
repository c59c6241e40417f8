import SecurityAgent.Collectors.DiagnosticDraining
import SecurityAgent.Tasks.Delivery

/-!
# From the logger to the hub

What is logged waits in the diagnostics queue until the event monitor takes it out, and the event
that is made of it waits in one of the publisher's queues until the publisher takes it from there.
The threads that log, the event monitor, the other collectors and the publisher go on at the same
time, and each step may fail.

The two queues are two conduits one behind the other: whatever arrives at the hub has passed both.
-/

namespace SecurityAgent

open MessageSerializer Machine Conduit EventPublisherTask

namespace DiagnosticEventCollector

/-- What happens to the diagnostics. -/
inductive DiagnosticsAction where
  /-- `Logger_LogEvent`, in whichever thread. -/
  | log (o : LogOutcome) (severity : Severity) (text : String)
  /-- `DiagnosticEventCollector_GetEvents` with a queue, while others log. -/
  | collect (queue : SourceQueue) (o : CollectOutcome) (others : Nat → Round)
  /-- The other queues draw on the monitor. -/
  | draw (monitor : MemoryMonitor → MemoryMonitor)

/-- What comes of it. -/
structure DiagnosticsRecord where
  /-- The events that the diagnostics queue has accepted. -/
  logged : List (QueueItem DiagnosticEvent)
  /-- The events that have been pushed, with the queue that has accepted them. -/
  pushed : List (SourceQueue × Json)
  result : EventCollectorResult

def step (s : Diagnostics) : DiagnosticsAction → Option (DiagnosticsRecord × Diagnostics)
  | .log o severity text => (logEvent o severity text s).map fun s' =>
      (⟨s'.queue.items.drop s.queue.items.length, [], .ok⟩, s')
  | .collect queue o others =>
      let d := drainEvents o others s
      some (⟨(d.popped ++ d.state.queue.items).drop s.queue.items.length,
        d.pushed.map fun event => (queue, event), d.result⟩, d.state)
  | .draw monitor => some (⟨[], [], .ok⟩, { s with monitor := monitor s.monitor })

/-- The events that are pushed to the queue `k`. -/
def pushedTo (k : SourceQueue) : List (SourceQueue × Json) → List Json
  | [] => []
  | p :: pushed => if p.1 = k then p.2 :: pushedTo k pushed else pushedTo k pushed

theorem pushedTo_append (k : SourceQueue) (pushed pushed' : List (SourceQueue × Json)) :
    pushedTo k (pushed ++ pushed') = pushedTo k pushed ++ pushedTo k pushed' := by
  induction pushed with
  | nil => rfl
  | cons p pushed ih =>
      rw [List.cons_append, pushedTo, pushedTo, ih]
      split <;> rfl

/-- The queue has held `items` and holds `items'`, with `logged` going in. Each item that has been
taken out has its fate: the queue to which an event made of it has been pushed, or none if it is
lost, which does not happen under `C`. -/
structure Leaves (C : Prop) (items logged : List (QueueItem DiagnosticEvent))
    (pushed : List (SourceQueue × Json)) (items' : List (QueueItem DiagnosticEvent))
    (fates : List (QueueItem DiagnosticEvent × Option SourceQueue)) : Prop where
  moved : items ++ logged = fates.map Prod.fst ++ items'
  made : ∀ k, List.Forall₂ OutputOf (via k fates) (pushedTo k pushed)
  complete : C → ∀ f ∈ fates, f.2 ≠ none

variable {C C' : Prop} {items items' items'' logged logged' : List (QueueItem DiagnosticEvent)}
  {pushed pushed' : List (SourceQueue × Json)} {s s' : Diagnostics}
  {fates fates' : List (QueueItem DiagnosticEvent × Option SourceQueue)}

namespace Leaves

/-- Nothing leaves. -/
theorem added (items logged : List (QueueItem DiagnosticEvent)) :
    Leaves C items logged [] (items ++ logged) [] :=
  ⟨rfl, fun _ => .nil, fun _ _ hf => absurd hf List.not_mem_nil⟩

theorem trans (h : Leaves C items logged pushed items' fates)
    (h' : Leaves C' items' logged' pushed' items'' fates') :
    Leaves (C ∧ C') items (logged ++ logged') (pushed ++ pushed') items'' (fates ++ fates') where
  moved := by
    rw [← List.append_assoc, h.moved, List.append_assoc, h'.moved, List.map_append,
      List.append_assoc]
  made k := by
    rw [via_append, pushedTo_append]
    exact List.rel_append (h.made k) (h'.made k)
  complete hC f hf := by
    rcases List.mem_append.mp hf with hf | hf
    · exact h.complete hC.1 f hf
    · exact h'.complete hC.2 f hf

theorem mono (h : Leaves C items logged pushed items' fates) (hC : C' → C) :
    Leaves C' items logged pushed items' fates :=
  ⟨h.moved, h.made, fun h' => h.complete (hC h')⟩

end Leaves

section

variable (parse : String → Option Json) (serialize : Json → String)

/-- The member that `e` becomes reports what has been logged. -/
def Reports (item : QueueItem DiagnosticEvent) (e : Event) : Prop :=
  ∃ event, eventValue parse e = some event ∧ OutputOf item event

end

variable {parse : String → Option Json} {serialize : Json → String} {agentId : String}

end DiagnosticEventCollector

end SecurityAgent
