import SecurityAgent.Lib.Conduit
import SecurityAgent.Tasks.Progress

/-!
# What the hub receives in the end

The collectors push into the three queues while the publisher is executed over and over, and
anything may fail on the way. The hub receives the events of a queue in the order in which they were
pushed, each at most once; and it receives all that have left the queue where nothing fails.
-/

namespace SecurityAgent

open MessageSerializer Conduit

/-- The queues that the publisher takes events from. -/
inductive SourceQueue where
  | operational
  | high
  | low
  deriving DecidableEq, Repr

namespace PublisherQueues

def get (q : PublisherQueues) : SourceQueue → List Event
  | .operational => q.operationalEventsQueue
  | .high => q.highPriorityEventQueue
  | .low => q.lowPriorityEventQueue

/-- An event is pushed into a queue. -/
def push (q : PublisherQueues) (e : Event) : SourceQueue → PublisherQueues
  | .operational => { q with operationalEventsQueue := q.operationalEventsQueue ++ [e] }
  | .high => { q with highPriorityEventQueue := q.highPriorityEventQueue ++ [e] }
  | .low => { q with lowPriorityEventQueue := q.lowPriorityEventQueue ++ [e] }

end PublisherQueues

/-- What happens to the queues. -/
inductive PublisherAction where
  /-- An event is pushed, and the queue accepts it. -/
  | push (e : Event) (k : SourceQueue)
  /-- `EventPublisherTask_Execute`. -/
  | execute (o : ExecuteOutcome)

/-- The events that are pushed into a queue. -/
def PublisherAction.pushed (k : SourceQueue) : PublisherAction → List Event
  | .push e k' => if k' = k then [e] else []
  | .execute _ => []

/-- The events of a message, by the queues they are from. -/
structure Batch where
  main : MainQueue
  events : PublisherQueues

namespace EventPublisherTask

variable (parse : String → Option Json) (agentId : String)

/-- The messages the hub has accepted. -/
def messages (calls : List (MainQueue × SendReport)) : List Json :=
  calls.filterMap fun call => call.2.accepted

/-- A message with one member for each event: those of the operational queue, then those of the main
queue, then those of the other. -/
def batchMessage (b : Batch) : Json :=
  messageOf agentId ((b.events.order b.main).flatten.filterMap (eventValue parse))

/-! ## What passes through the queues -/

/-- From the queues `q` to the queues `q'`, with `pushed` going in and `accepted` coming out: messages
of these batches. Nothing is lost of a queue `k` if `C k`. -/
structure Delivers (C : SourceQueue → Prop) (q : PublisherQueues)
    (pushed : SourceQueue → List Event) (accepted : List Json) (q' : PublisherQueues)
    (batches : List Batch) : Prop where
  messages : accepted = batches.map (batchMessage parse agentId)
  parsed : ∀ b ∈ batches, ∀ k, ∀ e ∈ b.events.get k, (eventValue parse e).isSome = true
  passes : ∀ k, Passes (C k) (q.get k) (pushed k) (batches.flatMap fun b => b.events.get k)
    (q'.get k)

variable {parse agentId} {C C' : SourceQueue → Prop} {q q' q'' : PublisherQueues}
  {pushed pushed' : SourceQueue → List Event} {accepted accepted' : List Json}
  {batches batches' : List Batch}

namespace Delivers

theorem rest (q : PublisherQueues) :
    Delivers parse agentId (fun _ => True) q (fun _ => []) [] q [] :=
  ⟨rfl, fun _ hb => absurd hb List.not_mem_nil, fun k => .rest (q.get k)⟩

theorem trans (h : Delivers parse agentId C q pushed accepted q' batches)
    (h' : Delivers parse agentId C' q' pushed' accepted' q'' batches') :
    Delivers parse agentId (fun k => C k ∧ C' k) q (fun k => pushed k ++ pushed' k)
      (accepted ++ accepted') q'' (batches ++ batches') where
  messages := by rw [h.messages, h'.messages, List.map_append]
  parsed b hb := by
    rcases List.mem_append.mp hb with hb | hb
    · exact h.parsed b hb
    · exact h'.parsed b hb
  passes k := by
    rw [List.flatMap_append]
    exact (h.passes k).trans (h'.passes k)

theorem mono (h : Delivers parse agentId C q pushed accepted q' batches)
    (hC : ∀ k, C' k → C k) : Delivers parse agentId C' q pushed accepted q' batches :=
  ⟨h.messages, h.parsed, fun k => (h.passes k).mono (hC k)⟩

theorem push (q : PublisherQueues) (e : Event) (k : SourceQueue) :
    Delivers parse agentId (fun _ => True) q (fun k' => PublisherAction.pushed k' (.push e k)) []
      (q.push e k) [] := by
  refine ⟨rfl, fun _ hb => absurd hb List.not_mem_nil, fun k' => ?_⟩
  cases k <;> cases k' <;> first | exact .push _ [e] | exact .rest _

end Delivers

/-- Nothing fails while the events for a message are taken. -/
def SendOutcome.Undisturbed (o : SendOutcome) : Prop := ∀ j, o.message.visit j = .ok

/-- All of these sends report success. -/
def AllSucceed (calls : List (MainQueue × SendReport)) : Prop :=
  ∀ call ∈ calls, call.2.result = true

/-- Nothing fails while events are taken, in none of the sends of an execution. -/
def ExecuteOutcome.Undisturbed (o : ExecuteOutcome) : Prop :=
  SendOutcome.Undisturbed o.pressureSend ∧ SendOutcome.Undisturbed o.highSend
    ∧ SendOutcome.Undisturbed o.lowSend

/-- Nothing fails while events are taken. -/
def PublisherAction.Undisturbed : PublisherAction → Prop
  | .push _ _ => True
  | .execute o => ExecuteOutcome.Undisturbed o

end EventPublisherTask

end SecurityAgent
