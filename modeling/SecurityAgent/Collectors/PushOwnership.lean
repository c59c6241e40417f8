import SecurityAgent.Collectors.EventAggregator
import SecurityAgent.Storage.MeteredQueue

/-!
# Who frees a pushed buffer

Every producer serializes its event into a buffer and pushes that. A buffer in the
queue is the queue's; one that is not is still the producer's, which has only the
result of the push to tell by. Two results mislead it: a failed unlock reads as a
push that has not happened, and the aggregator takes a refusal for a success.

What a producer does after the push is its own function of the result, from its
`SyncQueue_PushBack` to the end of its cleanup.
-/

namespace SecurityAgent

open LinkedHeap Machine

variable {μ : Type}

/-! ## What the producers do with the result -/

/-- `EventAggregator_CreateSingleAggregatedEvent`: a refusal for want of cache is logged and
counts as a success. -/
def EventAggregator.createSingleAggregatedEventResult : SyncQueueResult → EventAggregatorResult
  | .queue .maxMemoryExceeded => .ok
  | .queue .ok => .ok
  | _ => .exception

namespace EventCollector

/-- `ProcessCreationCollector_CreateSingleEvent`, `ConnectionCreateEventCollector_CreateSingleEvent`
and the user login collector's, which tell a refusal from other failures. -/
def createSingleEventResult : SyncQueueResult → EventCollectorResult
  | .queue .maxMemoryExceeded => .outOfMem
  | .queue .ok => .ok
  | _ => .exception

/-- The periodic collectors' `GetEvents`, and the `PushEvent` of the agent's own collectors, which
do not. -/
def pushEventResult : SyncQueueResult → EventCollectorResult
  | .queue .ok => .ok
  | _ => .exception

end EventCollector

/-- The producers of serialized buffers. -/
inductive EventProducer where
  | eventAggregator
  | agentTelemetryCollector
  | agentConfigurationErrorCollector
  | diagnosticEventCollector
  | connectionCreateCollector
  | processCreationCollector
  | userLoginCollector
  | baselineCollector
  | firewallCollector
  | listeningPortsCollector
  | localUsersCollector
  | systemInformationCollector
  deriving DecidableEq, Repr

/-- Whether the producer frees its buffer after the push: when its own result is not `OK`. -/
def EventProducer.frees : EventProducer → SyncQueueResult → Bool
  | .eventAggregator => fun r => EventAggregator.createSingleAggregatedEventResult r != .ok
  | .connectionCreateCollector | .processCreationCollector | .userLoginCollector =>
      fun r => EventCollector.createSingleEventResult r != .ok
  | .agentTelemetryCollector | .agentConfigurationErrorCollector | .diagnosticEventCollector
  | .baselineCollector | .firewallCollector | .listeningPortsCollector | .localUsersCollector
  | .systemInformationCollector => fun r => EventCollector.pushEventResult r != .ok

namespace EventProducer

/-- What the environment answers to one push. -/
structure PushAnswer (μ : Type) where
  lock : LockOutcome
  mon : MonitorCalls μ
  push : PushOutcome
  /-- The length of the buffer. -/
  dataSize : UInt32

/-- A queue, and the buffers that have been made for it. -/
structure Buffers (μ : Type) where
  monitor : μ
  queue : MeteredQueue Addr
  /-- The next buffer: those below it have been allocated. -/
  nextBuffer : Addr
  /-- How often a buffer has been freed by its producer. -/
  frees : Addr → Nat

/-- No buffer, and an empty queue. -/
def init (m : μ) : Buffers μ := ⟨m, .init, 0, fun _ => 0⟩

/-- A producer has serialized its event: it pushes the buffer and cleans up. -/
def produce (s : Buffers μ) (producer : EventProducer) (o : PushAnswer μ) :
    SyncQueueResult × Buffers μ :=
  let output := s.nextBuffer
  let (result, m', q') := SyncQueue.pushBack o.lock o.mon o.push s.monitor s.queue output o.dataSize
  (result, ⟨m', q', output + 1,
    if producer.frees result then Function.update s.frees output (s.frees output + 1)
    else s.frees⟩)

/-- The machine of all producers. -/
def step (s : Buffers μ) (i : EventProducer × PushAnswer μ) :
    Option (SyncQueueResult × Buffers μ) :=
  total (fun s i => produce s i.1 i.2) s i

/-- Whether the queue has a pointer to the buffer. -/
def Buffers.Queued (s : Buffers μ) (buffer : Addr) : Prop :=
  buffer ∈ s.queue.items.map QueueItem.data

instance (s : Buffers μ) (buffer : Addr) : Decidable (s.Queued buffer) :=
  inferInstanceAs (Decidable (_ ∈ _))

/-- In the queue and not freed, or out of it and freed once. -/
def Buffers.OneFate (s : Buffers μ) (buffer : Addr) : Prop :=
  (s.Queued buffer ∧ s.frees buffer = 0) ∨ (¬ s.Queued buffer ∧ s.frees buffer = 1)

instance (s : Buffers μ) (buffer : Addr) : Decidable (s.OneFate buffer) :=
  inferInstanceAs (Decidable (_ ∨ _))

/-- Every buffer that was made has had one fate. -/
def Buffers.AllOneFate (s : Buffers μ) : Prop := ∀ buffer < s.nextBuffer, s.OneFate buffer

/-- The result the producer sees says what has become of its push, and it listens. -/
def ResultTells (s : Buffers μ) (i : EventProducer × PushAnswer μ) : Prop :=
  i.2.lock.lock = true →
    match (i.2.mon.consume s.monitor (queueCalculateItemSize i.2.dataSize)).1 with
    | .ok => i.2.push.malloc = true → i.2.lock.unlock = true
    | .memoryExceeded | .invalidReleaseSize => i.1 = .eventAggregator → i.2.lock.unlock = false
    | .exception => True

/-! ## One push -/

theorem not_frees_ok (producer : EventProducer) : producer.frees (.queue .ok) = false := by
  cases producer <;> rfl

/-- Of all results but `QUEUE_OK`, only the aggregator's refusal leaves the buffer alone. -/
theorem frees_iff (producer : EventProducer) {r : SyncQueueResult} (h : r ≠ .queue .ok) :
    producer.frees r = true
      ↔ ¬ (producer = .eventAggregator ∧ r = .queue .maxMemoryExceeded) := by
  cases r with
  | lockException => cases producer <;> simp [frees, EventCollector.createSingleEventResult,
      EventCollector.pushEventResult, EventAggregator.createSingleAggregatedEventResult]
  | queue r =>
      cases r with
      | ok => exact absurd rfl h
      | conditionFailed | maxMemoryExceeded | isEmpty | memoryException =>
          cases producer <;> simp [frees, EventCollector.createSingleEventResult,
            EventCollector.pushEventResult, EventAggregator.createSingleAggregatedEventResult]

/-- Nothing that is not allocated is queued or has been freed. -/
structure Sound (s : Buffers μ) : Prop where
  oneFate : s.AllOneFate
  queued : ∀ buffer, s.Queued buffer → buffer < s.nextBuffer
  unfreed : ∀ buffer, s.nextBuffer ≤ buffer → s.frees buffer = 0

theorem Sound.fresh {s : Buffers μ} (h : Sound s) : ¬ s.Queued s.nextBuffer :=
  fun hq => Nat.lt_irrefl _ (h.queued _ hq)

theorem produce_frees_new {s : Buffers μ} (h : Sound s) (producer : EventProducer)
    (o : PushAnswer μ) :
    (produce s producer o).2.frees s.nextBuffer
      = (producer.frees (produce s producer o).1).toNat := by
  have h0 := h.unfreed _ (Nat.le_refl _)
  show (if producer.frees (produce s producer o).1 then _ else _ : Addr → Nat) s.nextBuffer = _
  cases producer.frees (produce s producer o).1 with
  | false => exact h0
  | true => simp [h0]

theorem produce_frees_old (s : Buffers μ) (producer : EventProducer) (o : PushAnswer μ)
    {buffer : Addr} (hb : buffer ≠ s.nextBuffer) :
    (produce s producer o).2.frees buffer = s.frees buffer := by
  show (if producer.frees (produce s producer o).1 then _ else _ : Addr → Nat) buffer = _
  cases producer.frees (produce s producer o).1 with
  | false => rfl
  | true => exact Function.update_of_ne hb _ _

/-- **The new buffer has one fate exactly when the result tells.** -/
theorem produce_oneFate {s : Buffers μ} (h : Sound s) (producer : EventProducer)
    (o : PushAnswer μ) :
    (produce s producer o).2.OneFate s.nextBuffer ↔ ResultTells s (producer, o) := by
  have hfree := produce_frees_new h producer o
  have hfresh : s.nextBuffer ∉ s.queue.items.map QueueItem.data := h.fresh
  unfold Buffers.OneFate Buffers.Queued ResultTells
  rw [hfree]
  have hcases := SyncQueue.pushBack_cases o.lock o.mon o.push s.monitor s.queue s.nextBuffer
    o.dataSize
  change ((produce s producer o).2.queue.items = _ ∧ _ ∧ _ ∧ _ ∧ (produce s producer o).1 = _)
    ∨ ((produce s producer o).2.queue.items = _ ∧ (produce s producer o).1 ≠ _ ∧ _
      ∧ ((produce s producer o).1 = _ ↔ _)) at hcases
  rcases hcases with ⟨hitems, hlock, hc, hm, hresult⟩ | ⟨hitems, hne, hnot, hexceeded⟩
  · -- it is in the queue: the producer must be told so
    rw [hitems, hresult]
    cases hu : o.lock.unlock with
    | false =>
        have hf := (frees_iff producer (r := .lockException) (by simp)).mpr (by simp)
        simp [hlock, hc, hm, hf]
    | true => simp [hlock, hc, hm, not_frees_ok]
  · -- it is not: the producer must free it
    have hf := frees_iff producer hne
    rw [hexceeded] at hf
    rw [hitems]
    have hone : (producer.frees (produce s producer o).1).toNat = 1
        ↔ producer.frees (produce s producer o).1 = true := by
      cases producer.frees (produce s producer o).1 <;> simp
    simp only [hfresh, false_and, not_false_eq_true, true_and, false_or, hone, hf]
    obtain ⟨⟨lock, unlock⟩, mon, push, dataSize⟩ := o
    cases lock with
    | false => simp [LockOutcome.ok]
    | true =>
        dsimp only at hnot ⊢
        cases hc : (mon.consume s.monitor (queueCalculateItemSize dataSize)).1 with
        | ok =>
            have hm : push.malloc ≠ true := fun hm => hnot ⟨rfl, hc, hm⟩
            simp [hm]
        | exception => simp
        | memoryExceeded | invalidReleaseSize => cases unlock <;> simp [LockOutcome.ok]

/-- The older buffers are left alone. -/
theorem produce_frame {s : Buffers μ} (producer : EventProducer) (o : PushAnswer μ) {buffer : Addr}
    (hb : buffer ≠ s.nextBuffer) :
    ((produce s producer o).2.OneFate buffer ↔ s.OneFate buffer)
      ∧ ((produce s producer o).2.Queued buffer ↔ s.Queued buffer) := by
  have hfree := produce_frees_old s producer o hb
  have hq : (produce s producer o).2.Queued buffer ↔ s.Queued buffer := by
    unfold Buffers.Queued
    show buffer ∈ (SyncQueue.pushBack o.lock o.mon o.push s.monitor s.queue s.nextBuffer
      o.dataSize).2.2.items.map QueueItem.data ↔ _
    rcases SyncQueue.pushBack_cases o.lock o.mon o.push s.monitor s.queue s.nextBuffer o.dataSize
      with ⟨hitems, -⟩ | ⟨hitems, -⟩
    · rw [hitems]; simp [hb]
    · rw [hitems]
  exact ⟨by unfold Buffers.OneFate; rw [hfree, hq], hq⟩

/-! ## Every push -/

/-- A push that tells keeps every buffer's one fate. -/
theorem Sound.produce {s : Buffers μ} (h : Sound s) {producer : EventProducer} {o : PushAnswer μ}
    (htells : ResultTells s (producer, o)) : Sound (EventProducer.produce s producer o).2 where
  oneFate := by
    intro buffer hb
    by_cases hnew : buffer = s.nextBuffer
    · exact hnew ▸ (produce_oneFate h producer o).mpr htells
    · exact (produce_frame producer o hnew).1.mpr
        (h.oneFate buffer (Nat.lt_of_le_of_ne (Nat.le_of_lt_succ hb) hnew))
  queued := by
    intro buffer hq
    by_cases hnew : buffer = s.nextBuffer
    · exact hnew ▸ Nat.lt_succ_self _
    · exact Nat.lt_succ_of_lt (h.queued buffer ((produce_frame producer o hnew).2.mp hq))
  unfreed := by
    intro buffer hb
    have hlt : s.nextBuffer < buffer := hb
    rw [produce_frees_old s producer o (Nat.ne_of_gt hlt)]
    exact h.unfreed buffer (Nat.le_of_lt hlt)

theorem init_sound (m : μ) : Sound (init m) where
  oneFate := fun buffer hb => absurd hb (Nat.not_lt_zero buffer)
  queued := fun _ hq => absurd hq List.not_mem_nil
  unfreed := fun _ _ => rfl

/--
**Every buffer has one fate exactly while the results tell**: in the queue and not freed, or
out of it and freed once, whichever producers push and whatever becomes of their pushes.
-/
theorem one_fate_iff (m : μ) (pushes : List (EventProducer × PushAnswer μ)) :
    Throughout step Buffers.AllOneFate (init m) pushes ↔ Along step ResultTells (init m) pushes := by
  refine throughout_iff_along_of_invariant (I := Sound) (fun _ h => h.oneFate) ?_ ?_ (init_sound m)
  · intro s i o s' h htells hs
    obtain ⟨-, rfl⟩ := Prod.mk.inj (Option.some.inj hs)
    exact h.produce htells
  · intro s i h htells
    refine ⟨_, _, rfl, fun hall => htells ?_⟩
    exact (produce_oneFate h i.1 i.2).mp (hall s.nextBuffer (Nat.lt_succ_self _))

/-- A push of 200 bytes that would succeed but for the lock and the monitor's answer. -/
def answer (lock : LockOutcome) (consumed : MemoryMonitorResult) : PushAnswer Unit :=
  ⟨lock, ⟨fun _ _ => (consumed, ()), fun _ _ => (.ok, ())⟩, ⟨true, true, true⟩, 200⟩

/-- **The aggregator leaks what is refused, and what a failed unlock hides is freed while it is in
the queue.** -/
theorem refused_leaks_hidden_dangles :
    ¬ Throughout step Buffers.AllOneFate (init ())
        [(.eventAggregator, answer .ok .memoryExceeded)]
      ∧ ¬ Throughout step Buffers.AllOneFate (init ())
        [(.agentTelemetryCollector, answer ⟨true, false⟩ .ok)] := by
  constructor
  · intro h
    exact absurd (h.2 _ _ rfl 0 (by decide)) (by decide)
  · intro h
    exact absurd (h.2 _ _ rfl 0 (by decide)) (by decide)

end EventProducer

end SecurityAgent
