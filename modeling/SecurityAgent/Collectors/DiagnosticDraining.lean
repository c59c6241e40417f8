import SecurityAgent.Collectors.DiagnosticEventCollector

/-!
# Taking the diagnostics out while others log

The queue that the collector empties is the one that the logger fills, and what is called on the way
logs too. The number of rounds is the size that the queue had before the first one. So it does not
matter how much is added: it is behind what was there, and stays for the next time.

An event is taken out before an event is made of it, and freed afterwards, whatever has become of
that. So the pass that fails loses the event it has failed at, and no other.
-/

namespace SecurityAgent

namespace DiagnosticEventCollector

/-! ## The others -/

/-- What happens to the diagnostics between two steps of the collector: the other queues change the
monitor, and events are logged. -/
structure Meanwhile where
  monitor : MemoryMonitor → MemoryMonitor
  added : List (QueueItem DiagnosticEvent)
  counter : QueueCounter → QueueCounter

namespace Meanwhile

def apply (m : Meanwhile) (s : Diagnostics) : Diagnostics :=
  { s with
    monitor := m.monitor s.monitor
    queue := ⟨s.queue.items ++ m.added, m.counter s.queue.counter⟩ }

/-- Nothing happens. -/
def nothing : Meanwhile := ⟨id, [], id⟩

/-- One thing happens after the other. -/
def andThen (m m' : Meanwhile) : Meanwhile :=
  ⟨m'.monitor ∘ m.monitor, m.added ++ m'.added, m'.counter ∘ m.counter⟩

theorem apply_nothing (s : Diagnostics) : nothing.apply s = s := by
  unfold apply nothing
  rw [List.append_nil]
  rfl

theorem apply_andThen (m m' : Meanwhile) (s : Diagnostics) :
    (m.andThen m').apply s = m'.apply (m.apply s) := by
  unfold apply andThen
  rw [← List.append_assoc]
  rfl

end Meanwhile

/-- So many calls of `Logger_LogEvent`. -/
def logAll : List (LogOutcome × Severity × String) → Diagnostics → Option Diagnostics
  | [], s => some s
  | (o, severity, text) :: calls, s => (logEvent o severity text s).bind (logAll calls)

theorem exists_meanwhile {s : Diagnostics} {queue : MeteredQueue DiagnosticEvent}
    {added : List (QueueItem DiagnosticEvent)} (h : queue.items = s.queue.items ++ added)
    (monitor : MemoryMonitor) :
    ∃ m : Meanwhile, { s with monitor := monitor, queue := queue } = m.apply s := by
  refine ⟨⟨fun _ => monitor, added, fun _ => queue.counter⟩, ?_⟩
  unfold Meanwhile.apply
  rw [← h]

theorem addEvent_meanwhile {o : LogOutcome} {message : String} {severity : Severity}
    {s : Diagnostics} {r : EventCollectorResult × Diagnostics}
    (h : addEvent o message severity s = some r) : ∃ m : Meanwhile, r.2 = m.apply s := by
  unfold addEvent at h
  obtain ⟨init, -, rfl⟩ := Option.map_eq_some_iff.mp h
  cases init with
  | none => exact ⟨.nothing, (Meanwhile.apply_nothing s).symm⟩
  | some event =>
      -- the event has gone in, or it has not
      rcases SyncQueue.pushBack_cases o.lock (.real o.consumeLock o.releaseLock o.limit) o.push
        s.monitor s.queue event (eventSize message) with ⟨hitems, -⟩ | ⟨hitems, -⟩
      · exact exists_meanwhile hitems _
      · exact exists_meanwhile (hitems.trans (List.append_nil _).symm) _

theorem logEvent_meanwhile {o : LogOutcome} {severity : Severity} {text : String}
    {s s' : Diagnostics} (h : logEvent o severity text s = some s') :
    ∃ m : Meanwhile, s' = m.apply s := by
  unfold logEvent at h
  split at h
  · obtain ⟨r, hadd, rfl⟩ := Option.map_eq_some_iff.mp h
    exact addEvent_meanwhile hadd
  · cases h
    exact ⟨.nothing, (Meanwhile.apply_nothing s).symm⟩

/-- **Whatever is logged** is one of the things that can happen meanwhile. -/
theorem logAll_meanwhile {calls : List (LogOutcome × Severity × String)} :
    ∀ {s s' : Diagnostics}, logAll calls s = some s' → ∃ m : Meanwhile, s' = m.apply s := by
  induction calls with
  | nil =>
      intro s s' h
      cases h
      exact ⟨.nothing, (Meanwhile.apply_nothing s).symm⟩
  | cons call calls ih =>
      intro s s' h
      obtain ⟨s₁, hcall, hcalls⟩ := Option.bind_eq_some_iff.mp h
      obtain ⟨m, rfl⟩ := logEvent_meanwhile hcall
      obtain ⟨m', rfl⟩ := ih hcalls
      exact ⟨m.andThen m', (Meanwhile.apply_andThen m m' s).symm⟩

/-! ## The collector among the others -/

/-- What happens in one round: before the pop, and while an event is made of what is popped. -/
structure Round where
  before : Meanwhile
  during : Meanwhile

/-- What a pass over the queue has done. -/
structure Drained where
  result : EventCollectorResult
  /-- What it has taken out. -/
  popped : List (QueueItem DiagnosticEvent)
  /-- What it has pushed. -/
  pushed : List Json
  state : Diagnostics

/-- A round before it. -/
def Drained.after (item : QueueItem DiagnosticEvent) (event : Json) (d : Drained) : Drained :=
  { d with popped := item :: d.popped, pushed := event :: d.pushed }

/-- The loop of `DiagnosticEventCollector_GetEvents`, with `counter` rounds to go. -/
def drain (o : CollectOutcome) (others : Nat → Round) : Nat → Diagnostics → Drained
  | 0, s => ⟨.ok, [], [], s⟩
  | counter + 1, s =>
      let s := (others counter).before.apply s
      if (o.pop counter).lock = false then ⟨.exception, [], [], s⟩
      else
        let (_, item, monitor, items) :=
          Fifo.popFront (.real .ok (o.release counter) none) s.monitor s.queue.items
        let s := { s with monitor := monitor, queue := { s.queue with items := items } }
        if (o.pop counter).unlock = false then ⟨.exception, item.toList, [], s⟩
        else
          match item with
          | none => ⟨.ok, [], [], s⟩
          | some item =>
              let s := (others counter).during.apply s
              match getSingleEvent (o.single counter) item.data with
              | none => ⟨.exception, [item], [], s⟩
              | some event => (drain o others counter s).after item event

/-- `int counter = eventQueueSize`, and how often `counter > 0` is true then. -/
def rounds (eventQueueSize : Nat) : Nat := (UInt32.ofNat eventQueueSize).toInt32.toInt.toNat

/-- `DiagnosticEventCollector_GetEvents`. -/
def drainEvents (o : CollectOutcome) (others : Nat → Round) (s : Diagnostics) : Drained :=
  match SyncQueue.getSize o.size s.queue.items with
  | none => ⟨.exception, [], [], s⟩
  | some eventQueueSize => drain o others (rounds eventQueueSize) s

/-- The number of rounds is the size in 32 bits, if that is not negative. -/
theorem rounds_mod (n : Nat) : rounds n = if n % 2 ^ 32 < 2 ^ 31 then n % 2 ^ 32 else 0 := by
  have hint : (UInt32.ofNat n).toInt32.toInt = if 2 * (UInt32.ofNat n).toNat < 2 ^ 32
      then ((UInt32.ofNat n).toNat : Int) else ((UInt32.ofNat n).toNat : Int) - (2 ^ 32 : Nat) :=
    BitVec.toInt_eq_toNat_cond _
  have hmod : (UInt32.ofNat n).toNat = n % 2 ^ 32 := UInt32.toNat_ofNat' ..
  have hlt := Nat.mod_lt n (show 0 < 2 ^ 32 by omega)
  unfold rounds
  rw [hmod] at hint
  split at hint
  · rw [if_pos (by omega)]
    omega
  · rw [if_neg (by omega)]
    omega

theorem rounds_eq {n : Nat} (h : n < 2 ^ 31) : rounds n = n := by
  rw [rounds_mod, if_pos (by omega)]
  omega

/-! ## When nothing happens meanwhile -/

theorem collect_eq_drain (o : CollectOutcome) : ∀ (counter : Nat) (s : Diagnostics),
    collect o counter s
      = ((drain o (fun _ => ⟨.nothing, .nothing⟩) counter s).result,
        (drain o (fun _ => ⟨.nothing, .nothing⟩) counter s).pushed,
        (drain o (fun _ => ⟨.nothing, .nothing⟩) counter s).state) := by
  intro counter
  induction counter with
  | zero => intro s; rfl
  | succ counter ih =>
      intro s
      unfold collect drain
      dsimp only
      rw [Meanwhile.apply_nothing]
      by_cases hlock : (o.pop counter).lock = false
      · rw [if_pos hlock, if_pos hlock]
      rw [if_neg hlock, if_neg hlock]
      by_cases hunlock : (o.pop counter).unlock = false
      · rw [if_pos hunlock, if_pos hunlock]
      rw [if_neg hunlock, if_neg hunlock]
      cases (Fifo.popFront (.real .ok (o.release counter) none) s.monitor s.queue.items).2.1 with
      | none => rfl
      | some item =>
          dsimp only
          rw [Meanwhile.apply_nothing]
          cases getSingleEvent (o.single counter) item.data with
          | none => rfl
          | some event =>
              dsimp only
              rw [ih]
              rfl

/-- **Without the others it is the collector of the rest of the agent.** -/
theorem getEvents_eq_drainEvents (o : CollectOutcome) {s : Diagnostics}
    (h : s.queue.items.length < 2 ^ 31) :
    getEvents o s
      = ((drainEvents o (fun _ => ⟨.nothing, .nothing⟩) s).result,
        (drainEvents o (fun _ => ⟨.nothing, .nothing⟩) s).pushed,
        (drainEvents o (fun _ => ⟨.nothing, .nothing⟩) s).state) := by
  unfold getEvents drainEvents
  cases hsize : SyncQueue.getSize o.size s.queue.items with
  | none => rfl
  | some n =>
      obtain rfl := SyncQueue.getSize_eq_some hsize
      dsimp only
      rw [rounds_eq h, collect_eq_drain]

/-! ## What is pushed for an event -/

/-- What an event carries of what was logged. -/
def payloadOf (event : DiagnosticEvent) : Json :=
  .object [(DIAGNOSTIC_MESSAGE_KEY, .string event.message),
    (DIAGNOSTIC_SEVERITY_KEY, .string (convertToString event.severity)),
    (DIAGNOSTIC_PROCESSID_KEY, .number event.processId.toInt),
    (DIAGNOSTIC_THREAD_KEY, .number event.threadId.toInt32.toInt),
    (DIAGNOSTIC_CORRELATION_KEY, .string event.correlationId)]

/-- The event that is made of one: it says that it is diagnostic, and has the one payload. -/
def OutputOf (item : QueueItem DiagnosticEvent) (json : Json) : Prop :=
  ∃ members, json = .object members
    ∧ members.lookup GenericEvent.EVENT_NAME_KEY = some (.string DIAGNOSTIC_NAME)
    ∧ members.lookup GenericEvent.PAYLOAD_KEY = some (.array [payloadOf item.data])

theorem getSingleEvent_outputOf {o : SingleEventOutcome} {item : QueueItem DiagnosticEvent}
    {json : Json} (h : getSingleEvent o item.data = some json) : OutputOf item json := by
  unfold getSingleEvent at h
  split at h
  · cases h
  split at h
  · cases h
  next rootObject hmetadata =>
  split at h
  · cases h
  split at h
  · cases h
  next diagnosticEventsArray hpayload =>
  split at h
  · cases h
  next written hwritten =>
  split at h
  swap
  · cases h
  obtain rfl := Option.some.inj h
  have harray : diagnosticEventsArray = [payloadOf item.data] := by
    unfold addPayload at hpayload
    split at hpayload
    · exact (Option.some.inj hpayload).symm
    · cases hpayload
  unfold GenericEvent.addPayload at hwritten
  split at hwritten
  swap
  · cases hwritten
  obtain rfl := Option.some.inj hwritten
  unfold GenericEvent.addMetadataWithTimes at hmetadata
  split at hmetadata
  swap
  · cases hmetadata
  split at hmetadata
  swap
  · cases hmetadata
  obtain rfl := Option.some.inj hmetadata
  refine ⟨_, rfl, ?_, ?_⟩
  · simp [JsonObjectWriter.writeArray, JsonObjectWriter.writeBool, JsonObjectWriter.writeString,
      JsonObjectWriter.lookup_setValue, GenericEvent.EVENT_NAME_KEY,
      GenericEvent.PAYLOAD_KEY, GenericEvent.EVENT_IS_EMPTY_KEY,
      GenericEvent.EVENT_UTC_TIMESTAMP_KEY, GenericEvent.EVENT_LOCAL_TIMESTAMP_KEY,
      GenericEvent.EVENT_ID_KEY, GenericEvent.EVENT_PAYLOAD_SCHEMA_VERSION_KEY]
  · unfold JsonObjectWriter.writeArray
    rw [JsonObjectWriter.lookup_setValue, if_pos rfl, harray]

/-! ## One pass -/

/-- **What a pass leaves and what it makes of the rest**: it has taken a beginning of what was there
and of what was added, in that order. All that it has taken has been pushed, in the same order,
except for the last event if the pass fails. -/
structure Drains (s : Diagnostics) (d : Drained) : Prop where
  order : ∃ added, s.queue.items ++ added = d.popped ++ d.state.queue.items
  pushed : ∃ kept lost, d.popped = kept ++ lost ∧ List.Forall₂ OutputOf kept d.pushed
    ∧ lost.length ≤ 1 ∧ (d.result = .ok → lost = [])

/-- A pass that takes nothing out. -/
theorem Drains.of_nothing {s state : Diagnostics} {added : List (QueueItem DiagnosticEvent)}
    (h : s.queue.items ++ added = state.queue.items) (result : EventCollectorResult) :
    Drains s ⟨result, [], [], state⟩ :=
  ⟨⟨added, h⟩, ⟨[], [], rfl, List.Forall₂.nil, Nat.zero_le 1, fun _ => rfl⟩⟩

/-- A pass that fails at the first event. -/
theorem Drains.of_lost {s state : Diagnostics} {item : QueueItem DiagnosticEvent}
    {added : List (QueueItem DiagnosticEvent)}
    (h : s.queue.items ++ added = item :: state.queue.items) :
    Drains s ⟨.exception, [item], [], state⟩ :=
  ⟨⟨added, h⟩, ⟨[], [item], rfl, List.Forall₂.nil, Nat.le_refl 1,
    fun hok => EventCollectorResult.noConfusion hok⟩⟩

/-- A pass after its first round. -/
theorem Drains.after {s s₁ : Diagnostics} {item : QueueItem DiagnosticEvent}
    {added : List (QueueItem DiagnosticEvent)} {event : Json} {d : Drained}
    (h : s.queue.items ++ added = item :: s₁.queue.items) (hevent : OutputOf item event)
    (hd : Drains s₁ d) : Drains s (d.after item event) := by
  obtain ⟨⟨added', horder⟩, ⟨kept, lost, hpopped, hpushed, hlost, hok⟩⟩ := hd
  refine ⟨⟨added ++ added', ?_⟩, ⟨item :: kept, lost, ?_, hpushed.cons hevent, hlost, hok⟩⟩
  · rw [← List.append_assoc, h, List.cons_append, horder]
    rfl
  · show item :: d.popped = _
    rw [hpopped]
    rfl

/-- **The loop**, by what one round does. -/
theorem drain_drains (o : CollectOutcome) (others : Nat → Round) :
    ∀ (counter : Nat) (s : Diagnostics), Drains s (drain o others counter s)
      ∧ (drain o others counter s).popped.length ≤ counter := by
  intro counter
  induction counter with
  | zero =>
      intro s
      exact ⟨Drains.of_nothing (List.append_nil _) .ok, Nat.le_refl 0⟩
  | succ counter ih =>
      intro s
      unfold drain
      dsimp only
      by_cases hlock : (o.pop counter).lock = false
      · rw [if_pos hlock]
        exact ⟨Drains.of_nothing rfl .exception, Nat.zero_le _⟩
      rw [if_neg hlock]
      cases hitems : ((others counter).before.apply s).queue.items with
      | nil =>
          have horder : s.queue.items ++ (others counter).before.added = [] := hitems
          by_cases hunlock : (o.pop counter).unlock = false
          · rw [if_pos hunlock]
            exact ⟨Drains.of_nothing horder .exception, Nat.zero_le _⟩
          · rw [if_neg hunlock]
            exact ⟨Drains.of_nothing horder .ok, Nat.zero_le _⟩
      | cons item rest =>
          -- what was there and what has been added since, without the oldest
          have horder : s.queue.items ++ (others counter).before.added = item :: rest := hitems
          by_cases hunlock : (o.pop counter).unlock = false
          · rw [if_pos hunlock]
            exact ⟨Drains.of_lost horder, Nat.succ_le_succ (Nat.zero_le counter)⟩
          rw [if_neg hunlock]
          unfold Fifo.popFront
          dsimp only
          have hadded : s.queue.items ++ ((others counter).before.added
              ++ (others counter).during.added) = item :: (rest ++ (others counter).during.added) := by
            rw [← List.append_assoc, horder, List.cons_append]
          cases hevent : getSingleEvent (o.single counter) item.data with
          | none => exact ⟨Drains.of_lost hadded, Nat.succ_le_succ (Nat.zero_le counter)⟩
          | some event =>
              obtain ⟨hdrains, hlen⟩ := ih ((others counter).during.apply
                { (others counter).before.apply s with
                  monitor := ((MonitorCalls.real .ok (o.release counter) none).release
                    ((others counter).before.apply s).monitor
                    (queueCalculateItemSize item.dataSize)).2
                  queue := { ((others counter).before.apply s).queue with items := rest } })
              exact ⟨hdrains.after hadded (getSingleEvent_outputOf hevent), Nat.succ_le_succ hlen⟩

/-- The loop that does not fail has as many rounds as it was to have. -/
theorem drain_ok {o : CollectOutcome} {others : Nat → Round} :
    ∀ {counter : Nat} {s : Diagnostics}, counter ≤ s.queue.items.length →
      (drain o others counter s).result = .ok →
      (drain o others counter s).popped.length = counter := by
  intro counter
  induction counter with
  | zero => intro s _ _; rfl
  | succ counter ih =>
      intro s hlen hok
      unfold drain at hok ⊢
      dsimp only at hok ⊢
      by_cases hlock : (o.pop counter).lock = false
      · rw [if_pos hlock] at hok
        cases hok
      rw [if_neg hlock] at hok ⊢
      by_cases hunlock : (o.pop counter).unlock = false
      · rw [if_pos hunlock] at hok
        cases hok
      rw [if_neg hunlock] at hok ⊢
      cases hitems : ((others counter).before.apply s).queue.items with
      | nil =>
          -- there are as many as there are rounds left, whatever has been added
          have hnone : s.queue.items = [] := (List.append_eq_nil_iff.mp hitems).1
          rw [hnone] at hlen
          exact absurd hlen (Nat.not_succ_le_zero counter)
      | cons item rest =>
          rw [hitems] at hok
          unfold Fifo.popFront at hok ⊢
          dsimp only at hok ⊢
          cases hevent : getSingleEvent (o.single counter) item.data with
          | none =>
              rw [hevent] at hok
              cases hok
          | some event =>
              rw [hevent] at hok
              have hmore : s.queue.items.length ≤ rest.length + 1 := by
                rw [← List.length_cons, ← hitems]
                show _ ≤ (s.queue.items ++ (others counter).before.added).length
                rw [List.length_append]
                omega
              refine congrArg (· + 1) (ih ?_ hok)
              show counter ≤ (rest ++ (others counter).during.added).length
              rw [List.length_append]
              omega

/-- **A pass that succeeds has taken out all that was there**, and nothing of what was added. -/
theorem drainEvents_ok {o : CollectOutcome} {others : Nat → Round} {s : Diagnostics}
    (hlen : s.queue.items.length < 2 ^ 31) (hok : (drainEvents o others s).result = .ok) :
    (drainEvents o others s).popped = s.queue.items
      ∧ List.Forall₂ OutputOf s.queue.items (drainEvents o others s).pushed := by
  unfold drainEvents at hok ⊢
  cases hsize : SyncQueue.getSize o.size s.queue.items with
  | none =>
      rw [hsize] at hok
      cases hok
  | some n =>
      obtain rfl := SyncQueue.getSize_eq_some hsize
      rw [hsize] at hok
      dsimp only at hok ⊢
      rw [rounds_eq hlen] at hok ⊢
      have hcount := drain_ok (Nat.le_refl _) hok
      obtain ⟨⟨⟨added, horder⟩, ⟨kept, lost, hpopped, hpushed, -, hlost⟩⟩, -⟩ :=
        drain_drains o others s.queue.items.length s
      have hall := (List.append_inj horder hcount.symm).1
      rw [hlost hok, List.append_nil] at hpopped
      rw [← hall.trans hpopped] at hpushed
      exact ⟨hall.symm, hpushed⟩

/-- The event is made, but the queue of its priority does not take it. -/
def refused : CollectOutcome where
  size := .ok
  pop := fun _ => .ok
  release := fun _ => .ok
  single := fun _ =>
    { rootObject := true, clock := ⟨fun _ => some "", fun _ => some ""⟩, metadata := ⟨0, some "", true⟩,
      array := true, item := true, payload := true, serialize := true, push := false }

end DiagnosticEventCollector

end SecurityAgent
