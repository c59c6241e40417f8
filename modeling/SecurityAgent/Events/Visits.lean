import Mathlib.Algebra.BigOperators.Group.List.Basic
import Mathlib.Algebra.GroupWithZero.Nat
import SecurityAgent.Events.MessageSerializer

/-!
# What a message takes from the queues

One visit splits a queue in three: the events that went into the message, the event
that was taken out and thrown away (there is at most one, the visit ends with it), and
the untouched rest. That holds whatever fails. When nothing fails but the
parsing of a text, what is thrown away is a text that does not parse, and a visit
ends for one of three reasons.
-/

namespace SecurityAgent

/-- The member of the message an event becomes, if its text parses. -/
def eventValue (parse : String → Option Json) (event : Event) : Option Json :=
  (JsonObjectWriter.initFromString true (parse event.data)).map JsonObjectWriter.rootValue

/-- The exact size of some events. -/
def totalSize (events : List Event) : Nat := (events.map (·.dataSize.toNat)).sum

@[simp] theorem totalSize_nil : totalSize [] = 0 := rfl

@[simp] theorem totalSize_cons (e : Event) (events : List Event) :
    totalSize (e :: events) = e.dataSize.toNat + totalSize events := by
  simp [totalSize]

@[simp] theorem totalSize_append (events events' : List Event) :
    totalSize (events ++ events') = totalSize events + totalSize events' := by
  simp [totalSize]

/-- How a visit splits a queue. -/
structure Visit where
  included : List Event
  discarded : List Event
  rest : List Event

namespace Visit

def removed (v : Visit) : List Event := v.included ++ v.discarded

def queue (v : Visit) : List Event := v.removed ++ v.rest

/-- A visit that takes nothing. -/
def untouched (queue : List Event) : Visit := ⟨[], [], queue⟩

/-- All that some visits put in the message. -/
def allIncluded (visits : List Visit) : List Event := visits.flatMap included

@[simp] theorem queue_untouched (queue : List Event) : (untouched queue).queue = queue := rfl

@[simp] theorem allIncluded_nil : allIncluded [] = [] := rfl

@[simp] theorem allIncluded_cons (v : Visit) (visits : List Visit) :
    allIncluded (v :: visits) = v.included ++ allIncluded visits := rfl

end Visit

namespace MessageSerializer

variable {parse : String → Option Json} {maxMessageSize : UInt32}

/-- A queue with nothing in front that fits once `size` bytes are taken. -/
def NothingFits (maxMessageSize size : UInt32) (rest : List Event) : Prop :=
  ∀ x ∈ rest.head?, ¬ size + x.dataSize < maxMessageSize

/-- What holds of a visit that starts at `s` and ends at `s'`. `faultless` says that nothing fails
but the parsing of a text. -/
structure Visited (parse : String → Option Json) (maxMessageSize : UInt32) (faultless : Prop)
    (s s' : EventsArray) (r : MessageSerializerResult) (v : Visit) : Prop where
  parsed : ∀ e ∈ v.included, (eventValue parse e).isSome = true
  discarded : v.discarded.length ≤ 1
  unparsable : faultless → ∀ e ∈ v.discarded, eventValue parse e = none
  events : s'.events = s.events ++ v.included.filterMap (eventValue parse)
  size : s'.currentMessageSize = s.currentMessageSize + UInt32.ofNat (totalSize v.included)
  bound : s'.currentMessageSize < maxMessageSize
  result : faultless → (r = .ok ↔ v.discarded = [])
  ends : faultless → v.discarded = [] → NothingFits maxMessageSize s'.currentMessageSize v.rest

/-! ## One event -/

/-- An event stays in its queue, or goes into the message, or is thrown away. -/
theorem addSingleEvent_cases {o : EventOutcome} {s s' : EventsArray} {queue rest : List Event}
    {r : MessageSerializerResult}
    (h : addSingleEvent parse maxMessageSize o s queue = (r, s', rest)) :
    (rest = queue ∧ s' = s
        ∧ (r = .exception ∧ o ≠ .ok
          ∨ (r = .empty ∨ r = .memoryExceeded)
            ∧ NothingFits maxMessageSize s.currentMessageSize queue))
      ∨ ∃ x, queue = x :: rest ∧ s.currentMessageSize + x.dataSize < maxMessageSize
        ∧ (r = .ok ∧ (∃ value, eventValue parse x = some value
              ∧ s' = ⟨s.events ++ [value], s.currentMessageSize + x.dataSize⟩)
          ∨ r = .exception ∧ s' = s ∧ (eventValue parse x = none ∨ o ≠ .ok)) := by
  unfold addSingleEvent at h
  have hpop : ∀ {o' : LockOutcome}, o.popLock = o' → o' ≠ .ok → o ≠ .ok :=
    fun he hne hok => hne (by rw [← he, hok]; rfl)
  cases hp : SyncQueue.popFrontIf o.popLock
      (sizeLimitationCondition ⟨s.currentMessageSize, maxMessageSize⟩) queue with
  | mk result popped =>
      obtain ⟨item, queue'⟩ := popped
      rw [hp] at h
      rcases SyncQueue.popFrontIf_cases hp with ⟨rfl, rfl, hr⟩ | ⟨x, hx, rfl, hfits, hr⟩
      · -- nothing was popped
        refine Or.inl ?_
        rcases hr with ⟨rfl, hlock⟩ | ⟨rfl, rfl⟩ | ⟨rfl, x, xs, rfl, hfits⟩
        · obtain ⟨rfl, rfl, rfl⟩ := h
          exact ⟨rfl, rfl, Or.inl ⟨rfl, hpop rfl hlock⟩⟩
        · obtain ⟨rfl, rfl, rfl⟩ := h
          exact ⟨rfl, rfl, Or.inr ⟨Or.inl rfl, fun x hx => absurd hx (by simp)⟩⟩
        · obtain ⟨rfl, rfl, rfl⟩ := h
          refine ⟨rfl, rfl, Or.inr ⟨Or.inr rfl, fun y hy => ?_⟩⟩
          rw [List.head?_cons, Option.mem_some_iff] at hy
          exact hy ▸ of_decide_eq_false hfits
      · refine Or.inr ⟨x, ?_⟩
        rcases hr with rfl | ⟨rfl, hlock⟩
        · dsimp only at h
          cases hw : JsonObjectWriter.initFromString o.eventWriter (parse x.data) with
          | none =>
              rw [hw] at h
              obtain ⟨rfl, rfl, rfl⟩ := h
              refine ⟨hx, of_decide_eq_true hfits, Or.inr ⟨rfl, rfl, ?_⟩⟩
              cases hm : o.eventWriter with
              | false => exact Or.inr fun hok => by rw [hok] at hm; exact absurd hm (by decide)
              | true => rw [hm] at hw; exact Or.inl (by rw [eventValue, hw]; rfl)
          | some writer =>
              have hm : o.eventWriter = true := by
                by_contra hne
                rw [JsonObjectWriter.initFromString, if_neg hne] at hw
                exact absurd hw (by simp)
              rw [hm] at hw
              have hvalue : eventValue parse x = some writer.rootValue := by
                rw [eventValue, hw]; rfl
              cases ha : o.addObject with
              | false =>
                  rw [hm, hw, ha] at h
                  obtain ⟨rfl, rfl, rfl⟩ := h
                  refine ⟨hx, of_decide_eq_true hfits, Or.inr ⟨rfl, rfl, Or.inr fun hok => ?_⟩⟩
                  rw [hok] at ha
                  exact absurd ha (by decide)
              | true =>
                  rw [hm, hw, ha] at h
                  obtain ⟨rfl, rfl, rfl⟩ := h
                  exact ⟨hx, of_decide_eq_true hfits, Or.inl ⟨rfl, _, hvalue, rfl⟩⟩
        · obtain ⟨rfl, rfl, rfl⟩ := h
          exact ⟨hx, of_decide_eq_true hfits, Or.inr ⟨rfl, rfl, Or.inr (hpop rfl hlock)⟩⟩

/-! ## One queue -/

/-- A visit ends where it is. -/
theorem Visited.stop {faultless : Prop} {s : EventsArray} {queue : List Event}
    {r : MessageSerializerResult} (hs : s.currentMessageSize < maxMessageSize)
    (hr : faultless → r = .ok)
    (hends : faultless → NothingFits maxMessageSize s.currentMessageSize queue) :
    Visited parse maxMessageSize faultless s s r (.untouched queue) where
  parsed := fun e he => absurd he (by simp [Visit.untouched])
  discarded := Nat.zero_le _
  unparsable := fun _ e he => absurd he (by simp [Visit.untouched])
  events := (List.append_nil _).symm
  size := (UInt32.add_zero _).symm
  bound := hs
  result := fun hf => ⟨fun _ => rfl, fun _ => hr hf⟩
  ends := fun hf _ => hends hf

/-- A visit ends with an event that is thrown away. -/
theorem Visited.discard {faultless : Prop} {s : EventsArray} {x : Event} {rest : List Event}
    (hs : s.currentMessageSize < maxMessageSize) (hx : faultless → eventValue parse x = none) :
    Visited parse maxMessageSize faultless s s .exception ⟨[], [x], rest⟩ where
  parsed := fun e he => absurd he (by simp)
  discarded := Nat.le_refl _
  unparsable := fun hf e he => List.mem_singleton.mp he ▸ hx hf
  events := (List.append_nil _).symm
  size := (UInt32.add_zero _).symm
  bound := hs
  result := fun _ => ⟨fun h => absurd h (by simp), fun h => absurd h (by simp)⟩
  ends := fun _ h => absurd h (by simp)

/-- One more event in front of a visit. -/
theorem Visited.include {faultless : Prop} {s s' : EventsArray} {x : Event} {value : Json}
    {r : MessageSerializerResult} {v : Visit} (hx : eventValue parse x = some value)
    (hv : Visited parse maxMessageSize faultless
      ⟨s.events ++ [value], s.currentMessageSize + x.dataSize⟩ s' r v) :
    Visited parse maxMessageSize faultless s s' r ⟨x :: v.included, v.discarded, v.rest⟩ where
  parsed := by
    intro e he
    rcases List.mem_cons.mp he with rfl | he
    · rw [hx]; rfl
    · exact hv.parsed e he
  discarded := hv.discarded
  unparsable := hv.unparsable
  events := by
    rw [hv.events, List.filterMap_cons, hx, List.append_assoc]
    rfl
  size := by
    rw [hv.size, totalSize_cons, UInt32.ofNat_add, UInt32.ofNat_toNat, UInt32.add_assoc]
  bound := hv.bound
  result := hv.result
  ends := hv.ends

theorem addEvents_visited {o : Nat → EventOutcome} :
    ∀ (n i : Nat) (s : EventsArray) (queue : List Event), queue.length = n →
      s.currentMessageSize < maxMessageSize →
      ∃ r s' v, addEvents parse maxMessageSize o n i s queue = (r, s', v.rest)
        ∧ v.queue = queue ∧ Visited parse maxMessageSize (∀ j, o j = .ok) s s' r v := by
  intro n
  induction n with
  | zero =>
      intro i s queue hlen hs
      have hq := List.length_eq_zero_iff.mp hlen
      refine ⟨_, _, .untouched queue, rfl, rfl, .stop hs (fun _ => rfl) fun _ x hx => ?_⟩
      rw [hq] at hx
      exact absurd hx (by simp)
  | succ n ih =>
      intro i s queue hlen hs
      unfold addEvents
      rw [if_pos hs]
      cases hadd : addSingleEvent parse maxMessageSize (o i) s queue with
      | mk r added =>
          obtain ⟨s₁, rest⟩ := added
          rcases addSingleEvent_cases hadd with
            ⟨rfl, rfl, ⟨rfl, hfault⟩ | ⟨rfl | rfl, hends⟩⟩ | ⟨x, rfl, hfits, hcase⟩
          · exact ⟨_, _, .untouched _, rfl, rfl,
              .stop hs (fun hf => absurd (hf i) hfault) fun hf => absurd (hf i) hfault⟩
          · exact ⟨_, _, .untouched _, rfl, rfl, .stop hs (fun _ => rfl) fun _ => hends⟩
          · exact ⟨_, _, .untouched _, rfl, rfl, .stop hs (fun _ => rfl) fun _ => hends⟩
          · rcases hcase with ⟨rfl, value, hvalue, rfl⟩ | ⟨rfl, rfl, hwhy⟩
            · dsimp only
              cases hsize : SyncQueue.getSize (o i).sizeLock rest with
              | none =>
                  -- the event is in the message, and the size of the queue is not to be had
                  have hfault : ¬ ∀ j, o j = .ok := fun hf => by
                    rw [hf i] at hsize
                    exact absurd hsize (by simp [EventOutcome.ok])
                  exact ⟨_, _, ⟨[x], [], rest⟩, rfl, rfl, .include hvalue
                    (.stop hfits (fun hf => absurd hf hfault) fun hf => absurd hf hfault)⟩
              | some size =>
                  obtain ⟨r, s', v, hv, hq, hvisited⟩ :=
                    ih (i + 1) ⟨s.events ++ [value], s.currentMessageSize + x.dataSize⟩ rest
                      (Nat.succ.inj hlen) hfits
                  exact ⟨r, s', ⟨x :: v.included, v.discarded, v.rest⟩, hv,
                    congrArg (x :: ·) hq, .include hvalue hvisited⟩
            · refine ⟨_, _, ⟨[], [x], rest⟩, rfl, rfl, .discard hs fun hf => ?_⟩
              rcases hwhy with hnone | hfault
              · exact hnone
              · exact absurd (hf i) hfault

theorem addEventsFromQueue_visited (o : VisitOutcome) (s : EventsArray) (queue : List Event)
    (hs : s.currentMessageSize < maxMessageSize) :
    ∃ r s' v, addEventsFromQueue parse maxMessageSize o s queue = (r, s', v.rest)
      ∧ v.queue = queue ∧ Visited parse maxMessageSize (o = .ok) s s' r v := by
  unfold addEventsFromQueue
  cases hsize : SyncQueue.getSize o.sizeLock queue with
  | none =>
      have hfault : ¬ o = .ok := fun hf => by
        rw [hf] at hsize
        exact absurd hsize (by simp [VisitOutcome.ok])
      exact ⟨_, _, .untouched queue, rfl, rfl,
        .stop hs (fun hf => absurd hf hfault) fun hf => absurd hf hfault⟩
  | some size =>
      obtain ⟨r, s', v, hv, hq, hvisited⟩ :=
        addEvents_visited (o := o.event) size 0 s queue (SyncQueue.getSize_eq_some hsize).symm hs
      refine ⟨r, s', v, hv, hq, ?_⟩
      have hevents : o = .ok → ∀ j, o.event j = .ok := fun hf j => by rw [hf]; rfl
      exact { hvisited with
        unparsable := fun hf => hvisited.unparsable (hevents hf)
        result := fun hf => hvisited.result (hevents hf)
        ends := fun hf => hvisited.ends (hevents hf) }

/-! ## All queues -/

/-- What holds of the visits of some queues that start at `s` and end at `s'`. -/
structure Collected (parse : String → Option Json) (maxMessageSize : UInt32) (faultless : Prop)
    (s s' : EventsArray) (before r : MessageSerializerResult) (visits : List Visit) : Prop where
  parsed : ∀ e ∈ Visit.allIncluded visits, (eventValue parse e).isSome = true
  discarded : ∀ v ∈ visits, v.discarded.length ≤ 1
  unparsable : faultless → ∀ v ∈ visits, ∀ e ∈ v.discarded, eventValue parse e = none
  events : s'.events = s.events ++ (Visit.allIncluded visits).filterMap (eventValue parse)
  size : s'.currentMessageSize
    = s.currentMessageSize + UInt32.ofNat (totalSize (Visit.allIncluded visits))
  bound : maxMessageSize ≠ 0 → s'.currentMessageSize < maxMessageSize
  room : Visit.allIncluded visits ≠ [] → maxMessageSize ≠ 0
  result : faultless →
    r = if ∃ v ∈ visits, v.discarded ≠ [] then .partialMessage else before
  ends : faultless → ∀ earlier v later, visits = earlier ++ v :: later → v.discarded = [] →
    NothingFits maxMessageSize
      (s.currentMessageSize + UInt32.ofNat (totalSize (Visit.allIncluded (earlier ++ [v])))) v.rest

theorem Collected.nil {faultless : Prop} {s : EventsArray} {r : MessageSerializerResult}
    (hs : maxMessageSize ≠ 0 → s.currentMessageSize < maxMessageSize) :
    Collected parse maxMessageSize faultless s s r r [] where
  parsed := fun e he => absurd he (by simp)
  discarded := fun v hv => absurd hv (by simp)
  unparsable := fun _ v hv => absurd hv (by simp)
  events := (List.append_nil _).symm
  size := (UInt32.add_zero _).symm
  bound := hs
  room := fun h => absurd rfl h
  result := fun _ => (if_neg (by simp)).symm
  ends := fun _ earlier v later h => absurd h (by simp)

/-- The visit of one queue, and then of the others. -/
theorem Collected.cons {faultless : Prop} {s s₁ s' : EventsArray}
    {before r₁ r : MessageSerializerResult} {v : Visit} {visits : List Visit}
    (hv : Visited parse maxMessageSize faultless s s₁ r₁ v)
    (h : Collected parse maxMessageSize faultless s₁ s'
      (if r₁ = .ok then before else .partialMessage) r visits) :
    Collected parse maxMessageSize faultless s s' before r (v :: visits) where
  parsed := by
    intro e he
    rcases List.mem_append.mp he with he | he
    · exact hv.parsed e he
    · exact h.parsed e he
  discarded := by
    intro w hw
    rcases List.mem_cons.mp hw with rfl | hw
    · exact hv.discarded
    · exact h.discarded w hw
  unparsable := by
    intro hf w hw
    rcases List.mem_cons.mp hw with rfl | hw
    · exact hv.unparsable hf
    · exact h.unparsable hf w hw
  events := by
    rw [h.events, hv.events, Visit.allIncluded_cons, List.filterMap_append, List.append_assoc]
  size := by
    rw [h.size, hv.size, Visit.allIncluded_cons, totalSize_append, UInt32.ofNat_add,
      UInt32.add_assoc]
  bound := h.bound
  room := fun _ hmax => UInt32.not_lt_zero (hmax ▸ hv.bound)
  result := by
    intro hf
    have hthis := hv.result hf
    rw [h.result hf]
    by_cases hd : v.discarded = []
    · rw [if_pos (hthis.mpr hd)]
      refine if_congr ?_ rfl rfl
      simp [hd]
    · rw [if_neg (fun hr => hd (hthis.mp hr)), ite_self, if_pos ⟨v, List.mem_cons_self, hd⟩]
  ends := by
    intro hf earlier w later hsplit hd
    cases earlier with
    | nil =>
        obtain ⟨rfl, rfl⟩ := List.cons.inj hsplit
        have hends := hv.ends hf hd
        rw [hv.size] at hends
        rwa [List.nil_append, Visit.allIncluded_cons, Visit.allIncluded_nil, List.append_nil]
    | cons u earlier =>
        obtain ⟨rfl, hrest⟩ := List.cons.inj hsplit
        have hends := h.ends hf earlier w later hrest hd
        rwa [hv.size, UInt32.add_assoc, ← UInt32.ofNat_add, ← totalSize_append,
          ← Visit.allIncluded_cons] at hends

/-- A queue that is not visited because nothing at all fits. -/
theorem Collected.skip {faultless : Prop} {s s' : EventsArray}
    {before r : MessageSerializerResult} {queue : List Event} {visits : List Visit}
    (hmax : maxMessageSize = 0)
    (h : Collected parse maxMessageSize faultless s s' before r visits) :
    Collected parse maxMessageSize faultless s s' before r (.untouched queue :: visits) where
  parsed := h.parsed
  discarded := by
    intro w hw
    rcases List.mem_cons.mp hw with rfl | hw
    · exact Nat.zero_le _
    · exact h.discarded w hw
  unparsable := by
    intro hf w hw
    rcases List.mem_cons.mp hw with rfl | hw
    · exact fun e he => absurd he (by simp [Visit.untouched])
    · exact h.unparsable hf w hw
  events := h.events
  size := h.size
  bound := h.bound
  room := h.room
  result := by
    intro hf
    rw [h.result hf]
    refine if_congr ?_ rfl rfl
    simp [Visit.untouched]
  ends := fun _ _ _ _ _ _ x _ => hmax ▸ UInt32.not_lt_zero

variable (parse maxMessageSize) in
theorem addQueues_collected (o : Nat → VisitOutcome) :
    ∀ (queues : List (List Event)) (i : Nat) (before : MessageSerializerResult) (s : EventsArray),
      (maxMessageSize ≠ 0 → s.currentMessageSize < maxMessageSize) →
      ∃ r s' visits,
        addQueues parse maxMessageSize o i before s queues = (r, s', visits.map Visit.rest)
        ∧ visits.map Visit.queue = queues
        ∧ Collected parse maxMessageSize (∀ j, o j = .ok) s s' before r visits := by
  intro queues
  induction queues with
  | nil => exact fun i before s hs => ⟨_, _, [], rfl, rfl, .nil hs⟩
  | cons queue queues ih =>
      intro i before s hs
      unfold addQueues
      by_cases hroom : s.currentMessageSize < maxMessageSize
      · rw [if_pos hroom]
        obtain ⟨r₁, s₁, v, hv, hq, hvisited⟩ :=
          addEventsFromQueue_visited (o i) s queue hroom
        obtain ⟨r, s', visits, hvisits, hqs, hcollected⟩ :=
          ih (i + 1) (if r₁ = .ok then before else .partialMessage) s₁ fun _ => hvisited.bound
        have hvisited' : Visited parse maxMessageSize (∀ j, o j = .ok) s s₁ r₁ v :=
          { hvisited with
            unparsable := fun hf => hvisited.unparsable (hf i)
            result := fun hf => hvisited.result (hf i)
            ends := fun hf => hvisited.ends (hf i) }
        refine ⟨r, s', v :: visits, ?_, ?_, .cons hvisited' hcollected⟩
        · rw [hv]
          dsimp only
          rw [hvisits]
          rfl
        · rw [List.map_cons, hq, hqs]
      · rw [if_neg hroom]
        have hmax : maxMessageSize = 0 := Classical.byContradiction fun hne => hroom (hs hne)
        obtain ⟨r, s', visits, hvisits, hqs, hcollected⟩ := ih (i + 1) before s hs
        refine ⟨r, s', .untouched queue :: visits, ?_, ?_, .skip hmax hcollected⟩
        · rw [hvisits]
          rfl
        · rw [List.map_cons, hqs]
          rfl

end MessageSerializer

end SecurityAgent
