import Mathlib.Algebra.Order.BigOperators.Group.List
import Mathlib.Algebra.Order.Group.Multiset
import Mathlib.Algebra.Order.Group.Nat
import Mathlib.Tactic.Abel
import SecurityAgent.Tasks.Execution
import SecurityAgent.Tasks.Sending

/-!
# Which events get sent in the end

A queue is emptied from its front only, and a send does nothing when its main queue is empty.
So an event waits behind one that is too large for any message, and operational events wait for
an event of some priority. These are the only reasons to wait: with enough sends and
nothing failing, either both priority queues run empty or the queues are stuck, with an event in
front of each that fits into no message (`everything_sent_or_stuck`).

The potential is the number of queued events: a send whose main queue is not empty takes
one at least, unless the queues are stuck, and then they are stuck for good.
-/

namespace SecurityAgent

open MessageSerializer

namespace PublisherQueues

/-- All queued events. -/
def all (q : PublisherQueues) : List Event :=
  q.operationalEventsQueue ++ q.highPriorityEventQueue ++ q.lowPriorityEventQueue

/-- Each queue with the events of another in front of it. -/
def prepend (taken q : PublisherQueues) : PublisherQueues :=
  ⟨taken.operationalEventsQueue ++ q.operationalEventsQueue,
    taken.highPriorityEventQueue ++ q.highPriorityEventQueue,
    taken.lowPriorityEventQueue ++ q.lowPriorityEventQueue⟩

theorem all_prepend (taken q : PublisherQueues) :
    (taken.prepend q).all.Perm (taken.all ++ q.all) := by
  refine Multiset.coe_eq_coe.mp ?_
  simp only [all, prepend, ← Multiset.coe_add]
  abel

theorem main_prepend (taken q : PublisherQueues) (main : MainQueue) :
    (taken.prepend q).main main = taken.main main ++ q.main main := by
  cases main <;> rfl

theorem flatten_order (q : PublisherQueues) (main : MainQueue) :
    (q.order main).flatten.Perm q.all := by
  cases main with
  | high => simp [order, all]
  | low =>
      simp only [order, all, List.flatten_cons, List.flatten_nil, List.append_nil,
        List.append_assoc]
      exact List.Perm.append_left _ List.perm_append_comm

/-- Nothing in front of any queue fits into a message. -/
def Stuck (maxMessageSize : UInt32) (q : PublisherQueues) : Prop :=
  ∀ queue ∈ q.order .high, NothingFits maxMessageSize 0 queue

theorem mem_order_iff (q : PublisherQueues) (main : MainQueue) (queue : List Event) :
    queue ∈ q.order main ↔ queue ∈ q.order .high := by
  cases main with
  | high => exact Iff.rfl
  | low =>
      simp only [order, List.mem_cons, List.not_mem_nil, or_false]
      rw [or_comm (a := queue = q.lowPriorityEventQueue)]

/-- Events that can be sent: their texts parse, their sizes are positive, and the sum of the sizes
is a 32-bit number. -/
structure Sendable (parse : String → Option Json) (q : PublisherQueues) : Prop where
  parses : ∀ e ∈ q.all, (eventValue parse e).isSome = true
  positive : ∀ e ∈ q.all, 0 < e.dataSize.toNat
  total : totalSize q.all < 2 ^ 32

end PublisherQueues

namespace EventPublisherTask

/-- Sends with nothing failing: the messages accepted, and the queues. -/
def sends (parse : String → Option Json) (agentId : String) (maxMessageSize : UInt32) :
    List MainQueue → PublisherQueues → List Json × PublisherQueues
  | [], q => ([], q)
  | main :: mains, q =>
      let (report, q') := sendEvents parse agentId (.ok maxMessageSize) main q
      let (messages, q'') := sends parse agentId maxMessageSize mains q'
      (report.accepted.toList ++ messages, q'')

variable {parse : String → Option Json} {agentId : String} {maxMessageSize : UInt32}

section OneSend

variable {q : PublisherQueues} {main : MainQueue}

theorem totalSize_perm {events events' : List Event} (h : events.Perm events') :
    totalSize events = totalSize events' :=
  (h.map _).sum_eq

/-- A send for a queue that has an event, all events being sendable. -/
theorem sendEvents_ok (hq : q.Sendable parse) (hmain : q.main main ≠ []) :
    ∃ s visits, visits.map Visit.queue = q.order main
      ∧ (∀ v ∈ visits, v.discarded = [])
      ∧ Collected parse maxMessageSize True ⟨[], 0⟩ s .ok .ok visits
      ∧ s.currentMessageSize.toNat = totalSize (Visit.allIncluded visits)
      ∧ sendEvents parse agentId (.ok maxMessageSize) main q
        = (if s.currentMessageSize = 0 then ⟨false, true, none⟩
            else ⟨true, true, some (messageOf agentId s.events)⟩,
          q.reorder main (visits.map Visit.rest)) := by
  obtain ⟨r, s, visits, hadd, hsplit, hc⟩ :=
    addQueues_collected parse maxMessageSize (fun _ => .ok) (q.order main) 0 .ok ⟨[], 0⟩
      fun hne => UInt32.pos_iff_ne_zero.mpr hne
  have hf : ∀ j : Nat, (fun _ => VisitOutcome.ok) j = VisitOutcome.ok := fun _ => rfl
  have hmem : ∀ v ∈ visits, ∀ e ∈ v.queue, e ∈ q.all := by
    intro v hv e he
    refine (q.flatten_order main).mem_iff.mp ?_
    rw [← hsplit]
    exact List.mem_flatten.mpr ⟨v.queue, List.mem_map_of_mem hv, he⟩
  have hnone : ∀ v ∈ visits, v.discarded = [] := by
    intro v hv
    refine List.eq_nil_iff_forall_not_mem.mpr fun e he => ?_
    have hsome := hq.parses e (hmem v hv e (by simp [Visit.queue, Visit.removed, he]))
    rw [hc.unparsable hf v hv e he] at hsome
    exact absurd hsome (by simp)
  have hr : r = .ok := by
    rw [hc.result hf, if_neg]
    rintro ⟨v, hv, hd⟩
    exact hd (hnone v hv)
  subst hr
  have hsum : totalSize (visits.map Visit.queue).flatten < 2 ^ 32 := by
    rw [hsplit, totalSize_perm (q.flatten_order main)]
    exact hq.total
  refine ⟨s, visits, hsplit, hnone, ?_, hc.size_exact hsum, ?_⟩
  · exact { hc with
      unparsable := fun _ => hc.unparsable hf
      result := fun _ => hc.result hf
      ends := fun _ => hc.ends hf }
  · unfold sendEvents
    obtain ⟨e, es, he⟩ := List.exists_cons_of_ne_nil hmain
    rw [show (SendOutcome.ok maxMessageSize).sizeLock = .ok from rfl, SyncQueue.getSize_ok, he]
    dsimp only [List.length_cons, SendOutcome.ok]
    rw [createSecurityMessage_ok agentId maxMessageSize _ hadd (Or.inl rfl)]
    by_cases hzero : s.currentMessageSize = 0
    · rw [if_pos hzero, if_pos hzero]
      rfl
    · rw [if_neg hzero, if_neg hzero]
      rfl

theorem totalSize_eq_zero_iff {events : List Event} (h : ∀ e ∈ events, 0 < e.dataSize.toNat) :
    totalSize events = 0 ↔ events = [] := by
  cases events with
  | nil => simp
  | cons e events =>
      have he := h e List.mem_cons_self
      rw [totalSize_cons]
      exact ⟨fun h0 => absurd h0 (by omega), fun h0 => absurd h0 (by simp)⟩

theorem size_le_totalSize {e : Event} {events : List Event} (h : e ∈ events) :
    e.dataSize.toNat ≤ totalSize events :=
  List.single_le_sum (fun _ _ => Nat.zero_le _) _ (List.mem_map_of_mem h)

/-- A message takes nothing exactly when the queues are stuck. -/
theorem allIncluded_eq_nil_iff {s : EventsArray} {visits : List Visit}
    (hsplit : visits.map Visit.queue = q.order main) (hnone : ∀ v ∈ visits, v.discarded = [])
    (hc : Collected parse maxMessageSize True ⟨[], 0⟩ s .ok .ok visits)
    (hsize : s.currentMessageSize.toNat = totalSize (Visit.allIncluded visits)) :
    Visit.allIncluded visits = [] ↔ q.Stuck maxMessageSize := by
  have hqueue : ∀ v ∈ visits, v.queue = v.included ++ v.rest := by
    intro v hv
    rw [Visit.queue, Visit.removed, hnone v hv, List.append_nil]
  constructor
  · intro hnil queue hmem
    rw [← q.mem_order_iff main, ← hsplit] at hmem
    obtain ⟨v, hv, rfl⟩ := List.mem_map.mp hmem
    obtain ⟨earlier, later, hvisits⟩ := List.append_of_mem hv
    have hends := hc.ends trivial earlier v later hvisits (hnone v hv)
    have hin : ∀ w ∈ visits, w.included = [] := List.flatMap_eq_nil_iff.mp hnil
    have hearlier : Visit.allIncluded (earlier ++ [v]) = [] := by
      refine List.flatMap_eq_nil_iff.mpr fun w hw => hin w ?_
      rw [hvisits, List.append_cons]
      exact List.mem_append_left _ hw
    rw [hearlier] at hends
    rw [hqueue v hv, hin v hv]
    exact hends
  · intro hstuck
    refine List.flatMap_eq_nil_iff.mpr fun v hv => ?_
    cases hin : v.included with
    | nil => rfl
    | cons x xs =>
        have hx : x ∈ Visit.allIncluded visits :=
          List.mem_flatMap.mpr ⟨v, hv, by rw [hin]; exact List.mem_cons_self⟩
        have hle := size_le_totalSize hx
        have hbound := hc.bound (hc.room (List.ne_nil_of_mem hx))
        have hfront : NothingFits maxMessageSize 0 v.queue :=
          hstuck _ ((q.mem_order_iff main _).mp (by rw [← hsplit]; exact List.mem_map_of_mem hv))
        refine absurd ?_ (hfront x (by rw [hqueue v hv, hin]; rfl))
        rw [UInt32.zero_add, UInt32.lt_iff_toNat_lt]
        rw [UInt32.lt_iff_toNat_lt, hsize] at hbound
        omega

/-- What a send takes, queue by queue. -/
structure SendStep (parse : String → Option Json) (agentId : String) (maxMessageSize : UInt32)
    (main : MainQueue) (q : PublisherQueues) (report : SendReport) (taken q' : PublisherQueues)
    (batch : List Json) : Prop where
  split : q = taken.prepend q'
  accepted : report.accepted = if taken.all = [] then none else some (messageOf agentId batch)
  batch : batch.Perm (taken.all.filterMap (eventValue parse))
  progress : q.main main ≠ [] → taken.all = [] → q.Stuck maxMessageSize
  stuck : q.Stuck maxMessageSize → taken.all = []

/-- What some visits put in a message, queue by queue. -/
theorem exists_taken {q : PublisherQueues} {visits : List Visit}
    (hsplit : visits.map (fun v => v.included ++ v.rest) = q.order main) :
    ∃ taken : PublisherQueues, q = taken.prepend (q.reorder main (visits.map Visit.rest))
      ∧ (Visit.allIncluded visits).Perm taken.all := by
  have hlen : visits.length = 3 := by
    rw [← q.length_order main, ← hsplit, List.length_map]
  obtain ⟨a, b, c, rfl⟩ := List.length_eq_three.mp hlen
  obtain ⟨operational, high, low⟩ := q
  cases main with
  | high =>
      obtain ⟨rfl, rfl, rfl⟩ : _ ∧ _ ∧ _ := by simpa [PublisherQueues.order] using hsplit
      refine ⟨⟨a.included, b.included, c.included⟩, rfl, ?_⟩
      simp [PublisherQueues.all]
  | low =>
      obtain ⟨rfl, rfl, rfl⟩ : _ ∧ _ ∧ _ := by simpa [PublisherQueues.order] using hsplit
      refine ⟨⟨a.included, c.included, b.included⟩, rfl, ?_⟩
      simp only [PublisherQueues.all, Visit.allIncluded_cons, Visit.allIncluded_nil,
        List.append_nil, List.append_assoc]
      exact List.Perm.append_left _ List.perm_append_comm

variable (agentId maxMessageSize) in
theorem send_step (hq : q.Sendable parse) (main : MainQueue) :
    ∃ report taken q' batch,
      sendEvents parse agentId (.ok maxMessageSize) main q = (report, q')
        ∧ SendStep parse agentId maxMessageSize main q report taken q' batch := by
  by_cases hmain : q.main main = []
  · refine ⟨_, ⟨[], [], []⟩, q, [], sendEvents_main_empty rfl main hmain, rfl, rfl, .refl _, ?_, ?_⟩
    · exact fun h => absurd hmain h
    · exact fun _ => rfl
  · obtain ⟨s, visits, hsplit, hnone, hc, hsize, hsend⟩ :=
      sendEvents_ok hq hmain
    have hstuck := allIncluded_eq_nil_iff hsplit hnone hc hsize
    have hqueues : visits.map (fun v => v.included ++ v.rest) = q.order main := by
      rw [← hsplit]
      refine List.map_congr_left fun v hv => ?_
      rw [Visit.queue, Visit.removed, hnone v hv, List.append_nil]
    obtain ⟨taken, hq', hperm⟩ := exists_taken hqueues
    have hnil : taken.all = [] ↔ Visit.allIncluded visits = [] := by
      rw [← List.length_eq_zero_iff, ← hperm.length_eq, List.length_eq_zero_iff]
    have hpositive : ∀ e ∈ Visit.allIncluded visits, 0 < e.dataSize.toNat := by
      intro e he
      refine hq.positive e ?_
      rw [hq', (PublisherQueues.all_prepend _ _).mem_iff]
      exact List.mem_append_left _ (hperm.mem_iff.mp he)
    have hzero : s.currentMessageSize = 0 ↔ taken.all = [] := by
      rw [hnil, ← totalSize_eq_zero_iff hpositive, ← hsize, ← UInt32.toNat_inj]
      rfl
    refine ⟨_, taken, _, s.events, hsend, hq', ?_, ?_, ?_, ?_⟩
    · by_cases h : s.currentMessageSize = 0
      · rw [if_pos h, if_pos (hzero.mp h)]
      · rw [if_neg h, if_neg fun h' => h (hzero.mpr h')]
    · rw [hc.events]
      exact hperm.filterMap _
    · exact fun _ h => hstuck.mp (hnil.mp h)
    · exact fun h => hnil.mpr (hstuck.mpr h)

end OneSend

/-! ## Many sends -/

theorem sendable_rest {taken q' : PublisherQueues}
    (hq : (taken.prepend q').Sendable parse) : q'.Sendable parse := by
  have hperm := PublisherQueues.all_prepend taken q'
  have hmem : ∀ e ∈ q'.all, e ∈ (taken.prepend q').all := fun e he =>
    hperm.mem_iff.mpr (List.mem_append_right _ he)
  have htotal := hq.total
  rw [totalSize_perm hperm, totalSize_append] at htotal
  exact ⟨fun e he => hq.parses e (hmem e he), fun e he => hq.positive e (hmem e he), by omega⟩

theorem length_all_prepend (taken q' : PublisherQueues) :
    (taken.prepend q').all.length = taken.all.length + q'.all.length := by
  rw [(PublisherQueues.all_prepend taken q').length_eq, List.length_append]

variable (agentId maxMessageSize) in
/-- What is sent is what was taken. -/
theorem sends_account (mains : List MainQueue) :
    ∀ q : PublisherQueues, q.Sendable parse →
      ∃ (taken q' : PublisherQueues) (batches : List (List Json)),
      sends parse agentId maxMessageSize mains q = (batches.map (messageOf agentId), q')
        ∧ q = taken.prepend q'
        ∧ batches.flatten.Perm (taken.all.filterMap (eventValue parse)) := by
  induction mains with
  | nil => exact fun q _ => ⟨⟨[], [], []⟩, q, [], rfl, rfl, .refl _⟩
  | cons main mains ih =>
      intro q hq
      obtain ⟨report, taken, q', batch, hsend, hstep⟩ :=
        send_step agentId maxMessageSize hq main
      obtain ⟨taken', q'', batches, hsends, hsplit, hbatches⟩ :=
        ih q' (sendable_rest (hstep.split ▸ hq))
      refine ⟨taken.prepend taken', q'',
        (if taken.all = [] then [] else [batch]) ++ batches, ?_, ?_, ?_⟩
      · unfold sends
        rw [hsend]
        dsimp only
        rw [hsends, hstep.accepted]
        by_cases hnil : taken.all = []
        · rw [if_pos hnil, if_pos hnil]
          rfl
        · rw [if_neg hnil, if_neg hnil]
          rfl
      · rw [hstep.split, hsplit]
        simp [PublisherQueues.prepend]
      · have hfirst : (if taken.all = [] then [] else [batch]).flatten.Perm
            (taken.all.filterMap (eventValue parse)) := by
          by_cases hnil : taken.all = []
          · rw [if_pos hnil, hnil]
            exact .refl _
          · rw [if_neg hnil]
            simpa using hstep.batch
        rw [List.flatten_append]
        refine (hfirst.append hbatches).trans ?_
        rw [← List.filterMap_append]
        exact ((PublisherQueues.all_prepend taken taken').filterMap _).symm

/-- Queues that are stuck stay as they are. -/
theorem sends_stuck (mains : List MainQueue) {q : PublisherQueues} (hq : q.Sendable parse)
    (hstuck : q.Stuck maxMessageSize) :
    (sends parse agentId maxMessageSize mains q).2 = q := by
  induction mains with
  | nil => rfl
  | cons main mains ih =>
      obtain ⟨report, taken, q', batch, hsend, hstep⟩ :=
        send_step agentId maxMessageSize hq main
      have hsame : q' = q := by
        have hnil := hstep.stuck hstuck
        obtain ⟨⟨h₁, h₂⟩, h₃⟩ : (taken.operationalEventsQueue = []
            ∧ taken.highPriorityEventQueue = []) ∧ taken.lowPriorityEventQueue = [] := by
          simpa [PublisherQueues.all, and_assoc] using hnil
        rw [hstep.split, PublisherQueues.prepend, h₁, h₂, h₃]
        rfl
      unfold sends
      rw [hsend, hsame]
      exact ih

/-- **The potential.** Each send for a queue that is not empty in the end has taken an event, if the
queues are not stuck in the end. -/
theorem sends_progress (main : MainQueue) (mains : List MainQueue) :
    ∀ q : PublisherQueues, q.Sendable parse →
      (sends parse agentId maxMessageSize mains q).2.main main ≠ [] →
      ¬ (sends parse agentId maxMessageSize mains q).2.Stuck maxMessageSize →
      mains.count main + (sends parse agentId maxMessageSize mains q).2.all.length
        ≤ q.all.length := by
  induction mains with
  | nil =>
      intro q _ _ _
      show 0 + q.all.length ≤ q.all.length
      omega
  | cons m mains ih =>
      intro q hq hmain hstuck
      have hnever : ¬ q.Stuck maxMessageSize := fun h =>
        hstuck (by rw [sends_stuck (m :: mains) hq h]; exact h)
      obtain ⟨report, taken, q', batch, hsend, hstep⟩ :=
        send_step agentId maxMessageSize hq m
      have hq' := sendable_rest (hstep.split ▸ hq)
      have hrun : (sends parse agentId maxMessageSize (m :: mains) q).2
          = (sends parse agentId maxMessageSize mains q').2 := by
        rw [sends, hsend]
      rw [hrun] at hmain hstuck ⊢
      have hrest := ih q' hq' hmain hstuck
      have hlen : q.all.length = taken.all.length + q'.all.length := by
        rw [hstep.split, length_all_prepend]
      by_cases hm : m = main
      · subst hm
        rw [List.count_cons_self]
        -- the queue was not empty before this send, so it took something
        have hnonempty : q.main m ≠ [] := by
          obtain ⟨taken', q'', batches, hsends, hsplit, -⟩ :=
            sends_account agentId maxMessageSize mains q' hq'
          rw [hsends] at hmain
          rw [hstep.split, hsplit, PublisherQueues.main_prepend, PublisherQueues.main_prepend]
          simp [hmain]
        have htaken : taken.all ≠ [] := fun h => hnever (hstep.progress hnonempty h)
        have hpos := List.length_pos_iff.mpr htaken
        omega
      · rw [List.count_cons_of_ne hm]
        omega

/-- **Everything is sent or stuck.** After as many sends for either priority queue as there are
events, all that has been taken is in an accepted message, once; and the priority queues are empty,
or no queue has an event in front that fits into a message. -/
theorem everything_sent_or_stuck (parse : String → Option Json) (agentId : String)
    (maxMessageSize : UInt32) (q : PublisherQueues) (hq : q.Sendable parse)
    (mains : List MainQueue) (hmains : ∀ main, q.all.length ≤ mains.count main) :
    ∃ (taken q' : PublisherQueues) (batches : List (List Json)),
      sends parse agentId maxMessageSize mains q = (batches.map (messageOf agentId), q')
        ∧ q = taken.prepend q'
        ∧ batches.flatten.Perm (taken.all.filterMap (eventValue parse))
        ∧ (q'.highPriorityEventQueue = [] ∧ q'.lowPriorityEventQueue = []
          ∨ q'.Stuck maxMessageSize) := by
  obtain ⟨taken, q', batches, hsends, hsplit, hbatches⟩ :=
    sends_account agentId maxMessageSize mains q hq
  refine ⟨taken, q', batches, hsends, hsplit, hbatches, ?_⟩
  by_cases hstuck : q'.Stuck maxMessageSize
  · exact Or.inr hstuck
  -- a queue with an event left would have lost one in each send for it
  have hempty : ∀ main, q'.main main = [] := by
    intro main
    by_contra hmain
    have hprogress := sends_progress main
      mains q hq (by rw [hsends]; exact hmain) (by rw [hsends]; exact hstuck)
    rw [hsends] at hprogress
    have hleft : 0 < q'.all.length := by
      obtain ⟨e, he⟩ := List.exists_mem_of_ne_nil _ hmain
      refine List.length_pos_of_mem (a := e) ?_
      refine (q'.flatten_order main).mem_iff.mp (List.mem_flatten.mpr ⟨_, ?_, he⟩)
      exact q'.main_mem_order main
    have hcount := hmains main
    dsimp only at hprogress
    omega
  exact Or.inl ⟨hempty .high, hempty .low⟩

/-- An event that fits behind one that does not. -/
def blockedQueues : PublisherQueues :=
  ⟨[], [⟨"\x7b\"Message\":\"abcdef\"\x7d", 20⟩, ⟨"\x7b\x7d", 2⟩], []⟩

theorem sendable_blockedQueues : blockedQueues.Sendable fun _ => some (.object []) :=
  ⟨by decide, by decide, by decide⟩

theorem everything_sent_or_stuck_blocked :
    ∃ (taken q' : PublisherQueues) (batches : List (List Json)),
      sends (fun _ => some (.object [])) "agent" 10 [.high, .low, .high, .low] blockedQueues
          = (batches.map (messageOf "agent"), q')
        ∧ blockedQueues = taken.prepend q'
        ∧ batches.flatten.Perm (taken.all.filterMap (eventValue fun _ => some (.object [])))
        ∧ (q'.highPriorityEventQueue = [] ∧ q'.lowPriorityEventQueue = [] ∨ q'.Stuck 10) :=
  everything_sent_or_stuck _ "agent" 10 blockedQueues sendable_blockedQueues _
    (fun main => by cases main <;> decide)

/-- The event that fits is not sent. -/
theorem event_stuck_behind_larger :
    ¬ ∀ (parse : String → Option Json) (agentId : String) (maxMessageSize : UInt32)
      (q : PublisherQueues) (mains : List MainQueue), q.Sendable parse →
        (∀ main, q.all.length ≤ mains.count main) →
        ∀ e ∈ q.all, e.dataSize < maxMessageSize →
          ∃ message ∈ (sends parse agentId maxMessageSize mains q).1, ∃ events value,
            message = messageOf agentId events ∧ eventValue parse e = some value
              ∧ value ∈ events := by
  intro h
  obtain ⟨message, hmem, -⟩ := h (fun _ => some (.object [])) "agent" 10 blockedQueues
    [.high, .low, .high, .low] sendable_blockedQueues (fun main => by cases main <;> decide)
    ⟨"\x7b\x7d", 2⟩ (by decide) (by decide)
  have hnone : (sends (fun _ => some (.object [])) "agent" 10 [.high, .low, .high, .low]
      blockedQueues).1 = [] := by rfl
  rw [hnone] at hmem
  exact absurd hmem (by simp)

end EventPublisherTask

end SecurityAgent
