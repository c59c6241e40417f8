import SecurityAgent.Lib.Run
import SecurityAgent.Storage.Queue

/-!
# The queue is a first-in first-out list

The abstract queue is a list of items: a push that is granted appends, a pop
takes the head, a conditional pop takes it if the condition says so. It says
nothing of blocks, links or counts.

`Holds` is the invariant that ties `queue.c` to it: the queue's blocks are laid
out as one doubly linked segment carrying exactly the list, both end pointers
point at its ends, no other block is allocated, and the element count is the
length *modulo 2^32*. Each operation keeps it, so by `Machine.run_simulates`
every run of the C queue is a run of the list, as long as the count has not
wrapped: the C tests emptiness on the count and not on the pointers.
-/

namespace SecurityAgent

open LinkedHeap Machine

variable {α μ : Type}

/-! ## The abstract queue -/

namespace Fifo

/-- Append if the monitor grants the bytes and the block can be allocated. -/
def pushBack (mon : MonitorCalls μ) (o : PushOutcome) (m : μ) (items : List (QueueItem α))
    (data : α) (dataSize : UInt32) : QueueResult × μ × List (QueueItem α) :=
  match mon.consume m (queueCalculateItemSize dataSize) with
  | (.ok, m') =>
      if o.malloc then (.ok, m', items ++ [⟨data, dataSize⟩])
      else (.memoryException, (mon.release m' (queueCalculateItemSize dataSize)).2, items)
  | (.memoryExceeded, m') => (.maxMemoryExceeded, m', items)
  | (.exception, m') => (.memoryException, m', items)
  | (.invalidReleaseSize, m') => (.maxMemoryExceeded, m', items)

/-- Take the oldest item. -/
def popFront (mon : MonitorCalls μ) (m : μ) :
    List (QueueItem α) → QueueResult × Option (QueueItem α) × μ × List (QueueItem α)
  | [] => (.isEmpty, none, m, [])
  | x :: xs => (.ok, some x, (mon.release m (queueCalculateItemSize x.dataSize)).2, xs)

/-- Take the oldest item if the condition holds of it. -/
def popFrontIf (mon : MonitorCalls μ) (condition : α → UInt32 → Bool) (m : μ) :
    List (QueueItem α) → QueueResult × Option (QueueItem α) × μ × List (QueueItem α)
  | [] => (.isEmpty, none, m, [])
  | x :: xs =>
      if condition x.data x.dataSize then popFront mon m (x :: xs)
      else (.conditionFailed, none, m, x :: xs)

end Fifo

/-- One call on a queue, with what its environment answers. -/
inductive QueueOp (α μ : Type) where
  | pushBack (mon : MonitorCalls μ) (o : PushOutcome) (data : α) (dataSize : UInt32)
  | popFront (mon : MonitorCalls μ)
  | popFrontIf (mon : MonitorCalls μ) (condition : α → UInt32 → Bool)

/-- What a call returns: its result code and what it stores in the out parameters. -/
abbrev QueueOutput (α : Type) := QueueResult × Option (QueueItem α)

/-- One call, on the C queue. -/
def Queue.step (s : μ × Queue α) : QueueOp α μ → Option (QueueOutput α × (μ × Queue α))
  | .pushBack mon o data dataSize =>
      (s.2.pushBack mon o s.1 data dataSize).map fun r => ((r.1, none), r.2)
  | .popFront mon => (s.2.popFront mon s.1).map fun r => ((r.1, r.2.1), r.2.2)
  | .popFrontIf mon condition =>
      (s.2.popFrontIf mon condition s.1).map fun r => ((r.1, r.2.1), r.2.2)

/-- One call, on the list. -/
def Fifo.step (s : μ × List (QueueItem α)) :
    QueueOp α μ → QueueOutput α × (μ × List (QueueItem α))
  | .pushBack mon o data dataSize =>
      let r := Fifo.pushBack mon o s.1 s.2 data dataSize
      ((r.1, none), r.2)
  | .popFront mon => let r := Fifo.popFront mon s.1 s.2; ((r.1, r.2.1), r.2.2)
  | .popFrontIf mon condition =>
      let r := Fifo.popFrontIf mon condition s.1 s.2; ((r.1, r.2.1), r.2.2)

/-- What a first-in first-out list owes its callers, one call at a time. -/
def Fifo.Lawful (items : List (QueueItem α)) (out : QueueOutput α)
    (items' : List (QueueItem α)) : QueueOp α μ → Prop
  | .pushBack _ _ data dataSize =>
      (out.1 = .ok → items' = items ++ [⟨data, dataSize⟩]) ∧ (out.1 ≠ .ok → items' = items)
  | .popFront _ =>
      (items = [] → out = (.isEmpty, none) ∧ items' = items)
        ∧ ∀ x xs, items = x :: xs → out = (.ok, some x) ∧ items' = xs
  | .popFrontIf _ condition =>
      (items = [] → out = (.isEmpty, none) ∧ items' = items)
        ∧ ∀ x xs, items = x :: xs →
            (condition x.data x.dataSize = true → out = (.ok, some x) ∧ items' = xs)
              ∧ (condition x.data x.dataSize = false → out = (.conditionFailed, none)
                ∧ items' = items)

theorem Fifo.step_lawful (s : μ × List (QueueItem α)) (op : QueueOp α μ) :
    Fifo.Lawful s.2 (Fifo.step s op).1 (Fifo.step s op).2.2 op := by
  obtain ⟨m, items⟩ := s
  cases op with
  | pushBack mon o data dataSize =>
      simp only [Fifo.Lawful, Fifo.step, Fifo.pushBack]
      split
      · split <;> simp
      · simp
      · simp
      · simp
  | popFront mon => cases items <;> simp [Fifo.Lawful, Fifo.step, Fifo.popFront]
  | popFrontIf mon condition =>
      cases items with
      | nil => simp [Fifo.Lawful, Fifo.step, Fifo.popFrontIf]
      | cons x xs =>
          by_cases hc : condition x.data x.dataSize <;>
            simp [Fifo.Lawful, Fifo.step, Fifo.popFrontIf, Fifo.popFront, hc]

/-! ## The invariant -/

/-- The cells `cs` are the whole of the queue's memory, linked in order. -/
structure Queue.LaidOut (q : Queue α) (cs : List (Addr × QueueItem α)) : Prop where
  /-- The cells are linked to each other and to nothing else. -/
  segment : Segment q.blocks none cs none
  /-- No block is linked twice. -/
  nodup : (cs.map Prod.fst).Nodup
  /-- What `malloc` returns next is not in use. -/
  fresh : ∀ p ∈ cs.map Prod.fst, p < q.nextBlock
  /-- No block has been leaked. -/
  owned : ∀ p, (q.blocks p).isSome → p ∈ cs.map Prod.fst
  first : q.firstItem = headAddr none cs
  last : q.lastItem = lastAddr none cs

/-- The queue holds these items, in this order. -/
structure Queue.Holds (q : Queue α) (items : List (QueueItem α)) : Prop where
  /-- They are laid out in its blocks. -/
  cells : ∃ cs, cs.map Prod.snd = items ∧ q.LaidOut cs
  /-- The element count, which wraps. -/
  count : q.numberOfElements = UInt32.ofNat items.length

/-- What a program that walks the queue sees. -/
structure Queue.Represents (q : Queue α) (items : List (QueueItem α)) : Prop where
  /-- Walking forward from the first item. -/
  forward : ∀ fuel, items.length ≤ fuel → forward q.blocks fuel q.firstItem = some items
  /-- Walking backward from the last item, reversed. -/
  backward : ∀ fuel, items.length ≤ fuel →
    (backward q.blocks fuel q.lastItem).map List.reverse = some items
  count : q.numberOfElements.toNat = items.length
  first_null : q.firstItem = none ↔ items = []
  last_null : q.lastItem = none ↔ items = []

namespace Queue

theorem holds_init : (Queue.init : Queue α).Holds [] where
  cells := ⟨[], rfl, trivial, List.nodup_nil, by simp, by simp [init], rfl, rfl⟩
  count := rfl

/-- Which cells an item list comes from, cut at its head. -/
theorem Holds.uncons {q : Queue α} {x : QueueItem α} {xs : List (QueueItem α)}
    (h : q.Holds (x :: xs)) :
    ∃ p cs, cs.map Prod.snd = xs ∧ q.LaidOut ((p, x) :: cs) := by
  obtain ⟨cs, hcs, hl⟩ := h.cells
  cases cs with
  | nil => exact absurd hcs (by simp)
  | cons c cs =>
      obtain ⟨p, y⟩ := c
      simp only [List.map_cons, List.cons.injEq] at hcs
      obtain ⟨rfl, hxs⟩ := hcs
      exact ⟨p, cs, hxs, hl⟩

theorem Holds.represents {q : Queue α} {items : List (QueueItem α)} (h : q.Holds items)
    (hlen : items.length < UInt32.size) : q.Represents items := by
  obtain ⟨cs, rfl, hl⟩ := h.cells
  refine ⟨?_, ?_, ?_, ?_, ?_⟩
  · intro fuel hf
    rw [hl.first, forward_segment hl.segment (by simpa using hf)]
  · intro fuel hf
    rw [hl.last, backward_segment hl.segment (by simpa using hf)]
    simp
  · rw [h.count]; exact UInt32.toNat_ofNat_of_lt' hlen
  · rw [hl.first]; cases cs <;> simp [headAddr]
  · rw [hl.last]
    cases cs using List.reverseRecOn with
    | nil => simp [lastAddr]
    | append_singleton cs c => simp [lastAddr_append, lastAddr]

/-! ## Linking and unlinking -/

theorem link_nil {q : Queue α} (h : q.Holds []) (x : QueueItem α) :
    ∃ q', q.link x = some q' ∧ q'.Holds [x] := by
  obtain ⟨cs, hcs, hl⟩ := h.cells
  obtain rfl : cs = [] := by simpa using hcs
  have hfirst : q.firstItem = none := hl.first
  refine ⟨_, by unfold link; rw [hfirst], ⟨[(q.nextBlock, x)], rfl, ?_⟩, ?_⟩
  · refine ⟨⟨Function.update_self .., trivial⟩, by simp, by simp, ?_, rfl, rfl⟩
    intro p hp
    dsimp only at hp
    by_cases hpq : p = q.nextBlock
    · simp [hpq]
    · rw [Function.update_of_ne hpq] at hp
      exact absurd (hl.owned p hp) (by simp)
  · show q.numberOfElements + 1 = _
    rw [h.count]; rfl

theorem link_concat {q : Queue α} {xs : List (QueueItem α)} {y : QueueItem α}
    (h : q.Holds (xs ++ [y])) (x : QueueItem α) :
    ∃ q', q.link x = some q' ∧ q'.Holds (xs ++ [y] ++ [x]) := by
  obtain ⟨cs, hcs, hl⟩ := h.cells
  -- the last cell is the one the new block is linked behind
  obtain ⟨cs, l, rfl, hxs⟩ : ∃ cs' l, cs = cs' ++ [(l, y)] ∧ cs'.map Prod.snd = xs := by
    cases cs using List.reverseRecOn with
    | nil => exact absurd hcs (by simp)
    | append_singleton cs c =>
        obtain ⟨l, z⟩ := c
        simp only [List.map_append, List.map_cons, List.map_nil] at hcs
        obtain ⟨h1, h2⟩ := List.append_inj' hcs rfl
        simp only [List.cons.injEq, and_true] at h2
        exact ⟨cs, l, by rw [h2], h1⟩
  have hq : q.nextBlock ∉ (cs ++ [(l, y)]).map Prod.fst :=
    fun hm => Nat.lt_irrefl _ (hl.fresh _ hm)
  have hlast : q.lastItem = some l := by rw [hl.last, lastAddr_concat]
  have hl' := hl.segment
  rw [segment_append] at hl'
  have hblock : q.blocks l = some ⟨y, none, lastAddr none cs⟩ := hl'.2.1
  obtain ⟨p, hfirst⟩ : ∃ p, q.firstItem = some p := by
    rw [hl.first]
    cases cs with
    | nil => exact ⟨l, rfl⟩
    | cons c cs => exact ⟨c.1, rfl⟩
  refine ⟨_, by unfold link; rw [hfirst, hlast]; dsimp only; rw [hblock], ?_, ?_⟩
  · refine ⟨cs ++ [(l, y), (q.nextBlock, x)], by simp [hxs], ?_, ?_, ?_, ?_, ?_, ?_⟩
    · exact segment_pushBack hl.segment hl.nodup hq
    · rw [show cs ++ [(l, y), (q.nextBlock, x)] = (cs ++ [(l, y)]) ++ [(q.nextBlock, x)] by simp,
        List.map_append, List.nodup_append]
      refine ⟨hl.nodup, by simp, fun a ha b hb he => hq ?_⟩
      simp only [List.map_cons, List.map_nil, List.mem_singleton] at hb
      exact hb ▸ he ▸ ha
    · intro a ha
      rw [show cs ++ [(l, y), (q.nextBlock, x)] = (cs ++ [(l, y)]) ++ [(q.nextBlock, x)] by simp,
        List.map_append, List.mem_append] at ha
      rcases ha with ha | ha
      · exact Nat.lt_succ_of_lt (hl.fresh a ha)
      · simp only [List.map_cons, List.map_nil, List.mem_singleton] at ha
        exact ha ▸ Nat.lt_succ_self _
    · intro a ha
      dsimp only at ha
      have hmem : a ∈ (cs ++ [(l, y)]).map Prod.fst ∨ a = q.nextBlock := by
        by_cases hal : a = l
        · left; simp [hal]
        · by_cases haq : a = q.nextBlock
          · exact Or.inr haq
          · rw [Function.update_of_ne hal, Function.update_of_ne haq] at ha
            exact Or.inl (hl.owned a ha)
      rcases hmem with hm | hm
      · simp only [List.map_append, List.mem_append, List.map_cons, List.map_nil,
          List.mem_cons, List.not_mem_nil, or_false] at hm ⊢
        rcases hm with hm | hm
        · exact Or.inl hm
        · exact Or.inr (Or.inl hm)
      · simp [hm]
    · show some p = _
      rw [← hfirst, hl.first, headAddr_append, headAddr_append]; rfl
    · show some q.nextBlock = _
      rw [show cs ++ [(l, y), (q.nextBlock, x)] = (cs ++ [(l, y)]) ++ [(q.nextBlock, x)] by simp,
        lastAddr_concat]
  · show q.numberOfElements + 1 = _
    rw [h.count, show (xs ++ [y] ++ [x]).length = (xs ++ [y]).length + 1 by simp,
      UInt32.ofNat_add]
    rfl

/-- **Linking appends.** -/
theorem link_holds {q : Queue α} {items : List (QueueItem α)} (h : q.Holds items)
    (x : QueueItem α) : ∃ q', q.link x = some q' ∧ q'.Holds (items ++ [x]) := by
  cases items using List.reverseRecOn with
  | nil => exact link_nil h x
  | append_singleton xs y => exact link_concat h x

/-- **Unlinking takes the head.** -/
theorem unlink_holds {q : Queue α} {x : QueueItem α} {xs : List (QueueItem α)}
    (h : q.Holds (x :: xs)) : ∃ q', q.unlink = some (x, q') ∧ q'.Holds xs := by
  obtain ⟨p, cs, rfl, hl⟩ := h.uncons
  have hfirst : q.firstItem = some p := hl.first
  have hblock : q.blocks p = some ⟨x, headAddr none cs, none⟩ := hl.segment.1
  have hcount : q.numberOfElements - 1 = UInt32.ofNat (cs.map Prod.snd).length := by
    rw [h.count, List.length_cons, UInt32.ofNat_add]; simp
  cases cs with
  | nil =>
      refine ⟨_, by unfold unlink; rw [hfirst]; dsimp only; rw [hblock]; rfl, ?_, hcount⟩
      refine ⟨[], rfl, trivial, List.nodup_nil, by simp, ?_, rfl, rfl⟩
      intro a ha
      dsimp only at ha
      by_cases hap : a = p
      · rw [hap, Function.update_self] at ha; exact absurd ha (by simp)
      · rw [Function.update_of_ne hap] at ha
        simpa [hap] using hl.owned a ha
  | cons c cs =>
      obtain ⟨n, y⟩ := c
      have hsecond : q.blocks n = some ⟨y, headAddr none cs, some p⟩ := hl.segment.2.1
      refine ⟨_, by
        unfold unlink; rw [hfirst]; dsimp only; rw [hblock]; dsimp only [headAddr]; rw [hsecond],
        ?_, hcount⟩
      have hnd := hl.nodup
      simp only [List.map_cons, List.nodup_cons] at hnd
      refine ⟨(n, y) :: cs, rfl, segment_popFront hl.segment hl.nodup, ?_, ?_, ?_, rfl, ?_⟩
      · simpa using hnd.2
      · intro a ha
        exact hl.fresh a (List.mem_cons_of_mem _ ha)
      · intro a ha
        dsimp only at ha
        by_cases hap : a = p
        · rw [hap, Function.update_self] at ha; exact absurd ha (by simp)
        · rw [Function.update_of_ne hap] at ha
          by_cases han : a = n
          · simp [han]
          · rw [Function.update_of_ne han] at ha
            simpa [hap] using hl.owned a ha
      · show q.lastItem = _
        rw [hl.last]; rfl

/-- The counters are not part of what the queue holds. -/
theorem Holds.countCollected {q : Queue α} {items : List (QueueItem α)} (h : q.Holds items)
    (lock : Bool) : (q.countCollected lock).Holds items := by
  unfold Queue.countCollected
  split
  · obtain ⟨⟨cs, hcs, hl⟩, hn⟩ := h
    exact ⟨⟨cs, hcs, hl.segment, hl.nodup, hl.fresh, hl.owned, hl.first, hl.last⟩, hn⟩
  · exact h

theorem Holds.countDropped {q : Queue α} {items : List (QueueItem α)} (h : q.Holds items)
    (lock : Bool) : (q.countDropped lock).Holds items := by
  unfold Queue.countDropped
  split
  · obtain ⟨⟨cs, hcs, hl⟩, hn⟩ := h
    exact ⟨⟨cs, hcs, hl.segment, hl.nodup, hl.fresh, hl.owned, hl.first, hl.last⟩, hn⟩
  · exact h

/-- While the count has not wrapped, it is zero exactly on the empty queue. -/
theorem Holds.numberOfElements_eq_zero {q : Queue α} {items : List (QueueItem α)}
    (h : q.Holds items) (hlen : items.length < UInt32.size) :
    q.numberOfElements = 0 ↔ items = [] := by
  rw [h.count, ← UInt32.toNat_inj, UInt32.toNat_ofNat_of_lt' hlen]
  simp

/-! ## Each call is the list's call -/

theorem pushBack_holds {q : Queue α} {items : List (QueueItem α)} (h : q.Holds items)
    (mon : MonitorCalls μ) (o : PushOutcome) (m : μ) (data : α) (dataSize : UInt32) :
    ∃ q', q.pushBack mon o m data dataSize
        = some ((Fifo.pushBack mon o m items data dataSize).1,
            (Fifo.pushBack mon o m items data dataSize).2.1, q')
      ∧ q'.Holds (Fifo.pushBack mon o m items data dataSize).2.2 := by
  unfold Queue.pushBack Fifo.pushBack
  generalize mon.consume m (queueCalculateItemSize dataSize) = c
  obtain ⟨r, m'⟩ := c
  cases r with
  | ok =>
      dsimp only
      by_cases hm : o.malloc = true
      · obtain ⟨q', hq, hh⟩ := link_holds h ⟨data, dataSize⟩
        rw [if_pos hm, if_pos hm, hq]
        exact ⟨_, rfl, hh.countCollected _⟩
      · rw [if_neg hm, if_neg hm]
        exact ⟨_, rfl, h.countCollected _⟩
  | memoryExceeded => exact ⟨_, rfl, (h.countDropped _).countCollected _⟩
  | invalidReleaseSize => exact ⟨_, rfl, h.countCollected _⟩
  | exception => exact ⟨_, rfl, h.countCollected _⟩

theorem popFront_holds {q : Queue α} {items : List (QueueItem α)} (h : q.Holds items)
    (hlen : items.length < UInt32.size) (mon : MonitorCalls μ) (m : μ) :
    ∃ q', q.popFront mon m
        = some ((Fifo.popFront mon m items).1, (Fifo.popFront mon m items).2.1,
            (Fifo.popFront mon m items).2.2.1, q')
      ∧ q'.Holds (Fifo.popFront mon m items).2.2.2 := by
  have h0 := h.numberOfElements_eq_zero hlen
  unfold Queue.popFront
  cases items with
  | nil => exact ⟨q, by rw [if_pos (h0.mpr rfl)]; rfl, h⟩
  | cons x xs =>
      obtain ⟨q', hq, hh⟩ := unlink_holds h
      refine ⟨q', ?_, hh⟩
      rw [if_neg (fun he => absurd (h0.mp he) (by simp)), hq]
      rfl

theorem popFrontIf_holds {q : Queue α} {items : List (QueueItem α)} (h : q.Holds items)
    (hlen : items.length < UInt32.size) (mon : MonitorCalls μ) (condition : α → UInt32 → Bool)
    (m : μ) :
    ∃ q', q.popFrontIf mon condition m
        = some ((Fifo.popFrontIf mon condition m items).1,
            (Fifo.popFrontIf mon condition m items).2.1,
            (Fifo.popFrontIf mon condition m items).2.2.1, q')
      ∧ q'.Holds (Fifo.popFrontIf mon condition m items).2.2.2 := by
  have h0 := h.numberOfElements_eq_zero hlen
  unfold Queue.popFrontIf
  cases items with
  | nil => exact ⟨q, by rw [if_pos (h0.mpr rfl)]; rfl, h⟩
  | cons x xs =>
      obtain ⟨p, cs, _, hl⟩ := h.uncons
      have hfirst : q.firstItem = some p := hl.first
      have hblock : q.blocks p = some ⟨x, headAddr none cs, none⟩ := hl.segment.1
      rw [if_neg (fun he => absurd (h0.mp he) (by simp)), hfirst]
      dsimp only
      rw [hblock]
      dsimp only [Fifo.popFrontIf]
      by_cases hc : condition x.data x.dataSize = true
      · rw [if_pos hc, if_pos hc]
        exact popFront_holds h hlen mon m
      · rw [if_neg hc, if_neg hc]
        exact ⟨q, rfl, h⟩

end Queue

/-! ## Whole runs -/

/-- The list a call leaves behind is short enough for a 32-bit count. -/
def CountFits (s : μ × List (QueueItem α)) (op : QueueOp α μ) : Prop :=
  (Fifo.step s op).2.2.length < UInt32.size

/-- The C queue and the list are in step. -/
def Queue.InStep (s : μ × Queue α) (t : μ × List (QueueItem α)) : Prop :=
  s.1 = t.1 ∧ s.2.Holds t.2 ∧ t.2.length < UInt32.size

theorem Queue.step_simulates (s : μ × Queue α) (t : μ × List (QueueItem α)) (op : QueueOp α μ)
    (h : Queue.InStep s t) (hfit : CountFits t op) :
    ∃ s', Queue.step s op = some ((Fifo.step t op).1, s') ∧ Queue.InStep s' (Fifo.step t op).2 := by
  obtain ⟨m, q⟩ := s
  obtain ⟨m', items⟩ := t
  obtain ⟨rfl, hh, hlen⟩ := h
  cases op with
  | pushBack mon o data dataSize =>
      obtain ⟨q', hq, hh'⟩ := Queue.pushBack_holds hh mon o m data dataSize
      exact ⟨_, by simp only [Queue.step, hq]; rfl, rfl, hh', hfit⟩
  | popFront mon =>
      obtain ⟨q', hq, hh'⟩ := Queue.popFront_holds hh hlen mon m
      exact ⟨_, by simp only [Queue.step, hq]; rfl, rfl, hh', hfit⟩
  | popFrontIf mon condition =>
      obtain ⟨q', hq, hh'⟩ := Queue.popFrontIf_holds hh hlen mon condition m
      exact ⟨_, by simp only [Queue.step, hq]; rfl, rfl, hh', hfit⟩

/--
**The queue refines the list.**

Start a C queue and an empty list together and make any calls on both, whatever the
condition functions, the memory monitor and `malloc` answer. As long as the list stays
shorter than `2^32`, no call faults, every call returns the same on both sides, and the
queue's links, seen from either end, spell out the list.
-/
theorem queue_refines_fifo (m : μ) (ops : List (QueueOp α μ))
    (hfit : Along (total Fifo.step) CountFits (m, []) ops) :
    (∃ s, run Queue.step (m, Queue.init) ops = some ((runTotal Fifo.step (m, []) ops).1, s)
        ∧ s.1 = (runTotal Fifo.step (m, []) ops).2.1
        ∧ s.2.Represents (runTotal Fifo.step (m, []) ops).2.2)
      ∧ ∀ s (op : QueueOp α μ), Fifo.Lawful s.2 (Fifo.step s op).1 (Fifo.step s op).2.2 op := by
  have h0 : Queue.InStep (m, (Queue.init : Queue α)) (m, []) :=
    ⟨rfl, Queue.holds_init, Nat.zero_lt_succ _⟩
  obtain ⟨s, hr, hm, hh, hlen⟩ := run_simulates Queue.step_simulates h0 hfit
  exact ⟨⟨s, hr, hm, hh.represents hlen⟩, Fifo.step_lawful⟩

/-- A monitor that grants every request. -/
def MonitorCalls.granting : MonitorCalls Unit where
  consume := fun m _ => (.ok, m)
  release := fun m _ => (.ok, m)

/-- A push that is granted and finds memory for its block. -/
def QueueOp.grantedPush (data : α) (dataSize : UInt32) : QueueOp α Unit :=
  .pushBack .granting ⟨true, true, true⟩ data dataSize

theorem queue_refines_fifo_push_pop :
    ∃ s, run Queue.step ((), (Queue.init : Queue Bool))
        [.grantedPush true 3, .popFrontIf .granting (fun d _ => d)]
      = some ([(.ok, none), (.ok, some ⟨true, 3⟩)], s) ∧ s.2.Represents [] := by
  have hfit : Along (total Fifo.step) CountFits ((), ([] : List (QueueItem Bool)))
      [.grantedPush true 3, .popFrontIf .granting (fun d _ => d)] :=
    along_total.mpr ⟨by show 1 < UInt32.size; decide,
      along_total.mpr ⟨by show 0 < UInt32.size; decide, trivial⟩⟩
  obtain ⟨s, hr, _, hrep⟩ := (queue_refines_fifo () _ hfit).1
  exact ⟨s, hr, hrep⟩

/-- Granted pushes all lengthen the list. -/
theorem length_grantedPushes (data : α) (dataSize : UInt32) :
    ∀ (n : Nat) (items : List (QueueItem α)),
      (runTotal Fifo.step ((), items) (List.replicate n (.grantedPush data dataSize))).2.2.length
        = items.length + n
  | 0, _ => rfl
  | n + 1, items => by
      rw [List.replicate_succ, runTotal]
      dsimp only
      rw [show (Fifo.step ((), items) (.grantedPush data dataSize)).2
          = ((), items ++ [⟨data, dataSize⟩]) from rfl,
        length_grantedPushes data dataSize n, List.length_append, List.length_singleton]
      omega

/-- **The count wraps.** After `2^32` granted pushes the list has `2^32` items, which is
not the value of any 32-bit count. -/
theorem queue_count_wraps :
    ¬ ∀ ops : List (QueueOp Unit Unit),
      ∃ s, run Queue.step ((), Queue.init) ops = some ((runTotal Fifo.step ((), []) ops).1, s)
        ∧ s.2.Represents (runTotal Fifo.step ((), []) ops).2.2 := by
  intro h
  obtain ⟨s, _, hrep⟩ := h (List.replicate UInt32.size (.grantedPush () 1))
  have hc := hrep.count
  rw [length_grantedPushes] at hc
  have hlt := s.2.numberOfElements.toNat_lt
  rw [hc, List.length_nil, Nat.zero_add] at hlt
  exact Nat.lt_irrefl _ hlt

end SecurityAgent
