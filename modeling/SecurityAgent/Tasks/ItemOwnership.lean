import SecurityAgent.Tasks.UpdateTwinTask

/-!
# Who owns a twin update

The live blocks are the items the queue points to with their payloads, and those
somebody is holding: the callback, from the initialisation to the push, and the
task, from the pop to the free. `Blocks` is that inventory; a push and a pop only
move a cell from one of its lists to the other.

It is kept as long as three things do not happen: an item or a payload that could
not be allocated is pushed all the same, a failed unlock has the callback free
what is in the queue, and `UpdateTwinTask_Deinit` finds something in the queue.
-/

namespace SecurityAgent

open LinkedHeap Machine

variable {ρ τ υ μ : Type}

namespace UpdateTwinTask

/-- An item and its payload. -/
structure Cell (ρ : Type) where
  item : Addr
  complete : Bool
  payload : Addr
  document : ρ

/-- What is at the item's address. -/
def Cell.content (c : Cell ρ) : UpdateTwinTaskItem :=
  ⟨if c.complete then .twinComplete else .twinPartial, some c.payload⟩

/-- The queue's pointer to it. -/
def Cell.pointer (c : Cell ρ) : QueueItem Addr := ⟨c.item, sizeofUpdateTwinTaskItem⟩

/-- The cells are all that is live in the two heaps, and no two share a block. -/
structure Blocks (items : Addr → Option UpdateTwinTaskItem) (payloads : Addr → Option ρ)
    (nextItem nextPayload : Addr) (cells : List (Cell ρ)) : Prop where
  item : ∀ c ∈ cells, items c.item = some c.content
  onlyItems : ∀ a, items a ≠ none → a ∈ cells.map Cell.item
  payload : ∀ c ∈ cells, payloads c.payload = some c.document
  onlyPayloads : ∀ a, payloads a ≠ none → a ∈ cells.map Cell.payload
  distinctItems : (cells.map Cell.item).Nodup
  distinctPayloads : (cells.map Cell.payload).Nodup
  /-- What `malloc` returns next is not in use. -/
  itemsBelow : ∀ a ∈ cells.map Cell.item, a < nextItem
  payloadsBelow : ∀ a ∈ cells.map Cell.payload, a < nextPayload
  /-- `NULL` is not the address of an item, nor is `1`. -/
  pointers : 2 ≤ nextItem ∧ ∀ a ∈ cells.map Cell.item, 2 ≤ a

/-- The queue holds these cells, and nothing else is live. -/
structure Owned (s : TwinUpdates ρ τ μ) (cells : List (Cell ρ)) : Prop where
  queue : s.queue.items = cells.map Cell.pointer
  blocks : Blocks s.items s.payloads s.nextItem s.nextPayload cells

/-- Every pointer in the queue is that of a live item. -/
def QueueLive (s : TwinUpdates ρ τ μ) : Prop :=
  ∀ x ∈ s.queue.items, x.data ≠ 0 ∧ s.items x.data ≠ none

/-- No item and no payload is left. -/
def AllFreed (s : TwinUpdates ρ τ μ) : Prop :=
  (∀ a, s.items a = none) ∧ ∀ a, s.payloads a = none

/-! ## The inventory -/

section Blocks

variable {items : Addr → Option UpdateTwinTaskItem} {payloads : Addr → Option ρ}
  {nextItem nextPayload : Addr} {c : Cell ρ} {cells : List (Cell ρ)}

theorem Blocks.perm {cells' : List (Cell ρ)} (h : Blocks items payloads nextItem nextPayload cells)
    (hp : cells.Perm cells') : Blocks items payloads nextItem nextPayload cells' where
  item := fun c hc => h.item c (hp.mem_iff.mpr hc)
  onlyItems := fun a ha => (hp.map Cell.item).mem_iff.mp (h.onlyItems a ha)
  payload := fun c hc => h.payload c (hp.mem_iff.mpr hc)
  onlyPayloads := fun a ha => (hp.map Cell.payload).mem_iff.mp (h.onlyPayloads a ha)
  distinctItems := (hp.map Cell.item).nodup_iff.mp h.distinctItems
  distinctPayloads := (hp.map Cell.payload).nodup_iff.mp h.distinctPayloads
  itemsBelow := fun a ha => h.itemsBelow a ((hp.map Cell.item).mem_iff.mpr ha)
  payloadsBelow := fun a ha => h.payloadsBelow a ((hp.map Cell.payload).mem_iff.mpr ha)
  pointers := ⟨h.pointers.1, fun a ha => h.pointers.2 a ((hp.map Cell.item).mem_iff.mpr ha)⟩

theorem Blocks.item_none (h : Blocks items payloads nextItem nextPayload cells) {a : Addr}
    (ha : a ∉ cells.map Cell.item) : items a = none :=
  Classical.byContradiction fun hne => ha (h.onlyItems a hne)

theorem pointer_ne_zero {a : Addr} (h : 2 ≤ a) : a ≠ 0 :=
  fun h0 => absurd (h0 ▸ h) (by decide)

theorem Blocks.nextItem_none (h : Blocks items payloads nextItem nextPayload cells) :
    items nextItem = none :=
  h.item_none fun ha => Nat.lt_irrefl _ (h.itemsBelow _ ha)

/-- Neither `NULL` nor the first word of a partial update is a live item. -/
theorem Blocks.firstWord_none (h : Blocks items payloads nextItem nextPayload cells)
    (item : UpdateTwinTaskItem) : items (firstWord item) = none := by
  refine h.item_none fun ha => ?_
  have h2 := h.pointers.2 _ ha
  unfold firstWord at h2
  cases hs : item.state <;> rw [hs] at h2 <;> exact absurd h2 (by decide)

/-- A new item with a new payload. -/
theorem Blocks.alloc (h : Blocks items payloads nextItem nextPayload cells) (complete : Bool)
    (document : ρ) :
    Blocks (Function.update items nextItem
        (some (Cell.content ⟨nextItem, complete, nextPayload, document⟩)))
      (Function.update payloads nextPayload (some document)) (nextItem + 1) (nextPayload + 1)
      (⟨nextItem, complete, nextPayload, document⟩ :: cells) where
  item := by
    intro c hc
    rcases List.mem_cons.mp hc with rfl | hc
    · exact Function.update_self ..
    · have hlt := h.itemsBelow _ (List.mem_map_of_mem hc)
      rw [Function.update_of_ne (Nat.ne_of_lt hlt)]
      exact h.item c hc
  onlyItems := by
    intro a ha
    by_cases hnew : a = nextItem
    · exact hnew ▸ List.mem_cons_self
    · rw [Function.update_of_ne hnew] at ha
      exact List.mem_cons_of_mem _ (h.onlyItems a ha)
  payload := by
    intro c hc
    rcases List.mem_cons.mp hc with rfl | hc
    · exact Function.update_self ..
    · have hlt := h.payloadsBelow _ (List.mem_map_of_mem hc)
      rw [Function.update_of_ne (Nat.ne_of_lt hlt)]
      exact h.payload c hc
  onlyPayloads := by
    intro a ha
    by_cases hnew : a = nextPayload
    · exact hnew ▸ List.mem_cons_self
    · rw [Function.update_of_ne hnew] at ha
      exact List.mem_cons_of_mem _ (h.onlyPayloads a ha)
  distinctItems :=
    List.nodup_cons.mpr ⟨fun ha => Nat.lt_irrefl _ (h.itemsBelow _ ha), h.distinctItems⟩
  distinctPayloads :=
    List.nodup_cons.mpr ⟨fun ha => Nat.lt_irrefl _ (h.payloadsBelow _ ha), h.distinctPayloads⟩
  itemsBelow := by
    intro a ha
    rcases List.mem_cons.mp ha with rfl | ha
    · exact Nat.lt_succ_self _
    · exact Nat.lt_succ_of_lt (h.itemsBelow a ha)
  payloadsBelow := by
    intro a ha
    rcases List.mem_cons.mp ha with rfl | ha
    · exact Nat.lt_succ_self _
    · exact Nat.lt_succ_of_lt (h.payloadsBelow a ha)
  pointers := by
    refine ⟨Nat.le_succ_of_le h.pointers.1, fun a ha => ?_⟩
    rcases List.mem_cons.mp ha with rfl | ha
    · exact h.pointers.1
    · exact h.pointers.2 a ha

/-- An address that has been handed out and given back. -/
theorem Blocks.skip (h : Blocks items payloads nextItem nextPayload cells) :
    Blocks items payloads (nextItem + 1) nextPayload cells :=
  { h with
    itemsBelow := fun a ha => Nat.lt_succ_of_lt (h.itemsBelow a ha)
    pointers := ⟨Nat.le_succ_of_le h.pointers.1, h.pointers.2⟩ }

/-- A cell without its two blocks. -/
theorem Blocks.free (h : Blocks items payloads nextItem nextPayload (c :: cells)) :
    Blocks (Function.update items c.item none) (Function.update payloads c.payload none) nextItem
      nextPayload cells where
  item := by
    intro d hd
    have hne : d.item ≠ c.item := fun he =>
      (List.nodup_cons.mp h.distinctItems).1 (he ▸ List.mem_map_of_mem hd)
    rw [Function.update_of_ne hne]
    exact h.item d (List.mem_cons_of_mem _ hd)
  onlyItems := by
    intro a ha
    by_cases hac : a = c.item
    · rw [hac, Function.update_self] at ha
      exact absurd rfl ha
    · rw [Function.update_of_ne hac] at ha
      exact (List.mem_cons.mp (h.onlyItems a ha)).resolve_left hac
  payload := by
    intro d hd
    have hne : d.payload ≠ c.payload := fun he =>
      (List.nodup_cons.mp h.distinctPayloads).1 (he ▸ List.mem_map_of_mem hd)
    rw [Function.update_of_ne hne]
    exact h.payload d (List.mem_cons_of_mem _ hd)
  onlyPayloads := by
    intro a ha
    by_cases hac : a = c.payload
    · rw [hac, Function.update_self] at ha
      exact absurd rfl ha
    · rw [Function.update_of_ne hac] at ha
      exact (List.mem_cons.mp (h.onlyPayloads a ha)).resolve_left hac
  distinctItems := (List.nodup_cons.mp h.distinctItems).2
  distinctPayloads := (List.nodup_cons.mp h.distinctPayloads).2
  itemsBelow := fun a ha => h.itemsBelow a (List.mem_cons_of_mem _ ha)
  payloadsBelow := fun a ha => h.payloadsBelow a (List.mem_cons_of_mem _ ha)
  pointers := ⟨h.pointers.1, fun a ha => h.pointers.2 a (List.mem_cons_of_mem _ ha)⟩

end Blocks

theorem Owned.live {s : TwinUpdates ρ τ μ} {cells : List (Cell ρ)} (h : Owned s cells) :
    QueueLive s := by
  intro x hx
  rw [h.queue] at hx
  obtain ⟨c, hc, rfl⟩ := List.mem_map.mp hx
  exact ⟨pointer_ne_zero (h.blocks.pointers.2 _ (List.mem_map_of_mem hc)),
    fun hn => absurd ((h.blocks.item c hc).symm.trans hn) (by simp)⟩

theorem Owned.allFreed {s : TwinUpdates ρ τ μ} (h : Owned s ([] : List (Cell ρ))) : AllFreed s :=
  ⟨fun _ => h.blocks.item_none List.not_mem_nil, fun a =>
    Classical.byContradiction fun hne => absurd (h.blocks.onlyPayloads a hne) List.not_mem_nil⟩

theorem init_owned (m : μ) (twin : τ) : Owned (init m twin) ([] : List (Cell ρ)) where
  queue := rfl
  blocks := ⟨by simp, by simp [init], by simp, by simp [init], List.nodup_nil, List.nodup_nil,
    by simp, by simp, Nat.le_refl 2, by simp⟩

/-! ## The operations -/

/-- **Freeing a cell.** -/
theorem deinitItem_of_blocks {s : TwinUpdates ρ τ μ} {c : Cell ρ} {cells : List (Cell ρ)}
    (h : Blocks s.items s.payloads s.nextItem s.nextPayload (c :: cells)) :
    deinitUpdateTwinTaskItem s c.item
      = some { s with
          payloads := Function.update s.payloads c.payload none
          items := Function.update s.items c.item none } := by
  unfold deinitUpdateTwinTaskItem
  rw [h.item c List.mem_cons_self]
  simp only [Cell.content, h.payload c List.mem_cons_self]

theorem deinitItem_of_none {s : TwinUpdates ρ τ μ} {twinItem : Addr}
    (h : s.items twinItem = none) : deinitUpdateTwinTaskItem s twinItem = none := by
  unfold deinitUpdateTwinTaskItem
  rw [h]

/-- Making an item without memory for its payload leaves a pointer to nothing. -/
theorem initItem_no_payload {s : TwinUpdates ρ τ μ} (h : s.items s.nextItem = none) (payload : ρ)
    (complete : Bool) :
    initUpdateTwinTaskItem true false s payload complete
      = some (s.nextItem, { s with nextItem := s.nextItem + 1 }) := by
  have hback : Function.update (Function.update s.items s.nextItem (some ⟨.twinComplete, none⟩))
      s.nextItem none = s.items := by
    rw [Function.update_idem, ← h, Function.update_eq_self]
  unfold initUpdateTwinTaskItem deinitUpdateTwinTaskItem
  simp [hback]

/-- Making an item. -/
theorem initItem_ok (s : TwinUpdates ρ τ μ) (payload : ρ) (complete : Bool) :
    initUpdateTwinTaskItem true true s payload complete
      = some (s.nextItem, { s with
          items := Function.update s.items s.nextItem
            (some (Cell.content ⟨s.nextItem, complete, s.nextPayload, payload⟩))
          payloads := Function.update s.payloads s.nextPayload (some payload)
          nextItem := s.nextItem + 1
          nextPayload := s.nextPayload + 1 }) := by
  unfold initUpdateTwinTaskItem
  simp [Cell.content]

/-- The push of a callback puts a pointer into the queue. -/
def Inserted (s : TwinUpdates ρ τ μ) (o : CallbackOutcome μ) : Prop :=
  o.lock.lock = true
    ∧ (o.mon.consume s.monitor (queueCalculateItemSize sizeofUpdateTwinTaskItem)).1 = .ok
    ∧ o.push.malloc = true

/-- Everything the push of a callback can do. -/
theorem push_cases (s : TwinUpdates ρ τ μ) (o : CallbackOutcome μ) (twinTaskItem : Addr) :
    (Inserted s o
      ∧ (SyncQueue.pushBack o.lock o.mon o.push s.monitor s.queue twinTaskItem
          sizeofUpdateTwinTaskItem).2.2.items
        = s.queue.items ++ [⟨twinTaskItem, sizeofUpdateTwinTaskItem⟩]
      ∧ (SyncQueue.pushBack o.lock o.mon o.push s.monitor s.queue twinTaskItem
          sizeofUpdateTwinTaskItem).1
        = if o.lock.unlock = false then .lockException else .queue .ok)
    ∨ (¬ Inserted s o
      ∧ (SyncQueue.pushBack o.lock o.mon o.push s.monitor s.queue twinTaskItem
          sizeofUpdateTwinTaskItem).2.2.items = s.queue.items
      ∧ (SyncQueue.pushBack o.lock o.mon o.push s.monitor s.queue twinTaskItem
          sizeofUpdateTwinTaskItem).1 ≠ .queue .ok) := by
  rcases SyncQueue.pushBack_cases o.lock o.mon o.push s.monitor s.queue twinTaskItem
    sizeofUpdateTwinTaskItem with ⟨hitems, hl, hc, hm, hr⟩ | ⟨hitems, hr, hnot, -⟩
  · exact Or.inl ⟨⟨hl, hc, hm⟩, hitems, hr⟩
  · exact Or.inr ⟨hnot, hitems, hr⟩

/-- **A callback with memory for its update**: the update is queued behind the others, or freed
again. -/
theorem callback_owned {s : TwinUpdates ρ τ μ} {cells : List (Cell ρ)} (h : Owned s cells)
    (complete : Bool) (payload : ρ) {size : Nat} (hsize : size ≠ 0) {o : CallbackOutcome μ}
    (hitem : o.mallocItem = true) (hpayload : o.mallocPayload = true)
    (hunlock : Inserted s o → o.lock.unlock = true) :
    ∃ s', deviceTwinCallback s complete payload size o = some s' ∧ s'.twin = s.twin
      ∧ (Inserted s o ∧ Owned s' (cells ++ [⟨s.nextItem, complete, s.nextPayload, payload⟩])
        ∨ ¬ Inserted s o ∧ Owned s' cells) := by
  have halloc := h.blocks.alloc complete payload
  have hnull : s.nextItem ≠ 0 := pointer_ne_zero h.blocks.pointers.1
  unfold deviceTwinCallback
  rw [if_neg hsize, hitem, hpayload, initItem_ok]
  dsimp only
  rcases push_cases s o s.nextItem with ⟨hin, hitems, hr⟩ | ⟨hin, hitems, hr⟩
  · rw [hunlock hin, if_neg (by decide)] at hr
    rw [if_pos hr]
    refine ⟨_, rfl, rfl, Or.inl ⟨hin, ?_, halloc.perm (List.perm_append_singleton _ _).symm⟩⟩
    show (SyncQueue.pushBack _ _ _ _ _ _ _).2.2.items = _
    rw [hitems, h.queue, List.map_append]
    rfl
  · rw [if_neg hr, if_neg hnull]
    refine ⟨_, deinitItem_of_blocks (c := ⟨s.nextItem, complete, s.nextPayload, payload⟩)
      (by exact halloc), rfl, Or.inr ⟨hin, hitems.trans h.queue, ?_⟩⟩
    exact halloc.free

/-- A round of the task on an empty queue does nothing. -/
theorem execute_nil {s : TwinUpdates ρ τ μ} (h : Owned s ([] : List (Cell ρ)))
    (update : υ → Option ρ → Bool → τ → TwinConfigurationResult × τ) (mon : MonitorCalls μ)
    (environment : υ) : execute update mon environment s = some (false, s) := by
  unfold execute
  rw [h.queue]
  rfl

/-- **A round of the task applies the oldest update and frees it.** -/
theorem execute_cons {s : TwinUpdates ρ τ μ} {c : Cell ρ} {cells : List (Cell ρ)}
    (h : Owned s (c :: cells))
    (update : υ → Option ρ → Bool → τ → TwinConfigurationResult × τ) (mon : MonitorCalls μ)
    (environment : υ) :
    ∃ reports s', execute update mon environment s = some (reports, s') ∧ Owned s' cells
      ∧ s'.twin = (update environment (some c.document) c.complete s.twin).2 := by
  have hstate : decide (c.content.state = .twinComplete) = c.complete := by
    unfold Cell.content
    cases c.complete <;> rfl
  have hpayload : c.content.twinPayload.bind s.payloads = some c.document :=
    h.blocks.payload c List.mem_cons_self
  unfold execute
  rw [h.queue]
  simp only [List.map_cons, Fifo.popFront, Cell.pointer, ne_eq, not_true_eq_false, if_false,
    h.blocks.item c List.mem_cons_self, hstate, hpayload]
  rw [deinitItem_of_blocks (c := c) (by exact h.blocks)]
  exact ⟨_, _, rfl, ⟨rfl, h.blocks.free⟩, rfl⟩

/-- The end of the task on a queue that is not empty reads through a state as a pointer. -/
theorem deinit_cons {s : TwinUpdates ρ τ μ} {c : Cell ρ} {cells : List (Cell ρ)}
    (h : Owned s (c :: cells)) (mon : MonitorCalls μ) : deinit mon s = none := by
  unfold deinit
  rw [h.queue]
  simp only [List.map_cons, deinitLoop, Cell.pointer, h.blocks.item c List.mem_cons_self]
  rw [deinitItem_of_none (by exact h.blocks.firstWord_none _)]

/-! ## Every call -/

/-- After the call the queue is sound, and after the last one nothing is left. -/
def Fine (_ : TwinUpdates ρ τ μ) (call : TwinCall ρ υ μ) (_ : Bool) (s' : TwinUpdates ρ τ μ) :
    Prop :=
  QueueLive s' ∧ ∀ mon, call = .deinit mon → AllFreed s'

/-- The call leaves every block one owner. -/
def SingleOwner (s : TwinUpdates ρ τ μ) : TwinCall ρ υ μ → Prop
  | .traffic (.callback _ _ size o) => size ≠ 0 →
      if o.mallocItem then o.mallocPayload = true ∧ (Inserted s o → o.lock.unlock = true)
      else ¬ Inserted s o
  | .traffic (.execute _ _) => True
  | .deinit _ => s.queue.items = []

/-- A callback without memory for its item leaves a queue that refuses it as it is. -/
theorem callback_no_item {s : TwinUpdates ρ τ μ} {cells : List (Cell ρ)} (h : Owned s cells)
    (complete : Bool) (payload : ρ) {size : Nat} {o : CallbackOutcome μ}
    (hitem : o.mallocItem = false) (hin : ¬ Inserted s o) :
    ∃ s', deviceTwinCallback s complete payload size o = some s' ∧ Owned s' cells := by
  unfold deviceTwinCallback
  by_cases hsize : size = 0
  · rw [if_pos hsize]
    exact ⟨s, rfl, h⟩
  · rw [if_neg hsize, hitem]
    simp only [initUpdateTwinTaskItem, if_true]
    rcases push_cases s o 0 with ⟨hin', -⟩ | ⟨-, hitems, hr⟩
    · exact absurd hin' hin
    · rw [if_neg hr]
      exact ⟨_, rfl, hitems.trans h.queue, h.blocks⟩

/-- What can go wrong in a callback shows in its queue. -/
theorem callback_back {s s' : TwinUpdates ρ τ μ} {cells : List (Cell ρ)} (h : Owned s cells)
    {complete : Bool} {payload : ρ} {size : Nat} {o : CallbackOutcome μ}
    (hs : deviceTwinCallback s complete payload size o = some s') (hlive : QueueLive s')
    (hsize : size ≠ 0) :
    if o.mallocItem then o.mallocPayload = true ∧ (Inserted s o → o.lock.unlock = true)
    else ¬ Inserted s o := by
  have hnull : s.nextItem ≠ 0 := pointer_ne_zero h.blocks.pointers.1
  unfold deviceTwinCallback at hs
  rw [if_neg hsize] at hs
  cases hitem : o.mallocItem with
  | false =>
      -- a pointer to no item: it must not get in
      rw [hitem] at hs
      simp only [initUpdateTwinTaskItem, if_true] at hs
      rw [if_neg Bool.false_ne_true]
      intro hin
      rcases push_cases s o 0 with ⟨-, hitems, -⟩ | ⟨hnot, -⟩
      · have hmem : (⟨0, sizeofUpdateTwinTaskItem⟩ : QueueItem Addr)
            ∈ (SyncQueue.pushBack o.lock o.mon o.push s.monitor s.queue 0
              sizeofUpdateTwinTaskItem).2.2.items := by rw [hitems]; simp
        split at hs <;> obtain rfl := Option.some.inj hs <;> exact (hlive _ hmem).1 rfl
      · exact hnot hin
  | true =>
      rw [if_pos rfl]
      rw [hitem] at hs
      cases hpayload : o.mallocPayload with
      | false =>
          -- a pointer to an item that is gone: it gets in, or is freed once more
          rw [hpayload, initItem_no_payload h.blocks.nextItem_none] at hs
          dsimp only at hs
          have hgone : ∀ (m' : μ) (q' : MeteredQueue Addr), deinitUpdateTwinTaskItem
              ({ s with nextItem := s.nextItem + 1, monitor := m', queue := q' } :
                TwinUpdates ρ τ μ) s.nextItem = none :=
            fun _ _ => deinitItem_of_none h.blocks.nextItem_none
          split at hs
          · rename_i hr
            obtain rfl := Option.some.inj hs
            rcases push_cases s o s.nextItem with ⟨-, hitems, -⟩ | ⟨-, -, hne⟩
            · exact absurd h.blocks.nextItem_none (hlive ⟨s.nextItem, sizeofUpdateTwinTaskItem⟩ (by
                show _ ∈ (SyncQueue.pushBack _ _ _ _ _ _ _).2.2.items
                rw [hitems]
                simp)).2
            · exact absurd hr hne
          · rw [hgone] at hs
            exact absurd hs (by simp)
      | true =>
          refine ⟨rfl, fun hin => ?_⟩
          -- an item in the queue: it must not be freed
          rw [hpayload, initItem_ok] at hs
          dsimp only at hs
          rcases push_cases s o s.nextItem with ⟨-, hitems, hr⟩ | ⟨hnot, -⟩
          · cases hu : o.lock.unlock with
            | true => rfl
            | false =>
                rw [hu, if_pos rfl] at hr
                rw [hr, if_neg (by simp), if_neg hnull,
                  deinitItem_of_blocks (c := ⟨s.nextItem, complete, s.nextPayload, payload⟩)
                    (h.blocks.alloc complete payload)] at hs
                obtain rfl := Option.some.inj hs
                refine absurd ?_ (hlive ⟨s.nextItem, sizeofUpdateTwinTaskItem⟩ (by
                  show _ ∈ (SyncQueue.pushBack _ _ _ _ _ _ _).2.2.items
                  rw [hitems]
                  simp)).2
                exact Function.update_self ..
          · exact absurd hin hnot

variable (update : υ → Option ρ → Bool → τ → TwinConfigurationResult × τ)

/-- A callback that leaves one owner is made, and keeps the ownership. -/
theorem callback_single {s : TwinUpdates ρ τ μ} {cells : List (Cell ρ)} (h : Owned s cells)
    (complete : Bool) (payload : ρ) {size : Nat} {o : CallbackOutcome μ}
    (hone : SingleOwner s
      (.traffic (.callback complete payload size o) : TwinCall ρ υ μ)) :
    ∃ s' cells', deviceTwinCallback s complete payload size o = some s' ∧ Owned s' cells' := by
  by_cases hsize : size = 0
  · exact ⟨s, cells, by unfold deviceTwinCallback; rw [if_pos hsize], h⟩
  · have hone := hone hsize
    cases hitem : o.mallocItem with
    | false =>
        -- no item: the callback goes on with a null pointer, which the queue must refuse
        rw [hitem, if_neg Bool.false_ne_true] at hone
        obtain ⟨s', hs, h'⟩ := callback_no_item h complete payload hitem hone
        exact ⟨s', cells, hs, h'⟩
    | true =>
        rw [hitem, if_pos rfl] at hone
        obtain ⟨s', hs, -, ⟨-, h'⟩ | ⟨-, h'⟩⟩ :=
          callback_owned h complete payload hsize hitem hone.1 hone.2
        · exact ⟨s', _, hs, h'⟩
        · exact ⟨s', _, hs, h'⟩

/-- **A call that leaves one owner is made**, and keeps the ownership. -/
theorem step_single {s : TwinUpdates ρ τ μ} {cells : List (Cell ρ)} (h : Owned s cells)
    {call : TwinCall ρ υ μ} (hone : SingleOwner s call) :
    ∃ out s', step update s call = some (out, s') ∧ Fine s call out s'
      ∧ ∃ cells', Owned s' cells' := by
  cases call with
  | traffic t =>
      cases t with
      | callback complete payload size o =>
          obtain ⟨s', cells', hs, h'⟩ := callback_single h complete payload hone
          exact ⟨false, s', by simp only [step, hs, Option.map_some],
            ⟨h'.live, fun _ he => absurd he (by simp)⟩, cells', h'⟩
      | execute mon environment =>
          cases cells with
          | nil =>
              exact ⟨false, s, execute_nil h update mon environment,
                ⟨h.live, fun _ he => absurd he (by simp)⟩, [], h⟩
          | cons c cells =>
              obtain ⟨reports, s', hs, h', -⟩ := execute_cons h update mon environment
              exact ⟨reports, s', hs, ⟨h'.live, fun _ he => absurd he (by simp)⟩, cells, h'⟩
  | deinit mon =>
      -- the queue is empty, so no cell is left for the loop to free
      have hempty : s.queue.items = [] := hone
      have hcells : cells = [] := by
        have hq := h.queue
        rw [hempty] at hq
        exact List.map_eq_nil_iff.mp hq.symm
      subst hcells
      refine ⟨false, s, ?_, ⟨h.live, fun _ _ => h.allFreed⟩, [], h⟩
      simp only [step, deinit, hempty, deinitLoop, Option.map_some]

/-- A call that is made and after which the queue is sound left one owner. -/
theorem step_back {s s' : TwinUpdates ρ τ μ} {cells : List (Cell ρ)} (h : Owned s cells)
    {call : TwinCall ρ υ μ} {out : Bool} (hs : step update s call = some (out, s'))
    (hlive : QueueLive s') : SingleOwner s call := by
  cases call with
  | traffic t =>
      cases t with
      | callback complete payload size o =>
          intro hsize
          simp only [step, Option.map_eq_some_iff] at hs
          obtain ⟨s₁, hs, he⟩ := hs
          obtain ⟨-, rfl⟩ := Prod.mk.inj he
          exact callback_back h hs hlive hsize
      | execute mon environment => trivial
  | deinit mon =>
      cases cells with
      | nil => exact h.queue
      | cons c cells =>
          -- the end of the task would read the state of the front item as a pointer
          simp only [step, deinit_cons h mon] at hs
          exact absurd hs (by simp)

/--
**Every item has one owner, exactly while the calls leave it one.**

Whatever callbacks and rounds of the task come before its end: no call follows or frees a
pointer that is not live, the queue never holds one, and everything allocated has been freed in the
end, exactly when no call is made that `SingleOwner` excludes.
-/
theorem items_owned_once_iff (m : μ) (twin : τ) (traffic : List (TwinTraffic ρ υ μ))
    (mon : MonitorCalls μ) :
    EveryStep (step update) Fine (init m twin) (traffic.map .traffic ++ [.deinit mon])
      ↔ Along (step update) SingleOwner (init m twin) (traffic.map .traffic ++ [.deinit mon]) := by
  refine everyStep_iff_along (I := fun s => ∃ cells, Owned s cells) ?_ ?_ ⟨[], init_owned m twin⟩
  · rintro s call ⟨cells, h⟩ hone
    exact step_single update h hone
  · rintro s call out s' ⟨cells, h⟩ hs ⟨hlive, -⟩
    exact step_back update h hs hlive

/-- A monitor that grants everything, and an update that does nothing. -/
def idleUpdate : Unit → Option Unit → Bool → Unit → TwinConfigurationResult × Unit :=
  fun _ _ _ _ => (.ok, ())

/-- **An update still queued when the task ends brings the agent down.** -/
theorem queued_update_faults :
    ¬ EveryStep (step idleUpdate) Fine (init () ())
      [.traffic (.callback true () 2 ⟨true, true, .ok, .granting, ⟨true, true, true⟩⟩),
        .deinit .granting] := by
  rintro ⟨_, _, hs, -, _, _, hd, -⟩
  obtain ⟨-, rfl⟩ := Prod.mk.inj (Option.some.inj hs)
  exact absurd hd (by rw [show step idleUpdate _ (.deinit .granting) = none from rfl]; simp)

end UpdateTwinTask

end SecurityAgent
