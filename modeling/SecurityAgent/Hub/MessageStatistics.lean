import Mathlib.Algebra.Order.Group.Nat
import Mathlib.Algebra.Order.Pi
import SecurityAgent.Hub.IoTHubAdapter
import SecurityAgent.Lib.Ledger

/-!
# Where message counts get lost

The counts of accepted, small and undelivered messages live in the adapter, and
initializing the adapter clears it. So a rebuild takes the counts since the last
snapshot with it. While a client is destroyed the counter has no lock, and what the
SDK reports then as undelivered is not counted either; nor is anything whose lock
cannot be taken.
-/

namespace SecurityAgent

open Machine Ledger

/-- A count for each field. -/
abbrev MessageTally := MessageField → Nat

/-- What an event adds to the counts. -/
def HubEvent.occurred : HubEvent → MessageTally
  | .accepted dataSize =>
      (if dataSize < MESSAGE_BILLING_MULTIPLE then Pi.single .smallMessages 1 else 0)
        + Pi.single .sentMessages 1
  | .notDelivered => Pi.single .failedMessages 1
  | .client _ | .snapshot _ => 0

/-- What a counter holds. -/
def MessageCounter.tally (c : MessageCounter) : MessageTally := fun field => (c.get field).toNat

@[simp] theorem MessageCounter.tally_zero : zero.tally = 0 := by
  funext field
  rw [tally, get_zero]
  rfl

/-- What a snapshot returns. -/
def HubEvent.returned : HubEvent → MessageTally
  | .snapshot counter => counter.tally
  | .client _ | .accepted _ | .notDelivered => 0

/-- All counts that have been due. -/
def occurred (es : List HubEvent) : MessageTally := (es.map HubEvent.occurred).sum

/-- All counts that have been returned. -/
def returned (es : List HubEvent) : MessageTally := (es.map HubEvent.returned).sum

theorem occurred_append (es es' : List HubEvent) :
    occurred (es ++ es') = occurred es + occurred es' := by
  simp [occurred]

theorem returned_append (es es' : List HubEvent) :
    returned (es ++ es') = returned es + returned es' := by
  simp [returned]

theorem occurred_flatten (ess : List (List HubEvent)) :
    occurred ess.flatten = (ess.map occurred).sum := by
  induction ess with
  | nil => rfl
  | cons es ess ih => rw [List.flatten_cons, occurred_append, ih, List.map_cons, List.sum_cons]

theorem returned_flatten (ess : List (List HubEvent)) :
    returned ess.flatten = (ess.map returned).sum := by
  induction ess with
  | nil => rfl
  | cons es ess ih => rw [List.flatten_cons, returned_append, ih, List.map_cons, List.sum_cons]

/-- From one counter to another, with these events in between; nothing is lost exactly if `C`. -/
def Books (C : Prop) (c : SyncedMessageCounter) (es : List HubEvent) (c' : SyncedMessageCounter) :
    Prop :=
  Entry C c.counter.tally (occurred es) (returned es) c'.counter.tally

theorem Books.append {C C' : Prop} {c c' c'' : SyncedMessageCounter} {es es' : List HubEvent}
    (h : Books C c es c') (h' : Books C' c' es' c'') : Books (C ∧ C') c (es ++ es') c'' := by
  unfold Books
  rw [occurred_append, returned_append]
  exact Entry.trans h h'

/-- Events that have nothing to do with counts. -/
theorem books_rest {c c' : SyncedMessageCounter} {es : List HubEvent} (h : c'.counter = c.counter)
    (hes : ∀ e ∈ es, ∃ call, e = .client call) : Books True c es c' := by
  have hzero : occurred es = 0 ∧ returned es = 0 := by
    induction es with
    | nil => exact ⟨rfl, rfl⟩
    | cons e es ih =>
        obtain ⟨call, rfl⟩ := hes e List.mem_cons_self
        obtain ⟨ho, hr⟩ := ih fun e he => hes e (List.mem_cons_of_mem _ he)
        exact ⟨(zero_add _).trans ho, (zero_add _).trans hr⟩
  unfold Books
  rw [hzero.1, hzero.2, h]
  exact Entry.rest _

/-- Nothing happens. -/
theorem books_nothing (c : SyncedMessageCounter) : Books True c [] c :=
  books_rest rfl fun _ h => absurd h List.not_mem_nil

/-- Books are kept field by field. -/
theorem books_of_fields {C : Prop} {c c' : SyncedMessageCounter} {es : List HubEvent}
    (hle : ∀ field, returned es field + (c'.counter.get field).toNat
      ≤ (c.counter.get field).toNat + occurred es field)
    (hexact : (∀ field, returned es field + (c'.counter.get field).toNat
      = (c.counter.get field).toNat + occurred es field) ↔ C) : Books C c es c' :=
  ⟨hle, funext_iff.trans hexact⟩

/-- Clearing a counter loses what it holds. -/
theorem books_clear (c : SyncedMessageCounter) {c' : SyncedMessageCounter} (h : c'.counter = .zero) :
    Books (c.counter = .zero) c [] c' := by
  have hfields : ∀ field, returned [] field + (c'.counter.get field).toNat = 0 := by
    intro field
    rw [h, MessageCounter.get_zero]
    rfl
  refine books_of_fields (fun field => (hfields field).trans_le (Nat.zero_le _)) ⟨?_, ?_⟩
  · intro heq
    have hzero : ∀ field, c.counter.get field = 0 := by
      intro field
      have hsum := (heq field).symm.trans (hfields field)
      exact UInt32.toNat_inj.mp (Nat.eq_zero_of_add_eq_zero_right hsum)
    obtain ⟨⟨sent, small, failed⟩, lock⟩ := c
    show MessageCounter.mk sent small failed = ⟨0, 0, 0⟩
    rw [MessageCounter.mk.injEq]
    exact ⟨hzero .sentMessages, hzero .smallMessages, hzero .failedMessages⟩
  · intro hc field
    rw [hfields field, hc, MessageCounter.get_zero]
    rfl

/-! ## Increments -/

namespace SyncedMessageCounter

/-- An increment counts: there is a lock, it can be taken, and the count does not wrap. -/
def Keeps (c : SyncedMessageCounter) (o : LockOutcome) (field : MessageField) : Prop :=
  c.lock = true ∧ o.lock = true ∧ (c.counter.get field).toNat + 1 < 2 ^ 32

theorem increaseBy_self (c : SyncedMessageCounter) (o : LockOutcome) (field : MessageField) :
    ((c.increaseBy o field).2.counter.get field).toNat ≤ (c.counter.get field).toNat + 1
      ∧ (((c.increaseBy o field).2.counter.get field).toNat = (c.counter.get field).toNat + 1
        ↔ c.Keeps o field) := by
  obtain ⟨counter, lock⟩ := c
  obtain ⟨olock, ounlock⟩ := o
  have hlt := (counter.get field).toNat_lt
  simp only [increaseBy, MessageCounter.get_set_self, AgentTelemetryCounter.increaseBy, answers,
    Keeps]
  cases lock with
  | false => simp
  | true =>
      cases olock with
      | false => simp
      | true =>
          simp only [Bool.and_self, Bool.true_eq_false, if_false, UInt32.toNat_add, true_and]
          show ((counter.get field).toNat + 1) % 2 ^ 32 ≤ _ ∧ (((counter.get field).toNat + 1) % 2 ^ 32
            = _ ↔ _)
          omega

theorem increaseBy_of_ne (c : SyncedMessageCounter) (o : LockOutcome) {field field' : MessageField}
    (h : field' ≠ field) : (c.increaseBy o field).2.counter.get field' = c.counter.get field' :=
  MessageCounter.get_set_of_ne _ _ h

/-- One increment: what is due is one, and it is lost unless it counts. -/
theorem increaseBy_entry (c : SyncedMessageCounter) (o : LockOutcome) (field : MessageField) :
    Entry (c.Keeps o field) c.counter.tally (Pi.single field 1) 0
      (c.increaseBy o field).2.counter.tally := by
  obtain ⟨hle, hexact⟩ := c.increaseBy_self o field
  have hother : ∀ field', field' ≠ field → (0 : MessageTally) field'
      + (c.increaseBy o field).2.counter.tally field'
      = c.counter.tally field' + (Pi.single field 1 : MessageTally) field' := by
    intro field' hne
    rw [Pi.single_eq_of_ne hne, Pi.zero_apply, Nat.zero_add, Nat.add_zero]
    exact congrArg UInt32.toNat (c.increaseBy_of_ne o hne)
  have hself : (0 : MessageTally) field + (c.increaseBy o field).2.counter.tally field
      = ((c.increaseBy o field).2.counter.get field).toNat := Nat.zero_add _
  have hone : c.counter.tally field + (Pi.single field 1 : MessageTally) field
      = (c.counter.get field).toNat + 1 := by
    rw [Pi.single_eq_same]
    rfl
  refine ⟨fun field' => ?_, funext_iff.trans ⟨fun h => ?_, fun h field' => ?_⟩⟩
  · by_cases hne : field' = field
    · subst hne
      exact hself.trans_le (hle.trans_eq hone.symm)
    · exact (hother field' hne).le
  · exact hexact.mp (hself.symm.trans ((h field).trans hone))
  · by_cases hne : field' = field
    · subst hne
      exact hself.trans ((hexact.mpr h).trans hone.symm)
    · exact hother field' hne

theorem increaseBy_unlocked {c : SyncedMessageCounter} (h : c.lock = false) (o : LockOutcome)
    (field : MessageField) : (c.increaseBy o field).2 = c := by
  obtain ⟨counter, lock⟩ := c
  cases h
  cases field <;> rfl

theorem keeps_increaseBy_of_ne (c : SyncedMessageCounter) (o o' : LockOutcome)
    {field field' : MessageField} (h : field' ≠ field) :
    (c.increaseBy o field).2.Keeps o' field' ↔ c.Keeps o' field' := by
  unfold Keeps
  rw [increaseBy_of_ne c o h]
  exact Iff.rfl

end SyncedMessageCounter

namespace IoTHubAdapter

/-- A callback is counted, if it should be. -/
def CallbackCounted (a : IoTHubAdapter) : HubCallback → Prop
  | .sendConfirm confirmed o => confirmed = false → a.messageCounter.Keeps o .failedMessages
  | .connectionStatus .. | .deviceTwin _ => True

/-- Each of them is, when it comes. -/
def CallbacksCounted : List HubCallback → IoTHubAdapter → Prop
  | [], _ => True
  | c :: cs, a => a.CallbackCounted c ∧ CallbacksCounted cs (a.callback c).2

theorem callback_books (a : IoTHubAdapter) (c : HubCallback) :
    Books (a.CallbackCounted c) a.messageCounter (a.callback c).1 (a.callback c).2.messageCounter := by
  cases c with
  | connectionStatus authenticated reason => exact books_nothing _
  | deviceTwin queued => exact books_nothing _
  | sendConfirm confirmed o =>
      cases confirmed with
      | true =>
          refine Entry.congr (books_nothing _) ?_
          exact ⟨fun _ h => absurd h (by simp), fun _ => trivial⟩
      | false =>
          refine Entry.congr (a.messageCounter.increaseBy_entry o .failedMessages) ?_
          exact ⟨fun h _ => h, fun h => h rfl⟩

theorem callbacks_books (cs : List HubCallback) :
    ∀ a : IoTHubAdapter, Books (CallbacksCounted cs a) a.messageCounter (callbacks cs a).1
      (callbacks cs a).2.messageCounter := by
  induction cs with
  | nil => intro a; exact books_nothing _
  | cons c cs ih => intro a; exact (a.callback_books c).append (ih (a.callback c).2)

/-- No message is reported as undelivered. -/
def AllConfirmed (cs : List HubCallback) : Prop := ∀ o, .sendConfirm false o ∉ cs

/-- Without a lock nothing is counted. -/
theorem callbacks_unlocked (cs : List HubCallback) :
    ∀ a : IoTHubAdapter, a.messageCounter.lock = false →
      (callbacks cs a).2.messageCounter = a.messageCounter
        ∧ (CallbacksCounted cs a ↔ AllConfirmed cs) := by
  induction cs with
  | nil => intro a _; exact ⟨rfl, fun _ _ h => absurd h List.not_mem_nil, fun _ => trivial⟩
  | cons c cs ih =>
      intro a hlock
      have hcallback : (a.callback c).2.messageCounter = a.messageCounter
          ∧ (a.CallbackCounted c ↔ ∀ o, c ≠ .sendConfirm false o) := by
        cases c with
        | connectionStatus authenticated reason => exact ⟨rfl, by simp [CallbackCounted]⟩
        | deviceTwin queued => exact ⟨rfl, by simp [CallbackCounted]⟩
        | sendConfirm confirmed o =>
            cases confirmed with
            | true => exact ⟨rfl, by simp [CallbackCounted]⟩
            | false =>
                refine ⟨SyncedMessageCounter.increaseBy_unlocked hlock o .failedMessages, ?_⟩
                refine iff_of_false (fun h => ?_) fun h => h o rfl
                exact absurd ((h rfl).1.symm.trans hlock) (by simp)
      obtain ⟨hsame, hcounted⟩ := hcallback
      obtain ⟨hsame', hcounted'⟩ := ih (a.callback c).2 (by rw [hsame]; exact hlock)
      refine ⟨hsame'.trans hsame, ?_⟩
      rw [CallbacksCounted, hcounted, hcounted']
      simp only [AllConfirmed, List.mem_cons, not_or, forall_and]
      exact and_congr_left fun _ => forall_congr' fun o => ne_comm

/-! ## The functions -/

/-- The counts of an accepted message are kept. -/
def AcceptedCounted (o : SendAnswer) (dataSize : Nat) (c : SyncedMessageCounter) : Prop :=
  (dataSize < MESSAGE_BILLING_MULTIPLE → c.Keeps o.smallMessagesLock .smallMessages)
    ∧ c.Keeps o.sentMessagesLock .sentMessages

theorem countAccepted_books (o : SendAnswer) (dataSize : Nat) (c : SyncedMessageCounter) :
    Books (AcceptedCounted o dataSize c) c [.accepted dataSize] (countAccepted o dataSize c) := by
  have hdue : occurred [.accepted dataSize]
      = (if dataSize < MESSAGE_BILLING_MULTIPLE then Pi.single .smallMessages 1 else 0)
        + Pi.single .sentMessages 1 := by
    simp [occurred, HubEvent.occurred]
  unfold Books countAccepted AcceptedCounted
  rw [hdue]
  split
  · rename_i hsmall
    -- the first increase does not change whether the second one is kept
    have hkeeps := c.keeps_increaseBy_of_ne o.smallMessagesLock o.sentMessagesLock
      (show MessageField.sentMessages ≠ .smallMessages by simp)
    refine Entry.congr ((c.increaseBy_entry _ _).trans (SyncedMessageCounter.increaseBy_entry _ _ _)) ?_
    rw [hkeeps]
    exact and_congr_left fun _ => ⟨fun h _ => h, fun h => h hsmall⟩
  · rename_i hsmall
    refine Entry.congr ((Entry.rest _).trans (c.increaseBy_entry _ _)) ?_
    exact and_congr_left fun _ => iff_of_true trivial fun h => absurd h hsmall

/-- If the message is accepted, its counts are kept. -/
def HandOverCounted (o : SendAnswer) (dataSize : Nat) (c : SyncedMessageCounter) : Prop :=
  o.createMessage = true → o.setAsSecurityMessage = true → o.sendEvent = true →
    AcceptedCounted o dataSize c

theorem clientCall_isClient (a : IoTHubAdapter) (function : ClientFunction) :
    ∀ e ∈ a.clientCall function, ∃ call, e = .client call := by
  intro e he
  unfold clientCall at he
  split at he
  · exact absurd he List.not_mem_nil
  · exact ⟨_, List.mem_singleton.mp he⟩

theorem handOver_books (o : SendAnswer) (dataSize : Nat) (s : Hub) :
    Books (HandOverCounted o dataSize s.adapter.messageCounter) s.adapter.messageCounter
      (handOver o dataSize s).2.1 (handOver o dataSize s).2.2.adapter.messageCounter := by
  unfold handOver
  split
  · rename_i h
    refine Entry.congr (books_nothing _) ?_
    refine iff_of_true trivial fun hcreate hset _ => ?_
    rcases h with h | h
    · exact absurd (h.symm.trans hcreate) (by simp)
    · exact absurd (h.symm.trans hset) (by simp)
  · rename_i h
    simp only [not_or, Bool.not_eq_false] at h
    have hcall : Books True s.adapter.messageCounter (s.adapter.clientCall .sendEventAsync)
        s.adapter.messageCounter := books_rest rfl (s.adapter.clientCall_isClient _)
    split
    · rename_i hsend
      refine Entry.congr hcall (iff_of_true trivial fun _ _ hsent => ?_)
      exact absurd (hsend.symm.trans hsent) (by simp)
    · rename_i hsend
      refine Entry.congr (hcall.append (countAccepted_books o dataSize _)) ?_
      rw [true_and]
      exact ⟨fun hc _ _ _ => hc, fun hc => hc h.1 h.2 (by simpa using hsend)⟩

/-- While a client is destroyed, nothing is counted. -/
theorem deinitInternal_books (destroy : List HubCallback) (a : IoTHubAdapter) :
    Books (a.moduleHandle ≠ none → AllConfirmed destroy) a.messageCounter
        (deinitInternal destroy a).1 (deinitInternal destroy a).2.messageCounter
      ∧ (deinitInternal destroy a).2.messageCounter.counter = a.messageCounter.counter := by
  obtain ⟨hsame, hcounted⟩ := callbacks_unlocked destroy
    { a with hubInitiated := false, messageCounter := a.messageCounter.deinit } rfl
  have hbooks := callbacks_books destroy
    { a with hubInitiated := false, messageCounter := a.messageCounter.deinit }
  unfold deinitInternal
  cases h : a.moduleHandle with
  | none =>
      refine ⟨Entry.congr (books_nothing _) ?_, rfl⟩
      exact iff_of_true trivial fun hn => absurd rfl hn
  | some handle =>
      rw [h] at hsame hcounted hbooks
      have hrelease : Books True a.messageCounter [.client (.release handle)]
          a.messageCounter.deinit := books_rest rfl fun e he => ⟨_, List.mem_singleton.mp he⟩
      refine ⟨Entry.congr (hrelease.append hbooks) ?_, ?_⟩
      · rw [true_and, hcounted]
        exact ⟨fun hc _ => hc, fun hc => hc (by simp)⟩
      · have hcounter := congrArg SyncedMessageCounter.counter hsame
        exact hcounter

theorem configure_books (handle : Nat) (calls : List (ClientFunction × Bool))
    (c : SyncedMessageCounter) :
    Books True c (.client (.acquire handle) :: (configure handle calls).2) c := by
  refine books_rest rfl fun e he => ?_
  rcases List.mem_cons.mp he with rfl | he
  · exact ⟨_, rfl⟩
  · obtain ⟨function, rfl⟩ := configure_uses handle calls e he
    exact ⟨_, rfl⟩

variable (conf : HubConfiguration)

/-- An initialization clears the counter. It loses nothing if the counter is clear, and nothing is
reported as undelivered while a client that could not be configured is destroyed. -/
def InitCounted (o : InitAnswer) (c : SyncedMessageCounter) : Prop :=
  c.counter = .zero
    ∧ (o.create = true → o.succeeds conf.useMqtt = false → AllConfirmed o.destroy)

theorem initInternal_books (o : InitAnswer) (q : Option Nat) (s : Hub) :
    Books (InitCounted conf o s.adapter.messageCounter) s.adapter.messageCounter
      (initInternal conf o q s).2.1 (initInternal conf o q s).2.2.adapter.messageCounter := by
  have hclear : ∀ lock, Books (s.adapter.messageCounter.counter = .zero) s.adapter.messageCounter
      [] ⟨.zero, lock⟩ := fun _ => books_clear _ rfl
  rcases initInternal_cases conf o q s with ⟨hcreate, hr⟩ | ⟨hcreate, hsucc, hr⟩ | ⟨hsucc, hr⟩
  · rw [hr]
    refine Entry.congr (hclear false) (iff_self_and.mpr fun _ h => ?_)
    exact absurd (hcreate.symm.trans h) (by simp)
  · rw [hr]
    have hdestroy := (deinitInternal_books o.destroy (made q s.nextHandle)).1
    refine Entry.congr (((hclear true).append (configure_books _ _ _)).append hdestroy) ?_
    rw [and_true]
    exact and_congr_right fun _ => ⟨fun h _ _ => h (by simp [made]), fun h _ => h hcreate hsucc⟩
  · rw [hr]
    refine Entry.congr ((hclear true).append (configure_books _ _ _)) ?_
    rw [and_true]
    refine iff_self_and.mpr fun _ _ h => ?_
    exact absurd (h.symm.trans hsucc) (by simp)

/-- A rebuild loses nothing: the counter is clear, nothing is reported as undelivered while clients
are destroyed, and what is reported while the new one connects is counted. -/
structure RebuildCounted (s : Hub) (o : SendAnswer) : Prop where
  destroy : s.adapter.moduleHandle ≠ none → AllConfirmed o.destroy
  init : InitCounted conf o.init s.adapter.messageCounter
  connect : o.init.succeeds conf.useMqtt = true →
    CallbacksCounted (arrivals conf.connectionTimeout 0 o.sleeps (rebuilt s)) (rebuilt s)

theorem reinit_books (o : SendAnswer) (s : Hub) :
    Books (RebuildCounted conf s o) s.adapter.messageCounter
      (reinit conf o s.adapter.twinUpdatesQueue s).2.1
      (reinit conf o s.adapter.twinUpdatesQueue s).2.2.adapter.messageCounter := by
  obtain ⟨es, a, r, hd, hr, hcases⟩ := reinit_cases conf o s.adapter.twinUpdatesQueue s
  obtain ⟨hdown, hsame⟩ := deinitInternal_books o.destroy s.adapter
  have hup := initInternal_books conf o.init s.adapter.twinUpdatesQueue { s with adapter := a }
  rw [hd] at hdown hsame
  rw [hr] at hup
  have hinit : InitCounted conf o.init a.messageCounter
      ↔ InitCounted conf o.init s.adapter.messageCounter := by
    unfold InitCounted
    rw [hsame]
  have hsucc := (initInternal_ready conf o.init s.adapter.twinUpdatesQueue { s with adapter := a }).2.1
  rw [hr] at hsucc
  rcases hcases with ⟨hfail, hre⟩ | ⟨hok, _, rfl, hre⟩
  · rw [hre]
    refine Entry.congr (hdown.append hup) ⟨fun h => ?_, fun h => ⟨h.destroy, hinit.mpr h.init⟩⟩
    refine ⟨h.1, hinit.mp h.2, fun hs => ?_⟩
    exact absurd (hfail.symm.trans (hsucc.trans hs)) (by simp)
  · have hrebuilt := initInternal_adapter conf s.adapter.twinUpdatesQueue { s with adapter := a }
      (hsucc.symm.trans hok)
    rw [hr] at hrebuilt
    have hwait := callbacks_books (arrivals conf.connectionTimeout 0 o.sleeps r.2.2.adapter)
      r.2.2.adapter
    rw [hre]
    refine Entry.congr ((hdown.append hup).append hwait) ?_
    rw [hrebuilt]
    refine ⟨fun h => ⟨h.1.1, hinit.mp h.1.2, fun _ => h.2⟩, fun h => ?_⟩
    exact ⟨⟨h.destroy, hinit.mpr h.init⟩, h.connect (hsucc.symm.trans hok)⟩

/-- A message loses no count: those there are, if it rebuilds the adapter, and its own. -/
structure SendCounted (s : Hub) (o : SendAnswer) (dataSize : Nat) : Prop where
  connected : ¬ Disconnected conf s → HandOverCounted o dataSize s.adapter.messageCounter
  rebuild : Disconnected conf s → o.tryRenew = true → RebuildCounted conf s o
  rebuilt : Disconnected conf s → o.tryRenew = true → o.init.succeeds conf.useMqtt = true →
    (connect conf.connectionTimeout o.sleeps (rebuilt s)).1 = true →
    HandOverCounted o dataSize
      (connect conf.connectionTimeout o.sleeps (IoTHubAdapter.rebuilt s)).2.2.messageCounter

/-- A rebuild succeeds if its initialization does and the new client connects. -/
theorem reinit_eq_true_iff {o : SendAnswer} {s s' : Hub} {es : List HubEvent} {result : Bool}
    (h : reinit conf o s.adapter.twinUpdatesQueue s = (result, es, s')) :
    (result = true ↔ o.init.succeeds conf.useMqtt = true
        ∧ (connect conf.connectionTimeout o.sleeps (rebuilt s)).1 = true)
      ∧ (result = true →
        s'.adapter = (connect conf.connectionTimeout o.sleeps (rebuilt s)).2.2) := by
  obtain ⟨es, a, r, -, hr, hcases⟩ := reinit_cases conf o s.adapter.twinUpdatesQueue s
  have hsucc := (initInternal_ready conf o.init s.adapter.twinUpdatesQueue { s with adapter := a }).2.1
  rw [hr] at hsucc
  rcases hcases with ⟨hfail, hre⟩ | ⟨hok, _, rfl, hre⟩
  · obtain ⟨rfl, -, -⟩ := Prod.mk.inj (hre.symm.trans h)
    refine ⟨iff_of_false (by simp) fun hs => ?_, fun hs => absurd hs (by simp)⟩
    exact absurd (hfail.symm.trans (hsucc.trans hs.1)) (by simp)
  · have hrebuilt := initInternal_adapter conf s.adapter.twinUpdatesQueue { s with adapter := a }
      (hsucc.symm.trans hok)
    rw [hr] at hrebuilt
    rw [hrebuilt] at hre
    obtain ⟨rfl, hrest⟩ := Prod.mk.inj (hre.symm.trans h)
    obtain ⟨-, rfl⟩ := Prod.mk.inj hrest
    exact ⟨⟨fun hs => ⟨hsucc.symm.trans hok, hs⟩, And.right⟩, fun _ => rfl⟩

theorem sendMessageAsync_books (o : SendAnswer) (dataSize : Nat) (s : Hub) :
    Books (Admits s o → SendCounted conf s o dataSize) s.adapter.messageCounter
      (sendMessageAsync conf o dataSize s).2.1
      (sendMessageAsync conf o dataSize s).2.2.adapter.messageCounter := by
  have hreinit := reinit_books conf o s
  rcases sendMessageAsync_cases conf o dataSize s with
    ⟨hnot, hs⟩ | ⟨ha, hconn, hs⟩ | ⟨ha, hd, ht, es, s', hre, hs⟩ | ⟨ha, hd, ht, es, s', hre, hs⟩
  · rw [hs]
    refine Entry.congr (books_nothing _) ?_
    refine iff_of_true trivial fun ha => ⟨fun hconn => ?_, fun hd ht => ?_, fun hd ht => ?_⟩
    · exact absurd ⟨ha, fun hd => absurd hd hconn⟩ hnot
    · exact absurd ⟨ha, fun _ => ht⟩ hnot
    · exact absurd ⟨ha, fun _ => ht⟩ hnot
  · -- connected: the message is handed over as it is
    rw [hs]
    refine Entry.congr (handOver_books o dataSize s) ⟨fun h _ => ?_, fun h => (h ha).connected hconn⟩
    exact ⟨fun _ => h, fun hd => absurd hd hconn, fun hd => absurd hd hconn⟩
  · -- the rebuild fails, so the message counts for nothing
    obtain ⟨hresult, -⟩ := reinit_eq_true_iff conf hre
    rw [hre] at hreinit
    rw [hs]
    refine Entry.congr hreinit ⟨fun h _ => ?_, fun h => (h ha).rebuild hd ht⟩
    refine ⟨fun hconn => absurd hd hconn, fun _ _ => h, fun _ _ hsucc hconnect => ?_⟩
    exact absurd (hresult.mpr ⟨hsucc, hconnect⟩) (by simp)
  · -- the rebuild succeeds, and the message is handed over by the rebuilt adapter
    obtain ⟨hresult, hadapter⟩ := reinit_eq_true_iff conf hre
    obtain ⟨hsucc, hconnect⟩ := hresult.mp rfl
    rw [hre] at hreinit
    rw [hs]
    refine Entry.congr (Books.append hreinit (handOver_books o dataSize s')) ?_
    rw [hadapter rfl]
    constructor
    · rintro ⟨hrebuild, hover⟩ _
      exact ⟨fun hconn => absurd hd hconn, fun _ _ => hrebuild, fun _ _ _ _ => hover⟩
    · intro h
      exact ⟨(h ha).rebuild hd ht, (h ha).rebuilt hd ht hsucc hconnect⟩

/-- A snapshot is returned whenever the counter is reset, or there is nothing to reset. -/
def SnapshotCounted (c : SyncedMessageCounter) (o : LockOutcome) : Prop :=
  c.lock = true → o.lock = true → o.unlock = false → c.counter = .zero

theorem snapshot_books (c : SyncedMessageCounter) (o : LockOutcome) :
    Books (SnapshotCounted c o) c
      (if (c.snapshotAndReset o).1 then [.snapshot (c.snapshotAndReset o).2.1] else [])
      (c.snapshotAndReset o).2.2 := by
  obtain ⟨counter, lock⟩ := c
  obtain ⟨olock, ounlock⟩ := o
  have hrest : Books True ⟨counter, lock⟩ [] ⟨counter, lock⟩ :=
    books_nothing _
  cases lock with
  | false => exact Entry.congr hrest (iff_of_true trivial fun h => absurd h (by simp))
  | true =>
      cases olock with
      | false => exact Entry.congr hrest (iff_of_true trivial fun _ h => absurd h (by simp))
      | true =>
          cases ounlock with
          | false =>
              -- the counter is reset, but the caller gets no snapshot
              refine Entry.congr (books_clear _ rfl) ?_
              exact ⟨fun h _ _ _ => h, fun h => h rfl rfl rfl⟩
          | true =>
              have hbalance : returned [.snapshot counter] + MessageCounter.zero.tally
                  = counter.tally + occurred [.snapshot counter] := by
                simp [returned, occurred, HubEvent.returned, HubEvent.occurred,
                  MessageCounter.tally_zero]
              exact Entry.congr ⟨hbalance.le, iff_of_true hbalance trivial⟩
                (iff_of_true trivial fun _ _ h => absurd h (by simp))

/-- A call loses no count. -/
def Counted (s : Hub) : HubCall → Prop
  | .init lockInit lock o _ =>
      lockInit = true → lock.lock = true → InitCounted conf o s.adapter.messageCounter
  | .deinit lock destroy =>
      s.iotHubAdapterLock = true → lock.lock = true → s.adapter.moduleHandle ≠ none →
        AllConfirmed destroy
  | .traffic (.sendMessageAsync dataSize o) => Admits s o → SendCounted conf s o dataSize
  | .traffic (.setReportedPropertiesAsync ..) => True
  | .traffic (.callback c) => s.adapter.CallbackCounted c
  | .traffic (.snapshotAndReset o) => SnapshotCounted s.adapter.messageCounter o

theorem step_books (s : Hub) (c : HubCall) :
    Books (Counted conf s c) s.adapter.messageCounter (step conf s c).1
      (step conf s c).2.adapter.messageCounter := by
  cases c with
  | init lockInit lock o q =>
      show Books _ _ (init conf lockInit lock o q s).2.1 (init conf lockInit lock o q s).2.2.adapter.messageCounter
      rcases init_cases conf lockInit lock o q s with ⟨hlock, hi⟩ | ⟨hlockInit, hlock, hi⟩
      · rw [hi]
        refine Entry.congr (books_nothing _) ?_
        refine iff_of_true trivial fun h h' => ?_
        rcases hlock with hlock | hlock
        · exact absurd (hlock.symm.trans h) (by simp)
        · exact absurd (hlock.symm.trans h') (by simp)
      · rw [hi]
        refine Entry.congr (initInternal_books conf o q { s with iotHubAdapterLock := lockInit }) ?_
        exact ⟨fun h _ _ => h, fun h => h hlockInit hlock⟩
  | deinit lock destroy =>
      show Books _ _ (deinit lock destroy s).1 (deinit lock destroy s).2.adapter.messageCounter
      unfold deinit
      split
      · rename_i hlock
        refine Entry.congr (books_nothing _) ?_
        refine iff_of_true trivial fun h h' => ?_
        rcases hlock with hlock | hlock
        · exact absurd (hlock.symm.trans h) (by simp)
        · exact absurd (hlock.symm.trans h') (by simp)
      · rename_i hlock
        simp only [not_or, Bool.not_eq_false] at hlock
        refine Entry.congr (deinitInternal_books destroy s.adapter).1 ?_
        exact ⟨fun h _ _ => h, fun h => h hlock.1 hlock.2⟩
  | traffic t =>
      cases t with
      | sendMessageAsync dataSize o => exact sendMessageAsync_books conf o dataSize s
      | callback c => exact s.adapter.callback_books c
      | snapshotAndReset o => exact snapshot_books s.adapter.messageCounter o
      | setReportedPropertiesAsync reportedData sendReportedState =>
          refine books_rest rfl fun e he => ?_
          cases reportedData with
          | false => exact absurd he List.not_mem_nil
          | true => exact s.adapter.clientCall_isClient _ e he

/-! ## Every run -/

/-- What a run lets be seen, in order. -/
def hubTrace (calls : List HubCall) : List HubEvent :=
  (runTotal (step conf) Hub.init calls).1.flatten

/--
**When message statistics survive**, over every run and whatever the SDK answers: what the
snapshots have returned and the counter still holds is what has been accepted, small or not
delivered exactly if no call has lost a count. A rebuild loses whatever the counter holds.
-/
theorem statistics_survive_iff (calls : List HubCall) :
    (∀ field, returned (hubTrace conf calls) field
        + ((runTotal (step conf) Hub.init calls).2.adapter.messageCounter.counter.get field).toNat
      = occurred (hubTrace conf calls) field)
      ↔ Along (total (step conf)) (Counted conf) Hub.init calls := by
  have hentry := runTotal_entry (fun s : Hub => s.adapter.messageCounter.counter.tally) occurred
    returned (step_books conf) calls Hub.init
  have hrun := hentry.exact
  have hzero : Hub.init.adapter.messageCounter.counter.tally = 0 := MessageCounter.tally_zero
  rw [hzero, zero_add, ← occurred_flatten, ← returned_flatten, funext_iff] at hrun
  exact hrun

/-- **A rebuild loses a count**: that of the message accepted before the connection was lost. -/
theorem rebuild_loses_count :
    ¬ ∀ field, returned (hubTrace ⟨true, true, 1000⟩
          [.init true .ok .ok none, .traffic (.callback (.connectionStatus true .ok)),
            .traffic (.sendMessageAsync 100 .ok),
            .traffic (.callback (.connectionStatus false .noNetwork)),
            .traffic (.sendMessageAsync 100 .ok)]) field
        + ((runTotal (step ⟨true, true, 1000⟩) Hub.init
          [.init true .ok .ok none, .traffic (.callback (.connectionStatus true .ok)),
            .traffic (.sendMessageAsync 100 .ok),
            .traffic (.callback (.connectionStatus false .noNetwork)),
            .traffic (.sendMessageAsync 100 .ok)]).2.adapter.messageCounter.counter.get
          field).toNat
      = occurred (hubTrace ⟨true, true, 1000⟩
          [.init true .ok .ok none, .traffic (.callback (.connectionStatus true .ok)),
            .traffic (.sendMessageAsync 100 .ok),
            .traffic (.callback (.connectionStatus false .noNetwork)),
            .traffic (.sendMessageAsync 100 .ok)]) field :=
  fun h => absurd (h .sentMessages) (by decide +kernel)

end IoTHubAdapter

end SecurityAgent
