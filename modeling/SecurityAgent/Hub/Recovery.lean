import SecurityAgent.Hub.IoTHubAdapter
import SecurityAgent.Lib.Run

/-!
# Getting over a failed rebuild

A message that finds the adapter disconnected rebuilds it. If the connection string
cannot be renewed, or the rebuilt client does not connect in time, the next message
tries again. But if the initialization itself fails, `hubInitiated` is left `false`,
every later message is turned away because of it, and nothing sets it again.
-/

namespace SecurityAgent

open Machine

namespace IoTHubAdapter

variable (conf : HubConfiguration)

/-- Every call of the SDK and the authentication succeeds: if the adapter is rebuilt, the
connection string is renewed, the initialization succeeds, and the client connects and gets its
twin within the timeout. -/
structure AllSucceed (s : Hub) (o : SendAnswer) : Prop where
  lock : o.lock = .ok
  renew : Disconnected conf s → o.tryRenew = true
  init : Disconnected conf s → o.init.succeeds conf.useMqtt = true
  connect : Disconnected conf s → (connect conf.connectionTimeout o.sleeps (rebuilt s)).1 = true
  createMessage : o.createMessage = true
  setAsSecurityMessage : o.setAsSecurityMessage = true
  sendEvent : o.sendEvent = true

/-- A message for which every call succeeds is sent. -/
def Recoverable (s : Hub) : Prop :=
  ∀ dataSize o, AllSucceed conf s o → (sendMessageAsync conf o dataSize s).1 = true

/-- If the message rebuilds the adapter, its initialization succeeds. -/
def RebuildInitializes (s : Hub) : HubTraffic → Prop
  | .sendMessageAsync _ o =>
      Admits s o → Disconnected conf s → o.tryRenew = true → o.init.succeeds conf.useMqtt = true
  | .setReportedPropertiesAsync .. | .callback _ | .snapshotAndReset _ => True

/-- The adapter accepts messages. -/
def Ready (s : Hub) : Prop := s.iotHubAdapterLock = true ∧ s.adapter.hubInitiated = true

/-- The adapter turns all messages away. -/
def Dead (s : Hub) : Prop := s.iotHubAdapterLock = true ∧ s.adapter.hubInitiated = false

/-! ## What the functions do to `hubInitiated` -/

/-- A rebuild leaves `hubInitiated` as the success of its initialization, whether or not it then connects. -/
theorem reinit_ready (o : SendAnswer) (q : Option Nat) (s : Hub) :
    (reinit conf o q s).2.2.adapter.hubInitiated = o.init.succeeds conf.useMqtt
      ∧ (reinit conf o q s).2.2.iotHubAdapterLock = s.iotHubAdapterLock := by
  obtain ⟨es, a, r, -, hr, hcases⟩ := reinit_cases conf o q s
  obtain ⟨hinit, -, hlock⟩ := initInternal_ready conf o.init q { s with adapter := a }
  rw [hr] at hinit hlock
  rcases hcases with ⟨-, hre⟩ | ⟨-, _, rfl, hre⟩
  · rw [hre]
    exact ⟨hinit, hlock⟩
  · rw [hre]
    exact ⟨(callbacks_frame _ _).2.trans hinit, hlock⟩

theorem handOver_ready (o : SendAnswer) (dataSize : Nat) (s : Hub) :
    (handOver o dataSize s).2.2.adapter.hubInitiated = s.adapter.hubInitiated
      ∧ (handOver o dataSize s).2.2.iotHubAdapterLock = s.iotHubAdapterLock := by
  unfold handOver
  split
  · exact ⟨rfl, rfl⟩
  · split
    · exact ⟨rfl, rfl⟩
    · exact ⟨rfl, rfl⟩

/-! ## One call -/

/-- A message to an adapter that is ready leaves it ready, unless it rebuilds it and the
initialization fails. -/
theorem Ready.sendMessageAsync {s : Hub} (h : Ready s) (dataSize : Nat) (o : SendAnswer) :
    (RebuildInitializes conf s (.sendMessageAsync dataSize o) →
        Ready (sendMessageAsync conf o dataSize s).2.2)
      ∧ (¬ RebuildInitializes conf s (.sendMessageAsync dataSize o) →
        Dead (sendMessageAsync conf o dataSize s).2.2) := by
  rcases sendMessageAsync_cases conf o dataSize s with
    ⟨hnot, hs⟩ | ⟨-, hconn, hs⟩ | ⟨ha, hd, ht, es, s', hre, hs⟩ | ⟨ha, hd, ht, es, s', hre, hs⟩
  · rw [hs]
    refine ⟨fun _ => h, fun hn => absurd (fun ha hd ht => ?_) hn⟩
    exact absurd ⟨ha, fun _ => ht⟩ hnot
  · rw [hs]
    obtain ⟨hinit, hlock⟩ := handOver_ready o dataSize s
    exact ⟨fun _ => ⟨hlock.trans h.1, hinit.trans h.2⟩,
      fun hn => absurd (fun _ hd _ => absurd hd hconn) hn⟩
  · -- the rebuild fails; whether its initialization did decides which of the two is left
    obtain ⟨hinit, hlock⟩ := reinit_ready conf o s.adapter.twinUpdatesQueue s
    rw [hre] at hinit hlock
    rw [hs]
    refine ⟨fun hc => ⟨hlock.trans h.1, hinit.trans (hc ha hd ht)⟩, fun hn => ?_⟩
    refine ⟨hlock.trans h.1, hinit.trans ?_⟩
    exact Bool.eq_false_iff.mpr fun hsucc => hn fun _ _ _ => hsucc
  · obtain ⟨hinit, hlock⟩ := reinit_ready conf o s.adapter.twinUpdatesQueue s
    obtain ⟨hinit', hlock'⟩ := handOver_ready o dataSize s'
    rw [hre] at hinit hlock
    rw [hs]
    refine ⟨fun hc => ⟨hlock'.trans (hlock.trans h.1), hinit'.trans (hinit.trans (hc ha hd ht))⟩,
      fun hn => ⟨hlock'.trans (hlock.trans h.1), hinit'.trans (hinit.trans ?_)⟩⟩
    exact Bool.eq_false_iff.mpr fun hsucc => hn fun _ _ _ => hsucc

/-- Messages to a dead adapter do nothing. -/
theorem Dead.sendMessageAsync {s : Hub} (h : Dead s) (dataSize : Nat) (o : SendAnswer) :
    IoTHubAdapter.sendMessageAsync conf o dataSize s = (false, [], s) := by
  have hnot : ¬ Admits s o := fun ha => absurd (h.2.symm.trans ha.2.2) (by simp)
  rcases sendMessageAsync_cases conf o dataSize s with ⟨-, hs⟩ | ⟨ha, -⟩ | ⟨ha, -⟩ | ⟨ha, -⟩
  · exact hs
  · exact absurd ha hnot
  · exact absurd ha hnot
  · exact absurd ha hnot

/-- One call between initialization and teardown. -/
theorem Ready.serve {s : Hub} (h : Ready s) (t : HubTraffic) :
    (RebuildInitializes conf s t → Ready (serve conf s t).2)
      ∧ (¬ RebuildInitializes conf s t → Dead (IoTHubAdapter.serve conf s t).2) := by
  cases t with
  | sendMessageAsync dataSize o => exact h.sendMessageAsync conf dataSize o
  | setReportedPropertiesAsync reportedData sendReportedState =>
      exact ⟨fun _ => h, fun hn => absurd trivial hn⟩
  | callback c =>
      exact ⟨fun _ => ⟨h.1, (callback_frame s.adapter c).2.trans h.2⟩, fun hn => absurd trivial hn⟩
  | snapshotAndReset o => exact ⟨fun _ => h, fun hn => absurd trivial hn⟩

theorem Dead.serve {s : Hub} (h : Dead s) (t : HubTraffic) : Dead (serve conf s t).2 := by
  cases t with
  | sendMessageAsync dataSize o =>
      show Dead (IoTHubAdapter.sendMessageAsync conf o dataSize s).2.2
      rw [h.sendMessageAsync]
      exact h
  | setReportedPropertiesAsync reportedData sendReportedState => exact h
  | callback c => exact ⟨h.1, (callback_frame s.adapter c).2.trans h.2⟩
  | snapshotAndReset o => exact h

/-! ## A message for which all succeeds -/

theorem handOver_succeeds {o : SendAnswer} (dataSize : Nat) (s : Hub)
    (hcreate : o.createMessage = true) (hset : o.setAsSecurityMessage = true)
    (hsend : o.sendEvent = true) : (handOver o dataSize s).1 = true := by
  simp [handOver, hcreate, hset, hsend]

/-- A rebuild whose initialization succeeds connects as the rebuilt adapter does. -/
theorem reinit_connects {o : SendAnswer} {s : Hub} (hinit : o.init.succeeds conf.useMqtt = true)
    (hconnect : (connect conf.connectionTimeout o.sleeps (rebuilt s)).1 = true) :
    (reinit conf o s.adapter.twinUpdatesQueue s).1 = true := by
  obtain ⟨es, a, r, -, hr, hcases⟩ := reinit_cases conf o s.adapter.twinUpdatesQueue s
  have hsucc := (initInternal_ready conf o.init s.adapter.twinUpdatesQueue { s with adapter := a }).2.1
  have hrebuilt := initInternal_adapter conf s.adapter.twinUpdatesQueue { s with adapter := a } hinit
  rw [hr] at hsucc hrebuilt
  rcases hcases with ⟨hfail, -⟩ | ⟨-, _, rfl, hre⟩
  · exact absurd (hfail.symm.trans (hsucc.trans hinit)) (by simp)
  · rw [hre, hrebuilt]
    exact hconnect

theorem Ready.recoverable {s : Hub} (h : Ready s) : Recoverable conf s := by
  intro dataSize o ho
  have hunlock : o.lock.unlock = true := by rw [ho.lock]; rfl
  have hlock : o.lock.lock = true := by rw [ho.lock]; rfl
  have hover := fun s' =>
    handOver_succeeds dataSize s' ho.createMessage ho.setAsSecurityMessage ho.sendEvent
  rcases sendMessageAsync_cases conf o dataSize s with
    ⟨hnot, -⟩ | ⟨-, -, hs⟩ | ⟨-, hd, -, es, s', hre, -⟩ | ⟨-, -, -, es, s', -, hs⟩
  · exact absurd ⟨⟨h.1, hlock, h.2⟩, ho.renew⟩ hnot
  · rw [hs, hunlock, hover s]
    rfl
  · -- no rebuild fails for which all succeeds
    have hconnects := reinit_connects conf (ho.init hd) (ho.connect hd)
    rw [hre] at hconnects
    exact absurd hconnects (by simp)
  · rw [hs, hunlock, hover s']
    rfl

theorem ok_allSucceed {conf : HubConfiguration} (htimeout : 0 < conf.connectionTimeout)
    (s : Hub) : AllSucceed conf s .ok where
  lock := rfl
  renew := fun _ => rfl
  init := fun _ => by cases conf.useMqtt <;> rfl
  connect := fun _ => by
    have harrivals : arrivals conf.connectionTimeout 0 SendAnswer.ok.sleeps (rebuilt s)
        = [.connectionStatus true .ok, .deviceTwin true] := by
      simp only [arrivals, SendAnswer.ok, if_pos htimeout]
      rfl
    rw [IoTHubAdapter.connect, harrivals]
    rfl
  createMessage := rfl
  setAsSecurityMessage := rfl
  sendEvent := rfl

theorem Dead.not_recoverable {conf : HubConfiguration} {s : Hub} (h : Dead s)
    (htimeout : 0 < conf.connectionTimeout) : ¬ Recoverable conf s := by
  intro hr
  have hsent := hr 0 .ok (ok_allSucceed htimeout s)
  rw [h.sendMessageAsync] at hsent
  exact absurd hsent (by simp)

/-! ## Every run -/

/-- A successful initialization leaves the adapter ready. -/
theorem ready_init {conf : HubConfiguration} {lockInit : Bool} {lock : LockOutcome} {o : InitAnswer}
    {q : Option Nat} {s : Hub} (h : (init conf lockInit lock o q s).1 = true) :
    Ready (init conf lockInit lock o q s).2.2 := by
  rcases init_cases conf lockInit lock o q s with ⟨-, hi⟩ | ⟨hlockInit, -, hi⟩
  · rw [hi] at h
    exact absurd h (by simp)
  · obtain ⟨hinit, hsucc, hlock⟩ :=
      initInternal_ready conf o q { s with iotHubAdapterLock := lockInit }
    rw [hi, Bool.and_eq_true] at h
    rw [hi]
    exact ⟨hlock.trans hlockInit, hinit.trans (hsucc.symm.trans h.2)⟩

/--
**When a message can be sent again**, after any sequence of calls and callbacks that follows a
successful initialization: if no rebuild has failed in its initialization; and, unless the timeout
is 0 and no client ever connects, only then.
-/
theorem recoverable_iff (lockInit : Bool) (lock : LockOutcome) (o : InitAnswer) (q : Option Nat)
    (s : Hub) (hinit : (init conf lockInit lock o q s).1 = true) (traffic : List HubTraffic) :
    (Along (total (serve conf)) (RebuildInitializes conf) (init conf lockInit lock o q s).2.2 traffic →
        Recoverable conf (runTotal (serve conf) (init conf lockInit lock o q s).2.2 traffic).2)
      ∧ (0 < conf.connectionTimeout →
        Recoverable conf (runTotal (serve conf) (init conf lockInit lock o q s).2.2 traffic).2 →
        Along (total (serve conf)) (RebuildInitializes conf) (init conf lockInit lock o q s).2.2
          traffic) := by
  obtain ⟨hgood, hbad⟩ := runTotal_end_of (fun _ t h => (Ready.serve conf h t).1)
    (fun _ t h => (Ready.serve conf h t).2) (fun _ t h => Dead.serve conf h t) (ready_init hinit)
  refine ⟨fun h => (hgood h).recoverable conf, fun htimeout hr => ?_⟩
  exact Classical.byContradiction fun hn => (hbad hn).not_recoverable htimeout hr

/-- The run after a first initialization: a disconnection, and a message that rebuilds the adapter
and is sent. -/
theorem recoverable_iff_rebuilt :
    (init ⟨true, true, 1000⟩ true .ok .ok none Hub.init).1 = true
      ∧ Recoverable ⟨true, true, 1000⟩ (runTotal (serve ⟨true, true, 1000⟩)
        (init ⟨true, true, 1000⟩ true .ok .ok none Hub.init).2.2
        [.callback (.connectionStatus false .noNetwork), .sendMessageAsync 100 .ok]).2 :=
  ⟨by decide, (recoverable_iff ⟨true, true, 1000⟩ true .ok .ok none Hub.init (by decide)
    [.callback (.connectionStatus false .noNetwork), .sendMessageAsync 100 .ok]).1
    (by
      rw [along_total, along_total]
      exact ⟨trivial, fun _ _ _ => by decide, trivial⟩)⟩

/-- **An adapter that no message gets through any more**: one rebuild has failed to set the twin
callback, and all calls succeed for the message after it. -/
theorem failed_rebuild_not_recoverable :
    (init ⟨true, true, 1000⟩ true .ok .ok none Hub.init).1 = true
      ∧ ¬ Recoverable ⟨true, true, 1000⟩ (runTotal (serve ⟨true, true, 1000⟩)
        (init ⟨true, true, 1000⟩ true .ok .ok none Hub.init).2.2
        [.callback (.connectionStatus false .noNetwork),
          .sendMessageAsync 100 { SendAnswer.ok with init := { InitAnswer.ok with
            moduleTwinCallback := false } }]).2 := by
  refine ⟨by decide, fun h => ?_⟩
  have hsent := h 100 .ok (ok_allSucceed (by decide) _)
  exact absurd hsent (by decide +kernel)

end IoTHubAdapter

end SecurityAgent
