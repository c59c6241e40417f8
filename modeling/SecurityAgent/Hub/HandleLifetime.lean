import SecurityAgent.Hub.IoTHubAdapter
import SecurityAgent.Lib.Run

/-!
# The lifetime of the client's handle

Tearing the adapter down destroys the client and leaves its handle in the adapter.
`hubInitiated` says so, and a message is not sent then; but reported properties are,
and `IoTHubAdapter_Deinit` destroys the client once more. The adapter comes to be
torn down when an initialization fails with the client already made, in particular
when a message rebuilds the adapter.
-/

namespace SecurityAgent

open Machine Lifetime

namespace IoTHubAdapter

/-- The calls on clients among the events. -/
def clientCalls (es : List HubEvent) : List (Event ClientFunction) :=
  es.filterMap fun
    | .client call => some call
    | _ => none

@[simp] theorem clientCalls_append (es es' : List HubEvent) :
    clientCalls (es ++ es') = clientCalls es ++ clientCalls es' := by
  simp [clientCalls]

@[simp] theorem clientCalls_nil : clientCalls [] = [] := rfl

@[simp] theorem clientCalls_client (call : Event ClientFunction) (es : List HubEvent) :
    clientCalls (.client call :: es) = call :: clientCalls es := rfl

/-- The handle in the adapter is not that of a client that has been destroyed. -/
def HandleUsable (a : IoTHubAdapter) : Prop := a.hubInitiated = true ∨ a.moduleHandle = none

instance (a : IoTHubAdapter) : Decidable a.HandleUsable := inferInstanceAs (Decidable (_ ∨ _))

/-- Properties are not reported, and the adapter is not torn down, after it has been torn down. -/
def Timely (s : Hub) : HubCall → Prop
  | .traffic (.setReportedPropertiesAsync reportedData _) =>
      reportedData = true → s.adapter.HandleUsable
  | .deinit lock _ =>
      s.iotHubAdapterLock = true → lock.lock = true → s.adapter.HandleUsable
  | .init .. | .traffic (.sendMessageAsync ..) | .traffic (.callback _)
  | .traffic (.snapshotAndReset _) => True

/-! ## The adapter as a session -/

/-- The session of an adapter: its client is live as long as `hubInitiated` says so. -/
def session (a : IoTHubAdapter) (next : Nat) : Session :=
  ⟨if a.hubInitiated then a.moduleHandle else none, next⟩

/-- The calls so far have led to the adapter's session, and if it has been torn down its handle has
been released. -/
structure Custody (past : List (Event ClientFunction)) (a : IoTHubAdapter) (next : Nat) : Prop where
  after : (a.session next).After past
  torn : a.hubInitiated = false → ∀ handle, a.moduleHandle = some handle → .release handle ∈ past

theorem custody_init : Custody [] Hub.init.adapter Hub.init.nextHandle :=
  ⟨Session.after_nil 0, fun _ _ h => absurd h (by simp [Hub.init, zero])⟩

/-- Only the handle and `hubInitiated` matter. -/
theorem Custody.congr {past : List (Event ClientFunction)} {a a' : IoTHubAdapter} {next : Nat}
    (h : Custody past a next) (hhandle : a'.moduleHandle = a.moduleHandle)
    (hinit : a'.hubInitiated = a.hubInitiated) : Custody past a' next := by
  refine ⟨?_, by rw [hinit, hhandle]; exact h.torn⟩
  unfold session
  rw [hinit, hhandle]
  exact h.after

/-! ## Callbacks -/

theorem callback_client (a : IoTHubAdapter) (c : HubCallback) :
    clientCalls (a.callback c).1 = [] := by
  cases c with
  | sendConfirm confirmed o => cases confirmed <;> rfl
  | connectionStatus authenticated reason => rfl
  | deviceTwin queued => rfl

/-- Callbacks make no call on the client. -/
theorem callbacks_client (cs : List HubCallback) :
    ∀ a : IoTHubAdapter, clientCalls (callbacks cs a).1 = [] := by
  induction cs with
  | nil => intro a; rfl
  | cons c cs ih =>
      intro a
      rw [callbacks, clientCalls_append, a.callback_client c, ih (a.callback c).2]
      rfl

/-! ## Teardown and initialization -/

/-- A teardown destroys the client there is, and leaves its handle. -/
theorem deinitInternal_client (destroy : List HubCallback) (a : IoTHubAdapter) :
    clientCalls (deinitInternal destroy a).1 = a.moduleHandle.toList.map Event.release
      ∧ (deinitInternal destroy a).2.moduleHandle = a.moduleHandle
      ∧ (deinitInternal destroy a).2.hubInitiated = false := by
  have hes := callbacks_client destroy
    { a with hubInitiated := false, messageCounter := a.messageCounter.deinit }
  obtain ⟨hhandle, hinit⟩ := callbacks_frame destroy
    { a with hubInitiated := false, messageCounter := a.messageCounter.deinit }
  unfold deinitInternal
  cases h : a.moduleHandle with
  | none => exact ⟨rfl, rfl, rfl⟩
  | some handle =>
      rw [h] at hes hhandle hinit
      exact ⟨by simp only [clientCalls_client, hes]; rfl, hhandle, hinit⟩

theorem configure_client (handle : Nat) (calls : List (ClientFunction × Bool)) :
    ∀ e ∈ clientCalls (configure handle calls).2, ∃ function, e = .use function handle := by
  intro e he
  obtain ⟨event, hm, hcall⟩ := List.mem_filterMap.mp he
  obtain ⟨function, rfl⟩ := configure_uses handle calls event hm
  exact ⟨function, (Option.some.inj hcall).symm⟩

/-! ## What keeps custody -/

section Custody

variable {past : List (Event ClientFunction)} {a : IoTHubAdapter} {next : Nat}

/-- After a teardown of a usable handle nothing is live. -/
theorem Custody.deinitInternal (h : Custody past a next) (husable : a.HandleUsable)
    (destroy : List HubCallback) :
    Custody (past ++ clientCalls (deinitInternal destroy a).1) (deinitInternal destroy a).2 next := by
  obtain ⟨hes, hhandle, hinit⟩ := deinitInternal_client destroy a
  have hsession : (IoTHubAdapter.deinitInternal destroy a).2.session next = ⟨none, next⟩ := by
    rw [session, hinit]
    rfl
  refine ⟨hsession ▸ hes ▸ ?_, fun _ handle hh => ?_⟩
  · cases hm : a.moduleHandle with
    | none =>
        simp only [Option.toList_none, List.map_nil, List.append_nil]
        exact h.after.forget
    | some handle =>
        -- the handle is the live one, because it is usable
        have hlive : a.hubInitiated = true := husable.resolve_right (by rw [hm]; simp)
        refine h.after.follow (e := .release handle) ?_
        simp [Session.follow, session, hlive, hm]
  · rw [hhandle] at hh
    rw [hes, hh]
    exact List.mem_append_right _ (List.mem_singleton.mpr rfl)

/-- Nothing is live when an initialization begins; its client is live afterwards if it succeeds, and
has been destroyed if it does not. -/
theorem custody_initInternal (conf : HubConfiguration) {o : InitAnswer} {q : Option Nat} {s : Hub}
    (h : (Session.mk none s.nextHandle).After past) :
    Custody (past ++ clientCalls (initInternal conf o q s).2.1)
      (initInternal conf o q s).2.2.adapter (initInternal conf o q s).2.2.nextHandle := by
  have hacquired : ∀ (es : List HubEvent),
      es = .client (.acquire s.nextHandle)
        :: (configure s.nextHandle (o.configuration conf.useMqtt)).2 →
      (Session.mk (some s.nextHandle) (s.nextHandle + 1)).After (past ++ clientCalls es) := by
    rintro _ rfl
    refine h.foldlM ?_
    simp only [clientCalls_client, List.foldlM_cons, Session.follow, if_true]
    exact foldlM_uses (configure_client _ _)
  rcases initInternal_cases conf o q s with ⟨-, hr⟩ | ⟨-, -, hr⟩ | ⟨-, hr⟩
  · rw [hr]
    simp only [clientCalls_nil, List.append_nil]
    exact ⟨h, fun _ _ he => absurd he (by simp [zero])⟩
  · -- a call after the creation fails, and the client just made is destroyed
    obtain ⟨hhandle, hinit⟩ := callbacks_frame o.destroy (made q s.nextHandle)
    rw [hr]
    rw [clientCalls_append, clientCalls_client (.release s.nextHandle), callbacks_client,
      ← List.append_assoc]
    refine ⟨?_, fun _ handle hh => ?_⟩
    · rw [session, hinit]
      exact (hacquired _ rfl).follow (e := .release s.nextHandle)
        (by simp only [Session.follow, if_true]; rfl)
    · rw [hhandle] at hh
      exact Option.some.inj hh ▸ List.mem_append_right _ (List.mem_singleton.mpr rfl)
  · rw [hr]
    exact ⟨hacquired _ rfl, fun hi _ _ => absurd hi (by simp)⟩

/-- A call on the client of an adapter with a usable handle. -/
theorem Custody.clientCall (h : Custody past a next) (husable : a.HandleUsable)
    (function : ClientFunction) : Custody (past ++ clientCalls (a.clientCall function)) a next := by
  unfold IoTHubAdapter.clientCall
  cases hm : a.moduleHandle with
  | none => simpa using h
  | some handle =>
      have hlive : a.hubInitiated = true := husable.resolve_right (by rw [hm]; simp)
      refine ⟨h.after.follow (e := .use function handle) ?_, fun hi => absurd (hi.symm.trans hlive)
        (by simp)⟩
      simp [Session.follow, session, hlive, hm]

theorem Custody.handOver {s : Hub} (h : Custody past s.adapter s.nextHandle)
    (hinit : s.adapter.hubInitiated = true) (o : SendAnswer) (dataSize : Nat) :
    Custody (past ++ clientCalls (handOver o dataSize s).2.1) (handOver o dataSize s).2.2.adapter
      (handOver o dataSize s).2.2.nextHandle := by
  have hcall := h.clientCall (Or.inl hinit) .sendEventAsync
  unfold IoTHubAdapter.handOver
  split
  · simpa using h
  · split
    · exact hcall
    · refine (?_ : Custody _ s.adapter s.nextHandle).congr rfl rfl
      rw [clientCalls_append]
      simpa [clientCalls] using hcall

/-- Rebuilding an initialized adapter, which is initialized again if that succeeds. -/
theorem Custody.reinit {s : Hub} (h : Custody past s.adapter s.nextHandle)
    (conf : HubConfiguration) (hinit : s.adapter.hubInitiated = true) (o : SendAnswer) (q : Option Nat) :
    Custody (past ++ clientCalls (reinit conf o q s).2.1) (reinit conf o q s).2.2.adapter
        (reinit conf o q s).2.2.nextHandle
      ∧ ((reinit conf o q s).1 = true → (reinit conf o q s).2.2.adapter.hubInitiated = true) := by
  have hdown := h.deinitInternal (Or.inl hinit) o.destroy
  obtain ⟨es, a, r, hd, hr, hcases⟩ := reinit_cases conf o q s
  rw [hd] at hdown
  have hup := custody_initInternal conf (o := o.init) (q := q)
    (s := { s with adapter := a }) hdown.after.forget
  obtain ⟨hinit', hsucc, -⟩ := initInternal_ready conf o.init q { s with adapter := a }
  rw [hr] at hup hinit' hsucc
  rw [List.append_assoc, ← clientCalls_append] at hup
  rcases hcases with ⟨-, hre⟩ | ⟨hok, _, rfl, hre⟩
  · rw [hre]
    exact ⟨hup, fun h => absurd h (by simp)⟩
  · -- what comes in while it connects does not touch the client
    obtain ⟨hhandle, hi⟩ := callbacks_frame
      (arrivals conf.connectionTimeout 0 o.sleeps r.2.2.adapter) r.2.2.adapter
    rw [hre]
    refine ⟨?_, fun _ => hi.trans (hinit'.trans (hsucc.symm.trans hok))⟩
    simp only [connect, clientCalls_append _ (callbacks _ _).1, callbacks_client, List.append_nil]
    exact hup.congr hhandle hi

theorem Custody.sendMessageAsync {s : Hub} (conf : HubConfiguration)
    (h : Custody past s.adapter s.nextHandle) (o : SendAnswer) (dataSize : Nat) :
    Custody (past ++ clientCalls (sendMessageAsync conf o dataSize s).2.1)
      (sendMessageAsync conf o dataSize s).2.2.adapter
      (sendMessageAsync conf o dataSize s).2.2.nextHandle := by
  rcases sendMessageAsync_cases conf o dataSize s with
    ⟨-, hs⟩ | ⟨hadmits, -, hs⟩ | ⟨hadmits, -, -, es, s', hre, hs⟩ | ⟨hadmits, -, -, es, s', hre, hs⟩
  · rw [hs]
    simpa using h
  · rw [hs]
    exact h.handOver hadmits.2.2 o dataSize
  · have hrebuilt := (h.reinit conf hadmits.2.2 o s.adapter.twinUpdatesQueue).1
    rw [hre] at hrebuilt
    rw [hs]
    exact hrebuilt
  · obtain ⟨hrebuilt, hagain⟩ := h.reinit conf hadmits.2.2 o s.adapter.twinUpdatesQueue
    rw [hre] at hrebuilt hagain
    have hsend := hrebuilt.handOver (hagain rfl) o dataSize
    rw [List.append_assoc, ← clientCalls_append] at hsend
    rw [hs]
    exact hsend

/-- The invariant of every call that comes in time. -/
theorem Custody.step {conf : HubConfiguration} {s : Hub} (h : Custody past s.adapter s.nextHandle)
    {c : HubCall} (hc : Timely s c) :
    Custody (past ++ clientCalls (step conf s c).1) (step conf s c).2.adapter
      (step conf s c).2.nextHandle := by
  cases c with
  | init lockInit lock o q =>
      show Custody (past ++ clientCalls (IoTHubAdapter.init conf lockInit lock o q s).2.1)
        (IoTHubAdapter.init conf lockInit lock o q s).2.2.adapter
        (IoTHubAdapter.init conf lockInit lock o q s).2.2.nextHandle
      unfold IoTHubAdapter.init
      split
      · simpa using h
      · exact custody_initInternal conf (s := { s with iotHubAdapterLock := lockInit }) h.after.forget
  | deinit lock destroy =>
      show Custody (past ++ clientCalls (IoTHubAdapter.deinit lock destroy s).1)
        (IoTHubAdapter.deinit lock destroy s).2.adapter
        (IoTHubAdapter.deinit lock destroy s).2.nextHandle
      unfold IoTHubAdapter.deinit
      split
      · simpa using h
      · rename_i hlock
        simp only [not_or, Bool.not_eq_false] at hlock
        exact h.deinitInternal (hc hlock.1 hlock.2) destroy
  | traffic t =>
      cases t with
      | sendMessageAsync dataSize o => exact h.sendMessageAsync conf o dataSize
      | setReportedPropertiesAsync reportedData sendReportedState =>
          cases reportedData with
          | false => simpa [IoTHubAdapter.step, serve, setReportedPropertiesAsync] using h
          | true => exact h.clientCall (hc rfl) .sendReportedState
      | callback c =>
          obtain ⟨hhandle, hinit⟩ := s.adapter.callback_frame c
          show Custody (past ++ clientCalls (s.adapter.callback c).1) (s.adapter.callback c).2 _
          rw [callback_client, List.append_nil]
          exact h.congr hhandle hinit
      | snapshotAndReset o =>
          have hes : clientCalls (IoTHubAdapter.step conf s (.traffic (.snapshotAndReset o))).1
              = [] := by
            simp only [IoTHubAdapter.step, serve]
            split <;> rfl
          rw [hes, List.append_nil]
          exact h.congr rfl rfl

/-- A call that comes too late is given a handle that has been released. -/
theorem Custody.step_late {conf : HubConfiguration} {s : Hub}
    (h : Custody past s.adapter s.nextHandle) {c : HubCall} (hc : ¬ Timely s c) :
    ¬ NoUseAfterRelease (past ++ clientCalls (IoTHubAdapter.step conf s c).1) := by
  -- the handle of a client that has been destroyed
  have hstale : ¬ s.adapter.HandleUsable →
      ∃ handle, s.adapter.moduleHandle = some handle ∧ .release handle ∈ past := by
    intro hn
    simp only [HandleUsable, not_or, Bool.not_eq_true] at hn
    obtain ⟨handle, hh⟩ := Option.ne_none_iff_exists'.mp hn.2
    exact ⟨handle, hh, h.torn hn.1 handle hh⟩
  have hlate : ∀ {handle : Nat} {es : List (Event ClientFunction)} {e : Event ClientFunction},
      .release handle ∈ past → e ∈ es → e.argument = some handle →
      ¬ NoUseAfterRelease (past ++ es) := by
    intro handle es e hm he harg hno
    exact (noUseAfterRelease_append.mp hno).2.2 handle hm e he harg
  cases c with
  | init lockInit lock o q => exact absurd trivial hc
  | deinit lock destroy =>
      simp only [Timely, Classical.not_imp] at hc
      obtain ⟨hadapter, hlock, hn⟩ := hc
      obtain ⟨handle, hh, hm⟩ := hstale hn
      refine hlate hm (e := .release handle) ?_ rfl
      simp only [IoTHubAdapter.step, IoTHubAdapter.deinit, hadapter, hlock, Bool.true_eq_false,
        or_self, if_false]
      rw [(deinitInternal_client destroy s.adapter).1, hh]
      exact List.mem_singleton.mpr rfl
  | traffic t =>
      cases t with
      | sendMessageAsync dataSize o => exact absurd trivial hc
      | callback c => exact absurd trivial hc
      | snapshotAndReset o => exact absurd trivial hc
      | setReportedPropertiesAsync reportedData sendReportedState =>
          simp only [Timely, Classical.not_imp] at hc
          obtain ⟨rfl, hn⟩ := hc
          obtain ⟨handle, hh, hm⟩ := hstale hn
          refine hlate hm (e := .use .sendReportedState handle) ?_ rfl
          simp only [IoTHubAdapter.step, serve, setReportedPropertiesAsync, Bool.true_eq_false,
            if_false, IoTHubAdapter.clientCall, hh]
          exact List.mem_singleton.mpr rfl

end Custody

/-! ## Every run -/

/-- The calls that a run makes on clients, in order. -/
def clientTrace (conf : HubConfiguration) (calls : List HubCall) : List (Event ClientFunction) :=
  (runTotal (step conf) Hub.init calls).1.flatMap clientCalls

/--
**When every client is destroyed at most once and not used after that**, whatever the SDK and
the authentication answer and whatever is called back: exactly when properties are reported and the
adapter is torn down only while its handle is usable. An adapter that has been torn down, by an
initialization that has failed after the client was made or by `IoTHubAdapter_Deinit`, keeps the
handle of the destroyed client until the next initialization.
-/
theorem handles_lawful_iff (conf : HubConfiguration) (calls : List HubCall) :
    ((∀ handle, (clientTrace conf calls).count (.release handle) ≤ 1)
        ∧ NoUseAfterRelease (clientTrace conf calls))
      ↔ Along (total (step conf)) Timely Hub.init calls := by
  have htrace : NoUseAfterRelease ([] ++ clientTrace conf calls)
      ↔ Along (total (step conf)) Timely Hub.init calls :=
    runTotal_trace_iff (I := fun past s => Custody past s.adapter s.nextHandle)
      (fun _ _ h => h.after.lawful)
      (fun _ _ h => (noUseAfterRelease_append.mp h).1)
      (fun _ _ _ h hc => h.step hc) (fun _ _ _ h hc => h.step_late hc) custody_init
  rw [List.nil_append] at htrace
  exact ⟨fun h => htrace.mp h.2, fun h => ⟨(htrace.mpr h).release_once, htrace.mpr h⟩⟩

/-- The answers to a message that finds the adapter disconnected, when the rebuilt client does not
take its twin callback. -/
def rebuildFails : SendAnswer :=
  { SendAnswer.ok with init := { InitAnswer.ok with moduleTwinCallback := false } }

/-- **A client is destroyed twice**: by the message that failed to rebuild the adapter, and by
`IoTHubAdapter_Deinit`. -/
theorem deinit_destroys_again :
    ¬ ((∀ handle, (clientTrace ⟨true, true, 1000⟩
          [.init true .ok .ok none, .traffic (.callback (.connectionStatus false .ok)),
            .traffic (.sendMessageAsync 100 rebuildFails), .deinit .ok []]).count
          (.release handle) ≤ 1)
      ∧ NoUseAfterRelease (clientTrace ⟨true, true, 1000⟩
          [.init true .ok .ok none, .traffic (.callback (.connectionStatus false .ok)),
            .traffic (.sendMessageAsync 100 rebuildFails), .deinit .ok []])) :=
  fun h => absurd (h.1 1) (by decide +kernel)

end IoTHubAdapter

end SecurityAgent
