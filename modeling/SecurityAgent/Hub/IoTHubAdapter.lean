import SecurityAgent.Lib.Lifetime
import SecurityAgent.Storage.MeteredQueue

/-!
# The hub adapter: `iothub_adapter.c`

The adapter holds the SDK's handle of a module client. When the connection is lost
and the device is registered through DPS, the next message renews the connection
string and rebuilds the adapter before it is sent.

The SDK and the authentication are the environment: each call of them comes with its
answer. What the SDK calls back, it calls back between two calls of the adapter, or
while the adapter waits in `Connect` or in `Destroy`. Every function also gives the
events that its callers and the SDK can see.
-/

namespace SecurityAgent

/-! ## The message counter -/

/-- `MessageCounter`. -/
structure MessageCounter where
  sentMessages : UInt32
  smallMessages : UInt32
  failedMessages : UInt32
  deriving DecidableEq, Repr

/-- The fields of `MessageCounter`. -/
inductive MessageField where
  | sentMessages
  | smallMessages
  | failedMessages
  deriving DecidableEq, Repr

namespace MessageCounter

/-- What `memset` leaves. -/
def zero : MessageCounter := ⟨0, 0, 0⟩

/-- The count in a field. -/
def get (c : MessageCounter) : MessageField → UInt32
  | .sentMessages => c.sentMessages
  | .smallMessages => c.smallMessages
  | .failedMessages => c.failedMessages

/-- The counter with another count in a field. -/
def set (c : MessageCounter) (field : MessageField) (count : UInt32) : MessageCounter :=
  match field with
  | .sentMessages => { c with sentMessages := count }
  | .smallMessages => { c with smallMessages := count }
  | .failedMessages => { c with failedMessages := count }

@[simp] theorem get_zero (field : MessageField) : zero.get field = 0 := by
  cases field <;> rfl

@[simp] theorem get_set_self (c : MessageCounter) (field : MessageField) (count : UInt32) :
    (c.set field count).get field = count := by
  cases field <;> rfl

theorem get_set_of_ne (c : MessageCounter) {field field' : MessageField} (count : UInt32)
    (h : field' ≠ field) : (c.set field count).get field' = c.get field' := by
  cases field <;> cases field' <;> first | rfl | exact absurd rfl h

end MessageCounter

/-- `SyncedCounter`, with the message counter of its union. -/
structure SyncedMessageCounter where
  counter : MessageCounter
  /-- `lock` is not `NULL`. -/
  lock : Bool
  deriving DecidableEq, Repr

namespace SyncedMessageCounter

/-- `AgentTelemetryCounter_Deinit`. -/
def deinit (c : SyncedMessageCounter) : SyncedMessageCounter := { c with lock := false }

/-- What `Lock` and `Unlock` answer: the lock they are given may be `NULL`, and then they fail. -/
def answers (c : SyncedMessageCounter) (o : LockOutcome) : LockOutcome :=
  ⟨c.lock && o.lock, c.lock && o.unlock⟩

/-- `AgentTelemetryCounter_IncreaseBy` by 1. -/
def increaseBy (c : SyncedMessageCounter) (o : LockOutcome) (field : MessageField) :
    Bool × SyncedMessageCounter :=
  let r := AgentTelemetryCounter.increaseBy (c.answers o) (c.counter.get field) 1
  (r.1, { c with counter := c.counter.set field r.2 })

/-- `AgentTelemetryCounter_SnapshotAndReset`. -/
def snapshotAndReset (c : SyncedMessageCounter) (o : LockOutcome) :
    Bool × MessageCounter × SyncedMessageCounter :=
  let r := AgentTelemetryCounter.snapshotAndReset (c.answers o) MessageCounter.zero c.counter
  (r.1, r.2.1, { c with counter := r.2.2 })

end SyncedMessageCounter

/-! ## The adapter -/

/-- `IOTHUB_CLIENT_CONNECTION_STATUS_REASON`, in the SDK's order. -/
inductive ConnectionStatusReason where
  | expiredSasToken
  | deviceDisabled
  | badCredential
  | retryExpired
  | noNetwork
  | communicationError
  | ok
  deriving DecidableEq, Repr

/-- `IoTHubAdapter`. -/
structure IoTHubAdapter where
  /-- `none` is `NULL`. -/
  moduleHandle : Option Nat
  hasTwinConfiguration : Bool
  connected : Bool
  connectionStatusReason : ConnectionStatusReason
  hubInitiated : Bool
  /-- The address of the queue. -/
  twinUpdatesQueue : Option Nat
  messageCounter : SyncedMessageCounter
  deriving DecidableEq, Repr

/-- What `memset` leaves. -/
def IoTHubAdapter.zero : IoTHubAdapter :=
  ⟨none, false, false, .expiredSasToken, false, none, ⟨.zero, false⟩⟩

/-- The SDK's functions on a client, but for those that make and destroy one. -/
inductive ClientFunction where
  | setOptionAutoUrlEncodeDecode
  | setOptionLogTrace
  | setConnectionStatusCallback
  | setModuleTwinCallback
  | sendEventAsync
  | sendReportedState
  deriving DecidableEq, Repr

/-- What happens in a call, as seen from outside. -/
inductive HubEvent where
  /-- The SDK is called on a client. -/
  | client (call : Lifetime.Event ClientFunction)
  /-- The SDK accepts a message for delivery. -/
  | accepted (dataSize : Nat)
  /-- The SDK reports a message that has not been delivered. -/
  | notDelivered
  /-- A snapshot of the message counter is returned. -/
  | snapshot (counter : MessageCounter)
  deriving DecidableEq, Repr

/-- What the SDK calls back. -/
inductive HubCallback where
  /-- `IoTHubAdapter_SendConfirmCallback`: whether `result` is `OK`, and the counter's lock. -/
  | sendConfirm (confirmed : Bool) (o : LockOutcome)
  /-- `IoTHubAdapter_ConnectionStatusCallback`: whether `result` is `AUTHENTICATED`. -/
  | connectionStatus (authenticated : Bool) (reason : ConnectionStatusReason)
  /-- `IoTHubAdapter_DeviceTwinCallback`: whether there is a payload and the queue takes it. -/
  | deviceTwin (queued : Bool)
  deriving DecidableEq, Repr

/-- What is configured, and does not change once the agent runs. -/
structure HubConfiguration where
  /-- `USE_MQTT` is defined. -/
  useMqtt : Bool
  /-- `LocalConfiguration_UseDps`. -/
  useDps : Bool
  /-- `LocalConfiguration_GetConnectionTimeout`. -/
  connectionTimeout : UInt32

namespace IoTHubAdapter

/-- One callback; its user context is the adapter. -/
def callback (a : IoTHubAdapter) : HubCallback → List HubEvent × IoTHubAdapter
  | .sendConfirm confirmed o =>
      if confirmed then ([], a)
      else ([.notDelivered],
        { a with messageCounter := (a.messageCounter.increaseBy o .failedMessages).2 })
  | .connectionStatus authenticated reason =>
      ([], { a with
        connectionStatusReason := reason
        connected := authenticated && reason == .ok })
  | .deviceTwin queued => ([], { a with hasTwinConfiguration := a.hasTwinConfiguration || queued })

/-- Callbacks in their order. -/
def callbacks : List HubCallback → IoTHubAdapter → List HubEvent × IoTHubAdapter
  | [], a => ([], a)
  | c :: cs, a =>
      let (es, a) := a.callback c
      let (es', a) := callbacks cs a
      (es ++ es', a)

/-- `IoTHubAdapter_Deinit_Internal`. The handle stays in its field. -/
def deinitInternal (destroy : List HubCallback) (a : IoTHubAdapter) :
    List HubEvent × IoTHubAdapter :=
  let a := { a with hubInitiated := false, messageCounter := a.messageCounter.deinit }
  match a.moduleHandle with
  | none => ([], a)
  | some handle =>
      let (es, a) := callbacks destroy a
      (.client (.release handle) :: es, a)

/-- `IoTHubAdapter_ValidateAdapterConnectionStatus`: its result and `isPermanent`. -/
def validateAdapterConnectionStatus (a : IoTHubAdapter) : Bool × Bool :=
  if a.connected then (true, false)
  else (false, a.connectionStatusReason == .badCredential || a.connectionStatusReason == .noNetwork)

/-- What comes in while `IoTHubAdapter_Connect` waits, given what comes in during each of its
sleeps. The last sleep is the one after `stop` has been set. -/
def arrivals (timeout : UInt32) : UInt32 → List (List HubCallback) → IoTHubAdapter →
    List HubCallback
  | _, [], _ => []
  | elapsedTime, cs :: sleeps, a =>
      if elapsedTime < timeout then
        let (isConnected, isPermanent) := a.validateAdapterConnectionStatus
        let stop := (isConnected && a.hasTwinConfiguration) || isPermanent
        if stop then cs else cs ++ arrivals timeout (elapsedTime + 100) sleeps (callbacks cs a).2
      else []

/-- `IoTHubAdapter_Connect`. -/
def connect (timeout : UInt32) (sleeps : List (List HubCallback)) (a : IoTHubAdapter) :
    Bool × List HubEvent × IoTHubAdapter :=
  let (es, a) := callbacks (arrivals timeout 0 sleeps a) a
  (a.connected && a.hasTwinConfiguration, es, a)

end IoTHubAdapter

/-! ## The adapter and its lock -/

/-- The adapter, the lock around it and the SDK, as far as the adapter's functions reach. -/
structure Hub where
  adapter : IoTHubAdapter
  /-- `iotHubAdapterLock` is not `NULL`. -/
  iotHubAdapterLock : Bool
  /-- The next handle the SDK makes. -/
  nextHandle : Nat
  deriving DecidableEq, Repr

/-- Before `IoTHubAdapter_Init`: `SecurityAgent_Init` has cleared the adapter. -/
def Hub.init : Hub := ⟨.zero, false, 0⟩

/-- What the SDK answers to `IoTHubAdapter_Init_Internal`, and what it calls back should the new
client be destroyed again. -/
structure InitAnswer where
  /-- `IoTHubModuleClient_CreateFromConnectionString` makes a client. -/
  create : Bool
  urlEncodeDecode : Bool
  logTrace : Bool
  connectionStatusCallback : Bool
  moduleTwinCallback : Bool
  /-- The counter's `Lock_Init` makes a lock. -/
  counterLock : Bool
  destroy : List HubCallback
  deriving DecidableEq, Repr

/-- All goes well. -/
def InitAnswer.ok : InitAnswer := ⟨true, true, true, true, true, true, []⟩

/-- The calls on a new client, and their answers. -/
def InitAnswer.configuration (useMqtt : Bool) (o : InitAnswer) : List (ClientFunction × Bool) :=
  (if useMqtt then [(.setOptionAutoUrlEncodeDecode, o.urlEncodeDecode)] else [])
    ++ [(.setOptionLogTrace, o.logTrace),
      (.setConnectionStatusCallback, o.connectionStatusCallback),
      (.setModuleTwinCallback, o.moduleTwinCallback)]

/-- A client is made and configured, and there is a lock for the counter. -/
def InitAnswer.succeeds (useMqtt : Bool) (o : InitAnswer) : Bool :=
  o.create && (o.configuration useMqtt).all Prod.snd && o.counterLock

/-- What the SDK and the authentication answer to `IoTHubAdapter_SendMessageAsync`. -/
structure SendAnswer where
  /-- The adapter's lock. -/
  lock : LockOutcome
  /-- `LocalConfiguration_TryRenewConnectionString`. -/
  tryRenew : Bool
  /-- What comes in while the old client is destroyed. -/
  destroy : List HubCallback
  init : InitAnswer
  /-- What comes in during each sleep of `Connect`. -/
  sleeps : List (List HubCallback)
  /-- `IoTHubMessage_CreateFromByteArray` makes a message. -/
  createMessage : Bool
  setAsSecurityMessage : Bool
  sendEvent : Bool
  smallMessagesLock : LockOutcome
  sentMessagesLock : LockOutcome
  deriving DecidableEq, Repr

/-- All goes well; a new client connects and gets its twin at once. -/
def SendAnswer.ok : SendAnswer where
  lock := .ok
  tryRenew := true
  destroy := []
  init := .ok
  sleeps := [[.connectionStatus true .ok, .deviceTwin true]]
  createMessage := true
  setAsSecurityMessage := true
  sendEvent := true
  smallMessagesLock := .ok
  sentMessagesLock := .ok

def MESSAGE_BILLING_MULTIPLE : Nat := 4 * 1024

namespace IoTHubAdapter

/-- A call on the adapter's client. With a `NULL` handle the SDK refuses it. -/
def clientCall (a : IoTHubAdapter) (function : ClientFunction) : List HubEvent :=
  match a.moduleHandle with
  | none => []
  | some handle => [.client (.use function handle)]

/-- Calls on a client up to the first that fails: whether none does, and the calls. -/
def configure (handle : Nat) : List (ClientFunction × Bool) → Bool × List HubEvent
  | [] => (true, [])
  | (function, ok) :: calls =>
      let call : HubEvent := .client (.use function handle)
      if ok then
        let (success, es) := configure handle calls
        (success, call :: es)
      else (false, [call])

variable (conf : HubConfiguration)

/-- `IoTHubAdapter_Init_Internal`. -/
def initInternal (o : InitAnswer) (twinUpdatesQueue : Option Nat) (s : Hub) :
    Bool × List HubEvent × Hub :=
  let a := { zero with twinUpdatesQueue := twinUpdatesQueue }
  if o.create = false then
    let (es, a) := deinitInternal o.destroy a
    (false, es, { s with adapter := a })
  else
    let handle := s.nextHandle
    let a := { a with moduleHandle := some handle }
    let (configured, es) := configure handle (o.configuration conf.useMqtt)
    let es := .client (.acquire handle) :: es
    if configured = false ∨ o.counterLock = false then
      let (es', a) := deinitInternal o.destroy a
      (false, es ++ es', { s with adapter := a, nextHandle := handle + 1 })
    else
      let a := { a with messageCounter := ⟨.zero, true⟩, hubInitiated := true }
      (true, es, { s with adapter := a, nextHandle := handle + 1 })

/-- `IoTHubAdapter_Init`. -/
def init (lockInit : Bool) (lock : LockOutcome) (o : InitAnswer) (twinUpdatesQueue : Option Nat)
    (s : Hub) : Bool × List HubEvent × Hub :=
  let s := { s with iotHubAdapterLock := lockInit }
  if lockInit = false ∨ lock.lock = false then (false, [], s)
  else
    let (result, es, s) := initInternal conf o twinUpdatesQueue s
    (if lock.unlock = false then false else result, es, s)

/-- `IoTHubAdapter_Deinit`. -/
def deinit (lock : LockOutcome) (destroy : List HubCallback) (s : Hub) : List HubEvent × Hub :=
  if s.iotHubAdapterLock = false ∨ lock.lock = false then ([], s)
  else
    let (es, a) := deinitInternal destroy s.adapter
    (es, { s with adapter := a, iotHubAdapterLock := if lock.unlock then false else true })

/-- `IoTHubAdapter_Reinit`. -/
def reinit (o : SendAnswer) (twinUpdatesQueue : Option Nat) (s : Hub) :
    Bool × List HubEvent × Hub :=
  let (es, a) := deinitInternal o.destroy s.adapter
  let (initialized, es', s) := initInternal conf o.init twinUpdatesQueue { s with adapter := a }
  if initialized = false then (false, es ++ es', s)
  else
    let (connected, es'', a) := connect conf.connectionTimeout o.sleeps s.adapter
    (connected, es ++ es' ++ es'', { s with adapter := a })

/-- The counts of an accepted message. -/
def countAccepted (o : SendAnswer) (dataSize : Nat) (c : SyncedMessageCounter) :
    SyncedMessageCounter :=
  let c := if dataSize < MESSAGE_BILLING_MULTIPLE
    then (c.increaseBy o.smallMessagesLock .smallMessages).2 else c
  (c.increaseBy o.sentMessagesLock .sentMessages).2

/-- `IoTHubAdapter_SendMessageAsync_Internal`, from where the message is created. -/
def handOver (o : SendAnswer) (dataSize : Nat) (s : Hub) : Bool × List HubEvent × Hub :=
  if o.createMessage = false ∨ o.setAsSecurityMessage = false then (false, [], s)
  else
    let es := s.adapter.clientCall .sendEventAsync
    if o.sendEvent = false then (false, es, s)
    else
      let a := { s.adapter with messageCounter := countAccepted o dataSize s.adapter.messageCounter }
      (true, es ++ [.accepted dataSize], { s with adapter := a })

/-- `IoTHubAdapter_SendMessageAsync_Internal`. -/
def sendMessageAsyncInternal (o : SendAnswer) (dataSize : Nat) (s : Hub) :
    Bool × List HubEvent × Hub :=
  if s.adapter.hubInitiated = false then (false, [], s)
  else if s.adapter.connected = false ∧ conf.useDps = true then
    if o.tryRenew = false then (false, [], s)
    else
      let (initialized, es, s) := reinit conf o s.adapter.twinUpdatesQueue s
      if initialized = false then (false, es, s)
      else
        let (success, es', s) := handOver o dataSize s
        (success, es ++ es', s)
  else handOver o dataSize s

/-- `IoTHubAdapter_SendMessageAsync`. -/
def sendMessageAsync (o : SendAnswer) (dataSize : Nat) (s : Hub) : Bool × List HubEvent × Hub :=
  if s.iotHubAdapterLock = false ∨ o.lock.lock = false then (false, [], s)
  else
    let (success, es, s) := sendMessageAsyncInternal conf o dataSize s
    (if o.lock.unlock = false then false else success, es, s)

/-- `IoTHubAdapter_SetReportedPropertiesAsync`, which takes no lock: `reportedData` is not `NULL`,
and what the SDK answers. -/
def setReportedPropertiesAsync (reportedData sendReportedState : Bool) (s : Hub) :
    Bool × List HubEvent :=
  if reportedData = false then (false, [])
  else (sendReportedState, s.adapter.clientCall .sendReportedState)

end IoTHubAdapter

/-! ## The machine -/

/-- What happens between `IoTHubAdapter_Init` and `IoTHubAdapter_Deinit`. -/
inductive HubTraffic where
  | sendMessageAsync (dataSize : Nat) (o : SendAnswer)
  | setReportedPropertiesAsync (reportedData sendReportedState : Bool)
  | callback (c : HubCallback)
  /-- `AgentTelemetryCounter_SnapshotAndReset` on the adapter's counter. -/
  | snapshotAndReset (o : LockOutcome)

/-- A call. -/
inductive HubCall where
  | init (lockInit : Bool) (lock : LockOutcome) (o : InitAnswer) (twinUpdatesQueue : Option Nat)
  | traffic (t : HubTraffic)
  | deinit (lock : LockOutcome) (destroy : List HubCallback)

namespace IoTHubAdapter

variable (conf : HubConfiguration)

/-- One call between initialization and teardown: the events, and the state after it. -/
def serve (s : Hub) : HubTraffic → List HubEvent × Hub
  | .sendMessageAsync dataSize o =>
      let (_, es, s) := sendMessageAsync conf o dataSize s
      (es, s)
  | .setReportedPropertiesAsync reportedData sendReportedState =>
      ((setReportedPropertiesAsync reportedData sendReportedState s).2, s)
  | .callback c =>
      let (es, a) := s.adapter.callback c
      (es, { s with adapter := a })
  | .snapshotAndReset o =>
      let (taken, counter, c) := s.adapter.messageCounter.snapshotAndReset o
      (if taken then [.snapshot counter] else [],
        { s with adapter := { s.adapter with messageCounter := c } })

/-- One call. -/
def step (s : Hub) : HubCall → List HubEvent × Hub
  | .init lockInit lock o twinUpdatesQueue =>
      let (_, es, s) := init conf lockInit lock o twinUpdatesQueue s
      (es, s)
  | .traffic t => serve conf s t
  | .deinit lock destroy => deinit lock destroy s

/-! ## What the functions can do -/

theorem callback_frame (a : IoTHubAdapter) (c : HubCallback) :
    (a.callback c).2.moduleHandle = a.moduleHandle
      ∧ (a.callback c).2.hubInitiated = a.hubInitiated := by
  cases c with
  | sendConfirm confirmed o => cases confirmed <;> exact ⟨rfl, rfl⟩
  | connectionStatus authenticated reason => exact ⟨rfl, rfl⟩
  | deviceTwin queued => exact ⟨rfl, rfl⟩

/-- Callbacks leave the client and the initialization alone. -/
theorem callbacks_frame (cs : List HubCallback) :
    ∀ a : IoTHubAdapter, (callbacks cs a).2.moduleHandle = a.moduleHandle
      ∧ (callbacks cs a).2.hubInitiated = a.hubInitiated := by
  induction cs with
  | nil => intro a; exact ⟨rfl, rfl⟩
  | cons c cs ih =>
      intro a
      obtain ⟨hhandle, hinit⟩ := a.callback_frame c
      obtain ⟨hhandle', hinit'⟩ := ih (a.callback c).2
      exact ⟨hhandle'.trans hhandle, hinit'.trans hinit⟩

theorem configure_fst (handle : Nat) (calls : List (ClientFunction × Bool)) :
    (configure handle calls).1 = calls.all Prod.snd := by
  induction calls with
  | nil => rfl
  | cons call calls ih =>
      obtain ⟨function, ok⟩ := call
      cases ok with
      | false => rfl
      | true => exact ih

/-- The calls that configure a client are calls on that client. -/
theorem configure_uses (handle : Nat) (calls : List (ClientFunction × Bool)) :
    ∀ e ∈ (configure handle calls).2, ∃ function, e = .client (.use function handle) := by
  induction calls with
  | nil => intro e he; exact absurd he List.not_mem_nil
  | cons call calls ih =>
      obtain ⟨function, ok⟩ := call
      intro e he
      cases ok with
      | false => exact ⟨function, List.mem_singleton.mp he⟩
      | true =>
          rcases List.mem_cons.mp he with rfl | he
          · exact ⟨function, rfl⟩
          · exact ih e he

/-- The cleared adapter with a new client. -/
def made (twinUpdatesQueue : Option Nat) (handle : Nat) : IoTHubAdapter :=
  { zero with twinUpdatesQueue := twinUpdatesQueue, moduleHandle := some handle }

/-- The rebuilt adapter, before it connects. -/
def rebuilt (s : Hub) : IoTHubAdapter :=
  { made s.adapter.twinUpdatesQueue s.nextHandle with
    messageCounter := ⟨.zero, true⟩
    hubInitiated := true }

/-- An initialization goes one of three ways: no client is made, the client that is made is
destroyed again, or all succeeds. In all of them the adapter has been cleared. -/
theorem initInternal_cases (o : InitAnswer) (q : Option Nat) (s : Hub) :
    (o.create = false ∧ initInternal conf o q s
        = (false, [], { s with adapter := { zero with twinUpdatesQueue := q } }))
      ∨ (o.create = true ∧ o.succeeds conf.useMqtt = false ∧ initInternal conf o q s
        = (false, .client (.acquire s.nextHandle)
              :: (configure s.nextHandle (o.configuration conf.useMqtt)).2
              ++ .client (.release s.nextHandle) :: (callbacks o.destroy (made q s.nextHandle)).1,
            { s with
              adapter := (callbacks o.destroy (made q s.nextHandle)).2
              nextHandle := s.nextHandle + 1 }))
      ∨ (o.succeeds conf.useMqtt = true ∧ initInternal conf o q s
        = (true, .client (.acquire s.nextHandle)
              :: (configure s.nextHandle (o.configuration conf.useMqtt)).2,
            { s with
              adapter := { made q s.nextHandle with
                messageCounter := ⟨.zero, true⟩
                hubInitiated := true }
              nextHandle := s.nextHandle + 1 })) := by
  have hsucc : o.succeeds conf.useMqtt = (o.create
      && (configure s.nextHandle (o.configuration conf.useMqtt)).1 && o.counterLock) := by
    rw [configure_fst]
    rfl
  rcases hc : configure s.nextHandle (o.configuration conf.useMqtt) with ⟨configured, es⟩
  rw [hc] at hsucc
  cases hcreate : o.create with
  | false => exact Or.inl ⟨rfl, by simp only [initInternal, hcreate, if_true]; rfl⟩
  | true =>
      right
      rw [hcreate, Bool.true_and] at hsucc
      simp only [initInternal, hcreate, hc, Bool.true_eq_false, if_false]
      cases configured with
      | false =>
          rw [if_pos (Or.inl rfl)]
          exact Or.inl ⟨trivial, hsucc, rfl⟩
      | true =>
          cases hlock : o.counterLock with
          | false =>
              rw [if_pos (Or.inr rfl)]
              exact Or.inl ⟨trivial, hsucc.trans hlock, rfl⟩
          | true =>
              rw [if_neg (by simp)]
              exact Or.inr ⟨hsucc.trans hlock, rfl⟩

/-- An initialization leaves `hubInitiated` as its success, and the lock alone. -/
theorem initInternal_ready (o : InitAnswer) (q : Option Nat) (s : Hub) :
    (initInternal conf o q s).2.2.adapter.hubInitiated = o.succeeds conf.useMqtt
      ∧ (initInternal conf o q s).1 = o.succeeds conf.useMqtt
      ∧ (initInternal conf o q s).2.2.iotHubAdapterLock = s.iotHubAdapterLock := by
  rcases initInternal_cases conf o q s with ⟨hcreate, hr⟩ | ⟨-, hsucc, hr⟩ | ⟨hsucc, hr⟩
  · have hsucc : o.succeeds conf.useMqtt = false := by simp [InitAnswer.succeeds, hcreate]
    rw [hr, hsucc]
    exact ⟨rfl, rfl, rfl⟩
  · rw [hr, hsucc]
    exact ⟨(callbacks_frame _ _).2, rfl, rfl⟩
  · rw [hr, hsucc]
    exact ⟨rfl, rfl, rfl⟩

/-- What a successful initialization makes. -/
theorem initInternal_adapter {o : InitAnswer} (q : Option Nat) (s : Hub)
    (h : o.succeeds conf.useMqtt = true) : (initInternal conf o q s).2.2.adapter
      = { made q s.nextHandle with messageCounter := ⟨.zero, true⟩, hubInitiated := true } := by
  rcases initInternal_cases conf o q s with ⟨hcreate, -⟩ | ⟨-, hfail, -⟩ | ⟨-, hr⟩
  · exact absurd h (by simp [InitAnswer.succeeds, hcreate])
  · exact absurd (hfail.symm.trans h) (by simp)
  · rw [hr]

/-- The initialization behind a new lock. -/
theorem init_cases (lockInit : Bool) (lock : LockOutcome) (o : InitAnswer) (q : Option Nat)
    (s : Hub) :
    ((lockInit = false ∨ lock.lock = false)
        ∧ init conf lockInit lock o q s = (false, [], { s with iotHubAdapterLock := lockInit }))
      ∨ (lockInit = true ∧ lock.lock = true ∧ init conf lockInit lock o q s
        = (lock.unlock && (initInternal conf o q { s with iotHubAdapterLock := lockInit }).1,
          (initInternal conf o q { s with iotHubAdapterLock := lockInit }).2)) := by
  unfold init
  by_cases hlock : lockInit = false ∨ lock.lock = false
  · exact Or.inl ⟨hlock, if_pos hlock⟩
  · rw [if_neg hlock]
    simp only [not_or, Bool.not_eq_false] at hlock
    refine Or.inr ⟨hlock.1, hlock.2, ?_⟩
    cases lock.unlock <;> rfl

/-- A message finds the adapter locked and initialized. -/
def Admits (s : Hub) (o : SendAnswer) : Prop :=
  s.iotHubAdapterLock = true ∧ o.lock.lock = true ∧ s.adapter.hubInitiated = true

/-- A message finds the adapter disconnected, with a connection string that can be renewed. -/
def Disconnected (s : Hub) : Prop := s.adapter.connected = false ∧ conf.useDps = true

/-- The message behind the lock; a failed unlock turns its result into a failure. -/
theorem sendMessageAsync_eq (o : SendAnswer) (dataSize : Nat) (s : Hub) :
    sendMessageAsync conf o dataSize s
      = if s.iotHubAdapterLock = false ∨ o.lock.lock = false then (false, [], s)
        else (o.lock.unlock && (sendMessageAsyncInternal conf o dataSize s).1,
          (sendMessageAsyncInternal conf o dataSize s).2) := by
  unfold sendMessageAsync
  cases o.lock.unlock <;> rfl

/-- A message is turned away, or handed over, or it rebuilds the adapter and is handed over if that
succeeds. -/
theorem sendMessageAsync_cases (o : SendAnswer) (dataSize : Nat) (s : Hub) :
    (¬ (Admits s o ∧ (Disconnected conf s → o.tryRenew = true))
        ∧ sendMessageAsync conf o dataSize s = (false, [], s))
      ∨ (Admits s o ∧ ¬ Disconnected conf s ∧ sendMessageAsync conf o dataSize s
        = (o.lock.unlock && (handOver o dataSize s).1, (handOver o dataSize s).2))
      ∨ (Admits s o ∧ Disconnected conf s ∧ o.tryRenew = true
        ∧ ∃ es s', reinit conf o s.adapter.twinUpdatesQueue s = (false, es, s')
          ∧ sendMessageAsync conf o dataSize s = (false, es, s'))
      ∨ (Admits s o ∧ Disconnected conf s ∧ o.tryRenew = true
        ∧ ∃ es s', reinit conf o s.adapter.twinUpdatesQueue s = (true, es, s')
          ∧ sendMessageAsync conf o dataSize s
            = (o.lock.unlock && (handOver o dataSize s').1, es ++ (handOver o dataSize s').2.1,
              (handOver o dataSize s').2.2)) := by
  rw [sendMessageAsync_eq]
  by_cases hlock : s.iotHubAdapterLock = false ∨ o.lock.lock = false
  · rw [if_pos hlock]
    refine Or.inl ⟨fun h => ?_, rfl⟩
    rcases hlock with hlock | hlock
    · exact absurd (hlock.symm.trans h.1.1) (by simp)
    · exact absurd (hlock.symm.trans h.1.2.1) (by simp)
  rw [if_neg hlock]
  simp only [not_or, Bool.not_eq_false] at hlock
  generalize hr : sendMessageAsyncInternal conf o dataSize s = r
  unfold sendMessageAsyncInternal at hr
  by_cases hinit : s.adapter.hubInitiated = false
  · rw [if_pos hinit] at hr
    refine Or.inl ⟨fun h => absurd (hinit.symm.trans h.1.2.2) (by simp), ?_⟩
    rw [← hr, Bool.and_false]
  rw [if_neg hinit] at hr
  have hadmits : Admits s o := ⟨hlock.1, hlock.2, by simpa using hinit⟩
  by_cases hd : Disconnected conf s
  · rw [if_pos (show s.adapter.connected = false ∧ conf.useDps = true from hd)] at hr
    cases hrenew : o.tryRenew with
    | false =>
        -- without a renewal nothing is rebuilt
        rw [if_pos hrenew] at hr
        refine Or.inl ⟨fun h => absurd (h.2 hd) (by simp), ?_⟩
        rw [← hr, Bool.and_false]
    | true =>
        rw [if_neg (by simp [hrenew])] at hr
        rcases hre : reinit conf o s.adapter.twinUpdatesQueue s with ⟨initialized, es, s'⟩
        rw [hre] at hr
        cases initialized with
        | false =>
            refine Or.inr (Or.inr (Or.inl ⟨hadmits, hd, rfl, es, s', rfl, ?_⟩))
            rw [← hr]
            exact Prod.ext (Bool.and_false _) rfl
        | true =>
            refine Or.inr (Or.inr (Or.inr ⟨hadmits, hd, rfl, es, s', rfl, ?_⟩))
            rw [← hr]
            rfl
  · rw [if_neg (show ¬ (s.adapter.connected = false ∧ conf.useDps = true) from hd)] at hr
    refine Or.inr (Or.inl ⟨hadmits, hd, ?_⟩)
    rw [hr]

/-- Rebuilding tears the adapter down, initializes it and, if that succeeds, connects it. -/
theorem reinit_cases (o : SendAnswer) (q : Option Nat) (s : Hub) :
    ∃ es a r, deinitInternal o.destroy s.adapter = (es, a)
      ∧ initInternal conf o.init q { s with adapter := a } = r
      ∧ ((r.1 = false ∧ reinit conf o q s = (false, es ++ r.2.1, r.2.2))
        ∨ (r.1 = true ∧ ∃ c, connect conf.connectionTimeout o.sleeps r.2.2.adapter = c
          ∧ reinit conf o q s
            = (c.1, es ++ r.2.1 ++ c.2.1, { r.2.2 with adapter := c.2.2 }))) := by
  rcases hd : deinitInternal o.destroy s.adapter with ⟨es, a⟩
  rcases hr : initInternal conf o.init q { s with adapter := a } with ⟨initialized, es', s'⟩
  refine ⟨es, a, _, rfl, hr, ?_⟩
  simp only [reinit, hd, hr]
  cases initialized with
  | false => exact Or.inl ⟨rfl, rfl⟩
  | true => exact Or.inr ⟨rfl, _, rfl, rfl⟩

end IoTHubAdapter

end SecurityAgent
