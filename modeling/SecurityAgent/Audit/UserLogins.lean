import SecurityAgent.Audit.RecordTreatment
import SecurityAgent.Audit.UserLoginCollector

/-!
# Every login is reported

No record keeps another from being reported: neither one that is malformed, nor one the queue
has no memory for. An event says of a login what the log says, and nothing about a field that
the log does not have.
-/

namespace SecurityAgent

open AuditCollector

namespace UserLoginCollector

/-! ## What a record says -/

/-- What is said of a login. -/
structure Login where
  processId : Int32
  userId : Option String
  userName : Option String
  executable : String
  remoteAddress : Option String
  succeeded : Bool
  operation : Option String

/-- A field that may be missing, `none` where it cannot be read. -/
def present {α : Type} : Except AuditSearchResult α → Option (Option α)
  | .ok value => some (some value)
  | .error auditResult => if auditResult = .fieldDoesNotExist then some none else none

/-- How a login went, in any case of the letters. -/
def outcome (res : String) : Option Bool :=
  if res.toList.map Char.toLower = "success".toList then some true
  else if res.toList.map Char.toLower = "failed".toList then some false
  else none

/-- The login of a record, `none` where the record is malformed. -/
def login (e : AuditEvent) : Option Login := do
  let processId ← (e.readInt "pid").toOption
  let userId ← present (e.readString "id")
  let userName ← present (e.interpretString "acct")
  let executable ← (e.interpretString "exe").toOption
  let remoteAddress ← present (e.readString "addr")
  let res ← (e.readString "res").toOption
  let succeeded ← outcome res
  let operation ← present (e.readString "op")
  return ⟨processId, userId, userName, executable, remoteAddress.filter (· ≠ "?"), succeeded,
    operation⟩

/-- The payload says this of the login, and no more. -/
structure Login.SaidBy (l : Login) (payload : Json.Members) : Prop where
  processId : payload.lookup USER_LOGIN_PROCESS_ID_KEY = some (.number l.processId.toInt)
  userId : payload.lookup USER_LOGIN_USER_ID_KEY = l.userId.map Json.string
  userName : payload.lookup USER_LOGIN_USERNAME_KEY = l.userName.map Json.string
  executable : payload.lookup USER_LOGIN_EXECUTABLE_KEY = some (.string l.executable)
  remoteAddress : payload.lookup USER_LOGIN_REMOTE_ADDRESS_KEY = l.remoteAddress.map Json.string
  result : payload.lookup USER_LOGIN_RESULT_KEY = some (.string (if l.succeeded then
    USER_LOGIN_RESULT_SUCCESS_VALUE else USER_LOGIN_RESULT_FAILED_VALUE))
  operation : payload.lookup USER_LOGIN_OPERATION_KEY = l.operation.map Json.string

/-! ## The payload -/

/-- A member that is written if there is a value for it. -/
def addOptional (payload : JsonObjectWriter) (key : String) (value : Option String) :
    JsonObjectWriter :=
  value.elim payload (payload.writeString key)

theorem lookup_addOptional (payload : JsonObjectWriter) (key key' : String)
    (value : Option String) :
    (addOptional payload key value).rootObject.lookup key'
      = if key' = key ∧ value ≠ none then value.map Json.string
        else payload.rootObject.lookup key' := by
  cases value with
  | none => simp [addOptional]
  | some value => simp [addOptional, JsonObjectWriter.writeString, JsonObjectWriter.lookup_setValue]

/-- The payload of a login. -/
def Login.payload (l : Login) : JsonObjectWriter :=
  let payload := JsonObjectWriter.init.writeInt USER_LOGIN_PROCESS_ID_KEY l.processId
  let payload := addOptional payload USER_LOGIN_USER_ID_KEY l.userId
  let payload := addOptional payload USER_LOGIN_USERNAME_KEY l.userName
  let payload := payload.writeString USER_LOGIN_EXECUTABLE_KEY l.executable
  let payload := addOptional payload USER_LOGIN_REMOTE_ADDRESS_KEY l.remoteAddress
  let payload := payload.writeString USER_LOGIN_RESULT_KEY
    (if l.succeeded then USER_LOGIN_RESULT_SUCCESS_VALUE else USER_LOGIN_RESULT_FAILED_VALUE)
  addOptional payload USER_LOGIN_OPERATION_KEY l.operation

theorem Login.saidBy_payload (l : Login) : l.SaidBy l.payload.rootObject := by
  constructor <;>
    simp [payload, lookup_addOptional, JsonObjectWriter.writeString, JsonObjectWriter.writeInt,
      JsonObjectWriter.lookup_setValue, JsonObjectWriter.init, USER_LOGIN_PROCESS_ID_KEY,
      USER_LOGIN_USER_ID_KEY, USER_LOGIN_USERNAME_KEY, USER_LOGIN_EXECUTABLE_KEY,
      USER_LOGIN_REMOTE_ADDRESS_KEY, USER_LOGIN_RESULT_KEY, USER_LOGIN_OPERATION_KEY]

/-- The handlers for a field that has to be there. -/
theorem handleRequired_eq {α : Type} (read : Except AuditSearchResult α)
    (put : α → JsonObjectWriter) (payload : JsonObjectWriter) :
    GenericAuditEvent.handleValue true false read put payload
      = (read.toOption.map put).elim (.error .recordHasErrors) .ok := by
  cases read <;> rfl

/-- The handlers for a field that may be missing. -/
theorem handleOptional_eq (e : AuditEvent) (payload : JsonObjectWriter)
    (auditField jsonKey : String) :
    GenericAuditEvent.handleStringValue true payload e auditField jsonKey true
        = ((present (e.readString auditField)).map (addOptional payload jsonKey)).elim
          (.error .recordHasErrors) .ok
      ∧ GenericAuditEvent.handleInterpretStringValue true payload e auditField jsonKey true
        = ((present (e.interpretString auditField)).map (addOptional payload jsonKey)).elim
          (.error .recordHasErrors) .ok := by
  have hvalue : ∀ read : Except AuditSearchResult String,
      GenericAuditEvent.handleValue true true read (payload.writeString jsonKey) payload
        = ((present read).map (addOptional payload jsonKey)).elim (.error .recordHasErrors) .ok := by
    intro read
    cases read with
    | ok value => rfl
    | error auditResult => cases auditResult <;> rfl
  exact ⟨hvalue _, hvalue _⟩

/-- No text of the record has 4 GiB. -/
def Short (e : AuditEvent) : Prop :=
  ∀ fieldName text, e.readString fieldName = .ok text → text.length < 2 ^ 32

theorem isText_iff {auditStrValue text : String} (hvalue : auditStrValue.length < 2 ^ 32)
    (htext : text.length < 2 ^ 32) : isText auditStrValue text = true
      ↔ auditStrValue.toList.map Char.toLower = text.toList.map Char.toLower := by
  unfold isText
  rw [Utils.unsafeAreStringsEqual_eq hvalue htext]
  exact beq_iff_eq

theorem toLower_eq_questionMark {c : Char} (h : c.toLower = '?') : c = '?' := by
  unfold Char.toLower at h
  split at h
  · -- a letter is not a question mark, in either case
    rename_i hupper
    have hval : c.val + 32 = 63 := congrArg Char.val h
    have hnat := congrArg UInt32.toNat hval
    have hlower := UInt32.le_iff_toNat_le.mp hupper.1
    have hhigher := UInt32.le_iff_toNat_le.mp hupper.2
    rw [UInt32.toNat_add] at hnat
    change (c.val.toNat + 32) % 2 ^ 32 = 63 at hnat
    change 65 ≤ c.val.toNat at hlower
    change c.val.toNat ≤ 90 at hhigher
    omega
  · exact h

theorem isText_questionMark {auditStrValue : String} (hvalue : auditStrValue.length < 2 ^ 32) :
    isText auditStrValue AUDIT_USER_LOGIN_NOT_A_REAL_REMOTE_ADDRESS = true
      ↔ auditStrValue = "?" := by
  rw [isText_iff hvalue (by decide)]
  constructor
  · intro h
    obtain ⟨c, hlist, hc⟩ := List.map_eq_singleton_iff.mp h
    rw [toLower_eq_questionMark hc] at hlist
    exact String.toList_inj.mp hlist
  · rintro rfl
    rfl

theorem addRemoteAddress_eq {o : RecordOutcome} (ho : ∀ key, o.write key = true) {e : AuditEvent}
    (he : Short e) (payload : JsonObjectWriter) :
    addRemoteAddress o e payload = ((present (e.readString AUDIT_USER_LOGIN_REMOTE_ADDRESS)).map
      fun value => addOptional payload USER_LOGIN_REMOTE_ADDRESS_KEY (value.filter (· ≠ "?"))).elim
        (.error .recordHasErrors) .ok := by
  unfold addRemoteAddress
  cases hread : e.readString AUDIT_USER_LOGIN_REMOTE_ADDRESS with
  | ok auditStrValue =>
      have hiff := isText_questionMark (he _ _ hread)
      dsimp only
      by_cases hquestion : auditStrValue = "?"
      · rw [if_pos (hiff.mpr hquestion)]
        simp [present, addOptional, hquestion, Option.filter_some]
      · rw [if_neg (fun h => hquestion (hiff.mp h))]
        simp [present, addOptional, hquestion, writeString, ho, Option.filter_some]
  | error auditResult => cases auditResult <;> rfl

theorem addResult_eq {o : RecordOutcome} (ho : ∀ key, o.write key = true) {e : AuditEvent}
    (he : Short e) (payload : JsonObjectWriter) :
    addResult o e payload = (((e.readString AUDIT_USER_LOGIN_RESULT).toOption.bind outcome).map
      fun succeeded => payload.writeString USER_LOGIN_RESULT_KEY
        (if succeeded then USER_LOGIN_RESULT_SUCCESS_VALUE else USER_LOGIN_RESULT_FAILED_VALUE)).elim
        (.error .recordHasErrors) .ok := by
  unfold addResult
  cases hread : e.readString AUDIT_USER_LOGIN_RESULT with
  | error auditResult => rfl
  | ok auditStrValue =>
      have hshort := he _ _ hread
      have hsuccess : isText auditStrValue AUDIT_USER_LOGIN_RESULT_SUCCESS = true
          ↔ auditStrValue.toList.map Char.toLower = "success".toList :=
        isText_iff hshort (by decide)
      have hfailed : isText auditStrValue AUDIT_USER_LOGIN_RESULT_FAILED = true
          ↔ auditStrValue.toList.map Char.toLower = "failed".toList :=
        isText_iff hshort (by decide)
      dsimp only [Except.toOption, Option.bind]
      unfold outcome
      by_cases h₁ : auditStrValue.toList.map Char.toLower = "success".toList
      · rw [if_pos (hsuccess.mpr h₁), if_pos h₁]
        simp [writeString, ho]
      · rw [if_neg (fun h => h₁ (hsuccess.mp h)), if_neg h₁]
        by_cases h₂ : auditStrValue.toList.map Char.toLower = "failed".toList
        · rw [if_pos (hfailed.mpr h₂), if_pos h₂]
          simp [writeString, ho]
        · rw [if_neg (fun h => h₂ (hfailed.mp h)), if_neg h₂]
          rfl

/-- **The payload is that of the record's login**, and a record without one has errors. -/
theorem generatePayload_eq {o : RecordOutcome} (ho : ∀ key, o.write key = true) {e : AuditEvent}
    (he : Short e) :
    generatePayload o e = (login e).elim (.error .recordHasErrors) fun l => .ok l.payload := by
  have hint (payload : JsonObjectWriter) : GenericAuditEvent.handleIntValue true payload e
      AUDIT_USER_LOGIN_PROCESS_ID USER_LOGIN_PROCESS_ID_KEY false
        = ((e.readInt "pid").toOption.map (payload.writeInt USER_LOGIN_PROCESS_ID_KEY)).elim
          (.error .recordHasErrors) .ok := handleRequired_eq _ _ _
  have hexe (payload : JsonObjectWriter) : GenericAuditEvent.handleInterpretStringValue true
      payload e AUDIT_USER_LOGIN_EXECUTEABLE USER_LOGIN_EXECUTABLE_KEY false
        = ((e.interpretString "exe").toOption.map
          (payload.writeString USER_LOGIN_EXECUTABLE_KEY)).elim (.error .recordHasErrors) .ok :=
    handleRequired_eq _ _ _
  unfold generatePayload login
  simp only [ho, hint, hexe, handleOptional_eq, addRemoteAddress_eq ho he, addResult_eq ho he,
    AUDIT_USER_LOGIN_USER_ID, AUDIT_USER_LOGIN_USER_NAME, AUDIT_USER_LOGIN_REMOTE_ADDRESS,
    AUDIT_USER_LOGIN_RESULT, AUDIT_USER_LOGIN_OPERATION]
  -- the first field that is missing or malformed decides
  cases (e.readInt "pid").toOption with
  | none => rfl
  | some processId =>
    cases present (e.readString "id") with
    | none => rfl
    | some userId =>
      cases present (e.interpretString "acct") with
      | none => rfl
      | some userName =>
        cases (e.interpretString "exe").toOption with
        | none => rfl
        | some executable =>
          cases present (e.readString "addr") with
          | none => rfl
          | some remoteAddress =>
            cases (e.readString "res").toOption with
            | none => rfl
            | some res =>
              cases houtcome : outcome res with
              | none => simp [houtcome, bind, Except.bind]
              | some succeeded =>
                simp only [Option.bind_some, houtcome, bind, Except.bind, Option.map_some,
                  Option.elim_some]
                cases present (e.readString "op") with
                | none => rfl
                | some operation => rfl

/-! ## One record -/

/-- What the event made of a record says. -/
def Describes (clock : Clock) (e : AuditEvent) (event : Json) : Prop :=
  ∃ (l : Login) (payload : JsonObjectWriter), login e = some l ∧ l.SaidBy payload.rootObject
    ∧ IsEvent clock USER_LOGIN_NAME (UInt32.ofInt e.time.sec) payload event

/-- The record has a time and a login. -/
def wellFormed (e : AuditEvent) : Bool := e.timestamp && (login e).isSome

/-- Nothing fails but the push, which may be refused for want of memory. -/
structure SucceedsUpToPush (clock : Clock) (o : RecordOutcome) : Prop where
  succeeds : { o with push := .queue .ok }.Succeeds clock
  push : o.push = .queue .ok ∨ o.push = .queue .maxMemoryExceeded

section

variable {clock : Clock} {o : RecordOutcome} {e : AuditEvent}

/-- Without a time or a login a record has errors. -/
theorem createSingleEvent_malformed (ho : SucceedsUpToPush clock o)
    (hclock : ∀ time : UInt32, clock.Prints time.toNat) (he : Short e)
    (hwell : wellFormed e = false) : createSingleEvent clock o e = (.recordHasErrors, none) := by
  have hevent : o.event = true := ho.succeeds.event
  have hpayload : o.payload = true := ho.succeeds.payload
  unfold createSingleEvent AuditCollector.createSingleEvent
  cases htime : e.timestamp with
  | false => simp [hevent, AuditEvent.getEventTime, htime]
  | true =>
      have hlogin : login e = none := by
        simpa [wellFormed, htime] using hwell
      have hgenerate := generatePayload_eq ho.succeeds.write he
      obtain ⟨event, hmetadata, _⟩ := addMetadataWithTimes_isSome USER_LOGIN_NAME
        USER_LOGIN_PAYLOAD_SCHEMA_VERSION ho.succeeds (hclock (UInt32.ofInt e.time.sec))
      have hmalformed : generatePayload o e = .error .recordHasErrors := by
        rw [hlogin] at hgenerate
        exact hgenerate
      dsimp only at hmetadata
      simp [hevent, hpayload, AuditEvent.getEventTime, htime, hmetadata, hmalformed]

/-- With both it is pushed, if there is memory for it. -/
theorem createSingleEvent_wellFormed (ho : SucceedsUpToPush clock o)
    (hclock : ∀ time : UInt32, clock.Prints time.toNat) (he : Short e)
    (hwell : wellFormed e = true) :
    ∃ event, Describes clock e event ∧ createSingleEvent clock o e
      = if o.push = .queue .ok then (.ok, some event) else (.outOfMem, none) := by
  obtain ⟨htime, hlogin⟩ := Bool.and_eq_true_iff.mp hwell
  obtain ⟨l, hlogin⟩ := Option.isSome_iff_exists.mp hlogin
  have hgenerate : generatePayload o e = .ok l.payload := by
    have heq := generatePayload_eq (o := o) ho.succeeds.write he
    rwa [hlogin] at heq
  have hok : ∃ event, AuditCollector.createSingleEvent clock USER_LOGIN_NAME
      USER_LOGIN_PAYLOAD_SCHEMA_VERSION .recordHasErrors .exception
      (fun e kept => (generatePayload o e, kept)) { o with push := .queue .ok } e (noAggregator, ())
        = (.ok, some event, noAggregator, ())
      ∧ IsEvent clock USER_LOGIN_NAME (UInt32.ofInt e.time.sec) l.payload event :=
    AuditCollector.createSingleEvent_ok ho.succeeds hclock htime (congrArg (·, ()) hgenerate)
  obtain ⟨event, hcreate, hevent⟩ := hok
  refine ⟨event, ⟨l, l.payload, hlogin, l.saidBy_payload, hevent⟩, ?_⟩
  rcases ho.push with hpush | hpush
  · have hsame : { o with push := .queue .ok } = o := by rw [← hpush]
    rw [hsame] at hcreate
    rw [if_pos hpush]
    unfold createSingleEvent
    rw [hcreate]
  · obtain ⟨members, hmetadata, _⟩ := addMetadataWithTimes_isSome USER_LOGIN_NAME
      USER_LOGIN_PAYLOAD_SCHEMA_VERSION ho.succeeds (hclock (UInt32.ofInt e.time.sec))
    have hinit : o.event = true := ho.succeeds.event
    have hpayload : o.payload = true := ho.succeeds.payload
    have hpayloads : o.payloads = true := ho.succeeds.payloads
    have haddObject : o.addObject = true := ho.succeeds.addObject
    have haddPayload : o.addPayload = true := ho.succeeds.addPayload
    have hserialize : o.serialize = true := ho.succeeds.serialize
    dsimp only at hmetadata
    unfold createSingleEvent AuditCollector.createSingleEvent
    simp [hinit, hpayload, hpayloads, haddObject, haddPayload, hserialize, hpush,
      AuditEvent.getEventTime, htime, hmetadata, hgenerate, GenericEvent.addPayload]

end

/-! ## A run -/

/-- The records a run reports, `i` being the index of the first: those that are well formed, and
that the queue has memory for. -/
def reported (o : CollectionOutcome RecordOutcome) : Nat → List AuditEvent → List AuditEvent
  | _, [] => []
  | i, e :: es =>
      if wellFormed e ∧ (o.record i).push = .queue .ok then e :: reported o (i + 1) es
      else reported o (i + 1) es

variable {clock : Clock} {o : CollectionOutcome RecordOutcome}

/-- **Whatever a record comes to, the loop goes on.** -/
theorem handleAll_reports (hclock : ∀ time : UInt32, clock.Prints time.toNat)
    (ho : ∀ i, SucceedsUpToPush clock (o.record i)) {es : List AuditEvent}
    (hes : ∀ e ∈ es, Short e) :
    ∀ i, (handleAll (collector clock) o false i es ()).result = .ok
      ∧ (handleAll (collector clock) o false i es ()).hasNextResult = .noMoreData
      ∧ (handleAll (collector clock) o false i es ()).handled = es
      ∧ List.Forall₂ (Describes clock) (reported o i es)
        (handleAll (collector clock) o false i es ()).made := by
  induction es with
  | nil => exact fun i => ⟨rfl, rfl, rfl, List.Forall₂.nil⟩
  | cons e es ih =>
      intro i
      have he := hes e List.mem_cons_self
      obtain ⟨hresult, hlast, hhandled, hmade⟩ :=
        ih (fun e' he' => hes e' (List.mem_cons_of_mem e he')) (i + 1)
      cases hwell : wellFormed e with
      | false =>
          have hcreate := createSingleEvent_malformed (ho i) hclock he hwell
          have hnext : handleAll (collector clock) o false i (e :: es) ()
              = Collection.after e none (handleAll (collector clock) o false (i + 1) es ()) := by
            simp [handleAll, collector, hcreate]
          rw [hnext, reported, hwell]
          exact ⟨hresult, hlast, congrArg _ hhandled, hmade⟩
      | true =>
          obtain ⟨event, hdescribes, hcreate⟩ := createSingleEvent_wellFormed (ho i) hclock he hwell
          rcases (ho i).push with hpush | hpush
          · have hnext : handleAll (collector clock) o false i (e :: es) ()
                = Collection.after e (some event)
                  (handleAll (collector clock) o false (i + 1) es ()) := by
              simp [handleAll, collector, hcreate, hpush]
            rw [hnext, reported, if_pos ⟨hwell, hpush⟩]
            exact ⟨hresult, hlast, congrArg _ hhandled, List.Forall₂.cons hdescribes hmade⟩
          · have hnext : handleAll (collector clock) o false i (e :: es) ()
                = Collection.after e none
                  (handleAll (collector clock) o false (i + 1) es ()) := by
              simp [handleAll, collector, hcreate, hpush]
            rw [hnext, reported, if_neg (fun h => by rw [hpush] at h; exact absurd h.2 (by decide))]
            exact ⟨hresult, hlast, congrArg _ hhandled, hmade⟩

/-- libaudit answers whatever it is asked, and the checkpoint can be written. -/
structure LogIsRead (judge : AuditSearch.Judge) (o : CollectionOutcome RecordOutcome)
    (log : List AuditEvent) (checkpoint : Option Int) : Prop where
  opens : (AuditSearch.initMultipleSearchCriteria judge o.search .type AUDIT_USER_LOGIN_TYPES
    checkpoint log).isSome = true
  next : ∀ i, (o.next i).nextEvent = true ∧ (o.next i).searchNext = true
  write : o.write = .written

variable {judge : AuditSearch.Judge} {log : List AuditEvent} {checkpoint : Option Int}

/-- A run whose loop comes to the end of the log succeeds. -/
theorem getEvents_ok (h : LogIsRead judge o log checkpoint)
    (hloop : (handleAll (collector clock) o false 0
      ((collector clock).found judge checkpoint log) ()).result = .ok)
    (hlast : (handleAll (collector clock) o false 0
      ((collector clock).found judge checkpoint log) ()).hasNextResult = .noMoreData) :
    (getEvents clock judge o log checkpoint).result = .ok := by
  obtain ⟨search, hinit⟩ := Option.isSome_iff_exists.mp h.opens
  obtain ⟨-, hpending⟩ := AuditSearch.init_pending (List.cons_ne_nil _ _) hinit
  obtain ⟨hcase, hup⟩ :=
    upcoming_getNext (Prod.eta _).symm (AuditSearch.getNext_works (h.next 0) search)
  have hlength : (upcoming (search.getNext (o.next 0)).1 (search.getNext (o.next 0)).2).length
      < log.length + 1 := by
    rw [hup, hpending]
    exact Nat.lt_succ_of_le (List.length_filter_le _ _)
  have hcollect := @collect_eq_handleAll Unit RecordOutcome (collector clock) o false h.next _ 0 _ _
    () hcase hlength
  rw [hup, hpending] at hcollect
  generalize hall : (collector clock).handleAll o false 0
    ((collector clock).found judge checkpoint log) () = loop at hloop hlast
  replace hcollect := hcollect.trans hall
  unfold getEvents AuditCollector.getEvents
  rw [show AuditSearch.initMultipleSearchCriteria judge o.search (collector clock).searchCriteria
    (collector clock).messageTypes checkpoint log = some search from hinit]
  simp [hcollect, hloop, hlast, h.write, AuditSearch.setCheckpoint]

/--
**Every login is reported.** Whatever the log holds, and whichever pushes are refused for want of
memory: the run succeeds and stores its checkpoint, it handles every record it is handed out, and
its events are, in order, those of the well-formed records the queue has memory for, each saying of
its login what the log says.
-/
theorem every_login_reported (hclock : ∀ time : UInt32, clock.Prints time.toNat)
    (hshort : ∀ e ∈ log, Short e) (hread : LogIsRead judge o log checkpoint)
    (ho : ∀ i, SucceedsUpToPush clock (o.record i)) :
    (getEvents clock judge o log checkpoint).result = .ok
      ∧ (getEvents clock judge o log checkpoint).checkpoint = some o.search.currentTime
      ∧ (getEvents clock judge o log checkpoint).handled
        = (collector clock).found judge checkpoint log
      ∧ List.Forall₂ (Describes clock) (reported o 0 ((collector clock).found judge checkpoint log))
        (getEvents clock judge o log checkpoint).made := by
  have hfound : ∀ e ∈ (collector clock).found judge checkpoint log, Short e :=
    fun e he => hshort e (List.mem_of_mem_filter he)
  obtain ⟨hresult, hlast, hhandled, hmade⟩ := handleAll_reports hclock ho hfound 0
  obtain ⟨loop, hloop, hhandled', hmade', hcheckpoint⟩ :=
    @getEvents_loop Unit RecordOutcome (collector clock) judge o false log checkpoint ()
      (List.cons_ne_nil _ _) hread.opens hread.next
  rw [Bool.false_and] at hloop
  refine ⟨getEvents_ok hread hresult hlast, hcheckpoint hread.write, ?_, ?_⟩
  · rw [getEvents, hhandled', hloop]
    exact hhandled
  · rw [getEvents, hmade', hloop]
    exact hmade

/-- A record each of whose fields reads so. -/
def uniformRecord (serial : Nat) (text : String) : AuditEvent where
  serial := serial
  time := ⟨10, 0⟩
  timestamp := true
  firstRecord := 1
  field _ := .found ⟨some text, some 7, some text⟩
  records := []

theorem short_uniformRecord (serial : Nat) {text : String} (h : text.length < 2 ^ 32) :
    Short (uniformRecord serial text) := by
  intro fieldName text' hread
  obtain rfl := Except.ok.inj (show Except.ok text = Except.ok text' from hread)
  exact h

/-- A malformed record, one that the queue has no memory for, and one that is reported. -/
theorem every_login_reported_three :
    let clock : Clock := ⟨fun _ => some "", fun _ => some ""⟩
    let o : CollectionOutcome RecordOutcome := { CollectionOutcome.ok 20 RecordOutcome.ok with
      record := fun i => { RecordOutcome.ok with
        push := if i = 1 then .queue .maxMemoryExceeded else .queue .ok } }
    let log := [uniformRecord 0 "maybe", uniformRecord 1 "Success", uniformRecord 2 "failed"]
    (getEvents clock (fun _ _ => true) o log none).result = .ok
      ∧ (getEvents clock (fun _ _ => true) o log none).checkpoint = some 20
      ∧ (getEvents clock (fun _ _ => true) o log none).handled
        = (collector clock).found (fun _ _ => true) none log
      ∧ List.Forall₂ (Describes clock)
        (reported o 0 ((collector clock).found (fun _ _ => true) none log))
        (getEvents clock (fun _ _ => true) o log none).made := by
  refine every_login_reported (fun _ => ⟨rfl, rfl⟩) ?_ ⟨rfl, fun _ => ⟨rfl, rfl⟩, rfl⟩ ?_
  · intro e he
    simp only [List.mem_cons, List.not_mem_nil, or_false] at he
    rcases he with rfl | rfl | rfl
    · exact short_uniformRecord 0 (by decide)
    · exact short_uniformRecord 1 (by decide)
    · exact short_uniformRecord 2 (by decide)
  · intro i
    refine ⟨⟨rfl, ⟨⟨rfl, rfl⟩, rfl, rfl⟩, rfl, fun _ => rfl, fun _ => rfl, rfl, rfl, rfl, rfl, rfl,
      ⟨rfl, rfl, rfl⟩⟩, ?_⟩
    by_cases hi : i = 1
    · exact Or.inr (if_pos hi)
    · exact Or.inl (if_neg hi)

end UserLoginCollector

end SecurityAgent
