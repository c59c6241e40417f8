import Mathlib.Data.List.Basic

/-!
# Searching the audit log: `audit_search.c`, `audit_search_utils.c`, `audit_search_record.c`

What libaudit answers about one event of the log is the event here: its fields,
each with the three ways to read it, and its records. The search hands out the events of the
log that meet its rules, one after the other; from the first run on one of the
rules is the checkpoint, the second at which the run before opened its search.

A C string is a `String` whose characters are its bytes.
-/

namespace SecurityAgent

/-- `AuditSearchResultValues`. -/
inductive AuditSearchResult where
  | ok
  | hasMoreData
  | noMoreData
  | noData
  | fieldDoesNotExist
  | recordDoesNotExist
  | exception
  deriving DecidableEq, Repr

/-- `AuditSearchCriteria`. -/
inductive AuditSearchCriteria where
  | type
  | syscall
  deriving DecidableEq, Repr

/-! ## Events -/

/-- The time of an `au_event_t`. -/
structure AuditTime where
  sec : Int
  milli : Nat
  deriving DecidableEq, Repr

/-- What a field that was found reads as; `none` is a reader that fails. -/
structure AuditField where
  /-- `auparse_get_field_str`. -/
  string : Option String
  /-- `auparse_get_field_int`. -/
  int : Option Int32
  /-- `auparse_interpret_field`. -/
  interpreted : Option String

/-- What `auparse_find_field` answers; a failure is `NULL` with `errno` set. -/
inductive FieldAnswer where
  | found (field : AuditField)
  | notFound
  | failure

/-- One record of an event. -/
structure AuditRecord where
  /-- `auparse_goto_record_num` gets there. -/
  reachable : Bool
  /-- `auparse_get_type`. -/
  type : Int
  /-- `auparse_get_record_text`. -/
  text : Option String
  /-- `auparse_find_field`, from this record on. -/
  field : String → FieldAnswer

/-- One event of the log. -/
structure AuditEvent where
  /-- Its serial number, by which it is told from all others. -/
  serial : Nat
  time : AuditTime
  /-- `auparse_get_timestamp` does not return `NULL`. -/
  timestamp : Bool
  /-- `auparse_first_record`: negative for an error, 0 for no data. -/
  firstRecord : Int
  /-- `auparse_find_field`, from the first record on. -/
  field : String → FieldAnswer
  records : List AuditRecord

/-- Where no search has been made yet there is nothing to read. -/
def AuditEvent.nothing : AuditEvent :=
  { serial := 0, time := ⟨0, 0⟩, timestamp := false, firstRecord := 0,
    field := fun _ => .notFound, records := [] }

namespace AuditSearchUtils

/-- The three readers of `audit_search_utils.c`: `read` is what the field is read with. -/
def readField {α : Type} (answer : FieldAnswer) (read : AuditField → Option α) :
    Except AuditSearchResult α :=
  match answer with
  | .failure => .error .exception
  | .notFound => .error .fieldDoesNotExist
  | .found field =>
      match read field with
      | none => .error .exception
      | some output => .ok output

/-- `AuditSearchUtils_ReadInt`. -/
def readInt (answer : FieldAnswer) : Except AuditSearchResult Int32 :=
  readField answer AuditField.int

/-- `AuditSearchUtils_ReadString`. -/
def readString (answer : FieldAnswer) : Except AuditSearchResult String :=
  readField answer AuditField.string

/-- `AuditSearchUtils_InterpretString`. -/
def interpretString (answer : FieldAnswer) : Except AuditSearchResult String :=
  readField answer AuditField.interpreted

end AuditSearchUtils

namespace AuditEvent

/-- The readers of `audit_search.c` go to the first record before they read. -/
def fromFirstRecord {α : Type} (e : AuditEvent) (read : FieldAnswer → Except AuditSearchResult α)
    (fieldName : String) : Except AuditSearchResult α :=
  if e.firstRecord = -1 then .error .exception
  else if e.firstRecord = 0 then .error .noData
  else read (e.field fieldName)

/-- `AuditSearch_ReadInt`. -/
def readInt (e : AuditEvent) (fieldName : String) : Except AuditSearchResult Int32 :=
  e.fromFirstRecord AuditSearchUtils.readInt fieldName

/-- `AuditSearch_ReadString`. -/
def readString (e : AuditEvent) (fieldName : String) : Except AuditSearchResult String :=
  e.fromFirstRecord AuditSearchUtils.readString fieldName

/-- `AuditSearch_InterpretString`. -/
def interpretString (e : AuditEvent) (fieldName : String) : Except AuditSearchResult String :=
  e.fromFirstRecord AuditSearchUtils.interpretString fieldName

/-- `AuditSearch_GetEventTime`; the seconds go through a `uint32_t`. -/
def getEventTime (e : AuditEvent) : Except AuditSearchResult UInt32 :=
  if e.timestamp then .ok (UInt32.ofInt e.time.sec) else .error .exception

/-- The loop of `AuditSearchRecord_Goto`. -/
def gotoRecord (wantedType : Int) : List AuditRecord → Except AuditSearchResult AuditRecord
  | [] => .error .recordDoesNotExist
  | r :: rs =>
      if r.reachable = false then .error .exception
      else if r.type = 0 then .error .exception
      else if r.type = wantedType then .ok r
      else gotoRecord wantedType rs

/-- `AuditSearchRecord_Goto`. -/
def goto (e : AuditEvent) (wantedType : Int) : Except AuditSearchResult AuditRecord :=
  if e.records.length = 0 then .error .exception else gotoRecord wantedType e.records

end AuditEvent

namespace AuditRecord

/-- `AuditSearchRecord_MaxRecordLength`; the length is cut to 32 bits. -/
def maxRecordLength (r : AuditRecord) : Except AuditSearchResult Nat :=
  match r.text with
  | none => .error .exception
  | some text => .ok (UInt32.ofNat text.length).toNat

/-- `AuditSearchRecord_ReadInt`. -/
def readInt (r : AuditRecord) (fieldName : String) : Except AuditSearchResult Int32 :=
  AuditSearchUtils.readInt (r.field fieldName)

/-- `AuditSearchRecord_InterpretString`. -/
def interpretString (r : AuditRecord) (fieldName : String) : Except AuditSearchResult String :=
  AuditSearchUtils.interpretString (r.field fieldName)

end AuditRecord

/-! ## Rules -/

/-- What libaudit is asked for besides the time: `ausearch_add_item`,
`ausearch_add_interpreted_item` with `=`, and `ausearch_add_expression`. -/
inductive AuditCriterion where
  | item (field value : String)
  | interpretedItem (field value : String)
  | expression (text : String)
  deriving DecidableEq, Repr

/-- `ausearch_rule_t`. -/
inductive AusearchRule where
  | clear
  | or
  | and
  deriving DecidableEq, Repr

/-- The time is after the start of a second: what `ausearch_add_timestamp_item` with `>` and no
milliseconds asks for. -/
def AuditTime.after (time : AuditTime) (sec : Int) : Bool :=
  sec < time.sec || (sec = time.sec && 0 < time.milli)

/-- libaudit's state: the rules put together so far, the event the cursor is on and the events after
it. The events are those that are in the log when the cursor gets to its end. -/
structure Auparse where
  expression : Option (AuditEvent → Bool)
  current : Option AuditEvent
  rest : List AuditEvent

namespace Auparse

/-- The `ausearch_add_` functions. A new expression is evaluated after the old one, which is what
makes the order in which rules are added matter. -/
def addRule (a : Auparse) (how : AusearchRule) (rule : AuditEvent → Bool) : Auparse :=
  { a with expression :=
      match how, a.expression with
      | .or, some old => some fun e => old e || rule e
      | .and, some old => some fun e => old e && rule e
      | _, _ => some rule }

/-- The event meets the rules. -/
def Matches (a : Auparse) (e : AuditEvent) : Bool :=
  match a.expression with
  | none => false
  | some expression => expression e

/-- `auparse_next_event`: to the next event, whether it meets the rules or not. -/
def nextEvent (works : Bool) (a : Auparse) : Int × Auparse :=
  if works = false then (-1, a)
  else
    match a.rest with
    | [] => (0, a)
    | e :: es => (1, { a with current := some e, rest := es })

/-- `ausearch_next_event`: from the event under the cursor, which may be found again, to the next
one that meets the rules. -/
def searchNext (works : Bool) (a : Auparse) : Int × Auparse :=
  if works = false then (-1, a)
  else
    match (a.current.toList ++ a.rest).dropWhile fun e => !a.Matches e with
    | [] => (0, { a with current := none, rest := [] })
    | e :: es => (1, { a with current := some e, rest := es })

end Auparse

/-! ## The search -/

/-- `AuditSearch`, its privileges apart. -/
structure AuditSearch where
  audit : Auparse
  searchTime : Int
  firstSearch : Bool

/-- What the environment answers while a search is opened. -/
structure SearchOutcome where
  /-- `ProcessInfoHandler_ChangeToRoot`. -/
  changeToRoot : Bool
  /-- `auparse_init`. -/
  auparseInit : Bool
  /-- The rule for the message type with this index. -/
  addRule : Nat → Bool
  /-- `Utils_CreateStringCopy` for the checkpoint's file name. -/
  copy : Bool
  /-- `FileUtils_ReadFile` does not return `FILE_UTILS_ERROR`. -/
  readFile : Bool
  /-- `ausearch_add_timestamp_item`. -/
  addTimestamp : Bool
  /-- `ausearch_set_stop`. -/
  setStop : Bool
  /-- `TimeUtils_GetCurrentTime`. -/
  currentTime : Int

/-- A search that opens at this time. -/
def SearchOutcome.ok (currentTime : Int) : SearchOutcome :=
  ⟨true, true, fun _ => true, true, true, true, true, currentTime⟩

/-- What libaudit answers during one `AuditSearch_GetNext`. -/
structure NextOutcome where
  nextEvent : Bool
  searchNext : Bool

/-- What happens to a checkpoint that is written. The file is cut short before it is written to. -/
inductive FileWrite where
  | written
  | notOpened
  | notWritten
  deriving DecidableEq, Repr

namespace AuditSearch

def AUDIT_SEARCH_CRITERIA_TYPE_NAME : String := "type"
def AUDIT_SEARCH_CRITERIA_SYSCALL_NAME : String := "syscall"
def AUDIT_USER_AUTH_NAME : String := "USER_AUTH"
def AUDIT_USER_AUTH_SEARECH_RULE : String :=
  "(type r= USER_AUTH) && (exe i!= \"/usr/bin/sudo\") && (exe i!= \"/bin/sudo\")"

/-- `AuditSearch_ConvertCriteriaToString`. -/
def convertCriteriaToString : AuditSearchCriteria → String
  | .type => AUDIT_SEARCH_CRITERIA_TYPE_NAME
  | .syscall => AUDIT_SEARCH_CRITERIA_SYSCALL_NAME

/-- What is asked for one message type. Logins are asked for by an expression that leaves `sudo`
out. -/
def criterion (searchCriteria : AuditSearchCriteria) (messageType : String) : AuditCriterion :=
  if searchCriteria = .type ∧ messageType = AUDIT_USER_AUTH_NAME then
    .expression AUDIT_USER_AUTH_SEARECH_RULE
  else if searchCriteria = .syscall then
    .interpretedItem (convertCriteriaToString searchCriteria) messageType
  else .item (convertCriteriaToString searchCriteria) messageType

/-- How libaudit judges an event by one criterion. -/
abbrev Judge := AuditCriterion → AuditEvent → Bool

variable (judge : Judge)

/-- The loop over the message types, `i` being the index of the first one left. -/
def addMessageTypes (o : SearchOutcome) (searchCriteria : AuditSearchCriteria) :
    Nat → List String → Auparse → Option Auparse
  | _, [], a => some a
  | i, messageType :: rest, a =>
      if o.addRule i then
        addMessageTypes o searchCriteria (i + 1) rest
          (a.addRule (if i = 0 then .clear else .or) (judge (criterion searchCriteria messageType)))
      else none

/-- `AuditSearch_AddCheckpointToSearch`. `checkpoint` is what the file holds: a file that is not
there, or that cannot be read in full, is no checkpoint. -/
def addCheckpointToSearch (o : SearchOutcome) (checkpoint : Option Int) (a : Auparse) :
    Option Auparse :=
  if o.readFile then
    match checkpoint with
    | none => some a
    | some timeval =>
        if o.addTimestamp then some (a.addRule .and fun e => e.time.after timeval) else none
  else none

/-- `AuditSearch_InitMultipleSearchCriteria`, with a checkpoint file: `none` is
`AUDIT_SEARCH_EXCEPTION`. The time is taken last, and before anything is read. -/
def initMultipleSearchCriteria (o : SearchOutcome) (searchCriteria : AuditSearchCriteria)
    (messageTypes : List String) (checkpoint : Option Int) (log : List AuditEvent) :
    Option AuditSearch :=
  if o.changeToRoot && o.auparseInit then
    (addMessageTypes judge o searchCriteria 0 messageTypes ⟨none, none, log⟩).bind fun a =>
      if o.copy then
        (addCheckpointToSearch o checkpoint a).bind fun a =>
          if o.setStop then some ⟨a, o.currentTime, true⟩ else none
      else none
  else none

/-- `AuditSearch_GetNext`. The cursor is moved on before every search but the first. -/
def getNext (o : NextOutcome) (s : AuditSearch) : AuditSearchResult × AuditSearch :=
  let (moved, audit) := if s.firstSearch then (1, s.audit) else s.audit.nextEvent o.nextEvent
  if moved = -1 then (.exception, { s with audit := audit })
  else if moved = 0 then (.noMoreData, { s with audit := audit })
  else
    let (found, audit) := audit.searchNext o.searchNext
    (if found = -1 then .exception else if found = 0 then .noMoreData else .hasMoreData,
      { s with audit := audit, firstSearch := false })

/-- The event the readers read. -/
def event (s : AuditSearch) : AuditEvent := s.audit.current.getD AuditEvent.nothing

/-- `AuditSearch_SetCheckpoint`: whether it succeeds, and the file afterwards. -/
def setCheckpoint (o : FileWrite) (s : AuditSearch) (checkpoint : Option Int) : Bool × Option Int :=
  match o with
  | .written => (true, some s.searchTime)
  | .notOpened => (false, checkpoint)
  | .notWritten => (false, none)

/-! ## What the search hands out -/

/-- The events the search has still to hand out. -/
def pending (s : AuditSearch) : List AuditEvent :=
  ((if s.firstSearch then s.audit.current.toList else []) ++ s.audit.rest).filter s.audit.Matches

/-- What is dropped before the first match holds no match. -/
theorem filter_dropWhile {α : Type} (p : α → Bool) (l : List α) :
    (l.dropWhile fun x => !p x).filter p = l.filter p := by
  induction l with
  | nil => rfl
  | cons x xs ih =>
      rw [List.dropWhile_cons]
      cases hx : p x with
      | false =>
          rw [if_pos (by simp), List.filter_cons_of_neg (by simp [hx])]
          exact ih
      | true => rw [if_neg (by simp)]

theorem searchNext_cases {works : Bool} {a a' : Auparse} {found : Int}
    (h : a.searchNext works = (found, a')) :
    found = -1 ∧ works = false
      ∨ found = 0 ∧ (a.current.toList ++ a.rest).filter a.Matches = []
      ∨ found = 1 ∧ a'.expression = a.expression ∧ ∃ e, a'.current = some e
        ∧ (a.current.toList ++ a.rest).filter a.Matches = e :: a'.rest.filter a.Matches := by
  unfold Auparse.searchNext at h
  cases works with
  | false =>
      obtain ⟨rfl, _⟩ := Prod.mk.inj h
      exact Or.inl ⟨rfl, rfl⟩
  | true =>
      have hfilter := filter_dropWhile a.Matches (a.current.toList ++ a.rest)
      cases hdrop : (a.current.toList ++ a.rest).dropWhile fun e => !a.Matches e with
      | nil =>
          simp only [hdrop, Bool.true_eq_false, if_false] at h
          obtain ⟨rfl, _⟩ := Prod.mk.inj h
          rw [hdrop] at hfilter
          exact Or.inr (Or.inl ⟨rfl, hfilter.symm⟩)
      | cons e es =>
          simp only [hdrop, Bool.true_eq_false, if_false] at h
          obtain ⟨rfl, rfl⟩ := Prod.mk.inj h
          -- the first event left is the first that matches
          have he : a.Matches e = true := by
            have hne : (a.current.toList ++ a.rest).dropWhile (fun e => !a.Matches e) ≠ [] := by
              rw [hdrop]
              exact List.cons_ne_nil e es
            have hhead := List.head_dropWhile_not (fun e => !a.Matches e) hne
            simpa [hdrop] using hhead
          rw [hdrop, List.filter_cons_of_pos he] at hfilter
          exact Or.inr (Or.inr ⟨rfl, rfl, e, rfl, hfilter.symm⟩)

/-- The second half of `AuditSearch_GetNext`, from a cursor with these events ahead of it. -/
theorem getNext_search {o : NextOutcome} {s s' : AuditSearch} {audit : Auparse}
    {r : AuditSearchResult} (hexpression : audit.expression = s.audit.expression)
    (hahead : (audit.current.toList ++ audit.rest).filter s.audit.Matches = s.pending)
    (h : ((if (audit.searchNext o.searchNext).1 = -1 then AuditSearchResult.exception
        else if (audit.searchNext o.searchNext).1 = 0 then .noMoreData else .hasMoreData),
      ({ s with audit := (audit.searchNext o.searchNext).2, firstSearch := false } : AuditSearch))
        = (r, s')) :
    s'.searchTime = s.searchTime
      ∧ (r = .exception ∧ (o.nextEvent = false ∨ o.searchNext = false)
        ∨ r = .noMoreData ∧ s.pending = []
        ∨ r = .hasMoreData ∧ s.pending = s'.event :: s'.pending) := by
  obtain ⟨rfl, rfl⟩ := Prod.mk.inj h
  have hmatches : audit.Matches = s.audit.Matches := by
    funext e
    simp only [Auparse.Matches, hexpression]
  refine ⟨rfl, ?_⟩
  rcases searchNext_cases (Prod.eta (audit.searchNext o.searchNext)).symm with
    ⟨hfound, hworks⟩ | ⟨hfound, hnone⟩ | ⟨hfound, hsame, e, hcurrent, hsplit⟩
  · exact Or.inl ⟨by rw [hfound, if_pos rfl], Or.inr hworks⟩
  · rw [hmatches, hahead] at hnone
    exact Or.inr (Or.inl ⟨by rw [hfound]; decide, hnone⟩)
  · rw [hmatches, hahead] at hsplit
    refine Or.inr (Or.inr ⟨by rw [hfound]; decide, ?_⟩)
    rw [hsplit]
    have hkeeps : (audit.searchNext o.searchNext).2.Matches = s.audit.Matches := by
      funext e
      simp only [Auparse.Matches, hsame, hexpression]
    simp only [event, pending, hcurrent, Option.getD_some, Bool.false_eq_true, if_false,
      List.nil_append, hkeeps]

/-- All that `AuditSearch_GetNext` can do. -/
theorem getNext_cases {o : NextOutcome} {s s' : AuditSearch} {r : AuditSearchResult}
    (h : s.getNext o = (r, s')) :
    s'.searchTime = s.searchTime
      ∧ (r = .exception ∧ (o.nextEvent = false ∨ o.searchNext = false)
        ∨ r = .noMoreData ∧ s.pending = []
        ∨ r = .hasMoreData ∧ s.pending = s'.event :: s'.pending) := by
  unfold getNext at h
  cases hfirst : s.firstSearch with
  | true =>
      simp only [hfirst, if_true, show ((1 : Int) = -1) = False by simp,
        show ((1 : Int) = 0) = False by simp, if_false] at h
      exact getNext_search rfl (by simp only [pending, hfirst, if_true]) h
  | false =>
      have hpending : s.pending = s.audit.rest.filter s.audit.Matches := by
        simp only [pending, hfirst, Bool.false_eq_true, if_false, List.nil_append]
      simp only [hfirst, Bool.false_eq_true, if_false] at h
      cases hworks : o.nextEvent with
      | false =>
          simp only [Auparse.nextEvent, hworks, if_true] at h
          obtain ⟨rfl, rfl⟩ := Prod.mk.inj h
          exact ⟨rfl, Or.inl ⟨rfl, Or.inl rfl⟩⟩
      | true =>
          cases hrest : s.audit.rest with
          | nil =>
              simp only [Auparse.nextEvent, hworks, hrest, Bool.true_eq_false, if_false,
                show ((0 : Int) = -1) = False by simp, if_true] at h
              obtain ⟨rfl, rfl⟩ := Prod.mk.inj h
              exact ⟨rfl, Or.inr (Or.inl ⟨rfl, by rw [hpending, hrest]; rfl⟩)⟩
          | cons e es =>
              simp only [Auparse.nextEvent, hworks, hrest, Bool.true_eq_false, if_false,
                show ((1 : Int) = -1) = False by simp, show ((1 : Int) = 0) = False by simp] at h
              have hsearch := @getNext_search o s s' { s.audit with current := some e, rest := es }
                r rfl (by rw [hpending, hrest]; rfl) h
              rwa [hworks] at hsearch

theorem getNext_works {o : NextOutcome} (h : o.nextEvent = true ∧ o.searchNext = true)
    (s : AuditSearch) : (s.getNext o).1 ≠ .exception := by
  intro hex
  rcases (getNext_cases (Prod.eta (s.getNext o)).symm).2 with ⟨_, hfails⟩ | ⟨hno, _⟩ | ⟨hmore, _⟩
  · rw [h.1, h.2] at hfails
    simp at hfails
  · rw [hex] at hno
    exact absurd hno (by decide)
  · rw [hex] at hmore
    exact absurd hmore (by decide)

/-! ## Opening a search -/

/-- Some criterion of the collector is met. -/
def Wanted (judge : Judge) (searchCriteria : AuditSearchCriteria) (messageTypes : List String)
    (e : AuditEvent) : Bool :=
  messageTypes.any fun messageType => judge (criterion searchCriteria messageType) e

/-- No checkpoint, or one the event is after. -/
def Unseen (checkpoint : Option Int) (e : AuditEvent) : Bool :=
  checkpoint.all fun timeval => e.time.after timeval

theorem addMessageTypes_spec {judge : Judge} {o : SearchOutcome}
    {searchCriteria : AuditSearchCriteria} {messageTypes : List String} :
    ∀ {i : Nat} {a a' : Auparse}, addMessageTypes judge o searchCriteria i messageTypes a = some a' →
      a'.current = a.current ∧ a'.rest = a.rest
        ∧ ∀ old, 0 < i → a.expression = some old → a'.expression
          = some fun e => old e || Wanted judge searchCriteria messageTypes e := by
  induction messageTypes with
  | nil =>
      intro i a a' h
      obtain rfl := Option.some.inj h
      refine ⟨rfl, rfl, fun old _ hold => ?_⟩
      rw [hold]
      simp [Wanted]
  | cons messageType rest ih =>
      intro i a a' h
      unfold addMessageTypes at h
      split at h
      · obtain ⟨hcurrent, hrest, hexpression⟩ := ih h
        refine ⟨hcurrent, hrest, fun old hi hold => ?_⟩
        rw [hexpression (fun e => old e || judge (criterion searchCriteria messageType) e)
          (Nat.succ_pos i)
          (by simp only [Auparse.addRule, if_neg (Nat.pos_iff_ne_zero.mp hi), hold])]
        simp only [Wanted, List.any_cons, Bool.or_assoc]
      · exact absurd h (by simp)

/-- **What an open search hands out**: the wanted events of the log that are after the checkpoint,
in the order of the log. -/
theorem init_pending {judge : Judge} {o : SearchOutcome} {searchCriteria : AuditSearchCriteria}
    {messageTypes : List String} {checkpoint : Option Int} {log : List AuditEvent} {s : AuditSearch}
    (hne : messageTypes ≠ [])
    (h : initMultipleSearchCriteria judge o searchCriteria messageTypes checkpoint log = some s) :
    s.searchTime = o.currentTime
      ∧ s.pending = log.filter fun e =>
        Wanted judge searchCriteria messageTypes e && Unseen checkpoint e := by
  obtain ⟨messageType, rest, rfl⟩ := List.exists_cons_of_ne_nil hne
  unfold initMultipleSearchCriteria at h
  split at h
  case isFalse => exact absurd h (by simp)
  obtain ⟨a, htypes, h⟩ := Option.bind_eq_some_iff.mp h
  split at h
  case isFalse => exact absurd h (by simp)
  obtain ⟨a', hcheckpoint, h⟩ := Option.bind_eq_some_iff.mp h
  split at h
  case isFalse => exact absurd h (by simp)
  obtain rfl := Option.some.inj h
  refine ⟨rfl, ?_⟩
  -- the first message type starts the expression, the others are or-ed to it
  unfold addMessageTypes at htypes
  split at htypes
  case isFalse => exact absurd htypes (by simp)
  obtain ⟨hcurrent, hrest, hexpression⟩ := addMessageTypes_spec htypes
  have ha : a.expression = some fun e => Wanted judge searchCriteria (messageType :: rest) e := by
    rw [hexpression _ Nat.one_pos rfl]
    simp only [Wanted, List.any_cons]
  -- and the checkpoint is and-ed to all of them
  have ha' : a'.current = none ∧ a'.rest = log ∧ a'.expression = some fun e =>
      Wanted judge searchCriteria (messageType :: rest) e && Unseen checkpoint e := by
    unfold addCheckpointToSearch at hcheckpoint
    split at hcheckpoint
    case isFalse => exact absurd hcheckpoint (by simp)
    cases checkpoint with
    | none =>
        obtain rfl := Option.some.inj hcheckpoint
        refine ⟨hcurrent, hrest, ?_⟩
        simp only [ha, Unseen, Option.all_none, Bool.and_true]
    | some timeval =>
        dsimp only at hcheckpoint
        split at hcheckpoint
        case isFalse => exact absurd hcheckpoint (by simp)
        obtain rfl := Option.some.inj hcheckpoint
        refine ⟨hcurrent, hrest, ?_⟩
        simp only [Auparse.addRule, ha, Unseen, Option.all_some]
  have hmatches : a'.Matches = fun e =>
      Wanted judge searchCriteria (messageType :: rest) e && Unseen checkpoint e := by
    funext e
    simp only [Auparse.Matches, ha'.2.2]
  simp only [pending, if_true, ha'.1, ha'.2.1, hmatches, Option.toList_none, List.nil_append]

end AuditSearch

end SecurityAgent
