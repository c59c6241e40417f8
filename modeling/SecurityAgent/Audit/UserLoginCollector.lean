import SecurityAgent.Audit.GenericAuditEvent
import SecurityAgent.Util.Utils

/-!
# Logins: `user_login_collector.c`

A login is an event of its own, always. Some of its fields may be missing, and an
address that is printed as a question mark is none; how the login went has to be one of two
words.
-/

namespace SecurityAgent

namespace UserLoginCollector

/-- `AUDIT_USER_LOGIN_TYPES`. -/
def AUDIT_USER_LOGIN_TYPES : List String := ["USER_LOGIN", "USER_AUTH"]
def AUDIT_USER_LOGIN_EXECUTEABLE : String := "exe"
def AUDIT_USER_LOGIN_PROCESS_ID : String := "pid"
def AUDIT_USER_LOGIN_USER_ID : String := "id"
def AUDIT_USER_LOGIN_USER_NAME : String := "acct"
def AUDIT_USER_LOGIN_RESULT : String := "res"
def AUDIT_USER_LOGIN_RESULT_SUCCESS : String := "success"
def AUDIT_USER_LOGIN_RESULT_FAILED : String := "failed"
def AUDIT_USER_LOGIN_REMOTE_ADDRESS : String := "addr"
def AUDIT_USER_LOGIN_NOT_A_REAL_REMOTE_ADDRESS : String := "?"
def AUDIT_USER_LOGIN_OPERATION : String := "op"
def USER_LOGIN_NAME : String := "Login"
def USER_LOGIN_PAYLOAD_SCHEMA_VERSION : String := "1.0"
def USER_LOGIN_PROCESS_ID_KEY : String := "ProcessId"
def USER_LOGIN_USER_ID_KEY : String := "UserId"
def USER_LOGIN_USERNAME_KEY : String := "UserName"
def USER_LOGIN_EXECUTABLE_KEY : String := "Executable"
def USER_LOGIN_RESULT_KEY : String := "Result"
def USER_LOGIN_RESULT_SUCCESS_VALUE : String := "Success"
def USER_LOGIN_RESULT_FAILED_VALUE : String := "Fail"
def USER_LOGIN_REMOTE_ADDRESS_KEY : String := "RemoteAddress"
def USER_LOGIN_OPERATION_KEY : String := "Operation"

/-- `JsonObjectWriter_WriteString`, a failure being an exception. -/
def writeString (written : Bool) (payload : JsonObjectWriter) (key value : String) :
    Except EventCollectorResult JsonObjectWriter :=
  if written then .ok (payload.writeString key value) else .error .exception

/-- The comparisons are made without regard to case. -/
def isText (auditStrValue text : String) : Bool :=
  (Utils.unsafeAreStringsEqual (some auditStrValue) (some text) false).getD false

/-- The remote address in `UserLoginEvent_GeneratePayload`. -/
def addRemoteAddress (o : RecordOutcome) (e : AuditEvent) (payload : JsonObjectWriter) :
    Except EventCollectorResult JsonObjectWriter :=
  match e.readString AUDIT_USER_LOGIN_REMOTE_ADDRESS with
  | .ok auditStrValue =>
      if isText auditStrValue AUDIT_USER_LOGIN_NOT_A_REAL_REMOTE_ADDRESS then .ok payload
      else writeString (o.write USER_LOGIN_REMOTE_ADDRESS_KEY) payload USER_LOGIN_REMOTE_ADDRESS_KEY
        auditStrValue
  | .error auditResult =>
      if auditResult ≠ .fieldDoesNotExist then .error .recordHasErrors else .ok payload

/-- The result in it. -/
def addResult (o : RecordOutcome) (e : AuditEvent) (payload : JsonObjectWriter) :
    Except EventCollectorResult JsonObjectWriter :=
  match e.readString AUDIT_USER_LOGIN_RESULT with
  | .error _ => .error .recordHasErrors
  | .ok auditStrValue =>
      if isText auditStrValue AUDIT_USER_LOGIN_RESULT_SUCCESS then
        writeString (o.write USER_LOGIN_RESULT_KEY) payload USER_LOGIN_RESULT_KEY
          USER_LOGIN_RESULT_SUCCESS_VALUE
      else if isText auditStrValue AUDIT_USER_LOGIN_RESULT_FAILED then
        writeString (o.write USER_LOGIN_RESULT_KEY) payload USER_LOGIN_RESULT_KEY
          USER_LOGIN_RESULT_FAILED_VALUE
      else .error .recordHasErrors

/-- `UserLoginEvent_GeneratePayload`. -/
def generatePayload (o : RecordOutcome) (e : AuditEvent) :
    Except EventCollectorResult JsonObjectWriter := do
  let payload ← GenericAuditEvent.handleIntValue (o.write USER_LOGIN_PROCESS_ID_KEY)
    JsonObjectWriter.init e AUDIT_USER_LOGIN_PROCESS_ID USER_LOGIN_PROCESS_ID_KEY false
  let payload ← GenericAuditEvent.handleStringValue (o.write USER_LOGIN_USER_ID_KEY) payload e
    AUDIT_USER_LOGIN_USER_ID USER_LOGIN_USER_ID_KEY true
  let payload ← GenericAuditEvent.handleInterpretStringValue (o.write USER_LOGIN_USERNAME_KEY)
    payload e AUDIT_USER_LOGIN_USER_NAME USER_LOGIN_USERNAME_KEY true
  let payload ← GenericAuditEvent.handleInterpretStringValue (o.write USER_LOGIN_EXECUTABLE_KEY)
    payload e AUDIT_USER_LOGIN_EXECUTEABLE USER_LOGIN_EXECUTABLE_KEY false
  let payload ← addRemoteAddress o e payload
  let payload ← addResult o e payload
  GenericAuditEvent.handleStringValue (o.write USER_LOGIN_OPERATION_KEY) payload e
    AUDIT_USER_LOGIN_OPERATION USER_LOGIN_OPERATION_KEY true

/-- Nothing is aggregated; the aggregator of the function that the collectors share is not touched. -/
def noAggregator : EventAggregator := ⟨"", "", "", [], 0⟩

/-- `UserLoginEvent_CreateSingleEvent`. -/
def createSingleEvent (clock : Clock) (o : RecordOutcome) (e : AuditEvent) :
    EventCollectorResult × Option Json :=
  let (result, event, _) := AuditCollector.createSingleEvent clock USER_LOGIN_NAME
    USER_LOGIN_PAYLOAD_SCHEMA_VERSION .recordHasErrors .exception
    (fun e kept => (generatePayload o e, kept)) o e (noAggregator, ())
  (result, event)

/-- What `UserLoginCollector_GetEvents` does with one record. A record with errors and one the queue
has no memory for do not end it. -/
def collector (clock : Clock) : AuditCollector Unit RecordOutcome where
  searchCriteria := .type
  messageTypes := AUDIT_USER_LOGIN_TYPES
  endsLoop result := result ≠ .recordHasErrors ∧ result ≠ .outOfMem ∧ result ≠ .ok
  createEvent _ o e s :=
    let (result, event) := createSingleEvent clock o e
    (result, event, s)
  getAggregatedEvents _ s := (.ok, [], s)

/-- `UserLoginCollector_GetEvents`, which has no aggregator. -/
def getEvents (clock : Clock) (judge : AuditSearch.Judge) (o : CollectionOutcome RecordOutcome)
    (log : List AuditEvent) (checkpoint : Option Int) : CollectorRunResult Unit :=
  (collector clock).getEvents judge o false log checkpoint ()

end UserLoginCollector

end SecurityAgent
