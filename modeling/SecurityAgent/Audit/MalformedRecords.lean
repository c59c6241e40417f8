import SecurityAgent.Audit.ConnectionCreateCollector
import SecurityAgent.Audit.ProcessCreationCollector
import SecurityAgent.Audit.RecordTreatment

/-!
# Malformed records

Both collectors count the records they cannot make an event of and go on with the
next; but not everything that can be wrong with a record is taken for an error of the
record. An `execve` without an executable or without one of its arguments, and
an address that is not hexadecimal or too short, are exceptions, and an exception ends
the loop: the well-formed records behind it are not handled, and since the
checkpoint is stored all the same, the next run does not see them either.
-/

namespace SecurityAgent

open AuditCollector

/-! ## Process creations -/

namespace ProcessCreationCollector

/-- What the payload of a process creation says. -/
structure ProcessRecord where
  executable : String
  commandLine : String
  userId : String
  processId : Int32
  parentProcessId : Int32

/-- The record reads so. A command line without arguments is whatever a fresh buffer holds. -/
structure ProcessRecord.Reads (p : ProcessRecord) (e : AuditEvent) : Prop where
  executable : e.interpretString AUDIT_PROCESS_CREATION_EXECUTEABLE = .ok p.executable
  commandLine : ∃ buffer, ProcessCreationCollector.commandLine (some buffer) e = some p.commandLine
  userId : e.readString AUDIT_PROCESS_CREATION_USER_ID = .ok p.userId
  processId : e.readInt AUDIT_PROCESS_CREATION_PROCESS_ID = .ok p.processId
  parentProcessId : e.readInt AUDIT_PROCESS_CREATION_PARENT_PROCESS_ID = .ok p.parentProcessId

/-- The payload of a process creation. -/
def ProcessRecord.payload (p : ProcessRecord) (hash : String) : JsonObjectWriter :=
  (((((JsonObjectWriter.init.writeString PROCESS_CREATION_EXECUTABLE_KEY p.executable).writeString
    PROCESS_CREATION_COMMAND_LINE_KEY p.commandLine).writeString
    PROCESS_CREATION_USER_ID_KEY p.userId).writeInt
    PROCESS_CREATION_PROCESS_ID_KEY p.processId).writeInt
    PROCESS_CREATION_PARENT_PROCESS_ID_KEY p.parentProcessId).writeObject
    EventAggregator.EXTRA_DETAILS_KEY
    (JsonObjectWriter.init.writeString PROCESS_CREATION_EXECUTABLE_HASH_KEY hash)

/-- The executable and the command line can be read. -/
def executionReadable (e : AuditEvent) : Bool :=
  (e.interpretString AUDIT_PROCESS_CREATION_EXECUTEABLE).isOk && (commandLine (some "") e).isSome

/-- The user and the two processes can be read. -/
def idsReadable (e : AuditEvent) : Bool :=
  (e.readString AUDIT_PROCESS_CREATION_USER_ID).isOk
    && (e.readInt AUDIT_PROCESS_CREATION_PROCESS_ID).isOk
    && (e.readInt AUDIT_PROCESS_CREATION_PARENT_PROCESS_ID).isOk

/-- There is no hash, or one that is long enough, with a path that can be read if it is there. -/
def hashReadable (e : AuditEvent) : Bool :=
  match e.interpretString AUDIT_PROCESS_CREATION_EXECUTEABLE_HASH with
  | .error result => result = .fieldDoesNotExist
  | .ok hash =>
      (Utils.substring true hash 6 1).isSome
        && match e.interpretString AUDIT_PROCESS_CREATION_EXECUTEABLE_PATH with
          | .error result => result = .fieldDoesNotExist
          | .ok _ => true

/-- All that the collector reads is there; the time is only read for an event of its own. -/
def wellFormed (aggregation : Bool) (e : AuditEvent) : Bool :=
  (aggregation || e.timestamp) && executionReadable e && idsReadable e && hashReadable e

/-- The record ends the loop: no executable, no command line, a hash that does not read where all
else does, or a payload the aggregator does not want any more. -/
def endsLoop (aggregation : Bool) (o : ProcessOutcome) (e : AuditEvent) : Bool :=
  (aggregation || e.timestamp)
    && (!executionReadable e || idsReadable e && !hashReadable e
      || aggregation && wellFormed aggregation e && o.aggregate.isEnabled ≠ some true)

/-- What the event made of a record says. -/
def Describes (clock : Clock) (aggregation : Bool) (e : AuditEvent) (event : Json) : Prop :=
  ∃ (p : ProcessRecord) (hash : String), p.Reads e
    ∧ if aggregation then event = (((p.payload hash).writeInt PROCESS_CREATION_PROCESS_ID_KEY
        0).writeInt PROCESS_CREATION_PARENT_PROCESS_ID_KEY 0).rootValue
      else IsEvent clock PROCESS_CREATION_NAME (UInt32.ofInt e.time.sec) (p.payload hash) event

/-- Whether the arguments can be read does not depend on what is in the buffer. -/
theorem readArguments_isSome (r : AuditRecord) (text text' : String) :
    ∀ (count i size : Nat), (readArguments r count i size text).isSome
      = (readArguments r count i size text').isSome := by
  intro count
  induction count generalizing text text' with
  | zero => exact fun _ _ => rfl
  | succ count ih =>
      intro i size
      unfold readArguments
      cases r.interpretString (argumentName i) with
      | error _ => rfl
      | ok currentArg =>
          simp only [Utils.concatenateToString]
          by_cases hroom : ((if i > 0 then " " else "") ++ currentArg).length ≥ size
          · simp only [if_pos hroom]
          · simp only [if_neg hroom]
            exact ih _ _ (i + 1) _

theorem commandLine_isSome (buffer : String) (e : AuditEvent) :
    (commandLine (some buffer) e).isSome = (commandLine (some "") e).isSome := by
  unfold commandLine
  cases e.goto AUDIT_EXECVE_RECORD_TYPE with
  | error _ => rfl
  | ok r =>
      dsimp only
      unfold recordCommandLine
      cases r.maxRecordLength with
      | error _ => rfl
      | ok maxLen =>
          cases r.readInt AUDIT_ARGC with
          | error _ => rfl
          | ok argCount => exact readArguments_isSome r _ _ _ _ _

theorem isOk_iff {ε α : Type} {x : Except ε α} : x.isOk = true ↔ ∃ a, x = .ok a := by
  cases x with
  | error _ => exact ⟨fun h => absurd h (by simp [Except.isOk, Except.toBool]), fun ⟨_, h⟩ => by cases h⟩
  | ok a => exact ⟨fun _ => ⟨a, rfl⟩, fun _ => rfl⟩

section

variable {clock : Clock} {o : ProcessOutcome} {e : AuditEvent} {map : ExecutableHashMap}

/-- Without an executable or a command line there is an exception. -/
theorem generateFields_unreadable (ho : o.Succeeds clock) (h : executionReadable e = false) :
    generateFields o e = .error .exception := by
  unfold generateFields
  cases hexe : e.interpretString AUDIT_PROCESS_CREATION_EXECUTEABLE with
  | error _ => rfl
  | ok executable =>
      obtain ⟨buffer, hbuffer⟩ := Option.isSome_iff_exists.mp ho.commandLineBuffer
      have hline : commandLine (some buffer) e = none := by
        have hnone : (commandLine (some "") e).isSome = false := by
          simpa [executionReadable, hexe, Except.isOk, Except.toBool] using h
        rw [← commandLine_isSome buffer] at hnone
        exact Option.isNone_iff_eq_none.mp (Option.isSome_eq_false_iff.mp hnone)
      simp [ho.record.write, readCommandLine, hbuffer, hline, bind, Except.bind]

/-- With both, the three numbers decide between a payload and a record with errors. -/
theorem generateFields_readable (ho : o.Succeeds clock) (h : executionReadable e = true) :
    (idsReadable e = false → generateFields o e = .error .recordHasErrors)
      ∧ (idsReadable e = true → ∃ (p : ProcessRecord) (payload : JsonObjectWriter),
        generateFields o e = .ok (p.executable, payload) ∧ p.Reads e
          ∧ ∀ hash, payload.writeObject EventAggregator.EXTRA_DETAILS_KEY
            (JsonObjectWriter.init.writeString PROCESS_CREATION_EXECUTABLE_HASH_KEY hash)
              = p.payload hash) := by
  obtain ⟨hexe, hline⟩ := Bool.and_eq_true_iff.mp h
  obtain ⟨executable, hexe⟩ := isOk_iff.mp hexe
  obtain ⟨buffer, hbuffer⟩ := Option.isSome_iff_exists.mp ho.commandLineBuffer
  rw [← commandLine_isSome buffer] at hline
  obtain ⟨line, hline⟩ := Option.isSome_iff_exists.mp hline
  unfold generateFields
  simp only [hexe, ho.record.write, if_true, readCommandLine, hbuffer, hline, bind, Except.bind,
    GenericAuditEvent.handleStringValue, GenericAuditEvent.handleIntValue,
    GenericAuditEvent.handleValue, Bool.false_eq_true, false_and, if_false]
  unfold idsReadable
  cases huid : e.readString AUDIT_PROCESS_CREATION_USER_ID with
  | error _ => exact ⟨fun _ => rfl, fun h => absurd h (by simp [Except.isOk, Except.toBool])⟩
  | ok userId =>
      cases hpid : e.readInt AUDIT_PROCESS_CREATION_PROCESS_ID with
      | error _ => exact ⟨fun _ => rfl, fun h => absurd h (by simp [Except.isOk, Except.toBool])⟩
      | ok processId =>
          cases hppid : e.readInt AUDIT_PROCESS_CREATION_PARENT_PROCESS_ID with
          | error _ => exact ⟨fun _ => rfl, fun h => absurd h (by simp [Except.isOk, Except.toBool])⟩
          | ok parentProcessId =>
              refine ⟨fun h => absurd h (by simp [Except.isOk, Except.toBool]), fun _ => ?_⟩
              exact ⟨⟨executable, line, userId, processId, parentProcessId⟩, _, rfl,
                ⟨hexe, ⟨buffer, hline⟩, huid, hpid, hppid⟩, fun _ => rfl⟩

/-- The entry for the hash map goes wrong exactly if the hash does not read. -/
theorem addEntry_isOk (ho : o.Succeeds clock) (e : AuditEvent) (map : ExecutableHashMap) :
    (hashReadable e = true → ∃ map', addEntryToExecutableHashMap o e map = .ok map')
      ∧ (hashReadable e = false → addEntryToExecutableHashMap o e map = .error .exception) := by
  unfold hashReadable addEntryToExecutableHashMap
  rw [ho.substring]
  cases e.interpretString AUDIT_PROCESS_CREATION_EXECUTEABLE_HASH with
  | error result =>
      by_cases hr : result = .fieldDoesNotExist
      · exact ⟨fun _ => ⟨map, by simp [hr]⟩, fun h => absurd h (by simp [hr])⟩
      · exact ⟨fun h => absurd h (by simp [hr]), fun _ => by simp [hr]⟩
  | ok hash =>
      cases hsub : Utils.substring true hash 6 1 with
      | none =>
          simp only [hsub, Option.isSome_none, Bool.false_and]
          exact ⟨fun h => absurd h (by decide), fun _ => trivial⟩
      | some hash =>
          simp only [hsub, Option.isSome_some, Bool.true_and]
          cases e.interpretString AUDIT_PROCESS_CREATION_EXECUTEABLE_PATH with
          | error result =>
              by_cases hr : result = .fieldDoesNotExist
              · simp only [hr, decide_true, if_true]
                exact ⟨fun _ => ⟨_, rfl⟩, fun h => absurd h (by decide)⟩
              · simp only [hr, decide_false, if_false]
                exact ⟨fun h => absurd h (by decide), fun _ => trivial⟩
          | ok executable => exact ⟨fun _ => ⟨_, rfl⟩, fun h => absurd h (by simp)⟩

/-- **The payload of a process creation**, by what can be read of the record. -/
theorem generatePayload_cases (ho : o.Succeeds clock) (e : AuditEvent) (map : ExecutableHashMap) :
    (executionReadable e = false ∨ idsReadable e = true ∧ hashReadable e = false →
        generatePayload o e map = (.error .exception, map))
      ∧ (executionReadable e = true → idsReadable e = false →
        generatePayload o e map = (.error .recordHasErrors, map))
      ∧ (executionReadable e = true → idsReadable e = true → hashReadable e = true →
        ∃ (p : ProcessRecord) (hash : String) (map' : ExecutableHashMap),
          generatePayload o e map = (.ok (p.payload hash), map') ∧ p.Reads e) := by
  cases hexecution : executionReadable e with
  | false =>
      refine ⟨fun _ => ?_, fun h => absurd h (by decide), fun h => absurd h (by decide)⟩
      unfold generatePayload
      rw [generateFields_unreadable ho hexecution]
  | true =>
      obtain ⟨hskip, hread⟩ := generateFields_readable ho hexecution
      cases hids : idsReadable e with
      | false =>
          refine ⟨fun h => ?_, fun _ _ => ?_, fun _ h => absurd h (by decide)⟩
          · rcases h with h | ⟨h, _⟩
            · exact absurd h (by decide)
            · exact absurd h (by decide)
          · unfold generatePayload
            rw [hskip hids]
      | true =>
          obtain ⟨p, payload, hfields, hreads, hpayload⟩ := hread hids
          obtain ⟨hentry, hnoentry⟩ := addEntry_isOk ho e map
          refine ⟨fun h => ?_, fun _ h => absurd h (by decide), fun _ _ hhash => ?_⟩
          · rcases h with h | ⟨_, hhash⟩
            · exact absurd h (by decide)
            · unfold generatePayload
              rw [hfields, hnoentry hhash]
          · obtain ⟨map', hmap⟩ := hentry hhash
            refine ⟨p, (map'.lookup p.executable).getD "", map', ?_, hreads⟩
            unfold generatePayload
            rw [hfields, hmap]
            simp [writeHash, ho.extraDetails, ho.record.write, hpayload]

end

variable {equals : Json → Json → Bool} {serialize : Json → String} {parse : String → Option Json}
  {clock : Clock} {o : CollectionOutcome ProcessOutcome}

end ProcessCreationCollector

/-! ## Connections -/

namespace ConnectionCreateEventCollector

/-- What the payload of a connection says. -/
structure ConnectionRecord where
  direction : ConnectionDirection
  remoteAddress : String
  remotePort : String
  executable : String
  commandLine : String
  processId : Int32
  userId : String

/-- The record reads so. -/
structure ConnectionRecord.Reads (p : ConnectionRecord) (e : AuditEvent) : Prop where
  direction : getDirection e = .ok p.direction
  remote : getRemoteInformation e = .ok (p.remoteAddress, p.remotePort)
  executable : e.interpretString AUDIT_CONNECTION_CREATION_EXECUTABLE = .ok p.executable
  commandLine : e.interpretString AUDIT_CONNECTION_CREATION_CMD = .ok p.commandLine
  processId : e.readInt AUDIT_CONNECTION_CREATION_PROCESS_ID = .ok p.processId
  userId : e.readString AUDIT_CONNECTION_CREATION_USER_ID = .ok p.userId

/-- The payload of a connection. -/
def ConnectionRecord.payload (p : ConnectionRecord) : JsonObjectWriter :=
  (((((((JsonObjectWriter.init.writeString CONNECTION_CREATION_PROTOCOL_KEY
    SUPPORTED_PROTOCOL_TCP).writeString
    CONNECTION_CREATION_DIRECTION_KEY (directionString p.direction)).writeString
    CONNECTION_CREATION_REMOTE_ADDRESS_KEY p.remoteAddress).writeString
    CONNECTION_CREATION_REMOTE_PORT_KEY p.remotePort).writeString
    CONNECTION_CREATION_EXECUTABLE_KEY p.executable).writeString
    CONNECTION_CREATION_COMMAND_LINE_KEY p.commandLine).writeInt
    CONNECTION_CREATION_PROCESS_ID_KEY p.processId).writeString
    CONNECTION_CREATION_USER_ID_KEY p.userId

/-- The payload with what tells one connection from another set to zero. -/
def ConnectionRecord.aggregatedPayload (p : ConnectionRecord) : JsonObjectWriter :=
  match p.direction with
  | .outbound => p.payload.writeInt CONNECTION_CREATION_PROCESS_ID_KEY 0
  | .inbound => (p.payload.writeInt CONNECTION_CREATION_PROCESS_ID_KEY 0).writeInt
      CONNECTION_CREATION_REMOTE_PORT_KEY 0

/-- The executable, the command line, the process and the user can be read. -/
def fieldsReadable (e : AuditEvent) : Bool :=
  (e.interpretString AUDIT_CONNECTION_CREATION_EXECUTABLE).isOk
    && (e.interpretString AUDIT_CONNECTION_CREATION_CMD).isOk
    && (e.readInt AUDIT_CONNECTION_CREATION_PROCESS_ID).isOk
    && (e.readString AUDIT_CONNECTION_CREATION_USER_ID).isOk

/-- All that the collector reads is there, and the address is one of the internet; the time is only
read for an event of its own. -/
def wellFormed (aggregation : Bool) (e : AuditEvent) : Bool :=
  (aggregation || e.timestamp) && (getDirection e).isOk && (getRemoteInformation e).isOk
    && fieldsReadable e

/-- The address is there and does not decode: not hexadecimal, too long, or too short for its
family. -/
def addressMalformed (e : AuditEvent) : Bool :=
  match getRemoteInformation e with
  | .error result => result = .exception
  | .ok _ => false

/-- The record ends the loop: no time where one is needed, no direction, an address that does not
decode, or a payload the aggregator does not want any more. -/
def endsLoop (aggregation : Bool) (o : RecordOutcome) (e : AuditEvent) : Bool :=
  (!aggregation && !e.timestamp) || !(getDirection e).isOk || addressMalformed e
    || (aggregation && wellFormed aggregation e && o.aggregate.isEnabled ≠ some true)

/-- What the event made of a record says. -/
def Describes (clock : Clock) (aggregation : Bool) (e : AuditEvent) (event : Json) : Prop :=
  ∃ p : ConnectionRecord, p.Reads e
    ∧ if aggregation then event = p.aggregatedPayload.rootValue
      else IsEvent clock CONNECTION_CREATION_NAME (UInt32.ofInt e.time.sec) p.payload event

section

variable {clock : Clock} {o : RecordOutcome} {e : AuditEvent}

/-- **The payload of a connection**, by what can be read of the record. -/
theorem generatePayload_cases (ho : o.Succeeds clock) (e : AuditEvent) :
    ((getDirection e).isOk = false → generatePayload o e = .error .exception)
      ∧ ((getDirection e).isOk = true → ∀ result, getRemoteInformation e = .error result →
        generatePayload o e = .error result)
      ∧ ((getDirection e).isOk = true → (getRemoteInformation e).isOk = true →
        fieldsReadable e = false → generatePayload o e = .error .recordHasErrors)
      ∧ ((getDirection e).isOk = true → (getRemoteInformation e).isOk = true →
        fieldsReadable e = true →
        ∃ p : ConnectionRecord, generatePayload o e = .ok p.payload ∧ p.Reads e) := by
  have hdirection : ∀ result, getDirection e = .error result → result = .exception := by
    intro result h
    unfold getDirection at h
    split at h
    · exact (Except.error.inj h).symm
    · split at h
      · cases h
      · split at h
        · cases h
        · exact (Except.error.inj h).symm
  simp only [generatePayload, bind, Except.bind]
  cases hdir : getDirection e with
  | error result =>
      have hfalse : ¬ (Except.error result : Except EventCollectorResult ConnectionDirection).isOk
          = true := by
        simp [Except.isOk, Except.toBool]
      exact ⟨fun _ => by rw [hdirection result hdir], fun h => absurd h hfalse,
        fun h => absurd h hfalse, fun h => absurd h hfalse⟩
  | ok direction =>
      refine ⟨fun h => absurd h (by simp [Except.isOk, Except.toBool]), ?_⟩
      cases hremote : getRemoteInformation e with
      | error result =>
          refine ⟨fun _ result' h => by rw [Except.error.inj h], fun _ h => ?_, fun _ h => ?_⟩
          · exact absurd h (by simp [Except.isOk, Except.toBool])
          · exact absurd h (by simp [Except.isOk, Except.toBool])
      | ok remote =>
          refine ⟨fun _ result' h => absurd h (by simp), ?_⟩
          obtain ⟨remoteAddress, remotePort⟩ := remote
          simp only [writeMember, ho.write, if_true,
            GenericAuditEvent.handleInterpretStringValue, GenericAuditEvent.handleStringValue,
            GenericAuditEvent.handleIntValue, GenericAuditEvent.handleValue, Bool.false_eq_true,
            false_and, if_false, fieldsReadable]
          have hbad : ∀ {α : Type} {auditResult : AuditSearchResult},
              ¬ (Except.error auditResult : Except AuditSearchResult α).isOk = true := by
            intro α auditResult
            simp [Except.isOk, Except.toBool]
          -- the first of the four fields that cannot be read makes the record a bad one
          cases hexe : e.interpretString AUDIT_CONNECTION_CREATION_EXECUTABLE with
          | error _ => exact ⟨fun _ _ _ => rfl, fun _ _ h => absurd h (by simp [hbad])⟩
          | ok executable =>
              cases hcmd : e.interpretString AUDIT_CONNECTION_CREATION_CMD with
              | error _ => exact ⟨fun _ _ _ => rfl, fun _ _ h => absurd h (by simp [hbad])⟩
              | ok commandLine =>
                  cases hpid : e.readInt AUDIT_CONNECTION_CREATION_PROCESS_ID with
                  | error _ => exact ⟨fun _ _ _ => rfl, fun _ _ h => absurd h (by simp [hbad])⟩
                  | ok processId =>
                      cases huid : e.readString AUDIT_CONNECTION_CREATION_USER_ID with
                      | error _ => exact ⟨fun _ _ _ => rfl, fun _ _ h => absurd h (by simp [hbad])⟩
                      | ok userId =>
                          refine ⟨fun _ _ h => absurd h (by simp [Except.isOk, Except.toBool]), fun _ _ _ => ?_⟩
                          exact ⟨⟨direction, remoteAddress, remotePort, executable, commandLine,
                            processId, userId⟩, rfl, hdir, hremote, hexe, hcmd, hpid, huid⟩

end

variable {equals : Json → Json → Bool} {serialize : Json → String} {parse : String → Option Json}
  {clock : Clock} {o : CollectionOutcome RecordOutcome}

end ConnectionCreateEventCollector

/-! ## A run -/

end SecurityAgent
