import SecurityAgent.Collectors.BaselineCollector
import SecurityAgent.Privileges.RootOperations

/-!
# The effective user is restored

Every operation that becomes root is root from a place where it notes who it was to
one where it switches back, and no way out of it goes past the second. So whatever
succeeds or fails on the way, and however the operations follow one another or are
nested, each of them leaves the process the user it found it as, as long as
switching back succeeds.
-/

namespace SecurityAgent

open Keeping ProcessInfoHandler

variable {answer : SetEuid}

/-! ## What is held between opening and closing -/

namespace PrivilegedSearch

/-- An open search holds its handler; one that is not open holds nothing. -/
def HeldBy : Option PrivilegedSearch → UInt32 → UInt32 → Prop :=
  HeldIfSome fun opened => Held opened.processInfo

theorem HeldBy.switchesBack {opened : Option PrivilegedSearch} {before now : UInt32}
    (h : HeldBy opened before now) (hback : SwitchesBack answer before) :
    SwitchesBack answer now :=
  HeldIfSome.mayStill (fun _ _ _ hback hheld => hback.of_held hheld) hback h

/-- **A search that cannot be opened has switched back.** -/
theorem init_acquires (judge : AuditSearch.Judge) (o : SearchOutcome)
    (searchCriteria : AuditSearchCriteria) (messageTypes : List String) (checkpoint : Option Int)
    (log : List AuditEvent) :
    Acquires Privileges.euid (SwitchesBack answer) HeldBy
      (initMultipleSearchCriteria answer judge o searchCriteria messageTypes checkpoint log) := by
  intro p hback
  obtain ⟨hheld, -, -⟩ := changeToRoot_held answer p
  have hinit : initMultipleSearchCriteria answer judge o searchCriteria messageTypes checkpoint log p
      = cleanup answer (changeToRoot answer p).1.2 (AuditSearch.initMultipleSearchCriteria judge
        { o with changeToRoot := (changeToRoot answer p).1.1 } searchCriteria messageTypes checkpoint
        log) (changeToRoot answer p).2 := rfl
  rw [hinit]
  cases AuditSearch.initMultipleSearchCriteria judge
      { o with changeToRoot := (changeToRoot answer p).1.1 } searchCriteria messageTypes checkpoint
      log with
  | none => exact reset_held hback hheld
  | some search => exact hheld

theorem deinit_releases :
    Releases Privileges.euid (SwitchesBack answer) HeldBy (deinitIfOpened answer) := by
  have hreset : Releases Privileges.euid (SwitchesBack answer)
      (fun opened : PrivilegedSearch => Held opened.processInfo)
      (fun opened => deinit answer opened.processInfo) := fun _ _ _ hback hheld =>
    reset_held hback hheld
  exact hreset.ifSome rfl fun _ => rfl

end PrivilegedSearch

namespace AuditControl

/-- An open control holds its handler; one that is not open holds nothing. -/
def HeldBy : Option AuditControl → UInt32 → UInt32 → Prop :=
  HeldIfSome fun auditControl => HeldIfRoot (auditControl.processInfoWasSet, auditControl.processInfo)

theorem HeldBy.switchesBack {initiated : Option AuditControl} {before now : UInt32}
    (h : HeldBy initiated before now) (hback : SwitchesBack answer before) :
    SwitchesBack answer now :=
  HeldIfSome.mayStill (fun _ _ _ hback hheld => hback.of_held hheld.1) hback h

/-- The control knows of the switch what the handler knows. -/
theorem openAudit_info (o : ControlOutcome) (info : Bool × ProcessInfo) :
    ((openAudit o info).2.processInfoWasSet, (openAudit o info).2.processInfo) = info := by
  obtain ⟨isRoot, processInfo⟩ := info
  unfold openAudit
  cases isRoot with
  | false => rfl
  | true =>
      rw [if_neg Bool.true_eq_false.mp]
      split
      · rfl
      · split <;> rfl

theorem init_acquires (o : ControlOutcome) :
    Acquires Privileges.euid (SwitchesBack answer) HeldBy (init answer o) := by
  intro p hback
  have hheld : HeldIfRoot (changeToRoot answer p).1 p.euid (changeToRoot answer p).2.euid :=
    changeToRoot_acquires p hback
  have hinfo := openAudit_info o (changeToRoot answer p).1
  have hinit : init answer o p
      = (if (openAudit o (changeToRoot answer p).1).1 then
          (pure (some (openAudit o (changeToRoot answer p).1).2) :
            StateM Privileges (Option AuditControl))
        else do
          let _ ← deinit answer (openAudit o (changeToRoot answer p).1).2
          pure none) (changeToRoot answer p).2 := rfl
  rw [hinit]
  by_cases hopen : (openAudit o (changeToRoot answer p).1).1 = true
  · rw [if_pos hopen]
    show HeldIfRoot ((openAudit o (changeToRoot answer p).1).2.processInfoWasSet,
      (openAudit o (changeToRoot answer p).1).2.processInfo) _ _
    rw [hinfo]
    exact hheld
  · rw [if_neg hopen]
    show (resetIfRoot answer ((openAudit o (changeToRoot answer p).1).2.processInfoWasSet,
      (openAudit o (changeToRoot answer p).1).2.processInfo) (changeToRoot answer p).2).2.euid
      = p.euid
    rw [hinfo]
    exact resetIfRoot_releases _ _ _ hback hheld

theorem deinit_releases :
    Releases Privileges.euid (SwitchesBack answer) HeldBy (deinitIfInitiated answer) := by
  have hreset : Releases Privileges.euid (SwitchesBack answer)
      (fun auditControl : AuditControl =>
        HeldIfRoot (auditControl.processInfoWasSet, auditControl.processInfo))
      (deinit answer) := fun _ _ _ hback hheld => resetIfRoot_releases _ _ _ hback hheld
  exact hreset.ifSome rfl fun _ => rfl

end AuditControl

/-- What is done with a search restores the user if it does so while the search is open. -/
theorem restores_withSearch {α : Type} (judge : AuditSearch.Judge) (o : SearchOutcome)
    (searchCriteria : AuditSearchCriteria) (messageTypes : List String) (checkpoint : Option Int)
    (log : List AuditEvent) {body : Option PrivilegedSearch → StateM Privileges α}
    (hbody : ∀ opened, Restores answer (body opened)) :
    Restores answer (PrivilegedSearch.initMultipleSearchCriteria answer judge o searchCriteria
      messageTypes checkpoint log >>= fun opened => body opened >>= fun a =>
        PrivilegedSearch.deinitIfOpened answer opened >>= fun _ => pure a) :=
  Keeps.bracket (fun _ _ _ hback h => h.switchesBack hback)
    (PrivilegedSearch.init_acquires judge o searchCriteria messageTypes checkpoint log) hbody
    PrivilegedSearch.deinit_releases

/-- The same for an audit control. -/
theorem restores_withControl {α : Type} (o : ControlOutcome)
    {body : Option AuditControl → StateM Privileges α}
    (hbody : ∀ initiated, Restores answer (body initiated)) :
    Restores answer (AuditControl.init answer o >>= fun initiated => body initiated >>= fun a =>
      AuditControl.deinitIfInitiated answer initiated >>= fun _ => pure a) :=
  Keeps.bracket (fun _ _ _ hback h => h.switchesBack hback) (AuditControl.init_acquires o) hbody
    AuditControl.deinit_releases

/-! ## The collectors -/

namespace ProcessCreationCollector

theorem populateExecutableHashMap_restores (judge : AuditSearch.Judge) (o : ProcessInitOutcome)
    (log : List AuditEvent) :
    Restores answer (populateExecutableHashMap answer judge o log) := by
  unfold populateExecutableHashMap
  split
  · exact Keeps.pure _
  · exact restores_withSearch _ _ _ _ _ _ fun _ => Keeps.pure _

/-- The search for the hashes is opened while the control is root. -/
theorem init_restores (judge : AuditSearch.Judge) (o : ProcessInitOutcome) (log : List AuditEvent) :
    Restores answer (init answer judge o log) := by
  refine restores_withControl o.control fun initiated => ?_
  cases initiated with
  | none => exact Keeps.pure _
  | some auditControl =>
      refine (populateExecutableHashMap_restores judge o log).bind fun populated => ?_
      dsimp only
      split
      · exact Keeps.pure _
      · split
        · exact Keeps.pure _
        · split
          · exact Keeps.pure _
          · exact Keeps.pure _

end ProcessCreationCollector

theorem ConnectionCreateEventCollector.init_restores (o : ConnectionInitOutcome) :
    Restores answer (ConnectionCreateEventCollector.init answer o) :=
  restores_withControl o.control fun _ => Keeps.pure _

theorem AuditCollector.getEventsAsRoot_restores {σ ω : Type} (c : AuditCollector σ ω)
    (judge : AuditSearch.Judge) (o : CollectionOutcome ω) (aggregatorInitialized : Bool)
    (log : List AuditEvent) (checkpoint : Option Int) (s : σ) :
    Restores answer (c.getEventsAsRoot answer judge o aggregatorInitialized log checkpoint s) :=
  restores_withSearch _ _ _ _ _ _ fun _ => Keeps.pure _

theorem FirewallCollector.getEventsAsRoot_restores (clock : Clock) (o : FirewallOutcome)
    (table : List IptablesChain) :
    Restores answer (FirewallCollector.getEventsAsRoot answer clock o table) := by
  have hchains : Restores answer (FirewallCollector.iterateChainsAsRoot answer o table) :=
    restores_asRoot fun _ => Keeps.pure _
  unfold FirewallCollector.getEventsAsRoot
  split
  · exact Keeps.pure _
  · split
    · exact Keeps.pure _
    · split
      · exact Keeps.pure _
      · exact hchains.map _

/-! ## Sequences and nestings -/

/-- What the collectors are given by the rest of the agent and the libraries. -/
structure AgentLibraries where
  judge : AuditSearch.Judge
  clock : Clock
  equals : Json → Json → Bool
  serialize : Json → String
  parse : String → Option Json

/-- One call of a collector, with all that succeeds or fails in it. -/
inductive CollectorOperation where
  | processCreationInit (o : ProcessInitOutcome) (log : List AuditEvent)
  | processCreation (o : CollectionOutcome ProcessOutcome) (aggregatorInitialized : Bool)
    (log : List AuditEvent) (checkpoint : Option Int) (s : EventAggregator × ProcessCreationCollector.ExecutableHashMap)
  | connectionCreationInit (o : ConnectionInitOutcome)
  | connectionCreation (o : CollectionOutcome RecordOutcome) (aggregatorInitialized : Bool)
    (log : List AuditEvent) (checkpoint : Option Int) (s : EventAggregator × Unit)
  | firewall (o : FirewallOutcome) (table : List IptablesChain)
  | baseline (o : BaselineOutcome)

/-- The call, and its result. -/
def CollectorOperation.perform (answer : SetEuid) (libraries : AgentLibraries) :
    CollectorOperation → StateM Privileges EventCollectorResult
  | .processCreationInit o log =>
      (fun started => started.1.result) <$>
        ProcessCreationCollector.init answer libraries.judge o log
  | .processCreation o aggregatorInitialized log checkpoint s =>
      CollectorRunResult.result <$> (ProcessCreationCollector.collector libraries.equals
        libraries.serialize libraries.parse libraries.clock).getEventsAsRoot answer libraries.judge o
          aggregatorInitialized log checkpoint s
  | .connectionCreationInit o =>
      CollectorInit.result <$> ConnectionCreateEventCollector.init answer o
  | .connectionCreation o aggregatorInitialized log checkpoint s =>
      CollectorRunResult.result <$> (ConnectionCreateEventCollector.collector libraries.equals
        libraries.serialize libraries.parse libraries.clock).getEventsAsRoot answer libraries.judge o
          aggregatorInitialized log checkpoint s
  | .firewall o table =>
      Prod.fst <$> FirewallCollector.getEventsAsRoot answer libraries.clock o table
  | .baseline o => Prod.fst <$> BaselineCollector.getEvents answer libraries.clock libraries.parse o

theorem CollectorOperation.perform_restores (libraries : AgentLibraries) :
    ∀ operation : CollectorOperation, Restores answer (operation.perform answer libraries) := by
  intro operation
  cases operation with
  | processCreationInit o log =>
      exact (ProcessCreationCollector.init_restores libraries.judge o log).map _
  | processCreation o aggregatorInitialized log checkpoint s =>
      exact (AuditCollector.getEventsAsRoot_restores _ _ _ _ _ _ _).map _
  | connectionCreationInit o => exact (ConnectionCreateEventCollector.init_restores o).map _
  | connectionCreation o aggregatorInitialized log checkpoint s =>
      exact (AuditCollector.getEventsAsRoot_restores _ _ _ _ _ _ _).map _
  | firewall o table =>
      exact (FirewallCollector.getEventsAsRoot_restores libraries.clock o table).map _
  | baseline o => exact (BaselineCollector.getEvents_restores libraries.clock o).map _

/-- Operations that follow one another, some of them while a search or a control is open. -/
inductive Session where
  | finished
  | collect (operation : CollectorOperation) (rest : Session)
  | search (o : SearchOutcome) (searchCriteria : AuditSearchCriteria) (messageTypes : List String)
    (checkpoint : Option Int) (log : List AuditEvent) (body rest : Session)
  | control (o : ControlOutcome) (body rest : Session)

namespace Session

/-- The user before an operation, and when it has returned. -/
structure Passage where
  before : UInt32
  after : UInt32
  deriving DecidableEq

/-- An operation, what is nested in it, and what comes after it. -/
def passing (operation rest : StateM Privileges (List Passage)) :
    StateM Privileges (List Passage) := do
  let before := (← get).euid
  let nested ← operation
  let after := (← get).euid
  let others ← rest
  pure (nested ++ ⟨before, after⟩ :: others)

/-- What is nested is done only under this condition. -/
def nestedIf (c : Bool) (nested : StateM Privileges (List Passage)) :
    StateM Privileges (List Passage) :=
  if c then nested else pure []

/-- The passages of a session. What is nested is done only if the search or the control is open. -/
def run (answer : SetEuid) (libraries : AgentLibraries) : Session → StateM Privileges (List Passage)
  | .finished => pure []
  | .collect operation rest =>
      passing ((fun _ => []) <$> operation.perform answer libraries) (run answer libraries rest)
  | .search o searchCriteria messageTypes checkpoint log body rest =>
      passing (do
        let opened ← PrivilegedSearch.initMultipleSearchCriteria answer libraries.judge o
          searchCriteria messageTypes checkpoint log
        let nested ← nestedIf opened.isSome (run answer libraries body)
        let _ ← PrivilegedSearch.deinitIfOpened answer opened
        pure nested) (run answer libraries rest)
  | .control o body rest =>
      passing (do
        let initiated ← AuditControl.init answer o
        let nested ← nestedIf initiated.isSome (run answer libraries body)
        let _ ← AuditControl.deinitIfInitiated answer initiated
        pure nested) (run answer libraries rest)

/-- Each passage it tells of has the same user on either side. -/
def TellsRestored (answer : SetEuid) (m : StateM Privileges (List Passage)) : Prop :=
  ∀ p, SwitchesBack answer p.euid → ∀ passage ∈ (m p).1, passage.after = passage.before

theorem tellsRestored_nil : TellsRestored answer (pure []) :=
  fun _ _ _ h => absurd h List.not_mem_nil

theorem restores_nestedIf {nested : StateM Privileges (List Passage)}
    (h : Restores answer nested) (c : Bool) : Restores answer (nestedIf c nested) := by
  cases c with
  | false => exact Keeps.pure _
  | true => exact h

theorem tellsRestored_nestedIf {nested : StateM Privileges (List Passage)}
    (h : TellsRestored answer nested) (c : Bool) : TellsRestored answer (nestedIf c nested) := by
  cases c with
  | false => exact tellsRestored_nil
  | true => exact h

theorem restores_passing {operation rest : StateM Privileges (List Passage)}
    (hoperation : Restores answer operation) (hrest : Restores answer rest) :
    Restores answer (passing operation rest) := by
  intro p hback
  have hfirst : (operation p).2.euid = p.euid := hoperation p hback
  have hsecond : (rest (operation p).2).2.euid = (operation p).2.euid :=
    hrest _ (hfirst.symm ▸ hback)
  exact hsecond.trans hfirst

theorem tellsRestored_passing {operation rest : StateM Privileges (List Passage)}
    (hoperation : Restores answer operation) (hnested : TellsRestored answer operation)
    (hrest : TellsRestored answer rest) : TellsRestored answer (passing operation rest) := by
  intro p hback passage hmem
  have hfirst : (operation p).2.euid = p.euid := hoperation p hback
  have htells : (passing operation rest p).1
      = (operation p).1 ++ ⟨p.euid, (operation p).2.euid⟩ :: (rest (operation p).2).1 := rfl
  rw [htells] at hmem
  rcases List.mem_append.mp hmem with hinner | hlater
  · exact hnested p hback passage hinner
  · rcases List.mem_cons.mp hlater with rfl | hother
    · exact hfirst
    · exact hrest _ (hfirst.symm ▸ hback) passage hother

/-- What is told while something is open is told from where it was opened. -/
theorem tellsRestored_bracket {γ : Type} {heldBy : γ → UInt32 → UInt32 → Prop}
    {acquire : StateM Privileges γ} {body : γ → StateM Privileges (List Passage)}
    (release : γ → StateM Privileges Bool)
    (hacquire : Acquires Privileges.euid (SwitchesBack answer) heldBy acquire)
    (hmay : ∀ c before now, heldBy c before now → SwitchesBack answer before →
      SwitchesBack answer now)
    (hbody : ∀ c, TellsRestored answer (body c)) :
    TellsRestored answer (acquire >>= fun c => body c >>= fun nested =>
      release c >>= fun _ => pure nested) := by
  intro p hback passage hmem
  -- root has nothing to be switched back to, and anyone else is who was here before
  have hnow := hmay _ _ _ (hacquire p hback) hback
  exact hbody (acquire p).1 (acquire p).2 hnow passage hmem

/-- By induction on the session: what is nested is a session of its own. -/
theorem run_restores (libraries : AgentLibraries) : ∀ session : Session,
    Restores answer (run answer libraries session)
      ∧ TellsRestored answer (run answer libraries session) := by
  intro session
  induction session with
  | finished => exact ⟨Keeps.pure _, tellsRestored_nil⟩
  | collect operation rest ih =>
      have hperform : Restores answer
          ((fun _ => ([] : List Passage)) <$> operation.perform answer libraries) :=
        (operation.perform_restores libraries).map _
      have hnothing : TellsRestored answer
          ((fun _ => ([] : List Passage)) <$> operation.perform answer libraries) :=
        fun _ _ _ h => absurd h List.not_mem_nil
      exact ⟨restores_passing hperform ih.1, tellsRestored_passing hperform hnothing ih.2⟩
  | search o searchCriteria messageTypes checkpoint log body rest ihbody ihrest =>
      -- the search restores the user if its body does, and so does every passage in the body
      have hsearch := restores_withSearch libraries.judge o searchCriteria messageTypes checkpoint
        log fun opened => restores_nestedIf ihbody.1 opened.isSome
      have htells := tellsRestored_bracket (PrivilegedSearch.deinitIfOpened answer)
        (PrivilegedSearch.init_acquires libraries.judge o searchCriteria messageTypes checkpoint log)
        (fun _ _ _ h hback => h.switchesBack hback)
        fun opened => tellsRestored_nestedIf ihbody.2 opened.isSome
      exact ⟨restores_passing hsearch ihrest.1, tellsRestored_passing hsearch htells ihrest.2⟩
  | control o body rest ihbody ihrest =>
      have hcontrol := restores_withControl o fun initiated =>
        restores_nestedIf ihbody.1 initiated.isSome
      have htells := tellsRestored_bracket (AuditControl.deinitIfInitiated answer)
        (AuditControl.init_acquires o) (fun _ _ _ h hback => h.switchesBack hback)
        fun initiated => tellsRestored_nestedIf ihbody.2 initiated.isSome
      exact ⟨restores_passing hcontrol ihrest.1, tellsRestored_passing hcontrol htells ihrest.2⟩

/--
**The effective user is restored.** In every session, whatever its operations are, however they are
nested and whatever succeeds or fails in them, each operation returns with the user that it was
called with, if switching back to the user of the process succeeds.
-/
theorem user_restored (libraries : AgentLibraries) (session : Session) (p : Privileges)
    (hback : SwitchesBack answer p.euid) :
    (∀ passage ∈ (run answer libraries session p).1, passage.after = passage.before)
      ∧ (run answer libraries session p).2.euid = p.euid :=
  ⟨(run_restores libraries session).2 p hback, (run_restores libraries session).1 p hback⟩

/-- User 1000 may become root twice, and be itself again at any time. -/
def twiceRoot : SetEuid := fun calls euid => euid = 1000 || calls < 3

/-- An audit control that holds root while the process creation collector is initialised without
success, and then the baseline, for which there is no root any more. -/
def nestedSession : Session :=
  .control ⟨3, some "x86_64", true⟩
    (.collect (.processCreationInit ⟨⟨-1, none, true⟩, ⟨fun _ => true, fun _ => true, fun _ => true,
      true⟩, true, true, .ok 0, fun _ => ⟨true, true⟩, fun _ => .ok, true⟩ []) .finished)
    (.collect (.baseline ⟨true, ⟨0, some "", true⟩, true, fun _ => ⟨true, [], false, 0⟩,
      ⟨some [], true, true, fun _ => true, fun _ => true⟩, none, true,
      ⟨some [], true, true, fun _ => true, fun _ => true⟩, true, true, true⟩) .finished)

def someLibraries : AgentLibraries :=
  ⟨fun _ _ => true, ⟨fun _ => some "", fun _ => some ""⟩, fun _ _ => true, fun _ => "", fun _ => none⟩

/-- User 1000 is root while the collector is nested in the control, and itself at the end. -/
theorem user_restored_nestedSession :
    (run twiceRoot someLibraries nestedSession ⟨1000, 0⟩).1
        = [⟨0, 0⟩, ⟨1000, 1000⟩, ⟨1000, 1000⟩]
      ∧ (∀ passage ∈ (run twiceRoot someLibraries nestedSession ⟨1000, 0⟩).1,
        passage.after = passage.before)
      ∧ (run twiceRoot someLibraries nestedSession ⟨1000, 0⟩).2.euid = 1000 := by
  have hback : SwitchesBack twiceRoot 1000 := fun _ _ => rfl
  exact ⟨by decide, user_restored someLibraries nestedSession ⟨1000, 0⟩ hback⟩

end Session

end SecurityAgent
