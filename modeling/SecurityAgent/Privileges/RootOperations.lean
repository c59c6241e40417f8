import SecurityAgent.Audit.ConnectionCreateCollector
import SecurityAgent.Audit.ProcessCreationCollector
import SecurityAgent.Collectors.FirewallCollector
import SecurityAgent.Privileges.ProcessInfoHandler

/-!
# What is done as root: `audit_search.c`, `audit_control.c` and the collectors that use them

A search and an audit control are root from the time they are opened until they are
deinitialised, and whoever opens one holds it in between. What they do while they are root is
modelled where it belongs; here it is who the process is meanwhile that is kept
track of.
-/

namespace SecurityAgent

open ProcessInfoHandler

/-! ## Searches -/

/-- `AuditSearch`, with its `processInfo`. -/
structure PrivilegedSearch where
  search : AuditSearch
  processInfo : ProcessInfo

namespace PrivilegedSearch

/-- `AuditSearch_Deinit`, as far as it concerns the process. -/
def deinit (answer : SetEuid) (processInfo : ProcessInfo) : StateM Privileges Bool :=
  reset answer processInfo

/-- The cleanup of `AuditSearch_InitMultipleSearchCriteria`. -/
def cleanup (answer : SetEuid) (processInfo : ProcessInfo) :
    Option AuditSearch → StateM Privileges (Option PrivilegedSearch)
  | some search => pure (some ⟨search, processInfo⟩)
  | none => do
      let _ ← deinit answer processInfo
      pure none

/-- `AuditSearch_InitMultipleSearchCriteria`: whatever fails, it is cleaned up after. -/
def initMultipleSearchCriteria (answer : SetEuid) (judge : AuditSearch.Judge) (o : SearchOutcome)
    (searchCriteria : AuditSearchCriteria) (messageTypes : List String) (checkpoint : Option Int)
    (log : List AuditEvent) : StateM Privileges (Option PrivilegedSearch) := do
  let info ← changeToRoot answer
  cleanup answer info.2 (AuditSearch.initMultipleSearchCriteria judge
    { o with changeToRoot := info.1 } searchCriteria messageTypes checkpoint log)

/-- It opens what is opened with the answer that the switch to root is given. -/
theorem initMultipleSearchCriteria_fst (answer : SetEuid) (judge : AuditSearch.Judge)
    (o : SearchOutcome) (searchCriteria : AuditSearchCriteria) (messageTypes : List String)
    (checkpoint : Option Int) (log : List AuditEvent) (p : Privileges) :
    (initMultipleSearchCriteria answer judge o searchCriteria messageTypes checkpoint log p).1
      = (AuditSearch.initMultipleSearchCriteria judge
          { o with changeToRoot := (changeToRoot answer p).1.1 } searchCriteria messageTypes
          checkpoint log).map fun search => ⟨search, (changeToRoot answer p).1.2⟩ := by
  show (cleanup answer (changeToRoot answer p).1.2 (AuditSearch.initMultipleSearchCriteria judge
    { o with changeToRoot := (changeToRoot answer p).1.1 } searchCriteria messageTypes checkpoint
    log) (changeToRoot answer p).2).1 = _
  cases AuditSearch.initMultipleSearchCriteria judge
      { o with changeToRoot := (changeToRoot answer p).1.1 } searchCriteria messageTypes checkpoint
      log with
  | none => rfl
  | some search => rfl

/-- `AuditSearch_Init` without a checkpoint file. -/
def init (answer : SetEuid) (judge : AuditSearch.Judge) (o : SearchOutcome)
    (searchCriteria : AuditSearchCriteria) (messageType : String) (log : List AuditEvent) :
    StateM Privileges (Option PrivilegedSearch) :=
  initMultipleSearchCriteria answer judge { o with copy := true, readFile := true } searchCriteria
    [messageType] none log

/-- What every caller does at its end: a search that was not opened is left alone. -/
def deinitIfOpened (answer : SetEuid) : Option PrivilegedSearch → StateM Privileges Bool
  | none => pure true
  | some opened => deinit answer opened.processInfo

end PrivilegedSearch

/-! ## Audit controls -/

/-- What the environment answers while an audit control is opened. -/
structure ControlOutcome where
  /-- `audit_open`. -/
  auditOpen : Int
  /-- The machine that `uname` names. -/
  machine : Option String
  /-- `Utils_StringFormat`. -/
  stringFormat : Bool

/-- What the environment answers while a rule is added. -/
structure AddRuleOutcome where
  /-- `audit_rule_fieldpair_data`, by the filter. -/
  fieldpairData : String → Bool
  /-- `Utils_CreateStringCopy`, by the text. -/
  copy : String → Bool
  /-- `audit_rule_syscallbyname_data`, by the name. -/
  syscallbynameData : String → Bool
  /-- `audit_add_rule_data`. -/
  addRuleData : Bool

/-- `AuditControl`. -/
structure AuditControl where
  processInfo : ProcessInfo
  processInfoWasSet : Bool
  audit : Int
  cpuArchitectureFilter : Option String

namespace AuditControl

def AUDIT_CONTROL_ON_SUCCESS_FILTER : String := "success=1"
def AUDIT_CONTROL_TYPE_EXECVE : String := "execve"
def AUDIT_CONTROL_TYPE_EXECVEAT : String := "execveat"
def AUDIT_CONTROL_TYPE_CONNECT : String := "connect"
def AUDIT_CONTROL_TYPE_ACCEPT : String := "accept"

/-- `getCpuArchitectureFilter`. -/
def getCpuArchitectureFilter (o : ControlOutcome) : Option String :=
  o.machine.bind fun machine => if o.stringFormat then some ("arch=" ++ machine) else none

/-- `AuditControl_Deinit`, as far as it concerns the process. -/
def deinit (answer : SetEuid) (auditControl : AuditControl) : StateM Privileges Bool :=
  resetIfRoot answer (auditControl.processInfoWasSet, auditControl.processInfo)

/-- What follows the switch to root in `AuditControl_Init`: whether it succeeds, and the control. -/
def openAudit (o : ControlOutcome) (info : Bool × ProcessInfo) : Bool × AuditControl :=
  if info.1 = false then (false, ⟨info.2, false, 0, none⟩)
  else if o.auditOpen < 0 then (false, ⟨info.2, true, o.auditOpen, none⟩)
  else
    match getCpuArchitectureFilter o with
    | none => (false, ⟨info.2, true, o.auditOpen, none⟩)
    | some filter => (true, ⟨info.2, true, o.auditOpen, some filter⟩)

/-- `AuditControl_Init`: what fails on the way is cleaned up. -/
def init (answer : SetEuid) (o : ControlOutcome) : StateM Privileges (Option AuditControl) := do
  let info ← changeToRoot answer
  if (openAudit o info).1 then pure (some (openAudit o info).2)
  else do
    let _ ← deinit answer (openAudit o info).2
    pure none

/-- `AuditControl_AddRule` returns `AUDIT_CONTROL_OK`. -/
def addRule (o : AddRuleOutcome) (auditControl : AuditControl) (msgTypeArray : List String)
    (extraFilter : Option String) : Bool :=
  auditControl.cpuArchitectureFilter.all o.fieldpairData
    && msgTypeArray.all (fun msgType => o.copy msgType && o.syscallbynameData msgType)
    && extraFilter.all (fun filter => o.copy filter && o.fieldpairData filter)
    && o.addRuleData

/-- What every caller does at its end. -/
def deinitIfInitiated (answer : SetEuid) : Option AuditControl → StateM Privileges Bool
  | none => pure true
  | some auditControl => deinit answer auditControl

end AuditControl

/-- How a collector has been initialised: the result, and the errors that are logged. -/
structure CollectorInit where
  result : EventCollectorResult
  errors : List String

/-! ## Process creations -/

/-- What the environment answers in `ProcessCreationCollector_Init`. -/
structure ProcessInitOutcome where
  control : ControlOutcome
  addRule : AddRuleOutcome
  /-- `EventAggregator_Init`. -/
  aggregator : Bool
  /-- `Map_Create`. -/
  map : Bool
  search : SearchOutcome
  next : Nat → NextOutcome
  record : Nat → ProcessOutcome
  /-- `Utils_GetMapSize`. -/
  mapSize : Bool

namespace ProcessCreationCollector

/-- The loop of `ProcessCreationCollector_PopulateExecutableHashMap`; a search hands out no more
events than there are in the log. -/
def populateFrom (o : ProcessInitOutcome) : Nat → Nat → AuditSearchResult → AuditSearch →
    ExecutableHashMap → EventCollectorResult × ExecutableHashMap
  | 0, _, _, _, map => (.exception, map)
  | rounds + 1, i, hasNextResult, search, map =>
      if hasNextResult = .hasMoreData then
        match addEntryToExecutableHashMap (o.record i) search.event map with
        | .error result => (result, map)
        | .ok map =>
            let (hasNextResult, search) := search.getNext (o.next (i + 1))
            populateFrom o rounds (i + 1) hasNextResult search map
      else (.ok, map)

/-- `ProcessCreationCollector_PopulateExecutableHashMap`: its result, and the map. -/
def populateExecutableHashMap (answer : SetEuid) (judge : AuditSearch.Judge)
    (o : ProcessInitOutcome) (log : List AuditEvent) :
    StateM Privileges (EventCollectorResult × ExecutableHashMap) :=
  if o.map = false then pure (.exception, [])
  else do
    let opened ← PrivilegedSearch.init answer judge o.search .type AUDIT_PROCESS_INTEGRITY_TYPE log
    let populated := match opened with
      | none => (EventCollectorResult.exception, [])
      | some opened =>
          let (hasNextResult, search) := opened.search.getNext (o.next 0)
          populateFrom o (log.length + 1) 0 hasNextResult search []
    let _ ← PrivilegedSearch.deinitIfOpened answer opened
    pure populated

/-- What is logged on the way. -/
def initErrors (ruleAdded aggregator : Bool) : List String :=
  (if ruleAdded then [] else ["Could not set audit to collect execve."])
    ++ (if aggregator then [] else ["Could not set initiate event aggregator"])

/-- What `ProcessCreationCollector_Init` does while it has the audit control. -/
def initWithControl (answer : SetEuid) (judge : AuditSearch.Judge) (o : ProcessInitOutcome)
    (log : List AuditEvent) (auditControl : AuditControl) :
    StateM Privileges (CollectorInit × ExecutableHashMap) := do
  let ruleAdded := auditControl.addRule o.addRule
    [AuditControl.AUDIT_CONTROL_TYPE_EXECVE, AuditControl.AUDIT_CONTROL_TYPE_EXECVEAT] none
  let errors := initErrors ruleAdded o.aggregator
  let (result, map) ← populateExecutableHashMap answer judge o log
  if result ≠ .ok then pure (⟨.exception, errors⟩, map)
  else if o.mapSize = false then pure (⟨.exception, errors⟩, map)
  else if map = [] then
    pure (⟨.ok, errors ++ ["Could not collect auditd integrity_rule events. It might happen if "
      ++ "you haven't rebooted the machine after the agent installation."]⟩, map)
  else pure (⟨.ok, errors⟩, map)

/-- Without the control there is nothing but the cleanup. -/
def initIfControl (answer : SetEuid) (judge : AuditSearch.Judge) (o : ProcessInitOutcome)
    (log : List AuditEvent) :
    Option AuditControl → StateM Privileges (CollectorInit × ExecutableHashMap)
  | none => pure (⟨.exception, ["Could not init audit control instace."]⟩, [])
  | some auditControl => initWithControl answer judge o log auditControl

/-- `ProcessCreationCollector_Init`, and the map it leaves. -/
def init (answer : SetEuid) (judge : AuditSearch.Judge) (o : ProcessInitOutcome)
    (log : List AuditEvent) : StateM Privileges (CollectorInit × ExecutableHashMap) := do
  let audit ← AuditControl.init answer o.control
  let started ← initIfControl answer judge o log audit
  let _ ← AuditControl.deinitIfInitiated answer audit
  pure started

end ProcessCreationCollector

/-! ## Connections -/

/-- What the environment answers in `ConnectionCreateEventCollector_Init`. -/
structure ConnectionInitOutcome where
  control : ControlOutcome
  addRule : AddRuleOutcome
  /-- `EventAggregator_Init`. -/
  aggregator : Bool

namespace ConnectionCreateEventCollector

/-- What is logged on the way. -/
def initErrors (ruleAdded aggregator : Bool) : List String :=
  (if ruleAdded then [] else ["Could not set audit to collect connect / accept."])
    ++ (if aggregator then [] else ["Could not set initiate event aggregator"])

/-- `ConnectionCreateEventCollector_Init`. -/
def init (answer : SetEuid) (o : ConnectionInitOutcome) : StateM Privileges CollectorInit := do
  let audit ← AuditControl.init answer o.control
  let started := match audit with
    | none => ⟨.exception, ["Could not init audit control instace."]⟩
    | some auditControl =>
        let ruleAdded := auditControl.addRule o.addRule
          [AuditControl.AUDIT_CONTROL_TYPE_CONNECT, AuditControl.AUDIT_CONTROL_TYPE_ACCEPT]
          (some AuditControl.AUDIT_CONTROL_ON_SUCCESS_FILTER)
        ⟨.ok, initErrors ruleAdded o.aggregator⟩
  let _ ← AuditControl.deinitIfInitiated answer audit
  pure started

end ConnectionCreateEventCollector

/-! ## Collecting from the audit log -/

namespace AuditCollector

variable {σ ω : Type} (c : AuditCollector σ ω)

/-- What a collector does with an open search, up to storing the checkpoint. -/
def withSearch (o : CollectionOutcome ω) (aggregatorInitialized : Bool) (log : List AuditEvent)
    (checkpoint : Option Int) (s : σ) (search : AuditSearch) : CollectorRunResult σ :=
  let (hasNextResult, search) := search.getNext (o.next 0)
  let aggregation := aggregatorInitialized && o.isAggregationEnabled.getD false
  let loop := c.collect o aggregation (log.length + 1) 0 hasNextResult search s
  let (aggregatorResult, aggregated, s') :=
    if aggregatorInitialized && loop.result = .ok && loop.hasNextResult = .noMoreData then
      c.getAggregatedEvents o.emission loop.state
    else (.ok, [], loop.state)
  let result :=
    if loop.result ≠ .ok then loop.result
    else if loop.hasNextResult ≠ .noMoreData then .exception
    else if aggregatorResult ≠ .ok then .exception else .ok
  let (stored, checkpoint') := search.setCheckpoint o.write checkpoint
  ⟨if stored then result else .exception, loop.handled, loop.made, aggregated, checkpoint', s'⟩

/-- The two functions, with their search as it is opened and closed. -/
def getEventsAsRoot (answer : SetEuid) (judge : AuditSearch.Judge) (o : CollectionOutcome ω)
    (aggregatorInitialized : Bool) (log : List AuditEvent) (checkpoint : Option Int) (s : σ) :
    StateM Privileges (CollectorRunResult σ) := do
  let opened ← PrivilegedSearch.initMultipleSearchCriteria answer judge o.search c.searchCriteria
    c.messageTypes checkpoint log
  let collected := match opened with
    | none => ⟨.exception, [], [], [], checkpoint, s⟩
    | some opened => c.withSearch o aggregatorInitialized log checkpoint s opened.search
  let _ ← PrivilegedSearch.deinitIfOpened answer opened
  pure collected

/-- The loop does not ask how its search was opened. -/
theorem collect_search (o : CollectionOutcome ω) (opened : SearchOutcome) (aggregation : Bool) :
    ∀ (rounds i : Nat) (hasNextResult : AuditSearchResult) (search : AuditSearch) (s : σ),
      c.collect { o with search := opened } aggregation rounds i hasNextResult search s
        = c.collect o aggregation rounds i hasNextResult search s := by
  intro rounds
  induction rounds with
  | zero => intro i hasNextResult search s; rfl
  | succ rounds ih =>
      intro i hasNextResult search s
      unfold collect
      simp only [ih]

/-- **It is the same run**, with the answer that the switch to root was given. -/
theorem getEventsAsRoot_eq (answer : SetEuid) (judge : AuditSearch.Judge) (o : CollectionOutcome ω)
    (aggregatorInitialized : Bool) (log : List AuditEvent) (checkpoint : Option Int) (s : σ)
    (p : Privileges) :
    (c.getEventsAsRoot answer judge o aggregatorInitialized log checkpoint s p).1
      = c.getEvents judge
        { o with search := { o.search with changeToRoot := (changeToRoot answer p).1.1 } }
        aggregatorInitialized log checkpoint s := by
  have hopened := PrivilegedSearch.initMultipleSearchCriteria_fst answer judge o.search
    c.searchCriteria c.messageTypes checkpoint log p
  have hrun : (c.getEventsAsRoot answer judge o aggregatorInitialized log checkpoint s p).1
      = match (PrivilegedSearch.initMultipleSearchCriteria answer judge o.search c.searchCriteria
          c.messageTypes checkpoint log p).1 with
        | none => ⟨.exception, [], [], [], checkpoint, s⟩
        | some opened => c.withSearch o aggregatorInitialized log checkpoint s opened.search := rfl
  rw [hrun, hopened]
  unfold getEvents
  dsimp only
  cases AuditSearch.initMultipleSearchCriteria judge
      { o.search with changeToRoot := (changeToRoot answer p).1.1 } c.searchCriteria c.messageTypes
      checkpoint log with
  | none => rfl
  | some search =>
      dsimp only [Option.map_some]
      unfold withSearch
      simp only [c.collect_search]

end AuditCollector

/-! ## The firewall -/

namespace FirewallCollector

/-- `FirewallCollector_IterateChains`, with the process. -/
def iterateChainsAsRoot (answer : SetEuid) (o : FirewallOutcome) (table : List IptablesChain) :
    StateM Privileges (Option (List Json)) := do
  let info ← changeToRoot answer
  let entries := iterateChains { o with changeToRoot := info.1 } table
  -- the cleanup, for which `processInfoWasSet` says whether the switch has succeeded
  let _ ← resetIfRoot answer info
  pure entries

/-- `FirewallCollector_GetEvents`, with the process. -/
def getEventsAsRoot (answer : SetEuid) (clock : Clock) (o : FirewallOutcome)
    (table : List IptablesChain) : StateM Privileges (EventCollectorResult × Option Json) :=
  if o.rootObject = false then pure (.exception, none)
  else
    match GenericEvent.addMetadata clock o.metadata JsonObjectWriter.init
        GenericEvent.EVENT_PERIODIC_CATEGORY FIREWALL_RULES_NAME
        GenericEvent.EVENT_TYPE_SECURITY_VALUE FIREWALL_RULES_PAYLOAD_SCHEMA_VERSION with
    | none => pure (.exception, none)
    | some firewallRulesWriter =>
        if o.array = false then pure (.exception, none)
        else pushReport o firewallRulesWriter <$> iterateChainsAsRoot answer o table

/-- It is the same collection, with the answer that the switch to root was given. -/
theorem getEventsAsRoot_eq (answer : SetEuid) (clock : Clock) (o : FirewallOutcome)
    (table : List IptablesChain) (p : Privileges) :
    (getEventsAsRoot answer clock o table p).1
      = getEvents clock { o with changeToRoot := (changeToRoot answer p).1.1 } table := by
  unfold getEventsAsRoot getEvents
  by_cases hroot : o.rootObject = false
  · rw [if_pos hroot, if_pos hroot]
    rfl
  rw [if_neg hroot, if_neg hroot]
  cases GenericEvent.addMetadata clock o.metadata JsonObjectWriter.init
      GenericEvent.EVENT_PERIODIC_CATEGORY FIREWALL_RULES_NAME
      GenericEvent.EVENT_TYPE_SECURITY_VALUE FIREWALL_RULES_PAYLOAD_SCHEMA_VERSION with
  | none => rfl
  | some writer =>
      dsimp only
      by_cases harray : o.array = false
      · rw [if_pos harray, if_pos harray]
        rfl
      · rw [if_neg harray, if_neg harray]
        rfl

end FirewallCollector

end SecurityAgent
