import SecurityAgent.Collectors.DiagnosticEventCollector

/-!
# Correlations: `correlation_manager.c`

Every thread has a correlation of its own, which a thread of the scheduler renews each time before
it executes its task. It is a block that a thread-specific pointer points to; when the thread ends,
the block is freed by the destructor of the key.

Freeing or reading a block that is not there has no result, and neither has a call while
there is no key.
-/

namespace SecurityAgent

/-- The thread-specific pointers of `correlationIdKey`, and the blocks. -/
structure CorrelationManager where
  /-- The blocks that are allocated, with the C strings in them. -/
  blocks : Nat → Option String
  /-- What `malloc` returns next. -/
  nextBlock : Nat
  /-- There is a key. -/
  correlationIdKey : Bool
  /-- `pthread_getspecific`, for each thread. -/
  specific : Nat → Option Nat

/-- What the environment answers in `CorrelationManager_SetCorrelation`. -/
structure SetOutcome where
  malloc : Bool
  /-- `UniqueId_Generate`. -/
  uniqueId : Option String
  /-- `pthread_setspecific` with the new block. -/
  setspecific : Bool

namespace CorrelationManager

def EMPTY_GUID : String := "00000000-0000-0000-0000-000000000000"

/-- Nothing is allocated, and there is no key. -/
def start : CorrelationManager := ⟨fun _ => none, 0, false, fun _ => none⟩

/-- `free`. -/
def free (s : CorrelationManager) (block : Nat) : Option CorrelationManager :=
  if (s.blocks block).isSome then some { s with blocks := Function.update s.blocks block none }
  else none

/-- `CorrelationId_Deinit`, called by a thread. -/
def correlationIdDeinit (s : CorrelationManager) (thread correlationId : Nat) :
    Option CorrelationManager :=
  (s.free correlationId).map fun s =>
    { s with specific := Function.update s.specific thread none }

/-- The thread gives up the correlation it has, if it has one. -/
def clearCurrent (s : CorrelationManager) (thread : Nat) : Option CorrelationManager :=
  match s.specific thread with
  | none => some s
  | some currentCorrelationId => s.correlationIdDeinit thread currentCorrelationId

/-- `CorrelationManager_Init`: a key is new to every thread. -/
def init (create : Bool) (s : CorrelationManager) : Bool × CorrelationManager :=
  if create then (true, { s with correlationIdKey := true, specific := fun _ => none })
  else (false, s)

/-- `CorrelationManager_Deinit`. With the key the pointers of all threads are gone, and no
destructor is called. -/
def deinit (thread : Nat) (s : CorrelationManager) : Option CorrelationManager :=
  if s.correlationIdKey = false then none
  else (s.clearCurrent thread).map fun s =>
    { s with correlationIdKey := false, specific := fun _ => none }

/-- `CorrelationManager_GetCorrelation`. -/
def getCorrelation (s : CorrelationManager) (thread : Nat) : Option String :=
  if s.correlationIdKey = false then none
  else
    match s.specific thread with
    | none => some EMPTY_GUID
    | some correlationId => s.blocks correlationId

/-- A block is allocated, and a text written to it. -/
def allocate (s : CorrelationManager) (text : String) : CorrelationManager :=
  { s with blocks := Function.update s.blocks s.nextBlock (some text),
           nextBlock := s.nextBlock + 1 }

/-- `CorrelationManager_SetCorrelation`: its result, and the block it has allocated. The block is
cleared before anybody asks if it is there, and the result of `pthread_setspecific` is not
looked at. -/
def setCorrelation (o : SetOutcome) (thread : Nat) (s : CorrelationManager) :
    Option (Bool × Nat × CorrelationManager) :=
  if s.correlationIdKey = false ∨ o.malloc = false then none
  else
    match o.uniqueId with
    | none => some (false, s.nextBlock, s.allocate "")
    | some id =>
        ((s.allocate id).clearCurrent thread).map fun s₁ =>
          (true, s.nextBlock,
            if o.setspecific then
              { s₁ with specific := Function.update s₁.specific thread (some s.nextBlock) }
            else s₁)

/-- A thread ends: the destructor of the key gets the pointer, if there is one. -/
def threadExit (thread : Nat) (s : CorrelationManager) : Option CorrelationManager :=
  s.clearCurrent thread

end CorrelationManager

/-- What a thread does. -/
inductive CorrelationOp where
  /-- `Logger_SetCorrelation`. -/
  | setCorrelation (thread : Nat) (o : SetOutcome)
  /-- `DiagnosticEventCollector_InitDiagnosticEvent`. -/
  | initDiagnosticEvent (thread : Nat) (o : LogOutcome) (message : String) (severity : Severity)
  | threadExit (thread : Nat)

/-- What comes of it. -/
inductive CorrelationOutput where
  | setCorrelation (result : Bool) (correlationId : Nat)
  | initDiagnosticEvent (event : Option DiagnosticEvent)
  | threadExit

namespace CorrelationManager

def step (s : CorrelationManager) :
    CorrelationOp → Option (CorrelationOutput × CorrelationManager)
  | .setCorrelation thread o =>
      (s.setCorrelation o thread).map fun r => (.setCorrelation r.1 r.2.1, r.2.2)
  | .initDiagnosticEvent thread o message severity =>
      (s.getCorrelation thread).bind fun correlationId =>
        (DiagnosticEventCollector.initDiagnosticEvent { o with correlationId := correlationId }
          message severity).map fun event => (.initDiagnosticEvent event, s)
  | .threadExit thread => (s.threadExit thread).map fun s => (.threadExit, s)

end CorrelationManager

end SecurityAgent
