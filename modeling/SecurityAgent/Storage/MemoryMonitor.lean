/-!
# The memory monitor

`internal_memory_monitor.c` keeps one counter, the bytes of cache in use, and
`synchronized_memory_monitor.c` takes a lock around each access to it. Everything
here is 32-bit unsigned arithmetic, additions included: `UInt32` wraps exactly
where the C does.

The file static `memoryLimitInBytes` is refreshed from the twin configuration by
every call that reads it, so it is the argument `limit` of the call and not part
of the state.
-/

namespace SecurityAgent

/-- `MemoryMonitorResultValues`. -/
inductive MemoryMonitorResult where
  | ok
  | memoryExceeded
  | invalidReleaseSize
  | exception
  deriving DecidableEq, Repr

/-- Whether `Lock` and `Unlock` return `LOCK_OK` around one operation. -/
structure LockOutcome where
  /-- `Lock(handle) == LOCK_OK`. -/
  lock : Bool
  /-- `Unlock(handle) == LOCK_OK`. -/
  unlock : Bool
  deriving DecidableEq, Repr

/-- Both succeed. -/
def LockOutcome.ok : LockOutcome := ⟨true, true⟩

/-- The monitor's state. -/
structure MemoryMonitor where
  /-- `currentConsumptionInBytes`. -/
  currentConsumptionInBytes : UInt32
  deriving DecidableEq, Repr

namespace MemoryMonitor

/-- `InternalMemoryMonitor_Init`. -/
def init : MemoryMonitor := ⟨0⟩

/-- `InternalMemoryMonitor_Consume`. `limit` is the value
`TwinConfiguration_GetMaxLocalCacheSize` delivers, `none` when it does not return `TWIN_OK`. -/
def internalConsume (limit : Option UInt32) (m : MemoryMonitor) (size : UInt32) :
    MemoryMonitorResult × MemoryMonitor :=
  match limit with
  | none => (.exception, m)
  | some memoryLimitInBytes =>
      if m.currentConsumptionInBytes + size > memoryLimitInBytes then (.memoryExceeded, m)
      else (.ok, ⟨m.currentConsumptionInBytes + size⟩)

/-- `InternalMemoryMonitor_Release`. -/
def internalRelease (m : MemoryMonitor) (size : UInt32) : MemoryMonitorResult × MemoryMonitor :=
  if size > m.currentConsumptionInBytes then (.invalidReleaseSize, m)
  else (.ok, ⟨m.currentConsumptionInBytes - size⟩)

/-- The shape every function of `synchronized_memory_monitor.c` has. When only the unlock
fails, the operation has happened and its result is replaced. -/
def synchronized (o : LockOutcome) (op : MemoryMonitor → MemoryMonitorResult × MemoryMonitor)
    (m : MemoryMonitor) : MemoryMonitorResult × MemoryMonitor :=
  if o.lock = false then (.exception, m)
  else if o.unlock = false then (.exception, (op m).2)
  else op m

/-- `MemoryMonitor_Consume`. -/
def consume (o : LockOutcome) (limit : Option UInt32) (m : MemoryMonitor) (sizeInBytes : UInt32) :
    MemoryMonitorResult × MemoryMonitor :=
  synchronized o (fun m => internalConsume limit m sizeInBytes) m

/-- `MemoryMonitor_Release`. -/
def release (o : LockOutcome) (m : MemoryMonitor) (sizeInBytes : UInt32) :
    MemoryMonitorResult × MemoryMonitor :=
  synchronized o (fun m => internalRelease m sizeInBytes) m

/-! ## What one call can do to the counter -/

/-- A consume takes the bytes, or leaves the counter alone and does not return `ok`. -/
theorem consume_cases (o : LockOutcome) (limit : Option UInt32) (m : MemoryMonitor) (n : UInt32) :
    ((consume o limit m n).1 ≠ .ok ∧ (consume o limit m n).2 = m)
      ∨ (o.lock = true ∧ (∃ l, limit = some l ∧ m.currentConsumptionInBytes + n ≤ l)
          ∧ (consume o limit m n).2 = ⟨m.currentConsumptionInBytes + n⟩
          ∧ ((consume o limit m n).1 = .ok ↔ o.unlock = true)) := by
  obtain ⟨lock, unlock⟩ := o
  unfold consume synchronized internalConsume
  cases lock with
  | false => left; simp
  | true =>
      cases limit with
      | none => left; cases unlock <;> simp
      | some l =>
          by_cases hl : m.currentConsumptionInBytes + n > l
          · left; cases unlock <;> simp [hl]
          · right
            have hle : m.currentConsumptionInBytes + n ≤ l := UInt32.not_lt.mp hl
            cases unlock <;> simp [hl, hle]

/-- A release that gets the lock and is not refused gives the bytes back. -/
theorem release_of_le {o : LockOutcome} {m : MemoryMonitor} {n : UInt32} (ho : o.lock = true)
    (hn : n ≤ m.currentConsumptionInBytes) :
    (release o m n).2 = ⟨m.currentConsumptionInBytes - n⟩ := by
  have hlt : ¬ n > m.currentConsumptionInBytes := UInt32.not_lt.mpr hn
  unfold release synchronized internalRelease
  cases o.unlock <;> simp [ho, hlt]

end MemoryMonitor

end SecurityAgent
