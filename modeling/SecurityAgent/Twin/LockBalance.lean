import SecurityAgent.Lib.Run
import SecurityAgent.Twin.Update

/-!
# Who gives the collectors' lock back

Every operation on the event collectors' settings takes the lock and gives it
back, whatever its body answers, with one exception: asked for the aggregation of
an event that is not aggregated, a getter returns from the middle of its switch.
The lock stays taken, and the next operation is refused for it.
-/

namespace SecurityAgent

namespace EventCollectors

/-- The public operations, `Deinit` apart. -/
inductive Operation where
  | init
  | update (propertiesReader : JsonObjectReader)
  | getPriority (eventType : TwinConfigurationEventType)
  | getAggregationEnabled (eventType : TwinConfigurationEventType)
  | getAggregationInterval (eventType : TwinConfigurationEventType)
  | getPrioritiesJson (allocated : Nat → Bool) (prioritiesJson : JsonObjectWriter)

/-- An operation by one thread, when `Lock` and `Unlock` succeed. -/
def perform (m : EventCollectors) :
    Operation → Option (TwinConfigurationResult × EventCollectors)
  | .init => some (.ok, EventCollectors.init)
  | .update propertiesReader =>
      (EventCollectors.update ⟨true, true⟩ propertiesReader m).map fun x => (x.1, x.2.2)
  | .getPriority eventType =>
      (EventCollectors.getPriority ⟨true, true⟩ eventType m).map fun x => (x.1, x.2.2)
  | .getAggregationEnabled eventType =>
      (EventCollectors.getAggregationEnabled ⟨true, true⟩ eventType m).map fun x => (x.1, x.2.2)
  | .getAggregationInterval eventType =>
      (EventCollectors.getAggregationInterval ⟨true, true⟩ eventType m).map fun x => (x.1, x.2.2)
  | .getPrioritiesJson allocated prioritiesJson =>
      (EventCollectors.getPrioritiesJson ⟨true, true⟩ allocated prioritiesJson m).map
        fun x => (x.1, x.2.2)

/-- The events that are aggregated. -/
def Aggregated (eventType : TwinConfigurationEventType) : Prop :=
  eventType = .processCreate ∨ eventType = .connectionCreate

/-- The operation does not ask for the aggregation of an event that is not aggregated. -/
def Balanced : Operation → Prop
  | .getAggregationEnabled eventType => Aggregated eventType
  | .getAggregationInterval eventType => Aggregated eventType
  | _ => True

/-! ## What the bodies answer -/

/-- The writes that fail give no other result than `exception`. -/
def OnlyException {α : Type} (x : WriteM α) : Prop :=
  ∀ writer result writer', x writer = .error result writer' → result = .exception

theorem onlyException_bind {α β : Type} {x : WriteM α} {f : α → WriteM β} (hx : OnlyException x)
    (hf : ∀ a, OnlyException (f a)) : OnlyException (x >>= f) := by
  intro writer result writer' h
  change EStateM.bind x f writer = _ at h
  unfold EStateM.bind at h
  cases hw : x writer with
  | error r w =>
      rw [hw] at h
      obtain ⟨rfl, -⟩ := EStateM.Result.error.inj h
      exact hx writer r w hw
  | ok a w => rw [hw] at h; exact hf a w result writer' h

theorem onlyException_writeSetting (allocated : Bool) (write : JsonObjectWriter → JsonObjectWriter) :
    OnlyException (writeSetting allocated write) := by
  intro writer result writer' h
  unfold writeSetting at h
  cases allocated with
  | false => exact (EStateM.Result.error.inj h).1.symm
  | true => exact absurd h (by simp)

theorem onlyException_printDuration (milisec : UInt32) : OnlyException (printDuration milisec) := by
  intro writer result writer' h
  unfold printDuration at h
  cases hp : TimeUtils.millisecondsToISO8601DurationString milisec
      TimeUtils.DURATION_MAX_LENGTH with
  | none => rw [hp] at h; exact (EStateM.Result.error.inj h).1.symm
  | some text => rw [hp] at h; exact absurd h (by simp)

theorem onlyException_safeGetPrioritiesJson (allocated : Nat → Bool) (p : EventPriorities) :
    OnlyException (safeGetPrioritiesJson allocated p) := by
  unfold safeGetPrioritiesJson
  iterate 11 refine onlyException_bind (onlyException_writeSetting _ _) fun _ => ?_
  refine onlyException_bind (onlyException_printDuration _) fun _ => ?_
  iterate 2 refine onlyException_bind (onlyException_writeSetting _ _) fun _ => ?_
  refine onlyException_bind (onlyException_printDuration _) fun _ => ?_
  exact onlyException_writeSetting _ _

/-! ## One operation -/

/-- A locked operation whose body keeps the lock and does not complain about it. -/
theorem locked_balanced {β : Type} {refused : β}
    {body : EventCollectors → TwinConfigurationResult × β × EventCollectors}
    {m : EventCollectors} (hm : m.Free)
    (hbody : ∀ m', (body m').2.2.lock = m'.lock ∧ (body m').2.2.isLocked = m'.isLocked)
    (hresult : ∀ m', (body m').1 ≠ .lockException) :
    ∃ r m', (locked ⟨true, true⟩ refused body m).map (fun x => (x.1, x.2.2)) = some (r, m')
      ∧ r ≠ .lockException ∧ m'.Free := by
  rw [locked_free hm hbody]
  exact ⟨_, _, rfl, hresult _, rfl, rfl⟩

theorem getAggregation_aggregated {β : Type} {field : EventPriorities → Option β}
    {m : EventCollectors} (hm : m.Free) {value : β} (hf : field m.eventPriorities = some value) :
    ∃ r m', (getAggregation ⟨true, true⟩ field m).map (fun x => (x.1, x.2.2)) = some (r, m')
      ∧ r ≠ .lockException ∧ m'.Free := by
  obtain ⟨p, handle, flag⟩ := m
  obtain ⟨rfl, rfl⟩ : handle = .free ∧ flag = false := ⟨hm.lock, hm.flag⟩
  replace hf : field p = some value := hf
  simp only [getAggregation, takeLock, LockHandle.lock, Bool.false_eq_true, if_false, if_true, hf]
  exact ⟨_, _, rfl, by simp, rfl, rfl⟩

/-- The early return. -/
theorem getAggregation_not_aggregated {β : Type} {field : EventPriorities → Option β}
    {m : EventCollectors} (hm : m.Free) (hf : field m.eventPriorities = none) :
    (getAggregation ⟨true, true⟩ field m).map (fun x => (x.1, x.2.2))
      = some (.exception, { m with lock := .held, isLocked := true }) := by
  obtain ⟨p, handle, flag⟩ := m
  obtain ⟨rfl, rfl⟩ : handle = .free ∧ flag = false := ⟨hm.lock, hm.flag⟩
  replace hf : field p = none := hf
  simp only [getAggregation, takeLock, LockHandle.lock, Bool.false_eq_true, if_false, if_true, hf]
  rfl

/-- A balanced operation on a free module leaves it free, and is not refused. -/
theorem perform_balanced {m : EventCollectors} (hm : m.Free) {op : Operation} (h : Balanced op) :
    ∃ r m', perform m op = some (r, m') ∧ r ≠ .lockException ∧ m'.Free := by
  cases op with
  | init => exact ⟨_, _, rfl, by decide, rfl, rfl⟩
  | update propertiesReader =>
      refine locked_balanced hm (fun m' => ?_) fun m' => ?_
      · rw [setValuesBody_eq]
        exact ⟨rfl, rfl⟩
      · rw [setValuesBody_eq]
        unfold passResult
        dsimp only
        split_ifs <;> simp
  | getPriority eventType =>
      exact locked_balanced hm (fun m' => ⟨rfl, rfl⟩) fun m' => by simp
  | getAggregationEnabled eventType =>
      rcases h with rfl | rfl <;> exact getAggregation_aggregated hm rfl
  | getAggregationInterval eventType =>
      rcases h with rfl | rfl <;> exact getAggregation_aggregated hm rfl
  | getPrioritiesJson allocated prioritiesJson =>
      refine locked_balanced hm (fun m' => ?_) fun m' => ?_
      · unfold prioritiesJsonBody
        cases safeGetPrioritiesJson allocated m'.eventPriorities prioritiesJson <;>
          exact ⟨rfl, rfl⟩
      · unfold prioritiesJsonBody
        cases hw : safeGetPrioritiesJson allocated m'.eventPriorities prioritiesJson with
        | ok _ writer => simp
        | error result writer =>
            rw [onlyException_safeGetPrioritiesJson _ _ _ _ _ hw]
            simp

/-- Any other operation leaves the lock taken. -/
theorem perform_unbalanced {m : EventCollectors} (hm : m.Free) {op : Operation}
    (h : ¬ Balanced op) :
    perform m op = some (.exception, { m with lock := .held, isLocked := true }) := by
  cases op with
  | init | update _ | getPriority _ | getPrioritiesJson _ _ => exact absurd trivial h
  | getAggregationEnabled eventType =>
      refine getAggregation_not_aggregated hm ?_
      cases eventType
      case processCreate => exact absurd (Or.inl rfl) h
      case connectionCreate => exact absurd (Or.inr rfl) h
      all_goals rfl
  | getAggregationInterval eventType =>
      refine getAggregation_not_aggregated hm ?_
      cases eventType
      case processCreate => exact absurd (Or.inl rfl) h
      case connectionCreate => exact absurd (Or.inr rfl) h
      all_goals rfl

/-! ## Every run -/

/-- **The lock is balanced** exactly in the runs that never ask for the aggregation of an event
that is not aggregated: there it is free between the operations, and none is refused. -/
theorem lock_balance_iff (ops : List Operation) :
    (Machine.Throughout perform Free init ops ↔ ∀ op ∈ ops, Balanced op)
      ∧ ((∀ op ∈ ops, Balanced op) →
        Machine.EveryStep perform (fun _ _ r m' => r ≠ .lockException ∧ m'.Free) init ops) := by
  have hfree : Free init := ⟨rfl, rfl⟩
  have hstep : ∀ m op, Free m → Balanced op → ∃ r m', perform m op = some (r, m') ∧ Free m' := by
    intro m op hm h
    obtain ⟨r, m', hp, -, hm'⟩ := perform_balanced hm h
    exact ⟨r, m', hp, hm'⟩
  have halong : Machine.Along perform (fun _ op => Balanced op) init ops ↔ ∀ op ∈ ops, Balanced op :=
    Machine.along_iff_forall hstep hfree
  refine ⟨(Machine.throughout_iff_along (fun m op hm => ?_) hfree).trans halong, fun h => ?_⟩
  · constructor
    · intro h
      by_contra hb
      have hheld := h _ _ (perform_unbalanced hm hb)
      exact absurd hheld.flag (by simp)
    · intro h r m' hp
      obtain ⟨r', m'', hp', -, hm'⟩ := perform_balanced hm h
      rw [hp', Option.some.injEq, Prod.mk.injEq] at hp
      exact hp.2 ▸ hm'
  · refine Machine.everyStep_of_along (I := Free) (fun m op hm hb => ?_) hfree (halong.mpr h)
    obtain ⟨r, m', hp, hr, hm'⟩ := perform_balanced hm hb
    exact ⟨r, m', hp, ⟨hr, hm'⟩, hm'⟩

/-- Asked for the aggregation of the login event, the getter keeps the lock; the next operation
is refused. -/
theorem getAggregation_keeps_lock :
    ¬ ∀ ops : List Operation, Machine.Throughout perform Free init ops := by
  intro h
  have hheld := (h [.getAggregationEnabled .userLogin]).2 _ _ rfl
  exact absurd hheld.flag (by decide)

end EventCollectors

end SecurityAgent
