import SecurityAgent.Twin.Commit

/-!
# Which priorities there can be

The operational event is at its own priority or off; every other event is at
high, low or off. That is how the module starts, and normalisation keeps it. What
a commit stores as the operational priority is the word the twin gave for it,
though, and no word means the operational priority: so the invariant lasts as
long as nobody gives a word other than `"off"`.
-/

namespace SecurityAgent

open Reference JsonObjectReader

namespace EventCollectors

/-- The operational event is operational or off, and it is alone in being operational. -/
structure Normal (p : EventPriorities) : Prop where
  operational : safeGetPriority p .operationalEvent = .operational
    ∨ safeGetPriority p .operationalEvent = .off
  others : ∀ eventType, eventType ≠ .operationalEvent → safeGetPriority p eventType ≠ .operational

theorem normal_default : Normal defaultPriorities where
  operational := Or.inl rfl
  others := fun eventType h => by
    cases eventType
    case operationalEvent => exact absurd rfl h
    all_goals decide

theorem Normal.normalised {p : EventPriorities} (h : Normal p) :
    Normal (EventCollectors.normalised p) where
  operational := by
    unfold EventCollectors.normalised
    by_cases hp : p.operational = .off
    · rw [if_pos hp]; exact Or.inr rfl
    · rw [if_neg hp]; exact Or.inl rfl
  others := fun eventType he => by
    have ho := h.others eventType he
    cases eventType
    case operationalEvent => exact absurd rfl he
    all_goals exact ho

/-- No word means the operational priority. -/
theorem asPriority_ne_operational (v : Json) : asPriority v ≠ some .operational := by
  cases v with
  | string s =>
      show priorityWord s ≠ _
      unfold priorityWord
      generalize String.ofList (s.toList.map Char.toLower) = w
      simp only [List.lookup_cons, List.lookup_nil]
      cases w == "high" with
      | true => simp
      | false =>
          cases w == "low" with
          | true => simp
          | false => cases w == "off" <;> simp
  | null | bool _ | number _ | array _ | object _ => simp [asPriority, asString]

theorem settingOf_asPriority_ne_operational (object : Json.Members) (key : String) :
    settingOf asPriority object key ≠ .value .operational := by
  unfold settingOf
  cases object.lookup key with
  | none => simp
  | some v =>
      cases v with
      | object members =>
          dsimp only
          cases members.lookup TwinConfigurationUtils.VALUE_KEY with
          | none => simp
          | some w =>
              have hw := asPriority_ne_operational w
              dsimp only
              cases hp : asPriority w with
              | none => simp
              | some p => rw [hp] at hw; simpa using hw
      | null | bool _ | number _ | string _ | array _ => simp

/-- The operational priority the twin gives, if any, is `"off"`. -/
def OperationalAtMostOff (object : Json.Members) : Prop :=
  settingOf asPriority object OPERATIONAL_EVENT_KEY ≠ .value .high
    ∧ settingOf asPriority object OPERATIONAL_EVENT_KEY ≠ .value .low

/-- No other event is at the operational priority in what an object gives. -/
theorem others_priorities (object : Json.Members) (eventType : TwinConfigurationEventType)
    (he : eventType ≠ .operationalEvent) :
    safeGetPriority (Reference.priorities object) eventType ≠ .operational := by
  have hgetD : ∀ {key : String} {d : TwinConfigurationEventPriority}, d ≠ .operational →
      (settingOf asPriority object key).getD d ≠ .operational := by
    intro key d hd
    have hne := settingOf_asPriority_ne_operational object key
    cases hs : settingOf asPriority object key with
    | absent | invalid => exact hd
    | value p => rw [hs] at hne; exact fun hp => hne (congrArg Setting.value hp)
  cases eventType
  case operationalEvent => exact absurd rfl he
  all_goals exact hgetD (by decide)

/-- What an object gives is normal when the operational priority it gives is. -/
theorem normal_priorities_iff (object : Json.Members) :
    Normal (Reference.priorities object) ↔ OperationalAtMostOff object := by
  unfold OperationalAtMostOff
  have hne := settingOf_asPriority_ne_operational object OPERATIONAL_EVENT_KEY
  constructor
  · rintro ⟨hop, -⟩
    change (settingOf asPriority object OPERATIONAL_EVENT_KEY).getD .operational = .operational
      ∨ (settingOf asPriority object OPERATIONAL_EVENT_KEY).getD .operational = .off at hop
    constructor <;> intro hs <;> rw [hs] at hop <;> revert hop <;> decide
  · rintro ⟨hhigh, hlow⟩
    refine ⟨?_, others_priorities object⟩
    change (settingOf asPriority object OPERATIONAL_EVENT_KEY).getD .operational = .operational
      ∨ (settingOf asPriority object OPERATIONAL_EVENT_KEY).getD .operational = .off
    revert hne hhigh hlow
    cases settingOf asPriority object OPERATIONAL_EVENT_KEY with
    | absent | invalid => exact fun _ _ _ => Or.inl rfl
    | value p => cases p <;> simp [Setting.getD]

end EventCollectors

namespace TwinModule

open EventCollectors

/-- What the update commits, if anything, gives no operational priority but `"off"`. -/
def KeepsNormal (objectName : String) (s : TwinModule) (call : UpdateCall) : Prop :=
  ∀ object, Commits objectName s call object → OperationalAtMostOff object

theorem step_normal_iff (objectName : String) (s : TwinModule) (call : UpdateCall)
    (hs : Normal s.collectors.eventPriorities) :
    (∀ r s', step objectName s call = some (r, s') → Normal s'.collectors.eventPriorities)
      ↔ KeepsNormal objectName s call := by
  constructor
  · intro h object hc
    rw [← normal_priorities_iff]
    by_cases hsucc : Succeeds call.outcome object
    · exact h _ _ (update_succeeds hc hsucc)
    · obtain ⟨r, s', hstep, -, hp, -⟩ := update_fails_late hc hsucc
      exact hp ▸ h r s' hstep
  · intro h r s' hstep
    by_cases hc : ∃ object, Commits objectName s call object
    · obtain ⟨object, hc⟩ := hc
      have hnormal := (normal_priorities_iff object).mpr (h object hc)
      by_cases hsucc : Succeeds call.outcome object
      · rw [update_succeeds hc hsucc, Option.some.injEq, Prod.mk.injEq] at hstep
        obtain ⟨-, rfl⟩ := hstep
        exact hnormal
      · obtain ⟨r', s'', hstep', -, hp, -⟩ := update_fails_late hc hsucc
        rw [hstep', Option.some.injEq, Prod.mk.injEq] at hstep
        obtain ⟨-, rfl⟩ := hstep
        exact hp ▸ hnormal
    · rcases (update_uncommitted (not_exists.mp hc) hstep).eventPriorities with hp | hp
      · exact hp ▸ hs
      · exact hp ▸ hs.normalised

/-- **The priority invariant** lasts from `Init` through a run of updates exactly when every
update that commits leaves the operational priority alone or turns it off. -/
theorem priorities_normal_iff (objectName : String) (calls : List UpdateCall) :
    Machine.Throughout (step objectName) (fun s => Normal s.collectors.eventPriorities)
        init calls
      ↔ Machine.Along (step objectName) (KeepsNormal objectName) init calls :=
  Machine.throughout_iff_along (step_normal_iff objectName) normal_default

/-- A twin that gives the operational event the priority `"high"`, a word it knows. -/
theorem operational_priority_high :
    ¬ ∀ (objectName : String) (calls : List UpdateCall),
      Machine.Throughout (step objectName) (fun s => Normal s.collectors.eventPriorities)
        init calls := by
  intro h
  let high : Json.Members := [("eventPriorityOperational", .object [("value", .string "high")])]
  have hcommits : Commits "agent" init ⟨.ok 0, some (.object [("agent", .object high)]), false⟩
      high :=
    ⟨rfl, by decide +kernel, rfl, rfl, ⟨rfl, rfl⟩, rfl, by decide +kernel, by decide +kernel⟩
  have hstep := update_succeeds hcommits ⟨rfl, ⟨fun _ => rfl, fun _ => rfl⟩, rfl⟩
  have hrun := (h "agent" [⟨.ok 0, some (.object [("agent", .object high)]), false⟩]).2 _ _ hstep
  exact absurd ((normal_priorities_iff high).mp hrun).1 (by decide +kernel)

end TwinModule

end SecurityAgent
