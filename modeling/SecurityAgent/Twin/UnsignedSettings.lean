import SecurityAgent.Twin.Commit

/-!
# Unsigned settings through a signed reader

Two settings are sizes, kept in a `uint32_t`. Their number is read as an
`int32_t`, by the conversion a C `double` undergoes, and its bits are kept. So
every number is taken for valid, whatever it is; it is stored as it stands only
when it is a natural number that is at most `2 ^ 31`, the limit itself being what the
conversion leaves for any number it cannot hold.
-/

namespace SecurityAgent

open JsonObjectReader TwinConfigurationUtils Reference

/-! ## The two settings -/

/-- The settings that are a `uint32_t` and not a duration. -/
inductive UnsignedSetting where
  | maxLocalCacheSize
  | maxMessageSize

namespace UnsignedSetting

def key : UnsignedSetting → String
  | maxLocalCacheSize => TwinConfiguration.MAX_LOCAL_CACHE_SIZE_KEY
  | maxMessageSize => TwinConfiguration.MAX_MESSAGE_SIZE_KEY

def stored (c : TwinConfiguration) : UnsignedSetting → UInt32
  | maxLocalCacheSize => c.maxLocalCacheSize
  | maxMessageSize => c.maxMessageSize

def status (b : TwinConfigurationBundleStatus) : UnsignedSetting → TwinConfigurationStatus
  | maxLocalCacheSize => b.maxLocalCacheSize
  | maxMessageSize => b.maxMessageSize

theorem stored_configuration (setting : UnsignedSetting) (object : Json.Members) :
    ∃ defaultValue, setting.stored (Reference.configuration object)
      = (settingOf asUInt32 object setting.key).getD defaultValue := by
  cases setting <;> exact ⟨_, rfl⟩

theorem status_bundleStatus (setting : UnsignedSetting) (object : Json.Members)
    (eventPriorities : TwinConfigurationStatus) :
    setting.status { bundleStatus object with eventPriorities := eventPriorities }
      = bundleStatus.status (settingOf asUInt32 object setting.key) := by
  cases setting <;> rfl

end UnsignedSetting

/-- The number an object gives for a setting. -/
def numberGiven (object : Json.Members) (key : String) : Option Rat :=
  match object.lookup key with
  | some (.object members) =>
      match members.lookup VALUE_KEY with
      | some (.number q) => some q
      | _ => none
  | _ => none

/-- Any number is a valid setting. -/
theorem settingOf_number {object : Json.Members} {key : String} {q : Rat}
    (h : numberGiven object key = some q) :
    settingOf asUInt32 object key = .value (int32OfDouble q).toUInt32 := by
  unfold numberGiven at h
  unfold settingOf
  cases hv : object.lookup key with
  | none => rw [hv] at h; exact absurd h (by simp)
  | some v =>
      rw [hv] at h
      cases v with
      | object members =>
          dsimp only at h ⊢
          cases hw : members.lookup VALUE_KEY with
          | none => rw [hw] at h; exact absurd h (by simp)
          | some w =>
              rw [hw] at h
              cases w with
              | number p => obtain rfl : p = q := Option.some.inj h; rfl
              | null | bool _ | string _ | array _ | object _ => exact absurd h (by simp)
      | null | bool _ | number _ | string _ | array _ => exact absurd h (by simp)

/-- A valid setting that is there has a number. -/
theorem number_of_valid {object : Json.Members} {key : String}
    (h : (settingOf asUInt32 object key).Valid) :
    settingOf asUInt32 object key = .absent ∨ ∃ q, numberGiven object key = some q := by
  unfold settingOf at h ⊢
  unfold numberGiven
  cases hv : object.lookup key with
  | none => exact Or.inl rfl
  | some v =>
      rw [hv] at h
      cases v with
      | null => exact Or.inl rfl
      | object members =>
          dsimp only at h ⊢
          cases hw : members.lookup VALUE_KEY with
          | none => rw [hw] at h; exact h.elim
          | some w =>
              rw [hw] at h
              cases w with
              | number q => exact Or.inr ⟨q, rfl⟩
              | null | bool _ | string _ | array _ | object _ => exact h.elim
      | bool _ | number _ | string _ | array _ => exact h.elim

namespace TwinModule

/-- The number given for a setting is taken for what it is: it is stored when it is a `uint32_t`,
and refused when it is not. -/
structure TakenExactly (setting : UnsignedSetting) (object : Json.Members)
    (r : TwinConfigurationResult) (s' : TwinModule) : Prop where
  only : r = .ok → settingOf asUInt32 object setting.key = .absent
    ∨ numberGiven object setting.key = some ((setting.stored s'.configuration).toNat : Rat)
  accepted : ∀ v : UInt32, numberGiven object setting.key = some (v.toNat : Rat) →
    setting.status s'.updateResult.configurationBundleStatus = .ok
      ∧ (r = .ok → setting.stored s'.configuration = v)
  refused : ∀ q, numberGiven object setting.key = some q → (¬ ∃ v : UInt32, q = (v.toNat : Rat)) →
    r ≠ .ok ∧ setting.status s'.updateResult.configurationBundleStatus = .typeMismatch

/-- A number that is given is a natural number at most `2 ^ 31`; or it is one below `2 ^ 32` in
an object of which nothing is stored. -/
def ExactWhen (objectName : String) (s : TwinModule) (call : UpdateCall)
    (setting : UnsignedSetting) (object : Json.Members) : Prop :=
  ∀ q, numberGiven object setting.key = some q → ∃ n : Nat, q = n
    ∧ (n ≤ 2147483648
      ∨ n < 4294967296 ∧ ¬ (Commits objectName s call object ∧ Succeeds call.outcome object))

variable {objectName : String} {s : TwinModule} {call : UpdateCall} {object : Json.Members}
  {r : TwinConfigurationResult} {s' : TwinModule}

/-- An update is successful exactly when it commits and nothing fails after that, and the object
then says what is stored. Its own statuses are those the object deserves in any case. -/
theorem step_reports
    (hread : objectRead objectName call.outcome call.parsed call.complete = some object)
    (hstep : step objectName s call = some (r, s')) :
    (r = .ok ↔ Commits objectName s call object ∧ Succeeds call.outcome object)
      ∧ (r = .ok → s'.configuration = Reference.configuration object)
      ∧ ∃ status, s'.updateResult.configurationBundleStatus
        = { bundleStatus object with eventPriorities := status } := by
  by_cases hc : Commits objectName s call object
  · by_cases hs : Succeeds call.outcome object
    · rw [update_succeeds hc hs, Option.some.injEq, Prod.mk.injEq] at hstep
      obtain ⟨rfl, rfl⟩ := hstep
      exact ⟨⟨fun _ => ⟨hc, hs⟩, fun _ => rfl⟩, fun _ => rfl, _, rfl⟩
    · obtain ⟨r', s'', hlate, hr, -, -, hstatus⟩ := update_fails_late hc hs
      rw [hlate, Option.some.injEq, Prod.mk.injEq] at hstep
      obtain ⟨rfl, rfl⟩ := hstep
      exact ⟨⟨fun h => absurd h hr, fun h => absurd h.2 hs⟩, fun h => absurd h hr, hstatus⟩
  · have hnone : ∀ object', ¬ Commits objectName s call object' := by
      intro object' hc'
      have hsame : object' = object := Option.some.inj (hc'.read.symm.trans hread)
      exact hc (hsame ▸ hc')
    have hrefused := update_uncommitted hnone hstep
    exact ⟨⟨fun h => absurd h hrefused.failed, fun h => absurd h.1 hc⟩,
      fun h => absurd h hrefused.failed, hrefused.status object hread⟩

/-- What an update does with a number that is given. -/
theorem step_number (setting : UnsignedSetting)
    (hread : objectRead objectName call.outcome call.parsed call.complete = some object)
    (hstep : step objectName s call = some (r, s')) {q : Rat}
    (hq : numberGiven object setting.key = some q) :
    setting.status s'.updateResult.configurationBundleStatus = .ok
      ∧ (r = .ok → setting.stored s'.configuration = (int32OfDouble q).toUInt32) := by
  obtain ⟨-, hconf, status, hstatus⟩ := step_reports hread hstep
  have hvalue := settingOf_number hq
  refine ⟨?_, fun hr => ?_⟩
  · rw [hstatus, setting.status_bundleStatus, hvalue]
    rfl
  · obtain ⟨d, hd⟩ := setting.stored_configuration object
    rw [hconf hr, hd, hvalue]
    rfl

/-- **Unsigned settings are taken exactly** when the numbers given for them are small enough to
come through the signed reader. -/
theorem taken_exactly_iff (setting : UnsignedSetting)
    (hread : objectRead objectName call.outcome call.parsed call.complete = some object)
    (hstep : step objectName s call = some (r, s')) :
    TakenExactly setting object r s' ↔ ExactWhen objectName s call setting object := by
  have hok := (step_reports hread hstep).1
  constructor
  · rintro ⟨-, haccepted, hrefused⟩ q hq
    obtain ⟨hstatus, hstored⟩ := step_number setting hread hstep hq
    by_cases hv : ∃ v : UInt32, q = (v.toNat : Rat)
    · obtain ⟨v, rfl⟩ := hv
      refine ⟨v.toNat, rfl, ?_⟩
      rcases Nat.lt_or_ge 2147483648 v.toNat with hlarge | hsmall
      · refine Or.inr ⟨v.toNat_lt, fun hcommits => ?_⟩
        have hr := hok.mpr hcommits
        have hsame := (hstored hr).symm.trans ((haccepted v hq).2 hr)
        have hnat := int32OfDouble_large (Nat.le_of_lt hlarge)
        rw [hsame] at hnat
        omega
      · exact Or.inl hsmall
    · -- no number is refused
      have hmismatch := (hrefused q hq hv).2
      rw [hstatus] at hmismatch
      exact absurd hmismatch (by decide)
  · intro hexact
    refine ⟨fun hr => ?_, ?_, ?_⟩
    · have hcommits := hok.mp hr
      have hvalid : (settingOf asUInt32 object setting.key).Valid := by
        have hdecodes := hcommits.1.configuration
        cases setting
        · exact hdecodes.1
        · exact hdecodes.2.1
      rcases number_of_valid hvalid with ha | ⟨q, hq⟩
      · exact Or.inl ha
      · obtain ⟨n, rfl, hsmall⟩ := hexact q hq
        rcases hsmall with hle | ⟨-, hfails⟩
        · rw [(step_number setting hread hstep hq).2 hr, int32OfDouble_natCast hle]
          exact Or.inr hq
        · exact absurd hcommits hfails
    · intro v hq
      obtain ⟨hstatus, hstored⟩ := step_number setting hread hstep hq
      refine ⟨hstatus, fun hr => ?_⟩
      obtain ⟨n, hn, hsmall⟩ := hexact _ hq
      have hvn : v.toNat = n := by exact_mod_cast hn
      rcases hsmall with hle | ⟨-, hfails⟩
      · rw [hstored hr, ← UInt32.toNat_inj, hvn]
        exact int32OfDouble_natCast hle
      · exact absurd (hok.mp hr) hfails
    · intro q hq hv
      obtain ⟨n, rfl, hsmall⟩ := hexact q hq
      have hn : n < 4294967296 := by
        rcases hsmall with hle | ⟨hlt, -⟩ <;> omega
      exact absurd ⟨UInt32.ofNat n, by rw [UInt32.toNat_ofNat_of_lt' hn]⟩ hv

/-- A size of 1024 is stored. -/
theorem taken_exactly_iff_1024 :
    ∃ r s', step "agent" init ⟨.ok 0, some (.object [("agent", .object
        [("maxMessageSizeInBytes", .object [("value", .number 1024)])])]), false⟩ = some (r, s')
      ∧ (TakenExactly .maxMessageSize
          [("maxMessageSizeInBytes", .object [("value", .number 1024)])] r s'
        ↔ ExactWhen "agent" init ⟨.ok 0, some (.object [("agent", .object
          [("maxMessageSizeInBytes", .object [("value", .number 1024)])])]), false⟩
          .maxMessageSize [("maxMessageSizeInBytes", .object [("value", .number 1024)])]) := by
  have hread : objectRead "agent" (.ok 0) (some (.object [("agent", .object
      [("maxMessageSizeInBytes", .object [("value", .number 1024)])])])) false
      = some [("maxMessageSizeInBytes", .object [("value", .number 1024)])] := rfl
  have hcommits : Commits "agent" init ⟨.ok 0, some (.object [("agent", .object
      [("maxMessageSizeInBytes", .object [("value", .number 1024)])])]), false⟩
      [("maxMessageSizeInBytes", .object [("value", .number 1024)])] :=
    ⟨hread, by decide +kernel, rfl, rfl, ⟨rfl, rfl⟩, rfl, by decide +kernel, by decide +kernel⟩
  have hstep := update_succeeds hcommits ⟨rfl, ⟨fun _ => rfl, fun _ => rfl⟩, rfl⟩
  exact ⟨_, _, hstep, taken_exactly_iff .maxMessageSize hread hstep⟩

/-- A size of -1 is taken for `2 ^ 32 - 1`. -/
theorem negative_size_accepted :
    ¬ ∀ (objectName : String) (s : TwinModule) (call : UpdateCall) (object : Json.Members)
      (r : TwinConfigurationResult) (s' : TwinModule) (setting : UnsignedSetting),
      objectRead objectName call.outcome call.parsed call.complete = some object →
        step objectName s call = some (r, s') → TakenExactly setting object r s' := by
  intro h
  let object : Json.Members := [("maxMessageSizeInBytes", .object [("value", .number (-1))])]
  have hread : objectRead "agent" (.ok 0) (some (.object [("agent", .object object)])) false
      = some object := rfl
  have hcommits : Commits "agent" init ⟨.ok 0, some (.object [("agent", .object object)]), false⟩
      object :=
    ⟨hread, by decide +kernel, rfl, rfl, ⟨rfl, rfl⟩, rfl, by decide +kernel, by decide +kernel⟩
  have hstep := update_succeeds hcommits ⟨rfl, ⟨fun _ => rfl, fun _ => rfl⟩, rfl⟩
  have htaken := h _ _ _ _ _ _ .maxMessageSize hread hstep
  refine (htaken.refused (-1) rfl ?_).1 rfl
  rintro ⟨v, hv⟩
  have hnonneg : (0 : Rat) ≤ (v.toNat : Rat) := Rat.natCast_nonneg
  rw [← hv] at hnonneg
  exact absurd hnonneg (by decide)

end TwinModule

end SecurityAgent
