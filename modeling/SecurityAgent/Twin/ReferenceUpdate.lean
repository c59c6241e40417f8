import SecurityAgent.Twin.Commit

/-!
# An update is the reference decoding

With locks and memory there, an update from a usable module succeeds exactly when
its document is accepted, and the configuration is then what the reference reads
from the document: the state before does not matter, and neither does the order in
which the document names its members.
-/

namespace SecurityAgent

open JsonObjectReader TwinConfigurationUtils

/-! ## The order of members -/

/-- The decoder knows no objects and no arrays. -/
structure Scalar {α : Type} (decode : Decoder α) : Prop where
  object : ∀ members, decode (.object members) = none
  array : ∀ items, decode (.array items) = none

theorem scalar_asUInt32 : Scalar asUInt32 := ⟨fun _ => rfl, fun _ => rfl⟩
theorem scalar_asString : Scalar asString := ⟨fun _ => rfl, fun _ => rfl⟩
theorem scalar_asBool : Scalar asBool := ⟨fun _ => rfl, fun _ => rfl⟩
theorem scalar_asTime : Scalar asTime := ⟨fun _ => rfl, fun _ => rfl⟩
theorem scalar_asPriority : Scalar asPriority := ⟨fun _ => rfl, fun _ => rfl⟩

/-- Two objects that give every name the same value, up to the order inside it. -/
def SameMembers (o o' : Json.Members) : Prop :=
  ∀ key, Json.OptReorder (o.lookup key) (o'.lookup key)

theorem Scalar.reorder {α : Type} {decode : Decoder α} (hd : Scalar decode) {v v' : Json}
    (h : Json.Reorder v v') : decode v = decode v' := by
  by_cases hv : ∃ members, v = .object members
  · obtain ⟨members, rfl⟩ := hv
    obtain ⟨members', rfl, -⟩ := h.object_left members rfl
    rw [hd.object, hd.object]
  · rcases h.not_object (not_exists.mp hv) with rfl | ⟨⟨items, rfl⟩, items', rfl⟩
    · rfl
    · rw [hd.array, hd.array]

/-- A setting does not depend on the order of members. -/
theorem settingOf_sameMembers {α : Type} {decode : Decoder α} (hd : Scalar decode)
    {o o' : Json.Members} (h : SameMembers o o') (key : String) :
    settingOf decode o key = settingOf decode o' key := by
  have hk := h key
  unfold settingOf
  cases hv : o.lookup key with
  | none =>
      rw [hv] at hk
      cases hv' : o'.lookup key with
      | none => rfl
      | some v' => rw [hv'] at hk; exact hk.elim
  | some v =>
      rw [hv] at hk
      cases hv' : o'.lookup key with
      | none => rw [hv'] at hk; exact hk.elim
      | some v' =>
          rw [hv'] at hk
          replace hk : Json.Reorder v v' := hk
          by_cases hobject : ∃ members, v = .object members
          · obtain ⟨members, rfl⟩ := hobject
            obtain ⟨members', rfl, hm⟩ := hk.object_left members rfl
            have hvalue := hm VALUE_KEY
            dsimp only
            cases hw : members.lookup VALUE_KEY with
            | none =>
                rw [hw] at hvalue
                cases hw' : members'.lookup VALUE_KEY with
                | none => rfl
                | some w' => rw [hw'] at hvalue; exact hvalue.elim
            | some w =>
                rw [hw] at hvalue
                cases hw' : members'.lookup VALUE_KEY with
                | none => rw [hw'] at hvalue; exact hvalue.elim
                | some w' =>
                    rw [hw'] at hvalue
                    dsimp only
                    rw [hd.reorder hvalue]
          · rcases hk.not_object (not_exists.mp hobject) with rfl | ⟨⟨items, rfl⟩, items', rfl⟩
            · rfl
            · rfl

namespace Reference

theorem decodes_sameMembers {o o' : Json.Members} (h : SameMembers o o') :
    (ConfigurationDecodes o ↔ ConfigurationDecodes o') ∧ (PrioritiesDecode o ↔ PrioritiesDecode o')
      ∧ (AggregationDecodes o ↔ AggregationDecodes o') := by
  simp only [ConfigurationDecodes, PrioritiesDecode, AggregationDecodes,
    settingOf_sameMembers scalar_asUInt32 h, settingOf_sameMembers scalar_asString h,
    settingOf_sameMembers scalar_asBool h, settingOf_sameMembers scalar_asTime h,
    settingOf_sameMembers scalar_asPriority h, and_self]

theorem values_sameMembers {o o' : Json.Members} (h : SameMembers o o') :
    configuration o = configuration o' ∧ priorities o = priorities o' := by
  simp only [configuration, priorities,
    settingOf_sameMembers scalar_asUInt32 h, settingOf_sameMembers scalar_asString h,
    settingOf_sameMembers scalar_asBool h, settingOf_sameMembers scalar_asTime h,
    settingOf_sameMembers scalar_asPriority h, and_self]

/-- The document is accepted. -/
structure Accepts (objectName : String) (complete : Bool) (document : Json) : Prop where
  located : location objectName complete document ≠ .rejected
  configuration : ConfigurationDecodes (location objectName complete document).object
  priorities : PrioritiesDecode (location objectName complete document).object
  aggregation : AggregationDecodes (location objectName complete document).object

/-- Two locations that are the same up to order. -/
def SameLocation : Location → Location → Prop
  | .rejected, .rejected => True
  | .missing, .missing => True
  | .found o, .found o' => SameMembers o o'
  | _, _ => False

theorem SameLocation.object {l l' : Location} (h : SameLocation l l') :
    SameMembers l.object l'.object := by
  cases l <;> cases l' <;> first | exact h.elim | exact h | exact fun _ => .refl _

theorem SameLocation.rejected_iff {l l' : Location} (h : SameLocation l l') :
    l = .rejected ↔ l' = .rejected := by
  cases l <;> cases l' <;> first | exact h.elim | simp

/-- Where a looked-up member leads. -/
def Location.ofMember : Option Json → Location
  | none => .missing
  | some .null => .missing
  | some (.object object) => .found object
  | some _ => .rejected

theorem ofMember_same {v v' : Option Json} (h : Json.OptReorder v v') :
    SameLocation (.ofMember v) (.ofMember v') := by
  cases v with
  | none =>
      cases v' with
      | none => trivial
      | some w' => exact h.elim
  | some w =>
      cases v' with
      | none => exact h.elim
      | some w' =>
          replace h : Json.Reorder w w' := h
          by_cases hobject : ∃ members, w = .object members
          · obtain ⟨members, rfl⟩ := hobject
            obtain ⟨members', rfl, hm⟩ := h.object_left members rfl
            exact hm
          · rcases h.not_object (not_exists.mp hobject) with rfl | ⟨⟨items, rfl⟩, items', rfl⟩
            · cases w' with
              | object members => exact absurd ⟨members, rfl⟩ hobject
              | null | bool _ | number _ | string _ | array _ => trivial
            · trivial

theorem locate_same {o o' : Json.Members} (h : SameMembers o o') (objectName : String) :
    SameLocation (locate objectName o) (locate objectName o') := ofMember_same (h objectName)

/-- Of a complete document, the agent's object is looked up in the desired properties. -/
theorem location_complete (objectName : String) (ms : Json.Members) :
    location objectName true (.object ms) = match Location.ofMember (ms.lookup "desired") with
      | .found desired => locate objectName desired
      | _ => .rejected := by
  unfold location
  dsimp only
  rw [if_pos rfl]
  cases ms.lookup "desired" with
  | none => rfl
  | some w => cases w <;> rfl

theorem location_same {document document' : Json} (h : Json.Reorder document document')
    (objectName : String) (complete : Bool) :
    SameLocation (location objectName complete document)
      (location objectName complete document') := by
  by_cases hobject : ∃ members, document = .object members
  · obtain ⟨members, rfl⟩ := hobject
    obtain ⟨members', rfl, hm⟩ := h.object_left members rfl
    cases complete with
    | false => exact locate_same hm objectName
    | true =>
        have hdesired := ofMember_same (hm "desired")
        rw [location_complete, location_complete]
        cases hl : Location.ofMember (members.lookup "desired") <;>
          cases hl' : Location.ofMember (members'.lookup "desired") <;>
          rw [hl, hl'] at hdesired
        case found.found => exact locate_same hdesired objectName
        all_goals trivial
  · rcases h.not_object (not_exists.mp hobject) with rfl | ⟨⟨items, rfl⟩, items', rfl⟩
    · cases document' with
      | object members => exact absurd ⟨members, rfl⟩ hobject
      | null | bool _ | number _ | string _ | array _ => trivial
    · trivial

/-- Acceptance does not depend on the order of members. -/
theorem accepts_reorder {document document' : Json} (h : Json.Reorder document document')
    (objectName : String) (complete : Bool) :
    Accepts objectName complete document ↔ Accepts objectName complete document' := by
  have hsame := location_same h objectName complete
  obtain ⟨hc, hp, ha⟩ := decodes_sameMembers hsame.object
  constructor
  · rintro ⟨hl, hc', hp', ha'⟩
    exact ⟨fun he => hl (hsame.rejected_iff.mpr he), hc.mp hc', hp.mp hp', ha.mp ha'⟩
  · rintro ⟨hl, hc', hp', ha'⟩
    exact ⟨fun he => hl (hsame.rejected_iff.mp he), hc.mpr hc', hp.mpr hp', ha.mpr ha'⟩

end Reference

namespace TwinModule

open Reference

variable {objectName : String} {s : TwinModule} {t : Int} {document : Json} {complete : Bool}

/-- When locks and memory are there, an update commits what it accepts. -/
theorem commits_iff_accepts (hname : '.' ∉ objectName.toList) (hs : s.Usable) :
    (∃ object, Commits objectName s ⟨.ok t, some document, complete⟩ object)
      ↔ Accepts objectName complete document := by
  have hread : ∀ object, objectRead objectName (.ok t) (some document) complete = some object ↔
      location objectName complete document ≠ .rejected
        ∧ (location objectName complete document).object = object := by
    intro object
    unfold objectRead
    rw [located_of_no_dot hname]
    cases location objectName complete document <;> simp [UpdateOutcome.ok, Location.object]
  constructor
  · rintro ⟨object, h⟩
    obtain ⟨hl, rfl⟩ := (hread object).mp h.read
    exact ⟨hl, h.configuration, h.priorities, h.aggregation⟩
  · rintro ⟨hl, hc, hp, ha⟩
    exact ⟨_, (hread _).mpr ⟨hl, rfl⟩, hc, hs.lock, rfl, hs.collectors, rfl, hp, ha⟩

/-- What such an update commits is what the document gives. -/
theorem Commits.object_eq (hname : '.' ∉ objectName.toList) {object : Json.Members}
    (h : Commits objectName s ⟨.ok t, some document, complete⟩ object) :
    (location objectName complete document).object = object := by
  have hread := h.read
  unfold objectRead at hread
  dsimp only at hread
  rw [located_of_no_dot hname] at hread
  revert hread
  cases location objectName complete document <;> simp [UpdateOutcome.ok, Location.object]

/-- With locks and memory an update of a usable module comes to an end. -/
theorem update_returns (hs : s.Usable) (objectName : String) (t : Int) (parsed : Option Json)
    (complete : Bool) :
    ∃ r s', update objectName (.ok t) parsed complete s = some (r, s') := by
  cases hread : objectRead objectName (.ok t) parsed complete with
  | none =>
      rcases update_not_read hread s with ⟨-, -, -, he⟩ | ⟨-, r, -, hu⟩
      · exact absurd he (by simp [UpdateOutcome.ok])
      · exact ⟨r, _, hu⟩
  | some object =>
      obtain ⟨around, hu⟩ := update_of_read hread s
      rw [hu]
      by_cases hc : ConfigurationDecodes object
      · rw [updateFrom_taken hc hs.lock rfl, EventCollectors.update_free hs.collectors]
        exact ⟨_, _, rfl⟩
      · rw [updateFrom_undecoded hc]
        exact ⟨_, _, rfl⟩

/-- **An update is the reference decoding** of its document: it succeeds exactly when the document
is accepted, and the settings are then those the document gives, in whatever order it is
written and whatever they were before. -/
theorem update_is_reference_decoding (objectName : String) (hname : '.' ∉ objectName.toList)
    (s : TwinModule) (hs : s.Usable) (t : Int) (complete : Bool) (document written : Json)
    (horder : Json.Reorder document written) :
    ∃ r s', update objectName (.ok t) (some written) complete s = some (r, s')
      ∧ (r = .ok ↔ Accepts objectName complete document)
      ∧ (r = .ok →
        s'.configuration
            = Reference.configuration (location objectName complete document).object
          ∧ s'.collectors.eventPriorities
            = Reference.priorities (location objectName complete document).object) := by
  obtain ⟨hconf, hprio⟩ :=
    values_sameMembers (location_same horder objectName complete).object
  rw [accepts_reorder horder, hconf, hprio, ← commits_iff_accepts hname hs (t := t)]
  obtain ⟨r, s', hu⟩ := update_returns hs objectName t (some written) complete
  refine ⟨r, s', hu, ?_⟩
  by_cases hcommits : ∃ object, Commits objectName s ⟨.ok t, some written, complete⟩ object
  · obtain ⟨object, hc⟩ := hcommits
    have hsucceeds : Succeeds (.ok t) object := ⟨rfl, ⟨fun _ => rfl, fun _ => rfl⟩, rfl⟩
    have hstep := update_succeeds hc hsucceeds
    unfold step at hstep
    rw [hu, Option.some.injEq, Prod.mk.injEq] at hstep
    obtain ⟨rfl, rfl⟩ := hstep
    rw [hc.object_eq hname]
    exact ⟨⟨fun _ => ⟨object, hc⟩, fun _ => rfl⟩, fun _ => ⟨rfl, rfl⟩⟩
  · have hstep : step objectName s ⟨.ok t, some written, complete⟩ = some (r, s') := hu
    have hr := (update_uncommitted (not_exists.mp hcommits) hstep).failed
    exact ⟨⟨fun h => absurd h hr, fun h => absurd h hcommits⟩, fun h => absurd h hr⟩

/-- Two members, written in either order. -/
theorem update_is_reference_decoding_swapped :
    ∃ r s', update "agent" (.ok 0) (some (.object [("version", .null), ("agent", .object [])]))
        false init = some (r, s')
      ∧ (r = .ok ↔ Accepts "agent" false (.object [("agent", .object []), ("version", .null)]))
      ∧ (r = .ok →
        s'.configuration = Reference.configuration (location "agent" false
            (.object [("agent", .object []), ("version", .null)])).object
          ∧ s'.collectors.eventPriorities = Reference.priorities (location "agent" false
            (.object [("agent", .object []), ("version", .null)])).object) :=
  update_is_reference_decoding "agent" (by decide) init ⟨rfl, rfl, rfl⟩ 0 false
    (.object [("agent", .object []), ("version", .null)])
    (.object [("version", .null), ("agent", .object [])])
    (.perm (List.Perm.swap _ _ _) (by decide))

end TwinModule

end SecurityAgent
