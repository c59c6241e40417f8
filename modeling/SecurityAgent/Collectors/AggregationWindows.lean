import SecurityAgent.Collectors.FailedEmission

/-!
# What an aggregated event says is true

An event of the aggregator says of a payload that it was seen so many times between two moments. The
windows between these moments follow each other without a gap, and whatever fails, the
count is the number of times that the payload was accepted in the window of the event: an emission
that loses events takes its window with it, and does not spoil the next.
-/

namespace SecurityAgent

namespace EventAggregator

/-! ## Windows -/

/-- Since when the aggregator counts, and the payloads it has accepted since then. -/
structure Window where
  aggregationStartTime : Int
  payloads : List JsonObjectWriter

/-- A call makes events, and so ends the window. -/
def closes (o : EmissionOutcome) (aggregationStartTime : Int) : Bool :=
  match o.isEnabled, o.aggregationInterval with
  | some isAggregationEnabled, some aggregationInterval =>
      !isAggregationEnabled || isIntervalPassed o.now aggregationStartTime aggregationInterval
  | _, _ => false

namespace Window

/-- The window after a call. -/
def after (w : Window) (call : AggregatorCall) (out : AggregatorOutput) : Window :=
  match call with
  | .aggregateEvent _ _ => { w with payloads := w.payloads ++ out.accepted.toList }
  | .getAggregatedEvents o => if closes o w.aggregationStartTime then ⟨o.now, []⟩ else w

/-- The window before the call `i` of a run. -/
def before (w : Window) : List AggregatorCall → List AggregatorOutput → Nat → Window
  | call :: calls, out :: outs, i + 1 => (w.after call out).before calls outs i
  | _, _, _ => w

/-- How often a payload equal to `p` has been accepted in the window. -/
def hits (equals : Json → Json → Bool) (w : Window) (p : Json) : Nat :=
  (w.payloads.filter fun payload => equals payload.rootValue p).length

end Window

/-- The event says of this payload that it was seen so many times between these two times. -/
def Reports (clock : Clock) (payload : JsonObjectWriter) (hitCount : UInt32)
    (aggregationStartTime aggregationEndTime : Int) (event : Json) : Prop :=
  ∃ members details, event = .object members
    ∧ members.lookup GenericEvent.PAYLOAD_KEY
      = some (.array [(payload.setValue EXTRA_DETAILS_KEY (.object details)).rootValue])
    ∧ details.lookup HIT_COUNT_KEY = some (.number hitCount.toInt32.toInt)
    ∧ details.lookup START_TIME_LOCAL_KEY
      = (clock.timeAsString aggregationStartTime).map Json.string
    ∧ details.lookup START_TIME_UTC_KEY
      = (clock.utcTimeAsString aggregationStartTime).map Json.string
    ∧ details.lookup END_TIME_LOCAL_KEY = (clock.timeAsString aggregationEndTime).map Json.string
    ∧ details.lookup END_TIME_UTC_KEY = (clock.utcTimeAsString aggregationEndTime).map Json.string

variable {clock : Clock}

theorem addAggregationMetadata_details {o : EmitOutcome} {payload payload' : JsonObjectWriter}
    {hitCount : UInt32} {aggregationStartTime aggregationEndTime : Int}
    (h : addAggregationMetadata clock o payload hitCount aggregationStartTime aggregationEndTime
      = some payload') :
    ∃ details, payload' = payload.setValue EXTRA_DETAILS_KEY (.object details)
      ∧ details.lookup HIT_COUNT_KEY = some (.number hitCount.toInt32.toInt)
      ∧ details.lookup START_TIME_LOCAL_KEY
        = (clock.timeAsString aggregationStartTime).map Json.string
      ∧ details.lookup START_TIME_UTC_KEY
        = (clock.utcTimeAsString aggregationStartTime).map Json.string
      ∧ details.lookup END_TIME_LOCAL_KEY
        = (clock.timeAsString aggregationEndTime).map Json.string
      ∧ details.lookup END_TIME_UTC_KEY
        = (clock.utcTimeAsString aggregationEndTime).map Json.string := by
  unfold addAggregationMetadata at h
  split at h
  · rename_i hstartLocal hstartUtc hendLocal hendUtc
    split at h
    · obtain rfl := Option.some.inj h
      rw [hstartLocal, hstartUtc, hendLocal, hendUtc]
      refine ⟨_, rfl, ?_, ?_, ?_, ?_, ?_⟩ <;>
        simp [JsonObjectWriter.writeString, JsonObjectWriter.writeInt,
          JsonObjectWriter.lookup_setValue, HIT_COUNT_KEY, START_TIME_LOCAL_KEY, START_TIME_UTC_KEY,
          END_TIME_LOCAL_KEY, END_TIME_UTC_KEY]
    · cases h
  · cases h

/-- **An event reports its item**, since the last emission. -/
theorem aggregatedEvent_reports {o : EmitOutcome} {a : EventAggregator} {item : AggregatedEventItem}
    {aggregationEndTime : Int} {event : Json}
    (h : aggregatedEvent clock o a item aggregationEndTime = some event) :
    Reports clock item.json item.hitCount a.lastAggregationTime aggregationEndTime event := by
  unfold aggregatedEvent at h
  split at h
  · obtain ⟨metadata, -, h⟩ := Option.bind_eq_some_iff.mp h
    obtain ⟨payload, hpayload, h⟩ := Option.bind_eq_some_iff.mp h
    obtain ⟨writer, hwriter, rfl⟩ := Option.map_eq_some_iff.mp h
    obtain ⟨details, rfl, hdetails⟩ := addAggregationMetadata_details hpayload
    refine ⟨writer.rootObject, details, rfl, ?_, hdetails⟩
    unfold GenericEvent.addPayload at hwriter
    split at hwriter
    · obtain rfl := Option.some.inj hwriter
      exact (JsonObjectWriter.lookup_setValue _ _ _ _).trans (if_pos rfl)
    · cases hwriter
  · cases h

theorem emits_iff_closes {o : EmissionOutcome} {a : EventAggregator} :
    Emits o a ↔ closes o a.lastAggregationTime = true := by
  unfold Emits closes
  cases o.isEnabled with
  | none => simp
  | some isAggregationEnabled =>
      cases o.aggregationInterval with
      | none => simp
      | some aggregationInterval => simp

/-! ## Counting in a window -/

section Steps

variable {equals : Json → Json → Bool} {serialize : Json → String} {parse : String → Option Json}

/-- **What `EventAggregator_AggregateEvent` does**: nothing, or one hit more for the item of
the payload, or a new item. -/
theorem aggregateEvent_cases (h : PayloadEquality equals serialize parse) (o : AggregateOutcome)
    (a : EventAggregator) (eventPayload : JsonObjectWriter) :
    (∃ r, r ≠ .ok ∧ aggregateEvent equals serialize parse o a eventPayload = (r, a))
      ∨ (∃ front item rest, a.aggregatedEvents = front ++ item :: rest
        ∧ equals item.json.rootValue eventPayload.rootValue = true
        ∧ aggregateEvent equals serialize parse o a eventPayload
          = (.ok, { a with aggregatedEvents :=
              front ++ { item with hitCount := item.hitCount + 1 } :: rest }))
      ∨ ∃ json, (∀ item ∈ a.aggregatedEvents,
          equals item.json.rootValue eventPayload.rootValue = false)
        ∧ equals json.rootValue eventPayload.rootValue = true
        ∧ aggregateEvent equals serialize parse o a eventPayload
          = (.ok, { a with aggregatedEvents := a.aggregatedEvents ++ [⟨json, 1⟩] }) := by
  unfold aggregateEvent
  cases o.isEnabled with
  | none => exact Or.inl ⟨.exception, by decide, rfl⟩
  | some isEnabled =>
      cases isEnabled with
      | false => exact Or.inl ⟨.disabled, by decide, rfl⟩
      | true =>
          dsimp only
          cases hhit : hit equals eventPayload a.aggregatedEvents with
          | some items =>
              obtain ⟨front, item, rest, hitems, rfl, heq⟩ := hit_some hhit
              exact Or.inr (Or.inl ⟨front, item, rest, hitems, heq, rfl⟩)
          | none =>
              dsimp only
              unfold addNewEvent
              cases o.malloc with
              | false => exact Or.inl ⟨.exception, by decide, rfl⟩
              | true =>
                  cases hcopy : JsonObjectWriter.initFromString o.copy
                      (parse (serialize eventPayload.rootValue)) with
                  | none => exact Or.inl ⟨.exception, by decide, rfl⟩
                  | some json =>
                      cases o.add with
                      | false => exact Or.inl ⟨.exception, by decide, rfl⟩
                      | true =>
                          exact Or.inr (Or.inr ⟨json, hit_none hhit, equals_copy h hcopy, rfl⟩)

/-- The aggregator has counted what was accepted in the window. -/
structure Counts (equals : Json → Json → Bool) (w : Window) (a : EventAggregator) : Prop where
  start : a.lastAggregationTime = w.aggregationStartTime
  one : OneItemEach equals a.aggregatedEvents
  hits : ∀ item ∈ a.aggregatedEvents,
    item.hitCount = UInt32.ofNat (w.hits equals item.json.rootValue)
  seen : ∀ item ∈ a.aggregatedEvents, 0 < w.hits equals item.json.rootValue
  all : ∀ payload ∈ w.payloads, ∃ item ∈ a.aggregatedEvents,
    equals payload.rootValue item.json.rootValue = true

theorem hits_append (w : Window) (payload : JsonObjectWriter) (p : Json) :
    Window.hits equals { w with payloads := w.payloads ++ [payload] } p
      = w.hits equals p + if equals payload.rootValue p then 1 else 0 := by
  unfold Window.hits
  rw [List.filter_append, List.length_append, List.filter_singleton]
  cases equals payload.rootValue p <;> rfl

variable {w : Window} {a : EventAggregator}

/-- Of the items that there are only one is for the payload. -/
theorem Counts.others (h : PayloadEquality equals serialize parse) (hw : Counts equals w a)
    {front rest : List AggregatedEventItem} {item other : AggregatedEventItem} {p : Json}
    (hitems : a.aggregatedEvents = front ++ item :: rest)
    (hp : equals item.json.rootValue p = true) (hother : other ∈ front ++ rest) :
    equals p other.json.rootValue = false := by
  have hone := hw.one
  rw [hitems] at hone
  obtain ⟨-, hrest, hfront⟩ := List.pairwise_append.mp hone
  refine Bool.eq_false_iff.mpr fun hsame => ?_
  have hboth : equals item.json.rootValue other.json.rootValue = true := h.trans _ _ _ hp hsame
  rcases List.mem_append.mp hother with hmem | hmem
  · have hdiffer := hfront other hmem item List.mem_cons_self
    rw [h.symm _ _ hboth] at hdiffer
    cases hdiffer
  · have hdiffer := (List.pairwise_cons.mp hrest).1 other hmem
    rw [hboth] at hdiffer
    cases hdiffer

/-- One hit more, in the window and for the item. -/
theorem Counts.hit (h : PayloadEquality equals serialize parse) (hw : Counts equals w a)
    {front rest : List AggregatedEventItem} {item : AggregatedEventItem}
    {eventPayload : JsonObjectWriter} (hitems : a.aggregatedEvents = front ++ item :: rest)
    (hp : equals item.json.rootValue eventPayload.rootValue = true) :
    Counts equals { w with payloads := w.payloads ++ [eventPayload] }
      { a with aggregatedEvents := front ++ { item with hitCount := item.hitCount + 1 } :: rest } := by
  have hmem : ∀ x, x ∈ front ++ { item with hitCount := item.hitCount + 1 } :: rest →
      (x = { item with hitCount := item.hitCount + 1 }) ∨ x ∈ front ++ rest := by
    intro x hx
    rcases List.mem_append.mp hx with hx | hx
    · exact Or.inr (List.mem_append_left _ hx)
    · rcases List.mem_cons.mp hx with rfl | hx
      · exact Or.inl rfl
      · exact Or.inr (List.mem_append_right _ hx)
  have hold : ∀ x ∈ front ++ rest, x ∈ a.aggregatedEvents := by
    intro x hx
    rw [hitems]
    rcases List.mem_append.mp hx with hx | hx
    · exact List.mem_append_left _ hx
    · exact List.mem_append_right _ (List.mem_cons_of_mem _ hx)
  have hitem : item ∈ a.aggregatedEvents := by
    rw [hitems]
    exact List.mem_append_right _ List.mem_cons_self
  refine ⟨hw.start, ?_, fun x hx => ?_, fun x hx => ?_, fun payload hpayload => ?_⟩
  · have hone := hw.one
    rw [hitems] at hone
    simpa only [OneItemEach, List.pairwise_append, List.pairwise_cons, List.mem_cons,
      forall_eq_or_imp] using hone
  · rw [hits_append]
    rcases hmem x hx with rfl | hx
    · dsimp only
      rw [if_pos (h.symm _ _ hp), hw.hits item hitem, UInt32.ofNat_add]
      rfl
    · rw [if_neg (by rw [hw.others h hitems hp hx]; decide), Nat.add_zero]
      exact hw.hits x (hold x hx)
  · rw [hits_append]
    rcases hmem x hx with rfl | hx
    · exact Nat.lt_of_lt_of_le (hw.seen item hitem) (Nat.le_add_right _ _)
    · exact Nat.lt_of_lt_of_le (hw.seen x (hold x hx)) (Nat.le_add_right _ _)
  · rcases List.mem_append.mp hpayload with hpayload | hpayload
    · obtain ⟨x, hx, hequal⟩ := hw.all payload hpayload
      rw [hitems] at hx
      rcases List.mem_append.mp hx with hx | hx
      · exact ⟨x, List.mem_append_left _ hx, hequal⟩
      · rcases List.mem_cons.mp hx with rfl | hx
        · exact ⟨_, List.mem_append_right _ List.mem_cons_self, hequal⟩
        · exact ⟨x, List.mem_append_right _ (List.mem_cons_of_mem _ hx), hequal⟩
    · rw [List.mem_singleton.mp hpayload]
      exact ⟨_, List.mem_append_right _ List.mem_cons_self, h.symm _ _ hp⟩

/-- A payload that is new in the window gets an item. -/
theorem Counts.new (h : PayloadEquality equals serialize parse) (hw : Counts equals w a)
    {json eventPayload : JsonObjectWriter} (hnew : ∀ item ∈ a.aggregatedEvents,
      equals item.json.rootValue eventPayload.rootValue = false)
    (hjson : equals json.rootValue eventPayload.rootValue = true) :
    Counts equals { w with payloads := w.payloads ++ [eventPayload] }
      { a with aggregatedEvents := a.aggregatedEvents ++ [⟨json, 1⟩] } := by
  have hnone : w.hits equals json.rootValue = 0 := by
    refine List.length_eq_zero_iff.mpr (List.filter_eq_nil_iff.mpr fun payload hpayload hsame => ?_)
    obtain ⟨item, hitem, hequal⟩ := hw.all payload hpayload
    have hequal' : equals item.json.rootValue eventPayload.rootValue = true :=
      h.trans _ _ _ (h.symm _ _ hequal) (h.trans _ _ _ hsame hjson)
    rw [hnew item hitem] at hequal'
    cases hequal'
  have hdiffers : ∀ item ∈ a.aggregatedEvents,
      equals eventPayload.rootValue item.json.rootValue = false := by
    intro item hitem
    refine Bool.eq_false_iff.mpr fun hsame => ?_
    have hno := hnew item hitem
    rw [h.symm _ _ hsame] at hno
    cases hno
  refine ⟨hw.start, ?_, fun x hx => ?_, fun x hx => ?_, fun payload hpayload => ?_⟩
  · refine List.pairwise_append.mpr ⟨hw.one, List.pairwise_singleton _ _, fun item hitem x hx => ?_⟩
    rw [List.mem_singleton.mp hx]
    refine Bool.eq_false_iff.mpr fun hsame => ?_
    have hno := hnew item hitem
    rw [h.trans _ _ _ hsame hjson] at hno
    cases hno
  · rw [hits_append]
    rcases List.mem_append.mp hx with hx | hx
    · rw [if_neg (by rw [hdiffers x hx]; decide), Nat.add_zero]
      exact hw.hits x hx
    · rw [List.mem_singleton.mp hx, if_pos (h.symm _ _ hjson), hnone]
      rfl
  · rw [hits_append]
    rcases List.mem_append.mp hx with hx | hx
    · exact Nat.lt_of_lt_of_le (hw.seen x hx) (Nat.le_add_right _ _)
    · rw [List.mem_singleton.mp hx, if_pos (h.symm _ _ hjson)]
      exact Nat.succ_pos _
  · rcases List.mem_append.mp hpayload with hpayload | hpayload
    · obtain ⟨x, hx, hequal⟩ := hw.all payload hpayload
      exact ⟨x, List.mem_append_left _ hx, hequal⟩
    · rw [List.mem_singleton.mp hpayload]
      exact ⟨_, List.mem_append_right _ List.mem_cons_self, h.symm _ _ hjson⟩

/-- **One call**, whichever it is and whatever fails in it. -/
theorem Counts.step (h : PayloadEquality equals serialize parse) (hw : Counts equals w a)
    (call : AggregatorCall) :
    Counts equals (w.after call (step equals serialize parse clock a call).1)
      (step equals serialize parse clock a call).2 := by
  cases call with
  | aggregateEvent o eventPayload =>
      dsimp only [EventAggregator.step, Window.after]
      rcases aggregateEvent_cases h o a eventPayload with ⟨r, hr, heq⟩
        | ⟨front, item, rest, hitems, hp, heq⟩ | ⟨json, hnew, hjson, heq⟩
      · rw [heq]
        dsimp only
        rw [if_neg hr, Option.toList_none, List.append_nil]
        exact hw
      · rw [heq]
        exact hw.hit h hitems hp
      · rw [heq]
        exact hw.new h hnew hjson
  | getAggregatedEvents o =>
      dsimp only [EventAggregator.step, Window.after]
      by_cases hcloses : closes o w.aggregationStartTime = true
      · have hemits : Emits o a := emits_iff_closes.mpr (hw.start ▸ hcloses)
        rw [getAggregatedEvents_emits hemits, if_pos hcloses]
        exact ⟨rfl, List.Pairwise.nil, fun _ hx => absurd hx List.not_mem_nil,
          fun _ hx => absurd hx List.not_mem_nil, fun _ hx => absurd hx List.not_mem_nil⟩
      · have hkeeps : ¬ Emits o a := fun hemits => hcloses (hw.start ▸ emits_iff_closes.mp hemits)
        obtain ⟨r, hr⟩ := @getAggregatedEvents_keeps clock o a hkeeps
        rw [hr, if_neg hcloses]
        exact hw

/-! ## What is emitted -/

/-- What the events of one call tell about the window before it. -/
structure TellsTruth (equals : Json → Json → Bool) (clock : Clock) (w : Window)
    (o : EmissionOutcome) (emitted : List (AggregatedEventItem × Json)) : Prop where
  /-- Each of them tells how often its payload was accepted in the window. -/
  reports : ∀ e ∈ emitted, closes o w.aggregationStartTime = true
    ∧ 0 < w.hits equals e.1.json.rootValue
    ∧ Reports clock e.1.json (UInt32.ofNat (w.hits equals e.1.json.rootValue))
      w.aggregationStartTime o.now e.2
  /-- No two of them are about equal payloads. -/
  distinct : emitted.Pairwise fun e e' => equals e.1.json.rootValue e'.1.json.rootValue = false
  /-- If nothing fails, none is missing. -/
  complete : closes o w.aggregationStartTime = true → (∀ i, (o.item i).Succeeds clock) →
    clock.Prints w.aggregationStartTime → clock.Prints o.now →
    ∀ payload ∈ w.payloads, ∃ e ∈ emitted, equals payload.rootValue e.1.json.rootValue = true

theorem TellsTruth.nothing {o : EmissionOutcome}
    (hopen : ¬ closes o w.aggregationStartTime = true) : TellsTruth equals clock w o [] :=
  ⟨fun _ he => absurd he List.not_mem_nil, List.Pairwise.nil, fun hcloses => absurd hcloses hopen⟩

theorem Counts.tellsTruth (hw : Counts equals w a) (o : EmissionOutcome) :
    TellsTruth equals clock w o (getAggregatedEvents clock o a).2.1 := by
  by_cases hcloses : closes o w.aggregationStartTime = true
  · have hemits : Emits o a := emits_iff_closes.mpr (hw.start ▸ hcloses)
    rw [getAggregatedEvents_emits hemits]
    dsimp only
    rw [(createEvents_eq o.item o.now a.aggregatedEvents 0).1, pushedEvents]
    have hitem : ∀ x ∈ a.aggregatedEvents.zipIdx, x.1 ∈ a.aggregatedEvents :=
      fun x hx => List.fst_mem_of_mem_zipIdx hx
    refine ⟨fun e he => ?_, ?_, fun _ ho hstart hend payload hpayload => ?_⟩
    · obtain ⟨x, hx, hpushed⟩ := List.mem_filterMap.mp he
      obtain ⟨event, hevent, rfl⟩ := Option.map_eq_some_iff.mp hpushed
      have hmade : aggregatedEvent clock (o.item x.2) a x.1 o.now = some event := by
        unfold pushedEvent at hevent
        split at hevent
        · exact hevent
        · cases hevent
      have hreports := aggregatedEvent_reports hmade
      rw [hw.hits x.1 (hitem x hx), hw.start] at hreports
      exact ⟨hcloses, hw.seen x.1 (hitem x hx), hreports⟩
    · have hone : (a.aggregatedEvents.zipIdx.map Prod.fst).Pairwise
          fun x y => equals x.json.rootValue y.json.rootValue = false := by
        rw [List.zipIdx_map_fst]
        exact hw.one
      refine List.Pairwise.filterMap _ (fun x y hxy e he e' he' => ?_) (List.pairwise_map.mp hone)
      obtain ⟨event, _, rfl⟩ := Option.map_eq_some_iff.mp he
      obtain ⟨event', _, rfl⟩ := Option.map_eq_some_iff.mp he'
      exact hxy
    · obtain ⟨item, hmem, hequal⟩ := hw.all payload hpayload
      rw [← List.zipIdx_map_fst 0 a.aggregatedEvents] at hmem
      obtain ⟨x, hx, rfl⟩ := List.mem_map.mp hmem
      obtain ⟨event, hevent⟩ := Option.isSome_iff_exists.mp
        (@aggregatedEvent_isSome clock (o.item x.2) a x.1 o.now (ho x.2) (hw.start ▸ hstart) hend)
      refine ⟨(x.1, event), List.mem_filterMap.mpr ⟨x, hx, ?_⟩, hequal⟩
      rw [pushedEvent, if_pos (ho x.2).push, hevent]
      rfl
  · have hkeeps : ¬ Emits o a := fun hemits => hcloses (hw.start ▸ emits_iff_closes.mp hemits)
    obtain ⟨r, hr⟩ := @getAggregatedEvents_keeps clock o a hkeeps
    rw [hr]
    exact TellsTruth.nothing hcloses

/-! ## Whole runs -/

theorem Counts.run (h : PayloadEquality equals serialize parse) (clock : Clock) :
    ∀ (calls : List AggregatorCall) (w : Window) (a : EventAggregator), Counts equals w a →
      ∀ i o out, calls[i]? = some (.getAggregatedEvents o) →
        (Machine.runTotal (EventAggregator.step equals serialize parse clock) a calls).1[i]?
          = some out →
        TellsTruth equals clock
          (w.before calls
            (Machine.runTotal (EventAggregator.step equals serialize parse clock) a calls).1 i)
          o out.emitted := by
  intro calls
  induction calls with
  | nil => exact fun w a _ i o out hcall => by cases hcall
  | cons call calls ih =>
      intro w a hw i o out hcall hout
      rw [Machine.runTotal] at hout ⊢
      cases i with
      | zero =>
          obtain rfl := Option.some.inj hcall
          obtain rfl := Option.some.inj hout
          exact hw.tellsTruth o
      | succ i => exact ih _ _ (hw.step h call) i o out hcall hout

end Steps

/--
**What an aggregated event says is true.** Take any run of an aggregator from its initialisation, in
which anything may fail, and any call in it that makes events. The events say of their payloads
how often they were accepted since the last call that made events, or the initialisation, and
give its time and their own as start and end; the number is printed as an `int`, and counted with 32
bits. No two of them are about equal payloads, and if nothing fails in this call, no payload that
was accepted is missing.
-/
theorem events_tell_truth {equals : Json → Json → Bool} {serialize : Json → String}
    {parse : String → Option Json} (h : PayloadEquality equals serialize parse) (clock : Clock)
    (eventType eventName payloadSchemaVersion : String) (currentTime : Int)
    (calls : List AggregatorCall) {i : Nat} {o : EmissionOutcome} {out : AggregatorOutput}
    (hcall : calls[i]? = some (.getAggregatedEvents o))
    (hout : (Machine.runTotal (step equals serialize parse clock)
      (init eventType eventName payloadSchemaVersion currentTime) calls).1[i]? = some out) :
    TellsTruth equals clock
      (Window.before ⟨currentTime, []⟩ calls (Machine.runTotal (step equals serialize parse clock)
        (init eventType eventName payloadSchemaVersion currentTime) calls).1 i)
      o out.emitted := by
  refine Counts.run h clock calls ⟨currentTime, []⟩
    (init eventType eventName payloadSchemaVersion currentTime) ⟨rfl, List.Pairwise.nil, ?_, ?_, ?_⟩
    i o out hcall hout
  · exact fun _ hx => absurd hx List.not_mem_nil
  · exact fun _ hx => absurd hx List.not_mem_nil
  · exact fun _ hx => absurd hx List.not_mem_nil

theorem events_tell_truth_once :
    let clock : Clock := ⟨fun _ => some "1970", fun _ => some "1970"⟩
    let equals : Json → Json → Bool := fun v w => decide (namesText v = namesText w)
    let r := Machine.runTotal (step equals namesText namesParse clock)
      (init "Security" "ProcessCreate" "1.0" 0) countThenEmit
    ∃ o out, countThenEmit[1]? = some (.getAggregatedEvents o) ∧ r.1[1]? = some out
      ∧ TellsTruth equals clock (Window.before ⟨0, []⟩ countThenEmit r.1 1) o out.emitted := by
  intro clock equals r
  exact ⟨_, _, rfl, rfl, events_tell_truth payloadEquality_names clock "Security" "ProcessCreate"
    "1.0" 0 countThenEmit rfl rfl⟩

end EventAggregator

end SecurityAgent
