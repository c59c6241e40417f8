import SecurityAgent.Collectors.BaselineCollector

/-!
# What is made of what the checker writes

The checker's output is read into a buffer that has just been allocated. Its first byte is made a
terminator, but the output is written over it, and nothing ends the output: the text that is parsed
goes on with what the memory held before, up to the first byte there that is zero.

A parser that stops at the end of the first document does not mind, as long as the output is one.
Where the output is the beginning of a document, the memory may hold the rest.
-/

namespace SecurityAgent

open Utils JsonObjectReader

/-- What is relied on of `json_parse_string`: it parses the first value in a string, and whatever
follows an object is not looked at. -/
structure ParsesFirst (parse : String → Option Json) : Prop where
  first : ∀ (text rest : List Char) (members : Json.Members),
    parse (String.ofList text) = some (.object members) →
      parse (String.ofList (text ++ rest)) = some (.object members)
  empty : parse "" = none
  /-- The texts in a document are no longer than it. -/
  texts : ∀ (text : String) (value : Json) (s : String),
    parse text = some value → value.HasText s → s.length ≤ text.length

/-- The environment in which the buffer is allocated, with this in it and behind it. -/
def PayloadsOutcome.allocated (o : PayloadsOutcome) (contents behind : List Char) :
    PayloadsOutcome :=
  { o with buffer := some (contents ++ behind) }

/-- The memory for everything but the buffer is there. -/
structure PayloadsOutcome.Succeeds (o : PayloadsOutcome) : Prop where
  reader : o.reader = true
  array : o.array = true
  readObject : ∀ i, o.readObject i = true
  write : ∀ i, o.write i = true

/-- A result, as the checker writes it. -/
structure BaselineResult where
  result : String
  description : String
  cceid : String
  errorText : String
  severity : String
  deriving DecidableEq, Repr

namespace BaselineCollector

/-! ## One result -/

/-- The text under a name. -/
def textAt (fields : Json.Members) (key : String) : Option String :=
  (fields.lookup key).bind asString

/-- The texts of an item, if it is an object and has them all. -/
def resultOf : Json → Option BaselineResult
  | .object fields => do
      let result ← textAt fields OMS_BASELINE_RESULT_KEY
      let description ← textAt fields OMS_BASELINE_DESCRIPTION_KEY
      let cceid ← textAt fields OMS_BASELINE_CCEID_KEY
      let errorText ← textAt fields OMS_BASELINE_ERROR_KEY
      let severity ← textAt fields OMS_BASELINE_SERVERITY_KEY
      some ⟨result, description, cceid, errorText, severity⟩
  | _ => none

/-- `PASS`, whatever the case of its letters. -/
def isPass (strValue : String) : Bool := strValue.toList.map Char.toLower = ['p', 'a', 's', 's']

/-- What is reported of a result. -/
def payload (r : BaselineResult) : Json :=
  .object [(BASELINE_RESULT_KEY, .string r.result),
    (BASELINE_DESCRIPTION_KEY, .string r.description), (BASELINE_CCEID_KEY, .string r.cceid),
    (BASELINE_ERROR_KEY, .string r.errorText), (BASELINE_SEVERITY_KEY, .string r.severity)]

/-- **What is to be reported**: the results that have not passed, in their order. -/
def reported (results : List BaselineResult) : List Json :=
  (results.filter fun r => !isPass r.result).map payload

/-- What the collector takes for `PASS`. -/
def takenForPass (strValue : String) : Bool :=
  unsafeAreStringsEqual (some OMS_BASELINE_PASS_VALUE) (some strValue) false = some true

theorem takenForPass_eq {strValue : String} (h : strValue.length < 2 ^ 32) :
    takenForPass strValue = isPass strValue := by
  have hpass : OMS_BASELINE_PASS_VALUE.toList.map Char.toLower = ['p', 'a', 's', 's'] := by decide
  refine decide_eq_decide.mpr ?_
  rw [unsafeAreStringsEqual_eq (by decide) h, if_neg Bool.false_ne_true, hpass, Option.some.injEq,
    beq_iff_eq]
  exact eq_comm

theorem toOption_readString {reader : JsonObjectReader} {key : String} (h : '.' ∉ key.toList) :
    (reader.readString key).toOption = textAt reader.rootObject key := by
  rw [readString_readsAs reader key h]
  unfold textAt
  cases reader.rootObject.lookup key with
  | none => rfl
  | some value => cases value <;> rfl

theorem copyStringValue_eq {reader : JsonObjectReader} {srcKey : String}
    (h : '.' ∉ srcKey.toList) (writer : JsonObjectWriter) (destKey : String) :
    copyStringValue reader srcKey writer destKey
      = (textAt reader.rootObject srcKey).map (writer.writeString destKey) := by
  rw [← toOption_readString h]
  unfold copyStringValue
  cases reader.readString srcKey <;> rfl

/-- What is copied of an item is the payload of its result. -/
theorem resultItem_eq {fields : Json.Members} {parents : List Json.Members} {strValue : String}
    (h : textAt fields OMS_BASELINE_RESULT_KEY = some strValue) :
    (resultItem ⟨fields, parents⟩ strValue).map JsonObjectWriter.rootValue
      = (resultOf (.object fields)).map payload := by
  have hdescription := @copyStringValue_eq ⟨fields, parents⟩ OMS_BASELINE_DESCRIPTION_KEY (by decide)
  have hcceid := @copyStringValue_eq ⟨fields, parents⟩ OMS_BASELINE_CCEID_KEY (by decide)
  have herror := @copyStringValue_eq ⟨fields, parents⟩ OMS_BASELINE_ERROR_KEY (by decide)
  have hseverity := @copyStringValue_eq ⟨fields, parents⟩ OMS_BASELINE_SERVERITY_KEY (by decide)
  simp only [resultItem, resultOf, hdescription, hcceid, herror, hseverity, h, Option.bind_eq_bind,
    Option.bind_some]
  cases textAt fields OMS_BASELINE_DESCRIPTION_KEY with
  | none => rfl
  | some description =>
      cases textAt fields OMS_BASELINE_CCEID_KEY with
      | none => rfl
      | some cceid =>
          cases textAt fields OMS_BASELINE_ERROR_KEY with
          | none => rfl
          | some errorText => cases textAt fields OMS_BASELINE_SERVERITY_KEY <;> rfl

/-- **`BaselineCollector_AddSingleResult`**, by the texts of the item. -/
theorem addSingleResult_eq (write : Bool) (fields : Json.Members) (parents : List Json.Members) :
    addSingleResult write ⟨fields, parents⟩ =
      match textAt fields OMS_BASELINE_RESULT_KEY with
      | none => (.exception, none)
      | some strValue =>
          if takenForPass strValue then (.recordFiltered, none)
          else if write = false then (.exception, none)
          else
            match resultOf (.object fields) with
            | none => (.exception, none)
            | some r => (.ok, some (payload r)) := by
  have hread := @toOption_readString ⟨fields, parents⟩ OMS_BASELINE_RESULT_KEY (by decide)
  unfold addSingleResult
  cases hstr : (JsonObjectReader.mk fields parents).readString OMS_BASELINE_RESULT_KEY with
  | error e =>
      rw [hstr] at hread
      rw [← hread]
      rfl
  | ok strValue =>
      rw [hstr] at hread
      have htext : textAt fields OMS_BASELINE_RESULT_KEY = some strValue := hread.symm
      have hitem := @resultItem_eq fields parents strValue htext
      rw [htext]
      dsimp only
      by_cases hpass : unsafeAreStringsEqual (some OMS_BASELINE_PASS_VALUE) (some strValue) false
          = some true
      · have htaken : takenForPass strValue = true := decide_eq_true hpass
        rw [if_pos hpass, if_pos htaken]
      have htaken : ¬ takenForPass strValue = true := fun h => hpass (of_decide_eq_true h)
      rw [if_neg hpass, if_neg htaken]
      cases write with
      | false => rfl
      | true =>
          rw [if_neg Bool.true_eq_false.mp, if_neg Bool.true_eq_false.mp]
          cases hwriter : resultItem ⟨fields, parents⟩ strValue with
          | none =>
              rw [hwriter] at hitem
              rw [Option.map_eq_none_iff.mp hitem.symm]
          | some itemWriter =>
              rw [hwriter] at hitem
              obtain ⟨r, hr, hpayload⟩ := Option.map_eq_some_iff.mp hitem.symm
              rw [hr]
              dsimp only
              rw [hpayload]

/-! ## All results -/

/-- An item that is passed over: its result is taken for `PASS`, and nothing else is asked of it. -/
def PassedOver (item : Json) : Prop :=
  ∃ fields strValue, item = .object fields ∧ textAt fields OMS_BASELINE_RESULT_KEY = some strValue
    ∧ takenForPass strValue = true

/-- An item of which this is reported. -/
def Shows (item : Json) (r : BaselineResult) : Prop :=
  resultOf item = some r ∧ takenForPass r.result = false

/-- The round of the loop for one item. -/
def addItem (o : PayloadsOutcome) (i : Nat) (item : Json) : EventCollectorResult × Option Json :=
  match JsonArrayReader.readObject (o.readObject i) item with
  | .error _ => (.exception, none)
  | .ok reader => addSingleResult (o.write i) reader

theorem textAt_of_resultOf {fields : Json.Members} {r : BaselineResult}
    (h : resultOf (.object fields) = some r) :
    textAt fields OMS_BASELINE_RESULT_KEY = some r.result := by
  obtain ⟨result, hresult, h⟩ := Option.bind_eq_some_iff.mp h
  obtain ⟨_, -, h⟩ := Option.bind_eq_some_iff.mp h
  obtain ⟨_, -, h⟩ := Option.bind_eq_some_iff.mp h
  obtain ⟨_, -, h⟩ := Option.bind_eq_some_iff.mp h
  obtain ⟨_, -, h⟩ := Option.bind_eq_some_iff.mp h
  cases h
  exact hresult

theorem PassedOver.taken {item : Json} {r : BaselineResult} (h : PassedOver item)
    (hr : resultOf item = some r) : takenForPass r.result = true := by
  obtain ⟨fields, strValue, rfl, htext, hpass⟩ := h
  cases htext.symm.trans (textAt_of_resultOf hr)
  exact hpass

theorem passedOver_of_taken {item : Json} {r : BaselineResult} (hr : resultOf item = some r)
    (hpass : takenForPass r.result = true) : PassedOver item := by
  cases item with
  | object fields => exact ⟨fields, r.result, rfl, textAt_of_resultOf hr, hpass⟩
  | null | bool _ | number _ | string _ | array _ => cases hr

/-- A result is passed over, or reported, or it fails; with memory, for no other items than those
which are neither. -/
theorem addSingleResult_cases (write : Bool) (fields : Json.Members)
    (parents : List Json.Members) :
    (addSingleResult write ⟨fields, parents⟩ = (.recordFiltered, none)
        ∧ PassedOver (.object fields))
      ∨ (∃ r, addSingleResult write ⟨fields, parents⟩ = (.ok, some (payload r))
        ∧ Shows (.object fields) r)
      ∨ (addSingleResult write ⟨fields, parents⟩ = (.exception, none)
        ∧ (write = true → ¬ PassedOver (.object fields) ∧ ∀ r, ¬ Shows (.object fields) r)) := by
  rw [addSingleResult_eq]
  cases htext : textAt fields OMS_BASELINE_RESULT_KEY with
  | none =>
      refine Or.inr (Or.inr ⟨rfl, fun _ => ⟨?_, ?_⟩⟩)
      · rintro ⟨_, strValue, ⟨⟩, hstr, -⟩
        cases htext.symm.trans hstr
      · rintro r ⟨hr, -⟩
        cases htext.symm.trans (textAt_of_resultOf hr)
  | some strValue =>
      dsimp only
      cases htaken : takenForPass strValue with
      | true => exact Or.inl ⟨if_pos rfl, fields, strValue, rfl, htext, htaken⟩
      | false =>
          have hpassed : ¬ PassedOver (.object fields) := by
            rintro ⟨_, _, ⟨⟩, hstr, hpass⟩
            cases htext.symm.trans hstr
            exact Bool.false_ne_true (htaken.symm.trans hpass)
          rw [if_neg Bool.false_ne_true]
          cases write with
          | false => exact Or.inr (Or.inr ⟨rfl, fun hwrite => Bool.noConfusion hwrite⟩)
          | true =>
              rw [if_neg Bool.true_eq_false.mp]
              cases hr : resultOf (.object fields) with
              | none =>
                  refine Or.inr (Or.inr ⟨rfl, fun _ => ⟨hpassed, ?_⟩⟩)
                  rintro r ⟨hshown, -⟩
                  cases hr.symm.trans hshown
              | some r =>
                  have hsame : strValue = r.result :=
                    Option.some.inj (htext.symm.trans (textAt_of_resultOf hr))
                  exact Or.inr (Or.inl ⟨r, rfl, hr, hsame ▸ htaken⟩)

/-- **What a round can do.** -/
theorem addItem_cases (o : PayloadsOutcome) (i : Nat) (item : Json) :
    (addItem o i item = (.recordFiltered, none) ∧ PassedOver item)
      ∨ (∃ r, addItem o i item = (.ok, some (payload r)) ∧ Shows item r)
      ∨ (addItem o i item = (.exception, none)
        ∧ (o.Succeeds → ¬ PassedOver item ∧ ∀ r, ¬ Shows item r)) := by
  cases item with
  | object fields =>
      cases hread : o.readObject i with
      | false =>
          have hadd : addItem o i (.object fields) = (.exception, none) := by
            unfold addItem
            rw [hread]
            rfl
          exact Or.inr (Or.inr ⟨hadd, fun ho =>
            absurd (hread.symm.trans (ho.readObject i)) Bool.false_ne_true⟩)
      | true =>
          have hadd : addItem o i (.object fields) = addSingleResult (o.write i) ⟨fields, []⟩ := by
            unfold addItem
            rw [hread]
            rfl
          rw [hadd]
          rcases addSingleResult_cases (o.write i) fields [] with h | h | ⟨h, hnot⟩
          · exact Or.inl h
          · exact Or.inr (Or.inl h)
          · exact Or.inr (Or.inr ⟨h, fun ho => hnot (ho.write i)⟩)
  | null | bool _ | number _ | string _ | array _ =>
      refine Or.inr (Or.inr ⟨rfl, fun _ => ⟨?_, ?_⟩⟩)
      · rintro ⟨_, _, h, -⟩
        cases h
      · rintro r ⟨hr, -⟩
        cases hr

theorem addResults_cons (o : PayloadsOutcome) (i : Nat) (item : Json) (rest : List Json) :
    addResults o i (item :: rest)
      = if (addItem o i item).1 ≠ .ok ∧ (addItem o i item).1 ≠ .recordFiltered then (.exception, [])
        else ((addResults o (i + 1) rest).1,
          (addItem o i item).2.toList ++ (addResults o (i + 1) rest).2) := by
  rw [addResults]
  unfold addItem
  cases JsonArrayReader.readObject (o.readObject i) item with
  | error _ => rfl
  | ok reader => rfl

/-- Something is made of an array of results: either the first item that is not passed over is
reported, or all of them are passed over. -/
def Reportable : List Json → Prop
  | [] => True
  | item :: rest => (∃ r, Shows item r) ∨ (PassedOver item ∧ Reportable rest)

theorem addResults_not_reportable (o : PayloadsOutcome) {items : List Json} :
    ∀ {i : Nat}, ¬ Reportable items → addResults o i items = (.exception, []) := by
  induction items with
  | nil => intro i h; exact absurd trivial h
  | cons item rest ih =>
      intro i h
      rw [addResults_cons]
      rcases addItem_cases o i item with ⟨hadd, hpassed⟩ | ⟨r, hadd, hshows⟩ | ⟨hadd, -⟩
      · have hrest : ¬ Reportable rest := fun hrest => h (Or.inr ⟨hpassed, hrest⟩)
        rw [hadd, ih hrest]
        rfl
      · exact absurd (Or.inl ⟨r, hshows⟩) h
      · rw [hadd]
        rfl

theorem addResults_reportable {o : PayloadsOutcome} (ho : o.Succeeds) {items : List Json} :
    ∀ {i : Nat}, Reportable items → addResults o i items ≠ (.exception, []) := by
  induction items with
  | nil => intro i _ h; cases h
  | cons item rest ih =>
      intro i h
      rw [addResults_cons]
      rcases addItem_cases o i item with ⟨hadd, hpassed⟩ | ⟨r, hadd, -⟩ | ⟨hadd, hnot⟩
      · have hrest : Reportable rest := by
          rcases h with ⟨r, hr, htaken⟩ | ⟨-, hrest⟩
          · -- an item is not both passed over and reported
            exact absurd (htaken.symm.trans (hpassed.taken hr)) Bool.false_ne_true
          · exact hrest
        rw [hadd]
        exact ih hrest
      · rw [hadd]
        exact fun heq => List.cons_ne_nil _ _ (congrArg Prod.snd heq)
      · obtain ⟨hpassed, hshows⟩ := hnot ho
        rcases h with ⟨r, hr⟩ | ⟨hp, -⟩
        · exact absurd hr (hshows r)
        · exact absurd hp hpassed

/-- **The results that have not passed, in their order**, if all items have their texts. -/
theorem addResults_results (o : PayloadsOutcome) {items : List Json} :
    ∀ {results : List BaselineResult} {i : Nat}, items.map resultOf = results.map some →
      (∀ r ∈ results, r.result.length < 2 ^ 32) →
      ((addResults o i items).1 = .ok → (addResults o i items).2 = reported results)
        ∧ (o.Succeeds → (addResults o i items).1 = .ok) := by
  induction items with
  | nil =>
      intro results i h _
      cases results with
      | nil => exact ⟨fun _ => rfl, fun _ => rfl⟩
      | cons r rest => cases h
  | cons item rest ih =>
      intro results i h hlen
      cases results with
      | nil => cases h
      | cons r results =>
          rw [List.map_cons, List.map_cons, List.cons.injEq] at h
          obtain ⟨hr, hrest⟩ := h
          have htaken := takenForPass_eq (hlen r List.mem_cons_self)
          obtain ⟨ihreported, ihok⟩ := @ih results (i + 1) hrest fun r hr =>
            hlen r (List.mem_cons_of_mem _ hr)
          rw [addResults_cons]
          rcases addItem_cases o i item with ⟨hadd, hpassed⟩ | ⟨r', hadd, hr', hpass⟩ | ⟨hadd, hnot⟩
          · have hpass := hpassed.taken hr
            have hreported : reported (r :: results) = reported results := by
              unfold reported
              rw [List.filter_cons_of_neg (by rw [← htaken, hpass]; decide)]
            rw [hadd, hreported]
            exact ⟨ihreported, ihok⟩
          · obtain rfl : r = r' := Option.some.inj (hr.symm.trans hr')
            have hreported : reported (r :: results) = payload r :: reported results := by
              unfold reported
              rw [List.filter_cons_of_pos (by rw [← htaken, hpass]; rfl)]
              rfl
            rw [hadd, hreported]
            exact ⟨fun hok => congrArg (payload r :: ·) (ihreported hok), ihok⟩
          · rw [hadd]
            refine ⟨fun hok => EventCollectorResult.noConfusion hok, fun ho => ?_⟩
            obtain ⟨hpassed, hshows⟩ := hnot ho
            cases hpass : takenForPass r.result with
            | false => exact absurd ⟨hr, hpass⟩ (hshows r)
            | true => exact absurd (passedOver_of_taken hr hpass) hpassed

/-! ## The text in the buffer -/

/-- What becomes of a command that writes this and exits successfully. -/
def wrote (output : List Char) : CommandOutcome := ⟨true, output, false, 0⟩

/-- The array of results of a document. -/
def itemsOf : Option Json → Option (List Json)
  | some (.object members) =>
      match members.lookup OMS_BASELINE_RESULTS_LIST_VALUE with
      | some (.array items) => some items
      | _ => none
  | _ => none

/-- What is made of a text that parses to this. -/
def resultsOf (o : PayloadsOutcome) (parsed : Option Json) : EventCollectorResult × List Json :=
  match itemsOf parsed with
  | none => (.exception, [])
  | some items =>
      if o.reader = true ∧ o.array = true then addResults o 0 items else (.exception, [])

/-- What is made of an output with this memory behind it. -/
def made (parse : String → Option Json) (o : PayloadsOutcome) (output stale : List Char) :
    EventCollectorResult × List Json :=
  if output.length = OMS_BASELINE_MAX_OUTPUT_SIZE then (.exception, [])
  else if output = [] then (.ok, [])
  else resultsOf o (parse (cString (output ++ stale)))

theorem init_eq (malloc : Bool) (members : Json.Members) :
    JsonArrayReader.init malloc ⟨members, []⟩ OMS_BASELINE_RESULTS_LIST_VALUE =
      match itemsOf (some (.object members)) with
      | some items => if malloc then .ok items else .error .exception
      | none => .error .keyMissing := by
  have hdot : '.' ∉ OMS_BASELINE_RESULTS_LIST_VALUE.toList := by decide
  unfold JsonArrayReader.init itemsOf
  dsimp only
  rw [Json.dotget_of_no_dot hdot]
  cases members.lookup OMS_BASELINE_RESULTS_LIST_VALUE with
  | none => rfl
  | some value => cases value <;> rfl

theorem readOutput_eq (parse : String → Option Json) (o : PayloadsOutcome) (buffer : List Char)
    {n : Nat} (hn : n ≠ 0) :
    readOutput parse o (.ok, buffer, n) = resultsOf o (parse (cString buffer)) := by
  unfold readOutput resultsOf JsonObjectReader.initFromString
  dsimp only
  rw [if_neg (fun h => h rfl), if_neg hn]
  cases parse (cString buffer) with
  | none => cases o.reader <;> rfl
  | some rootValue =>
      cases rootValue with
      | object members =>
          cases o.reader with
          | false => cases itemsOf (some (.object members)) <;> rfl
          | true =>
              rw [if_neg Bool.true_eq_false.mp]
              dsimp only [jsonValueGetObject]
              rw [init_eq]
              cases itemsOf (some (.object members)) with
              | none => rfl
              | some items => cases o.array <;> rfl
      | null | bool _ | number _ | string _ | array _ => cases o.reader <;> rfl

/-- The loop does not look at the buffer. -/
theorem addResults_allocated (o : PayloadsOutcome) (contents behind : List Char)
    (items : List Json) :
    ∀ i, addResults (o.allocated contents behind) i items = addResults o i items := by
  induction items with
  | nil => intro i; rfl
  | cons item rest ih =>
      intro i
      rw [addResults_cons, addResults_cons, ih]
      rfl

theorem resultsOf_allocated (o : PayloadsOutcome) (contents behind : List Char)
    (parsed : Option Json) :
    resultsOf (o.allocated contents behind) parsed = resultsOf o parsed := by
  unfold resultsOf
  cases itemsOf parsed with
  | none => rfl
  | some items =>
      dsimp only
      rw [addResults_allocated]
      rfl

theorem runOmsbaseline_eq (answer : SetEuid) (command : CommandOutcome) (output : List Char)
    (p : Privileges) :
    (runOmsbaseline answer command output p).1
      = if (ProcessInfoHandler.changeToRoot answer p).1.1 = false then (.exception, output, 0)
        else
          (if (ProcessUtils.execute command output OMS_BASELINE_MAX_OUTPUT_SIZE).1 then .ok
            else .exception,
          (ProcessUtils.execute command output OMS_BASELINE_MAX_OUTPUT_SIZE).2) := by
  rfl

/-- **`BaselineCollector_AddPayloads`**, by what the checker writes and what the memory held. -/
theorem addPayloads_wrote (answer : SetEuid) (parse : String → Option Json) (o : PayloadsOutcome)
    (baselineCommand : String) {output contents behind : List Char}
    (hlen : output.length ≤ OMS_BASELINE_MAX_OUTPUT_SIZE) (p : Privileges) :
    (addPayloads answer parse (fun _ => wrote output) (o.allocated contents behind)
        baselineCommand p).1
      = if (ProcessInfoHandler.changeToRoot answer p).1.1 = true then
          made parse o output ((contents ++ behind).drop output.length)
        else (.exception, []) := by
  have hbuffer : ∀ buffer : List Char, output ≠ [] →
      (nul :: buffer.drop 1).drop output.length = buffer.drop output.length := by
    intro buffer houtput
    obtain ⟨c, rest, rfl⟩ := List.exists_cons_of_ne_nil houtput
    rw [List.length_cons, List.drop_succ_cons, List.drop_drop, Nat.add_comm]
  show readOutput parse (o.allocated contents behind) (runOmsbaseline answer (wrote output)
    (nul :: (contents ++ behind).drop 1) p).1 = _
  rw [runOmsbaseline_eq]
  cases (ProcessInfoHandler.changeToRoot answer p).1.1 with
  | false => rfl
  | true =>
      rw [if_neg Bool.true_eq_false.mp, if_pos rfl]
      unfold ProcessUtils.execute wrote made
      dsimp only
      rw [if_neg Bool.true_eq_false.mp, List.take_of_length_le hlen]
      by_cases hmax : output.length = OMS_BASELINE_MAX_OUTPUT_SIZE
      · rw [if_pos hmax, decide_eq_false (fun h => h hmax)]
        rfl
      rw [if_neg hmax, decide_eq_true hmax]
      by_cases hempty : output = []
      · rw [if_pos hempty, hempty]
        rfl
      have hlength : output.length ≠ 0 := fun h => hempty (List.eq_nil_of_length_eq_zero h)
      have hread := readOutput_eq parse (o.allocated contents behind)
        (output ++ (contents ++ behind).drop output.length) hlength
      rw [if_neg hempty, hbuffer _ hempty]
      exact hread.trans (resultsOf_allocated o contents behind _)

/-! ## What is held of the results -/

/-- **The results come only from the checker**: what the buffer held before does not matter. -/
def OnlyFromChecker (parse : String → Option Json) (output : List Char) : Prop :=
  ∀ (answer : SetEuid) (o : PayloadsOutcome) (baselineCommand : String)
    (contents contents' behind : List Char) (p : Privileges),
    contents.length = OMS_BASELINE_MAX_OUTPUT_SIZE →
    contents'.length = OMS_BASELINE_MAX_OUTPUT_SIZE →
    (addPayloads answer parse (fun _ => wrote output) (o.allocated contents behind)
        baselineCommand p).1
      = (addPayloads answer parse (fun _ => wrote output) (o.allocated contents' behind)
        baselineCommand p).1

/-- The output is a document with an array of these results, which have all their texts. -/
structure Document (parse : String → Option Json) (output : List Char)
    (results : List BaselineResult) : Prop where
  text : nul ∉ output
  parsed : ∃ items, itemsOf (parse (String.ofList output)) = some items
    ∧ items.map resultOf = results.map some

/-- **The results are complete**: of a document the payload is the results that have not passed, in
their order; and there is a payload, if there is memory for it and the process can be root. -/
def Complete (parse : String → Option Json) (output : List Char) : Prop :=
  ∀ (answer : SetEuid) (o : PayloadsOutcome) (baselineCommand : String)
    (contents behind : List Char) (p : Privileges) (results : List BaselineResult),
    contents.length = OMS_BASELINE_MAX_OUTPUT_SIZE → Document parse output results →
    let added := (addPayloads answer parse (fun _ => wrote output) (o.allocated contents behind)
      baselineCommand p).1
    (added.1 = .ok → added.2 = reported results)
      ∧ (o.Succeeds → (ProcessInfoHandler.changeToRoot answer p).1.1 = true → added.1 = .ok)

/-- The output does not begin with an object, but there is a text with which it goes on to a
document of which something is made. -/
def Unfinished (parse : String → Option Json) (output : List Char) : Prop :=
  (∀ members, parse (String.ofList output) ≠ some (.object members))
    ∧ ∃ rest items, nul ∉ rest ∧ itemsOf (parse (String.ofList (output ++ rest))) = some items
      ∧ Reportable items

theorem resultsOf_none {parsed : Option Json} (h : ∀ items, itemsOf parsed = some items →
    ¬ Reportable items) (o : PayloadsOutcome) : resultsOf o parsed = (.exception, []) := by
  unfold resultsOf
  cases hitems : itemsOf parsed with
  | none => rfl
  | some items =>
      dsimp only
      rw [addResults_not_reportable o (h items hitems), ite_self]

theorem itemsOf_eq_some {parsed : Option Json} {items : List Json}
    (h : itemsOf parsed = some items) :
    ∃ members, parsed = some (.object members)
      ∧ members.lookup OMS_BASELINE_RESULTS_LIST_VALUE = some (.array items) := by
  unfold itemsOf at h
  split at h
  · next members =>
      split at h
      · next hlookup =>
          cases h
          exact ⟨members, rfl, hlookup⟩
      · cases h
  · cases h

theorem itemsOf_eq_none {parsed : Option Json} (h : ∀ members, parsed ≠ some (.object members)) :
    itemsOf parsed = none := by
  rw [Option.eq_none_iff_forall_ne_some]
  intro items hitems
  obtain ⟨members, hmembers, -⟩ := itemsOf_eq_some hitems
  exact h members hmembers

theorem resultsOf_items {parsed : Option Json} {items : List Json} {o : PayloadsOutcome}
    (h : itemsOf parsed = some items) (hreader : o.reader = true) (harray : o.array = true) :
    resultsOf o parsed = addResults o 0 items := by
  unfold resultsOf
  rw [h]
  dsimp only
  rw [if_pos ⟨hreader, harray⟩]

section Outputs

variable {parse : String → Option Json} (hparse : ParsesFirst parse) {output : List Char}

include hparse in
/-- What is made of an output that cannot be gone on with does not depend on what is behind it. -/
theorem made_eq (h : output ≠ [] → nul ∉ output → ¬ Unfinished parse output)
    (o : PayloadsOutcome) (stale stale' : List Char) :
    made parse o output stale = made parse o output stale' := by
  unfold made
  by_cases hempty : output = []
  · rw [if_pos hempty, if_pos hempty]
  rw [if_neg hempty, if_neg hempty]
  by_cases hnul : nul ∈ output
  · rw [cString_append_of_mem hnul, cString_append_of_mem hnul]
  rw [cString_append hnul, cString_append hnul]
  by_cases hobject : ∃ members, parse (String.ofList output) = some (.object members)
  · obtain ⟨members, hmembers⟩ := hobject
    rw [hparse.first _ _ _ hmembers, hparse.first _ _ _ hmembers]
  · have hnone : ∀ stale : List Char, resultsOf o
        (parse (String.ofList (output ++ stale.takeWhile (· ≠ nul)))) = (.exception, []) := by
      intro stale
      refine resultsOf_none (fun items hitems hreport => h hempty hnul ?_) o
      exact ⟨fun members hmembers => hobject ⟨members, hmembers⟩, _, items,
        not_mem_takeWhile_nul stale, hitems, hreport⟩
    rw [hnone, hnone]

include hparse in
/-- The results are no longer than the document they are in. -/
theorem Document.length_result {results : List BaselineResult}
    (h : Document parse output results) : ∀ r ∈ results, r.result.length ≤ output.length := by
  intro r hr
  obtain ⟨items, hitems, hresults⟩ := h.parsed
  -- the item that shows the result, and the text in it
  have hmem : some r ∈ items.map resultOf := hresults ▸ List.mem_map_of_mem hr
  obtain ⟨item, hitem, hshows⟩ := List.mem_map.mp hmem
  have htext : Json.HasText item r.result := by
    cases item with
    | object fields =>
        obtain ⟨value, hvalue, hstring⟩ := Option.bind_eq_some_iff.mp (textAt_of_resultOf hshows)
        cases value with
        | string s =>
            obtain rfl : s = r.result := Option.some.inj hstring
            exact Json.HasText.of_lookup hvalue (.string _)
        | null | bool _ | number _ | array _ | object _ => cases hstring
    | null | bool _ | number _ | string _ | array _ => cases hshows
  -- and the text in the document
  obtain ⟨members, hparsed, hlookup⟩ := itemsOf_eq_some hitems
  have hlength := hparse.texts _ _ _ hparsed (Json.HasText.of_lookup hlookup (.item hitem htext))
  rwa [String.length_ofList] at hlength

include hparse in
theorem made_document {results : List BaselineResult} (h : Document parse output results)
    (hlen : output.length < OMS_BASELINE_MAX_OUTPUT_SIZE) (o : PayloadsOutcome)
    (stale : List Char) :
    ((made parse o output stale).1 = .ok → (made parse o output stale).2 = reported results)
      ∧ (o.Succeeds → (made parse o output stale).1 = .ok) := by
  obtain ⟨items, hitems, hresults⟩ := h.parsed
  have hempty : output ≠ [] := by
    rintro rfl
    rw [show String.ofList [] = "" from rfl, hparse.empty] at hitems
    cases hitems
  obtain ⟨members, hmembers, -⟩ := itemsOf_eq_some hitems
  have hmade : made parse o output stale = resultsOf o (parse (String.ofList output)) := by
    unfold made
    rw [if_neg (Nat.ne_of_lt hlen), if_neg hempty, cString_append h.text,
      hparse.first _ _ _ hmembers, hmembers]
  have hlengths : ∀ r ∈ results, r.result.length < 2 ^ 32 := by
    intro r hr
    have hresult := h.length_result hparse r hr
    have hsize : OMS_BASELINE_MAX_OUTPUT_SIZE = 5242880 := rfl
    omega
  obtain ⟨hreported, hok⟩ := @addResults_results o items results 0 hresults hlengths
  rw [hmade]
  refine ⟨fun h => ?_, fun ho => ?_⟩
  · unfold resultsOf at h ⊢
    rw [hitems] at h ⊢
    dsimp only at h ⊢
    split at h
    · next hmemory =>
        rw [if_pos hmemory]
        exact hreported h
    · cases h
  · rw [resultsOf_items hitems ho.reader ho.array]
    exact hok ho

end Outputs

/-- An environment that has everything. -/
def everything : PayloadsOutcome := ⟨none, true, true, fun _ => true, fun _ => true⟩

theorem everything_succeeds : everything.Succeeds := ⟨rfl, rfl, fun _ => rfl, fun _ => rfl⟩

/-- Of root's process, with everything there, only the output and the buffer matter. -/
theorem addPayloads_everything (parse : String → Option Json) {output contents behind : List Char}
    (hlen : output.length ≤ OMS_BASELINE_MAX_OUTPUT_SIZE) :
    (addPayloads (fun _ _ => true) parse (fun _ => wrote output)
        (everything.allocated contents behind) OMS_BASELINE_COMMAND ⟨0, 0⟩).1
      = made parse everything output ((contents ++ behind).drop output.length) := by
  rw [addPayloads_wrote _ _ _ _ hlen]
  exact if_pos rfl

/-- With a zero behind it, the text goes on up to there. -/
theorem made_of_zero (parse : String → Option Json) (o : PayloadsOutcome)
    {output rest : List Char} (hlen : output.length < OMS_BASELINE_MAX_OUTPUT_SIZE)
    (hempty : output ≠ []) (hnul : nul ∉ output) (hrest : nul ∉ rest) (after : List Char) :
    made parse o output (rest ++ nul :: after)
      = resultsOf o (parse (String.ofList (output ++ rest))) := by
  have hboth : nul ∉ output ++ rest := fun h => (List.mem_append.mp h).elim hnul hrest
  unfold made
  rw [if_neg (Nat.ne_of_lt hlen), if_neg hempty, ← List.append_assoc, cString_append_nul hboth]

/-- The memory may hold whatever text behind the output. -/
theorem exists_memory (output rest : List Char) : ∃ contents behind after : List Char,
    contents.length = OMS_BASELINE_MAX_OUTPUT_SIZE
      ∧ (contents ++ behind).drop output.length = rest ++ nul :: after := by
  let memory := output ++ (rest ++ nul :: List.replicate OMS_BASELINE_MAX_OUTPUT_SIZE nul)
  refine ⟨memory.take OMS_BASELINE_MAX_OUTPUT_SIZE, memory.drop OMS_BASELINE_MAX_OUTPUT_SIZE,
    List.replicate OMS_BASELINE_MAX_OUTPUT_SIZE nul, ?_, ?_⟩
  · rw [List.length_take, List.length_append, List.length_append, List.length_cons,
      List.length_replicate]
    omega
  · rw [List.take_append_drop, List.drop_left]

/-- Or it may begin with zeros. -/
theorem exists_drop_zeros {n : Nat} (h : n < OMS_BASELINE_MAX_OUTPUT_SIZE) (behind : List Char) :
    ∃ after, (List.replicate OMS_BASELINE_MAX_OUTPUT_SIZE nul ++ behind).drop n
      = [] ++ nul :: after := by
  obtain ⟨k, hk⟩ : ∃ k, OMS_BASELINE_MAX_OUTPUT_SIZE = n + (k + 1) :=
    ⟨OMS_BASELINE_MAX_OUTPUT_SIZE - n - 1, by omega⟩
  refine ⟨List.replicate k nul ++ behind, ?_⟩
  rw [hk, List.replicate_add, List.append_assoc, List.drop_left' List.length_replicate,
    List.replicate_succ, List.cons_append]
  rfl

/-- **What goes on to a document is gone on with**, if the memory holds it. -/
theorem Unfinished.not_onlyFromChecker {parse : String → Option Json} {output : List Char}
    (h : Unfinished parse output) (hlen : output.length < OMS_BASELINE_MAX_OUTPUT_SIZE)
    (hempty : output ≠ []) (hnul : nul ∉ output) : ¬ OnlyFromChecker parse output := by
  obtain ⟨hobject, rest, items, hrest, hitems, hreport⟩ := h
  intro honly
  -- one memory holds the rest of the document, the other begins with zeros
  obtain ⟨contents, behind, after, hcontents, hstale⟩ := exists_memory output rest
  obtain ⟨after', hzeros⟩ := exists_drop_zeros hlen behind
  have hsame := honly (fun _ _ => true) everything OMS_BASELINE_COMMAND contents
    (List.replicate OMS_BASELINE_MAX_OUTPUT_SIZE nul) behind ⟨0, 0⟩ hcontents List.length_replicate
  rw [addPayloads_everything parse (Nat.le_of_lt hlen),
    addPayloads_everything parse (Nat.le_of_lt hlen), hstale, hzeros,
    made_of_zero parse everything hlen hempty hnul hrest,
    made_of_zero parse everything hlen hempty hnul List.not_mem_nil, List.append_nil,
    resultsOf_items hitems rfl rfl] at hsame
  refine addResults_reportable everything_succeeds hreport (hsame.trans ?_)
  refine resultsOf_none (fun items h => ?_) everything
  cases (itemsOf_eq_none hobject).symm.trans h

/--
**Exactly when the baseline results are complete and come only from the checker**: a document must
not fill the buffer; and what the checker has written, if it is less than the buffer, not empty and
without a zero, must not be the beginning of a document that is missing its end.
-/
theorem results_from_checker_iff {parse : String → Option Json} (hparse : ParsesFirst parse)
    {output : List Char} (hlen : output.length ≤ OMS_BASELINE_MAX_OUTPUT_SIZE) :
    (OnlyFromChecker parse output ∧ Complete parse output)
      ↔ (output.length = OMS_BASELINE_MAX_OUTPUT_SIZE → ∀ results, ¬ Document parse output results)
        ∧ (output.length < OMS_BASELINE_MAX_OUTPUT_SIZE → output ≠ [] → nul ∉ output →
          ¬ Unfinished parse output) := by
  constructor
  · rintro ⟨honly, hcomplete⟩
    refine ⟨fun hmax results hdocument => ?_, fun hlt hempty hnul hunfinished =>
      hunfinished.not_onlyFromChecker hlt hempty hnul honly⟩
    have hok := (hcomplete (fun _ _ => true) everything OMS_BASELINE_COMMAND
      (List.replicate OMS_BASELINE_MAX_OUTPUT_SIZE nul) [] ⟨0, 0⟩ results List.length_replicate
      hdocument).2 everything_succeeds rfl
    rw [addPayloads_everything parse hlen] at hok
    unfold made at hok
    rw [if_pos hmax] at hok
    cases hok
  · rintro ⟨hmax, hunfinished⟩
    refine ⟨?_, ?_⟩
    · intro answer o baselineCommand contents contents' behind p _ _
      rw [addPayloads_wrote _ _ _ _ hlen, addPayloads_wrote _ _ _ _ hlen]
      rcases Nat.lt_or_ge output.length OMS_BASELINE_MAX_OUTPUT_SIZE with hlt | hge
      · rw [made_eq hparse (hunfinished hlt)]
      · have hfull : output.length = OMS_BASELINE_MAX_OUTPUT_SIZE := Nat.le_antisymm hlen hge
        unfold made
        rw [if_pos hfull, if_pos hfull]
    · intro answer o baselineCommand contents behind p results _ hdocument
      have hlt : output.length < OMS_BASELINE_MAX_OUTPUT_SIZE :=
        Nat.lt_of_le_of_ne hlen fun hfull => hmax hfull results hdocument
      obtain ⟨hreported, hok⟩ := made_document hparse hdocument hlt o
        ((contents ++ behind).drop output.length)
      dsimp only
      rw [addPayloads_wrote _ _ _ _ hlen]
      cases (ProcessInfoHandler.changeToRoot answer p).1.1 with
      | false => exact ⟨fun h => EventCollectorResult.noConfusion h, fun _ h => Bool.noConfusion h⟩
      | true => exact ⟨hreported, fun ho _ => hok ho⟩

/-- What a document without a result parses to. -/
def noResults : Json := .object [(OMS_BASELINE_RESULTS_LIST_VALUE, .array [])]

/-- A parser for such documents. -/
def parseNoResults (text : String) : Option Json :=
  if ['{', '"', 'r', 'e', 's', 'u', 'l', 't', 's', '"', ':', '[', ']', '}'] <+: text.toList then
    some noResults
  else none

/-- One that is missing its end. -/
def truncatedOutput : List Char :=
  ['{', '"', 'r', 'e', 's', 'u', 'l', 't', 's', '"', ':', '[', ']']

theorem parseNoResults_parsesFirst : ParsesFirst parseNoResults where
  first text rest members h := by
    unfold parseNoResults at h ⊢
    rw [String.toList_ofList] at h ⊢
    split at h
    · next hbegins => rw [if_pos (hbegins.trans (List.prefix_append text rest)), h]
    · cases h
  empty := by decide
  texts text value s h hs := by
    unfold parseNoResults at h
    split at h
    · obtain rfl : noResults = value := Option.some.inj h
      -- its one member is an array without items
      cases hs with
      | member hmem htext =>
          cases List.mem_singleton.mp hmem
          cases htext with
          | item hitem _ => exact absurd hitem List.not_mem_nil
    · cases h

/-- The rest of the document is in the memory, or it is not. -/
theorem truncatedOutput_unfinished : Unfinished parseNoResults truncatedOutput := by
  refine ⟨fun members h => ?_, ['}'], [], by decide, rfl, trivial⟩
  have hnone : parseNoResults (String.ofList truncatedOutput) = none := by decide
  cases hnone.symm.trans h

theorem results_from_checker_iff_truncated :
    (OnlyFromChecker parseNoResults truncatedOutput ∧ Complete parseNoResults truncatedOutput)
      ↔ (truncatedOutput.length = OMS_BASELINE_MAX_OUTPUT_SIZE →
          ∀ results, ¬ Document parseNoResults truncatedOutput results)
        ∧ (truncatedOutput.length < OMS_BASELINE_MAX_OUTPUT_SIZE → truncatedOutput ≠ [] →
          nul ∉ truncatedOutput → ¬ Unfinished parseNoResults truncatedOutput) :=
  results_from_checker_iff parseNoResults_parsesFirst (by decide)

/-- **The memory's bytes are taken for the checker's**: a document that is missing its end is
accepted when the memory holds a brace behind it. -/
theorem truncated_results_not_only_from_checker :
    ¬ ∀ (parse : String → Option Json) (output : List Char), ParsesFirst parse →
      output.length ≤ OMS_BASELINE_MAX_OUTPUT_SIZE →
      OnlyFromChecker parse output ∧ Complete parse output := by
  intro h
  have honly := (h parseNoResults truncatedOutput parseNoResults_parsesFirst (by decide)).1
  exact truncatedOutput_unfinished.not_onlyFromChecker (by decide) (by decide) (by decide) honly

end BaselineCollector

end SecurityAgent
