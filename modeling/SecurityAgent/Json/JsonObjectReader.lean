import SecurityAgent.Lib.Json
import SecurityAgent.Util.TimeUtils

/-!
# Reading JSON: `json_object_reader.c`

A reader stands on an object of a document. `StepIn` moves it to a member that is
an object, `StepOut` to the object around the one it is on. The C follows parent
pointers to step out; here the reader carries the objects around it, the
innermost first.

What a document text parses to, if anything, is an argument: the parser is not
part of the agent.
-/

namespace SecurityAgent

/-- The values of `JsonReaderResult` other than `JSON_READER_OK`. -/
inductive JsonReaderError where
  | keyMissing
  | valueIsNull
  | parseError
  | exception
  deriving DecidableEq, Repr

/-- `JSON_Value_Type`. -/
inductive JsonValueType where
  | null
  | string
  | number
  | object
  | array
  | boolean
  deriving DecidableEq, Repr

/-- `json_value_get_type`. -/
def jsonValueGetType : Json → JsonValueType
  | .null => .null
  | .bool _ => .boolean
  | .number _ => .number
  | .string _ => .string
  | .array _ => .array
  | .object _ => .object

/-- `json_value_get_object`. -/
def jsonValueGetObject : Json → Option Json.Members
  | .object members => some members
  | _ => none

/-- `json_value_get_number`. -/
def jsonValueGetNumber : Json → Rat
  | .number q => q
  | _ => 0

/-- `json_value_get_string`. -/
def jsonValueGetString : Json → Option String
  | .string s => some s
  | _ => none

/-- `json_value_get_boolean`. The C gives `-1` for no boolean, which as a `bool` is true. -/
def jsonValueGetBoolean : Json → Bool
  | .bool b => b
  | _ => true

/-- A `double` stored in an `int32_t`: its integral part, and `INT32_MIN` where that does not
fit, which is what the x86 conversion leaves. -/
def int32OfDouble (q : Rat) : Int32 :=
  let t := q.num.tdiv q.den
  if -2147483648 ≤ t ∧ t ≤ 2147483647 then Int32.ofInt t else Int32.minValue

theorem int32OfDouble_natCast {n : Nat} (h : n ≤ 2147483648) :
    (int32OfDouble n).toUInt32.toNat = n := by
  have ht : (n : Int).tdiv ((1 : Nat) : Int) = n := Int.tdiv_one _
  unfold int32OfDouble
  rw [Rat.num_natCast, Rat.den_natCast]
  dsimp only
  rw [ht]
  rcases Nat.lt_or_ge n 2147483648 with hlt | hge
  · rw [if_pos ⟨by omega, by omega⟩, Int32.ofInt_eq_ofNat, Int32.toUInt32_ofNat']
    exact UInt32.toNat_ofNat_of_lt' (show n < 4294967296 by omega)
  · obtain rfl : n = 2147483648 := by omega
    rw [if_neg (by omega)]
    decide

/-- What does not fit leaves `INT32_MIN`. -/
theorem int32OfDouble_large {n : Nat} (h : 2147483648 ≤ n) :
    (int32OfDouble n).toUInt32.toNat = 2147483648 := by
  have ht : (n : Int).tdiv ((1 : Nat) : Int) = n := Int.tdiv_one _
  unfold int32OfDouble
  rw [Rat.num_natCast, Rat.den_natCast]
  dsimp only
  rw [ht, if_neg (by omega)]
  decide

/-- `JsonObjectReader`. -/
structure JsonObjectReader where
  /-- `rootObject`, the object the reader is on. -/
  rootObject : Json.Members
  /-- The objects around it. -/
  parents : List Json.Members

namespace JsonObjectReader

/-- `JsonObjectReader_InitFromString`, on what `json_parse_string` gives for the text. -/
def initFromString (malloc : Bool) (parsed : Option Json) :
    Except JsonReaderError JsonObjectReader :=
  if malloc = false then .error .exception
  else
    match parsed with
    | none => .error .exception
    | some rootValue =>
        match jsonValueGetObject rootValue with
        | none => .error .exception
        | some rootObject => .ok ⟨rootObject, []⟩

/-- `JsonObjectReader_GetValueOfType`, and the objects around the value. -/
def getValueOfType (reader : JsonObjectReader) (key : String) (type : JsonValueType) :
    Except JsonReaderError (Json × List Json.Members) :=
  match Json.dotget reader.parents reader.rootObject (Json.path key) with
  | none => .error .keyMissing
  | some (value, around) =>
      let actualType := jsonValueGetType value
      if actualType = .null then .error .valueIsNull
      else if actualType ≠ type then .error .parseError
      else .ok (value, around)

/-- `JsonObjectReader_StepIn`. -/
def stepIn (reader : JsonObjectReader) (key : String) :
    Except JsonReaderError JsonObjectReader :=
  match reader.getValueOfType key .object with
  | .error e => .error e
  | .ok (value, around) =>
      match jsonValueGetObject value with
      | none => .error .exception
      | some newRoot => .ok ⟨newRoot, around⟩

/-- `JsonObjectReader_StepOut`. -/
def stepOut (reader : JsonObjectReader) : Except JsonReaderError JsonObjectReader :=
  match reader.parents with
  | [] => .error .exception
  | newRoot :: around => .ok ⟨newRoot, around⟩

/-- `JsonObjectReader_ReadInt`. -/
def readInt (reader : JsonObjectReader) (key : String) : Except JsonReaderError Int32 :=
  match reader.getValueOfType key .number with
  | .error e => .error e
  | .ok (value, _) => .ok (int32OfDouble (jsonValueGetNumber value))

/-- `JsonObjectReader_ReadString`. -/
def readString (reader : JsonObjectReader) (key : String) : Except JsonReaderError String :=
  match reader.getValueOfType key .string with
  | .error e => .error e
  | .ok (value, _) =>
      match jsonValueGetString value with
      | none => .error .exception
      | some output => .ok output

/-- `JsonObjectReader_ReadBool`. -/
def readBool (reader : JsonObjectReader) (key : String) : Except JsonReaderError Bool :=
  match reader.getValueOfType key .boolean with
  | .error e => .error e
  | .ok (value, _) => .ok (jsonValueGetBoolean value)

/-- `JsonObjectReader_ReadTimeInMilliseconds`. -/
def readTimeInMilliseconds (reader : JsonObjectReader) (key : String) :
    Except JsonReaderError UInt32 :=
  match reader.readString key with
  | .error e => .error e
  | .ok timeValue =>
      match TimeUtils.iso8601DurationStringToMilliseconds timeValue.toList with
      | none => .error .parseError
      | some output => .ok output

/-! ## What each of them does with a name that has no dot -/

/-- How a value is read as one kind of thing: `none` where it is another kind. -/
abbrev Decoder (α : Type) := Json → Option α

/-- A number, as the bits an `int32_t` gets. -/
def asInt32 : Decoder Int32
  | .number q => some (int32OfDouble q)
  | _ => none

/-- A text. -/
def asString : Decoder String
  | .string s => some s
  | _ => none

/-- A boolean. -/
def asBool : Decoder Bool
  | .bool b => some b
  | _ => none

/-- A duration. -/
def asTime : Decoder UInt32
  | .string s => TimeUtils.iso8601DurationStringToMilliseconds s.toList
  | _ => none

/-- What reading one member comes to. -/
def readMember (decode : Decoder α) : Option Json → Except JsonReaderError α
  | none => .error .keyMissing
  | some .null => .error .valueIsNull
  | some value =>
      match decode value with
      | none => .error .parseError
      | some a => .ok a

/-- `read` is a lookup and a decoding. -/
def ReadsAs (read : JsonObjectReader → String → Except JsonReaderError α) (decode : Decoder α) :
    Prop :=
  ∀ (reader : JsonObjectReader) (key : String), '.' ∉ key.toList →
    read reader key = readMember decode (reader.rootObject.lookup key)

theorem getValueOfType_of_no_dot {reader : JsonObjectReader} {key : String}
    (h : '.' ∉ key.toList) (type : JsonValueType) :
    reader.getValueOfType key type =
      match reader.rootObject.lookup key with
      | none => .error .keyMissing
      | some value =>
          if jsonValueGetType value = .null then .error .valueIsNull
          else if jsonValueGetType value ≠ type then .error .parseError
          else .ok (value, reader.rootObject :: reader.parents) := by
  unfold getValueOfType
  rw [Json.dotget_of_no_dot h]
  cases reader.rootObject.lookup key <;> rfl

theorem readInt_readsAs : ReadsAs readInt asInt32 := by
  intro reader key h
  unfold readInt
  rw [getValueOfType_of_no_dot h]
  cases reader.rootObject.lookup key with
  | none => rfl
  | some value => cases value <;> rfl

theorem readString_readsAs : ReadsAs readString asString := by
  intro reader key h
  unfold readString
  rw [getValueOfType_of_no_dot h]
  cases reader.rootObject.lookup key with
  | none => rfl
  | some value => cases value <;> rfl

theorem readBool_readsAs : ReadsAs readBool asBool := by
  intro reader key h
  unfold readBool
  rw [getValueOfType_of_no_dot h]
  cases reader.rootObject.lookup key with
  | none => rfl
  | some value => cases value <;> rfl

theorem readTimeInMilliseconds_readsAs : ReadsAs readTimeInMilliseconds asTime := by
  intro reader key h
  unfold readTimeInMilliseconds
  rw [readString_readsAs reader key h]
  cases reader.rootObject.lookup key with
  | none => rfl
  | some value =>
      cases value with
      | string s =>
          simp only [readMember, asString, asTime]
          cases TimeUtils.iso8601DurationStringToMilliseconds s.toList <;> rfl
      | null | bool _ | number _ | array _ | object _ => rfl

theorem stepIn_of_no_dot {reader : JsonObjectReader} {key : String} (h : '.' ∉ key.toList) :
    reader.stepIn key =
      match reader.rootObject.lookup key with
      | none => .error .keyMissing
      | some .null => .error .valueIsNull
      | some (.object members) => .ok ⟨members, reader.rootObject :: reader.parents⟩
      | some _ => .error .parseError := by
  unfold stepIn
  rw [getValueOfType_of_no_dot h]
  cases reader.rootObject.lookup key with
  | none => rfl
  | some value => cases value <;> rfl

/-- Stepping in and out again leaves the reader where it was. -/
theorem stepOut_of_stepIn {reader inner : JsonObjectReader} {key : String}
    (h : '.' ∉ key.toList) (hin : reader.stepIn key = .ok inner) : inner.stepOut = .ok reader := by
  rw [stepIn_of_no_dot h] at hin
  split at hin
  · cases hin
  · cases hin
  · obtain rfl := Except.ok.inj hin
    rfl
  · cases hin

end JsonObjectReader

end SecurityAgent
