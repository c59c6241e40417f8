import SecurityAgent.Json.JsonObjectReader
import SecurityAgent.Json.JsonObjectWriter

/-!
# One setting of the twin: `twin_configuration_utils.c`

In the twin a setting is an object with a member `"value"`. To read it the reader
steps in, reads `"value"`, and steps out again. `settingOf` says what a setting
means without a reader: it is absent, invalid, or a value; and
`getConfigurationValueFromJson_eq` says that the code finds exactly that and
comes back to the object it started from.
-/

namespace SecurityAgent

open JsonObjectReader

/-- `TwinConfigurationResult`. -/
inductive TwinConfigurationResult where
  | ok
  | confNotExist
  | lockException
  | parseException
  | memoryException
  | exception
  deriving DecidableEq, Repr

namespace TwinConfigurationUtils

def VALUE_KEY : String := "value"

/-- `TwinConfigurationUtils_Internal_GetConfigurationValueFromJson`. What the C switches on its
`type` argument is `read`. -/
def getConfigurationValueFromJson {α : Type}
    (read : JsonObjectReader → String → Except JsonReaderError α) (reader : JsonObjectReader)
    (key : String) : Except TwinConfigurationResult α × JsonObjectReader :=
  match reader.stepIn key with
  | .error .keyMissing => (.error .confNotExist, reader)
  | .error .valueIsNull => (.error .confNotExist, reader)
  | .error .parseError => (.error .parseException, reader)
  | .error .exception => (.error .exception, reader)
  | .ok reader =>
      let result : Except TwinConfigurationResult α :=
        match read reader VALUE_KEY with
        | .error .keyMissing => .error .parseException
        | .error .valueIsNull => .error .parseException
        | .error .parseError => .error .parseException
        | .error .exception => .error .exception
        | .ok value => .ok value
      match reader.stepOut with
      | .error _ => (.error .exception, reader)
      | .ok reader => (result, reader)

/-- `TwinConfigurationUtils_GetConfigurationTimeValueFromJson`. -/
def getConfigurationTimeValueFromJson :
    JsonObjectReader → String → Except TwinConfigurationResult UInt32 × JsonObjectReader :=
  getConfigurationValueFromJson readTimeInMilliseconds

/-- The `UINT` case reads into `(int32_t*)value`. -/
def readUint (reader : JsonObjectReader) (key : String) : Except JsonReaderError UInt32 :=
  (readInt reader key).map Int32.toUInt32

/-- `TwinConfigurationUtils_GetConfigurationUintValueFromJson`. -/
def getConfigurationUintValueFromJson :
    JsonObjectReader → String → Except TwinConfigurationResult UInt32 × JsonObjectReader :=
  getConfigurationValueFromJson readUint

/-- `TwinConfigurationUtils_GetConfigurationStringValueFromJson`. -/
def getConfigurationStringValueFromJson :
    JsonObjectReader → String → Except TwinConfigurationResult String × JsonObjectReader :=
  getConfigurationValueFromJson readString

/-- `TwinConfigurationUtils_GetConfigurationBoolValueFromJson`. -/
def getConfigurationBoolValueFromJson :
    JsonObjectReader → String → Except TwinConfigurationResult Bool × JsonObjectReader :=
  getConfigurationValueFromJson readBool

/-! ## Writing -/

/-- `TwinConfigurationUtils_WriteUintConfigurationToJson`: the value goes out as an `int32_t`. -/
def writeUintConfigurationToJson (writer : JsonObjectWriter) (key : String) (value : UInt32) :
    JsonObjectWriter :=
  writer.writeObject key (JsonObjectWriter.init.writeInt VALUE_KEY value.toInt32)

/-- `TwinConfigurationUtils_WriteStringConfigurationToJson`: nothing is written for `NULL`. -/
def writeStringConfigurationToJson (writer : JsonObjectWriter) (key : String) :
    Option String → JsonObjectWriter
  | none => writer
  | some value => writer.writeObject key (JsonObjectWriter.init.writeString VALUE_KEY value)

/-- `TwinConfigurationUtils_WriteBoolConfigurationToJson`. -/
def writeBoolConfigurationToJson (writer : JsonObjectWriter) (key : String) (value : Bool) :
    JsonObjectWriter :=
  writer.writeObject key (JsonObjectWriter.init.writeBool VALUE_KEY value)

end TwinConfigurationUtils

open TwinConfigurationUtils

/-! ## What a setting means -/

/-- What an object says about one setting. -/
inductive Setting (α : Type) where
  /-- Nothing: there is no such member, or it is null. -/
  | absent
  /-- Not what it should be. -/
  | invalid
  | value (a : α)
  deriving DecidableEq

/-- A setting as it stands in an object. -/
def settingOf {α : Type} (decode : Decoder α) (object : Json.Members) (key : String) :
    Setting α :=
  match object.lookup key with
  | none => .absent
  | some .null => .absent
  | some (.object members) =>
      match members.lookup VALUE_KEY with
      | none => .invalid
      | some v =>
          match decode v with
          | none => .invalid
          | some a => .value a
  | some _ => .invalid

/-- A setting that is absent has its default. -/
def Setting.getD {α : Type} (default : α) : Setting α → α
  | .value a => a
  | _ => default

/-- An unsigned setting, by the bits an `int32_t` gets. -/
def asUInt32 : Decoder UInt32 := fun v => (asInt32 v).map Int32.toUInt32

theorem readUint_readsAs : ReadsAs readUint asUInt32 := by
  intro reader key h
  unfold readUint
  rw [readInt_readsAs reader key h]
  cases reader.rootObject.lookup key with
  | none => rfl
  | some value => cases value <;> rfl

/-- What the code returns for a setting. -/
def Setting.result {α : Type} : Setting α → Except TwinConfigurationResult α
  | .absent => .error .confNotExist
  | .invalid => .error .parseException
  | .value a => .ok a

/-- **Reading a setting** finds what it means, and leaves the reader where it was. -/
theorem getConfigurationValueFromJson_eq {α : Type}
    {read : JsonObjectReader → String → Except JsonReaderError α} {decode : Decoder α}
    (hread : ReadsAs read decode) (hnull : decode .null = none) {key : String}
    (hkey : '.' ∉ key.toList) (reader : JsonObjectReader) :
    getConfigurationValueFromJson read reader key
      = ((settingOf decode reader.rootObject key).result, reader) := by
  have hvalue : '.' ∉ VALUE_KEY.toList := by decide
  unfold getConfigurationValueFromJson settingOf
  rw [stepIn_of_no_dot hkey]
  cases hlook : reader.rootObject.lookup key with
  | none => rfl
  | some v =>
      cases v with
      | object members =>
          dsimp only
          rw [hread _ _ hvalue]
          dsimp only
          cases members.lookup VALUE_KEY with
          | none => rfl
          | some w =>
              cases w with
              | null => simp only [readMember, hnull]; rfl
              | bool b => simp only [readMember]; cases decode (.bool b) <;> rfl
              | number q => simp only [readMember]; cases decode (.number q) <;> rfl
              | string s => simp only [readMember]; cases decode (.string s) <;> rfl
              | array js => simp only [readMember]; cases decode (.array js) <;> rfl
              | object ms => simp only [readMember]; cases decode (.object ms) <;> rfl
      | null | bool _ | number _ | string _ | array _ => rfl

end SecurityAgent
