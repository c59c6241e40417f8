import SecurityAgent.Json.JsonObjectReader

/-!
# Reading arrays: `json_array_reader.c`

An array is read object by object, by index.
-/

namespace SecurityAgent.JsonArrayReader

/-- `JsonArrayReader_Init`, which is `JsonObjectReader_ReadArray`: the items. -/
def init (malloc : Bool) (parent : JsonObjectReader) (name : String) :
    Except JsonReaderError (List Json) :=
  match Json.dotget parent.parents parent.rootObject (Json.path name) with
  | some (.array items, _) => if malloc then .ok items else .error .exception
  | _ => .error .keyMissing

/-- `JsonArrayReader_ReadObject`, of the item at an index. -/
def readObject (malloc : Bool) (item : Json) : Except JsonReaderError JsonObjectReader :=
  match jsonValueGetObject item with
  | none => .error .exception
  | some innerObject => if malloc then .ok ⟨innerObject, []⟩ else .error .exception

end SecurityAgent.JsonArrayReader
