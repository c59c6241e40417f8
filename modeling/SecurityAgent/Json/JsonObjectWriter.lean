import SecurityAgent.Json.JsonObjectReader

/-!
# Writing JSON: `json_object_writer.c`

A writer is the object built so far. A write sets a member of it; the only way it
can fail is for want of memory, and what it does otherwise is what is defined
here.
-/

namespace SecurityAgent

/-- `JsonObjectWriter`. -/
structure JsonObjectWriter where
  /-- `rootObject`. -/
  rootObject : Json.Members

namespace JsonObjectWriter

/-- `JsonObjectWriter_Init`, when it returns `JSON_WRITER_OK`. -/
def init : JsonObjectWriter := ⟨[]⟩

/-- `JsonObjectWriter_InitFromString`. `memory` says whether every allocation in it succeeds and
`parsed` is what `json_parse_string` makes of the text. -/
def initFromString (memory : Bool) (parsed : Option Json) : Option JsonObjectWriter :=
  if memory then (parsed.bind jsonValueGetObject).map JsonObjectWriter.mk else none

/-- The object as a value: `rootValue`. -/
def rootValue (writer : JsonObjectWriter) : Json := .object writer.rootObject

/-- `json_object_set_value`. -/
def setValue (writer : JsonObjectWriter) (key : String) (value : Json) : JsonObjectWriter :=
  ⟨Json.setMember writer.rootObject key value⟩

theorem lookup_setValue (writer : JsonObjectWriter) (key key' : String) (value : Json) :
    (writer.setValue key value).rootObject.lookup key'
      = if key' = key then some value else writer.rootObject.lookup key' :=
  Json.lookup_setMember _ _ _ _

/-- `JsonObjectWriter_WriteString`. -/
def writeString (writer : JsonObjectWriter) (key value : String) : JsonObjectWriter :=
  writer.setValue key (.string value)

/-- `JsonObjectWriter_WriteInt`. -/
def writeInt (writer : JsonObjectWriter) (key : String) (value : Int32) : JsonObjectWriter :=
  writer.setValue key (.number value.toInt)

/-- `JsonObjectWriter_WriteBool`. -/
def writeBool (writer : JsonObjectWriter) (key : String) (value : Bool) : JsonObjectWriter :=
  writer.setValue key (.bool value)

/-- `JsonObjectWriter_WriteObject`. -/
def writeObject (writer : JsonObjectWriter) (key : String) (object : JsonObjectWriter) :
    JsonObjectWriter :=
  writer.setValue key object.rootValue

/-- `JsonObjectWriter_WriteArray`. -/
def writeArray (writer : JsonObjectWriter) (key : String) (array : List Json) :
    JsonObjectWriter :=
  writer.setValue key (.array array)

/-- `JsonObjectWriter_StepIn`: the writer on the object under `key`. -/
def stepIn (writer : JsonObjectWriter) (key : String) : Option JsonObjectWriter :=
  ((Json.dotget [] writer.rootObject (Json.path key)).bind fun value =>
    jsonValueGetObject value.1).map JsonObjectWriter.mk

/-! ## Members in the order of their writing -/

/-- The writer has these members, and no others than these keys. -/
structure Written (writer : JsonObjectWriter) (keys : List String) (members : Json.Members) :
    Prop where
  rootObject : writer.rootObject = members
  mem_keys : ∀ m ∈ members, m.1 ∈ keys

theorem written_init : Written init [] [] := ⟨rfl, fun _ hm => absurd hm List.not_mem_nil⟩

theorem setMember_new {key : String} {value : Json} :
    ∀ {members : Json.Members}, (∀ m ∈ members, m.1 ≠ key) →
      Json.setMember members key value = members ++ [(key, value)] := by
  intro members
  induction members with
  | nil => intro _; rfl
  | cons m rest ih =>
      intro h
      obtain ⟨k, v⟩ := m
      have hk : k ≠ key := h _ List.mem_cons_self
      have hrest := ih fun m hm => h m (List.mem_cons_of_mem _ hm)
      rw [Json.setMember, if_neg hk, hrest]
      rfl

/-- A member under a new key comes last. -/
theorem Written.add {writer : JsonObjectWriter} {keys : List String} {members : Json.Members}
    (h : Written writer keys members) (key : String) (hkey : key ∉ keys) (value : Json) :
    Written (writer.setValue key value) (key :: keys) (members ++ [(key, value)]) where
  rootObject := by
    have hnew : ∀ m ∈ members, m.1 ≠ key := fun m hm he => hkey (he ▸ h.mem_keys m hm)
    unfold setValue
    rw [h.rootObject, setMember_new hnew]
  mem_keys m hm := by
    rcases List.mem_append.mp hm with hold | hnew
    · exact List.mem_cons_of_mem _ (h.mem_keys m hold)
    · rw [List.mem_singleton.mp hnew]
      exact List.mem_cons_self

end JsonObjectWriter

end SecurityAgent
