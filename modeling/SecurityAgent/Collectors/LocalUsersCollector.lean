import SecurityAgent.Json.JsonObjectWriter
import SecurityAgent.Util.Utils

/-!
# The groups of a user: `groups_iterator.c` and `local_users_collector.c`

The names of a user's groups are put together in one text, and their ids in another. A first pass
over the groups counts what is needed for the two, and a second pass writes them.

Where memory behind a buffer is written or read, there is no result.
-/

namespace SecurityAgent

open Utils

/-- `struct group`, as far as it is looked at. -/
structure Group where
  grName : String
  grGid : UInt32
  nul_not_mem : nul ∉ grName.toList

/-- `GroupsIterator`, with the current group left out, which `GroupsIterator_Next` gives. -/
structure GroupsIterator where
  groups : List UInt32
  currentGroupIndex : Nat
  /-- `groupsCount` has 32 bits. -/
  length_groups_lt : groups.length < 2 ^ 32

namespace GroupsIterator

/-- `GroupsIterator_HasNext`. -/
def hasNext (iterator : GroupsIterator) : Bool :=
  iterator.currentGroupIndex < iterator.groups.length

/-- `GroupsIterator_Next`, if it returns true: the group whose name and id are read next. -/
def next (getgrgid : UInt32 → Option Group) (iterator : GroupsIterator) :
    Option (Group × GroupsIterator) :=
  (iterator.groups[iterator.currentGroupIndex]?.bind getgrgid).map fun currentGroup =>
    (currentGroup, { iterator with currentGroupIndex := iterator.currentGroupIndex + 1 })

/-- `GroupsIterator_Reset`. -/
def reset (iterator : GroupsIterator) : GroupsIterator := { iterator with currentGroupIndex := 0 }

/-- `GroupsIterator_GetGroupsCount`. -/
def getGroupsCount (iterator : GroupsIterator) : UInt32 := UInt32.ofNat iterator.groups.length

end GroupsIterator

/-- `memcpy` to a place in a buffer, `none` if there is not room for all of it. -/
def memcpyAt (buffer : List Char) (position : Nat) (bytes : List Char) : Option (List Char) :=
  if position + bytes.length ≤ buffer.length then
    some (buffer.take position ++ bytes ++ buffer.drop (position + bytes.length))
  else none

/-- The C string in a buffer, `none` if it has no end there. -/
def cStringIn (buffer : List Char) : Option String :=
  if nul ∈ buffer then some (cString buffer) else none

/-- A text that is put together in a buffer, and where it goes on. -/
structure Combined where
  buffer : List Char
  currentPosition : UInt32

/-- A buffer that has been allocated and zeroed. -/
def Combined.zeroed (size : UInt32) : Combined := ⟨List.replicate size.toNat nul, 0⟩

/-- What the environment answers while the groups of a user are added. -/
structure UserGroupsOutcome where
  /-- `UsersIterator_CreateGroupsIterator`. -/
  groupsIterator : Option GroupsIterator
  /-- The two allocations. -/
  mallocNames : Bool
  mallocIds : Bool
  /-- `JsonObjectWriter_WriteString`. -/
  writeNames : Bool
  writeIds : Bool

namespace LocalUsersCollector

def MAX_ID_AS_STRING_LENGTH : Nat := 11
def LOCAL_USERS_PAYLOAD_DELIMITER : String := ";"
def LOCAL_USERS_GROUP_NAMES_KEY : String := "GroupNames"
def LOCAL_USERS_GROUP_IDS_KEY : String := "GroupIds"

/-- `LocalUsersCollector_AppendValueName`. -/
def appendValueName (combinedValue : Combined) (isFirst : Bool) (value : String)
    (delimiterLength : UInt32) : Option Combined := do
  let delimited ←
    if isFirst then some combinedValue
    else
      (memcpyAt combinedValue.buffer combinedValue.currentPosition.toNat
        (LOCAL_USERS_PAYLOAD_DELIMITER.toList.take delimiterLength.toNat)).map fun buffer =>
          ⟨buffer, combinedValue.currentPosition + delimiterLength⟩
  let currentValueSize := UInt32.ofNat value.length
  let buffer ← memcpyAt delimited.buffer delimited.currentPosition.toNat
    (value.toList.take currentValueSize.toNat)
  return ⟨buffer, delimited.currentPosition + currentValueSize⟩

/-- A group id as it is printed: an `int`. -/
def idAsString (group : Group) : Option String :=
  integerToString group.grGid.toInt32 MAX_ID_AS_STRING_LENGTH

/-- The loop of `LocalUsersCollector_CalculateSizeOfGroups`. -/
def calculateSizes (getgrgid : UInt32 → Option Group) :
    Nat → GroupsIterator → UInt32 → UInt32 → Option (UInt32 × UInt32)
  | 0, _, combinedGroupNamesSize, combinedGroupIdsSize =>
      some (combinedGroupNamesSize, combinedGroupIdsSize)
  | rounds + 1, iterator, combinedGroupNamesSize, combinedGroupIdsSize =>
      if iterator.hasNext then
        match iterator.next getgrgid with
        | none => none
        | some (group, iterator) =>
            match idAsString group with
            | none => none
            | some idAsString =>
                calculateSizes getgrgid rounds iterator
                  (combinedGroupNamesSize + UInt32.ofNat group.grName.length)
                  (combinedGroupIdsSize + UInt32.ofNat idAsString.length)
      else some (combinedGroupNamesSize, combinedGroupIdsSize)

/-- `LocalUsersCollector_CalculateSizeOfGroups`, if it returns true. The size of the delimiters is
computed with 64 bits, but for the number of them. -/
def calculateSizeOfGroups (getgrgid : UInt32 → Option Group) (iterator : GroupsIterator) :
    Option (UInt32 × UInt32) :=
  let numOfGroups := iterator.getGroupsCount
  let delimitersSize :=
    UInt32.ofNat (LOCAL_USERS_PAYLOAD_DELIMITER.length * (numOfGroups - 1).toNat + 1)
  calculateSizes getgrgid iterator.groups.length iterator delimitersSize delimitersSize

/-- The loop of `LocalUsersCollector_GenerateGroupNamesAndIds`: its result, and the two texts. -/
def generateTexts (getgrgid : UInt32 → Option Group) (delimiterLength : UInt32) :
    Nat → GroupsIterator → Bool → Combined → Combined → Option (Bool × Combined × Combined)
  | 0, _, _, combinedGroupNames, combinedGroupIds =>
      some (true, combinedGroupNames, combinedGroupIds)
  | rounds + 1, iterator, isFirst, combinedGroupNames, combinedGroupIds =>
      if iterator.hasNext then
        match iterator.next getgrgid with
        | none => some (false, combinedGroupNames, combinedGroupIds)
        | some (group, iterator) =>
            (appendValueName combinedGroupNames isFirst group.grName delimiterLength).bind
              fun combinedGroupNames =>
                match idAsString group with
                | none => some (false, combinedGroupNames, combinedGroupIds)
                | some idAsString =>
                    (appendValueName combinedGroupIds isFirst idAsString delimiterLength).bind
                      (generateTexts getgrgid delimiterLength rounds iterator false
                        combinedGroupNames)
      else some (true, combinedGroupNames, combinedGroupIds)

/-- `LocalUsersCollector_GenerateGroupNamesAndIds`. -/
def generateGroupNamesAndIds (getgrgid : UInt32 → Option Group) (iterator : GroupsIterator)
    (combinedGroupNames combinedGroupIds : Combined) : Option (Bool × Combined × Combined) :=
  generateTexts getgrgid (UInt32.ofNat LOCAL_USERS_PAYLOAD_DELIMITER.length)
    iterator.groups.length iterator true combinedGroupNames combinedGroupIds

/-- `LocalUsersCollector_AddGroupsForUser`: its result, and the object of the user. -/
def addGroupsForUser (getgrgid : UInt32 → Option Group) (o : UserGroupsOutcome)
    (parentObj : JsonObjectWriter) : Option (Bool × JsonObjectWriter) :=
  match o.groupsIterator with
  | none => some (false, parentObj)
  | some groupsIterator =>
      match calculateSizeOfGroups getgrgid groupsIterator with
      | none => some (false, parentObj)
      | some (combinedGroupNamesSize, combinedGroupIdsSize) =>
          if o.mallocNames = false ∨ o.mallocIds = false then some (false, parentObj)
          else do
            let (generated, combinedGroupNames, combinedGroupIds) ←
              generateGroupNamesAndIds getgrgid groupsIterator.reset
                (Combined.zeroed combinedGroupNamesSize) (Combined.zeroed combinedGroupIdsSize)
            if generated = false then return (false, parentObj)
            let groupNames ← cStringIn combinedGroupNames.buffer
            if o.writeNames = false then return (false, parentObj)
            let parentObj := parentObj.writeString LOCAL_USERS_GROUP_NAMES_KEY groupNames
            let groupIds ← cStringIn combinedGroupIds.buffer
            if o.writeIds = false then return (false, parentObj)
            return (true, parentObj.writeString LOCAL_USERS_GROUP_IDS_KEY groupIds)

end LocalUsersCollector

end SecurityAgent
