import SecurityAgent.Collectors.GenericEvent
import SecurityAgent.Collectors.LocalUsersCollector

/-!
# The users: `users_iterator.c`, and the event of `local_users_collector.c`

The users are enumerated by `getpwent`, and each one becomes an object with the name, the id and
the groups. A user who cannot be added is left out, and one whose groups cannot be added is
added without them.

The groups are asked for twice, first for their number and then for themselves.
-/

namespace SecurityAgent

open Utils

/-- `struct passwd`, as far as it is looked at. -/
structure Passwd where
  pwName : String
  pwUid : UInt32

/-- What `getpwent` answers after `setpwent`. -/
structure PasswdEntries where
  users : List Passwd
  /-- `errno` is set when there is no user any more. -/
  errno : Bool

/-- `UserIteratorResults`. -/
inductive UserIteratorResults where
  | ok
  | hasNext
  | stop
  | exception
  deriving DecidableEq, Repr

/-- `UsersIterator`. -/
structure UsersIterator where
  currentUser : Option Passwd
  /-- What `getpwent` has not answered yet. -/
  entries : PasswdEntries

namespace UsersIterator

/-- `UsersIterator_Init`, when it returns `USER_ITERATOR_OK`. -/
def init (entries : PasswdEntries) : UsersIterator := ⟨none, entries⟩

/-- `UsersIterator_GetNext`. -/
def getNext (iterator : UsersIterator) : UserIteratorResults × UsersIterator :=
  match iterator.entries.users with
  | [] => (if iterator.entries.errno then .exception else .stop, { iterator with currentUser := none })
  | user :: users => (.hasNext, ⟨some user, { iterator.entries with users := users }⟩)

/-- `UsersIterator_GetUserId`, if it returns `USER_ITERATOR_OK`. -/
def getUserId (user : Passwd) (outBufferSize : Nat) : Option String :=
  integerToString user.pwUid.toInt32 outBufferSize

end UsersIterator

/-- What the environment answers in `GroupsIterator_Init`. -/
structure GroupsInitOutcome where
  mallocIterator : Bool
  /-- `groupsCount` after the first `getgrouplist`, which has no buffer. -/
  groupsCount : UInt32
  mallocGroups : Bool
  /-- The groups of the user at the second one. It stores those that there is room for, and the
  number of all. -/
  groups : List UInt32
  length_groups_lt : groups.length < 2 ^ 32

/-- What becomes of the handle. -/
inductive GroupsInit where
  /-- There is no iterator, and the handle is `NULL`. -/
  | null
  /-- The iterator has been freed, and the handle points to it still. -/
  | freed
  /-- An iterator with room for so many groups. -/
  | created (iterator : GroupsIterator) (room : Nat)

/-- `GroupsIterator_Init`. -/
def GroupsIterator.init (o : GroupsInitOutcome) : GroupsInit :=
  if o.mallocIterator = false then .null
  else if 0 < o.groupsCount ∧ o.mallocGroups = false then .freed
  else .created ⟨o.groups, 0, o.length_groups_lt⟩ o.groupsCount.toNat

/-- What the environment answers while one user is added. -/
structure UserOutcome where
  /-- `JsonObjectWriter_Init`. -/
  userObject : Bool
  /-- The calls of `JsonObjectWriter_WriteString`. -/
  writeName : Bool
  writeId : Bool
  groupsInit : GroupsInitOutcome
  mallocNames : Bool
  mallocIds : Bool
  writeNames : Bool
  writeIds : Bool
  /-- `JsonArrayWriter_AddObject`. -/
  addObject : Bool

/-- What the environment answers in `LocalUsersCollector_GetEvents`. -/
structure UsersOutcome where
  rootObject : Bool
  metadata : MetadataOutcome
  /-- `JsonArrayWriter_Init`. -/
  array : Bool
  /-- `UsersIterator_Init`. -/
  usersIterator : Bool
  entries : PasswdEntries
  user : Nat → UserOutcome
  /-- The writes of `GenericEvent_AddPayload`. -/
  payload : Bool
  serialize : Bool
  push : Bool

namespace LocalUsersCollector

def LOCAL_USERS_NAME : String := "LocalUsers"
def LOCAL_USERS_PAYLOAD_SCHEMA_VERSION : String := "1.0"
def LOCAL_USERS_USER_NAME_KEY : String := "UserName"
def LOCAL_USERS_USER_ID_KEY : String := "UserId"

/-- `sizeof(userIdStr)`. -/
def USER_ID_SIZE : Nat := 33

/-- `LocalUsersCollector_AddGroupsForUser`, with `UsersIterator_CreateGroupsIterator` in it. An
iterator that has been freed is freed once more at its end. Where there are more groups than there is
room for, the first pass reads on behind the buffer, if it gets there. -/
def addGroupsForCurrentUser (getgrgid : UInt32 → Option Group) (o : UserOutcome)
    (parentObj : JsonObjectWriter) : Option (Bool × JsonObjectWriter) :=
  match GroupsIterator.init o.groupsInit with
  | .null => some (false, parentObj)
  | .freed => none
  | .created iterator room =>
      if iterator.groups.length ≤ room then
        addGroupsForUser getgrgid
          ⟨some iterator, o.mallocNames, o.mallocIds, o.writeNames, o.writeIds⟩ parentObj
      else
        match calculateSizes getgrgid room iterator 0 0 with
        | none => some (false, parentObj)
        | some _ => none

/-- `LocalUsersCollector_AddSingleUser`: what it adds to the array, if it returns true. -/
def addSingleUser (getgrgid : UInt32 → Option Group) (o : UserOutcome) (user : Passwd) :
    Option (Option Json) :=
  if o.userObject = false then some none
  else if o.writeName = false then some none
  else
    match UsersIterator.getUserId user USER_ID_SIZE with
    | none => some none
    | some userIdStr =>
        if o.writeId = false then some none
        else do
          let userObject := (JsonObjectWriter.init.writeString LOCAL_USERS_USER_NAME_KEY
            user.pwName).writeString LOCAL_USERS_USER_ID_KEY userIdStr
          -- nobody looks at whether the groups have been added
          let (_, userObject) ← addGroupsForCurrentUser getgrgid o userObject
          return if o.addObject then some userObject.rootValue else none

/-- The loop of `LocalUsersCollector_GetEvents`, with so many calls of `getpwent` to go: its last
result, and what is added to the array. -/
def addUsers (getgrgid : UInt32 → Option Group) (o : Nat → UserOutcome) :
    Nat → Nat → UsersIterator → Option (UserIteratorResults × List Json)
  | 0, _, iterator => some (iterator.getNext.1, [])
  | rounds + 1, i, iterator =>
      match iterator.getNext with
      | (.hasNext, iterator) =>
          match iterator.currentUser with
          | none => none
          | some user => do
              let added ← addSingleUser getgrgid (o i) user
              let (iteratorResult, others) ← addUsers getgrgid o rounds (i + 1) iterator
              return (iteratorResult, added.toList ++ others)
      | (iteratorResult, _) => some (iteratorResult, [])

/-- `LocalUsersCollector_GetEvents`: its result, and the event that it pushes. -/
def getEvents (clock : Clock) (getgrgid : UInt32 → Option Group) (o : UsersOutcome) :
    Option (EventCollectorResult × Option Json) :=
  if o.rootObject = false then some (.exception, none)
  else
    match GenericEvent.addMetadata clock o.metadata JsonObjectWriter.init
        GenericEvent.EVENT_PERIODIC_CATEGORY LOCAL_USERS_NAME GenericEvent.EVENT_TYPE_SECURITY_VALUE
        LOCAL_USERS_PAYLOAD_SCHEMA_VERSION with
    | none => some (.exception, none)
    | some usersEventWriter =>
        if o.array = false ∨ o.usersIterator = false then some (.exception, none)
        else do
          let (iteratorResult, usersPayloadArray) ←
            addUsers getgrgid o.user o.entries.users.length 0 (UsersIterator.init o.entries)
          if iteratorResult ≠ .stop then return (.exception, none)
          match GenericEvent.addPayload o.payload usersEventWriter usersPayloadArray with
          | none => return (.exception, none)
          | some usersEventWriter =>
              if o.serialize = true ∧ o.push = true then
                return (.ok, some usersEventWriter.rootValue)
              else return (.exception, none)

end LocalUsersCollector

end SecurityAgent
