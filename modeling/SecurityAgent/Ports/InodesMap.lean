import SecurityAgent.Ports.ListeningPortsIterator

/-!
# Which process holds a socket: `ListeningPortCollector_PopulateInodesMap`

For every process `ls` lists what its open files are links to, and the inode of a socket is
cut out of the line. The map keeps the first process that is added for an inode.
-/

namespace SecurityAgent

/-- An entry of `/proc`, by its name. -/
structure DirectoryEntry where
  name : String
  ne_empty : name ≠ ""
  length_lt : name.length < 256

/-- `Utils_IsStringNumeric`. -/
def Utils.isStringNumeric (string : String) : Bool := string.toList.all Char.isDigit

/-- A process is an entry with a numeric name. -/
def DirectoryEntry.pid? (e : DirectoryEntry) : Option Pid :=
  if h : Utils.isStringNumeric e.name = true then
    some ⟨e.name, List.all_eq_true.mp h, e.ne_empty, e.length_lt⟩
  else none

/-- What the system answers while the map is made. -/
structure InodesOutcome where
  /-- `readdir`, until there is nothing left; `none` where `/proc/` cannot be opened. -/
  entries : Option (List DirectoryEntry)
  /-- `Utils_StringFormat` for the command. -/
  command : Pid → Bool
  /-- What `ls` prints for a process, `none` where `popen` fails. -/
  ls : Pid → Option (List Char)
  /-- `Utils_StringFormat` for an inode. -/
  inode : Pid → Nat → Bool
  /-- `Map_Add` returns `MAP_OK` or `MAP_KEYEXISTS`. -/
  add : Pid → Nat → Bool

namespace InodesMap

def MAX_RECORD_VALUE_LENGTH : Nat := 128

/-- What stands before the inode in `INODE_REGEX`, which is `socket:\[(.*?)\]`. -/
def socketMark : List Char := "socket:[".toList

/-- It stands here, in any case of the letters. -/
def startsWithMark (text : List Char) : Bool :=
  (text.take socketMark.length).map Char.toLower == socketMark

/-- What stands before the last closing bracket, if there is one. -/
def upToBracket (text : List Char) : Option (List Char) :=
  if ']' ∈ text then some (text.reverse.dropWhile (· ≠ ']')).tail.reverse else none

/-- `regexec` with `INODE_REGEX`: the match begins at the first mark, and is the longest from there
on. -/
def matchInode : List Char → Option (List Char)
  | [] => none
  | c :: rest =>
      if startsWithMark (c :: rest) then upToBracket ((c :: rest).drop socketMark.length)
      else matchInode rest

/-- `ListeningPortCollector_SearchInode`: `none` where it returns false, and else the inode if there
is one. -/
def searchInode (format : Bool) (record : List Char) : Option (Option String) :=
  match matchInode record with
  | none => some none
  | some inode => if format then some (some (String.ofList inode)) else none

/-- `Map_Add`, which leaves a key alone that is there. -/
def mapAdd (inodesMap : List (String × Pid)) (inode : String) (pid : Pid) : List (String × Pid) :=
  if (inodesMap.lookup inode).isSome then inodesMap else inodesMap ++ [(inode, pid)]

/-- The loop of `ListeningPortCollector_PopulateProcessToInodesMap`, `i` being the number of the
record that is next; each round reads some of what `ls` prints. -/
def addRecords (o : InodesOutcome) (pid : Pid) :
    Nat → Nat → List Char → List (String × Pid) → Option (List (String × Pid))
  | 0, _, _, _ => none
  | rounds + 1, i, text, inodesMap =>
      if text = [] then some inodesMap
      else
        let (record, rest) := fgets (MAX_RECORD_VALUE_LENGTH - 1) text
        match searchInode (o.inode pid i) record with
        | none => none
        | some none => addRecords o pid rounds (i + 1) rest inodesMap
        | some (some inode) =>
            if o.add pid i then addRecords o pid rounds (i + 1) rest (mapAdd inodesMap inode pid)
            else none

/-- `ListeningPortCollector_PopulateProcessToInodesMap`. -/
def populateProcessToInodesMap (o : InodesOutcome) (inodesMap : List (String × Pid)) (pid : Pid) :
    Option (List (String × Pid)) :=
  if o.command pid = false then none
  else (o.ls pid).bind fun text => addRecords o pid (text.length + 1) 0 text inodesMap

/-- The loop of `ListeningPortCollector_PopulateInodesMap` over the entries that are left. -/
def addEntries (o : InodesOutcome) :
    List DirectoryEntry → List (String × Pid) → Option (List (String × Pid))
  | [], inodesMap => some inodesMap
  | entry :: rest, inodesMap =>
      match entry.pid? with
      | none => addEntries o rest inodesMap
      | some pid => (populateProcessToInodesMap o inodesMap pid).bind (addEntries o rest)

/-- `ListeningPortCollector_PopulateInodesMap`, into the empty map that
`ListeningPortCollector_AddPorts` makes. -/
def populateInodesMap (o : InodesOutcome) : Option (List (String × Pid)) :=
  o.entries.bind fun entries => addEntries o entries []

end InodesMap

end SecurityAgent
