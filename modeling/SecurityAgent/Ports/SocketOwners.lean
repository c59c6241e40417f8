import SecurityAgent.Collectors.ListeningPortsCollector
import SecurityAgent.Ports.InodesMap

/-!
# Whose socket it is

The process in the record of a port is the first one that has the socket open, as long as no file
that is open has a name that looks like a socket. A line that is too long for the buffer is
read in pieces, and none of them is taken for a socket.
-/

namespace SecurityAgent

namespace InodesMap

/-! ## The mark in a text -/

/-- The text does not look like a socket anywhere. -/
def NoMark (text : List Char) : Prop := ∀ i, startsWithMark (text.drop i) = false

theorem startsWithMark_append {text : List Char} (h : startsWithMark text = true)
    (rest : List Char) : startsWithMark (text ++ rest) = true := by
  have heq := beq_iff_eq.mp h
  have hlength : socketMark.length ≤ text.length := by
    have hlen := congrArg List.length heq
    rw [List.length_map, List.length_take] at hlen
    omega
  refine beq_iff_eq.mpr ?_
  rw [List.take_append_of_le_length hlength]
  exact heq

/-- A part of a text that does not look like a socket does not either. -/
theorem NoMark.part (before : List Char) {text : List Char} (after : List Char)
    (h : NoMark (before ++ text ++ after)) : NoMark text := by
  intro i
  by_contra htrue
  have hmark := startsWithMark_append (Bool.of_not_eq_false htrue) after
  by_cases hi : i ≤ text.length
  · have hwhole := h (before.length + i)
    rw [List.append_assoc, ← List.drop_drop, List.drop_left, List.drop_append_of_le_length hi,
      hmark] at hwhole
    cases hwhole
  · rw [List.drop_of_length_le (by omega)] at htrue
    exact htrue rfl

theorem matchInode_noMark {text : List Char} (h : NoMark text) : matchInode text = none := by
  induction text with
  | nil => rfl
  | cons c rest ih =>
      rw [matchInode, if_neg (by rw [show startsWithMark (c :: rest) = false from h 0]; decide)]
      exact ih fun i => h (i + 1)

/-- The mark does not overlap with itself. -/
theorem startsWithMark_before {front rest : List Char} (hne : front ≠ []) (h : NoMark front) :
    startsWithMark (front ++ (socketMark ++ rest)) = false := by
  by_contra htrue
  have heq := beq_iff_eq.mp (Bool.of_not_eq_false htrue)
  by_cases hlength : socketMark.length ≤ front.length
  · rw [List.take_append_of_le_length hlength] at heq
    have hfront := h 0
    rw [List.drop_zero, startsWithMark, heq] at hfront
    exact absurd hfront (by decide)
  · -- the letter that the mark begins with would be another letter of it
    have honce : ∀ n < socketMark.length, socketMark[n]? = some 's' → n = 0 := by decide
    have hat := congrArg (·[front.length]?) heq
    simp only [List.getElem?_map, List.getElem?_take, Nat.not_le.mp hlength, if_true,
      List.getElem?_append_right (Nat.le_refl front.length), Nat.sub_self] at hat
    have hzero := honce front.length (Nat.not_le.mp hlength) hat.symm
    exact hne (List.eq_nil_of_length_eq_zero hzero)

theorem matchInode_mark {front rest : List Char} (h : NoMark front) :
    matchInode (front ++ (socketMark ++ rest)) = upToBracket rest := by
  induction front with
  | nil => rfl
  | cons c front ih =>
      have hnot := @startsWithMark_before (c :: front) rest (List.cons_ne_nil c front) h
      rw [List.cons_append] at hnot ⊢
      rw [matchInode, if_neg (by rw [hnot]; decide)]
      exact ih fun i => h (i + 1)

theorem upToBracket_line {inode : List Char} :
    upToBracket (inode ++ [']', '\n']) = some inode := by
  unfold upToBracket
  rw [if_pos (by simp)]
  simp

end InodesMap

/-! ## The lines -/

/-- A line of what `ls` prints about the open files of a process: a socket, or something that does
not look like one anywhere. -/
inductive FileLine where
  | socket (front inode : List Char)
  | other (text : List Char)

namespace FileLine

open InodesMap

def text : FileLine → List Char
  | socket front inode => front ++ (socketMark ++ (inode ++ [']', '\n']))
  | other text => text ++ ['\n']

/-- The line of a socket fits into the buffer. -/
def WellFormed : FileLine → Prop
  | socket front inode => NoMark front ∧ '\n' ∉ front ∧ '\n' ∉ inode
      ∧ (socket front inode).text.length < MAX_RECORD_VALUE_LENGTH
  | other text => NoMark (text ++ ['\n']) ∧ '\n' ∉ text

def inode? : FileLine → Option String
  | socket _ inode => some (String.ofList inode)
  | other _ => none

end FileLine

/-- Where a line is longer than the buffer a piece of it is read. -/
theorem fgets_piece {line : List Char} (hline : '\n' ∉ line) (rest : List Char) :
    ∀ {room : Nat}, room ≤ line.length →
      fgets room (line ++ rest) = (line.take room, line.drop room ++ rest) := by
  induction line with
  | nil =>
      intro room hroom
      obtain rfl := Nat.le_zero.mp hroom
      rfl
  | cons c cs ih =>
      intro room hroom
      cases room with
      | zero => rfl
      | succ room =>
          have hc : c ≠ '\n' := fun h => hline (h ▸ List.mem_cons_self)
          have hcs := ih (fun h => hline (List.mem_cons_of_mem _ h)) (Nat.le_of_succ_le_succ hroom)
          rw [List.cons_append, fgets, if_neg hc, hcs]
          rfl

namespace InodesMap

variable {o : InodesOutcome} {pid : Pid}

/-- One round, nothing failing. -/
theorem addRecords_step (hinode : ∀ i, o.inode pid i = true) (hadd : ∀ i, o.add pid i = true)
    {rounds i : Nat} {text : List Char} {inodesMap : List (String × Pid)} (hne : text ≠ []) :
    addRecords o pid (rounds + 1) i text inodesMap
      = addRecords o pid rounds (i + 1) (fgets 127 text).2
        ((matchInode (fgets 127 text).1).elim inodesMap fun inode =>
          mapAdd inodesMap (String.ofList inode) pid) := by
  rw [addRecords, if_neg hne]
  cases h : matchInode (fgets 127 text).1 with
  | none => simp only [searchInode, MAX_RECORD_VALUE_LENGTH, h, Option.elim]
  | some inode =>
      simp only [searchInode, MAX_RECORD_VALUE_LENGTH, h, hinode, hadd, if_true, Option.elim]

/-- A line that does not look like a socket is passed over, in as many pieces as it takes. -/
theorem addRecords_other (hinode : ∀ i, o.inode pid i = true) (hadd : ∀ i, o.add pid i = true)
    {text rest : List Char} {inodesMap : List (String × Pid)} (hnewline : '\n' ∉ text)
    (hmark : NoMark (text ++ ['\n'])) :
    ∀ {rounds i : Nat}, (text ++ '\n' :: rest).length < rounds →
      ∃ rounds' i', rest.length < rounds' ∧ addRecords o pid rounds i (text ++ '\n' :: rest) inodesMap
        = addRecords o pid rounds' i' rest inodesMap := by
  intro rounds
  induction rounds generalizing text with
  | zero => exact fun h => absurd h (Nat.not_lt_zero _)
  | succ rounds ih =>
      intro i hrounds
      have hlength : text.length + rest.length + 1 ≤ rounds := by
        rw [List.length_append, List.length_cons] at hrounds
        omega
      rw [addRecords_step hinode hadd (by simp)]
      by_cases hshort : text.length < 127
      · rw [fgets_line hnewline rest hshort, matchInode_noMark hmark]
        exact ⟨rounds, i + 1, by omega, rfl⟩
      · rw [fgets_piece hnewline ('\n' :: rest) (by omega)]
        have hpiece : NoMark (text.take 127) := by
          refine NoMark.part [] (text.drop 127 ++ ['\n']) ?_
          rwa [List.nil_append, ← List.append_assoc, List.take_append_drop]
        have hleft : NoMark (text.drop 127 ++ ['\n']) := by
          refine NoMark.part (text.take 127) [] ?_
          rwa [List.append_nil, ← List.append_assoc, List.take_append_drop]
        rw [matchInode_noMark hpiece]
        refine ih (fun h => hnewline (List.mem_of_mem_drop h)) hleft ?_
        rw [List.length_append, List.length_drop, List.length_cons]
        omega

/-- **What the lines of a process add to the map.** -/
theorem addRecords_lines (hinode : ∀ i, o.inode pid i = true) (hadd : ∀ i, o.add pid i = true)
    {lines : List FileLine} (hlines : ∀ line ∈ lines, line.WellFormed) :
    ∀ {rounds i : Nat} {inodesMap : List (String × Pid)},
      (lines.flatMap FileLine.text).length < rounds →
      addRecords o pid rounds i (lines.flatMap FileLine.text) inodesMap
        = some ((lines.filterMap FileLine.inode?).foldl (fun map inode => mapAdd map inode pid)
          inodesMap) := by
  induction lines with
  | nil =>
      intro rounds i inodesMap hrounds
      obtain ⟨rounds, rfl⟩ := Nat.exists_eq_succ_of_ne_zero (Nat.ne_of_gt hrounds)
      rfl
  | cons line lines ih =>
      intro rounds i inodesMap hrounds
      have hrest := fun line hline => hlines line (List.mem_cons_of_mem _ hline)
      have hline := hlines line List.mem_cons_self
      rw [List.flatMap_cons] at hrounds ⊢
      cases line with
      | other text =>
          have hshape : (FileLine.other text).text ++ lines.flatMap FileLine.text
              = text ++ '\n' :: lines.flatMap FileLine.text := by
            simp [FileLine.text]
          rw [hshape] at hrounds ⊢
          obtain ⟨rounds', i', hrounds', heq⟩ :=
            addRecords_other hinode hadd hline.2 hline.1 hrounds
          rw [heq]
          exact ih hrest hrounds'
      | socket front inode =>
          obtain ⟨hmark, hfront, hname, hfits⟩ := hline
          have hnewline : '\n' ∉ front ++ (socketMark ++ (inode ++ [']'])) := by
            simp only [List.mem_append, not_or]
            exact ⟨hfront, by decide, hname, by decide⟩
          have hshape : (FileLine.socket front inode).text ++ lines.flatMap FileLine.text
              = (front ++ (socketMark ++ (inode ++ [']']))) ++ '\n' :: lines.flatMap FileLine.text := by
            simp [FileLine.text]
          have hline : (front ++ (socketMark ++ (inode ++ [']']))) ++ ['\n']
              = front ++ (socketMark ++ (inode ++ [']', '\n'])) := by
            simp
          obtain ⟨rounds, rfl⟩ := Nat.exists_eq_succ_of_ne_zero
            (Nat.ne_of_gt (Nat.lt_of_le_of_lt (Nat.zero_le _) hrounds))
          have hlength : (front ++ (socketMark ++ (inode ++ [']']))).length < 127 := by
            have hlen := congrArg List.length hline
            rw [List.length_append, List.length_singleton] at hlen
            have : (front ++ (socketMark ++ (inode ++ [']', '\n']))).length < 128 := hfits
            omega
          rw [hshape] at hrounds ⊢
          rw [addRecords_step hinode hadd (by simp), fgets_line hnewline _ hlength, hline,
            matchInode_mark hmark, upToBracket_line]
          rw [ih hrest (by
            rw [List.length_append, List.length_cons] at hrounds
            omega)]
          rfl

/-! ## The map -/

theorem lookup_append (l : List (String × Pid)) (inode key : String) (pid : Pid) :
    (l ++ [(inode, pid)]).lookup key
      = (l.lookup key).or (if key = inode then some pid else none) := by
  induction l with
  | nil =>
      rw [List.nil_append, List.lookup_cons]
      by_cases h : key = inode
      · rw [if_pos h, beq_iff_eq.mpr h]
        rfl
      · rw [if_neg h, beq_eq_false_iff_ne.mpr h]
        rfl
  | cons entry l ih =>
      obtain ⟨k, p⟩ := entry
      rw [List.cons_append, List.lookup_cons, List.lookup_cons, ih]
      cases key == k <;> rfl

/-- What is there stays, and what is added counts for a key that is not there. -/
theorem lookup_mapAdd (inodesMap : List (String × Pid)) (inode key : String) (pid : Pid) :
    (mapAdd inodesMap inode pid).lookup key
      = (inodesMap.lookup key).or (if key = inode then some pid else none) := by
  unfold mapAdd
  split
  · rename_i hsome
    by_cases hkey : key = inode
    · subst hkey
      obtain ⟨p, hp⟩ := Option.isSome_iff_exists.mp hsome
      rw [hp]
      rfl
    · rw [if_neg hkey, Option.or_none]
  · exact lookup_append inodesMap inode key pid

theorem lookup_foldl (inodes : List String) (key : String) (pid : Pid) :
    ∀ inodesMap : List (String × Pid),
      (inodes.foldl (fun map inode => mapAdd map inode pid) inodesMap).lookup key
        = (inodesMap.lookup key).or (if key ∈ inodes then some pid else none) := by
  induction inodes with
  | nil => exact fun inodesMap => by simp
  | cons inode inodes ih =>
      intro inodesMap
      rw [List.foldl_cons, ih, lookup_mapAdd, Option.or_assoc]
      by_cases hkey : key = inode
      · simp [hkey]
      · simp [hkey]

/-- The inodes of the sockets that a process has open. -/
def sockets (lines : List FileLine) : List String := lines.filterMap FileLine.inode?

/-- Nothing fails, and `ls` prints these lines. -/
structure Lists (o : InodesOutcome) (entries : List DirectoryEntry)
    (lines : Pid → List FileLine) : Prop where
  entries : o.entries = some entries
  command : ∀ pid, o.command pid = true
  ls : ∀ pid, o.ls pid = some ((lines pid).flatMap FileLine.text)
  inode : ∀ pid i, o.inode pid i = true
  add : ∀ pid i, o.add pid i = true
  wellFormed : ∀ pid, ∀ line ∈ lines pid, line.WellFormed

variable {entries : List DirectoryEntry} {lines : Pid → List FileLine}

/-- The first of these processes that has the socket open. -/
def holder (entries : List DirectoryEntry) (lines : Pid → List FileLine) (inode : String) :
    Option Pid :=
  (entries.filterMap DirectoryEntry.pid?).find? fun pid => (sockets (lines pid)).contains inode

theorem addEntries_eq (h : Lists o entries lines) (es : List DirectoryEntry) :
    ∀ inodesMap : List (String × Pid), ∃ inodesMap', addEntries o es inodesMap = some inodesMap'
      ∧ ∀ key, inodesMap'.lookup key = (inodesMap.lookup key).or (holder es lines key) := by
  induction es with
  | nil => exact fun inodesMap => ⟨inodesMap, rfl, fun key => (Option.or_none).symm⟩
  | cons entry es ih =>
      intro inodesMap
      rw [addEntries]
      cases hpid : entry.pid? with
      | none =>
          obtain ⟨inodesMap', heq, hlookup⟩ := ih inodesMap
          refine ⟨inodesMap', heq, fun key => ?_⟩
          rw [hlookup, holder, holder, List.filterMap_cons_none hpid]
      | some pid =>
          have hprocess : populateProcessToInodesMap o inodesMap pid
              = some ((sockets (lines pid)).foldl (fun map inode => mapAdd map inode pid)
                inodesMap) := by
            unfold populateProcessToInodesMap
            rw [h.command, if_neg (by decide), h.ls, Option.bind_some]
            exact addRecords_lines (h.inode pid) (h.add pid) (h.wellFormed pid)
              (Nat.lt_succ_self _)
          obtain ⟨inodesMap', heq, hlookup⟩ := ih
            ((sockets (lines pid)).foldl (fun map inode => mapAdd map inode pid) inodesMap)
          refine ⟨inodesMap', ?_, fun key => ?_⟩
          · dsimp only
            rw [hprocess, Option.bind_some]
            exact heq
          · rw [hlookup, lookup_foldl, Option.or_assoc, holder, holder,
              List.filterMap_cons_some hpid, List.find?_cons]
            by_cases hkey : key ∈ sockets (lines pid)
            · rw [if_pos hkey, List.contains_iff_mem.mpr hkey]
              rfl
            · rw [if_neg hkey, show (sockets (lines pid)).contains key = false from
                Bool.eq_false_iff.mpr fun h => hkey (List.contains_iff_mem.mp h)]
              rfl

/-- **The map is made, and finds for every socket the first process that has it open.** -/
theorem populateInodesMap_eq (h : Lists o entries lines) :
    ∃ inodesMap, populateInodesMap o = some inodesMap
      ∧ ∀ inode, inodesMap.lookup inode = holder entries lines inode := by
  obtain ⟨inodesMap, heq, hlookup⟩ := addEntries_eq h entries []
  refine ⟨inodesMap, ?_, hlookup⟩
  unfold populateInodesMap
  rw [h.entries, Option.bind_some, heq]

end InodesMap

open InodesMap ListeningPortsCollector

/--
**The process in the record of a port has the socket open**, and is the first one that has; the
record has none if and only if no process has the socket open. Numbers of processes are to have
no more digits than a pointer has bytes.
-/
theorem pid_of_socket {o : InodesOutcome} {entries : List DirectoryEntry}
    {lines : Pid → List FileLine} (h : Lists o entries lines)
    (hshort : ∀ e ∈ entries, e.name.length ≤ 8) (portsIterator : ListeningPortsIterator) :
    ∃ inodesMap, populateInodesMap o = some inodesMap
      ∧ addPidToExtraDetails portsIterator (fun inode => inodesMap.lookup inode)
        = some (match holder entries lines portsIterator.inode with
          | none => JsonObjectWriter.init
          | some pid => JsonObjectWriter.init.writeString LISTENING_PORTS_PID_KEY pid.text)
      ∧ ∀ pid, holder entries lines portsIterator.inode = some pid →
        portsIterator.inode ∈ sockets (lines pid)
          ∧ ∃ e ∈ entries, e.pid? = some pid := by
  obtain ⟨inodesMap, hmap, hlookup⟩ := populateInodesMap_eq h
  have hholds : ∀ pid, holder entries lines portsIterator.inode = some pid →
      portsIterator.inode ∈ sockets (lines pid) ∧ ∃ e ∈ entries, e.pid? = some pid := by
    intro pid hpid
    have hfound : (sockets (lines pid)).contains portsIterator.inode = true :=
      List.find?_some (p := fun pid => (sockets (lines pid)).contains portsIterator.inode) hpid
    refine ⟨List.contains_iff_mem.mp hfound, ?_⟩
    exact List.mem_filterMap.mp (List.mem_of_find?_eq_some hpid)
  refine ⟨inodesMap, hmap, ?_, hholds⟩
  unfold addPidToExtraDetails
  cases hpid : holder entries lines portsIterator.inode with
  | none =>
      rw [ListeningPortsIterator.getPid_none portsIterator ((hlookup _).trans hpid)]
      rfl
  | some pid =>
      obtain ⟨_, e, he, hname⟩ := hholds pid hpid
      have htext : pid.text = e.name := by
        unfold DirectoryEntry.pid? at hname
        split at hname
        · exact (congrArg Pid.text (Option.some.inj hname)).symm
        · cases hname
      obtain ⟨written, hwritten, hvalue⟩ := (@ListeningPortsIterator.getPid_some
        ListeningPortsCollector.MAX_RECORD_VALUE_LENGTH portsIterator
        (fun inode => inodesMap.lookup inode) pid ((hlookup _).trans hpid) SIZEOF_VALUE
        (by decide)).1 (by rw [htext]; exact hshort e he)
      rw [show portsIterator.getPid valueBuffer SIZEOF_VALUE (fun inode => inodesMap.lookup inode)
        = some written from hwritten, Option.map_some, hvalue, if_pos pid.ne_empty]

theorem InodesMap.noMark_of_all {text : List Char}
    (h : ∀ i < text.length, startsWithMark (text.drop i) = false) : NoMark text := by
  intro i
  by_cases hi : i < text.length
  · exact h i hi
  · rw [List.drop_of_length_le (Nat.not_lt.mp hi)]
    rfl

/-- Two processes with the same socket, and something in `/proc` that is not a process. -/
theorem pid_of_socket_two :
    let entries : List DirectoryEntry := [⟨"net", by decide, by decide⟩,
      ⟨"7", by decide, by decide⟩, ⟨"12", by decide, by decide⟩]
    let lines : Pid → List FileLine := fun _ =>
      [.other "total 0".toList, .socket "3 -> ".toList "42".toList]
    let o : InodesOutcome := ⟨some entries, fun _ => true,
      fun pid => some ((lines pid).flatMap FileLine.text), fun _ _ => true, fun _ _ => true⟩
    ∃ inodesMap, populateInodesMap o = some inodesMap
      ∧ addPidToExtraDetails ⟨[], "", 0, "", 0, "42"⟩ (fun inode => inodesMap.lookup inode)
        = some (match holder entries lines "42" with
          | none => JsonObjectWriter.init
          | some pid => JsonObjectWriter.init.writeString LISTENING_PORTS_PID_KEY pid.text)
      ∧ ∀ pid, holder entries lines "42" = some pid →
        "42" ∈ sockets (lines pid) ∧ ∃ e ∈ entries, e.pid? = some pid := by
  intro entries lines o
  have hlists : Lists o entries lines := by
    refine ⟨rfl, fun _ => rfl, fun _ => rfl, fun _ _ => rfl, fun _ _ => rfl, ?_⟩
    intro _ line hline
    rcases List.mem_cons.mp hline with rfl | hline
    · exact ⟨InodesMap.noMark_of_all (by decide), by decide⟩
    · rw [List.mem_singleton.mp hline]
      exact ⟨InodesMap.noMark_of_all (by decide), by decide, by decide, by decide⟩
  exact pid_of_socket hlists (by decide) ⟨[], "", 0, "", 0, "42"⟩

end SecurityAgent
