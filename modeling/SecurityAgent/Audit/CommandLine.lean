import SecurityAgent.Audit.ProcessCreationCollector
import SecurityAgent.Lib.Block
import SecurityAgent.Lib.Separated

/-!
# How a command line is put together: `ProcessCreationCollector_ReadCommandLine`

The arguments are printed one behind the other into a buffer that has just been allocated, each with
a terminator that the next one overwrites. So there is a terminator as soon as there has been an
argument. A record without arguments prints nothing, and what is taken for the command line then is
what the memory held.

The names of the arguments are printed too, into ten bytes: from the 100000000th on they are cut
off. And a negative number of arguments is a very large one.
-/

namespace SecurityAgent

open Utils Block

/-- `INT_MAX`, which is the most that `vsnprintf` can give for a length. -/
def INT_MAX : Nat := 2147483647

namespace ProcessCreationCollector

/-! ## In memory -/

/-- `commandLineBuffer`, `currentCommand` as an offset in it, and `currentBufferSize`. -/
structure CommandBuffer where
  cells : Cells Char
  currentCommand : Nat
  currentBufferSize : Nat

/-- The buffer as it is allocated. -/
def CommandBuffer.allocated (maxLen : Nat) : CommandBuffer := ⟨fresh maxLen, 0, maxLen⟩

/-- `Utils_ConcatenateToString`: the text and a terminator at `currentCommand`, if there is room.
Otherwise the text is cut off, but then the buffer is not read any more. -/
def CommandBuffer.concatenate (b : CommandBuffer) (text : String) : Option CommandBuffer :=
  if text.length > INT_MAX ∨ text.length ≥ b.currentBufferSize then none
  else some ⟨write b.cells b.currentCommand (text.toList ++ [nul]), b.currentCommand + text.length,
    b.currentBufferSize - text.length⟩

/-- What is printed for the argument with this index. -/
def piece (i : Nat) (currentArg : String) : String := (if i > 0 then " " else "") ++ currentArg

/-- The loop over the arguments, `count` of them from `i` on. -/
def appendArguments (r : AuditRecord) : Nat → Nat → CommandBuffer → Option CommandBuffer
  | 0, _, b => some b
  | count + 1, i, b =>
      match r.interpretString (argumentName i) with
      | .error _ => none
      | .ok currentArg =>
          match b.concatenate (piece i currentArg) with
          | none => none
          | some b => appendArguments r count (i + 1) b

/-- The buffer that `JsonObjectWriter_WriteString` is given, if it gets there. -/
def commandBuffer (malloc : Bool) (r : AuditRecord) : Option CommandBuffer :=
  match r.maxRecordLength with
  | .error _ => none
  | .ok maxLen =>
      if malloc = false then none
      else
        match r.readInt AUDIT_ARGC with
        | .error _ => none
        | .ok argCount =>
            appendArguments r argCount.toUInt32.toNat 0 (CommandBuffer.allocated maxLen)

/-- `ProcessCreationCollector_ReadCommandLine`, where the buffer held `contents` when it was
allocated and `behind` is what comes after it in memory. -/
def readCommandLineIn (malloc write : Bool) (contents behind : List Char) (e : AuditEvent)
    (processEventPayload : JsonObjectWriter) : Except EventCollectorResult JsonObjectWriter :=
  match e.goto AUDIT_EXECVE_RECORD_TYPE with
  | .error _ => .error .exception
  | .ok r =>
      match commandBuffer malloc r with
      | none => .error .exception
      | some b =>
          if write then
            .ok (processEventPayload.writeString PROCESS_CREATION_COMMAND_LINE_KEY
              (cString (fill b.cells contents ++ behind)))
          else .error .exception

/-! ## What is asked of the command line -/

/-- The texts of the fields with these names, from the `i`-th on. -/
def Texts (r : AuditRecord) (name : Nat → String) : Nat → List String → Prop
  | _, [] => True
  | i, text :: rest => r.interpretString (name i) = .ok text ∧ Texts r name (i + 1) rest

/-- The arguments of a record: as many as `argc`, under the names `a0`, `a1` and so on. -/
def Arguments (r : AuditRecord) (args : List String) : Prop :=
  ∃ argCount, r.readInt AUDIT_ARGC = .ok argCount ∧ (args.length : Int) = argCount.toInt
    ∧ Texts r (fun i => "a" ++ toString i) 0 args

/-- Arguments joined by single spaces. -/
def joined (args : List String) : String := " ".intercalate args

/-- **The command line is put together**: no byte is read that has not been written, what the memory
held does not matter, and what is written is the arguments in their order. -/
structure Assembles (e : AuditEvent) : Prop where
  written : ∀ malloc r b, e.goto AUDIT_EXECVE_RECORD_TYPE = .ok r →
    commandBuffer malloc r = some b → ∃ line, readTo nul b.cells = some line
  same : ∀ malloc write contents contents' behind behind' r maxLen processEventPayload,
    e.goto AUDIT_EXECVE_RECORD_TYPE = .ok r → r.maxRecordLength = .ok maxLen →
    contents.length = maxLen → contents'.length = maxLen →
    readCommandLineIn malloc write contents behind e processEventPayload
      = readCommandLineIn malloc write contents' behind' e processEventPayload
  joins : ∀ malloc write contents behind r maxLen processEventPayload written,
    e.goto AUDIT_EXECVE_RECORD_TYPE = .ok r → r.maxRecordLength = .ok maxLen →
    contents.length = maxLen →
    readCommandLineIn malloc write contents behind e processEventPayload = .ok written →
    ∃ args, Arguments r args
      ∧ written = processEventPayload.writeString PROCESS_CREATION_COMMAND_LINE_KEY (joined args)

/-- What is printed for the arguments from the `i`-th on. -/
def pieces : Nat → List String → List String
  | _, [] => []
  | i, text :: rest => piece i text :: pieces (i + 1) rest

/-- There is room for the texts, and for a terminator. -/
def Fits (maxLen : Nat) (texts : List String) : Prop :=
  (joined texts).length < maxLen ∧ ∀ p ∈ pieces 0 texts, p.length ≤ INT_MAX

/-- What libaudit interprets are C strings. -/
def CStrings (r : AuditRecord) : Prop :=
  ∀ name text, r.interpretString name = .ok text → nul ∉ text.toList

/-- Whenever the loop gets to its end, what it has read comes to the arguments. -/
def ReadsArguments (r : AuditRecord) (maxLen : Nat) (argCount : Int32) : Prop :=
  ∀ texts, texts.length = argCount.toUInt32.toNat → Texts r argumentName 0 texts →
    Fits maxLen texts → ∃ args, Arguments r args ∧ joined args = joined texts

/-! ## The text so far -/

/-- What the pieces come to. -/
def appended (i : Nat) (texts : List String) : List Char := (pieces i texts).flatMap String.toList

theorem appended_cons (i : Nat) (text : String) (rest : List String) :
    appended i (text :: rest) = (piece i text).toList ++ appended (i + 1) rest := rfl

theorem appended_succ (i : Nat) (texts : List String) :
    appended (i + 1) texts = (texts.map String.toList).flatMap (' ' :: ·) := by
  induction texts generalizing i with
  | nil => rfl
  | cons text rest ih =>
      rw [appended_cons, ih, List.map_cons, List.flatMap_cons]
      unfold piece
      rw [if_pos (Nat.succ_pos i), String.toList_append]
      rfl

/-- The pieces are the arguments joined by single spaces. -/
theorem toList_joined (texts : List String) : (joined texts).toList = appended 0 texts := by
  unfold joined
  rw [String.toList_intercalate]
  cases texts with
  | nil => rfl
  | cons text rest =>
      have hspace : " ".toList = [' '] := rfl
      have hfirst : piece 0 text = text := by
        unfold piece
        rw [if_neg (Nat.lt_irrefl 0), String.empty_append]
      rw [List.map_cons, hspace, Separated.intercalate_cons, appended_cons, appended_succ, hfirst]

namespace CommandBuffer

/-- The buffer begins with this, and there is so much room behind it. -/
structure Holds (b : CommandBuffer) (line : List Char) : Prop where
  cells : ∃ rest, b.cells = line.map some ++ rest ∧ rest.length = b.currentBufferSize
  currentCommand : b.currentCommand = line.length

/-- There is a terminator behind it. -/
def Ends (b : CommandBuffer) (line : List Char) : Prop :=
  ∃ rest, b.cells = line.map some ++ some nul :: rest

theorem allocated_holds (maxLen : Nat) : (allocated maxLen).Holds [] :=
  ⟨⟨fresh maxLen, rfl, List.length_replicate⟩, rfl⟩

theorem Holds.length {b : CommandBuffer} {line : List Char} (h : b.Holds line) :
    b.cells.length = line.length + b.currentBufferSize := by
  obtain ⟨rest, hcells, hrest⟩ := h.cells
  rw [hcells, List.length_append, List.length_map, hrest]

/-- **One piece more.** It is written into the buffer and behind what is there, and ended. -/
theorem concatenate_holds {b b' : CommandBuffer} {line : List Char} {text : String}
    (hb : b.Holds line) (h : b.concatenate text = some b') :
    b'.Holds (line ++ text.toList) ∧ b'.Ends (line ++ text.toList)
      ∧ b'.cells.length = b.cells.length := by
  have hlength := hb.length
  obtain ⟨⟨rest, hcells, hrest⟩, hcurrent⟩ := hb
  unfold concatenate at h
  split at h
  · cases h
  next hroom =>
  cases h
  have hlen : text.length < rest.length := by omega
  have hmap : (line.map some).length = b.currentCommand := by rw [List.length_map, hcurrent]
  have hwrite : write b.cells b.currentCommand (text.toList ++ [nul])
      = (line ++ text.toList).map some ++ some nul :: rest.drop (text.length + 1) := by
    rw [hcells, write_append hmap, List.map_append, List.map_append, List.length_append,
      String.length_toList, List.append_assoc, List.append_assoc, List.append_assoc]
    rfl
  have hholds : Holds ⟨write b.cells b.currentCommand (text.toList ++ [nul]),
      b.currentCommand + text.length, b.currentBufferSize - text.length⟩ (line ++ text.toList) := by
    refine ⟨⟨some nul :: rest.drop (text.length + 1), hwrite, ?_⟩, ?_⟩
    · show _ = b.currentBufferSize - text.length
      rw [List.length_cons, List.length_drop]
      omega
    · show b.currentCommand + text.length = _
      rw [List.length_append, String.length_toList, hcurrent]
  refine ⟨hholds, ⟨_, hwrite⟩, length_write ?_⟩
  rw [hlength, hcurrent, List.length_append, String.length_toList, List.length_singleton]
  omega

/-- A text without a zero is read up to its end, and all that is read has been written. -/
theorem Ends.readTo {b : CommandBuffer} {line : List Char} (h : b.Ends line) (hnul : nul ∉ line) :
    Block.readTo nul b.cells = some line := by
  obtain ⟨rest, hcells⟩ := h
  rw [hcells]
  exact readTo_append hnul rest

/-- So the memory reads as it, whatever it held. -/
theorem Ends.cString {b : CommandBuffer} {line : String} (h : b.Ends line.toList)
    (hnul : nul ∉ line.toList) {contents : List Char} (hlen : contents.length = b.cells.length)
    (behind : List Char) : Utils.cString (fill b.cells contents ++ behind) = line := by
  unfold Utils.cString
  rw [takeWhile_fill (h.readTo hnul) hlen, String.ofList_toList]

end CommandBuffer

/-! ## The loop -/

/-- There is room for one piece after the other. -/
def Room : Nat → List String → Prop
  | _, [] => True
  | size, p :: rest => p.length ≤ INT_MAX ∧ p.length < size ∧ Room (size - p.length) rest

theorem room_iff {size : Nat} {ps : List String} (hne : ps ≠ []) :
    Room size ps ↔ (ps.flatMap String.toList).length < size ∧ ∀ p ∈ ps, p.length ≤ INT_MAX := by
  induction ps generalizing size with
  | nil => exact absurd rfl hne
  | cons p rest ih =>
      rw [List.flatMap_cons, List.length_append, String.length_toList, List.forall_mem_cons, Room]
      by_cases hrest : rest = []
      · rw [hrest, List.flatMap_nil, List.length_nil]
        refine ⟨fun ⟨hp, hsize, _⟩ => ⟨by omega, hp, fun _ h => absurd h List.not_mem_nil⟩,
          fun ⟨hsize, hp, _⟩ => ⟨hp, by omega, trivial⟩⟩
      · rw [ih hrest]
        refine ⟨fun ⟨hp, hsize, hall, hrest⟩ => ⟨by omega, hp, hrest⟩,
          fun ⟨hsize, hp, hrest⟩ => ⟨hp, by omega, by omega, hrest⟩⟩

/-- The loop gets to its end if there are texts, and room for them. -/
theorem appendArguments_of_room {r : AuditRecord} {texts : List String} :
    ∀ {i : Nat} {b : CommandBuffer}, Texts r argumentName i texts →
      Room b.currentBufferSize (pieces i texts) →
      ∃ b', appendArguments r texts.length i b = some b' := by
  induction texts with
  | nil => intro i b _ _; exact ⟨b, rfl⟩
  | cons text rest ih =>
      rintro i b ⟨htext, hrest⟩ ⟨hmax, hsize, hroom⟩
      have hstep : b.concatenate (piece i text)
          = some ⟨write b.cells b.currentCommand ((piece i text).toList ++ [nul]),
              b.currentCommand + (piece i text).length,
              b.currentBufferSize - (piece i text).length⟩ := if_neg (by omega)
      obtain ⟨b', hb'⟩ := @ih (i + 1) ⟨_, _, _⟩ hrest hroom
      refine ⟨b', ?_⟩
      rw [List.length_cons, appendArguments, htext]
      dsimp only
      rw [hstep]
      exact hb'

/-- **What the loop has done when it gets to its end**: all the texts stand behind one another in
the buffer, and there is a terminator if there is a text. -/
theorem appendArguments_holds {r : AuditRecord} {count : Nat} :
    ∀ {i : Nat} {b b' : CommandBuffer} {line : List Char}, b.Holds line →
      appendArguments r count i b = some b' →
      ∃ texts, texts.length = count ∧ Texts r argumentName i texts
        ∧ Room b.currentBufferSize (pieces i texts)
        ∧ b'.Holds (line ++ appended i texts) ∧ b'.cells.length = b.cells.length
        ∧ (b.Ends line ∨ texts ≠ [] → b'.Ends (line ++ appended i texts)) := by
  induction count with
  | zero =>
      intro i b b' line hb h
      cases h
      refine ⟨[], rfl, trivial, trivial, ?_, rfl, ?_⟩
      · rwa [show appended i [] = [] from rfl, List.append_nil]
      · rintro (hends | hne)
        · rwa [show appended i [] = [] from rfl, List.append_nil]
        · exact absurd rfl hne
  | succ count ih =>
      intro i b b' line hb h
      unfold appendArguments at h
      split at h
      · cases h
      next currentArg htext =>
      split at h
      · cases h
      next b₁ hstep =>
      obtain ⟨hholds, hends, hlength⟩ := CommandBuffer.concatenate_holds hb hstep
      obtain ⟨texts, hcount, htexts, hroom, hb', hlength', hends'⟩ := ih hholds h
      refine ⟨currentArg :: texts, congrArg (· + 1) hcount, ⟨htext, htexts⟩, ?_, ?_,
        hlength'.trans hlength, fun _ => ?_⟩
      · unfold CommandBuffer.concatenate at hstep
        split at hstep
        · cases hstep
        next hfits =>
        cases hstep
        exact ⟨by omega, by omega, hroom⟩
      · rw [appended_cons, ← List.append_assoc]
        exact hb'
      · rw [appended_cons, ← List.append_assoc]
        exact hends' (Or.inl hends)

theorem commandBuffer_eq {r : AuditRecord} {maxLen : Nat} {argCount : Int32}
    (hmaxLen : r.maxRecordLength = .ok maxLen) (hargCount : r.readInt AUDIT_ARGC = .ok argCount) :
    commandBuffer true r
      = appendArguments r argCount.toUInt32.toNat 0 (CommandBuffer.allocated maxLen) := by
  unfold commandBuffer
  rw [hmaxLen]
  dsimp only
  rw [if_neg Bool.true_eq_false.mp, hargCount]

/-- **What the buffer is when it is written to the payload.** -/
theorem commandBuffer_holds {malloc : Bool} {r : AuditRecord} {b : CommandBuffer}
    (h : commandBuffer malloc r = some b) :
    ∃ maxLen argCount texts, r.maxRecordLength = .ok maxLen ∧ r.readInt AUDIT_ARGC = .ok argCount
      ∧ texts.length = argCount.toUInt32.toNat ∧ Texts r argumentName 0 texts
      ∧ b.cells.length = maxLen
      ∧ (texts ≠ [] → Fits maxLen texts ∧ b.Ends (joined texts).toList) := by
  unfold commandBuffer at h
  split at h
  · cases h
  next maxLen hmaxLen =>
  split at h
  · cases h
  split at h
  · cases h
  next argCount hargCount =>
  obtain ⟨texts, hcount, htexts, hroom, -, hlength, hends⟩ :=
    appendArguments_holds (CommandBuffer.allocated_holds maxLen) h
  refine ⟨maxLen, argCount, texts, hmaxLen, hargCount, hcount, htexts,
    hlength.trans List.length_replicate, fun hne => ⟨?_, ?_⟩⟩
  · have hpieces : pieces 0 texts ≠ [] := by
      cases texts with
      | nil => exact absurd rfl hne
      | cons text rest => exact List.cons_ne_nil _ _
    obtain ⟨hsize, hmax⟩ := (room_iff hpieces).mp hroom
    refine ⟨?_, hmax⟩
    rw [← String.length_toList, toList_joined]
    exact hsize
  · rw [toList_joined]
    exact hends (Or.inr hne)

/-- No argument has a zero in it, so the line has none. -/
theorem CStrings.not_mem_joined {r : AuditRecord} (hr : CStrings r) {name : Nat → String}
    {texts : List String} (h : Texts r name 0 texts) : nul ∉ (joined texts).toList := by
  have happended : ∀ (texts : List String) (i : Nat), Texts r name i texts →
      nul ∉ appended i texts := by
    intro texts
    induction texts with
    | nil => intro i _; exact List.not_mem_nil
    | cons text rest ih =>
        rintro i ⟨htext, hrest⟩ hmem
        rw [appended_cons] at hmem
        rcases List.mem_append.mp hmem with hpiece | hafter
        · unfold piece at hpiece
          rw [String.toList_append] at hpiece
          rcases List.mem_append.mp hpiece with hspace | harg
          · split at hspace
            · exact absurd hspace (by decide)
            · exact absurd hspace List.not_mem_nil
          · exact hr _ _ htext harg
        · exact ih (i + 1) hrest hafter
  rw [toList_joined]
  exact happended texts 0 h

/-! ## Names and numbers -/

/-- Up to the 100000000th the names are those of the arguments. -/
theorem argumentName_eq {i : Nat} (h : i < 100000000) : argumentName i = "a" ++ toString i := by
  have hint : (Int32.ofNat i).toInt = i := Int32.toInt_ofNat_of_lt (by omega)
  have hlen : (toString i).length ≤ 8 := length_toString_le (by decide) h
  have htoString : toString (i : Int) = toString i := rfl
  unfold argumentName
  rw [hint, htoString, List.take_of_length_le, String.ofList_toList]
  rw [String.length_toList, String.length_append]
  show 1 + (toString i).length ≤ 9
  omega

theorem Texts.of_argumentName {r : AuditRecord} {texts : List String} :
    ∀ {i : Nat}, Texts r argumentName i texts → i + texts.length ≤ 100000000 →
      Texts r (fun i => "a" ++ toString i) i texts := by
  induction texts with
  | nil => intro i _ _; trivial
  | cons text rest ih =>
      rintro i ⟨htext, hrest⟩ hle
      rw [List.length_cons] at hle
      rw [argumentName_eq (by omega)] at htext
      exact ⟨htext, ih hrest (by omega)⟩

theorem toNat_toUInt32 {argCount : Int32} (h : 0 < argCount.toInt) :
    (argCount.toUInt32.toNat : Int) = argCount.toInt := by
  have hcond : argCount.toInt = if 2 * argCount.toUInt32.toNat < 2 ^ 32
      then (argCount.toUInt32.toNat : Int) else (argCount.toUInt32.toNat : Int) - (2 ^ 32 : Nat) :=
    BitVec.toInt_eq_toNat_cond _
  have hlt := argCount.toUInt32.toNat_lt
  split at hcond
  · exact hcond.symm
  · omega

theorem toNat_toUInt32_eq_zero {argCount : Int32} (h : argCount.toUInt32.toNat = 0) :
    argCount = 0 :=
  Int32.toBitVec_inj.mp (BitVec.eq_of_toNat_eq h)

theorem Texts.unique {r : AuditRecord} {name : Nat → String} {texts : List String} :
    ∀ {i : Nat} {texts' : List String}, Texts r name i texts → Texts r name i texts' →
      texts.length = texts'.length → texts = texts' := by
  induction texts with
  | nil =>
      intro i texts' _ _ hlen
      exact (List.eq_nil_of_length_eq_zero hlen.symm).symm
  | cons text rest ih =>
      intro i texts' h h' hlen
      cases texts' with
      | nil => cases hlen
      | cons text' rest' =>
          obtain ⟨htext, hrest⟩ := h
          obtain ⟨htext', hrest'⟩ := h'
          rw [Except.ok.inj (htext.symm.trans htext'), ih hrest hrest' (Nat.succ.inj hlen)]

/-! ## The line without the memory -/

/-- The buffer begins with one line of this length. -/
theorem CommandBuffer.Holds.unique {b : CommandBuffer} {line line' : List Char} (h : b.Holds line)
    (h' : b.Holds line') : line = line' := by
  obtain ⟨rest, hcells, -⟩ := h.cells
  obtain ⟨rest', hcells', -⟩ := h'.cells
  have hlen : (line.map some).length = (line'.map some).length := by
    rw [List.length_map, List.length_map, ← h.currentCommand, ← h'.currentCommand]
  have hlines := (List.append_inj (hcells.symm.trans hcells') hlen).1
  exact List.map_injective_iff.mpr (Option.some_injective Char) hlines

/-- The loop over the memory does to the line in it what the loop over lines does. -/
theorem readArguments_simulates {r : AuditRecord}
    (hshort : ∀ name text, r.interpretString name = .ok text → text.length < INT_MAX)
    {count : Nat} :
    ∀ {i : Nat} {b : CommandBuffer} {line : String}, b.Holds line.toList →
      match appendArguments r count i b with
      | none => readArguments r count i b.currentBufferSize line = none
      | some b' => ∃ line', b'.Holds line'.toList
          ∧ readArguments r count i b.currentBufferSize line = some line' := by
  induction count with
  | zero => intro i b line hb; exact ⟨line, hb, rfl⟩
  | succ count ih =>
      intro i b line hb
      unfold appendArguments readArguments
      cases htext : r.interpretString (argumentName i) with
      | error _ => rfl
      | ok currentArg =>
          have hmax : ¬ (piece i currentArg).length > INT_MAX := by
            have hlen := hshort _ _ htext
            unfold piece
            rw [String.length_append]
            have hspace : (if i > 0 then " " else "").length ≤ 1 := by split <;> decide
            omega
          dsimp only
          by_cases hsize : (piece i currentArg).length ≥ b.currentBufferSize
          · have hnone : b.concatenate (piece i currentArg) = none := if_pos (Or.inr hsize)
            have hline : concatenateToString line b.currentBufferSize
                ((if i > 0 then " " else "") ++ currentArg) = none := if_pos hsize
            rw [hnone, hline]
          · have hstep : b.concatenate (piece i currentArg) = some _ :=
              if_neg (not_or.mpr ⟨hmax, hsize⟩)
            have hline : concatenateToString line b.currentBufferSize
                ((if i > 0 then " " else "") ++ currentArg) = some _ := if_neg hsize
            have hb' := (CommandBuffer.concatenate_holds hb hstep).1
            rw [← String.toList_append] at hb'
            rw [hstep, hline]
            exact ih hb'

/-- **The two command lines**: what is read from the memory is what the loop over lines gives, with
what the memory held for the line of no arguments. -/
theorem recordCommandLine_eq {r : AuditRecord} (hstrings : CStrings r)
    (hshort : ∀ name text, r.interpretString name = .ok text → text.length < INT_MAX)
    {maxLen : Nat} (hmaxLen : r.maxRecordLength = .ok maxLen) {contents : List Char}
    (hlen : contents.length = maxLen) (behind : List Char) :
    recordCommandLine (some (cString (contents ++ behind))) r
      = (commandBuffer true r).map fun b => cString (fill b.cells contents ++ behind) := by
  cases hargCount : r.readInt AUDIT_ARGC with
  | error _ =>
      unfold recordCommandLine commandBuffer
      rw [hmaxLen, hargCount]
      rfl
  | ok argCount =>
      have hbuffer := commandBuffer_eq hmaxLen hargCount
      unfold recordCommandLine
      rw [hmaxLen, hargCount]
      dsimp only
      by_cases hzero : argCount = 0
      · subst hzero
        rw [if_pos rfl, hbuffer]
        show some _ = some (cString (fill (fresh maxLen) contents ++ behind))
        rw [fill_fresh hlen]
      rw [if_neg hzero]
      have hsim := @readArguments_simulates r hshort argCount.toUInt32.toNat 0
        (CommandBuffer.allocated maxLen) "" (CommandBuffer.allocated_holds maxLen)
      rw [← hbuffer] at hsim
      cases hb : commandBuffer true r with
      | none =>
          rw [hb] at hsim
          exact hsim
      | some b =>
          rw [hb] at hsim
          obtain ⟨line, hholds, hline⟩ := hsim
          obtain ⟨texts, hcount, htexts, -, hholds', hcells, hends⟩ :=
            appendArguments_holds (CommandBuffer.allocated_holds maxLen) (hbuffer.symm.trans hb)
          have hne : texts ≠ [] := by
            rintro rfl
            exact hzero (toNat_toUInt32_eq_zero hcount.symm)
          have hjoined : line = joined texts :=
            String.toList_inj.mp ((hholds.unique hholds').trans (toList_joined texts).symm)
          have hends := hends (Or.inr hne)
          rw [List.nil_append, ← toList_joined] at hends
          have hlength : contents.length = b.cells.length :=
            hlen.trans (hcells.trans List.length_replicate).symm
          have hread := hends.cString (hstrings.not_mem_joined htexts) hlength behind
          rw [Option.map_some, hread, ← hjoined]
          exact hline

/-! ## What is written -/

section Written

variable {e : AuditEvent} {r : AuditRecord} (hgoto : e.goto AUDIT_EXECVE_RECORD_TYPE = .ok r)

include hgoto in
/-- A line that ends is written, whatever the memory held. -/
theorem readCommandLineIn_eq {malloc : Bool} {b : CommandBuffer} {line : String}
    (hb : commandBuffer malloc r = some b) (hends : b.Ends line.toList) (hnul : nul ∉ line.toList)
    {contents : List Char} (hlen : contents.length = b.cells.length) (write : Bool)
    (behind : List Char) (processEventPayload : JsonObjectWriter) :
    readCommandLineIn malloc write contents behind e processEventPayload
      = if write then
          .ok (processEventPayload.writeString PROCESS_CREATION_COMMAND_LINE_KEY line)
        else .error .exception := by
  unfold readCommandLineIn
  rw [hgoto]
  dsimp only
  rw [hb]
  dsimp only
  rw [hends.cString hnul hlen]

include hgoto in
theorem readCommandLineIn_none {malloc : Bool} (hb : commandBuffer malloc r = none) (write : Bool)
    (contents behind : List Char) (processEventPayload : JsonObjectWriter) :
    readCommandLineIn malloc write contents behind e processEventPayload = .error .exception := by
  unfold readCommandLineIn
  rw [hgoto]
  dsimp only
  rw [hb]

end Written

/-- What is written of two texts tells them apart. -/
theorem writeString_injective {text text' : String}
    (h : JsonObjectWriter.init.writeString PROCESS_CREATION_COMMAND_LINE_KEY text
      = JsonObjectWriter.init.writeString PROCESS_CREATION_COMMAND_LINE_KEY text') :
    text = text' := by
  have hmembers := congrArg JsonObjectWriter.rootObject h
  exact Json.string.inj (Prod.mk.inj (List.cons.inj hmembers).1).2

section Exactly

variable {e : AuditEvent} {r : AuditRecord} {maxLen : Nat} {argCount : Int32}

/-- With no arguments nothing has been written, and so nothing can be read. -/
theorem Assembles.argCount_ne_zero (h : Assembles e)
    (hgoto : e.goto AUDIT_EXECVE_RECORD_TYPE = .ok r) (hmaxLen : r.maxRecordLength = .ok maxLen)
    (hargCount : r.readInt AUDIT_ARGC = .ok argCount) : argCount ≠ 0 := by
  rintro rfl
  obtain ⟨line, hline⟩ := h.written true r _ hgoto (commandBuffer_eq hmaxLen hargCount)
  cases (readTo_fresh maxLen).symm.trans hline

/-- What has been read is written, and so it has to be the arguments. -/
theorem Assembles.readsArguments (h : Assembles e) (hr : CStrings r)
    (hgoto : e.goto AUDIT_EXECVE_RECORD_TYPE = .ok r) (hmaxLen : r.maxRecordLength = .ok maxLen)
    (hargCount : r.readInt AUDIT_ARGC = .ok argCount) : ReadsArguments r maxLen argCount := by
  intro texts hcount htexts hfits
  have hzero := h.argCount_ne_zero hgoto hmaxLen hargCount
  have hne : texts ≠ [] := by
    rintro rfl
    exact hzero (toNat_toUInt32_eq_zero hcount.symm)
  have hpieces : pieces 0 texts ≠ [] := by
    cases texts with
    | nil => exact absurd rfl hne
    | cons text rest => exact List.cons_ne_nil _ _
  have hroom : Room (CommandBuffer.allocated maxLen).currentBufferSize (pieces 0 texts) := by
    refine (room_iff hpieces).mpr ⟨?_, hfits.2⟩
    have hlen := hfits.1
    rw [← String.length_toList, toList_joined] at hlen
    exact hlen
  obtain ⟨b, hb⟩ := appendArguments_of_room htexts hroom
  rw [hcount, ← commandBuffer_eq hmaxLen hargCount] at hb
  obtain ⟨_, _, texts', hmaxLen', hargCount', hcount', htexts', hcells, hends⟩ :=
    commandBuffer_holds hb
  cases hmaxLen.symm.trans hmaxLen'
  cases hargCount.symm.trans hargCount'
  obtain rfl := htexts.unique htexts' (hcount.trans hcount'.symm)
  have hzeros : (List.replicate maxLen nul).length = b.cells.length := by
    rw [List.length_replicate, hcells]
  have hwritten := readCommandLineIn_eq hgoto hb (hends hne).2 (hr.not_mem_joined htexts) hzeros
    true [] JsonObjectWriter.init
  obtain ⟨args, hargs, heq⟩ := h.joins true true (List.replicate maxLen nul) [] r maxLen
    JsonObjectWriter.init _ hgoto hmaxLen List.length_replicate hwritten
  exact ⟨args, hargs, (writeString_injective heq).symm⟩

/-- What is in the buffer if the loop gets to its end. -/
theorem commandBuffer_arguments (hr : CStrings r)
    (h : ∀ maxLen argCount, r.maxRecordLength = .ok maxLen → r.readInt AUDIT_ARGC = .ok argCount →
      argCount ≠ 0 ∧ ((0 < argCount.toInt ∧ argCount.toInt ≤ 100000000)
        ∨ ReadsArguments r maxLen argCount))
    {malloc : Bool} {b : CommandBuffer} (hb : commandBuffer malloc r = some b) :
    ∃ args, Arguments r args ∧ b.Ends (joined args).toList ∧ nul ∉ (joined args).toList
      ∧ r.maxRecordLength = .ok b.cells.length := by
  obtain ⟨maxLen, argCount, texts, hmaxLen, hargCount, hcount, htexts, hcells, hends⟩ :=
    commandBuffer_holds hb
  obtain ⟨hzero, hnames⟩ := h maxLen argCount hmaxLen hargCount
  have hne : texts ≠ [] := by
    rintro rfl
    exact hzero (toNat_toUInt32_eq_zero hcount.symm)
  obtain ⟨hfits, hends⟩ := hends hne
  have hnul := hr.not_mem_joined htexts
  have hlength : r.maxRecordLength = .ok b.cells.length := hcells ▸ hmaxLen
  rcases hnames with ⟨hpos, hle⟩ | hnames
  · have hint := toNat_toUInt32 hpos
    rw [← hcount] at hint
    have hargs := htexts.of_argumentName (by omega)
    exact ⟨texts, ⟨argCount, hargCount, hint, hargs⟩, hends, hnul, hlength⟩
  · obtain ⟨args, hargs, heq⟩ := hnames texts hcount htexts hfits
    rw [← heq] at hends hnul
    exact ⟨args, hargs, hends, hnul, hlength⟩

end Exactly

/--
**Exactly when the command line is put together from the record alone**: wherever the number of
arguments is read, it is not zero; and if it is negative, or more than 100000000, either the loop
does not get to its end (a text is missing, or there is no room), or the texts it reads come to the
arguments all the same.
-/
theorem assembles_iff {e : AuditEvent}
    (hstrings : ∀ r, e.goto AUDIT_EXECVE_RECORD_TYPE = .ok r → CStrings r) :
    Assembles e ↔ ∀ r, e.goto AUDIT_EXECVE_RECORD_TYPE = .ok r → ∀ maxLen argCount,
      r.maxRecordLength = .ok maxLen → r.readInt AUDIT_ARGC = .ok argCount →
      argCount ≠ 0 ∧ ((0 < argCount.toInt ∧ argCount.toInt ≤ 100000000)
        ∨ ReadsArguments r maxLen argCount) := by
  constructor
  · intro h r hgoto maxLen argCount hmaxLen hargCount
    exact ⟨h.argCount_ne_zero hgoto hmaxLen hargCount,
      Or.inr (h.readsArguments (hstrings r hgoto) hgoto hmaxLen hargCount)⟩
  · intro h
    constructor
    · intro malloc r b hgoto hb
      obtain ⟨args, -, hends, hnul, -⟩ :=
        commandBuffer_arguments (hstrings r hgoto) (h r hgoto) hb
      exact ⟨_, hends.readTo hnul⟩
    · intro malloc write contents contents' behind behind' r maxLen payload hgoto hmaxLen hlen hlen'
      cases hb : commandBuffer malloc r with
      | none => rw [readCommandLineIn_none hgoto hb, readCommandLineIn_none hgoto hb]
      | some b =>
          obtain ⟨args, -, hends, hnul, hmaxLen'⟩ :=
            commandBuffer_arguments (hstrings r hgoto) (h r hgoto) hb
          cases hmaxLen.symm.trans hmaxLen'
          rw [readCommandLineIn_eq hgoto hb hends hnul hlen,
            readCommandLineIn_eq hgoto hb hends hnul hlen']
    · intro malloc write contents behind r maxLen payload written hgoto hmaxLen hlen hwritten
      cases hb : commandBuffer malloc r with
      | none =>
          rw [readCommandLineIn_none hgoto hb] at hwritten
          cases hwritten
      | some b =>
          obtain ⟨args, hargs, hends, hnul, hmaxLen'⟩ :=
            commandBuffer_arguments (hstrings r hgoto) (h r hgoto) hb
          cases hmaxLen.symm.trans hmaxLen'
          rw [readCommandLineIn_eq hgoto hb hends hnul hlen] at hwritten
          cases write with
          | false => cases hwritten
          | true => exact ⟨args, hargs, (Except.ok.inj hwritten).symm⟩

theorem shRun_assembles : Assembles (shRun ⟨0, 0⟩) := by
  refine (assembles_iff ?_).mpr ?_
  · rintro r hgoto name text htext
    cases hgoto
    cases htext
    decide
  · rintro r hgoto maxLen argCount - hargCount
    cases hgoto
    cases hargCount
    exact ⟨by decide, Or.inl ⟨by decide, by decide⟩⟩

/-- An `execve` without arguments, which is not even given a name. -/
def emptyRun : AuditEvent :=
  { shRun ⟨0, 0⟩ with
    records := [⟨true, 1309, some "type=EXECVE argc=0",
      fun name => if name = AUDIT_ARGC then .found ⟨some "0", some 0, some "0"⟩ else .notFound⟩] }

/-- **The memory's bytes are taken for a command line** where there are no arguments. -/
theorem emptyRun_not_assembles :
    ¬ ∀ e : AuditEvent, (∀ r, e.goto AUDIT_EXECVE_RECORD_TYPE = .ok r → CStrings r) →
      Assembles e := by
  intro h
  have hassembles : Assembles emptyRun := by
    refine h emptyRun ?_
    rintro r hgoto name text htext
    cases hgoto
    -- its one field is the number of the arguments
    by_cases hname : name = AUDIT_ARGC
    · subst hname
      cases htext
      decide
    · have hnot : emptyRun.records.head?.map (fun r => r.interpretString name)
          = some (.error .fieldDoesNotExist) := by
        show some (AuditSearchUtils.interpretString (if name = AUDIT_ARGC then _ else _)) = _
        rw [if_neg hname]
        rfl
      cases (Option.some.inj hnot).symm.trans htext
  obtain ⟨line, hline⟩ := hassembles.written true _ _ rfl rfl
  cases (readTo_fresh 18).symm.trans hline

end ProcessCreationCollector

end SecurityAgent
