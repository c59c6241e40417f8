import SecurityAgent.Ports.ListeningPortsIterator

/-!
# The lines of the tables

A table under `/proc/net` has a line for each socket. The kernel prints an address four bytes at a
time, each four as the word they are on this machine, in eight hexadecimal digits: eight digits in
the tables of IPv4, thirty-two in those of IPv6. What is scanned of such a line is
always what stands there.
-/

namespace SecurityAgent

open Inet Scanf ListeningPortsIterator

inductive Family where
  | inet
  | inet6
  deriving DecidableEq

/-- An address of a family. -/
inductive Address : Family → Type where
  | inet (q : Quad) : Address .inet
  | inet6 (q₀ q₁ q₂ q₃ : Quad) : Address .inet6
  deriving DecidableEq

namespace Address

variable {family : Family}

def quads : Address family → List Quad
  | inet q => [q]
  | inet6 q₀ q₁ q₂ q₃ => [q₀, q₁, q₂, q₃]

/-- The text of an address: `inet_ntop` with the family that it is of. -/
def text : Address family → String
  | inet q => String.ofList (ntop4 q)
  | inet6 q₀ q₁ q₂ q₃ => String.ofList (ntop6 q₀ q₁ q₂ q₃)

/-- An address as the kernel prints it. -/
def procText (endianness : Endianness) (address : Address family) : List Char :=
  address.quads.flatMap fun q => hexDigits 8 (endianness.load q).toNat

theorem isHexText_procText (endianness : Endianness) (address : Address family) :
    IsHexText (address.procText endianness) := by
  intro c hc
  obtain ⟨q, -, hq⟩ := List.mem_flatMap.mp hc
  exact mem_hexDigits hq

theorem length_procText (endianness : Endianness) (address : Address family) :
    2 ≤ (address.procText endianness).length ∧ (address.procText endianness).length ≤ 64 := by
  have hlength : (address.procText endianness).length = address.quads.length * 8 := by
    unfold procText
    rw [List.length_flatMap, List.map_congr_left fun q _ => length_hexDigits 8 _]
    simp
  have hquads : 1 ≤ address.quads.length ∧ address.quads.length ≤ 4 := by
    cases address with
    | inet q => exact ⟨Nat.le_refl 1, Nat.le_add_left 1 3⟩
    | inet6 q₀ q₁ q₂ q₃ => exact ⟨Nat.le_add_left 1 3, Nat.le_refl 4⟩
  omega

end Address

/-- A column of a line that is read word by word, and the blanks it is aligned with. -/
structure Column where
  blanks : Nat
  word : List Char
  isWord : IsWord word

/-- A column as it is printed, with what separates it from the one before. -/
def Column.text (column : Column) : List Char :=
  ' ' :: (List.replicate column.blanks ' ' ++ column.word)

/-- What a line says of a socket. -/
structure ProcEntry (family : Family) where
  /-- How far `sl` is indented. -/
  indent : Nat
  /-- `sl`. -/
  slot : Nat
  localAddress : Address family
  localPort : UInt16
  remoteAddress : Address family
  remotePort : UInt16
  /-- `st`. -/
  state : UInt8
  /-- The queues, the timers, the retransmissions, the owner and the timeout. -/
  columns : List Column
  length_columns : columns.length = 5
  inode : Column
  length_inode : inode.word.length < MAX_INODE_LENGTH
  /-- What the kernel knows besides. -/
  rest : List Char
  newline_not_mem_rest : '\n' ∉ rest

namespace ProcEntry

variable {family : Family}

/-- The line without its end. -/
def text (endianness : Endianness) (entry : ProcEntry family) : List Char :=
  List.replicate entry.indent ' ' ++ Nat.toDigits 10 entry.slot ++ ':' :: ' ' ::
    (entry.localAddress.procText endianness ++ ':' :: (hexDigits 4 entry.localPort.toNat ++ ' ' ::
    (entry.remoteAddress.procText endianness ++ ':' :: (hexDigits 4 entry.remotePort.toNat ++ ' ' ::
    (hexDigits 2 entry.state.toNat ++
    (entry.columns.flatMap Column.text ++ (entry.inode.text ++ ' ' :: entry.rest)))))))

end ProcEntry

/-- A line that is no longer than a buffer is for it. -/
structure ProcLine (endianness : Endianness) (family : Family) extends ProcEntry family where
  length_text : (toProcEntry.text endianness).length < MAX_LINE_LENGTH - 1

/-! ## No line ends before its end -/

theorem newline_not_mem_hex {text : List Char} (h : IsHexText text) : '\n' ∉ text := fun hc =>
  absurd (h.not_blank _ hc) (by decide)

theorem newline_not_mem_column (column : Column) : '\n' ∉ column.text := by
  intro h
  rcases List.mem_cons.mp h with h | h
  · exact absurd h (by decide)
  · rcases List.mem_append.mp h with hblank | hword
    · exact absurd (List.eq_of_mem_replicate hblank) (by decide)
    · exact absurd (column.isWord.2 _ hword) (by decide)

theorem ProcEntry.newline_not_mem_text {family : Family} (endianness : Endianness)
    (entry : ProcEntry family) : '\n' ∉ entry.text endianness := by
  have hslot : '\n' ∉ Nat.toDigits 10 entry.slot := Separated.free_toDigits (by decide) _
  have hindent : '\n' ∉ List.replicate entry.indent ' ' := fun h =>
    absurd (List.eq_of_mem_replicate h) (by decide)
  have hlocal := newline_not_mem_hex (entry.localAddress.isHexText_procText endianness)
  have hremote := newline_not_mem_hex (entry.remoteAddress.isHexText_procText endianness)
  have hhex := fun k n => newline_not_mem_hex (isHexText_hexDigits k n)
  have hblank : '\n' ≠ ' ' := by decide
  have hcolon : '\n' ≠ ':' := by decide
  have hcolumns : '\n' ∉ entry.columns.flatMap Column.text := fun h => by
    obtain ⟨column, -, hcolumn⟩ := List.mem_flatMap.mp h
    exact newline_not_mem_column column hcolumn
  unfold ProcEntry.text
  simp only [List.mem_append, List.mem_cons, not_or]
  exact ⟨⟨hindent, hslot⟩, hcolon, hblank, hlocal, hcolon, hhex _ _, hblank, hremote, hcolon,
    hhex _ _, hblank, hhex _ _, hcolumns, newline_not_mem_column _, hblank,
    entry.newline_not_mem_rest⟩

/-! ## Scanning a line -/

theorem scan_blank (format : List Directive) {rest : List Char} (hrest : Stops isBlank rest) :
    scan (.blanks :: format) (' ' :: rest) = scan format rest := by
  have hblank : ∀ c ∈ [' '], isBlank c = true := fun c hc => by
    rw [List.mem_singleton.mp hc]
    rfl
  exact scan_cons (read_blanks hblank hrest)

/-- An address, its port, and the blank behind it. -/
theorem scan_socket {family : Family} (endianness : Endianness) (address : Address family)
    (port : UInt16) (format : List Directive) {rest : List Char} (hrest : Stops isBlank rest) :
    scan (.set 64 isHex :: .char ':' :: .hexInt :: .blanks :: format)
        (address.procText endianness ++ ':' :: (hexDigits 4 port.toNat ++ ' ' :: rest))
      = .text (address.procText endianness) :: .number port.toUInt32 :: scan format rest := by
  obtain ⟨hlow, hhigh⟩ := address.length_procText endianness
  have hne : address.procText endianness ≠ [] := List.ne_nil_of_length_pos (by omega)
  have hset := read_set hne hhigh (address.isHexText_procText endianness).isHex
    (Stops.cons (show isHex ':' = false from rfl) (hexDigits 4 port.toNat ++ ' ' :: rest))
  have hport := port.toNat_lt
  have hnumber : UInt32.ofNat port.toNat = port.toUInt32 := by
    rw [← UInt32.toNat_inj, UInt32.toNat_ofNat', UInt16.toNat_toUInt32]
    omega
  rw [scan_cons hset, scan_cons (read_char ':'),
    scan_hexDigits (by omega) (by omega) (by omega) _
      (Stops.cons (show isHex ' ' = false from rfl) rest),
    scan_blank _ hrest, hnumber]
  rfl

/-- A column is read where a word is asked for. -/
theorem read_column (column : Column) (rest : List Char) :
    Directive.blanks.read (column.text ++ rest) = some ([], column.word ++ rest) := by
  have hblank : ∀ c ∈ ' ' :: List.replicate column.blanks ' ', isBlank c = true := by
    intro c hc
    rcases List.mem_cons.mp hc with rfl | hc
    · rfl
    · rw [List.eq_of_mem_replicate hc]
      rfl
  have htext : column.text ++ rest
      = (' ' :: List.replicate column.blanks ' ') ++ (column.word ++ rest) := by
    unfold Column.text
    rw [List.cons_append, List.append_assoc, List.cons_append]
  rw [htext]
  exact read_blanks hblank (column.isWord.stops.append column.isWord.1 rest)

/-- The columns that nobody asks for are skipped, one after the other. -/
theorem scan_columns (format : List Directive) {rest : List Char}
    (hrest : ∀ c ∈ rest.head?, isBlank c = true) : ∀ columns : List Column,
    scan ((List.replicate columns.length [Directive.blanks, .skipWord]).flatten ++ format)
      (columns.flatMap Column.text ++ rest) = scan format rest := by
  intro columns
  induction columns with
  | nil => rfl
  | cons column columns ih =>
      have hnext : ∀ c ∈ (columns.flatMap Column.text ++ rest).head?, isBlank c = true := by
        cases columns with
        | nil => exact hrest
        | cons next others =>
            intro c hc
            have hblank : c = ' ' := (Option.mem_some_iff.mp hc).symm
            rw [hblank]
            rfl
      have hskip := read_skipWord column.isWord hnext
      rw [List.flatMap_cons, List.append_assoc]
      exact (scan_cons (read_column column _)).trans ((scan_cons hskip).trans ih)

/-- Nothing is assigned after the inode. -/
theorem scan_end (text : List Char) : scan [.blanks, .skipWord, .blanks] text = [] := by
  have hblanks : Directive.blanks.read text = some ([], text.dropWhile isBlank) := rfl
  rw [scan_cons hblanks, List.nil_append]
  rcases skipWord_assigns (text.dropWhile isBlank) with hfails | ⟨rest, hskips⟩
  · rw [scan, hfails]
  · rw [scan_cons hskips]
    rfl

/-- Of the columns behind the state, the inode is kept. -/
theorem scan_inode (columns : List Column) (inode : Column) (rest : List Char) :
    scan ((List.replicate columns.length [Directive.blanks, .skipWord]).flatten
        ++ .blanks :: .word :: [.blanks, .skipWord, .blanks])
      (columns.flatMap Column.text ++ (inode.text ++ ' ' :: rest)) = [.text inode.word] := by
  have hinode : ∀ c ∈ (inode.text ++ ' ' :: rest).head?, isBlank c = true := fun c hc => by
    rw [← Option.mem_some_iff.mp hc]
    rfl
  have hword : ∀ c ∈ (' ' :: rest).head?, isBlank c = true := fun c hc => by
    rw [← Option.mem_some_iff.mp hc]
    rfl
  rw [scan_columns _ hinode, scan_cons (read_column _ _), scan_cons (read_word inode.isWord hword),
    scan_end]
  rfl

/-- A column begins with a blank. -/
theorem stops_columns (columns : List Column) (inode : Column) (rest : List Char) :
    Stops isHex (columns.flatMap Column.text ++ (inode.text ++ rest)) := by
  cases columns with
  | nil => exact Stops.cons (show isHex ' ' = false from rfl) _
  | cons column columns => exact Stops.cons (show isHex ' ' = false from rfl) _

/-- **What is scanned of a line is what it says.** -/
theorem scan_line {family : Family} (endianness : Endianness) (entry : ProcEntry family) :
    scan PROC_LINE_FORMAT (entry.text endianness ++ ['\n'])
      = [.text (entry.localAddress.procText endianness), .number entry.localPort.toUInt32,
          .text (entry.remoteAddress.procText endianness), .number entry.remotePort.toUInt32,
          .number entry.state.toUInt32, .text entry.inode.word] := by
  have hformat : PROC_LINE_FORMAT = .skipInt :: .char ':' :: .blanks :: .set 64 isHex :: .char ':'
      :: .hexInt :: .blanks :: .set 64 isHex :: .char ':' :: .hexInt :: .blanks :: .hexInt ::
      ((List.replicate 5 [Directive.blanks, .skipWord]).flatten
        ++ .blanks :: .word :: [.blanks, .skipWord, .blanks]) := rfl
  have hhex : ∀ (address : Address family) (rest : List Char),
      Stops isBlank (address.procText endianness ++ rest) := fun address rest => by
    have hlen := (address.length_procText endianness).1
    exact (address.isHexText_procText endianness).stops (by omega) rest
  have hdigits : ∀ c ∈ Nat.toDigits 10 entry.slot, c.isDigit = true := fun _ hc =>
    Separated.isDigit_toDigits hc
  have hindent : ∀ c ∈ List.replicate entry.indent ' ', isBlank c = true := fun c hc => by
    rw [List.eq_of_mem_replicate hc]
    rfl
  have hstate : entry.state.toNat < 256 := entry.state.toNat_lt
  have hstateNumber : UInt32.ofNat entry.state.toNat = entry.state.toUInt32 := by
    rw [← UInt32.toNat_inj, UInt32.toNat_ofNat', UInt8.toNat_toUInt32]
    omega
  rw [hformat, ← entry.length_columns]
  unfold ProcEntry.text
  simp only [List.append_assoc, List.cons_append]
  -- directive by directive, each with the text that was printed for it
  rw [← List.append_assoc (List.replicate _ _) (Nat.toDigits _ _) _,
    scan_cons (read_skipInt hindent Nat.toDigits_ne_nil hdigits
      (Stops.cons (show Char.isDigit ':' = false from rfl) _)),
    scan_cons (read_char ':'), scan_blank _ (hhex _ _), scan_socket _ _ _ _ (hhex _ _),
    scan_socket _ _ _ _ ((isHexText_hexDigits 2 _).stops (by rw [length_hexDigits]; decide) _),
    scan_hexDigits (by omega) (by omega) (by omega) _ (stops_columns _ _ _), scan_inode,
    hstateNumber]
  rfl

/-! ## The iterator at a line -/

/-- What the iterator holds of a line, with the lines that are left. -/
def ProcEntry.iterator {family : Family} (endianness : Endianness) (entry : ProcEntry family)
    (procFile : List Char) : ListeningPortsIterator :=
  ⟨procFile, String.ofList (entry.localAddress.procText endianness),
    entry.localPort.toUInt32.toInt32, String.ofList (entry.remoteAddress.procText endianness),
    entry.remotePort.toUInt32.toInt32, String.ofList entry.inode.word⟩

/-- **The next line is read, whatever has been read before.** -/
theorem getNext_line {endianness : Endianness} {family : Family} (o : ProcOutcome)
    (line : ProcLine endianness family) (iterator : ListeningPortsIterator) (procFile : List Char)
    (hfile : iterator.procFile = line.text endianness ++ '\n' :: procFile) :
    getNext o iterator = if o.read iterator.procFile = true
      then (.hasNext, line.iterator endianness procFile) else (.exception, iterator) := by
  have hline := fgets_line (line.newline_not_mem_text endianness) procFile line.length_text
  have hscan := scan_line endianness line.toProcEntry
  unfold getNext
  cases hread : o.read iterator.procFile with
  | false => rfl
  | true =>
      have hne : iterator.procFile ≠ [] := by
        rw [hfile]
        exact List.append_ne_nil_of_right_ne_nil _ (List.cons_ne_nil _ _)
      rw [if_neg Bool.true_eq_false.mp, if_neg hne, if_pos rfl, hfile, hline]
      dsimp only
      rw [hscan]
      rfl

/-! ## What is made of an address -/

namespace Address

variable {family : Family}

/-- The text that is made of what is scanned of an address. -/
def scannedText (endianness : Endianness) (address : Address family) : String :=
  String.ofList (ntop4 (endianness.store
    (UInt32.ofNat (min (valueOf (address.procText endianness)) ULONG_MAX))))

/-- Eight digits are the word that they were printed of. -/
theorem scannedText_inet (endianness : Endianness) (q : Quad) :
    (inet q).scannedText endianness = (inet q).text := by
  have hword := (endianness.load q).toNat_lt
  have hprinted : (inet q).procText endianness = hexDigits 8 (endianness.load q).toNat :=
    List.append_nil _
  -- the word has 32 bits, so that nothing is cut off
  have hvalue : min (valueOf ((inet q).procText endianness)) ULONG_MAX
      = (endianness.load q).toNat := by
    rw [hprinted, valueOf_hexDigits]
    unfold ULONG_MAX
    omega
  unfold scannedText
  rw [hvalue, UInt32.ofNat_toNat, endianness.store_load]
  rfl

/-- **The text of an address is what is scanned of it if and only if it has four bytes.** -/
theorem scannedText_eq_iff (endianness : Endianness) (address : Address family) :
    address.scannedText endianness = address.text ↔ family = .inet := by
  cases address with
  | inet q => exact iff_of_true (scannedText_inet endianness q) rfl
  | inet6 q₀ q₁ q₂ q₃ =>
      refine iff_of_false (fun h => ?_) (fun h => Family.noConfusion h)
      exact ntop4_ne_ntop6 _ q₀ q₁ q₂ q₃ (String.ofList_injective h)

/-- Addresses of four bytes that have the same text are the same. -/
theorem quads_of_text_eq {family' : Family} {address : Address family} {address' : Address family'}
    (hfamily : family = .inet) (hfamily' : family' = .inet) (h : address.text = address'.text) :
    address.quads = address'.quads := by
  cases address with
  | inet q =>
      cases address' with
      | inet q' => rw [ntop4_injective (String.ofList_injective h)]
      | inet6 q₀ q₁ q₂ q₃ => exact Family.noConfusion hfamily'
  | inet6 q₀ q₁ q₂ q₃ => exact Family.noConfusion hfamily

end Address

end SecurityAgent
