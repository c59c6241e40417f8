import SecurityAgent.Lib.Inet
import SecurityAgent.Lib.Scanf
import SecurityAgent.Util.Utils

/-!
# The tables of the kernel: `listening_ports_iterator.c`

An iterator goes through the lines of one table under `/proc/net`. What it has read of a line it
keeps as it stands there, and what it is asked for it writes to a buffer of its
caller's.
-/

namespace SecurityAgent

open Inet Scanf Utils

/-- `ListeningPortsIteratorResults`, of `ListenintPortsIterator_GetNext`. -/
inductive ListeningPortsIteratorResults where
  | hasNext
  | noMoreData
  | exception
  deriving DecidableEq

/-- What the system answers about a table. -/
structure ProcOutcome where
  malloc : Bool
  /-- The file of a name, as the kernel prints it; `none` where it cannot be opened. -/
  fopen : String → Option (List Char)
  /-- Whether reading succeeds, by what is left to be read. -/
  read : List Char → Bool

/-- `ListeningPortsIterator`. -/
structure ListeningPortsIterator where
  /-- What is left of the file. -/
  procFile : List Char
  localAddress : String
  localPort : Int32
  remoteAddress : String
  remotePort : Int32
  inode : String

/-- A process, by the name of its directory: what `Utils_IsStringNumeric` lets pass. -/
structure Pid where
  text : String
  isDigit : ∀ c ∈ text.toList, c.isDigit = true
  ne_empty : text ≠ ""
  /-- There is room for it in a `dirent`. -/
  length_lt : text.length < 256

/-- `fgets`, with the room that is left for it: what it has read, and what is left. -/
def fgets : Nat → List Char → List Char × List Char
  | 0, file => ([], file)
  | _ + 1, [] => ([], [])
  | room + 1, c :: rest =>
      if c = '\n' then ([c], rest) else (c :: (fgets room rest).1, (fgets room rest).2)

theorem fgets_line {line : List Char} (hline : '\n' ∉ line) (rest : List Char) :
    ∀ {room : Nat}, line.length < room → fgets room (line ++ '\n' :: rest) = (line ++ ['\n'], rest) := by
  induction line with
  | nil =>
      intro room hroom
      obtain ⟨room, rfl⟩ := Nat.exists_eq_succ_of_ne_zero (Nat.ne_of_gt hroom)
      exact if_pos rfl
  | cons c cs ih =>
      intro room hroom
      obtain ⟨room, rfl⟩ := Nat.exists_eq_succ_of_ne_zero (Nat.ne_of_gt (Nat.zero_lt_of_lt hroom))
      have hc : c ≠ '\n' := fun h => hline (h ▸ List.mem_cons_self)
      have hcs := ih (fun h => hline (List.mem_cons_of_mem _ h)) (Nat.lt_of_succ_lt_succ hroom)
      rw [List.cons_append, fgets, if_neg hc, hcs]
      rfl

namespace ListeningPortsIterator

def MAX_NET_PORT_LENGTH : Nat := 20
def MAX_LINE_LENGTH : Nat := 8192
def MAX_INODE_LENGTH : Nat := 20
def MAX_PROC_FILE_NAME_LENGTH : Nat := 20
def ANY_PORT : String := "*"
def PORTS_PROC_FILE : String := "/proc/net/"

/-- `%*d: %64[0-9A-Fa-f]:%X %64[0-9A-Fa-f]:%X %X %*s %*s %*s %*s %*s %s %*s\n`. -/
def PROC_LINE_FORMAT : List Directive :=
  [.skipInt, .char ':', .blanks, .set 64 isHex, .char ':', .hexInt, .blanks, .set 64 isHex,
    .char ':', .hexInt, .blanks, .hexInt, .blanks, .skipWord, .blanks, .skipWord, .blanks,
    .skipWord, .blanks, .skipWord, .blanks, .skipWord, .blanks, .word, .blanks, .skipWord, .blanks]

/-- The name of the file, cut to the buffer for it. -/
def procFileName (protocolType : String) : String :=
  String.ofList ((PORTS_PROC_FILE ++ protocolType).toList.take (MAX_PROC_FILE_NAME_LENGTH - 1))

/-- `ListenintPortsIterator_Init`, if it succeeds. The headers line is skipped; a file that ends
before it is a table without lines. -/
def init (o : ProcOutcome) (protocolType : String) : Option ListeningPortsIterator :=
  if o.malloc = false then none
  else
    (o.fopen (procFileName protocolType)).bind fun procFile =>
      if o.read procFile = false then none
      else some ⟨(fgets (MAX_LINE_LENGTH - 1) procFile).2, "", 0, "", 0, ""⟩

/-- `ListenintPortsIterator_GetNext`. Nobody looks at what a line has left that is not scanned to the
end. -/
def getNext (o : ProcOutcome) (iterator : ListeningPortsIterator) :
    ListeningPortsIteratorResults × ListeningPortsIterator :=
  if o.read iterator.procFile = false then (.exception, iterator)
  else if iterator.procFile = [] then (.noMoreData, iterator)
  else
    let (currentLine, rest) := fgets (MAX_LINE_LENGTH - 1) iterator.procFile
    match scan PROC_LINE_FORMAT currentLine with
    | [.text localAddress, .number localPort, .text remoteAddress, .number remotePort, .number _,
        .text inode] =>
        (.hasNext, ⟨rest, String.ofList localAddress, localPort.toInt32,
          String.ofList remoteAddress, remotePort.toInt32, String.ofList inode⟩)
    | _ => (.exception, { iterator with procFile := rest })

variable {size : Nat}

/-- `inet_ntop` with `AF_INET`, to a buffer of this size. -/
def inetNtop (q : Quad) (dst : CharArray size) : Option (CharArray size) :=
  if (ntop4 q).length < size then some (dst.overwrite (ntop4 q ++ [nul])) else none

/-- `ListeningPortsIterator_GetAddress`. The number that is scanned is stored as an `int`. -/
def getAddress (endianness : Endianness) (srcAddress : String) (destAddress : CharArray size) :
    Option (CharArray size) :=
  match scan [.hexInt] srcAddress.toList with
  | [.number s_addr] => inetNtop (endianness.store s_addr) destAddress
  | _ => none

/-- `ListenintPortsIterator_GetPort`. -/
def getPort (port : Int32) (buffer : CharArray size) : Option (CharArray size) :=
  (if port = 0 then some ANY_PORT else integerToString port MAX_NET_PORT_LENGTH).bind fun srcPort =>
    buffer.copyBytes srcPort (UInt32.ofNat srcPort.length) (UInt32.ofNat size)

/-- `ListenintPortsIterator_GetLocalAddress`. -/
def getLocalAddress (endianness : Endianness) (iterator : ListeningPortsIterator) :
    CharArray size → Option (CharArray size) :=
  getAddress endianness iterator.localAddress

/-- `ListenintPortsIterator_GetLocalPort`. -/
def getLocalPort (iterator : ListeningPortsIterator) : CharArray size → Option (CharArray size) :=
  getPort iterator.localPort

/-- `ListenintPortsIterator_GetRemoteAddress`. -/
def getRemoteAddress (endianness : Endianness) (iterator : ListeningPortsIterator) :
    CharArray size → Option (CharArray size) :=
  getAddress endianness iterator.remoteAddress

/-- `ListenintPortsIterator_GetRemotePort`. -/
def getRemotePort (iterator : ListeningPortsIterator) : CharArray size → Option (CharArray size) :=
  getPort iterator.remotePort

/-- `ListenintPortsIterator_GetPid`. Where the map has no process, the buffer stays as it is. -/
def getPid (iterator : ListeningPortsIterator) (pid : CharArray size) (pidLength : UInt32)
    (inodesMap : String → Option Pid) : Option (CharArray size) :=
  match inodesMap iterator.inode with
  | none => some pid
  | some iteratorPid =>
      pid.copyBytes iteratorPid.text (UInt32.ofNat iteratorPid.text.length) pidLength

/-! ## What is written -/

/-- The text of an address that is scanned from hexadecimal digits. -/
theorem getAddress_eq (endianness : Endianness) {srcAddress : List Char}
    (hhex : IsHexText srcAddress) (hlen : 2 ≤ srcAddress.length) (destAddress : CharArray size)
    (hsize : 16 ≤ size) :
    ∃ written, getAddress endianness (String.ofList srcAddress) destAddress = some written
      ∧ written.text = String.ofList (ntop4 (endianness.store
          (UInt32.ofNat (min (valueOf srcAddress) ULONG_MAX)))) := by
  have hscan := scan_hexInt hhex hlen
  generalize hq : endianness.store (UInt32.ofNat (min (valueOf srcAddress) ULONG_MAX)) = q
  have hshort := length_ntop4_le q
  have hfit : (ntop4 q).length < size := by omega
  have hnul : nul ∉ (String.ofList (ntop4 q)).toList := by
    rw [String.toList_ofList]
    intro h
    rcases mem_ntop4 h with hdigit | hdot
    · exact absurd hdigit (by decide)
    · exact absurd hdot (by decide)
  have htext : (destAddress.overwrite (ntop4 q ++ [nul])).text = String.ofList (ntop4 q) := by
    have hlength : (String.ofList (ntop4 q)).length < size := by
      rw [String.length_ofList]
      exact hfit
    have hwritten : (destAddress.overwrite ((String.ofList (ntop4 q)).toList ++ [nul])).text
        = String.ofList (ntop4 q) := CharArray.text_overwrite hnul hlength
    rwa [String.toList_ofList] at hwritten
  refine ⟨_, ?_, htext⟩
  unfold getAddress inetNtop
  rw [String.toList_ofList, hscan]
  dsimp only
  rw [hq, if_pos hfit]

/-- A text that fits is copied, and an array that was empty holds it then. -/
theorem copyBytes_zero {src : String} (hnul : nul ∉ src.toList) (destLength : UInt32)
    (hlen : src.length ≤ destLength.toNat) (hsize : destLength.toNat ≤ size) :
    ∃ written, (CharArray.zero : CharArray size).copyBytes src (UInt32.ofNat src.length) destLength
        = some written ∧ written.text = src := by
  have hroom := destLength.toNat_lt
  have hsrc : (UInt32.ofNat src.length).toNat = src.length := by
    rw [UInt32.toNat_ofNat']
    omega
  have hfit : ¬ destLength < UInt32.ofNat src.length := by
    rw [UInt32.lt_iff_toNat_lt, hsrc]
    omega
  have htake : src.toList.take (UInt32.ofNat src.length).toNat = src.toList := by
    rw [hsrc]
    exact List.take_of_length_le (Nat.le_of_eq String.length_toList)
  refine ⟨_, ?_, CharArray.text_overwrite_zero hnul (Nat.le_trans hlen hsize)⟩
  unfold CharArray.copyBytes
  rw [if_neg hfit, htake]

/-- The text of a port; where none is chosen it is any port. -/
def portText (port : UInt16) : String := if port = 0 then ANY_PORT else toString port.toNat

theorem nul_not_mem_portText (port : UInt16) : nul ∉ (portText port).toList := by
  unfold portText
  split
  · decide
  · exact not_mem_toString rfl port.toNat

theorem length_portText_le (port : UInt16) : (portText port).length ≤ 5 := by
  have hlt := port.toNat_lt
  unfold portText
  split
  · decide
  · exact length_toString_le (by omega) (by omega)

/-- What is copied for a port is its text. -/
theorem srcPort_eq (port : UInt16) :
    (if port.toUInt32.toInt32 = 0 then some ANY_PORT
      else integerToString port.toUInt32.toInt32 MAX_NET_PORT_LENGTH) = some (portText port) := by
  have hlt := port.toNat_lt
  have hint : port.toUInt32.toInt32.toInt = port.toNat := by
    rw [toInt_toInt32 (by rw [UInt16.toNat_toUInt32]; omega), UInt16.toNat_toUInt32]
  have hlen := length_portText_le port
  unfold portText at hlen ⊢
  by_cases h : port = 0
  · subst h
    rfl
  · have hne : port.toUInt32.toInt32 ≠ 0 := by
      intro hzero
      have hnat : port.toNat = 0 := by
        rw [hzero] at hint
        exact Int.ofNat.inj hint.symm
      exact h (UInt16.toNat_inj.mp hnat)
    rw [if_neg h] at hlen
    rw [if_neg hne, if_neg h]
    unfold integerToString
    rw [hint]
    exact if_neg (by
      show ¬ (toString port.toNat).length + 1 > 20
      omega)

/-- **A port of 16 bits is written as its text.** -/
theorem getPort_eq (port : UInt16) (hsize : 5 ≤ size) (hsize' : size < 2 ^ 32) :
    ∃ written, getPort port.toUInt32.toInt32 (CharArray.zero : CharArray size) = some written
      ∧ written.text = portText port := by
  have hdest : (UInt32.ofNat size).toNat = size := by
    rw [UInt32.toNat_ofNat']
    omega
  have hlen := length_portText_le port
  unfold getPort
  rw [srcPort_eq]
  exact copyBytes_zero (nul_not_mem_portText port) (UInt32.ofNat size) (by omega) (by omega)

/-- Nothing is written where there is no process. -/
theorem getPid_none (iterator : ListeningPortsIterator) {inodesMap : String → Option Pid}
    (h : inodesMap iterator.inode = none) (pid : CharArray size) (pidLength : UInt32) :
    iterator.getPid pid pidLength inodesMap = some pid := by
  unfold getPid
  rw [h]

/-- A number of a process is written if it fits. -/
theorem getPid_some (iterator : ListeningPortsIterator) {inodesMap : String → Option Pid} {pid : Pid}
    (h : inodesMap iterator.inode = some pid) (pidLength : UInt32) (hsize : pidLength.toNat ≤ size) :
    (pid.text.length ≤ pidLength.toNat →
      ∃ written, iterator.getPid (CharArray.zero : CharArray size) pidLength inodesMap = some written
        ∧ written.text = pid.text)
    ∧ (pidLength.toNat < pid.text.length →
      iterator.getPid (CharArray.zero : CharArray size) pidLength inodesMap = none) := by
  have hshort := pid.length_lt
  have hnul : nul ∉ pid.text.toList := fun hc => absurd (pid.isDigit _ hc) (by decide)
  unfold getPid
  rw [h]
  constructor
  · intro hfits
    exact copyBytes_zero hnul pidLength hfits hsize
  · intro hlong
    have hlt : pidLength < UInt32.ofNat pid.text.length := by
      rw [UInt32.lt_iff_toNat_lt, UInt32.toNat_ofNat']
      omega
    exact if_pos hlt

theorem portText_injective {port port' : UInt16} (h : portText port = portText port') :
    port = port' := by
  have hany : ∀ n : Nat, ANY_PORT ≠ toString n := by
    intro n hn
    have hstar : '*' ∈ (toString n).toList := hn ▸ List.mem_singleton.mpr rfl
    exact not_mem_toString rfl n hstar
  unfold portText at h
  by_cases hzero : port = 0
  · by_cases hzero' : port' = 0
    · rw [hzero, hzero']
    · rw [if_pos hzero, if_neg hzero'] at h
      exact absurd h (hany _)
  · by_cases hzero' : port' = 0
    · rw [if_neg hzero, if_pos hzero'] at h
      exact absurd h.symm (hany _)
    · rw [if_neg hzero, if_neg hzero'] at h
      exact UInt16.toNat_inj.mp (toString_injective h)

end ListeningPortsIterator

end SecurityAgent
