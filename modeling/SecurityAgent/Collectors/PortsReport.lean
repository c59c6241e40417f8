import SecurityAgent.Collectors.ListeningPortsCollector
import SecurityAgent.Ports.ProcLine

/-!
# What the report of the ports says

A record names the two ends of a socket. Of every table line by line there is one; in the tables of
IPv4 it is the text of what the line says, and in those of IPv6 it never is, because every
address is scanned and printed as if it had four bytes.
-/

namespace SecurityAgent

open Inet Utils ListeningPortsIterator

/-! ## Tables and records -/

/-- The protocols that the kernel has tables of IPv4 for. -/
def IPV4_PROTOCOLS : List String := ["tcp", "udp", "raw"]

/-- The addresses in the table of a protocol. -/
def familyOf (protocolType : String) : Family :=
  if protocolType ∈ ["tcp6", "udp6", "raw6"] then .inet6 else .inet

/-- A table as the kernel prints it: the headers, and the lines. -/
structure ProcTable (endianness : Endianness) (family : Family) where
  headers : List Char
  newline_not_mem_headers : '\n' ∉ headers
  length_headers : headers.length < MAX_LINE_LENGTH - 1
  lines : List (ProcLine endianness family)

/-- The lines, each with its end. -/
def linesText {endianness : Endianness} {family : Family}
    (lines : List (ProcLine endianness family)) : List Char :=
  lines.flatMap fun line => line.text endianness ++ ['\n']

def ProcTable.text {endianness : Endianness} {family : Family}
    (table : ProcTable endianness family) : List Char :=
  table.headers ++ '\n' :: linesText table.lines

/-- A record of the report; without a process it has no details. -/
structure PortRecord where
  protocol : String
  localAddress : String
  localPort : String
  remoteAddress : String
  remotePort : String
  pid : Option String

namespace PortRecord

open ListeningPortsCollector

/-- The record as it is written. -/
def toJson (record : PortRecord) : Json :=
  .object ([(LISTENING_PORTS_PROTOCOL_KEY, .string record.protocol),
      (LISTENING_PORTS_LOCAL_ADDRESS_KEY, .string record.localAddress),
      (LISTENING_PORTS_LOCAL_PORT_KEY, .string record.localPort),
      (LISTENING_PORTS_REMOTE_ADDRESS_KEY, .string record.remoteAddress),
      (LISTENING_PORTS_REMOTE_PORT_KEY, .string record.remotePort)]
    ++ (record.pid.map fun pid => (EventAggregator.EXTRA_DETAILS_KEY,
      Json.object [(LISTENING_PORTS_PID_KEY, .string pid)])).toList)

theorem toJson_injective {record record' : PortRecord} (h : record.toJson = record'.toJson) :
    record.localAddress = record'.localAddress ∧ record.localPort = record'.localPort
      ∧ record.remoteAddress = record'.remoteAddress := by
  unfold toJson at h
  simp only [List.cons_append, List.nil_append, Json.object.injEq, List.cons.injEq, Prod.mk.injEq,
    Json.string.injEq, true_and] at h
  exact ⟨h.2.1, h.2.2.1, h.2.2.2.1⟩

end PortRecord

namespace ProcEntry

variable {family : Family} (entry : ProcEntry family)

/-- The process that holds the socket. -/
def pid (inodesMap : String → Option Pid) : Option Pid :=
  inodesMap (String.ofList entry.inode.word)

/-- The record that is to be made of a line: its addresses and ports as texts. -/
def report (protocolType : String) (inodesMap : String → Option Pid) : PortRecord :=
  ⟨protocolType, entry.localAddress.text, portText entry.localPort, entry.remoteAddress.text,
    portText entry.remotePort, (entry.pid inodesMap).map Pid.text⟩

/-- The record that is made of it. -/
def scannedReport (endianness : Endianness) (protocolType : String)
    (inodesMap : String → Option Pid) : PortRecord :=
  { entry.report protocolType inodesMap with
    localAddress := entry.localAddress.scannedText endianness
    remoteAddress := entry.remoteAddress.scannedText endianness }

/-- A process that can be named has a number that fits the size of a pointer. -/
def NamesPid (inodesMap : String → Option Pid) : Prop :=
  ∀ pid ∈ entry.pid inodesMap, pid.text.length ≤ 8

instance (inodesMap : String → Option Pid) : Decidable (entry.NamesPid inodesMap) :=
  inferInstanceAs (Decidable (∀ pid ∈ entry.pid inodesMap, pid.text.length ≤ 8))

theorem namesPid_none : entry.NamesPid fun _ => none := fun _ h =>
  absurd (show (none : Option Pid) = some _ from h) (by simp)

/-- **What is made of a line is what is to be made of it if and only if it is one of IPv4.** -/
theorem scannedReport_eq_iff (endianness : Endianness) (protocolType : String)
    (inodesMap : String → Option Pid) :
    (entry.scannedReport endianness protocolType inodesMap).toJson
      = (entry.report protocolType inodesMap).toJson ↔ family = .inet := by
  constructor
  · intro h
    exact (entry.localAddress.scannedText_eq_iff endianness).mp (PortRecord.toJson_injective h).1
  · intro hfamily
    have hlocal := (entry.localAddress.scannedText_eq_iff endianness).mpr hfamily
    have hremote := (entry.remoteAddress.scannedText_eq_iff endianness).mpr hfamily
    unfold scannedReport
    rw [hlocal, hremote]
    rfl

/-- Sockets of IPv4 that are to be reported alike have the same local end. -/
theorem report_injective {family' : Family} {entry' : ProcEntry family'} (hfamily : family = .inet)
    (hfamily' : family' = .inet) {protocolType protocolType' : String}
    {inodesMap inodesMap' : String → Option Pid}
    (h : (entry.report protocolType inodesMap).toJson
      = (entry'.report protocolType' inodesMap').toJson) :
    entry.localAddress.quads = entry'.localAddress.quads ∧ entry.localPort = entry'.localPort := by
  obtain ⟨haddress, hport, -⟩ := PortRecord.toJson_injective h
  exact ⟨Address.quads_of_text_eq hfamily hfamily' haddress, portText_injective hport⟩

end ProcEntry

/-! ## One record -/

/-- Nothing fails. -/
def PortRecordOutcome.Succeeds (o : PortRecordOutcome) : Prop :=
  o.payloadWriter = true ∧ o.extraDetails = true ∧ o.addObject = true

instance (o : PortRecordOutcome) : Decidable o.Succeeds :=
  inferInstanceAs (Decidable (_ ∧ _))

namespace ListeningPortsCollector

open JsonObjectWriter

/-- The details of a record. -/
def detailsOf (pid : Option Pid) : JsonObjectWriter :=
  match pid with
  | none => JsonObjectWriter.init
  | some pid => JsonObjectWriter.init.writeString LISTENING_PORTS_PID_KEY pid.text

theorem addPidToExtraDetails_line {family : Family} (endianness : Endianness)
    (entry : ProcEntry family) (procFile : List Char) (inodesMap : String → Option Pid) :
    addPidToExtraDetails (entry.iterator endianness procFile) inodesMap
      = if entry.NamesPid inodesMap then some (detailsOf (entry.pid inodesMap)) else none := by
  have hlookup : inodesMap (entry.iterator endianness procFile).inode = entry.pid inodesMap := rfl
  have hroom : SIZEOF_VALUE.toNat ≤ MAX_RECORD_VALUE_LENGTH := by decide
  unfold addPidToExtraDetails
  rcases Option.eq_none_or_eq_some (entry.pid inodesMap) with hpid | ⟨pid, hpid⟩
  · have hnames : entry.NamesPid inodesMap := fun _ h => by
      rw [hpid] at h
      exact absurd h (by simp)
    rw [getPid_none _ (hlookup.trans hpid), if_pos hnames, Option.map_some, CharArray.text_zero, hpid]
    rfl
  · have hnames : entry.NamesPid inodesMap ↔ pid.text.length ≤ 8 := by
      unfold ProcEntry.NamesPid
      rw [hpid]
      exact ⟨fun h => h pid rfl, fun h _ hmem => Option.mem_some_iff.mp hmem ▸ h⟩
    obtain ⟨hfits, hlong⟩ := getPid_some _ (hlookup.trans hpid) SIZEOF_VALUE hroom
    -- a name that is longer than a pointer is refused, whatever room there is
    by_cases hlen : pid.text.length ≤ 8
    · obtain ⟨written, hwritten, htext⟩ := hfits hlen
      rw [hwritten, Option.map_some, htext, if_pos pid.ne_empty, if_pos (hnames.mpr hlen), hpid]
      rfl
    · rw [hlong (Nat.not_le.mp hlen), if_neg fun h => hlen (hnames.mp h)]
      rfl

/-- The buffers have room for every address and every port. -/
theorem valueBuffer_room : 16 ≤ MAX_RECORD_VALUE_LENGTH ∧ MAX_RECORD_VALUE_LENGTH < 2 ^ 32 := by
  decide

/-- An address is written as the text that is made of what is scanned of it. -/
theorem getAddress_line {family : Family} (endianness : Endianness) (address : Address family) :
    ∃ value, getAddress endianness (String.ofList (address.procText endianness)) valueBuffer
        = some value ∧ value.text = address.scannedText endianness :=
  getAddress_eq endianness (address.isHexText_procText endianness)
    (address.length_procText endianness).1 valueBuffer valueBuffer_room.1

/-- A port is written as its text. -/
theorem getPort_line (port : UInt16) :
    ∃ value, getPort port.toUInt32.toInt32 valueBuffer = some value ∧ value.text = portText port :=
  getPort_eq port (Nat.le_trans (by decide) valueBuffer_room.1) valueBuffer_room.2

/-- What a record has before its details. -/
theorem written_ends (protocolType localAddress localPort remoteAddress remotePort : String) :
    Written (((((JsonObjectWriter.init.writeString LISTENING_PORTS_PROTOCOL_KEY
        protocolType).writeString LISTENING_PORTS_LOCAL_ADDRESS_KEY localAddress).writeString
        LISTENING_PORTS_LOCAL_PORT_KEY localPort).writeString LISTENING_PORTS_REMOTE_ADDRESS_KEY
        remoteAddress).writeString LISTENING_PORTS_REMOTE_PORT_KEY remotePort)
      [LISTENING_PORTS_REMOTE_PORT_KEY, LISTENING_PORTS_REMOTE_ADDRESS_KEY,
        LISTENING_PORTS_LOCAL_PORT_KEY, LISTENING_PORTS_LOCAL_ADDRESS_KEY,
        LISTENING_PORTS_PROTOCOL_KEY]
      [(LISTENING_PORTS_PROTOCOL_KEY, .string protocolType),
        (LISTENING_PORTS_LOCAL_ADDRESS_KEY, .string localAddress),
        (LISTENING_PORTS_LOCAL_PORT_KEY, .string localPort),
        (LISTENING_PORTS_REMOTE_ADDRESS_KEY, .string remoteAddress),
        (LISTENING_PORTS_REMOTE_PORT_KEY, .string remotePort)] := by
  have hprotocol := written_init.add LISTENING_PORTS_PROTOCOL_KEY (by decide) (.string protocolType)
  have haddress := hprotocol.add LISTENING_PORTS_LOCAL_ADDRESS_KEY (by decide)
    (.string localAddress)
  have hport := haddress.add LISTENING_PORTS_LOCAL_PORT_KEY (by decide) (.string localPort)
  have hremote := hport.add LISTENING_PORTS_REMOTE_ADDRESS_KEY (by decide) (.string remoteAddress)
  exact hremote.add LISTENING_PORTS_REMOTE_PORT_KEY (by decide) (.string remotePort)

/-- The details come last, if there are any. -/
theorem writeDetails_eq {writer : JsonObjectWriter} {keys : List String} {members : Json.Members}
    (h : Written writer keys members) (hkey : EventAggregator.EXTRA_DETAILS_KEY ∉ keys)
    (pid : Option Pid) :
    (if (detailsOf pid).rootObject.length > 0 then
        writer.writeObject EventAggregator.EXTRA_DETAILS_KEY (detailsOf pid)
      else writer).rootObject
      = members ++ ((pid.map Pid.text).map fun pid => (EventAggregator.EXTRA_DETAILS_KEY,
          Json.object [(LISTENING_PORTS_PID_KEY, .string pid)])).toList := by
  cases pid with
  | none => exact h.rootObject.trans (List.append_nil _).symm
  | some pid =>
      exact (h.add EventAggregator.EXTRA_DETAILS_KEY hkey
        (.object [(LISTENING_PORTS_PID_KEY, .string pid.text)])).rootObject

/-- **A record says what is scanned of its line, or it is not made.** -/
theorem addSingleRecord_line {family : Family} (endianness : Endianness) (o : PortRecordOutcome)
    (entry : ProcEntry family) (procFile : List Char) (protocolType : String)
    (inodesMap : String → Option Pid) :
    addSingleRecord endianness o (entry.iterator endianness procFile) protocolType inodesMap
      = if o.Succeeds ∧ entry.NamesPid inodesMap then
          some (entry.scannedReport endianness protocolType inodesMap).toJson
        else none := by
  obtain ⟨v₁, hv₁, ht₁⟩ := getAddress_line endianness entry.localAddress
  obtain ⟨v₂, hv₂, ht₂⟩ := getPort_line entry.localPort
  obtain ⟨v₃, hv₃, ht₃⟩ := getAddress_line endianness entry.remoteAddress
  obtain ⟨v₄, hv₄, ht₄⟩ := getPort_line entry.remotePort
  have hlocal : (entry.iterator endianness procFile).getLocalAddress endianness valueBuffer
      = some v₁ := hv₁
  have hlocalPort : (entry.iterator endianness procFile).getLocalPort valueBuffer = some v₂ := hv₂
  have hremote : (entry.iterator endianness procFile).getRemoteAddress endianness valueBuffer
      = some v₃ := hv₃
  have hremotePort : (entry.iterator endianness procFile).getRemotePort valueBuffer = some v₄ := hv₄
  have hwritten := written_ends protocolType v₁.text v₂.text v₃.text v₄.text
  unfold addSingleRecord
  by_cases hinit : o.payloadWriter = false ∨ o.extraDetails = false
  · rw [if_pos hinit, if_neg]
    rintro ⟨⟨hpayload, hdetails, -⟩, -⟩
    rcases hinit with h | h
    · exact Bool.true_eq_false.mp (hpayload.symm.trans h)
    · exact Bool.true_eq_false.mp (hdetails.symm.trans h)
  rw [if_neg hinit, hlocal, hlocalPort, hremote, hremotePort, addPidToExtraDetails_line]
  simp only [Option.bind_eq_bind, Option.bind_some]
  by_cases hnames : entry.NamesPid inodesMap
  · have hdetails := writeDetails_eq hwritten (by decide) (entry.pid inodesMap)
    rw [if_pos hnames, Option.bind_some]
    by_cases hadd : o.addObject = true
    · have hall : o.Succeeds ∧ entry.NamesPid inodesMap := by
        refine ⟨⟨?_, ?_, hadd⟩, hnames⟩
        · exact Bool.eq_true_of_not_eq_false fun h => hinit (Or.inl h)
        · exact Bool.eq_true_of_not_eq_false fun h => hinit (Or.inr h)
      rw [if_pos hadd, if_pos hall]
      unfold JsonObjectWriter.rootValue
      rw [hdetails, ht₁, ht₂, ht₃, ht₄]
      rfl
    · rw [if_neg hadd, if_neg fun h => hadd h.1.2.2]
  · rw [if_neg hnames, if_neg fun h => hnames h.2]
    rfl

end ListeningPortsCollector

/-! ## A table -/

/-- Nothing fails while the table of a protocol is reported. -/
structure PortsOutcome.TableSucceeds (o : PortsOutcome) (protocolType : String) : Prop where
  malloc : (o.proc protocolType).malloc = true
  read : ∀ left, (o.proc protocolType).read left = true
  record : ∀ i, (o.record protocolType i).Succeeds

/-- The file of a protocol is this table. -/
def PortsOutcome.Shows {endianness : Endianness} {family : Family} (o : PortsOutcome)
    (protocolType : String) (table : ProcTable endianness family) : Prop :=
  (o.proc protocolType).fopen (procFileName protocolType) = some table.text

namespace ListeningPortsCollector

variable {endianness : Endianness} {family : Family}

theorem linesText_cons (line : ProcLine endianness family)
    (lines : List (ProcLine endianness family)) :
    linesText (line :: lines) = line.text endianness ++ '\n' :: linesText lines := by
  unfold linesText
  rw [List.flatMap_cons, List.append_assoc]
  rfl

/-- Every line takes a round, and there is one for each character. -/
theorem length_le_linesText (lines : List (ProcLine endianness family)) :
    lines.length ≤ (linesText lines).length := by
  induction lines with
  | nil => exact Nat.le_refl 0
  | cons line lines ih =>
      rw [linesText_cons, List.length_append, List.length_cons, List.length_cons]
      omega

/-- The records of a table, by induction on its lines: what is added is what is scanned of the lines
up to the first that fails. -/
theorem addRecords_lines (o : PortsOutcome) (protocolType : String)
    (inodesMap : String → Option Pid) : ∀ (lines : List (ProcLine endianness family))
    (rounds i : Nat) (portsIterator : ListeningPortsIterator) (payloadArray : List Json),
    lines.length < rounds → portsIterator.procFile = linesText lines →
      ∃ n ≤ lines.length,
        (addRecords endianness o protocolType inodesMap rounds i portsIterator payloadArray).2
          = payloadArray ++ ((lines.take n).map fun line =>
              (line.scannedReport endianness protocolType inodesMap).toJson)
        ∧ (o.TableSucceeds protocolType → (∀ line ∈ lines, line.NamesPid inodesMap) →
          n = lines.length
          ∧ (addRecords endianness o protocolType inodesMap rounds i portsIterator payloadArray).1
            = .ok) := by
  intro lines
  induction lines with
  | nil =>
      intro rounds i portsIterator payloadArray hrounds hfile
      obtain ⟨rounds, rfl⟩ := Nat.exists_eq_succ_of_ne_zero (Nat.ne_of_gt hrounds)
      have hnext : getNext (o.proc protocolType) portsIterator
          = if (o.proc protocolType).read portsIterator.procFile = false then
              (.exception, portsIterator) else (.noMoreData, portsIterator) := by
        unfold getNext
        rw [if_pos (show portsIterator.procFile = [] from hfile)]
      refine ⟨0, Nat.le_refl 0, ?_⟩
      unfold addRecords
      rw [hnext]
      by_cases hread : (o.proc protocolType).read portsIterator.procFile = false
      · rw [if_pos hread]
        refine ⟨(List.append_nil _).symm, fun ho _ => ?_⟩
        exact absurd ((ho.read _).symm.trans hread) Bool.true_eq_false.mp
      · rw [if_neg hread]
        exact ⟨(List.append_nil _).symm, fun _ _ => ⟨rfl, rfl⟩⟩
  | cons line lines ih =>
      intro rounds i portsIterator payloadArray hrounds hfile
      obtain ⟨rounds, rfl⟩ :=
        Nat.exists_eq_succ_of_ne_zero (Nat.ne_of_gt (Nat.zero_lt_of_lt hrounds))
      have hnext := getNext_line (o.proc protocolType) line portsIterator (linesText lines)
        (hfile.trans (linesText_cons line lines))
      have hrecord := addSingleRecord_line endianness (o.record protocolType i) line.toProcEntry
        (linesText lines) protocolType inodesMap
      unfold addRecords
      rw [hnext]
      by_cases hread : (o.proc protocolType).read portsIterator.procFile = true
      · -- the line is scanned, and the others come after its record
        rw [if_pos hread]
        dsimp only
        rw [hrecord]
        by_cases hmade : (o.record protocolType i).Succeeds ∧ line.NamesPid inodesMap
        · rw [if_pos hmade]
          obtain ⟨n, hn, hadded, hall⟩ := ih rounds (i + 1)
            (line.iterator endianness (linesText lines))
            (payloadArray ++ [(line.scannedReport endianness protocolType inodesMap).toJson])
            (Nat.lt_of_succ_lt_succ hrounds) rfl
          refine ⟨n + 1, Nat.succ_le_succ hn, ?_, ?_⟩
          · rw [List.append_assoc] at hadded
            exact hadded
          · intro ho hnames
            obtain ⟨rfl, hok⟩ := hall ho fun other hm => hnames other (List.mem_cons_of_mem _ hm)
            exact ⟨rfl, hok⟩
        · rw [if_neg hmade]
          refine ⟨0, Nat.zero_le _, (List.append_nil _).symm, fun ho hnames => ?_⟩
          exact absurd ⟨ho.record i, hnames line List.mem_cons_self⟩ hmade
      · rw [if_neg hread]
        refine ⟨0, Nat.zero_le _, (List.append_nil _).symm, fun ho _ => ?_⟩
        exact absurd (ho.read _) hread

/-- **What is added of a table** is what is scanned of its lines, of all of them if nothing fails. -/
theorem addPortsByType_table (o : PortsOutcome) (payloadArray : List Json) (protocolType : String)
    (inodesMap : String → Option Pid) {table : ProcTable endianness family}
    (htable : o.Shows protocolType table) :
    ∃ n ≤ table.lines.length,
      (addPortsByType endianness o payloadArray protocolType inodesMap).2
        = payloadArray ++ ((table.lines.take n).map fun line =>
            (line.scannedReport endianness protocolType inodesMap).toJson)
      ∧ (o.TableSucceeds protocolType → (∀ line ∈ table.lines, line.NamesPid inodesMap) →
        n = table.lines.length
        ∧ (addPortsByType endianness o payloadArray protocolType inodesMap).1 = .ok) := by
  -- the headers are one line, and the rest are the lines
  have hheaders : (fgets (MAX_LINE_LENGTH - 1) table.text).2 = linesText table.lines := by
    unfold ProcTable.text
    rw [fgets_line table.newline_not_mem_headers _ table.length_headers]
  have hinit : ListeningPortsIterator.init (o.proc protocolType) protocolType
      = if (o.proc protocolType).malloc = true ∧ (o.proc protocolType).read table.text = true then
          some ⟨linesText table.lines, "", 0, "", 0, ""⟩ else none := by
    unfold ListeningPortsIterator.init
    rw [htable, Option.bind_some, hheaders]
    cases (o.proc protocolType).malloc <;> cases (o.proc protocolType).read table.text <;> rfl
  unfold addPortsByType
  rw [hinit]
  by_cases hopen : (o.proc protocolType).malloc = true
      ∧ (o.proc protocolType).read table.text = true
  · rw [if_pos hopen]
    exact addRecords_lines o protocolType inodesMap table.lines _ 0 _ payloadArray
      (Nat.lt_succ_of_le (length_le_linesText table.lines)) rfl
  · rw [if_neg hopen]
    refine ⟨0, Nat.zero_le _, (List.append_nil _).symm, fun ho _ => ?_⟩
    exact absurd ⟨ho.malloc, ho.read _⟩ hopen

/-! ## The report -/

/-- The record that a table adds to an array for its line at this place. -/
def recordAt (endianness : Endianness) (o : PortsOutcome) (payloadArray : List Json)
    (protocolType : String) (inodesMap : String → Option Pid) (i : Nat) : Option Json :=
  (addPortsByType endianness o payloadArray protocolType inodesMap).2[payloadArray.length + i]?

/-- A record that is there is what is scanned of the line. -/
theorem recordAt_eq {o : PortsOutcome} {payloadArray : List Json} {protocolType : String}
    {inodesMap : String → Option Pid} {table : ProcTable endianness family}
    (htable : o.Shows protocolType table) {i : Nat} {line : ProcLine endianness family}
    (hline : table.lines[i]? = some line) {record : Json}
    (hrecord : recordAt endianness o payloadArray protocolType inodesMap i = some record) :
    record = (line.scannedReport endianness protocolType inodesMap).toJson := by
  obtain ⟨n, -, hadded, -⟩ := addPortsByType_table o payloadArray protocolType inodesMap htable
  unfold recordAt at hrecord
  rw [hadded, List.getElem?_append_right (Nat.le_add_right _ _), Nat.add_sub_cancel_left,
    List.getElem?_map, List.getElem?_take] at hrecord
  split at hrecord
  · rw [hline] at hrecord
    exact (Option.some.inj hrecord).symm
  · exact absurd hrecord (by simp)

/-- If nothing fails, it is there. -/
theorem recordAt_of_succeeds {o : PortsOutcome} (payloadArray : List Json) {protocolType : String}
    {inodesMap : String → Option Pid} {table : ProcTable endianness family}
    (htable : o.Shows protocolType table) (ho : o.TableSucceeds protocolType)
    (hnames : ∀ line ∈ table.lines, line.NamesPid inodesMap) {i : Nat}
    {line : ProcLine endianness family} (hline : table.lines[i]? = some line) :
    recordAt endianness o payloadArray protocolType inodesMap i
      = some (line.scannedReport endianness protocolType inodesMap).toJson := by
  obtain ⟨n, -, hadded, hall⟩ := addPortsByType_table o payloadArray protocolType inodesMap htable
  obtain ⟨rfl, -⟩ := hall ho hnames
  unfold recordAt
  rw [hadded, List.take_length, List.getElem?_append_right (Nat.le_add_right _ _),
    Nat.add_sub_cancel_left, List.getElem?_map, hline]
  rfl

theorem familyOf_eq_inet_iff {protocolType : String} (hprotocol : protocolType ∈ PROTOCOL_TYPES) :
    familyOf protocolType = .inet ↔ protocolType ∈ IPV4_PROTOCOLS := by
  revert protocolType
  decide

/--
**The tables of IPv4 are reported faithfully, and those of IPv6 never.** For each line of the table
of a protocol, if nothing fails, there is a record. A record says what is to be said of its line if
and only if the protocol is one of IPv4. And lines of such protocols that differ in the address or
the port at this end have different records, in one table or in two.
-/
theorem ports_reported (o : PortsOutcome) (inodesMap : String → Option Pid)
    (payloadArray : List Json) {protocolType : String} (hprotocol : protocolType ∈ PROTOCOL_TYPES)
    {table : ProcTable endianness (familyOf protocolType)} (htable : o.Shows protocolType table)
    {i : Nat} {line : ProcLine endianness (familyOf protocolType)}
    (hline : table.lines[i]? = some line) :
    (o.TableSucceeds protocolType → (∀ line ∈ table.lines, line.NamesPid inodesMap) →
      (recordAt endianness o payloadArray protocolType inodesMap i).isSome = true
      ∧ (addPortsByType endianness o payloadArray protocolType inodesMap).1 = .ok)
    ∧ ∀ record, recordAt endianness o payloadArray protocolType inodesMap i = some record →
      (record = (line.report protocolType inodesMap).toJson ↔ protocolType ∈ IPV4_PROTOCOLS)
      ∧ (protocolType ∈ IPV4_PROTOCOLS →
        ∀ (protocolType' : String), protocolType' ∈ IPV4_PROTOCOLS →
        ∀ (table' : ProcTable endianness (familyOf protocolType')), o.Shows protocolType' table' →
        ∀ (j : Nat) (line' : ProcLine endianness (familyOf protocolType')),
          table'.lines[j]? = some line' →
        ∀ (payloadArray' : List Json) (record' : Json),
          recordAt endianness o payloadArray' protocolType' inodesMap j = some record' →
          line.localAddress.quads ≠ line'.localAddress.quads ∨ line.localPort ≠ line'.localPort →
          record ≠ record') := by
  have hfaithful : ∀ {protocolType : String}, protocolType ∈ IPV4_PROTOCOLS →
      familyOf protocolType = .inet := by decide
  constructor
  · intro ho hnames
    have hrecord := recordAt_of_succeeds payloadArray htable ho hnames hline
    obtain ⟨n, -, -, hall⟩ := addPortsByType_table o payloadArray protocolType inodesMap htable
    exact ⟨by rw [hrecord]; rfl, (hall ho hnames).2⟩
  · intro record hrecord
    have hscanned := recordAt_eq htable hline hrecord
    have hiff := line.scannedReport_eq_iff endianness protocolType inodesMap
    refine ⟨?_, ?_⟩
    · rw [hscanned, hiff]
      exact familyOf_eq_inet_iff hprotocol
    · intro hipv4 protocolType' hipv4' table' htable' j line' hline' payloadArray' record' hrecord'
        hdiffer hsame
      have hscanned' := recordAt_eq htable' hline' hrecord'
      have hiff' := line'.scannedReport_eq_iff endianness protocolType' inodesMap
      -- both records are what is to be said of their lines
      rw [hscanned, hscanned', hiff.mpr (hfaithful hipv4), hiff'.mpr (hfaithful hipv4')] at hsame
      obtain ⟨haddress, hport⟩ :=
        line.report_injective (hfaithful hipv4) (hfaithful hipv4') hsame
      rcases hdiffer with hne | hne
      · exact hne haddress
      · exact hne hport

/-! ## Two servers -/

def someColumn : Column :=
  ⟨0, ['0'], List.cons_ne_nil _ _, fun c hc => by rw [List.mem_singleton.mp hc]; rfl⟩

/-- A server on port 443 of this address. -/
def listener {family : Family} (localAddress remoteAddress : Address family) : ProcEntry family where
  indent := 3
  slot := 0
  localAddress := localAddress
  localPort := 443
  remoteAddress := remoteAddress
  remotePort := 0
  state := 0x0A
  columns := List.replicate 5 someColumn
  length_columns := rfl
  inode := someColumn
  length_inode := by decide
  rest := []
  newline_not_mem_rest := List.not_mem_nil

/-- A system in which nothing fails shows this text as every table. -/
def showing (text : List Char) : PortsOutcome :=
  ⟨true, ⟨0, some "", true⟩, some fun _ => none, true,
    fun _ => ⟨true, fun _ => some text, fun _ => true⟩, fun _ _ => ⟨true, true, true⟩, true, true,
    true⟩

theorem showing_succeeds (text : List Char) (protocolType : String) :
    (showing text).TableSucceeds protocolType := ⟨rfl, fun _ => rfl, fun _ => ⟨rfl, rfl, rfl⟩⟩

/-- A server that listens at 127.0.1.1. -/
def tcpTable : ProcTable .little (familyOf "tcp") :=
  ⟨[], List.not_mem_nil, by decide,
    [⟨listener (.inet ⟨127, 0, 1, 1⟩) (.inet ⟨0, 0, 0, 0⟩), by decide⟩]⟩

/-- Servers that listen at 2001:db8::1 and at 2001:db8::2. -/
def tcp6Table : ProcTable .little (familyOf "tcp6") :=
  ⟨[], List.not_mem_nil, by decide,
    [⟨listener (.inet6 ⟨0x20, 0x01, 0x0d, 0xb8⟩ ⟨0, 0, 0, 0⟩ ⟨0, 0, 0, 0⟩ ⟨0, 0, 0, 1⟩)
        (.inet6 ⟨0, 0, 0, 0⟩ ⟨0, 0, 0, 0⟩ ⟨0, 0, 0, 0⟩ ⟨0, 0, 0, 0⟩), by decide⟩,
      ⟨listener (.inet6 ⟨0x20, 0x01, 0x0d, 0xb8⟩ ⟨0, 0, 0, 0⟩ ⟨0, 0, 0, 0⟩ ⟨0, 0, 0, 2⟩)
        (.inet6 ⟨0, 0, 0, 0⟩ ⟨0, 0, 0, 0⟩ ⟨0, 0, 0, 0⟩ ⟨0, 0, 0, 0⟩), by decide⟩]⟩

/-- The record of the server is the text of its line. -/
theorem ports_reported_tcp :
    recordAt .little (showing tcpTable.text) [] "tcp" (fun _ => none) 0
      = some (PortRecord.toJson ⟨"tcp", "127.0.1.1", "443", "0.0.0.0", "*", none⟩) := by
  have hline : tcpTable.lines[0]? = some (tcpTable.lines.head (List.cons_ne_nil _ _)) := rfl
  have hshows : (showing tcpTable.text).Shows "tcp" tcpTable := rfl
  obtain ⟨hthere, hrecords⟩ := ports_reported (showing tcpTable.text) (fun _ => none) []
    (show "tcp" ∈ PROTOCOL_TYPES by decide) hshows hline
  have hsome := (hthere (showing_succeeds _ _) fun line _ => line.namesPid_none).1
  obtain ⟨record, hrecord⟩ := Option.isSome_iff_exists.mp hsome
  have hreport := (hrecords record hrecord).1.mpr (by decide)
  rw [hrecord, hreport]
  rfl

/-- Two servers with different addresses have the same record, and it is the text of neither. -/
theorem ports_not_reported :
    tcp6Table.lines.map (fun line => line.localAddress.text) = ["2001:db8::1", "2001:db8::2"]
      ∧ (addPortsByType .little (showing tcp6Table.text) [] "tcp6" (fun _ => none)).1 = .ok
      ∧ recordAt .little (showing tcp6Table.text) [] "tcp6" (fun _ => none) 0
        = some (PortRecord.toJson ⟨"tcp6", "255.255.255.255", "443", "0.0.0.0", "*", none⟩)
      ∧ recordAt .little (showing tcp6Table.text) [] "tcp6" (fun _ => none) 1
        = some (PortRecord.toJson ⟨"tcp6", "255.255.255.255", "443", "0.0.0.0", "*", none⟩) := by
  have hshows : (showing tcp6Table.text).Shows "tcp6" tcp6Table := rfl
  have hsucceeds := showing_succeeds tcp6Table.text "tcp6"
  have hnames : ∀ line ∈ tcp6Table.lines, line.NamesPid fun _ => none := fun line _ =>
    line.namesPid_none
  have hfirst : tcp6Table.lines[0]? = some (tcp6Table.lines.get ⟨0, by decide⟩) := rfl
  have hsecond : tcp6Table.lines[1]? = some (tcp6Table.lines.get ⟨1, by decide⟩) := rfl
  obtain ⟨n, -, -, hall⟩ := addPortsByType_table (showing tcp6Table.text) [] "tcp6"
    (fun _ => none) hshows
  refine ⟨rfl, (hall hsucceeds hnames).2, ?_, ?_⟩
  · exact (recordAt_of_succeeds [] hshows hsucceeds hnames hfirst).trans rfl
  · exact (recordAt_of_succeeds [] hshows hsucceeds hnames hsecond).trans rfl

end ListeningPortsCollector

end SecurityAgent
