import SecurityAgent.Collectors.SystemInformationCollector
import SecurityAgent.Collectors.UserGroups

/-!
# What is said of the machine

The event says what `uname` and `sysinfo` have answered, and there is one exactly if nothing fails.
The sizes are those of the memory only for some units.
-/

namespace SecurityAgent

open Utils

namespace SystemInformationCollector

/-! ## The kernel version -/

/-- **The version is release and version with a space between them**; there is room for it. -/
theorem kernelVersionSummary_eq (machineInfo : Utsname) :
    kernelVersionSummary machineInfo
      = some (machineInfo.release ++ " " ++ machineInfo.version) := by
  obtain ⟨-, -, release, version, -, hrelease, hversion, hnul, hnul'⟩ := machineInfo
  have hword : UInt32.size = 2 ^ 32 := rfl
  have hone : (1 : UInt32).toNat = 1 := rfl
  have hrl : (UInt32.ofNat release.length).toNat = release.length :=
    UInt32.toNat_ofNat_of_lt' (by omega)
  have hvl : (UInt32.ofNat version.length).toNat = version.length :=
    UInt32.toNat_ofNat_of_lt' (by omega)
  have hspace : (UInt32.ofNat release.length + 1).toNat = release.length + 1 := by
    rw [UInt32.toNat_add, hrl, hone]
    exact Nat.mod_eq_of_lt (by omega)
  have hsize : (UInt32.ofNat release.length + 1 + UInt32.ofNat version.length + 1).toNat
      = release.length + 1 + version.length + 1 := by
    rw [UInt32.toNat_add, UInt32.toNat_add, hspace, hvl, hone,
      Nat.mod_eq_of_lt (show release.length + 1 + version.length < 2 ^ 32 by omega)]
    exact Nat.mod_eq_of_lt (by omega)
  have hrt : release.toList.take release.length = release.toList :=
    List.take_of_length_le (String.length_toList ▸ Nat.le_refl _)
  have hvt : version.toList.take version.length = version.toList :=
    List.take_of_length_le (String.length_toList ▸ Nat.le_refl _)
  unfold kernelVersionSummary
  dsimp only
  rw [hsize, hspace, hrl, hvl, hrt, hvt]
  have hrelease' := @String.length_toList release
  have hversion' := @String.length_toList version
  -- the three texts fill the buffer but for its last character
  have hfirst := @memcpyAt_filled (release.length + 1 + version.length + 1) [] release.toList
    (Nat.zero_le _)
  have hsecond := @memcpyAt_filled (release.length + 1 + version.length + 1) release.toList [' ']
    (by omega)
  have hthird := @memcpyAt_filled (release.length + 1 + version.length + 1)
    (release.toList ++ [' ']) version.toList
    (by rw [List.length_append, List.length_singleton]; omega)
  have hread := @cStringIn_filled (release.length + 1 + version.length + 1)
    (release.toList ++ [' '] ++ version.toList)
    (by
      rw [List.mem_append, List.mem_append, List.mem_singleton]
      rintro ((hmem | hmem) | hmem)
      · exact hnul hmem
      · cases hmem
      · exact hnul' hmem)
    (by rw [List.length_append, List.length_append, List.length_singleton]; omega)
  rw [if_pos (by rw [List.length_nil]; omega)] at hfirst
  rw [if_pos (by rw [List.length_singleton]; omega), hrelease'] at hsecond
  rw [if_pos (by rw [List.length_append, List.length_singleton]; omega), List.length_append,
    List.length_singleton, hrelease'] at hthird
  rw [if_pos (by rw [List.length_append, List.length_append, List.length_singleton]; omega)] at hread
  refine (congrArg (Option.bind · _) hfirst).trans ?_
  refine (congrArg (Option.bind · _) hsecond).trans ?_
  refine (congrArg (Option.bind · _) hthird).trans (hread.trans ?_)
  rw [String.ofList_append, String.ofList_append, String.ofList_toList, String.ofList_toList]

/-! ## The memory -/

/-- The memory in KB, as `sysinfo` means it. -/
def actualKb (ram : UInt64) (memUnit : UInt32) : Nat := ram.toNat * memUnit.toNat / 1024

/-- The memory in KB, as it is written. -/
def reportedKb (ram : UInt64) (memUnit : UInt32) : Int :=
  (sizeInKb ram memUnit).toUInt32.toInt32.toInt

theorem div_div_le (ram : Nat) {unit : Nat} (h : 0 < unit) : ram / unit / 1024 ≤ ram * unit / 1024 :=
  Nat.div_le_div_right ((Nat.div_le_self ram unit).trans (Nat.le_mul_of_pos_right ram h))

/-- To divide by the unit is to multiply by it only if it is one, or there is nothing to count. -/
theorem div_div_eq_iff (ram : Nat) {unit : Nat} (h : 0 < unit) :
    ram / unit / 1024 = ram * unit / 1024 ↔ unit = 1 ∨ ram * unit < 1024 := by
  constructor
  · intro heq
    by_contra hno
    obtain ⟨hunit, hram⟩ := not_or.mp hno
    have hpos : 0 < ram * unit / 1024 := Nat.div_pos (by omega) (by omega)
    have hquotient : unit * (1024 * (ram / unit / 1024)) ≤ ram :=
      (Nat.mul_le_mul_left unit (Nat.mul_div_le _ _)).trans (Nat.mul_div_le ram unit)
    -- the right side counts at least four for each one of the left
    have hfour : 4 * (1024 * (ram / unit / 1024)) ≤ ram * unit := by
      have htwo : 2 ≤ unit := by omega
      calc 4 * (1024 * (ram / unit / 1024))
          = 2 * (2 * (1024 * (ram / unit / 1024))) := by ring
        _ ≤ unit * (unit * (1024 * (ram / unit / 1024))) :=
            Nat.mul_le_mul htwo (Nat.mul_le_mul_right _ htwo)
        _ ≤ unit * ram := Nat.mul_le_mul_left unit hquotient
        _ = ram * unit := Nat.mul_comm _ _
    rw [heq] at hfour
    omega
  · rintro (rfl | hlt)
    · rw [Nat.div_one, Nat.mul_one]
    · have hzero : ram * unit / 1024 = 0 := Nat.div_eq_of_lt hlt
      have hle := div_div_le ram h
      rw [hzero] at hle ⊢
      exact Nat.le_zero.mp hle

theorem toNat_sizeInKb (ram : UInt64) (memUnit : UInt32) :
    (sizeInKb ram memUnit).toNat = ram.toNat / memUnit.toNat / 1024 := by
  unfold sizeInKb
  rw [UInt64.toNat_div, UInt64.toNat_div, UInt32.toNat_toUInt64]
  rfl

/-- As an `int` a size is itself, or less than itself. -/
theorem reportedKb_cases (ram : UInt64) (memUnit : UInt32) :
    let size := ram.toNat / memUnit.toNat / 1024
    (size < 2 ^ 31 → reportedKb ram memUnit = size)
      ∧ (2 ^ 31 ≤ size → reportedKb ram memUnit < size) := by
  intro size
  have hnat : (sizeInKb ram memUnit).toUInt32.toNat = size % 2 ^ 32 := by
    rw [UInt64.toNat_toUInt32, toNat_sizeInKb]
  have hint : reportedKb ram memUnit
      = if 2 * (size % 2 ^ 32) < 2 ^ 32 then ((size % 2 ^ 32 : Nat) : Int)
        else ((size % 2 ^ 32 : Nat) : Int) - 2 ^ 32 := by
    rw [← hnat]
    exact BitVec.toInt_eq_toNat_cond _
  rw [hint]
  constructor
  · intro hlt
    rw [Nat.mod_eq_of_lt (by omega), if_pos (by omega)]
  · intro hle
    have hmod := Nat.mod_le size (2 ^ 32)
    split <;> omega

/-- The unit is a byte, or there is next to no memory, and its size in KB has 31 bits. -/
def Measured (ram : UInt64) (memUnit : UInt32) : Prop :=
  (memUnit = 1 ∨ ram.toNat * memUnit.toNat < 1024) ∧ actualKb ram memUnit < 2 ^ 31

instance (ram : UInt64) (memUnit : UInt32) : Decidable (Measured ram memUnit) :=
  inferInstanceAs (Decidable (_ ∧ _))

/-- **The memory is reported as it is exactly if the unit is a byte**, or there is next to none. -/
theorem reportedKb_eq_iff (ram : UInt64) {memUnit : UInt32} (h : memUnit ≠ 0) :
    reportedKb ram memUnit = actualKb ram memUnit ↔ Measured ram memUnit := by
  unfold Measured
  have hpos : 0 < memUnit.toNat := Nat.pos_of_ne_zero fun hzero => h (UInt32.toNat_inj.mp hzero)
  have hunit : memUnit = 1 ↔ memUnit.toNat = 1 := UInt32.toNat_inj.symm
  obtain ⟨hsmall, hlarge⟩ := reportedKb_cases ram memUnit
  have hle := div_div_le ram.toNat hpos
  rw [hunit, ← div_div_eq_iff ram.toNat hpos]
  unfold actualKb
  rcases Nat.lt_or_ge (ram.toNat / memUnit.toNat / 1024) (2 ^ 31) with hlt | hge
  · rw [hsmall hlt, Nat.cast_inj]
    exact ⟨fun heq => ⟨heq, heq ▸ hlt⟩, fun heq => heq.1⟩
  · have hless := hlarge hge
    constructor
    · intro heq
      omega
    · rintro ⟨heq, hlt⟩
      omega

/-! ## The event -/

/-- The names of the machine are known and can be written. -/
def NamesWritten (o : SystemInformationOutcome) : Prop :=
  o.uname.isSome = true ∧ o.writeOsName = true ∧ o.calloc = true ∧ o.writeOsVersion = true
    ∧ o.writeOsArchitecture = true ∧ o.writeHostName = true

/-- The collection comes to the answer of `sysinfo`. -/
def AsksForMemory (clock : Clock) (o : SystemInformationOutcome) : Prop :=
  o.rootObject = true ∧ o.metadata.Succeeds clock ∧ o.array = true ∧ o.payloadObject = true
    ∧ NamesWritten o

/-- It counts memory in units of nothing. -/
def UnitZero (o : SystemInformationOutcome) : Prop :=
  ∃ info, o.sysinfo = some info ∧ info.memUnit = 0

/-- Nothing fails from there on. -/
def MemoryWritten (o : SystemInformationOutcome) : Prop :=
  o.sysinfo.isSome = true ∧ o.writeTotalMemory = true ∧ o.writeFreeMemory = true
    ∧ o.addObject = true ∧ o.payload = true ∧ o.serialize = true ∧ o.push = true

/-- What is said of the machine. -/
def report (machineInfo : Utsname) (info : Sysinfo) : Json :=
  .object [(SYSTEM_INFORMATION_OS_NAME_KEY, .string machineInfo.sysname),
    (SYSTEM_INFORMATION_OS_VERSION_KEY,
      .string (machineInfo.release ++ " " ++ machineInfo.version)),
    (SYSTEM_INFORMATION_OS_ARCHITECTURE_KEY, .string machineInfo.machine),
    (SYSTEM_INFORMATION_HOST_NAME_KEY, .string machineInfo.nodename),
    (SYSTEM_INFORMATION_TOTAL_PHYSICAL_MEMORY_KEY,
      .number (reportedKb info.totalram info.memUnit)),
    (SYSTEM_INFORMATION_FREE_PHYSICAL_MEMORY_KEY,
      .number (reportedKb info.freeram info.memUnit))]

theorem addOsInformation_cases (o : SystemInformationOutcome) :
    (∀ machineInfo, o.uname = some machineInfo → NamesWritten o →
      ∃ writer, addOsInformation o JsonObjectWriter.init = some (some writer)
        ∧ writer.rootObject = [(SYSTEM_INFORMATION_OS_NAME_KEY, .string machineInfo.sysname),
          (SYSTEM_INFORMATION_OS_VERSION_KEY,
            .string (machineInfo.release ++ " " ++ machineInfo.version)),
          (SYSTEM_INFORMATION_OS_ARCHITECTURE_KEY, .string machineInfo.machine),
          (SYSTEM_INFORMATION_HOST_NAME_KEY, .string machineInfo.nodename)])
    ∧ (¬ NamesWritten o → addOsInformation o JsonObjectWriter.init = some none) := by
  unfold NamesWritten addOsInformation
  cases o.uname with
  | none => exact ⟨fun _ h => absurd h (Option.some_ne_none _).symm, fun _ => rfl⟩
  | some machineInfo =>
      dsimp only
      unfold writeFullKernelVersion
      rw [kernelVersionSummary_eq]
      cases o.writeOsName with
      | false => exact ⟨fun _ _ h => absurd h.2.1 (by decide), fun _ => rfl⟩
      | true =>
      cases o.calloc with
      | false => exact ⟨fun _ _ h => absurd h.2.2.1 (by decide), fun _ => rfl⟩
      | true =>
      cases o.writeOsVersion with
      | false => exact ⟨fun _ _ h => absurd h.2.2.2.1 (by decide), fun _ => rfl⟩
      | true =>
      cases o.writeOsArchitecture with
      | false => exact ⟨fun _ _ h => absurd h.2.2.2.2.1 (by decide), fun _ => rfl⟩
      | true =>
      cases o.writeHostName with
      | false => exact ⟨fun _ _ h => absurd h.2.2.2.2.2 (by decide), fun _ => rfl⟩
      | true =>
          refine ⟨fun _ h _ => ?_, fun h => absurd ⟨rfl, rfl, rfl, rfl, rfl, rfl⟩ h⟩
          obtain rfl := Option.some.inj h
          exact ⟨_, rfl, rfl⟩

/-- The payload: there is none where something fails, and no result where the unit is zero. -/
theorem generatePayload_cases (o : SystemInformationOutcome) :
    (¬ (o.payloadObject = true ∧ NamesWritten o) → generatePayload o = some none)
    ∧ (o.payloadObject = true → NamesWritten o → ∀ machineInfo, o.uname = some machineInfo →
      (o.sysinfo = none → generatePayload o = some none)
      ∧ ∀ info, o.sysinfo = some info →
        generatePayload o = if info.memUnit = 0 then none
          else some (if o.writeTotalMemory = true ∧ o.writeFreeMemory = true ∧ o.addObject = true then
            some (report machineInfo info) else none)) := by
  obtain ⟨hnames, hno⟩ := addOsInformation_cases o
  unfold generatePayload
  constructor
  · intro h
    cases hobject : o.payloadObject with
    | false => rfl
    | true =>
        rw [if_neg (by decide), hno fun hn => h ⟨hobject, hn⟩]
        rfl
  · intro hobject hn machineInfo huname
    obtain ⟨⟨_⟩, hadd, rfl⟩ := hnames machineInfo huname hn
    rw [hobject, if_neg (by decide), hadd]
    dsimp only [Option.bind_eq_bind, Option.bind_some]
    unfold addMemoryInformation
    refine ⟨fun hnone => by rw [hnone]; rfl, fun info hinfo => ?_⟩
    rw [hinfo]
    dsimp only
    by_cases hunit : info.memUnit = 0
    · rw [if_pos hunit, if_pos hunit]
      rfl
    · rw [if_neg hunit, if_neg hunit]
      cases o.writeTotalMemory with
      | false => rfl
      | true =>
      cases o.writeFreeMemory with
      | false => rfl
      | true =>
      cases o.addObject with
      | false => rfl
      | true => rfl

/-- What a collection without a fault has done. -/
structure SystemReported (clock : Clock) (o : SystemInformationOutcome)
    (result : EventCollectorResult) (event : Option Json) : Prop where
  ok_iff : result = .ok ↔ AsksForMemory clock o ∧ MemoryWritten o
  reports : result = .ok → ∃ machineInfo info members, o.uname = some machineInfo
    ∧ o.sysinfo = some info ∧ event = some (.object members)
    ∧ members.lookup GenericEvent.EVENT_NAME_KEY = some (.string SYSTEM_INFORMATION_NAME)
    ∧ members.lookup GenericEvent.PAYLOAD_KEY = some (.array [report machineInfo info])
    ∧ ∀ ram, reportedKb ram info.memUnit = actualKb ram info.memUnit ↔ Measured ram info.memUnit
  nothing : result ≠ .ok → event = none

theorem systemReported_exception {clock : Clock} {o : SystemInformationOutcome}
    (h : ¬ (AsksForMemory clock o ∧ MemoryWritten o)) : SystemReported clock o .exception none where
  ok_iff := ⟨fun hok => EventCollectorResult.noConfusion hok, fun hall => absurd hall h⟩
  reports hok := EventCollectorResult.noConfusion hok
  nothing _ := rfl

/-- The end of a collection. -/
def pushPayload (o : SystemInformationOutcome) (writer : JsonObjectWriter) :
    Option Json → EventCollectorResult × Option Json
  | none => (.exception, none)
  | some payload =>
      if o.payload = true ∧ o.serialize = true ∧ o.push = true then
        (.ok, some ((writer.writeBool GenericEvent.EVENT_IS_EMPTY_KEY false).writeArray
          GenericEvent.PAYLOAD_KEY [payload]).rootValue)
      else (.exception, none)

/-- Metadata first, then the payload. -/
theorem getEvents_cases (clock : Clock) (o : SystemInformationOutcome) :
    (¬ (o.rootObject = true ∧ o.metadata.Succeeds clock ∧ o.array = true) →
      getEvents clock o = some (.exception, none))
    ∧ (o.rootObject = true → o.metadata.Succeeds clock → o.array = true →
      ∃ writer : JsonObjectWriter,
        writer.rootObject.lookup GenericEvent.EVENT_NAME_KEY = some (.string SYSTEM_INFORMATION_NAME)
        ∧ getEvents clock o = (generatePayload o).map (pushPayload o writer)) := by
  obtain ⟨hsome, hnone⟩ := GenericEvent.addMetadata_cases clock o.metadata
    GenericEvent.EVENT_PERIODIC_CATEGORY SYSTEM_INFORMATION_NAME
    GenericEvent.EVENT_TYPE_SECURITY_VALUE SYSTEM_INFORMATION_PAYLOAD_SCHEMA_VERSION
  unfold getEvents
  constructor
  · intro h
    cases hroot : o.rootObject with
    | false => rfl
    | true =>
        rw [if_neg (by decide)]
        by_cases hmetadata : o.metadata.Succeeds clock
        · obtain ⟨writer, hwriter, -⟩ := hsome hmetadata
          rw [hwriter]
          dsimp only
          rw [if_pos (Bool.eq_false_of_not_eq_true fun harray => h ⟨hroot, hmetadata, harray⟩)]
        · rw [hnone hmetadata]
  · intro hroot hmetadata harray
    obtain ⟨writer, hwriter, hname⟩ := hsome hmetadata
    refine ⟨writer, hname, ?_⟩
    rw [hroot, if_neg (by decide), hwriter]
    dsimp only
    rw [harray, if_neg (by decide)]
    cases generatePayload o with
    | none => rfl
    | some payload =>
        cases payload with
        | none => rfl
        | some payload =>
            dsimp only [Option.bind_eq_bind, Option.bind_some, Option.map_some, pushPayload]
            unfold GenericEvent.addPayload
            cases o.payload with
            | false => rfl
            | true =>
            cases o.serialize with
            | false => rfl
            | true =>
            cases o.push with
            | false => rfl
            | true => rfl

/-- What is to be shown of a collection. -/
def Told (clock : Clock) (o : SystemInformationOutcome) : Prop :=
  (getEvents clock o = none ↔ AsksForMemory clock o ∧ UnitZero o)
    ∧ ∀ result event, getEvents clock o = some (result, event) →
      SystemReported clock o result event

theorem told_exception {clock : Clock} {o : SystemInformationOutcome}
    (hevents : getEvents clock o = some (.exception, none))
    (hall : ¬ (AsksForMemory clock o ∧ MemoryWritten o))
    (hunit : ¬ (AsksForMemory clock o ∧ UnitZero o)) : Told clock o := by
  unfold Told
  rw [hevents]
  refine ⟨iff_of_false (Option.some_ne_none _) hunit, fun result event h => ?_⟩
  obtain ⟨rfl, rfl⟩ := Prod.mk.inj (Option.some.inj h)
  exact systemReported_exception hall

/-- The collection has been given the sizes. -/
theorem told_asked {clock : Clock} {o : SystemInformationOutcome} (hasks : AsksForMemory clock o)
    {machineInfo : Utsname} (huname : o.uname = some machineInfo) {info : Sysinfo}
    (hsysinfo : o.sysinfo = some info) : Told clock o := by
  obtain ⟨writer, hname, hevents⟩ :=
    (getEvents_cases clock o).2 hasks.1 hasks.2.1 hasks.2.2.1
  have hpayload := ((generatePayload_cases o).2 hasks.2.2.2.1 hasks.2.2.2.2 machineInfo huname).2
    info hsysinfo
  have hzero : UnitZero o ↔ info.memUnit = 0 := by
    refine ⟨fun ⟨info', hinfo', hunit⟩ => ?_, fun hunit => ⟨info, hsysinfo, hunit⟩⟩
    rw [Option.some.inj (hsysinfo.symm.trans hinfo')]
    exact hunit
  rw [hpayload] at hevents
  by_cases hunit : info.memUnit = 0
  · rw [if_pos hunit] at hevents
    unfold Told
    rw [hevents]
    exact ⟨iff_of_true rfl ⟨hasks, hzero.mpr hunit⟩, fun _ _ h => by cases h⟩
  rw [if_neg hunit] at hevents
  have hnot : ¬ (AsksForMemory clock o ∧ UnitZero o) := fun h => hunit (hzero.mp h.2)
  by_cases hwritten : o.writeTotalMemory = true ∧ o.writeFreeMemory = true ∧ o.addObject = true
  swap
  · rw [if_neg hwritten] at hevents
    exact told_exception hevents (fun h => hwritten ⟨h.2.2.1, h.2.2.2.1, h.2.2.2.2.1⟩) hnot
  rw [if_pos hwritten] at hevents
  dsimp only [Option.map_some, pushPayload] at hevents
  by_cases hpushed : o.payload = true ∧ o.serialize = true ∧ o.push = true
  swap
  · rw [if_neg hpushed] at hevents
    exact told_exception hevents (fun h => hpushed h.2.2.2.2.2) hnot
  rw [if_pos hpushed] at hevents
  unfold Told
  rw [hevents]
  refine ⟨iff_of_false (Option.some_ne_none _) hnot, fun result event h => ?_⟩
  obtain ⟨rfl, rfl⟩ := Prod.mk.inj (Option.some.inj h)
  have hall : MemoryWritten o :=
    ⟨hsysinfo ▸ rfl, hwritten.1, hwritten.2.1, hwritten.2.2, hpushed⟩
  refine ⟨iff_of_true rfl ⟨hasks, hall⟩, fun _ => ?_, fun hne => absurd rfl hne⟩
  refine ⟨machineInfo, info, _, huname, hsysinfo, rfl, ?_, ?_, fun ram => reportedKb_eq_iff ram hunit⟩
  · simp only [JsonObjectWriter.writeArray, JsonObjectWriter.writeBool,
      JsonObjectWriter.lookup_setValue]
    rw [if_neg (by decide), if_neg (by decide)]
    exact hname
  · simp only [JsonObjectWriter.writeArray, JsonObjectWriter.lookup_setValue, if_true]

/--
**The machine is reported as it is, but for its memory.**

Whatever `uname` and `sysinfo` answer, and whatever fails: a collection breaks exactly if it comes to
sizes whose unit is zero. Otherwise it succeeds exactly if nothing fails, and the event that it has
pushed then has one payload, with the names of the machine and the two sizes. A size is that of the
memory exactly if it is counted in bytes and fits.
-/
theorem machine_reported (clock : Clock) (o : SystemInformationOutcome) :
    (getEvents clock o = none ↔ AsksForMemory clock o ∧ UnitZero o)
    ∧ ∀ result event, getEvents clock o = some (result, event) →
      SystemReported clock o result event := by
  obtain ⟨hnot, hstarted⟩ := getEvents_cases clock o
  by_cases hstart : o.rootObject = true ∧ o.metadata.Succeeds clock ∧ o.array = true
  swap
  · have hasks : ¬ AsksForMemory clock o := fun h => hstart ⟨h.1, h.2.1, h.2.2.1⟩
    exact told_exception (hnot hstart) (fun h => hasks h.1) fun h => hasks h.1
  obtain ⟨writer, -, hevents⟩ := hstarted hstart.1 hstart.2.1 hstart.2.2
  obtain ⟨hno, hpayload⟩ := generatePayload_cases o
  by_cases hnames : o.payloadObject = true ∧ NamesWritten o
  swap
  · have hasks : ¬ AsksForMemory clock o := fun h => hnames h.2.2.2
    rw [hno hnames] at hevents
    exact told_exception hevents (fun h => hasks h.1) fun h => hasks h.1
  obtain ⟨machineInfo, huname⟩ := Option.isSome_iff_exists.mp hnames.2.1
  rcases Option.eq_none_or_eq_some o.sysinfo with hsysinfo | ⟨info, hsysinfo⟩
  · rw [(hpayload hnames.1 hnames.2 machineInfo huname).1 hsysinfo] at hevents
    refine told_exception hevents (fun h => ?_) fun ⟨_, info, hinfo, _⟩ => ?_
    · have hsome := h.2.1
      rw [hsysinfo] at hsome
      cases hsome
    · rw [hsysinfo] at hinfo
      cases hinfo
  · exact told_asked ⟨hstart.1, hstart.2.1, hstart.2.2, hnames⟩ huname hsysinfo

end SystemInformationCollector

end SecurityAgent
