import SecurityAgent.Collectors.GenericEvent
import SecurityAgent.Collectors.LocalUsersCollector

/-!
# What the machine is: `system_information_collector.c`

The names of the machine come from `uname` and its memory from `sysinfo`, which counts it in units.
The code divides by the unit where it should multiply, so that the memory it reports is what the
machine has exactly if the unit is a byte, or there is next to no memory (`reportedKb_eq_iff`).

Where memory behind a buffer is written or read, or something is divided by zero, there is no
result.
-/

namespace SecurityAgent

open Utils

/-- `struct utsname`: five texts of at most 64 characters. -/
structure Utsname where
  sysname : String
  nodename : String
  release : String
  version : String
  machine : String
  length_release : release.length ≤ 64
  length_version : version.length ≤ 64
  nul_not_mem_release : nul ∉ release.toList
  nul_not_mem_version : nul ∉ version.toList

/-- `struct sysinfo`, as far as it is looked at. -/
structure Sysinfo where
  totalram : UInt64
  freeram : UInt64
  /-- The sizes are in units of so many bytes. -/
  memUnit : UInt32

/-- What the environment answers in `SystemInformationCollector_GetEvents`. -/
structure SystemInformationOutcome where
  rootObject : Bool
  metadata : MetadataOutcome
  /-- `JsonArrayWriter_Init`. -/
  array : Bool
  payloadObject : Bool
  uname : Option Utsname
  writeOsName : Bool
  calloc : Bool
  writeOsVersion : Bool
  writeOsArchitecture : Bool
  writeHostName : Bool
  sysinfo : Option Sysinfo
  writeTotalMemory : Bool
  writeFreeMemory : Bool
  /-- `JsonArrayWriter_AddObject`. -/
  addObject : Bool
  /-- The writes of `GenericEvent_AddPayload`. -/
  payload : Bool
  serialize : Bool
  push : Bool

namespace SystemInformationCollector

def SYSTEM_INFORMATION_NAME : String := "SystemInformation"
def SYSTEM_INFORMATION_PAYLOAD_SCHEMA_VERSION : String := "1.0"
def SYSTEM_INFORMATION_OS_NAME_KEY : String := "OSName"
def SYSTEM_INFORMATION_OS_VERSION_KEY : String := "OSVersion"
def SYSTEM_INFORMATION_OS_ARCHITECTURE_KEY : String := "OsArchitecture"
def SYSTEM_INFORMATION_HOST_NAME_KEY : String := "HostName"
def SYSTEM_INFORMATION_TOTAL_PHYSICAL_MEMORY_KEY : String := "TotalPhysicalMemoryInKB"
def SYSTEM_INFORMATION_FREE_PHYSICAL_MEMORY_KEY : String := "FreePhysicalMemoryInKB"

/-- The buffer of `SystemInformationCollector_WriteFullKernelVersion`. -/
def kernelVersionSummary (machineInfo : Utsname) : Option String := do
  let releaseLength := UInt32.ofNat machineInfo.release.length
  let versionLength := UInt32.ofNat machineInfo.version.length
  -- include space and null
  let totalSize := releaseLength + 1 + versionLength + 1
  let buffer ← memcpyAt (List.replicate totalSize.toNat nul) 0
    (machineInfo.release.toList.take releaseLength.toNat)
  let buffer ← memcpyAt buffer releaseLength.toNat [' ']
  let buffer ← memcpyAt buffer (releaseLength + 1).toNat
    (machineInfo.version.toList.take versionLength.toNat)
  cStringIn buffer

/-- `SystemInformationCollector_WriteFullKernelVersion`: what it makes of the writer, if it returns
`EVENT_COLLECTOR_OK`. -/
def writeFullKernelVersion (o : SystemInformationOutcome) (sysinfoPayloadWriter : JsonObjectWriter)
    (machineInfo : Utsname) : Option (Option JsonObjectWriter) :=
  if o.calloc = false then some none
  else
    (kernelVersionSummary machineInfo).map fun summary =>
      if o.writeOsVersion then
        some (sysinfoPayloadWriter.writeString SYSTEM_INFORMATION_OS_VERSION_KEY summary)
      else none

/-- `SystemInformationCollector_AddOsInformation`. -/
def addOsInformation (o : SystemInformationOutcome) (sysinfoPayloadWriter : JsonObjectWriter) :
    Option (Option JsonObjectWriter) :=
  match o.uname with
  | none => some none
  | some machineInfo =>
      if o.writeOsName = false then some none
      else do
        match ← writeFullKernelVersion o (sysinfoPayloadWriter.writeString
            SYSTEM_INFORMATION_OS_NAME_KEY machineInfo.sysname) machineInfo with
        | none => return none
        | some sysinfoPayloadWriter =>
            if o.writeOsArchitecture = false ∨ o.writeHostName = false then return none
            else return some ((sysinfoPayloadWriter.writeString
              SYSTEM_INFORMATION_OS_ARCHITECTURE_KEY machineInfo.machine).writeString
              SYSTEM_INFORMATION_HOST_NAME_KEY machineInfo.nodename)

/-- `totalSizeInKb` and `freeSizeInKb`. -/
def sizeInKb (ram : UInt64) (memUnit : UInt32) : UInt64 := ram / memUnit.toUInt64 / 1024

/-- `SystemInformationCollector_AddMemoryInformation`. -/
def addMemoryInformation (o : SystemInformationOutcome) (sysinfoPayloadWriter : JsonObjectWriter) :
    Option (Option JsonObjectWriter) :=
  match o.sysinfo with
  | none => some none
  | some info =>
      if info.memUnit = 0 then none
      else if o.writeTotalMemory = false ∨ o.writeFreeMemory = false then some none
      else some (some ((sysinfoPayloadWriter.writeInt SYSTEM_INFORMATION_TOTAL_PHYSICAL_MEMORY_KEY
        (sizeInKb info.totalram info.memUnit).toUInt32.toInt32).writeInt
        SYSTEM_INFORMATION_FREE_PHYSICAL_MEMORY_KEY
        (sizeInKb info.freeram info.memUnit).toUInt32.toInt32))

/-- `SystemInformationCollector_GeneratePayload`: what it adds to the array, if it returns
`EVENT_COLLECTOR_OK`. -/
def generatePayload (o : SystemInformationOutcome) : Option (Option Json) :=
  if o.payloadObject = false then some none
  else do
    match ← addOsInformation o JsonObjectWriter.init with
    | none => return none
    | some sysinfoPayloadWriter =>
        match ← addMemoryInformation o sysinfoPayloadWriter with
        | none => return none
        | some sysinfoPayloadWriter =>
            if o.addObject then return some sysinfoPayloadWriter.rootValue else return none

/-- `SystemInformationCollector_GetEvents`: its result, and the event that it pushes. -/
def getEvents (clock : Clock) (o : SystemInformationOutcome) :
    Option (EventCollectorResult × Option Json) :=
  if o.rootObject = false then some (.exception, none)
  else
    match GenericEvent.addMetadata clock o.metadata JsonObjectWriter.init
        GenericEvent.EVENT_PERIODIC_CATEGORY SYSTEM_INFORMATION_NAME
        GenericEvent.EVENT_TYPE_SECURITY_VALUE SYSTEM_INFORMATION_PAYLOAD_SCHEMA_VERSION with
    | none => some (.exception, none)
    | some sysinfoEventWriter =>
        if o.array = false then some (.exception, none)
        else do
          match ← generatePayload o with
          | none => return (.exception, none)
          | some sysinfoPayload =>
              match GenericEvent.addPayload o.payload sysinfoEventWriter [sysinfoPayload] with
              | none => return (.exception, none)
              | some sysinfoEventWriter =>
                  if o.serialize = true ∧ o.push = true then
                    return (.ok, some sysinfoEventWriter.rootValue)
                  else return (.exception, none)

end SystemInformationCollector

end SecurityAgent
