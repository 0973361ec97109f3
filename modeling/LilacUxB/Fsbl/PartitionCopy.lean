import LilacUxB.Fsbl.HeaderChecks

set_option autoImplicit false

-- xfsbl_partition_load.c: where a partition is loaded and how it is copied there.
namespace LilacUxB.Fsbl

structure HandoffValues where
  cpuSettings : UInt32
  handoffAddress : UInt64
deriving DecidableEq, Repr

structure XFsblPs where
  processorID : UInt32
  bootHdrAttributes : UInt32
  imageOffsetAddress : UInt32
  resetReason : UInt32
  tcmEccInitStatus : UInt32
  handoffCpuNo : UInt32
  handoffValues : Nat → HandoffValues

inductive Target where
  | authBuffer
  | memory (address : UInt64)
deriving DecidableEq, Repr

structure DeviceCall where
  srcAddress : UInt32
  target : Target
  length : UInt32
deriving DecidableEq, Repr

structure Outcomes where
  encOnly : Bool
  deviceCopy : DeviceCall → XFsblStatus
  powerUpMemory : XFsblStatus
  atcmEccInit : XFsblStatus
  btcmEccInit : XFsblStatus
  aesInitialize : XFsblStatus
  hookBeforeBSDownload : XFsblStatus
  pcapInit : XFsblStatus
  calcualteCheckSum : XFsblStatus
  authentication : XFsblStatus
  secPlPartition : XFsblStatus
  aesDecrypt : XFsblStatus
  writeToPcap : XFsblStatus
  plWaitForDone : XFsblStatus
  hookAfterBSDownload : XFsblStatus

def authCertMinSize : UInt32 := 0xEC0
def partitionWordLength : UInt32 := 4

def ptrSize (map : MemoryMap) (address : UInt64) : UInt64 :=
  if map.narrowPointer then address.toUInt32.toUInt64 else address

def ddrTempAddress : UInt64 := 0x100000

def getLoadAddress (map : MemoryMap) (cpu : UInt32) (address : UInt64) (length : UInt32) : Except XFsblStatus UInt64 :=
  if cpu = destCpuR5_0 ∧ inTcmBank address then
    if length > r5TcmBankLength then .error .errorLoadAddress else .ok (ptrSize map (r50HighAtcmStartAddress + address))
  else if cpu = destCpuR5_1 ∧ inTcmBank address then
    if length > r5TcmBankLength then .error .errorLoadAddress else .ok (ptrSize map (r51HighAtcmStartAddress + address))
  else if cpu = destCpuR5_L ∧ address < 0x40000 then
    if length > r5TcmBankLength * 4 then .error .errorLoadAddress
    else .ok (ptrSize map (r50HighAtcmStartAddress + address))
  else .ok address

def r50TcmEccInitStatus : UInt32 := 1
def r51TcmEccInitStatus : UInt32 := 2

def wholeTcm (cpu : UInt32) : Bool := cpu = destCpuA53_0 || cpu = destCpuR5_L

def eccInitStatus (cpu : UInt32) : UInt32 :=
  if wholeTcm cpu then r50TcmEccInitStatus ||| r51TcmEccInitStatus
  else if cpu = destCpuR5_0 then r50TcmEccInitStatus
  else if cpu = destCpuR5_1 then r51TcmEccInitStatus
  else 0

-- The banks of R5-L and of the A53 are cleared in one go, those of one R5 one after the other.
def tcmEccInit (outcomes : Outcomes) (cpu : UInt32) (fsbl : XFsblPs) : XFsblStatus × XFsblPs :=
  if outcomes.atcmEccInit = .success ∧ (wholeTcm cpu ∨ outcomes.btcmEccInit = .success) then
    (.success, { fsbl with tcmEccInitStatus := eccInitStatus cpu })
  else (.errorTcmEccInit, fsbl)

def inRange (address start length : UInt64) : Bool := start ≤ address && address < start + length

def inHighTcm (address atcm : UInt64) : Bool := inRange address atcm 0x10000 || inRange address (atcm + 0x20000) 0x10000

def tcmTarget (cpu : UInt32) (address : UInt64) : Bool :=
  (cpu = destCpuR5_0 && inHighTcm address r50HighAtcmStartAddress) ||
    (cpu = destCpuR5_1 && inHighTcm address r51HighAtcmStartAddress) ||
    (cpu = destCpuR5_L && inRange address r50HighAtcmStartAddress 0x40000)

def tcmEccCleared (cpu : UInt32) (fsbl : XFsblPs) : Bool :=
  let both := r50TcmEccInitStatus ||| r51TcmEccInitStatus
  if cpu = destCpuR5_0 then fsbl.tcmEccInitStatus &&& r50TcmEccInitStatus ≠ 0
  else if cpu = destCpuR5_1 then fsbl.tcmEccInitStatus &&& r51TcmEccInitStatus ≠ 0
  else fsbl.tcmEccInitStatus &&& both = both

def configureMemory (outcomes : Outcomes) (cpu : UInt32) (address : UInt64) (fsbl : XFsblPs) : XFsblStatus × XFsblPs :=
  if ¬ tcmTarget cpu address then (.success, fsbl)
  else if fsbl.processorID ≠ cpu ∧ outcomes.powerUpMemory ≠ .success then (outcomes.powerUpMemory, fsbl)
  else if tcmEccCleared cpu fsbl then (.success, fsbl)
  else tcmEccInit outcomes cpu fsbl

def checkHandoffCpu (fsbl : XFsblPs) (cpu : UInt32) : XFsblStatus :=
  if (List.range fsbl.handoffCpuNo.toNat).any (fun index => (fsbl.handoffValues index).cpuSettings &&& destCpuMask = cpu)
  then .failure else .success

def handoffEntry (cpu : UInt32) (header : PartitionHeader) : HandoffValues :=
  ⟨cpu ||| getA53ExecState header, header.destinationExecutionAddress⟩

-- The handoff address is kept for the first application of a CPU only.
def updateHandoff (fsbl : XFsblPs) (cpu : UInt32) (header : PartitionHeader) : XFsblPs :=
  if checkHandoffCpu fsbl cpu = .success then
    { fsbl with
      handoffValues := fun index =>
        if index = fsbl.handoffCpuNo.toNat then handoffEntry cpu header else fsbl.handoffValues index
      handoffCpuNo := fsbl.handoffCpuNo + 1 }
  else fsbl

structure CopyResult where
  status : XFsblStatus
  fsbl : XFsblPs
  calls : List DeviceCall

-- The certificate of a signed partition goes to its own buffer, unless it is a bitstream.
def certified (header : PartitionHeader) : Bool :=
  authenticated header && getDestinationDevice header ≠ destDevicePl

def copyLength (header : PartitionHeader) : UInt32 :=
  if certified header then header.totalDataWordLength * partitionWordLength - authCertMinSize
  else header.totalDataWordLength * partitionWordLength

def copyToMemory (map : MemoryMap) (outcomes : Outcomes) (fsbl : XFsblPs) (header : PartitionHeader) (cpu srcAddress : UInt32)
    (loadAddress : UInt64) (calls : List DeviceCall) : CopyResult :=
  match getLoadAddress map cpu loadAddress (copyLength header) with
  | .error status => ⟨status, fsbl, calls⟩
  | .ok address =>
      let configured := configureMemory outcomes cpu address fsbl
      let copy := DeviceCall.mk srcAddress (.memory address) (copyLength header)
      if configured.1 ≠ .success then ⟨configured.1, configured.2, calls⟩
      else ⟨outcomes.deviceCopy copy, configured.2, calls ++ [copy]⟩

def partitionCopy (map : MemoryMap) (outcomes : Outcomes) (fsbl : XFsblPs) (header : PartitionHeader) : CopyResult :=
  let cpu := destinationCpu fsbl.processorID header
  let srcAddress := fsbl.imageOffsetAddress + header.dataWordOffset * partitionWordLength
  let certificate := DeviceCall.mk (srcAddress + copyLength header) .authBuffer authCertMinSize
  let calls := if certified header then [certificate] else []
  let loadAddress := ptrSize map header.destinationLoadAddress
  let bitstream := getDestinationDevice header = destDevicePl
  if header.unEncryptedDataWordLength = 0 then ⟨.success, updateHandoff fsbl cpu header, []⟩
  else if certified header ∧ outcomes.deviceCopy certificate ≠ .success then
    ⟨outcomes.deviceCopy certificate, fsbl, calls⟩
  else if bitstream ∧ fsbl.resetReason = psOnlyReset then ⟨.success, fsbl, calls⟩
  else if bitstream ∧ loadAddress = dummyPlAddr then
    if map.psDdrEnd = none then ⟨.success, fsbl, calls⟩
    else copyToMemory map outcomes fsbl header cpu srcAddress ddrTempAddress calls
  else copyToMemory map outcomes fsbl header cpu srcAddress loadAddress calls

def twoGigabytes : MemoryMap where
  narrowPointer := false
  psDdrEnd := some 0x7FEFFFFF
  psHiDdr := none
  psDdrLow := by simp
  psHiDdrHigh := by simp
  psHiDdrWide := fun _ => rfl
  psHiDdrBesides := fun _ => rfl

def allSucceed : Outcomes :=
  ⟨false, fun _ => .success, .success, .success, .success, .success, .success, .success, .success, .success, .success,
    .success, .success, .success, .success⟩

def a53Loader : XFsblPs := ⟨destCpuA53_0, 0, 0, 0, 0, 0, fun _ => ⟨0, 0⟩⟩

def r5Partition (load : UInt64) (words : UInt32) : PartitionHeader :=
  ⟨words, words, words, 0, load, load, 0x1000, 0x510, 1, 0, 0, 0, 0, 0⟩

end LilacUxB.Fsbl
