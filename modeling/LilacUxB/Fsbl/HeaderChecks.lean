import LilacUxB.Regions
import LilacUxB.Fsbl.Headers

set_option autoImplicit false

-- The checks xfsbl_image_header.c makes on a partition header before anything is copied.
namespace LilacUxB.Fsbl

-- What the build takes from xparameters.h and from the processor it is compiled for: the
-- width of PTRSIZE and the ends of the DDR, the high one for 64-bit builds only. The bounds
-- are those of the address map in xfsbl_translation_table.S.
structure MemoryMap where
  narrowPointer : Bool
  psDdrEnd : Option UInt64
  psHiDdr : Option (UInt64 × UInt64)
  psDdrLow : ∀ finish ∈ psDdrEnd, finish.toNat < 0x80000000
  psHiDdrHigh : ∀ range ∈ psHiDdr, 0x800000000 ≤ range.1.toNat ∧ range.2.toNat < 0x1000000000
  psHiDdrWide : narrowPointer = true → psHiDdr = none
  psHiDdrBesides : psDdrEnd = none → psHiDdr = none

def pmuRamStartAddress : UInt64 := 0xFFDC0000
def pmuRamEndAddress : UInt64 := 0xFFDDFFFF
def r5TcmBankLength : UInt32 := 0x10000
def r5BtcmStartAddress : UInt64 := 0x20000
def r50HighAtcmStartAddress : UInt64 := 0xFFE00000
def r51HighAtcmStartAddress : UInt64 := 0xFFE90000
def ocmStartAddress : UInt64 := 0xFFFEA000
def ocmEndAddress : UInt64 := 0xFFFFFFFF
def dummyPlAddr : UInt64 := 0xFFFFFFFF
def qspiLinearBaseAddressStart : UInt64 := 0xC0000000
def qspiLinearBaseAddressEnd : UInt64 := 0xDFFFFFFF

def inTcmBank (address : UInt64) : Bool :=
  address < 0x10000 || (r5BtcmStartAddress ≤ address && address < r5BtcmStartAddress + 0x10000)

def inPsDdr (map : MemoryMap) (address : UInt64) : Bool :=
  match map.psDdrEnd with
  | none => false
  | some finish => address ≤ finish

def inPsHiDdr (map : MemoryMap) (address : UInt64) : Bool :=
  match map.psHiDdr with
  | none => false
  | some (start, finish) => start ≤ address && address ≤ finish

def checkValidMemoryAddress (map : MemoryMap) (address : UInt64) (cpuId devId : UInt32) : XFsblStatus :=
  if cpuId = destCpuPmu ∧ pmuRamStartAddress ≤ address ∧ address < pmuRamEndAddress then .success
  else if (cpuId = destCpuR5_0 ∨ cpuId = destCpuR5_1) ∧ inTcmBank address then .success
  else if cpuId = destCpuR5_L ∧ address < 0x40000 then .success
  else if inPsDdr map address then .success
  else if inPsHiDdr map address then .success
  else if ocmStartAddress ≤ address ∧ address < ocmEndAddress then .success
  else if devId = destDevicePl ∧ address = dummyPlAddr then .success
  else .errorAddress

def psOnlyReset : UInt32 := 1
def apuOnlyReset : UInt32 := 2

def isA53 (cpu : UInt32) : Bool := destCpuA53_0 ≤ cpu && cpu ≤ destCpuA53_3

def isA53Core (cpu : UInt32) : Bool :=
  cpu = destCpuA53_0 || cpu = destCpuA53_1 || cpu = destCpuA53_2 || cpu = destCpuA53_3

def authenticated (header : PartitionHeader) : Bool := isRsaSignaturePresent header = rsaSignature
def encrypted (header : PartitionHeader) : Bool := isEncrypted header = encryption

def lengthsAgree (header : PartitionHeader) : Bool :=
  match authenticated header, encrypted header with
  | false, false =>
      header.unEncryptedDataWordLength = header.encryptedDataWordLength &&
        header.encryptedDataWordLength = header.totalDataWordLength
  | true, false =>
      header.unEncryptedDataWordLength = header.encryptedDataWordLength &&
        header.encryptedDataWordLength < header.totalDataWordLength
  | false, true =>
      header.unEncryptedDataWordLength < header.encryptedDataWordLength &&
        header.encryptedDataWordLength = header.totalDataWordLength
  | true, true =>
      header.unEncryptedDataWordLength < header.encryptedDataWordLength &&
        header.encryptedDataWordLength < header.totalDataWordLength

-- `encOnly` is the ENC_ONLY fuse.
def validatePartitionHeader (map : MemoryMap) (encOnly : Bool) (header : PartitionHeader)
    (runningCpu resetType : UInt32) : XFsblStatus :=
  let cpu := destinationCpu runningCpu header
  let execution := header.destinationExecutionAddress
  if encOnly ∧ ¬ encrypted header then .failure
  else if resetType = apuOnlyReset ∧ ¬ isA53 (getDestinationCpu header) then .successNotPartitionOwner
  else if header.unEncryptedDataWordLength = 0 ∧ (authenticated header ∨ encrypted header) then .errorXipAuthEncPresent
  else if header.unEncryptedDataWordLength = 0 ∧
      (execution < qspiLinearBaseAddressStart ∨ execution > qspiLinearBaseAddressEnd) then .errorXipExecAddress
  else if ¬ lengthsAgree header then .errorPartitionLength
  else if checkValidMemoryAddress map header.destinationLoadAddress cpu (getDestinationDevice header) ≠ .success then
    .errorAddress
  else if (runningCpu = destCpuR5_0 ∨ runningCpu = destCpuR5_L) ∧ isA53Core cpu ∧
      header.destinationLoadAddress < 0x80000 then .errorAddress
  else if getChecksumType header ≠ noChecksum ∧ getChecksumType header ≠ checksumMd5 ∧
      getChecksumType header ≠ hashSha3 then .errorInvalidChecksumType
  else if cpu > destCpuPmu then .errorInvalidCpuType
  else if ((cpu = destCpuR5_0 ∨ cpu = destCpuR5_1) ∧ runningCpu = destCpuR5_L) ∨
      (cpu = destCpuR5_L ∧ runningCpu = destCpuR5_0) then .errorLsCpuType
  else if getDestinationDevice header > destDevicePmu then .errorInvalidDestDevice
  else .success

theorem passed_check (Refused : Prop) [Decidable Refused] (error rest : XFsblStatus)
    (passed : (if Refused then error else rest) = .success) (failing : error ≠ .success) :
    ¬ Refused ∧ rest = .success := by
  by_cases refused : Refused
  · rw [if_pos refused] at passed
    exact absurd passed failing
  · rw [if_neg refused] at passed
    exact ⟨refused, passed⟩

theorem accepted_header (map : MemoryMap) (encOnly : Bool) (header : PartitionHeader) (runningCpu resetType : UInt32)
    (accepted : validatePartitionHeader map encOnly header runningCpu resetType = .success) :
    checkValidMemoryAddress map header.destinationLoadAddress (destinationCpu runningCpu header)
        (getDestinationDevice header) = .success ∧
      destinationCpu runningCpu header ≤ destCpuPmu := by
  obtain ⟨_, encryptionAllowed⟩ := passed_check _ _ _ accepted (by decide)
  obtain ⟨_, owned⟩ := passed_check _ _ _ encryptionAllowed (by decide)
  obtain ⟨_, plainXip⟩ := passed_check _ _ _ owned (by decide)
  obtain ⟨_, xipAddress⟩ := passed_check _ _ _ plainXip (by decide)
  obtain ⟨_, lengths⟩ := passed_check _ _ _ xipAddress (by decide)
  obtain ⟨validAddress, addressChecked⟩ := passed_check _ _ _ lengths (by decide)
  obtain ⟨_, aboveTcm⟩ := passed_check _ _ _ addressChecked (by decide)
  obtain ⟨_, checksumType⟩ := passed_check _ _ _ aboveTcm (by decide)
  obtain ⟨validCpu, _⟩ := passed_check _ _ _ checksumType (by decide)
  exact ⟨not_not.mp validAddress, UInt32.not_lt.mp validCpu⟩

end LilacUxB.Fsbl
