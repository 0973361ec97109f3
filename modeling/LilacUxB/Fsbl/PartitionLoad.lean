import LilacUxB.Fsbl.PartitionCopy

set_option autoImplicit false

-- xfsbl_partition_load.c: loading one partition, from its header to the hand-off table.
namespace LilacUxB.Fsbl

def partitionHeaderValidation (map : MemoryMap) (outcomes : Outcomes) (fsbl : XFsblPs) (header : PartitionHeader) :
    XFsblStatus :=
  if validateChecksum header.words ≠ .success then .errorPhChecksumFailed
  else if getPartitionOwner header ≠ partOwnerFsbl then .successNotPartitionOwner
  else validatePartitionHeader map outcomes.encOnly header fsbl.processorID fsbl.resetReason

def sha2Mask : UInt32 := 0x3000

def onlyIf (done : Bool) (status : XFsblStatus) : XFsblStatus :=
  if done then status else .success

def failWith (status error : XFsblStatus) : XFsblStatus :=
  if status = .success then .success else error

def loadAddressStatus (map : MemoryMap) (fsbl : XFsblPs) (header : PartitionHeader) : XFsblStatus :=
  match getLoadAddress map (destinationCpu fsbl.processorID header) (ptrSize map header.destinationLoadAddress)
    (header.totalDataWordLength * 4) with
  | .error status => status
  | .ok _ => .success

-- Everything between the reset check and the hand-off table, in the order of the source;
-- the first step that fails ends the validation.
def validationSteps (map : MemoryMap) (outcomes : Outcomes) (fsbl : XFsblPs) (header : PartitionHeader) :
    List XFsblStatus :=
  let bitstream : Bool := getDestinationDevice header = destDevicePl
  let checksummed : Bool := getChecksumType header ≠ noChecksum
  let signed := authenticated header
  let secret := encrypted header
  [onlyIf (signed || secret || checksummed) (loadAddressStatus map fsbl header),
    onlyIf secret (failWith outcomes.aesInitialize .errorAesInitialize),
    onlyIf bitstream (failWith outcomes.hookBeforeBSDownload .errorHookBeforeBitstreamDownload),
    onlyIf bitstream outcomes.pcapInit,
    onlyIf checksummed (failWith outcomes.calcualteCheckSum .errorPartitionChecksumFailed),
    onlyIf (signed && !bitstream) outcomes.authentication,
    onlyIf (signed && bitstream) (if getBlockSize header = 0 then .errorBlockSizeSecBs else .success),
    onlyIf (signed && bitstream)
      (if fsbl.bootHdrAttributes &&& sha2Mask = sha2Mask then .errorSha2NotSupported else .success),
    onlyIf (signed && bitstream) outcomes.secPlPartition,
    onlyIf (secret && !bitstream) (failWith outcomes.aesDecrypt .errorDecryptionFail),
    onlyIf (secret && bitstream && !signed) (failWith outcomes.aesDecrypt .errorBitstreamDecryptionFail),
    onlyIf (bitstream && !signed && !secret) outcomes.writeToPcap,
    onlyIf bitstream outcomes.plWaitForDone,
    onlyIf bitstream (failWith outcomes.hookAfterBSDownload .errorHookAfterBitstreamDownload)]

def firstFailure (steps : List XFsblStatus) : XFsblStatus :=
  (steps.find? (fun status => status ≠ .success)).getD .success

def partitionValidation (map : MemoryMap) (outcomes : Outcomes) (fsbl : XFsblPs) (header : PartitionHeader) :
    XFsblStatus × XFsblPs :=
  let cpu := destinationCpu fsbl.processorID header
  let status := firstFailure (validationSteps map outcomes fsbl header)
  if getDestinationDevice header = destDevicePl ∧ fsbl.resetReason = psOnlyReset then (.success, fsbl)
  else if status ≠ .success then (status, fsbl)
  else if getDestinationDevice header ≠ destDevicePl ∧ cpu ≠ destCpuPmu then (.success, updateHandoff fsbl cpu header)
  else (.success, fsbl)

def partitionLoad (map : MemoryMap) (outcomes : Outcomes) (fsbl : XFsblPs) (header : PartitionHeader) :
    XFsblStatus × XFsblPs :=
  match partitionHeaderValidation map outcomes fsbl header with
  | .successNotPartitionOwner => (.success, fsbl)
  | .success =>
      let copied := partitionCopy map outcomes fsbl header
      if copied.status ≠ .success then (copied.status, copied.fsbl)
      else partitionValidation map outcomes copied.fsbl header
  | status => (status, fsbl)

end LilacUxB.Fsbl
