import LilacUxB.Words

set_option autoImplicit false

-- xfsbl_image_header.h and .c: the image header table, the partition header and the
-- fields of its attributes.
namespace LilacUxB.Fsbl

-- The codes of xfsbl_error.h these functions return; `device` stands for what the boot
-- device, the crypto blocks and the hooks return besides.
inductive XFsblStatus where
  | success | successNotPartitionOwner | statusSecondaryBootMode | failure
  | errorIhtChecksum | errorPpd | errorNoOfPartitions | errorBhAuthIsNotallowed | errorImageHeaderAcoffset
  | errorPhChecksumFailed | errorXipAuthEncPresent | errorXipExecAddress | errorPartitionLength | errorAddress
  | errorInvalidChecksumType | errorInvalidCpuType | errorLsCpuType | errorInvalidDestDevice
  | errorLoadAddress | errorTcmEccInit | errorAesInitialize | errorHookBeforeBitstreamDownload
  | errorPartitionChecksumFailed | errorBlockSizeSecBs | errorSha2NotSupported | errorDecryptionFail
  | errorBitstreamDecryptionFail | errorHookAfterBitstreamDownload
  | errorPartRsaDecrypt | errorRsaInitialize | errorChunkHashComparison | errorProvidedBufHashStore
  | device (code : UInt32)
deriving DecidableEq, Repr

structure ImageHeaderTable where
  version : UInt32
  noOfPartitions : UInt32
  partitionHeaderAddress : UInt32
  reserved0xC : UInt32
  authCertificateOffset : UInt32
  partitionPresentDevice : UInt32
  reserved : Vector UInt32 9
  checksum : UInt32
deriving DecidableEq, Repr

structure PartitionHeader where
  encryptedDataWordLength : UInt32
  unEncryptedDataWordLength : UInt32
  totalDataWordLength : UInt32
  nextPartitionOffset : UInt32
  destinationExecutionAddress : UInt64
  destinationLoadAddress : UInt64
  dataWordOffset : UInt32
  partitionAttributes : UInt32
  sectionCount : UInt32
  checksumWordOffset : UInt32
  imageHeaderOffset : UInt32
  authCertificateOffset : UInt32
  iv : UInt32
  checksum : UInt32
deriving DecidableEq, Repr

def ImageHeaderTable.words (table : ImageHeaderTable) : List UInt32 :=
  [table.version, table.noOfPartitions, table.partitionHeaderAddress, table.reserved0xC,
    table.authCertificateOffset, table.partitionPresentDevice] ++ table.reserved.toList ++ [table.checksum]

def PartitionHeader.words (header : PartitionHeader) : List UInt32 :=
  [header.encryptedDataWordLength, header.unEncryptedDataWordLength, header.totalDataWordLength,
    header.nextPartitionOffset, header.destinationExecutionAddress.toUInt32,
    (header.destinationExecutionAddress >>> 32).toUInt32, header.destinationLoadAddress.toUInt32,
    (header.destinationLoadAddress >>> 32).toUInt32, header.dataWordOffset, header.partitionAttributes,
    header.sectionCount, header.checksumWordOffset, header.imageHeaderOffset, header.authCertificateOffset,
    header.iv, header.checksum]

def partOwnerFsbl : UInt32 := 0x0
def rsaSignature : UInt32 := 0x8000
def noChecksum : UInt32 := 0x0
def checksumMd5 : UInt32 := 0x1000
def hashSha3 : UInt32 := 0x3000
def encryption : UInt32 := 0x80

def destCpuNone : UInt32 := 0x0
def destCpuA53_0 : UInt32 := 0x100
def destCpuA53_1 : UInt32 := 0x200
def destCpuA53_2 : UInt32 := 0x300
def destCpuA53_3 : UInt32 := 0x400
def destCpuR5_0 : UInt32 := 0x500
def destCpuR5_1 : UInt32 := 0x600
def destCpuR5_L : UInt32 := 0x700
def destCpuPmu : UInt32 := 0x800

def destDevicePl : UInt32 := 0x20
def destDevicePmu : UInt32 := 0x30

def destCpuMask : UInt32 := 0xF00
def a53ExecStMask : UInt32 := 0x8

def getPartitionOwner (header : PartitionHeader) : UInt32 := header.partitionAttributes &&& 0x30000
def isRsaSignaturePresent (header : PartitionHeader) : UInt32 := header.partitionAttributes &&& 0x8000
def getChecksumType (header : PartitionHeader) : UInt32 := header.partitionAttributes &&& 0x7000
def getDestinationCpu (header : PartitionHeader) : UInt32 := header.partitionAttributes &&& destCpuMask
def isEncrypted (header : PartitionHeader) : UInt32 := header.partitionAttributes &&& 0x80
def getDestinationDevice (header : PartitionHeader) : UInt32 := header.partitionAttributes &&& 0x70
def getA53ExecState (header : PartitionHeader) : UInt32 := header.partitionAttributes &&& a53ExecStMask

-- A partition without a destination is for the CPU that runs the loader.
def destinationCpu (runningCpu : UInt32) (header : PartitionHeader) : UInt32 :=
  if getDestinationCpu header = destCpuNone then runningCpu else getDestinationCpu header

def getBlockSize (header : PartitionHeader) : UInt32 :=
  let size := (header.partitionAttributes &&& 0x700000) >>> 20
  if size ≠ 0 then (2 <<< size) * (1024 * 1024) else size

def validateChecksum (buffer : List UInt32) : XFsblStatus :=
  if buffer.length < 2 then .failure
  else
    let checksum := (buffer.take (buffer.length - 1)).foldl (fun sum word => sum + word) 0 ^^^ 0xFFFFFFFF
    if buffer.getD (buffer.length - 1) 0 ≠ checksum then .failure else .success

def xihPpdSata : UInt32 := 0xB
def xihMinPartitions : UInt32 := 1
def xihMaxPartitions : UInt32 := 32

def validateImageHeaderTable (table : ImageHeaderTable) : XFsblStatus :=
  if validateChecksum table.words ≠ .success then .errorIhtChecksum
  else if table.partitionPresentDevice > xihPpdSata then .errorPpd
  else if table.partitionPresentDevice ≠ 0 then .statusSecondaryBootMode
  else if table.noOfPartitions ≤ xihMinPartitions ∨ table.noOfPartitions > xihMaxPartitions then .errorNoOfPartitions
  else .success

end LilacUxB.Fsbl
