import LilacUxB.Bytes
import LilacUxB.Fsbl.Headers

set_option autoImplicit false

-- XFsbl_ReadImageHeader: the header table and the chain of partition headers, from the boot
-- device or from the copy of them in OCM.
namespace LilacUxB.Fsbl

open Bytes

def imageHeaderTableOf (bytes : Nat → UInt8) : ImageHeaderTable where
  version := word32 bytes 0x0
  noOfPartitions := word32 bytes 0x4
  partitionHeaderAddress := word32 bytes 0x8
  reserved0xC := word32 bytes 0xC
  authCertificateOffset := word32 bytes 0x10
  partitionPresentDevice := word32 bytes 0x14
  reserved := Vector.ofFn (fun index => word32 bytes (0x18 + 4 * index.val))
  checksum := word32 bytes 0x3C

def partitionHeaderOf (bytes : Nat → UInt8) : PartitionHeader where
  encryptedDataWordLength := word32 bytes 0x0
  unEncryptedDataWordLength := word32 bytes 0x4
  totalDataWordLength := word32 bytes 0x8
  nextPartitionOffset := word32 bytes 0xC
  destinationExecutionAddress := word64 bytes 0x10
  destinationLoadAddress := word64 bytes 0x18
  dataWordOffset := word32 bytes 0x20
  partitionAttributes := word32 bytes 0x24
  sectionCount := word32 bytes 0x28
  checksumWordOffset := word32 bytes 0x2C
  imageHeaderOffset := word32 bytes 0x30
  authCertificateOffset := word32 bytes 0x34
  iv := word32 bytes 0x38
  checksum := word32 bytes 0x3C

structure ImageHeader where
  imageHeaderTable : ImageHeaderTable
  partitionHeader : Nat → PartitionHeader

structure PartitionEntry where
  entryPoint : UInt64
  partitionFlags : UInt64
deriving DecidableEq, Repr

structure ATFHandoffParams where
  magicValue : List Char
  numEntries : UInt32
  entry : Nat → PartitionEntry

-- Where the headers are read from: DeviceOps with the offset of the image in the flash, whose
-- addresses have 32 bits, or (DeviceOps = NULL) the bytes from ImageHdr on.
inductive HeaderSource where
  | device (flash : UInt32 → UInt8) (imageOffset : UInt32) (deviceCopy : UInt32 → XFsblStatus)
  | ocm (imageHdr : Nat → UInt8)

def flashBytes (flash : UInt32 → UInt8) (address : UInt32) (index : Nat) : UInt8 := flash (address + UInt32.ofNat index)

def readRecord (source : HeaderSource) (tableOffset offset : UInt32) : XFsblStatus × (Nat → UInt8) :=
  match source with
  | .device flash imageOffset deviceCopy => (deviceCopy (imageOffset + offset), flashBytes flash (imageOffset + offset))
  | .ocm imageHdr => (.success, fun index => imageHdr ((offset - tableOffset).toNat + index))

structure ReadState where
  imageHeader : ImageHeader
  atfHandoffParams : ATFHandoffParams
  storage6Written : Bool

def maxEntriesForAtf : UInt32 := 8

def atfPartitionFlags (attributes : UInt32) : UInt32 :=
  let flags := (attributes &&& a53ExecStMask) >>> 3 ||| (attributes &&& 0x40000) >>> 17 ||| (attributes &&& 0x1) <<< 2 |||
    (attributes &&& 0x6) <<< 2
  if attributes &&& destCpuMask = destCpuA53_0 then flags ||| 0x00
  else if attributes &&& destCpuMask = destCpuA53_1 then flags ||| 0x20
  else if attributes &&& destCpuMask = destCpuA53_2 then flags ||| 0x40
  else flags ||| 0x60

def setATFHandoffParameters (header : PartitionHeader) (entryCount : UInt32) (params : ATFHandoffParams) :
    ATFHandoffParams where
  magicValue := if entryCount = 0 then ['X', 'L', 'N', 'X'] else params.magicValue
  numEntries := entryCount + 1
  entry := fun index =>
    if index = entryCount.toNat then
      ⟨header.destinationExecutionAddress, (atfPartitionFlags header.partitionAttributes).toUInt64⟩
    else params.entry index

-- The first partition of an application, other than the first two of the image, is handed to ATF.
def atfEntry (runningCpu : UInt32) (index : Nat) (entryCount : UInt32) (header : PartitionHeader) : Bool :=
  1 < index && entryCount < maxEntriesForAtf && header.destinationExecutionAddress ≠ 0 &&
    destCpuA53_0 ≤ destinationCpu runningCpu header && destinationCpu runningCpu header ≤ destCpuA53_3

def storeHeader (index : Nat) (header : PartitionHeader) (state : ReadState) : ReadState :=
  { state with
    imageHeader.partitionHeader := fun other =>
      if other = index then header else state.imageHeader.partitionHeader other }

def readPartitionHeaders (source : HeaderSource) (runningCpu tableOffset : UInt32) :
    Nat → Nat → UInt32 → UInt32 → ReadState → XFsblStatus × ReadState
  | 0, _, _, _, state => (.success, { state with storage6Written := true })
  | remaining + 1, index, address, entryCount, state =>
      let record := readRecord source tableOffset address
      let header := partitionHeaderOf record.2
      let stored := storeHeader index header state
      let nextAddress := header.nextPartitionOffset * 4
      if record.1 ≠ .success then (record.1, state)
      else if atfEntry runningCpu index entryCount header then
        readPartitionHeaders source runningCpu tableOffset remaining (index + 1) nextAddress (entryCount + 1)
          { stored with atfHandoffParams := setATFHandoffParameters header entryCount stored.atfHandoffParams }
      else readPartitionHeaders source runningCpu tableOffset remaining (index + 1) nextAddress entryCount stored

def readImageHeader (source : HeaderSource) (runningCpu tableOffset : UInt32) (state : ReadState) :
    XFsblStatus × ReadState :=
  let record := readRecord source tableOffset tableOffset
  let table := imageHeaderTableOf record.2
  let stored := { state with imageHeader.imageHeaderTable := table }
  if record.1 ≠ .success then (record.1, state)
  else
    match validateImageHeaderTable table with
    | .statusSecondaryBootMode => (.success, stored)
    | .success =>
        readPartitionHeaders source runningCpu tableOffset table.noOfPartitions.toNat 0 (table.partitionHeaderAddress * 4)
          0 stored
    | status => (status, stored)

def emptyHeaders : ReadState :=
  ⟨⟨imageHeaderTableOf (fun _ => 0), fun _ => partitionHeaderOf (fun _ => 0)⟩, ⟨[], 0, fun _ => ⟨0, 0⟩⟩, false⟩

end LilacUxB.Fsbl
