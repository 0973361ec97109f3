import LilacUxB.Blocks
import LilacUxB.Bytes
import LilacUxB.Loops
import LilacUxB.Fsbl.PartitionCopy

set_option autoImplicit false

-- XFsbl_PlBlockAuthentication: a block of the bitstream is read twice, chunk by chunk. The first
-- pass checks the signature and keeps the running hashes, the second one compares them and hands
-- the chunks on.
namespace LilacUxB.Fsbl

open Bytes

structure PlPartition where
  isEncrypted : Bool
  chunkSize : UInt32
  authType : UInt8
  hashsOfChunks : Nat → UInt8
  noOfHashs : UInt32

inductive Pass where
  | signVer | reAuthentication
deriving DecidableEq, Repr

structure ChunkCopy where
  pass : Pass
  index : Nat
  srcAddress : UInt64
  size : UInt32
deriving DecidableEq, Repr

structure CopyOutcome where
  status : XFsblStatus
  chunkBuffer : Nat → UInt8

-- What the copies, the SHA and RSA engines and the decryption answer. Every copy has its own
-- outcome, so the source may change between the passes and within them.
structure BlockCalls where
  copyData : ChunkCopy → CopyOutcome
  spkVer : XFsblStatus
  sha3Initialize : XFsblStatus
  shaEngine : List UInt8
  readHash : List UInt8 → Fin 48 → UInt8
  sha3Finish : List UInt8 → Fin 48 → UInt8
  rsaInitialize : XFsblStatus
  rsaPublicEncrypt : XFsblStatus
  rsaSignVerification : (Fin 48 → UInt8) → XFsblStatus
  decrptPlChunks : Nat → XFsblStatus

structure PlBlock where
  partition : PlPartition
  calls : BlockCalls
  srcAddress : UInt64
  length : UInt32
  authCer : Nat → UInt8

structure Chunk where
  offset : UInt64
  bytes : List UInt8
deriving DecidableEq, Repr

inductive ChunkTarget where
  | pcap | decrptPlChunks
deriving DecidableEq, Repr

structure HandedChunk where
  target : ChunkTarget
  offset : UInt64
  bytes : List UInt8
deriving DecidableEq, Repr

def readBufferSize : UInt32 := 56 * 1024
def hashBufferSize : UInt32 := 7 * 1024
def hashTypeSha3 : UInt8 := 48
def fsblSigSize : UInt32 := 512

def noOfChunks (block : PlBlock) : UInt32 :=
  let chunkSize := block.partition.chunkSize
  if block.length > chunkSize then
    if block.length % chunkSize > 0 then block.length / chunkSize + 1 else block.length / chunkSize
  else 1

def readBuffer (buffer : Nat → UInt8) (size : Nat) : List UInt8 := (List.range size).map buffer

def chunkOffset (block : PlBlock) (index : Nat) : UInt64 :=
  block.srcAddress + (block.partition.chunkSize * UInt32.ofNat index).toUInt64

def digestBytes (digest : Fin 48 → UInt8) (index : Nat) : UInt8 := digest (Fin.ofNat 48 index)

def compareHashs (hash1 hash2 : Nat → UInt8) (hashLen : UInt32) : XFsblStatus :=
  if (List.range (hashLen / 4).toNat).all (fun index => word32 hash1 (4 * index) = word32 hash2 (4 * index)) then .success
  else .failure

-- The variables of the loop in XFsbl_PlSignVer: `chunksHash` counts from the start of
-- HashsOfChunks, `text` is what the SHA engine has been given.
structure SignState where
  hashDataLen : UInt32
  len : UInt32
  chunksHash : Nat
  hashsOfChunks : Nat → UInt8
  text : List UInt8
  chunks : List Chunk

def signStart (block : PlBlock) : SignState where
  hashDataLen := block.length
  len := block.partition.chunkSize
  chunksHash := 0
  hashsOfChunks := block.partition.hashsOfChunks
  text := if block.partition.authType = hashTypeSha3 then [] else block.calls.shaEngine
  chunks := []

def hashSignedChunk (block : PlBlock) (index : Nat) (len : UInt32) (chunk : Chunk) (state : SignState) : SignState :=
  let text := state.text ++ chunk.bytes
  let more := UInt32.ofNat index + 1 < noOfChunks block
  { hashDataLen := if more then state.hashDataLen - block.partition.chunkSize else state.hashDataLen
    len := len
    chunksHash := if more then state.chunksHash + block.partition.authType.toNat else state.chunksHash
    hashsOfChunks := Blocks.store state.hashsOfChunks state.chunksHash 48 (digestBytes (block.calls.readHash text))
    text := text
    chunks := state.chunks ++ [chunk] }

def signLen (block : PlBlock) (index : Nat) (state : SignState) : UInt32 :=
  if UInt32.ofNat index = noOfChunks block - 1 ∨ state.hashDataLen < block.partition.chunkSize then state.hashDataLen
  else state.len

def signChunk (block : PlBlock) (index : Nat) (state : SignState) : XFsblStatus × SignState :=
  let len := signLen block index state
  let copied := block.calls.copyData ⟨.signVer, index, chunkOffset block index, len⟩
  if copied.status ≠ .success then (copied.status, { state with len := len })
  else (.success,
    hashSignedChunk block index len ⟨chunkOffset block index, readBuffer copied.chunkBuffer len.toNat⟩ state)

def signChunks (block : PlBlock) : XFsblStatus × SignState :=
  Loops.iterate .success (signChunk block) (noOfChunks block).toNat 0 (signStart block)

structure SignResult where
  status : XFsblStatus
  hashsOfChunks : Nat → UInt8
  chunks : List Chunk

def partitionHash (block : PlBlock) (text : List UInt8) : Fin 48 → UInt8 :=
  block.calls.sha3Finish (text ++ readBuffer block.authCer (authCertMinSize - fsblSigSize).toNat)

def plSignVer (block : PlBlock) : SignResult :=
  let signed := signChunks block
  let status :=
    if signed.1 ≠ .success then signed.1
    else if block.calls.rsaInitialize ≠ .success then .errorRsaInitialize
    else if block.calls.rsaPublicEncrypt ≠ .success then .errorPartRsaDecrypt
    else if block.calls.rsaSignVerification (partitionHash block signed.2.text) ≠ .success then .failure
    else .success
  ⟨status, signed.2.hashsOfChunks, signed.2.chunks⟩

structure ReAuthState where
  hashDataLen : UInt32
  len : UInt32
  hashStored : Nat
  text : List UInt8
  handed : List HandedChunk

def reAuthStart (block : PlBlock) : ReAuthState where
  hashDataLen := block.length
  len := block.partition.chunkSize
  hashStored := 0
  text := []
  handed := []

-- The DMA to PCAP counts words, the decryption bytes.
def handOn (block : PlBlock) (offset : UInt64) (buffer : Nat → UInt8) (len : UInt32) : HandedChunk :=
  if block.partition.isEncrypted then ⟨.decrptPlChunks, offset, readBuffer buffer len.toNat⟩
  else ⟨.pcap, offset, readBuffer buffer (4 * (len / 4).toNat)⟩

def handStatus (block : PlBlock) (index : Nat) : XFsblStatus :=
  if block.partition.isEncrypted then block.calls.decrptPlChunks index else .success

def reAuthLen (block : PlBlock) (index : Nat) (state : ReAuthState) : UInt32 :=
  if UInt32.ofNat index = noOfChunks block - 1 then state.hashDataLen else state.len

def handCheckedChunk (block : PlBlock) (index : Nat) (len : UInt32) (buffer : Nat → UInt8) (state : ReAuthState) :
    ReAuthState where
  hashDataLen := state.hashDataLen - block.partition.chunkSize
  len := len
  hashStored :=
    if UInt32.ofNat index + 1 ≤ noOfChunks block - 1 then state.hashStored + block.partition.authType.toNat
    else state.hashStored
  text := state.text ++ readBuffer buffer len.toNat
  handed := state.handed ++ [handOn block (chunkOffset block index) buffer len]

def reAuthChunk (block : PlBlock) (hashsOfChunks : Nat → UInt8) (index : Nat) (state : ReAuthState) :
    XFsblStatus × ReAuthState :=
  let len := reAuthLen block index state
  let copied := block.calls.copyData ⟨.reAuthentication, index, chunkOffset block index, len⟩
  let text := state.text ++ readBuffer copied.chunkBuffer len.toNat
  let stored := fun place => hashsOfChunks (state.hashStored + place)
  let computed := digestBytes (block.calls.readHash text)
  if copied.status ≠ .success then (copied.status, { state with len := len })
  else if compareHashs stored computed block.partition.authType.toUInt32 ≠ .success then
    (.errorChunkHashComparison, { state with len := len, text := text })
  else (handStatus block index, handCheckedChunk block index len copied.chunkBuffer state)

structure BlockResult where
  status : XFsblStatus
  handed : List HandedChunk

def reAuthenticationBlock (block : PlBlock) (hashsOfChunks : Nat → UInt8) : BlockResult :=
  let checked := Loops.iterate .success (reAuthChunk block hashsOfChunks) (noOfChunks block).toNat 0 (reAuthStart block)
  if block.calls.sha3Initialize ≠ .success then ⟨block.calls.sha3Initialize, []⟩
  else ⟨checked.1, checked.2.handed⟩

def plBlockAuthentication (block : PlBlock) : BlockResult :=
  let signed := plSignVer block
  if noOfChunks block > block.partition.noOfHashs then ⟨.errorProvidedBufHashStore, []⟩
  else if block.calls.spkVer ≠ .success then ⟨block.calls.spkVer, []⟩
  else if signed.status ≠ .success then ⟨signed.status, []⟩
  else reAuthenticationBlock block signed.hashsOfChunks

end LilacUxB.Fsbl
