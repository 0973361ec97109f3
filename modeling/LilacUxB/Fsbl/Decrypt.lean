import LilacUxB.Frames
import LilacUxB.Fsbl.PlBlock

set_option autoImplicit false

-- XFsbl_DecrptPlChunks: an encrypted bitstream is pushed to the AES engine chunk by chunk.
namespace LilacUxB.Fsbl

open Frames

inductive Pushed where
  | header (bytes : List UInt8)
  | tag (bytes : List UInt8)
  | data (bytes : List UInt8)
  | iv
deriving DecidableEq, Repr

-- The engine sees words, not transfers: what it has received so far decides its answers. The
-- last push comes first; IV_3 is the register that a decrypted header leaves the next length in.
structure AesEngine where
  gcmTagOk : List Pushed → Bool
  iv3 : List Pushed → UInt32
  pcapWaitForDone : XFsblStatus

-- What a read of the flash gives, by source and length; `none` where it fails.
abbrev DeviceCopy := UInt32 → UInt32 → Option (Nat → UInt8)

structure DecryptParams where
  engine : AesEngine
  deviceCopy : Option DeviceCopy
  chunkBuffer : Nat

structure DecryptState where
  nextBlkLen : UInt32
  sizeofData : UInt32
  hdr : UInt8
  secureHdr : Nat → UInt8
  received : List Pushed

def secureHdrSize : Nat := 48
def secureGcmTagSize : Nat := 16
def aesTagSize : UInt32 := 64

def errorBitstreamGcmTagMismatch : XFsblStatus := .device 0x38

def pushData (bytes : List UInt8) : List Pushed → List Pushed
  | .data before :: earlier => .data (before ++ bytes) :: earlier
  | received => if bytes = [] then received else .data bytes :: received

def bytesAt (memory : Nat → UInt8) (address size : Nat) : List UInt8 :=
  readBuffer (fun index => memory (address + index)) size

def dmaData (memory : Nat → UInt8) (address : Nat) (size : UInt32) (state : DecryptState) : DecryptState :=
  { state with received := pushData (bytesAt memory address (4 * (size / 4).toNat)) state.received }

-- What the destination holds after XFsbl_CopyData, and `before` it. The device copy takes the
-- source for an address of the flash; no caller here looks at the status.
def copyData (params : DecryptParams) (memory : Nat → UInt8) (source : Nat) (size : UInt32) (before : Nat → UInt8) :
    Nat → UInt8 :=
  match params.deviceCopy with
  | none => fun index => memory (source + index)
  | some device => (device (UInt32.ofNat source) size).getD before

def htonl (word : UInt32) : UInt32 :=
  let middle : UInt32 := 0xFF00
  word <<< 24 ||| (word &&& middle) <<< 8 ||| (word >>> 8 &&& middle) ||| word >>> 24

def decrypSecureHdr (engine : AesEngine) (memory : Nat → UInt8) (address : Nat) (state : DecryptState) :
    XFsblStatus × DecryptState :=
  let received := .tag (bytesAt memory (address + secureHdrSize) secureGcmTagSize) ::
    .header (bytesAt memory address secureHdrSize) :: state.received
  (if engine.gcmTagOk received then .success else errorBitstreamGcmTagMismatch, { state with received := received })

def decrptSetUpNextBlk (engine : AesEngine) (state : DecryptState) : DecryptState :=
  let nextBlkLen := htonl (engine.iv3 state.received) * 4
  { state with nextBlkLen := nextBlkLen, sizeofData := nextBlkLen, received := .iv :: state.received }

structure PlLoop where
  size : UInt32
  srcAddr : Nat
  nextBlkAddr : Nat
  state : DecryptState

def saveHeaderPart (params : DecryptParams) (memory : Nat → UInt8) (srcAddr : Nat) (size : UInt32) (state : DecryptState) :
    DecryptState :=
  { state with
    secureHdr := Blocks.store state.secureHdr 0 size.toNat (copyData params memory srcAddr size state.secureHdr)
    hdr := size.toUInt8 }

def sendData (params : DecryptParams) (memory : Nat → UInt8) (loop : PlLoop) : PlLoop :=
  let left := loop.state.sizeofData
  let size := loop.size - left
  let srcAddr := loop.srcAddr + left.toNat
  let sent := { dmaData memory loop.srcAddr left loop.state with sizeofData := 0 }
  if loop.size ≤ left ∧ left ≠ 0 then
    { loop with size := 0, state := { dmaData memory loop.srcAddr loop.size loop.state with sizeofData := left - loop.size } }
  else if left ≠ 0 then
    if size < aesTagSize then
      { loop with size := 0, srcAddr := srcAddr, state := saveHeaderPart params memory srcAddr size sent }
    else { loop with size := size, srcAddr := srcAddr, state := sent }
  else loop

def nextHeader (params : DecryptParams) (memory : Nat → UInt8) (loop : PlLoop) : PlLoop ⊕ (XFsblStatus × DecryptState) :=
  let checked := decrypSecureHdr params.engine memory loop.srcAddr loop.state
  let size := loop.size - aesTagSize
  let nextBlkAddr := if size ≠ 0 then loop.srcAddr + aesTagSize.toNat else loop.nextBlkAddr
  let state := decrptSetUpNextBlk params.engine checked.2
  if checked.1 ≠ .success then .inr checked
  else if nextBlkAddr ≠ 0 ∧ state.sizeofData ≠ 0 ∧ size ≠ 0 then .inl ⟨size, nextBlkAddr, nextBlkAddr, state⟩
  else .inr (.success, state)

def decrptPlStep (params : DecryptParams) (memory : Nat → UInt8) (loop : PlLoop) : PlLoop ⊕ (XFsblStatus × DecryptState) :=
  let sent := sendData params memory loop
  if params.engine.pcapWaitForDone ≠ .success then .inr (params.engine.pcapWaitForDone, sent.state)
  else if sent.state.sizeofData = 0 ∧ sent.size ≠ 0 then nextHeader params memory sent
  else if sent.size ≠ 0 then .inl sent
  else .inr (.success, sent.state)

def decrptPl (params : DecryptParams) (memory : Nat → UInt8) (chunkAdrs : Nat) (chunkSize : UInt32) (state : DecryptState)
    (fuel : Nat) : Option (XFsblStatus × DecryptState) :=
  Loops.runUntil (decrptPlStep params memory) fuel ⟨chunkSize, chunkAdrs, 0, state⟩

-- The AES library pushes the first header and its tag as XFsbl_DecrypSecureHdr does the others.
def firstHeaderChunk (params : DecryptParams) (memory : Nat → UInt8) (chunkAdrs : Nat) (chunkSize : UInt32)
    (state : DecryptState) (fuel : Nat) : Option (XFsblStatus × DecryptState) :=
  let checked := decrypSecureHdr params.engine memory chunkAdrs state
  if checked.1 ≠ .success then some checked
  else decrptPl params memory (chunkAdrs + aesTagSize.toNat) (chunkSize - aesTagSize)
    (decrptSetUpNextBlk params.engine checked.2) fuel

def completeHeader (params : DecryptParams) (memory : Nat → UInt8) (chunkAdrs : Nat) (state : DecryptState) : Nat → UInt8 :=
  let missing := aesTagSize - state.hdr.toUInt32
  Blocks.store state.secureHdr state.hdr.toNat missing.toNat
    (copyData params memory chunkAdrs missing (fun index => state.secureHdr (state.hdr.toNat + index)))

def splitHeaderChunk (params : DecryptParams) (memory : Nat → UInt8) (chunkAdrs : Nat) (chunkSize : UInt32)
    (state : DecryptState) (fuel : Nat) : Option (XFsblStatus × DecryptState) :=
  let secureHdr := completeHeader params memory chunkAdrs state
  let checked := decrypSecureHdr params.engine secureHdr 0 { state with secureHdr := secureHdr }
  let missing := aesTagSize - state.hdr.toUInt32
  let size := chunkSize - missing
  let nextBlkAddr := if size ≠ 0 then chunkAdrs + missing.toNat else 0
  let next := decrptSetUpNextBlk params.engine { checked.2 with hdr := 0, secureHdr := fun _ => 0 }
  if checked.1 ≠ .success then some checked
  else if nextBlkAddr ≠ 0 ∧ next.sizeofData ≠ 0 then decrptPl params memory nextBlkAddr size next fuel
  else some (.success, next)

def decrptPlChunks (params : DecryptParams) (memory : Nat → UInt8) (chunkAdrs : Nat) (chunkSize : UInt32)
    (state : DecryptState) (fuel : Nat) : Option (XFsblStatus × DecryptState) :=
  if state.nextBlkLen = 0 then firstHeaderChunk params memory chunkAdrs chunkSize state fuel
  else if state.hdr ≠ 0 then splitHeaderChunk params memory chunkAdrs chunkSize state fuel
  else decrptPl params memory chunkAdrs chunkSize state fuel

def chunkMemory (memory : Nat → UInt8) (address : Nat) (chunk : List UInt8) : Nat → UInt8 :=
  Blocks.store memory address chunk.length (fun index => chunk.getD index 0)

def decryptChunks (params : DecryptParams) (fuel : Nat) :
    (Nat → UInt8) → DecryptState → List (List UInt8) → Option (XFsblStatus × DecryptState)
  | _, state, [] => some (.success, state)
  | memory, state, chunk :: rest =>
      let loaded := chunkMemory memory params.chunkBuffer chunk
      match decrptPlChunks params loaded params.chunkBuffer (UInt32.ofNat chunk.length) state fuel with
      | none => none
      | some (status, next) =>
          if status ≠ .success then some (status, next) else decryptChunks params fuel loaded next rest

end LilacUxB.Fsbl
