import LilacUxB.Loops
import LilacUxB.Tilings
import LilacUxB.Fsbl.PlBlock

set_option autoImplicit false

-- XFsbl_SecPlPartition: the walk over the blocks of an authenticated bitstream.
namespace LilacUxB.Fsbl

open Regions Tilings Words

structure AesInstance where
  keySelKup : Bool
  keyGiven : Bool
deriving DecidableEq, Repr

structure SecPlParams where
  isAuthenticated : Bool
  isEncrypted : Bool
  secureAes : Option AesInstance
  startAddress : UInt64
  totalLen : UInt32
  acOfset : UInt32
  blockSize : UInt32
  chunkSize : UInt32
  authType : UInt8
  noOfHashs : UInt32
deriving DecidableEq, Repr

-- By the number of blocks already done: the copy of the certificate, what HashsOfChunks holds
-- before the block, and what the calls made for the block answer.
structure WalkCalls where
  copyData : Nat → CopyOutcome
  hashsOfChunks : Nat → Nat → UInt8
  block : Nat → BlockCalls

structure AuthenticatedBlock where
  srcAddress : UInt64
  length : UInt32
  certificate : UInt64
deriving DecidableEq, Repr

structure WalkState where
  index : UInt8
  len : UInt32
  srcAddress : UInt64
  currentAcOffset : UInt64
  blocks : List AuthenticatedBlock
deriving DecidableEq, Repr

structure WalkResult where
  status : XFsblStatus
  blocks : List AuthenticatedBlock
deriving DecidableEq, Repr

def errorSecureNotEnabled : XFsblStatus := .device 0x3B

def checkPlParams (params : SecPlParams) : XFsblStatus :=
  if params.isAuthenticated = false then errorSecureNotEnabled
  else if params.isEncrypted then
    match params.secureAes with
    | none => errorSecureNotEnabled
    | some aes => if aes.keySelKup ∧ ¬ aes.keyGiven then .failure else .success
  else .success

-- TotalLen less the certificates and the blocks so far, as the 8-bit index counts them.
def lastLength (params : SecPlParams) (index : UInt8) : UInt32 :=
  params.totalLen - index.toUInt32 * authCertMinSize - (index.toUInt32 - 1) * params.blockSize

def isLastBlock (map : MemoryMap) (params : SecPlParams) (srcAddress : UInt64) : Bool :=
  ptrSize map (srcAddress + params.blockSize.toUInt64) > params.acOfset.toUInt64

def plBlock (params : SecPlParams) (calls : WalkCalls) (state : WalkState) (len : UInt32) : PlBlock :=
  let done := state.blocks.length
  { partition := ⟨params.isEncrypted, params.chunkSize, params.authType, calls.hashsOfChunks done, params.noOfHashs⟩
    calls := calls.block done
    srcAddress := state.srcAddress
    length := len
    authCer := (calls.copyData done).chunkBuffer }

def walkLen (map : MemoryMap) (params : SecPlParams) (state : WalkState) : UInt32 :=
  if isLastBlock map params state.srcAddress then lastLength params state.index else state.len

def walkBlock (map : MemoryMap) (params : SecPlParams) (calls : WalkCalls) (state : WalkState) : WalkState ⊕ WalkResult :=
  let copied := (calls.copyData state.blocks.length).status
  let isLast := isLastBlock map params state.srcAddress
  let len := walkLen map params state
  let authenticated := (plBlockAuthentication (plBlock params calls state len)).status
  let blocks := state.blocks ++ [⟨state.srcAddress, len, state.currentAcOffset⟩]
  if ¬ state.srcAddress < params.acOfset.toUInt64 then .inr ⟨.success, state.blocks⟩
  else if copied ≠ .success then .inr ⟨copied, state.blocks⟩
  else if authenticated ≠ .success then .inr ⟨authenticated, state.blocks⟩
  else if isLast then .inr ⟨.success, blocks⟩
  else .inl
    { index := state.index + 1
      len := len
      srcAddress := ptrSize map (state.srcAddress + params.blockSize.toUInt64)
      currentAcOffset := ptrSize map (state.currentAcOffset + authCertMinSize.toUInt64)
      blocks := blocks }

def walkStart (map : MemoryMap) (params : SecPlParams) : WalkState :=
  ⟨1, params.blockSize, ptrSize map params.startAddress, params.acOfset.toUInt64, []⟩

def secPlPartition (map : MemoryMap) (params : SecPlParams) (calls : WalkCalls) (fuel : Nat) : Option WalkResult :=
  if checkPlParams params ≠ .success then some ⟨checkPlParams params, []⟩
  else Loops.runUntil (walkBlock map params calls) fuel (walkStart map params)

-- What XFsbl_PartitionValidation, the only caller, sets beside the layout.
structure Prepared (params : SecPlParams) : Prop where
  checked : checkPlParams params = .success
  chunkSize : params.chunkSize = readBufferSize
  authType : params.authType = hashTypeSha3
  noOfHashs : params.noOfHashs = hashBufferSize / hashTypeSha3.toUInt32

structure BitstreamLayout (params : SecPlParams) (size : Nat) : Prop where
  blockSize : ∃ header, getBlockSize header ≠ 0 ∧ getBlockSize header = params.blockSize
  data : 0 < size
  certificates : params.acOfset.toNat = params.startAddress.toNat + size
  total : params.totalLen.toNat = size + blockCount size params.blockSize.toNat * 0xEC0
  within : params.startAddress.toNat + size + blockCount size params.blockSize.toNat * 0xEC0 ≤ 2 ^ 32

def AuthenticatedBlock.region (block : AuthenticatedBlock) : Region :=
  ⟨block.srcAddress.toNat, block.srcAddress.toNat + block.length.toNat⟩

def NoErrors (map : MemoryMap) (params : SecPlParams) (calls : WalkCalls) : Prop :=
  ∀ fuel result, secPlPartition map params calls fuel = some result → result.status = .success

structure WalkExact (params : SecPlParams) (size : Nat) (blocks : List AuthenticatedBlock) : Prop where
  regions : blocks.map AuthenticatedBlock.region = cut params.startAddress.toNat size params.blockSize.toNat
  certificates : blocks.map (fun block => block.certificate.toNat) =
    (List.range (blockCount size params.blockSize.toNat)).map
      (fun index => params.startAddress.toNat + size + index * 0xEC0)
  consecutive : Tiles params.startAddress.toNat (blocks.map AuthenticatedBlock.region) (params.startAddress.toNat + size)
  disjoint : (blocks.map AuthenticatedBlock.region).Pairwise Apart
  covering : ∀ address, (∃ region ∈ blocks.map AuthenticatedBlock.region, region.Holds address) ↔
    params.startAddress.toNat ≤ address ∧ address < params.startAddress.toNat + size

theorem block_sizes : ∀ size < 8, size ≠ 0 →
    (2 <<< UInt32.ofNat size * (1024 * 1024) : UInt32).toNat = 2 ^ (size - 1) * 2 ^ 22 := by
  decide

theorem block_size_multiple (header : PartitionHeader) (blocks : getBlockSize header ≠ 0) :
    ∃ multiple, 0 < multiple ∧ (getBlockSize header).toNat = multiple * 2 ^ 22 := by
  have size : ((header.partitionAttributes &&& 0x700000) >>> 20).toNat = field header.partitionAttributes.toNat 20 3 :=
    (field_down header.partitionAttributes 0x700000 20 20 3 (by decide) (by decide) (by decide)).trans (Nat.mul_one _)
  have bound := field_below header.partitionAttributes.toNat 20 3
  rw [← size] at bound
  unfold getBlockSize at blocks ⊢
  dsimp only at blocks ⊢
  split_ifs at blocks ⊢ with sized
  · have positive : ((header.partitionAttributes &&& 0x700000) >>> 20).toNat ≠ 0 :=
      fun zero => sized (UInt32.toNat_inj.mp zero)
    have value := block_sizes _ bound positive
    rw [UInt32.ofNat_toNat] at value
    exact ⟨_, Nat.two_pow_pos _, value⟩
  · exact absurd (not_not.mp sized) blocks

theorem ptr_size_add (map : MemoryMap) (address more : UInt64) :
    ptrSize map (ptrSize map address + more) = ptrSize map (address + more) := by
  unfold ptrSize
  split_ifs
  · rw [UInt64.toUInt32_add, UInt32.toUInt32_toUInt64, ← UInt64.toUInt32_add]
  · rfl

def pointer (map : MemoryMap) (address : Nat) : UInt64 := ptrSize map (UInt64.ofNat address)

theorem pointer_next (map : MemoryMap) (address : Nat) (word : UInt32) :
    ptrSize map (pointer map address + word.toUInt64) = pointer map (address + word.toNat) := by
  have step : UInt64.ofNat word.toNat = word.toUInt64 := by simp
  rw [pointer, ptr_size_add, pointer, UInt64.ofNat_add, step]

theorem pointer_exact (map : MemoryMap) (address : Nat) (fits : address < 2 ^ 32) : (pointer map address).toNat = address := by
  have wide : address % 2 ^ 64 = address := Nat.mod_eq_of_lt (Nat.lt_trans fits (by decide))
  have narrow : address % 2 ^ 32 = address := Nat.mod_eq_of_lt fits
  unfold pointer ptrSize
  split_ifs
  · simp only [UInt32.toNat_toUInt64, UInt64.toNat_toUInt32, UInt64.toNat_ofNat', wide, narrow]
  · rw [UInt64.toNat_ofNat', wide]

theorem pointer_wrapped (map : MemoryMap) (address : Nat) (narrow : map.narrowPointer = true) :
    (pointer map address).toNat = address % 2 ^ 32 := by
  rw [pointer, ptrSize, if_pos narrow]
  simp

theorem pointer_wide (map : MemoryMap) (address : Nat) (wide : ¬ map.narrowPointer = true) (fits : address < 2 ^ 64) :
    (pointer map address).toNat = address := by
  rw [pointer, ptrSize, if_neg wide, UInt64.toNat_ofNat', Nat.mod_eq_of_lt fits]

theorem walk_exact (params : SecPlParams) (size : Nat) (blocks : List AuthenticatedBlock) (nonempty : 0 < size)
    (positive : 0 < params.blockSize.toNat)
    (regions : blocks.map AuthenticatedBlock.region = cut params.startAddress.toNat size params.blockSize.toNat)
    (certificates : blocks.map (fun block => block.certificate.toNat) =
      (List.range (blockCount size params.blockSize.toNat)).map
        (fun index => params.startAddress.toNat + size + index * 0xEC0)) : WalkExact params size blocks := by
  have tiles := cut_tiles params.startAddress.toNat size params.blockSize.toNat nonempty positive
  rw [← regions] at tiles
  exact ⟨regions, certificates, tiles, tiles_apart _ _ _ tiles, tiles_hold _ _ _ tiles⟩

def wholeBlock (map : MemoryMap) (params : SecPlParams) (index : Nat) : AuthenticatedBlock :=
  ⟨pointer map (params.startAddress.toNat + index * params.blockSize.toNat), params.blockSize,
    pointer map (params.acOfset.toNat + index * 0xEC0)⟩

def walkPath (map : MemoryMap) (params : SecPlParams) (index : Nat) : WalkState where
  index := UInt8.ofNat (index + 1)
  len := params.blockSize
  srcAddress := pointer map (params.startAddress.toNat + index * params.blockSize.toNat)
  currentAcOffset := pointer map (params.acOfset.toNat + index * 0xEC0)
  blocks := (List.range index).map (wholeBlock map params)

theorem walk_start (map : MemoryMap) (params : SecPlParams) : walkStart map params = walkPath map params 0 := by
  have start : pointer map params.startAddress.toNat = ptrSize map params.startAddress := by
    rw [pointer, UInt64.ofNat_toNat]
  have certificates : pointer map params.acOfset.toNat = params.acOfset.toUInt64 := by
    apply UInt64.toNat_inj.mp
    rw [pointer_exact map _ (below _), UInt32.toNat_toUInt64]
  simp only [walkPath, Nat.zero_mul, Nat.add_zero, start, certificates]
  rfl

structure Passes (params : SecPlParams) (calls : WalkCalls) (state : WalkState) (len : UInt32) : Prop where
  copied : (calls.copyData state.blocks.length).status = .success
  authenticated : (plBlockAuthentication (plBlock params calls state len)).status = .success

theorem walk_len_inner (map : MemoryMap) (params : SecPlParams) (state : WalkState)
    (inner : isLastBlock map params state.srcAddress = false) : walkLen map params state = state.len := by
  rw [walkLen, inner]
  rfl

theorem walk_len_last (map : MemoryMap) (params : SecPlParams) (state : WalkState)
    (last : isLastBlock map params state.srcAddress = true) : walkLen map params state = lastLength params state.index := by
  rw [walkLen, last]
  rfl

theorem walk_refuses (map : MemoryMap) (params : SecPlParams) (calls : WalkCalls) (state : WalkState)
    (inside : state.srcAddress < params.acOfset.toUInt64)
    (refused : ¬ Passes params calls state (walkLen map params state)) :
    ∃ result, walkBlock map params calls state = .inr result ∧ result.status ≠ .success := by
  rw [walkBlock, if_neg (not_not.mpr inside)]
  split_ifs with copyFailed unauthenticated
  · exact ⟨_, rfl, copyFailed⟩
  · exact ⟨_, rfl, unauthenticated⟩
  · exact absurd ⟨not_not.mp copyFailed, not_not.mp unauthenticated⟩ refused
  · exact absurd ⟨not_not.mp copyFailed, not_not.mp unauthenticated⟩ refused

theorem walk_goes (map : MemoryMap) (params : SecPlParams) (calls : WalkCalls) (index : Nat)
    (inside : pointer map (params.startAddress.toNat + index * params.blockSize.toNat) < params.acOfset.toUInt64)
    (inner : isLastBlock map params (pointer map (params.startAddress.toNat + index * params.blockSize.toNat)) = false)
    (passes : Passes params calls (walkPath map params index) params.blockSize) :
    walkBlock map params calls (walkPath map params index) = .inl (walkPath map params (index + 1)) := by
  have counted : UInt8.ofNat (index + 1) + 1 = UInt8.ofNat (index + 1 + 1) := (UInt8.ofNat_add _ _).symm
  have address := pointer_next map (params.startAddress.toNat + index * params.blockSize.toNat) params.blockSize
  have certificate := pointer_next map (params.acOfset.toNat + index * 0xEC0) authCertMinSize
  have size : authCertMinSize.toNat = 0xEC0 := rfl
  have within : (walkPath map params index).srcAddress < params.acOfset.toUInt64 := inside
  have notLast : isLastBlock map params (walkPath map params index).srcAddress = false := inner
  have len : walkLen map params (walkPath map params index) = params.blockSize := walk_len_inner map params _ inner
  simp only [walkBlock, within, notLast, len, passes.copied, passes.authenticated, not_true_eq_false, ne_eq, if_false,
    Bool.false_eq_true]
  simp only [walkPath, counted, address, certificate, size, Nat.add_assoc, ← Nat.succ_mul, Nat.succ_eq_add_one,
    List.range_succ, List.map_append, List.map_cons, List.map_nil]
  rfl

theorem walk_last (map : MemoryMap) (params : SecPlParams) (calls : WalkCalls) (index : Nat)
    (inside : pointer map (params.startAddress.toNat + index * params.blockSize.toNat) < params.acOfset.toUInt64)
    (last : isLastBlock map params (pointer map (params.startAddress.toNat + index * params.blockSize.toNat)) = true)
    (passes : Passes params calls (walkPath map params index) (lastLength params (UInt8.ofNat (index + 1)))) :
    walkBlock map params calls (walkPath map params index) =
      .inr ⟨.success, (walkPath map params index).blocks ++
        [{ wholeBlock map params index with length := lastLength params (UInt8.ofNat (index + 1)) }]⟩ := by
  have within : (walkPath map params index).srcAddress < params.acOfset.toUInt64 := inside
  have isLast : isLastBlock map params (walkPath map params index).srcAddress = true := last
  have len : walkLen map params (walkPath map params index) = lastLength params (UInt8.ofNat (index + 1)) :=
    walk_len_last map params _ last
  simp only [walkBlock, within, isLast, len, passes.copied, passes.authenticated, not_true_eq_false, ne_eq, if_false, if_true]
  rfl

end LilacUxB.Fsbl
