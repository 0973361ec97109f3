import LilacUxB.Fsbl.DecryptSteps

set_option autoImplicit false

namespace LilacUxB.Fsbl

open Frames Blocks Loops

section Keep

variable (params : DecryptParams) (memory : Nat → UInt8) (tag : List UInt8) (earlier : List Pushed)

theorem dma_keeps (address : Nat) (size : UInt32) (state : DecryptState) (kept : .tag tag :: earlier <:+ state.received) :
    .tag tag :: earlier <:+ (dmaData memory address size state).received := push_keeps _ _ _ _ kept

theorem send_keeps (loop : PlLoop) (kept : .tag tag :: earlier <:+ loop.state.received) :
    .tag tag :: earlier <:+ (sendData params memory loop).state.received := by
  rw [sendData]
  split
  · exact dma_keeps memory tag earlier _ _ _ kept
  · split
    · split
      · exact dma_keeps memory tag earlier _ _ _ kept
      · exact dma_keeps memory tag earlier _ _ _ kept
    · exact kept

theorem secure_hdr_keeps (address : Nat) (state : DecryptState) (kept : .tag tag :: earlier <:+ state.received) :
    .tag tag :: earlier <:+ (decrypSecureHdr params.engine memory address state).2.received :=
  (kept.trans (List.suffix_cons _ _)).trans (List.suffix_cons _ _)

theorem set_up_keeps (state : DecryptState) (kept : .tag tag :: earlier <:+ state.received) :
    .tag tag :: earlier <:+ (decrptSetUpNextBlk params.engine state).received := kept.trans (List.suffix_cons _ _)

theorem step_keeps (loop : PlLoop) (kept : .tag tag :: earlier <:+ loop.state.received) :
    (∀ next, decrptPlStep params memory loop = .inl next → .tag tag :: earlier <:+ next.state.received) ∧
      (∀ result, decrptPlStep params memory loop = .inr result → .tag tag :: earlier <:+ result.2.received) := by
  have sent := send_keeps params memory tag earlier loop kept
  have header := secure_hdr_keeps params memory tag earlier (sendData params memory loop).srcAddr _ sent
  have next := set_up_keeps params tag earlier _ header
  rw [decrptPlStep, nextHeader]
  grind

theorem pl_keeps (address : Nat) (size : UInt32) (state : DecryptState) (fuel : Nat) (result : XFsblStatus × DecryptState)
    (kept : .tag tag :: earlier <:+ state.received) (run : decrptPl params memory address size state fuel = some result) :
    .tag tag :: earlier <:+ result.2.received :=
  run_keeps (decrptPlStep params memory) (fun loop => .tag tag :: earlier <:+ loop.state.received)
    (fun result => .tag tag :: earlier <:+ result.2.received)
    (fun loop next inv goes => (step_keeps params memory tag earlier loop inv).1 next goes)
    (fun loop result inv ends => (step_keeps params memory tag earlier loop inv).2 result ends) fuel _ result kept run

theorem split_keeps (address : Nat) (size : UInt32) (state : DecryptState) (fuel : Nat) (result : XFsblStatus × DecryptState)
    (kept : .tag tag :: earlier <:+ (decrypSecureHdr params.engine (completeHeader params memory address state) 0
      { state with secureHdr := completeHeader params memory address state }).2.received)
    (run : splitHeaderChunk params memory address size state fuel = some result) :
    .tag tag :: earlier <:+ result.2.received := by
  dsimp only [splitHeaderChunk] at run
  generalize (if size - (aesTagSize - state.hdr.toUInt32) ≠ 0 then address + (aesTagSize - state.hdr.toUInt32).toNat else 0) =
    nextBlkAddr at run
  split at run
  · cases run
    exact kept
  · have next := set_up_keeps params tag earlier
      { (decrypSecureHdr params.engine (completeHeader params memory address state) 0
        { state with secureHdr := completeHeader params memory address state }).2 with hdr := 0, secureHdr := fun _ => 0 } kept
    split at run
    · exact pl_keeps params memory tag earlier _ _ _ fuel result next run
    · cases run
      exact next

theorem chunk_keeps (address : Nat) (size : UInt32) (state : DecryptState) (fuel : Nat) (result : XFsblStatus × DecryptState)
    (kept : .tag tag :: earlier <:+ state.received)
    (run : decrptPlChunks params memory address size state fuel = some result) :
    .tag tag :: earlier <:+ result.2.received := by
  rw [decrptPlChunks] at run
  split at run
  · rw [firstHeaderChunk] at run
    have header := secure_hdr_keeps params memory tag earlier address state kept
    split at run
    · cases run
      exact header
    · exact pl_keeps params memory tag earlier _ _ _ fuel result (set_up_keeps params tag earlier _ header) run
  · split at run
    · exact split_keeps params memory tag earlier address size state fuel result
        (secure_hdr_keeps params _ tag earlier 0 _ kept) run
    · exact pl_keeps params memory tag earlier _ _ _ fuel result kept run

theorem chunks_keep (fuel : Nat) (chunks : List (List UInt8)) (state : DecryptState) (result : XFsblStatus × DecryptState)
    (kept : .tag tag :: earlier <:+ state.received) (run : decryptChunks params fuel memory state chunks = some result) :
    .tag tag :: earlier <:+ result.2.received := by
  induction chunks generalizing memory state with
  | nil =>
      cases run
      exact kept
  | cons chunk rest ih =>
      rw [decryptChunks] at run
      split at run
      · cases run
      · next status next taken =>
          have first := chunk_keeps params _ tag earlier _ _ state fuel _ kept taken
          split at run
          · cases run
            exact first
          · exact ih _ next first run

end Keep

theorem bytes_held (memory : Nat → UInt8) (address : Nat) (bytes : List UInt8)
    (read : bytesAt memory address bytes.length = bytes) : Holds memory address bytes := by
  intro index inside
  have same := congrArg (fun list => list[index]?) read
  simp only [bytesAt, readBuffer, List.getElem?_map, List.getElem?_range inside, List.getElem?_eq_getElem inside,
    Option.map_some, Option.some.injEq] at same
  exact same

theorem wrong_header (memory : Nat → UInt8) (trailer : List UInt8) (size : trailer.length = aesTagSize.toNat)
    (received target : List Pushed)
    (pushed : .tag (bytesAt memory (0 + secureHdrSize) secureGcmTagSize) ::
      .header (bytesAt memory 0 secureHdrSize) :: received <:+ target)
    (right : headerReceived trailer received <:+ target) : Holds memory 0 trailer := by
  have same := (List.suffix_of_suffix_length_le pushed right (by simp [headerReceived])).eq_of_length (by simp [headerReceived])
  simp only [headerReceived, List.cons.injEq, Pushed.tag.injEq, Pushed.header.injEq] at same
  obtain ⟨tag, header, -⟩ := same
  have length : trailer.length = 64 := size
  rw [← List.take_append_drop secureHdrSize trailer, holds_append]
  constructor
  · apply bytes_held
    rw [List.length_take, length]
    exact header
  · apply bytes_held
    rw [List.length_take, List.length_drop, length]
    exact tag

end LilacUxB.Fsbl
