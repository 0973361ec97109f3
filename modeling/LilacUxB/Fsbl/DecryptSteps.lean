import LilacUxB.Words
import LilacUxB.Fsbl.SecureBitstream

set_option autoImplicit false

namespace LilacUxB.Fsbl

open Frames Blocks Loops

theorem bytes_at (memory : Nat → UInt8) (address : Nat) (bytes : List UInt8) (holds : Holds memory address bytes) :
    bytesAt memory address bytes.length = bytes :=
  holds_read memory address bytes holds

theorem dma_data (memory : Nat → UInt8) (address : Nat) (size : UInt32) (state : DecryptState) (bytes : List UInt8)
    (holds : Holds memory address bytes) (length : size.toNat = bytes.length) (words : 4 ∣ bytes.length) :
    dmaData memory address size state = { state with received := pushData bytes state.received } := by
  have whole : 4 * (size / 4).toNat = bytes.length := by
    rw [UInt32.toNat_div, length]
    exact Nat.mul_div_cancel' words
  rw [dmaData, whole, bytes_at memory address bytes holds]

theorem secure_hdr_pushed (engine : AesEngine) (memory : Nat → UInt8) (address : Nat) (state : DecryptState)
    (trailer : List UInt8) (length : trailer.length = aesTagSize.toNat) (holds : Holds memory address trailer)
    (tagOk : engine.gcmTagOk (headerReceived trailer state.received) = true) :
    decrypSecureHdr engine memory address state =
      (.success, { state with received := headerReceived trailer state.received }) := by
  have size : trailer.length = 64 := length
  have header : (trailer.take secureHdrSize).length = secureHdrSize := by simp [secureHdrSize, size]
  have tag : (trailer.drop secureHdrSize).length = secureGcmTagSize := by simp [secureHdrSize, secureGcmTagSize, size]
  rw [← List.take_append_drop secureHdrSize trailer, holds_append, header] at holds
  have first := bytes_at memory address _ holds.1
  have second := bytes_at memory _ _ holds.2
  rw [header] at first
  rw [tag] at second
  rw [decrypSecureHdr, first, second]
  exact congrArg (fun status => (status, _)) (if_pos tagOk)

theorem set_up_lengths (engine : AesEngine) (state : DecryptState) (length : Nat)
    (replies : Replies engine state.received length) :
    (decrptSetUpNextBlk engine state).sizeofData.toNat = length ∧ (decrptSetUpNextBlk engine state).nextBlkLen.toNat = length :=
  ⟨replies.nextBlkLen, replies.nextBlkLen⟩

theorem ready_start (engine : AesEngine) (received : List Pushed) (rest : List (Frame UInt8)) (state : DecryptState)
    (pushed : state.received = received) (complete : state.hdr = 0)
    (clear : state.secureHdr = fun _ => 0) (replies : Replies engine received (nextLength rest))
    (accepts : EngineAccepts engine (.iv :: received) rest) :
    Ready (.iv :: received) rest (decrptSetUpNextBlk engine state) 0 := by
  subst pushed
  obtain ⟨size, next⟩ := set_up_lengths engine state _ replies
  cases rest with
  | nil => exact ⟨rfl, UInt32.toNat_inj.mp size⟩
  | cons block later =>
      have data := accepts.1.data
      rw [Ready, if_pos (Nat.zero_le _)]
      refine ⟨(push_nothing _).symm, size, complete, clear, ?_⟩
      intro none
      rw [none] at next
      exact absurd next (Nat.ne_of_lt data)

theorem size_left (size part : UInt32) (bytes later : List UInt8) (length : size.toNat = (bytes ++ later).length)
    (partLength : part.toNat = bytes.length) : (size - part).toNat = later.length := by
  rw [List.length_append] at length
  rw [Words.sub_exact _ _ (by omega)]
  omega

section Header

variable (params : DecryptParams) (memory : Nat → UInt8) (loop : PlLoop) (trailer bytes : List UInt8) (length : Nat)
  (trailerSize : trailer.length = aesTagSize.toNat) (holds : Holds memory loop.srcAddr (trailer ++ bytes))
  (size : loop.size.toNat = (trailer ++ bytes).length)
  (replies : Replies params.engine (headerReceived trailer loop.state.received) length)

include trailerSize holds size replies

theorem header_last (last : bytes = []) :
    nextHeader params memory loop =
      .inr (.success,
        decrptSetUpNextBlk params.engine { loop.state with received := headerReceived trailer loop.state.received }) := by
  have pushed := secure_hdr_pushed params.engine memory loop.srcAddr loop.state trailer trailerSize
    ((holds_append _ _ _ _).mp holds).1 replies.tagOk
  have left : loop.size - aesTagSize = 0 :=
    UInt32.toNat_inj.mp ((size_left loop.size aesTagSize trailer bytes size trailerSize.symm).trans (by rw [last]; rfl))
  simp only [nextHeader, pushed, left, ne_eq, not_true_eq_false, if_false, and_false]

theorem header_inner (more : bytes ≠ []) (data : 0 < length) :
    nextHeader params memory loop =
      .inl ⟨loop.size - aesTagSize, loop.srcAddr + aesTagSize.toNat, loop.srcAddr + aesTagSize.toNat,
        decrptSetUpNextBlk params.engine { loop.state with received := headerReceived trailer loop.state.received }⟩ := by
  have pushed := secure_hdr_pushed params.engine memory loop.srcAddr loop.state trailer trailerSize
    ((holds_append _ _ _ _).mp holds).1 replies.tagOk
  have left : loop.size - aesTagSize ≠ 0 := by
    intro none
    have rest := size_left loop.size aesTagSize trailer bytes size trailerSize.symm
    rw [none] at rest
    exact more (List.eq_nil_of_length_eq_zero rest.symm)
  have address : loop.srcAddr + aesTagSize.toNat ≠ 0 := Nat.succ_ne_zero _
  have sized : (decrptSetUpNextBlk params.engine
      { loop.state with received := headerReceived trailer loop.state.received }).sizeofData ≠ 0 := by
    intro none
    have next := (set_up_lengths params.engine
      { loop.state with received := headerReceived trailer loop.state.received } length replies).1
    rw [none] at next
    exact absurd next (Nat.ne_of_lt data)
  simp only [nextHeader, pushed, left, address, sized, ne_eq, not_true_eq_false, not_false_eq_true, if_false, if_true, and_self]

end Header

section Send

variable (params : DecryptParams) (memory : Nat → UInt8) (loop : PlLoop) (bytes : List UInt8)
  (holds : Holds memory loop.srcAddr bytes) (left : loop.state.sizeofData ≠ 0)

include holds left

theorem send_all (size : loop.size.toNat = bytes.length) (words : 4 ∣ bytes.length)
    (inside : loop.size ≤ loop.state.sizeofData) :
    sendData params memory loop =
      { loop with
        size := 0
        state := { loop.state with
          received := pushData bytes loop.state.received
          sizeofData := loop.state.sizeofData - loop.size } } := by
  have pushed := dma_data memory loop.srcAddr loop.size loop.state bytes holds size words
  simp only [sendData, inside, left, pushed, ne_eq, not_false_eq_true, and_self, if_true]

variable (beyond : loop.state.sizeofData < loop.size) (size : loop.state.sizeofData.toNat = bytes.length)
  (words : 4 ∣ bytes.length)

include beyond size words

theorem send_part (part : loop.size - loop.state.sizeofData < aesTagSize) :
    sendData params memory loop =
      { loop with
        size := 0
        srcAddr := loop.srcAddr + bytes.length
        state := saveHeaderPart params memory (loop.srcAddr + bytes.length) (loop.size - loop.state.sizeofData)
          { loop.state with received := pushData bytes loop.state.received, sizeofData := 0 } } := by
  have pushed := dma_data memory loop.srcAddr loop.state.sizeofData loop.state bytes holds size words
  simp only [sendData, UInt32.not_le.mpr beyond, left, part, pushed, size, ne_eq, not_false_eq_true, false_and, if_false, if_true]

theorem send_data (whole : ¬ loop.size - loop.state.sizeofData < aesTagSize) :
    sendData params memory loop =
      { loop with
        size := loop.size - loop.state.sizeofData
        srcAddr := loop.srcAddr + bytes.length
        state := { loop.state with received := pushData bytes loop.state.received, sizeofData := 0 } } := by
  have pushed := dma_data memory loop.srcAddr loop.state.sizeofData loop.state bytes holds size words
  simp only [sendData, UInt32.not_le.mpr beyond, left, whole, pushed, size, ne_eq, not_false_eq_true, false_and, if_false, if_true]

end Send

theorem send_none (params : DecryptParams) (memory : Nat → UInt8) (loop : PlLoop) (left : loop.state.sizeofData = 0) :
    sendData params memory loop = loop := by
  simp only [sendData, left, ne_eq, not_true_eq_false, and_false, if_false]

section Step

variable (params : DecryptParams) (memory : Nat → UInt8) (loop : PlLoop) (pcapReady : params.engine.pcapWaitForDone = .success)

include pcapReady

theorem step_done (size : (sendData params memory loop).size = 0) :
    decrptPlStep params memory loop = .inr (.success, (sendData params memory loop).state) := by
  simp only [decrptPlStep, pcapReady, size, ne_eq, not_true_eq_false, and_false, if_false]

theorem step_header (left : (sendData params memory loop).state.sizeofData = 0)
    (size : (sendData params memory loop).size ≠ 0) :
    decrptPlStep params memory loop = nextHeader params memory (sendData params memory loop) := by
  simp only [decrptPlStep, pcapReady, left, size, ne_eq, not_true_eq_false, not_false_eq_true, and_self, if_false, if_true]

end Step

end LilacUxB.Fsbl
