import LilacUxB.Fsbl.DecryptLoop

set_option autoImplicit false

namespace LilacUxB.Fsbl

open Frames Blocks Loops

-- A header put together by the device copy: what it reads at the addresses that the two parts have in
-- ChunkBuffer, `part` bytes at the end of a chunk of `last` bytes and the others at its start. A read
-- that fails leaves zeros.
def deviceHeader (device : DeviceCopy) (chunkBuffer last part index : Nat) : UInt8 :=
  if index < part then
    (device (UInt32.ofNat (chunkBuffer + last - part)) (UInt32.ofNat part)).getD (fun _ => 0) index
  else
    (device (UInt32.ofNat chunkBuffer) (UInt32.ofNat (aesTagSize.toNat - part))).getD (fun _ => 0) (index - part)

def SplitAgrees (params : DecryptParams) (trailer : List UInt8) (last part : Nat) : Prop :=
  ∀ device, params.deviceCopy = some device → Holds (deviceHeader device params.chunkBuffer last part) 0 trailer

def SplitsAgree (params : DecryptParams) (blocks : List (Frame UInt8)) : Nat → Nat → List (List UInt8) → Prop
  | _, _, [] => True
  | position, last, chunk :: rest =>
      (inTrailer blocks position ≠ 0 → SplitAgrees params (trailerAt blocks position) last (inTrailer blocks position)) ∧
        SplitsAgree params blocks (position + chunk.length) chunk.length rest

def BoundariesAgree (params : DecryptParams) (stream : Bitstream) : List (List UInt8) → Prop
  | [] => True
  | chunk :: rest => SplitsAgree params stream.blocks (chunk.length - stream.first.length) chunk.length rest

def splitHeader (params : DecryptParams) (trailer : List UInt8) (last part index : Nat) : UInt8 :=
  match params.deviceCopy with
  | none => trailer.getD index 0
  | some device => deviceHeader device params.chunkBuffer last part index

theorem split_agrees_iff (params : DecryptParams) (trailer : List UInt8) (last part : Nat) :
    Holds (splitHeader params trailer last part) 0 trailer ↔ SplitAgrees params trailer last part := by
  unfold splitHeader SplitAgrees
  cases copy : params.deviceCopy with
  | none =>
      constructor
      · intro _ device given
        cases given
      · intro _ index inside
        show trailer.getD (0 + index) 0 = _
        rw [Nat.zero_add, List.getD_eq_getElem _ _ inside]
  | some device =>
      constructor
      · intro holds other given
        cases given
        exact holds
      · intro agrees
        exact agrees device rfl

theorem splits_agree_in_memory (params : DecryptParams) (blocks : List (Frame UInt8)) (none : params.deviceCopy = none)
    (chunks : List (List UInt8)) (position last : Nat) : SplitsAgree params blocks position last chunks := by
  induction chunks generalizing position last with
  | nil => trivial
  | cons chunk rest ih =>
      refine ⟨?_, ih _ _⟩
      intro _ device given
      rw [none] at given
      cases given

structure Between (params : DecryptParams) (stream : Bitstream) (position last : Nat) (state : DecryptState) : Prop where
  ready : Ready (.iv :: headerReceived stream.first []) stream.blocks state position
  kept : ∀ index, index < inTrailer stream.blocks position → state.secureHdr index =
    splitHeader params (trailerAt stream.blocks position) last (inTrailer stream.blocks position) index

theorem body_place (blocks : List (Frame UInt8)) (position : Nat) (none : inTrailer blocks position = 0)
    (inside : position ≤ (streamBytes blocks).length) :
    ∃ before rest offset, blocks = before ++ rest ∧ position = (streamBytes before).length + offset ∧
      offset ≤ nextLength rest := by
  by_cases last : position = (streamBytes blocks).length
  · exact ⟨blocks, [], 0, (List.append_nil _).symm, last, Nat.le_refl 0⟩
  · obtain ⟨before, block, rest, offset, split, place, within⟩ := locate blocks position (Nat.lt_of_le_of_ne inside last)
    refine ⟨before, block :: rest, offset, split, place, ?_⟩
    rw [split, place, in_trailer_skip, in_trailer_inside _ _ _ within] at none
    exact Nat.sub_eq_zero_iff_le.mp none

theorem accepts_formed (engine : AesEngine) (received : List Pushed) (blocks : List (Frame UInt8))
    (accepts : EngineAccepts engine received blocks) : ∀ block ∈ blocks, BlockFormed block := by
  induction blocks generalizing received with
  | nil => exact fun _ none => absurd none List.not_mem_nil
  | cons first rest ih =>
      intro block member
      cases member with
      | head => exact accepts.1
      | tail _ later => exact ih _ accepts.2.2 block later

theorem stream_words (blocks : List (Frame UInt8)) (formed : ∀ block ∈ blocks, BlockFormed block) :
    4 ∣ (streamBytes blocks).length := by
  induction blocks with
  | nil => exact Nat.dvd_zero 4
  | cons first rest ih =>
      have later := ih (fun block member => formed block (List.mem_cons_of_mem first member))
      have own := formed first List.mem_cons_self
      have words := own.words
      have trailer : first.trailer.length = 64 := own.trailer
      rw [stream_cons, List.length_append, frame_length]
      omega

theorem sent_skip (params : DecryptParams) (received : List Pushed) (before rest : List (Frame UInt8)) (position finish : Nat)
    (memory : Nat → UInt8) (state : DecryptState) (accepts : EngineAccepts params.engine received (before ++ rest))
    (sent : Sent params (afterBlocks received before) rest position finish memory state) :
    Sent params received (before ++ rest) ((streamBytes before).length + position) finish memory state := by
  refine ⟨(ready_skip _ _ _ _ _ _ accepts).mpr sent.ready, ?_⟩
  rw [in_trailer_skip]
  exact sent.kept

theorem header_place (engine : AesEngine) (received : List Pushed) (blocks : List (Frame UInt8)) (state : DecryptState)
    (position : Nat) (accepts : EngineAccepts engine received blocks) (ready : Ready received blocks state position)
    (cut : inTrailer blocks position ≠ 0) (inside : position < (streamBytes blocks).length) :
    ∃ before block rest, blocks = before ++ block :: rest ∧
      position = (streamBytes before).length + (block.body.length + inTrailer blocks position) ∧
      inTrailer blocks position < block.trailer.length ∧ trailerAt blocks position = block.trailer ∧
      InTrailer (afterBlocks received before) block state (block.body.length + inTrailer blocks position) := by
  obtain ⟨before, block, rest, offset, split, place, within⟩ := locate blocks position inside
  have length := frame_length block
  have part : inTrailer blocks position = offset - block.body.length := by
    rw [split, place, in_trailer_skip, in_trailer_inside _ _ _ within]
  have offsetPart : offset = block.body.length + inTrailer blocks position := by omega
  refine ⟨before, block, rest, split, place.trans (by rw [← offsetPart]), by omega, ?_, ?_⟩
  · rw [split, place, trailer_at_skip, trailerAt, if_pos within]
  · rw [split] at accepts
    rw [split, place, ready_skip engine _ _ _ _ _ accepts, Ready, if_neg (by omega), if_pos within] at ready
    rwa [← offsetPart]

theorem header_missing (trailer behind chunk later : List UInt8) (part : Nat) (some : 0 < part)
    (size : trailer.length = aesTagSize.toNat) (cut : trailer.drop part ++ behind = chunk ++ later)
    (long : aesTagSize.toNat ≤ chunk.length ∨ later = []) :
    ∃ more, chunk = trailer.drop part ++ more ∧ behind = more ++ later := by
  rcases List.append_eq_append_iff.mp cut with ⟨more, split, next⟩ | ⟨after, split, left⟩
  · exact ⟨more, split, next⟩
  · have short := congrArg List.length split
    rw [List.length_drop, List.length_append, size] at short
    have none : after = [] := by
      rcases long with enough | last
      · have tagSize : aesTagSize.toNat = 64 := rfl
        exact List.eq_nil_of_length_eq_zero (by omega)
      · exact (List.append_eq_nil_iff.mp (left.symm.trans last)).1
    subst none
    exact ⟨[], by rw [split, List.append_nil, List.append_nil], left.symm⟩

theorem missing_size (hdr : UInt8) (part : Nat) (saved : hdr.toNat = part) (small : part < aesTagSize.toNat) :
    (aesTagSize - hdr.toUInt32).toNat = aesTagSize.toNat - part := by
  have word : hdr.toUInt32.toNat = part := by rw [UInt8.toNat_toUInt32, saved]
  rw [Words.sub_exact _ _ (by omega), word]

section Joined

variable (params : DecryptParams) (memory : Nat → UInt8) (state : DecryptState) (trailer more : List UInt8) (last part : Nat)
  (size : trailer.length = aesTagSize.toNat) (small : part < aesTagSize.toNat) (saved : state.hdr.toNat = part)

include size small saved

theorem header_joined (kept : ∀ index, index < part → state.secureHdr index = splitHeader params trailer last part index)
    (clear : ∀ index, part ≤ index → state.secureHdr index = 0)
    (holds : Holds memory params.chunkBuffer (trailer.drop part ++ more)) (index : Nat) (inside : index < trailer.length) :
    completeHeader params memory params.chunkBuffer state index = splitHeader params trailer last part index := by
  have missing := missing_size state.hdr part saved small
  have word : aesTagSize - state.hdr.toUInt32 = UInt32.ofNat (aesTagSize.toNat - part) := by
    rw [← missing, UInt32.ofNat_toNat]
  have blank : (fun index => state.secureHdr (part + index)) = fun _ => 0 := by
    funext index
    exact clear _ (Nat.le_add_right part index)
  dsimp only [completeHeader]
  rw [missing, saved, blank, word]
  by_cases before : index < part
  · rw [store_before _ _ _ _ _ before, kept index before]
  · obtain ⟨offset, rfl⟩ := Nat.exists_eq_add_of_le (Nat.le_of_not_lt before)
    have behind : offset < (trailer.drop part).length := by
      rw [List.length_drop]
      omega
    have held := ((holds_append _ _ _ _).mp holds).1 offset behind
    rw [store_inside _ _ _ _ _ (by omega)]
    unfold copyData splitHeader
    cases params.deviceCopy with
    | none =>
        show memory (params.chunkBuffer + offset) = trailer.getD (part + offset) 0
        rw [held, List.getElem_drop, List.getD_eq_getElem _ _ inside]
    | some device => simp only [deviceHeader, if_neg before, Nat.add_sub_cancel_left]

theorem header_completed (agrees : Holds (completeHeader params memory params.chunkBuffer state) 0 trailer)
    (tagOk : params.engine.gcmTagOk (headerReceived trailer state.received) = true) (chunkSize : UInt32)
    (length : chunkSize.toNat = (trailer.drop part ++ more).length) :
    ∃ next rest, next.received = headerReceived trailer state.received ∧ next.hdr = 0 ∧ next.secureHdr = (fun _ => 0) ∧
      rest.toNat = more.length ∧
      (more = [] → ∀ fuel, splitHeaderChunk params memory params.chunkBuffer chunkSize state fuel =
        some (.success, decrptSetUpNextBlk params.engine next)) ∧
      (more ≠ [] → (decrptSetUpNextBlk params.engine next).sizeofData ≠ 0 → ∀ fuel,
        splitHeaderChunk params memory params.chunkBuffer chunkSize state fuel =
          decrptPl params memory (params.chunkBuffer + (trailer.drop part).length) rest
            (decrptSetUpNextBlk params.engine next) fuel) := by
  have pushed := secure_hdr_pushed params.engine _ 0
    { state with secureHdr := completeHeader params memory params.chunkBuffer state } trailer size agrees tagOk
  have missing := missing_size state.hdr part saved small
  have dropped : (trailer.drop part).length = aesTagSize.toNat - part := by rw [List.length_drop, size]
  have rest := size_left chunkSize _ _ more length (missing.trans dropped.symm)
  refine ⟨{ state with received := headerReceived trailer state.received, hdr := 0, secureHdr := fun _ => 0 },
    chunkSize - (aesTagSize - state.hdr.toUInt32), rfl, rfl, rfl, rest, ?_, ?_⟩
  · intro none fuel
    have done : chunkSize - (aesTagSize - state.hdr.toUInt32) = 0 := UInt32.toNat_inj.mp (by rw [rest, none]; rfl)
    simp only [splitHeaderChunk, pushed, done, ne_eq, not_true_eq_false, if_false, false_and]
  · intro some data fuel
    have remaining : chunkSize - (aesTagSize - state.hdr.toUInt32) ≠ 0 := by
      intro none
      rw [none, UInt32.toNat_zero] at rest
      exact some (List.eq_nil_of_length_eq_zero rest.symm)
    have address : params.chunkBuffer + (aesTagSize - state.hdr.toUInt32).toNat ≠ 0 := by
      rw [missing]
      omega
    simp only [splitHeaderChunk, pushed, remaining, address, ne_eq, not_true_eq_false, not_false_eq_true, if_false, if_true,
      true_and]
    rw [missing, ← dropped]
    exact if_pos data

end Joined

structure CutHeader (params : DecryptParams) (stream : Bitstream) (position last : Nat) (state : DecryptState)
    (chunk later : List UInt8) (before rest : List (Frame UInt8)) (block : Frame UInt8) (part : Nat) (more : List UInt8) :
    Prop where
  blocks : stream.blocks = before ++ block :: rest
  place : position = (streamBytes before).length + (block.body.length + part)
  cut : 0 < part
  small : part < block.trailer.length
  accepts : EngineAccepts params.engine (afterBlocks (.iv :: headerReceived stream.first []) before) (block :: rest)
  saved : InTrailer (afterBlocks (.iv :: headerReceived stream.first []) before) block state (block.body.length + part)
  kept : ∀ index, index < part → state.secureHdr index = splitHeader params block.trailer last part index
  chunk : chunk = block.trailer.drop part ++ more
  behind : streamBytes rest = more ++ later
  agrees : SplitAgrees params (trailerAt stream.blocks position) last (inTrailer stream.blocks position) ↔
    SplitAgrees params block.trailer last part

section Chunk

variable (params : DecryptParams) (memory : Nat → UInt8) (stream : Bitstream) (position : Nat)

theorem header_part (blocks : List (Frame UInt8)) (address : Nat) (bytes later : List UInt8)
    (whole : inTrailer blocks position = 0) (place : (streamBytes blocks).drop position = bytes ++ later)
    (holds : Holds memory address bytes) (index : Nat) (inside : index < inTrailer blocks (position + bytes.length)) :
    memory (address + bytes.length - inTrailer blocks (position + bytes.length) + index) =
      (trailerAt blocks (position + bytes.length)).getD index 0 := by
  have grown := in_trailer_grows blocks position bytes.length
  have source : position + bytes.length - inTrailer blocks (position + bytes.length) + index =
      position + (bytes.length - inTrailer blocks (position + bytes.length) + index) := by omega
  have before : bytes.length - inTrailer blocks (position + bytes.length) + index < bytes.length := by omega
  have read := trailer_read blocks (position + bytes.length) index inside
  rw [source, ← List.getElem?_drop, place, List.getElem?_append_left before, List.getElem?_eq_getElem before] at read
  have held := holds _ before
  rw [List.getD_eq_getElem?_getD, ← read, Option.getD_some, ← held]
  congr 1
  omega

theorem sent_between (bytes later : List UInt8) (address last : Nat) (state : DecryptState)
    (whole : inTrailer stream.blocks position = 0) (place : (streamBytes stream.blocks).drop position = bytes ++ later)
    (holds : Holds memory address bytes) (finish : address + bytes.length = params.chunkBuffer + last)
    (sent : Sent params (.iv :: headerReceived stream.first []) stream.blocks (position + bytes.length)
      (address + bytes.length) memory state) :
    Between params stream (position + bytes.length) last state := by
  refine ⟨sent.ready, ?_⟩
  intro index inside
  rw [sent.kept index inside, copyData, splitHeader]
  cases params.deviceCopy with
  | none => exact header_part memory position stream.blocks address bytes later whole place holds index inside
  | some device => simp only [deviceHeader, if_pos inside, finish]

theorem cut_header (chunk later : List UInt8) (last : Nat) (state : DecryptState) (wellFormed : WellFormed params.engine stream)
    (between : Between params stream position last state)
    (place : (streamBytes stream.blocks).drop position = chunk ++ later) (some : chunk ≠ [])
    (long : aesTagSize.toNat ≤ chunk.length ∨ later = []) (cut : inTrailer stream.blocks position ≠ 0) :
    ∃ before rest block part more,
      CutHeader params stream position last state chunk later before rest block part more := by
  have within := congrArg List.length place
  rw [List.length_drop, List.length_append] at within
  have nonempty := List.length_pos_of_ne_nil some
  obtain ⟨before, block, rest, split, here, small, trailer, saved⟩ := header_place params.engine _ stream.blocks state position
    wellFormed.accepted between.ready cut (by omega)
  have accepts := wellFormed.accepted
  rw [split] at accepts
  have ahead := accepts_skip _ _ _ _ accepts
  have kept := between.kept
  rw [trailer] at kept
  have next : block.trailer.drop (inTrailer stream.blocks position) ++ streamBytes rest = chunk ++ later := by
    have dropped := place
    generalize inTrailer stream.blocks position = part at here small ⊢
    rw [split, here, stream_append, List.drop_length_add_append, stream_cons, Frame.bytes, List.append_assoc,
      List.drop_length_add_append, List.drop_append_of_le_length small.le] at dropped
    exact dropped
  obtain ⟨more, whole, behind⟩ :=
    header_missing block.trailer _ chunk later _ (Nat.pos_of_ne_zero cut) ahead.1.trailer next long
  exact ⟨before, rest, block, _, more, split, here, Nat.pos_of_ne_zero cut, small, ahead, saved, kept, whole, behind,
    by rw [trailer]⟩

end Chunk

section Cut

variable {params : DecryptParams} {memory : Nat → UInt8} {stream : Bitstream} {position last : Nat} {state : DecryptState}
  {chunk later more : List UInt8} {before rest : List (Frame UInt8)} {block : Frame UInt8} {part : Nat}
  (header : CutHeader params stream position last state chunk later before rest block part more)

include header

theorem cut_saved : state.hdr.toNat = part := header.saved.part.trans (Nat.add_sub_cancel_left _ _)

theorem cut_joined (holds : Holds memory params.chunkBuffer chunk) (index : Nat) (inside : index < block.trailer.length) :
    completeHeader params memory params.chunkBuffer state index = splitHeader params block.trailer last part index := by
  have trailerSize := header.accepts.1.trailer
  have clear := header.saved.clear
  rw [Nat.add_sub_cancel_left] at clear
  rw [header.chunk] at holds
  exact header_joined params memory state block.trailer more last part trailerSize (trailerSize ▸ header.small)
    (cut_saved header) header.kept clear holds index inside

theorem cut_holds (holds : Holds memory params.chunkBuffer chunk) :
    Holds (completeHeader params memory params.chunkBuffer state) 0 block.trailer ↔
      SplitAgrees params block.trailer last part := by
  have joined := cut_joined header holds
  rw [← split_agrees_iff]
  constructor
  · intro complete index inside
    rw [Nat.zero_add, ← joined index inside, ← complete index inside, Nat.zero_add]
  · intro complete index inside
    rw [Nat.zero_add, joined index inside, ← complete index inside, Nat.zero_add]

theorem cut_end : position + (block.trailer.drop part).length = (streamBytes before).length + (block.bytes.length + 0) := by
  have place := header.place
  have small := header.small
  rw [List.length_drop, frame_length]
  omega

theorem cut_words (wellFormed : WellFormed params.engine stream) (aligned : 4 ∣ position) :
    4 ∣ (block.trailer.drop part).length := by
  have formed := accepts_formed params.engine _ _ wellFormed.accepted
  rw [header.blocks] at formed
  have before := stream_words before (fun block member => formed block (List.mem_append_left _ member))
  have words := header.accepts.1.words
  have trailer : block.trailer.length = 64 := header.accepts.1.trailer
  have finish := cut_end header
  rw [frame_length] at finish
  omega

theorem cut_behind : (streamBytes stream.blocks).drop (position + (block.trailer.drop part).length) = more ++ later := by
  rw [cut_end header, header.blocks, stream_append, List.drop_length_add_append, stream_cons, List.drop_length_add_append,
    List.drop_zero, header.behind]

theorem cut_ready (next : DecryptState) (pushed : next.received = headerReceived block.trailer state.received)
    (complete : next.hdr = 0) (clear : next.secureHdr = fun _ => 0) :
    Ready (afterBlock (afterBlocks (.iv :: headerReceived stream.first []) before) block) rest
      (decrptSetUpNextBlk params.engine next) 0 := by
  obtain ⟨-, replies, accepted⟩ := header.accepts
  rw [header.saved.received] at pushed
  exact ready_start params.engine _ rest next pushed complete clear replies accepted

theorem cut_stream_ready (wellFormed : WellFormed params.engine stream) (next : DecryptState)
    (start : Ready (afterBlock (afterBlocks (.iv :: headerReceived stream.first []) before) block) rest next 0) :
    Ready (.iv :: headerReceived stream.first []) stream.blocks next (position + (block.trailer.drop part).length) := by
  have accepts := wellFormed.accepted
  rw [header.blocks] at accepts
  rw [cut_end header, header.blocks, ready_skip _ _ _ _ _ _ accepts, ready_next _ _ _ _ _ header.accepts.1]
  exact start

theorem cut_outside : inTrailer stream.blocks (position + (block.trailer.drop part).length) = 0 := by
  rw [cut_end header, header.blocks, in_trailer_skip, in_trailer_next, in_trailer_start]

theorem cut_within : position + (block.trailer.drop part).length ≤ (streamBytes stream.blocks).length := by
  rw [cut_end header, header.blocks, stream_append, stream_cons, List.length_append, List.length_append]
  omega

end Cut

end LilacUxB.Fsbl
