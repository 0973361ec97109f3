import LilacUxB.Fsbl.Decrypt

set_option autoImplicit false

namespace LilacUxB.Fsbl

open Frames

-- The first secure header with its tag, and the blocks: the data, and behind it the header and the tag.
structure Bitstream where
  first : List UInt8
  blocks : List (Frame UInt8)

def Bitstream.bytes (stream : Bitstream) : List UInt8 := stream.first ++ streamBytes stream.blocks

def headerReceived (trailer : List UInt8) (received : List Pushed) : List Pushed :=
  .tag (trailer.drop secureHdrSize) :: .header (trailer.take secureHdrSize) :: received

def afterBlock (received : List Pushed) (block : Frame UInt8) : List Pushed :=
  .iv :: headerReceived block.trailer (pushData block.body received)

def afterBlocks (received : List Pushed) (blocks : List (Frame UInt8)) : List Pushed := blocks.foldl afterBlock received

def Bitstream.received (stream : Bitstream) : List Pushed :=
  afterBlocks (.iv :: headerReceived stream.first []) stream.blocks

def Pushed.bytes : Pushed → List UInt8
  | .header bytes | .tag bytes | .data bytes => bytes
  | .iv => []

def consumed (received : List Pushed) : List UInt8 := received.reverse.flatMap Pushed.bytes

def nextLength : List (Frame UInt8) → Nat
  | [] => 0
  | block :: _ => block.body.length

structure Replies (engine : AesEngine) (received : List Pushed) (length : Nat) : Prop where
  tagOk : engine.gcmTagOk received = true
  nextBlkLen : (htonl (engine.iv3 received) * 4).toNat = length

structure BlockFormed (block : Frame UInt8) : Prop where
  data : 0 < block.body.length
  words : 4 ∣ block.body.length
  trailer : block.trailer.length = aesTagSize.toNat

def EngineAccepts (engine : AesEngine) : List Pushed → List (Frame UInt8) → Prop
  | _, [] => True
  | received, block :: rest =>
      BlockFormed block ∧
        Replies engine (headerReceived block.trailer (pushData block.body received)) (nextLength rest) ∧
        EngineAccepts engine (afterBlock received block) rest

structure WellFormed (engine : AesEngine) (stream : Bitstream) : Prop where
  first : stream.first.length = aesTagSize.toNat
  replies : Replies engine (headerReceived stream.first []) (nextLength stream.blocks)
  accepted : EngineAccepts engine (.iv :: headerReceived stream.first []) stream.blocks
  pcapReady : engine.pcapWaitForDone = .success
  fits : stream.bytes.length < 2 ^ 32

structure Cut (stream : Bitstream) (chunks : List (List UInt8)) : Prop where
  whole : chunks.flatten = stream.bytes
  nonempty : ∀ chunk ∈ chunks, chunk ≠ []
  words : ∀ chunk ∈ chunks, 4 ∣ chunk.length
  long : ∀ chunk ∈ chunks.dropLast, aesTagSize.toNat ≤ chunk.length

structure InBody (received : List Pushed) (block : Frame UInt8) (state : DecryptState) (position : Nat) : Prop where
  received : state.received = pushData (block.body.take position) received
  left : state.sizeofData.toNat = block.body.length - position
  complete : state.hdr = 0
  clear : state.secureHdr = fun _ => 0
  started : state.nextBlkLen ≠ 0

structure InTrailer (received : List Pushed) (block : Frame UInt8) (state : DecryptState) (position : Nat) : Prop where
  received : state.received = pushData block.body received
  left : state.sizeofData = 0
  part : state.hdr.toNat = position - block.body.length
  clear : ∀ index, position - block.body.length ≤ index → state.secureHdr index = 0
  started : state.nextBlkLen ≠ 0

structure Finished (received : List Pushed) (state : DecryptState) : Prop where
  received : state.received = received
  left : state.sizeofData = 0

def Ready : List Pushed → List (Frame UInt8) → DecryptState → Nat → Prop
  | received, [], state, _ => Finished received state
  | received, block :: rest, state, position =>
      if position ≤ block.body.length then InBody received block state position
      else if position < block.bytes.length then InTrailer received block state position
      else Ready (afterBlock received block) rest state (position - block.bytes.length)

theorem push_nothing (received : List Pushed) : pushData [] received = received := by
  cases received with
  | nil => rfl
  | cons last earlier =>
      cases last with
      | data before => simp [pushData]
      | header | tag | iv => rfl

theorem push_push (first second : List UInt8) (received : List Pushed) :
    pushData second (pushData first received) = pushData (first ++ second) received := by
  by_cases none : first = []
  · rw [none, push_nothing, List.nil_append]
  · cases received with
    | nil => simp [pushData, none]
    | cons last earlier =>
        cases last with
        | data before => simp [pushData]
        | header | tag | iv => simp [pushData, none]

theorem consumed_next (last : Pushed) (earlier : List Pushed) :
    consumed (last :: earlier) = consumed earlier ++ last.bytes := by
  rw [consumed, List.reverse_cons, List.flatMap_append, List.flatMap_singleton]
  rfl

theorem consumed_push (bytes : List UInt8) (received : List Pushed) :
    consumed (pushData bytes received) = consumed received ++ bytes := by
  by_cases none : bytes = []
  · rw [none, push_nothing, List.append_nil]
  · cases received with
    | nil => simp [pushData, none, consumed, Pushed.bytes]
    | cons last earlier =>
        cases last with
        | data before => rw [pushData, consumed_next, consumed_next, List.append_assoc]; rfl
        | header | tag | iv => simp only [pushData, if_neg none, consumed_next]; rfl

theorem consumed_header (trailer : List UInt8) (received : List Pushed) :
    consumed (.iv :: headerReceived trailer received) = consumed received ++ trailer := by
  simp only [headerReceived, consumed_next, Pushed.bytes, List.append_nil, List.append_assoc, List.take_append_drop]

theorem consumed_blocks (received : List Pushed) (blocks : List (Frame UInt8)) :
    consumed (afterBlocks received blocks) = consumed received ++ streamBytes blocks := by
  induction blocks generalizing received with
  | nil => simp [afterBlocks, streamBytes]
  | cons block rest ih =>
      have next : consumed (afterBlock received block) = consumed received ++ block.bytes := by
        rw [afterBlock, consumed_header, consumed_push, Frame.bytes, List.append_assoc]
      rw [stream_cons, ← List.append_assoc, ← next]
      exact ih (afterBlock received block)

theorem stream_consumed (stream : Bitstream) : consumed stream.received = stream.bytes := by
  rw [Bitstream.received, consumed_blocks, consumed_header]
  rfl

theorem after_append (received : List Pushed) (before rest : List (Frame UInt8)) :
    afterBlocks received (before ++ rest) = afterBlocks (afterBlocks received before) rest := List.foldl_append

theorem accepts_skip (engine : AesEngine) (received : List Pushed) (before rest : List (Frame UInt8))
    (accepts : EngineAccepts engine received (before ++ rest)) : EngineAccepts engine (afterBlocks received before) rest := by
  induction before generalizing received with
  | nil => exact accepts
  | cons block later ih => exact ih (afterBlock received block) accepts.2.2

theorem ready_next (received : List Pushed) (block : Frame UInt8) (rest : List (Frame UInt8)) (state : DecryptState)
    (position : Nat) (formed : BlockFormed block) :
    Ready received (block :: rest) state (block.bytes.length + position) ↔
      Ready (afterBlock received block) rest state position := by
  have length := frame_length block
  have trailer : block.trailer.length = 64 := formed.trailer
  have beyondBody : ¬ block.bytes.length + position ≤ block.body.length := by omega
  have beyond : ¬ block.bytes.length + position < block.bytes.length := by omega
  rw [Ready, if_neg beyondBody, if_neg beyond, Nat.add_sub_cancel_left]

theorem ready_skip (engine : AesEngine) (received : List Pushed) (before rest : List (Frame UInt8)) (state : DecryptState)
    (position : Nat) (accepts : EngineAccepts engine received (before ++ rest)) :
    Ready received (before ++ rest) state ((streamBytes before).length + position) ↔
      Ready (afterBlocks received before) rest state position := by
  induction before generalizing received with
  | nil => rw [streamBytes, List.flatMap_nil, List.length_nil, Nat.zero_add]; rfl
  | cons block later ih =>
      rw [stream_cons, List.length_append, Nat.add_assoc, List.cons_append, ready_next _ _ _ _ _ accepts.1]
      exact ih (afterBlock received block) accepts.2.2

theorem push_keeps (bytes tag : List UInt8) (earlier received : List Pushed)
    (kept : .tag tag :: earlier <:+ received) : .tag tag :: earlier <:+ pushData bytes received := by
  by_cases none : bytes = []
  · rwa [none, push_nothing]
  · cases received with
    | nil => exact absurd (List.suffix_nil.mp kept) (List.cons_ne_nil _ _)
    | cons last later =>
        cases last with
        | data before =>
            have inside := (List.suffix_cons_iff.mp kept).resolve_left (by simp)
            exact inside.trans (List.suffix_cons _ _)
        | header | tag | iv =>
            simp only [pushData, if_neg none]
            exact kept.trans (List.suffix_cons _ _)

theorem header_kept (tag trailer : List UInt8) (earlier received : List Pushed)
    (kept : .tag tag :: earlier <:+ received) : .tag tag :: earlier <:+ headerReceived trailer received :=
  (kept.trans (List.suffix_cons _ _)).trans (List.suffix_cons _ _)

theorem blocks_keep (tag : List UInt8) (earlier received : List Pushed) (blocks : List (Frame UInt8))
    (kept : .tag tag :: earlier <:+ received) : .tag tag :: earlier <:+ afterBlocks received blocks := by
  induction blocks generalizing received with
  | nil => exact kept
  | cons block rest ih =>
      exact ih _ ((header_kept _ _ _ _ (push_keeps _ _ _ _ kept)).trans (List.suffix_cons _ _))

end LilacUxB.Fsbl
