import LilacUxB.Fsbl.DecryptSteps

set_option autoImplicit false

namespace LilacUxB.Fsbl

open Frames Blocks Loops

structure Sent (params : DecryptParams) (received : List Pushed) (blocks : List (Frame UInt8)) (position finish : Nat)
    (memory : Nat → UInt8) (state : DecryptState) : Prop where
  ready : Ready received blocks state position
  kept : ∀ index, index < inTrailer blocks position →
    state.secureHdr index = copyData params memory (finish - inTrailer blocks position)
      (UInt32.ofNat (inTrailer blocks position)) (fun _ => 0) index

theorem sent_whole (params : DecryptParams) (received : List Pushed) (blocks : List (Frame UInt8)) (position finish : Nat)
    (memory : Nat → UInt8) (state : DecryptState) (ready : Ready received blocks state position)
    (none : inTrailer blocks position = 0) : Sent params received blocks position finish memory state := by
  refine ⟨ready, ?_⟩
  intro index inside
  rw [none] at inside
  exact absurd inside (Nat.not_lt_zero index)

theorem sent_next (params : DecryptParams) (received : List Pushed) (block : Frame UInt8) (rest : List (Frame UInt8))
    (position finish : Nat) (memory : Nat → UInt8) (state : DecryptState) (formed : BlockFormed block)
    (sent : Sent params (afterBlock received block) rest position finish memory state) :
    Sent params received (block :: rest) (block.bytes.length + position) finish memory state := by
  refine ⟨(ready_next _ _ _ _ _ formed).mpr sent.ready, ?_⟩
  rw [in_trailer_next]
  exact sent.kept

theorem part_saved (params : DecryptParams) (memory : Nat → UInt8) (srcAddr : Nat) (size : UInt32) (state : DecryptState)
    (clear : state.secureHdr = fun _ => 0) (index : Nat) (before : index < size.toNat) :
    (saveHeaderPart params memory srcAddr size state).secureHdr index = copyData params memory srcAddr size (fun _ => 0) index := by
  have stored := store_inside state.secureHdr 0 size.toNat (copyData params memory srcAddr size state.secureHdr) index before
  rw [Nat.zero_add] at stored
  exact stored.trans (by rw [clear])

theorem part_clear (params : DecryptParams) (memory : Nat → UInt8) (srcAddr : Nat) (size : UInt32) (state : DecryptState)
    (clear : state.secureHdr = fun _ => 0) (index : Nat) (behind : size.toNat ≤ index) :
    (saveHeaderPart params memory srcAddr size state).secureHdr index = 0 :=
  (store_after _ 0 _ _ index (by omega)).trans (congrFun clear index)

section Body

variable (params : DecryptParams) (memory : Nat → UInt8) (loop : PlLoop) (received : List Pushed) (block : Frame UInt8)
  (rest : List (Frame UInt8)) (position : Nat) (bytes : List UInt8)
  (formed : BlockFormed block) (inBody : InBody received block loop.state position) (holds : Holds memory loop.srcAddr bytes)

include formed inBody holds

theorem sent_in_body (later : List UInt8) (within : position ≤ block.body.length)
    (place : block.body.drop position = bytes ++ later) (size : loop.size.toNat = bytes.length) (words : 4 ∣ bytes.length) :
    (sendData params memory loop).size = 0 ∧
      Sent params received (block :: rest) (position + bytes.length) (loop.srcAddr + bytes.length) memory
        (sendData params memory loop).state := by
  have length := congrArg List.length place
  rw [List.length_drop, List.length_append] at length
  have total := frame_length block
  have trailer : block.trailer.length = 64 := formed.trailer
  have none : inTrailer (block :: rest) (position + bytes.length) = 0 := by
    rw [in_trailer_inside _ _ _ (by omega)]
    omega
  have taken : block.body.take (position + bytes.length) = block.body.take position ++ bytes := by
    rw [List.take_add, place, List.take_left]
  by_cases left : loop.state.sizeofData = 0
  · have count := inBody.left
    rw [left, UInt32.toNat_zero] at count
    have empty : bytes = [] := List.eq_nil_of_length_eq_zero (by omega)
    subst empty
    rw [send_none params memory loop left]
    refine ⟨UInt32.toNat_inj.mp size, sent_whole _ _ _ _ _ _ _ ?_ none⟩
    rw [Ready, List.length_nil, Nat.add_zero, if_pos within]
    exact inBody
  · have inside : loop.size ≤ loop.state.sizeofData := by
      rw [UInt32.le_iff_toNat_le, size, inBody.left]
      omega
    rw [send_all params memory loop bytes holds left size words inside]
    refine ⟨rfl, sent_whole _ _ _ _ _ _ _ ?_ none⟩
    rw [Ready, if_pos (by omega)]
    refine ⟨?_, ?_, inBody.complete, inBody.clear, inBody.started⟩
    · rw [taken, ← push_push, ← inBody.received]
    · rw [Words.sub_exact _ _ (UInt32.le_iff_toNat_le.mp inside), size, inBody.left]
      omega

variable (tail : List UInt8) (split : bytes = block.body.drop position ++ tail) (size : loop.size.toNat = bytes.length)
  (aligned : 4 ∣ position)

include split size aligned

theorem sent_in_trailer (within : position ≤ block.body.length) (left : loop.state.sizeofData ≠ 0) (some : 0 < tail.length)
    (part : tail.length < aesTagSize.toNat) :
    (sendData params memory loop).size = 0 ∧
      Sent params received (block :: rest) (position + bytes.length) (loop.srcAddr + bytes.length) memory
        (sendData params memory loop).state := by
  have total := frame_length block
  have trailer : block.trailer.length = 64 := formed.trailer
  have short : tail.length < 64 := part
  subst split
  have body := (holds_append _ _ _ _).mp holds
  have dropped : (block.body.drop position).length = block.body.length - position := List.length_drop
  have length : (block.body.drop position ++ tail).length = (block.body.drop position).length + tail.length := List.length_append
  have count : loop.state.sizeofData.toNat = (block.body.drop position).length := inBody.left.trans dropped.symm
  have words : 4 ∣ (block.body.drop position).length := dropped ▸ Nat.dvd_sub formed.words aligned
  have remaining := size_left loop.size loop.state.sizeofData _ tail size count
  have beyond : loop.state.sizeofData < loop.size := UInt32.lt_iff_toNat_lt.mpr (by omega)
  have few : loop.size - loop.state.sizeofData < aesTagSize := UInt32.lt_iff_toNat_lt.mpr (by rw [remaining]; exact part)
  have behind : position + (block.body.drop position ++ tail).length - block.body.length = tail.length := by omega
  have inside : inTrailer (block :: rest) (position + (block.body.drop position ++ tail).length) = tail.length := by
    rw [in_trailer_inside _ _ _ (by omega), behind]
  rw [send_part params memory loop _ body.1 left beyond count words few]
  refine ⟨rfl, ?_, ?_⟩
  · rw [Ready, if_neg (by omega), if_pos (by omega)]
    refine ⟨?_, rfl, ?_, ?_, inBody.started⟩
    · show pushData (block.body.drop position) loop.state.received = _
      rw [inBody.received, push_push, List.take_append_drop]
    · show (loop.size - loop.state.sizeofData).toUInt8.toNat = _
      rw [UInt32.toNat_toUInt8, remaining, behind, Nat.mod_eq_of_lt (by omega)]
    · rw [behind]
      intro index later
      exact part_clear _ _ _ _ _ inBody.clear index (remaining ▸ later)
  · rw [inside]
    intro index before
    have source : loop.srcAddr + (block.body.drop position ++ tail).length - tail.length =
        loop.srcAddr + (block.body.drop position).length := by omega
    rw [source, ← remaining, UInt32.ofNat_toNat]
    exact part_saved _ _ _ _ _ inBody.clear index (remaining ▸ before)

theorem sent_data (long : loop.state.sizeofData = 0 ∨ aesTagSize.toNat ≤ tail.length) :
    (sendData params memory loop).size = loop.size - loop.state.sizeofData ∧
      (sendData params memory loop).srcAddr = loop.srcAddr + (block.body.drop position).length ∧
      (sendData params memory loop).state = { loop.state with received := pushData block.body received, sizeofData := 0 } := by
  have pushed : pushData (block.body.drop position) loop.state.received = pushData block.body received := by
    rw [inBody.received, push_push, List.take_append_drop]
  have dropped : (block.body.drop position).length = block.body.length - position := List.length_drop
  have count : loop.state.sizeofData.toNat = (block.body.drop position).length := inBody.left.trans dropped.symm
  by_cases left : loop.state.sizeofData = 0
  · rw [left, UInt32.toNat_zero] at count
    have empty : block.body.drop position = [] := List.eq_nil_of_length_eq_zero count.symm
    rw [empty, push_nothing] at pushed
    rw [send_none params memory loop left, empty, ← pushed, left, UInt32.sub_zero, ← left]
    exact ⟨rfl, rfl, rfl⟩
  · have enough := long.resolve_left left
    subst split
    have words : 4 ∣ (block.body.drop position).length := dropped ▸ Nat.dvd_sub formed.words aligned
    have remaining := size_left loop.size loop.state.sizeofData _ tail size count
    have tagSize : aesTagSize.toNat = 64 := rfl
    rw [List.length_append] at size
    have beyond : loop.state.sizeofData < loop.size := UInt32.lt_iff_toNat_lt.mpr (by omega)
    have whole : ¬ loop.size - loop.state.sizeofData < aesTagSize := by
      rw [UInt32.not_lt, UInt32.le_iff_toNat_le, remaining]
      exact enough
    rw [send_data params memory loop _ ((holds_append _ _ _ _).mp holds).1 left beyond count words whole, pushed]
    exact ⟨rfl, rfl, rfl⟩

end Body

theorem stream_cut (block : Frame UInt8) (rest : List (Frame UInt8)) (position : Nat) (bytes later : List UInt8)
    (within : position ≤ block.body.length)
    (place : (streamBytes (block :: rest)).drop position = bytes ++ later) :
    block.body.drop position ++ (block.trailer ++ streamBytes rest) = bytes ++ later := by
  rw [← place, stream_cons, Frame.bytes, List.append_assoc, List.drop_append_of_le_length within]

theorem chunk_end (body trailer behind bytes later : List UInt8) (cut : body ++ (trailer ++ behind) = bytes ++ later) :
    (∃ after, body = bytes ++ after) ∨
    (∃ tail after, bytes = body ++ tail ∧ trailer = tail ++ after ∧ tail ≠ [] ∧ after ≠ [] ∧ later = after ++ behind) ∨
    (∃ more, bytes = body ++ (trailer ++ more) ∧ behind = more ++ later) := by
  rcases List.append_eq_append_iff.mp cut with ⟨tail, split, rest⟩ | ⟨after, split, -⟩
  · rcases List.append_eq_append_iff.mp rest with ⟨more, whole, next⟩ | ⟨after, part, left⟩
    · exact .inr (.inr ⟨more, by rw [split, whole], next⟩)
    · by_cases none : tail = []
      · exact .inl ⟨[], by rw [split, none, List.append_nil, List.append_nil]⟩
      · by_cases complete : after = []
        · rw [complete, List.append_nil] at part
          rw [complete, List.nil_append] at left
          exact .inr (.inr ⟨[], by rw [split, part, List.append_nil], left.symm⟩)
        · exact .inr (.inl ⟨tail, after, split, part, none, complete, left⟩)
  · exact .inl ⟨after, split⟩

theorem ready_data (received : List Pushed) (blocks : List (Frame UInt8)) (state : DecryptState) (position : Nat)
    (ready : Ready received blocks state position) (inside : position < nextLength blocks) : state.sizeofData ≠ 0 := by
  cases blocks with
  | nil => exact absurd inside (Nat.not_lt_zero _)
  | cons block rest =>
      have body : position < block.body.length := inside
      rw [Ready, if_pos body.le] at ready
      intro none
      have left := ready.left
      rw [none, UInt32.toNat_zero] at left
      omega

theorem more_data (engine : AesEngine) (received : List Pushed) (blocks : List (Frame UInt8)) (more later : List UInt8)
    (accepts : EngineAccepts engine received blocks) (next : streamBytes blocks = more ++ later) (some : more ≠ []) :
    0 < nextLength blocks := by
  cases blocks with
  | nil => exact absurd (List.append_eq_nil_iff.mp next.symm).1 some
  | cons block rest => exact accepts.1.data

theorem header_taken (params : DecryptParams) (memory : Nat → UInt8) (loop : PlLoop) (trailer more : List UInt8)
    (rest : List (Frame UInt8)) (trailerSize : trailer.length = aesTagSize.toNat)
    (holds : Holds memory loop.srcAddr (trailer ++ more)) (size : loop.size.toNat = (trailer ++ more).length)
    (complete : loop.state.hdr = 0) (clear : loop.state.secureHdr = fun _ => 0)
    (replies : Replies params.engine (headerReceived trailer loop.state.received) (nextLength rest))
    (accepts : EngineAccepts params.engine (.iv :: headerReceived trailer loop.state.received) rest) :
    ∃ state, Ready (.iv :: headerReceived trailer loop.state.received) rest state 0 ∧
      (more = [] → nextHeader params memory loop = .inr (.success, state)) ∧
      (more ≠ [] → 0 < nextLength rest → nextHeader params memory loop =
        .inl ⟨loop.size - aesTagSize, loop.srcAddr + trailer.length, loop.srcAddr + trailer.length, state⟩) := by
  refine ⟨_, ready_start params.engine _ rest _ rfl ?_ ?_ replies accepts,
    header_last params memory loop trailer more _ trailerSize holds size replies, ?_⟩
  · exact complete
  · exact clear
  · rw [trailerSize]
    exact header_inner params memory loop trailer more _ trailerSize holds size replies

theorem block_taken (params : DecryptParams) (memory : Nat → UInt8) (loop : PlLoop) (received : List Pushed)
    (block : Frame UInt8) (rest : List (Frame UInt8)) (position : Nat) (bytes more : List UInt8)
    (pcapReady : params.engine.pcapWaitForDone = .success) (accepts : EngineAccepts params.engine received (block :: rest))
    (inBody : InBody received block loop.state position) (holds : Holds memory loop.srcAddr bytes)
    (split : bytes = block.body.drop position ++ (block.trailer ++ more)) (size : loop.size.toNat = bytes.length)
    (aligned : 4 ∣ position) :
    ∃ state, Ready (afterBlock received block) rest state 0 ∧
      (more = [] → decrptPlStep params memory loop = .inr (.success, state)) ∧
      (more ≠ [] → 0 < nextLength rest → ∃ next, decrptPlStep params memory loop = .inl next ∧ next.state = state ∧
        next.size.toNat = more.length ∧ next.srcAddr = loop.srcAddr + (block.body.drop position ++ block.trailer).length) := by
  obtain ⟨formed, replies, accepted⟩ := accepts
  have enough : aesTagSize.toNat ≤ (block.trailer ++ more).length := by
    rw [List.length_append, formed.trailer]
    exact Nat.le_add_right _ _
  obtain ⟨sentSize, sentAddr, sentState⟩ := sent_data params memory loop received block position bytes formed inBody holds
    (block.trailer ++ more) split size aligned (.inr enough)
  subst split
  have held := ((holds_append _ _ _ _).mp holds).2
  have dropped : (block.body.drop position).length = block.body.length - position := List.length_drop
  have remaining := size_left loop.size loop.state.sizeofData _ _ size (inBody.left.trans dropped.symm)
  rw [← sentSize] at remaining
  rw [← sentAddr] at held
  have some : (sendData params memory loop).size ≠ 0 := by
    intro none
    rw [none, UInt32.toNat_zero] at remaining
    exact absurd (remaining ▸ enough) (by decide)
  have stepped := step_header params memory loop pcapReady (by rw [sentState]) some
  have pushed : pushData block.body received = (sendData params memory loop).state.received := by rw [sentState]
  rw [pushed] at replies
  rw [afterBlock, pushed] at accepted ⊢
  obtain ⟨state, start, ended, goes⟩ := header_taken params memory _ block.trailer more rest formed.trailer held remaining
    (by rw [sentState]; exact inBody.complete) (by rw [sentState]; exact inBody.clear) replies accepted
  refine ⟨state, start, ?_, ?_⟩
  · intro last
    exact stepped.trans (ended last)
  · intro some data
    refine ⟨_, stepped.trans (goes some data), rfl, size_left _ aesTagSize _ _ remaining formed.trailer.symm, ?_⟩
    rw [sentAddr, List.length_append, Nat.add_assoc]

-- Too short for a header, what is behind the data ends the chunk: it cannot have begun there.
theorem data_before_part (received : List Pushed) (block : Frame UInt8) (state : DecryptState) (position : Nat)
    (bytes tail later : List UInt8) (inBody : InBody received block state position)
    (split : bytes = block.body.drop position ++ tail) (short : tail.length < aesTagSize.toNat)
    (long : state.sizeofData ≠ 0 ∨ aesTagSize.toNat ≤ bytes.length ∨ later = []) (unfinished : later ≠ []) :
    state.sizeofData ≠ 0 := by
  intro zero
  have count := inBody.left
  rw [zero, UInt32.toNat_zero] at count
  have total := congrArg List.length split
  rw [List.length_append, List.length_drop] at total
  rcases long with before | whole | last
  · exact before zero
  · omega
  · exact unfinished last

theorem pl_ready (params : DecryptParams) (memory : Nat → UInt8) (pcapReady : params.engine.pcapWaitForDone = .success)
    (later : List UInt8) (blocks : List (Frame UInt8)) (received : List Pushed) (loop : PlLoop) (position : Nat)
    (bytes : List UInt8) (accepts : EngineAccepts params.engine received blocks)
    (ready : Ready received blocks loop.state position) (within : position ≤ nextLength blocks)
    (place : (streamBytes blocks).drop position = bytes ++ later) (size : loop.size.toNat = bytes.length)
    (holds : Holds memory loop.srcAddr bytes) (words : 4 ∣ bytes.length) (aligned : 4 ∣ position)
    (long : loop.state.sizeofData ≠ 0 ∨ aesTagSize.toNat ≤ bytes.length ∨ later = []) :
    ∃ fuel state, runUntil (decrptPlStep params memory) fuel loop = some (.success, state) ∧
      Sent params received blocks (position + bytes.length) (loop.srcAddr + bytes.length) memory state := by
  -- One step takes one block at most, and leaves the loop at position 0 of the blocks behind it.
  induction blocks generalizing received loop position bytes with
  | nil =>
      rw [streamBytes, List.flatMap_nil, List.drop_nil] at place
      obtain ⟨empty, -⟩ := List.append_eq_nil_iff.mp place.symm
      have left : loop.state.sizeofData = 0 := ready.left
      have same := send_none params memory loop left
      have none : loop.size = 0 := UInt32.toNat_inj.mp (by rw [size, empty]; rfl)
      have done := step_done params memory loop pcapReady (by rw [same, none])
      rw [same] at done
      exact ⟨1, loop.state, run_last _ 0 loop _ done, sent_whole _ _ _ _ _ _ _ ready rfl⟩
  | cons block rest ih =>
      have body : position ≤ block.body.length := within
      rw [Ready, if_pos body] at ready
      have formed := accepts.1
      have trailer : block.trailer.length = 64 := formed.trailer
      have dropped : (block.body.drop position).length = block.body.length - position := List.length_drop
      rcases chunk_end _ _ _ _ _ (stream_cut block rest position bytes later body place) with
        ⟨after, inside⟩ | ⟨tail, after, split, part, some, missing, left⟩ | ⟨more, split, next⟩
      · obtain ⟨none, sent⟩ :=
          sent_in_body params memory loop received block rest position bytes formed ready holds after body inside size words
        exact ⟨1, _, run_last _ 0 loop _ (step_done params memory loop pcapReady none), sent⟩
      · have short := congrArg List.length part
        rw [List.length_append, trailer] at short
        have missed := List.length_pos_of_ne_nil missing
        have small : tail.length < aesTagSize.toNat := show tail.length < 64 by omega
        have unfinished : later ≠ [] := by
          rw [left]
          exact List.append_ne_nil_of_left_ne_nil missing _
        have data := data_before_part received block loop.state position bytes tail later ready split small long unfinished
        obtain ⟨none, sent⟩ := sent_in_trailer params memory loop received block rest position bytes formed ready holds tail
          split size aligned body data (List.length_pos_of_ne_nil some) small
        exact ⟨1, _, run_last _ 0 loop _ (step_done params memory loop pcapReady none), sent⟩
      · obtain ⟨state, start, ended, goes⟩ := block_taken params memory loop received block rest position bytes more pcapReady
          accepts ready holds split size aligned
        have length : position + bytes.length = block.bytes.length + more.length := by
          rw [split, List.length_append, List.length_append, dropped, frame_length]
          omega
        rw [length]
        by_cases last : more = []
        · refine ⟨1, state, run_last _ 0 loop _ (ended last), ?_⟩
          subst last
          exact sent_next _ _ _ _ _ _ _ _ formed (sent_whole _ _ _ _ _ _ _ start (in_trailer_start rest))
        · have data := more_data _ _ _ _ _ accepts.2.2 next last
          obtain ⟨following, step, sameState, moreSize, place⟩ := goes last data
          have moreWords : 4 ∣ more.length := by
            have inner := formed.words
            rw [split, List.length_append, List.length_append, dropped, trailer] at words
            omega
          rw [split] at holds
          rw [← sameState] at start
          have held := ((holds_append _ _ _ _).mp ((holds_append _ _ _ _).mp holds).2).2
          rw [Nat.add_assoc, ← List.length_append, ← place] at held
          obtain ⟨fuel, final, run, sent⟩ := ih _ following 0 more accepts.2.2 start (Nat.zero_le _) next moreSize held moreWords
            (Nat.dvd_zero 4) (.inl (ready_data _ _ _ _ start data))
          refine ⟨fuel + 1, final, (run_next _ fuel loop _ step).trans run, ?_⟩
          rw [Nat.zero_add] at sent
          have finish : loop.srcAddr + bytes.length = following.srcAddr + more.length := by
            rw [place, split, ← List.append_assoc, List.length_append, Nat.add_assoc]
          rw [finish]
          exact sent_next _ _ _ _ _ _ _ _ formed sent

end LilacUxB.Fsbl
