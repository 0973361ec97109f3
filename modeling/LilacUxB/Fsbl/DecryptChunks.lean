import LilacUxB.Fsbl.SplitHeaders
import LilacUxB.Fsbl.ReceivedKept

set_option autoImplicit false

namespace LilacUxB.Fsbl

open Frames Blocks Loops

section Chunk

variable (params : DecryptParams) (memory : Nat → UInt8) (stream : Bitstream) (position : Nat)

theorem data_taken (bytes later : List UInt8) (address last : Nat) (size : UInt32) (state : DecryptState)
    (wellFormed : WellFormed params.engine stream)
    (ready : Ready (.iv :: headerReceived stream.first []) stream.blocks state position)
    (whole : inTrailer stream.blocks position = 0) (inside : position ≤ (streamBytes stream.blocks).length)
    (place : (streamBytes stream.blocks).drop position = bytes ++ later) (holds : Holds memory address bytes)
    (length : size.toNat = bytes.length) (words : 4 ∣ bytes.length) (aligned : 4 ∣ position)
    (long : state.sizeofData ≠ 0 ∨ aesTagSize.toNat ≤ bytes.length ∨ later = [])
    (finish : address + bytes.length = params.chunkBuffer + last) :
    ∃ fuel next, decrptPl params memory address size state fuel = some (.success, next) ∧
      Between params stream (position + bytes.length) last next := by
  obtain ⟨before, rest, offset, split, here, within⟩ := body_place stream.blocks position whole inside
  have accepts := wellFormed.accepted
  have behind := place
  rw [split] at accepts
  rw [split, here, ready_skip params.engine _ _ _ _ _ accepts] at ready
  rw [split, here, stream_append, List.drop_length_add_append] at behind
  have formed := accepts_formed params.engine _ _ accepts
  have multiple := stream_words before (fun block member => formed block (List.mem_append_left rest member))
  have offsetAligned : 4 ∣ offset := (Nat.dvd_add_right multiple).mp (here ▸ aligned)
  obtain ⟨fuel, next, run, sent⟩ := pl_ready params memory wellFormed.pcapReady later rest _ ⟨size, address, 0, state⟩ offset bytes
    (accepts_skip _ _ _ _ accepts) ready within behind length holds words offsetAligned long
  refine ⟨fuel, next, run, sent_between params memory stream position bytes later address last next whole place holds finish ?_⟩
  have skipped := sent_skip params _ before rest _ _ memory next accepts sent
  rwa [← split, ← Nat.add_assoc, ← here] at skipped

end Chunk

section Cut

variable {params : DecryptParams} {memory : Nat → UInt8} {stream : Bitstream} {position last : Nat} {state : DecryptState}
  {chunk later more : List UInt8} {before rest : List (Frame UInt8)} {block : Frame UInt8} {part : Nat}
  (header : CutHeader params stream position last state chunk later before rest block part more)

include header

theorem cut_taken (wellFormed : WellFormed params.engine stream) (holds : Holds memory params.chunkBuffer chunk)
    (size : UInt32) (length : size.toNat = chunk.length) (words : 4 ∣ chunk.length) (aligned : 4 ∣ position)
    (agrees : SplitAgrees params block.trailer last part) :
    ∃ fuel next, splitHeaderChunk params memory params.chunkBuffer size state fuel = .some (.success, next) ∧
      Between params stream (position + chunk.length) chunk.length next := by
  obtain ⟨formed, replies, accepted⟩ := header.accepts
  rw [← header.saved.received] at replies
  obtain ⟨next, rest, pushed, whole, clear, restSize, ended, goes⟩ := header_completed params memory state block.trailer more
    part formed.trailer (formed.trailer ▸ header.small) (cut_saved header) ((cut_holds header holds).mpr agrees) replies.tagOk
    size (header.chunk ▸ length)
  have start := cut_ready header next pushed whole clear
  have ready := cut_stream_ready header wellFormed _ start
  have outside := cut_outside header
  have chunkLength : chunk.length = (block.trailer.drop part).length + more.length := by
    rw [header.chunk, List.length_append]
  rw [chunkLength, ← Nat.add_assoc]
  by_cases none : more = []
  · subst none
    refine ⟨0, _, ended rfl 0, ready, ?_⟩
    rw [List.length_nil, Nat.add_zero, outside]
    exact fun index inside => absurd inside (Nat.not_lt_zero index)
  · have sized := ready_data _ _ _ _ start (more_data _ _ _ _ _ accepted header.behind none)
    have headerWords := cut_words header wellFormed aligned
    rw [header.chunk] at holds
    obtain ⟨fuel, final, run, between⟩ := data_taken params memory stream (position + (block.trailer.drop part).length) more later
      (params.chunkBuffer + (block.trailer.drop part).length) ((block.trailer.drop part).length + more.length) rest
      (decrptSetUpNextBlk params.engine next) wellFormed ready outside (cut_within header) (cut_behind header)
      ((holds_append _ _ _ _).mp holds).2 restSize ((Nat.dvd_add_right headerWords).mp (chunkLength ▸ words))
      (Nat.dvd_add aligned headerWords) (.inl sized) (Nat.add_assoc _ _ _)
    exact ⟨fuel, final, (goes none sized fuel).trans run, between⟩

theorem cut_wrong (holds : Holds memory params.chunkBuffer chunk) (wrong : ¬ SplitAgrees params block.trailer last part)
    (size : UInt32) (fuel more : Nat) (status : XFsblStatus) (next final : DecryptState) (after : Nat → UInt8)
    (chunks : List (List UInt8))
    (run : splitHeaderChunk params memory params.chunkBuffer size state fuel = some (status, next))
    (ends : decryptChunks params more after next chunks = some (.success, final)) : final.received ≠ stream.received := by
  intro same
  have kept := split_keeps params memory _ _ params.chunkBuffer size state fuel _ (List.suffix_refl _) run
  have pushed := chunks_keep params after _ _ more chunks next _ kept ends
  have right : headerReceived block.trailer state.received <:+ stream.received := by
    rw [header.saved.received, Bitstream.received, header.blocks, after_append]
    exact blocks_keep _ _ _ rest (List.suffix_cons _ _)
  rw [show (XFsblStatus.success, final).2.received = stream.received from same] at pushed
  exact wrong ((cut_holds header holds).mp (wrong_header _ block.trailer header.accepts.1.trailer _ _ pushed right))

end Cut

theorem chunk_more (params : DecryptParams) (memory : Nat → UInt8) (address : Nat) (size : UInt32) (state : DecryptState)
    (fuel more : Nat) (result : XFsblStatus × DecryptState)
    (run : decrptPlChunks params memory address size state fuel = some result) :
    decrptPlChunks params memory address size state (fuel + more) = some result := by
  have longer : ∀ address size state, decrptPl params memory address size state fuel = some result →
      decrptPl params memory address size state (fuel + more) = some result := by
    intro address size state done
    exact run_more _ fuel more _ result done
  dsimp only [decrptPlChunks, firstHeaderChunk, splitHeaderChunk] at run ⊢
  grind

theorem chunks_more (params : DecryptParams) (fuel more : Nat) (memory : Nat → UInt8) (chunks : List (List UInt8))
    (state : DecryptState) (result : XFsblStatus × DecryptState)
    (run : decryptChunks params fuel memory state chunks = some result) :
    decryptChunks params (fuel + more) memory state chunks = some result := by
  induction chunks generalizing memory state with
  | nil => exact run
  | cons chunk rest ih =>
      rw [decryptChunks] at run ⊢
      cases taken : decrptPlChunks params (chunkMemory memory params.chunkBuffer chunk) params.chunkBuffer
          (UInt32.ofNat chunk.length) state fuel with
      | none => simp only [taken, reduceCtorEq] at run
      | some outcome =>
          rw [chunk_more params _ _ _ state fuel more outcome taken]
          rw [taken] at run
          by_cases failed : outcome.1 ≠ .success
          · simp only [if_pos failed] at run ⊢
            exact run
          · simp only [if_neg failed] at run ⊢
            exact ih _ _ run

theorem chunks_cons (params : DecryptParams) (fuel : Nat) (memory : Nat → UInt8) (chunk : List UInt8)
    (rest : List (List UInt8)) (state next : DecryptState)
    (taken : decrptPlChunks params (chunkMemory memory params.chunkBuffer chunk) params.chunkBuffer
      (UInt32.ofNat chunk.length) state fuel = some (.success, next)) :
    decryptChunks params fuel memory state (chunk :: rest) =
      decryptChunks params fuel (chunkMemory memory params.chunkBuffer chunk) next rest := by
  rw [decryptChunks, taken]
  exact if_neg (fun failed => failed rfl)

def EngineReceives (params : DecryptParams) (memory : Nat → UInt8) (state : DecryptState) (chunks : List (List UInt8))
    (received : List Pushed) : Prop :=
  ∃ fuel final, decryptChunks params fuel memory state chunks = some (.success, final) ∧ final.received = received

theorem receives_next (params : DecryptParams) (memory : Nat → UInt8) (chunk : List UInt8) (rest : List (List UInt8))
    (state next : DecryptState) (received : List Pushed) (fuel : Nat)
    (taken : decrptPlChunks params (chunkMemory memory params.chunkBuffer chunk) params.chunkBuffer
      (UInt32.ofNat chunk.length) state fuel = some (.success, next)) :
    EngineReceives params memory state (chunk :: rest) received ↔
      EngineReceives params (chunkMemory memory params.chunkBuffer chunk) next rest received := by
  have longer := fun more => chunks_cons params (fuel + more) memory chunk rest state next (chunk_more _ _ _ _ _ _ more _ taken)
  constructor
  · rintro ⟨more, final, run, same⟩
    have again := chunks_more params more fuel memory _ state _ run
    rw [Nat.add_comm, longer more] at again
    exact ⟨_, final, again, same⟩
  · rintro ⟨more, final, run, same⟩
    have again := chunks_more params more fuel _ rest next _ run
    rw [Nat.add_comm, ← longer more] at again
    exact ⟨_, final, again, same⟩

theorem outside_header (engine : AesEngine) (received : List Pushed) (blocks : List (Frame UInt8)) (state : DecryptState)
    (position : Nat) (accepts : EngineAccepts engine received blocks) (ready : Ready received blocks state position)
    (whole : inTrailer blocks position = 0) (inside : position < (streamBytes blocks).length) :
    state.nextBlkLen ≠ 0 ∧ state.hdr = 0 := by
  obtain ⟨before, block, rest, offset, split, place, within⟩ := locate blocks position inside
  rw [split, place, in_trailer_skip, in_trailer_inside _ _ _ within, Nat.sub_eq_zero_iff_le] at whole
  rw [split] at accepts
  rw [split, place, ready_skip engine _ _ _ _ _ accepts, Ready, if_pos whole] at ready
  exact ⟨ready.started, ready.complete⟩

section Next

variable (params : DecryptParams) (memory : Nat → UInt8) (stream : Bitstream) (position last : Nat) (state : DecryptState)
  (chunk later : List UInt8) (wellFormed : WellFormed params.engine stream)
  (between : Between params stream position last state)
  (place : (streamBytes stream.blocks).drop position = chunk ++ later) (some : chunk ≠ [])
  (long : aesTagSize.toNat ≤ chunk.length ∨ later = [])

include wellFormed between place some long

theorem chunk_taken (words : 4 ∣ chunk.length) (aligned : 4 ∣ position) (fits : chunk.length < 2 ^ 32)
    (agrees : inTrailer stream.blocks position ≠ 0 →
      SplitAgrees params (trailerAt stream.blocks position) last (inTrailer stream.blocks position)) :
    ∃ fuel next, decrptPlChunks params (chunkMemory memory params.chunkBuffer chunk) params.chunkBuffer
      (UInt32.ofNat chunk.length) state fuel = .some (.success, next) ∧
      Between params stream (position + chunk.length) chunk.length next := by
  have holds : Holds (chunkMemory memory params.chunkBuffer chunk) params.chunkBuffer chunk := store_holds _ _ _ _
  have size : (UInt32.ofNat chunk.length).toNat = chunk.length := UInt32.toNat_ofNat_of_lt' fits
  have remaining := congrArg List.length place
  rw [List.length_drop, List.length_append] at remaining
  have nonempty := List.length_pos_of_ne_nil some
  by_cases cut : inTrailer stream.blocks position = 0
  · obtain ⟨started, complete⟩ := outside_header _ _ _ state position wellFormed.accepted between.ready cut (by omega)
    obtain ⟨fuel, next, run, after⟩ := data_taken params _ stream position chunk later params.chunkBuffer chunk.length _ state
      wellFormed between.ready cut (by omega) place holds size words aligned (.inr long) rfl
    refine ⟨fuel, next, ?_, after⟩
    rw [decrptPlChunks, if_neg started, if_neg (fun split => split complete)]
    exact run
  · obtain ⟨before, rest, block, part, more, header⟩ :=
      cut_header params stream position chunk later last state wellFormed between place some long cut
    have saved := cut_saved header
    have split : state.hdr ≠ 0 := by
      intro none
      rw [none] at saved
      exact absurd header.cut (by rw [← saved]; decide)
    obtain ⟨fuel, next, run, after⟩ := cut_taken header wellFormed holds _ size words aligned (header.agrees.mp (agrees cut))
    refine ⟨fuel, next, ?_, after⟩
    rw [decrptPlChunks, if_neg header.saved.started, if_pos split]
    exact run

theorem chunk_wrong (rest : List (List UInt8))
    (wrong : ¬ (inTrailer stream.blocks position ≠ 0 →
      SplitAgrees params (trailerAt stream.blocks position) last (inTrailer stream.blocks position))) :
    ¬ EngineReceives params memory state (chunk :: rest) stream.received := by
  obtain ⟨cut, differs⟩ := Classical.not_imp.mp wrong
  obtain ⟨before, behind, block, part, more, header⟩ :=
    cut_header params stream position chunk later last state wellFormed between place some long cut
  have holds : Holds (chunkMemory memory params.chunkBuffer chunk) params.chunkBuffer chunk := store_holds _ _ _ _
  have saved := cut_saved header
  have split : state.hdr ≠ 0 := by
    intro none
    rw [none] at saved
    exact absurd header.cut (by rw [← saved]; decide)
  rintro ⟨fuel, final, run, same⟩
  rw [decryptChunks, decrptPlChunks, if_neg header.saved.started, if_pos split] at run
  split at run
  · cases run
  · next status next taken =>
      by_cases failed : status ≠ .success
      · rw [if_pos failed] at run
        cases run
        exact failed rfl
      · rw [if_neg failed] at run
        exact cut_wrong header holds (fun agrees => differs (header.agrees.mpr agrees)) _ fuel fuel status next final _ rest
          taken run same

end Next

theorem later_long (chunk other : List UInt8) (rest : List (List UInt8)) (member : other ∈ rest.dropLast) :
    other ∈ (chunk :: rest).dropLast := by
  cases rest with
  | nil => exact absurd member List.not_mem_nil
  | cons second others => exact List.mem_cons_of_mem _ member

-- From any position on, the rest of the chunks is taken as the bitstream has it exactly if no header
-- that they share is put together from other bytes.
theorem chunks_exactly (params : DecryptParams) (stream : Bitstream) (wellFormed : WellFormed params.engine stream)
    (chunks : List (List UInt8)) (memory : Nat → UInt8) (position last : Nat) (state : DecryptState)
    (between : Between params stream position last state)
    (place : (streamBytes stream.blocks).drop position = chunks.flatten)
    (inside : position ≤ (streamBytes stream.blocks).length) (aligned : 4 ∣ position)
    (nonempty : ∀ chunk ∈ chunks, chunk ≠ []) (words : ∀ chunk ∈ chunks, 4 ∣ chunk.length)
    (long : ∀ chunk ∈ chunks.dropLast, aesTagSize.toNat ≤ chunk.length) :
    EngineReceives params memory state chunks stream.received ↔ SplitsAgree params stream.blocks position last chunks := by
  induction chunks generalizing memory position last state with
  | nil =>
      have ended : position = (streamBytes stream.blocks).length + 0 :=
        Nat.le_antisymm inside (List.drop_eq_nil_iff.mp place)
      have ready := between.ready
      have accepts := wellFormed.accepted
      rw [← List.append_nil stream.blocks] at ready accepts
      rw [ended, ready_skip params.engine _ _ _ _ _ accepts] at ready
      exact ⟨fun _ => trivial, fun _ => ⟨0, state, rfl, ready.received⟩⟩
  | cons chunk rest ih =>
      rw [List.flatten_cons] at place
      have some := nonempty chunk List.mem_cons_self
      have enough : aesTagSize.toNat ≤ chunk.length ∨ rest.flatten = [] := by
        cases rest with
        | nil => exact .inr rfl
        | cons second others => exact .inl (long chunk List.mem_cons_self)
      have remaining := congrArg List.length place
      rw [List.length_drop, List.length_append] at remaining
      have whole := wellFormed.fits
      rw [Bitstream.bytes, List.length_append] at whole
      by_cases agrees : inTrailer stream.blocks position ≠ 0 →
          SplitAgrees params (trailerAt stream.blocks position) last (inTrailer stream.blocks position)
      · have chunkWords := words chunk List.mem_cons_self
        obtain ⟨fuel, next, taken, after⟩ := chunk_taken params memory stream position last state chunk rest.flatten wellFormed
          between place some enough chunkWords aligned (by omega) agrees
        have later : (streamBytes stream.blocks).drop (position + chunk.length) = rest.flatten := by
          rw [← List.drop_drop, place, List.drop_left]
        have others := ih (chunkMemory memory params.chunkBuffer chunk) _ _ next after later (by omega)
          (Nat.dvd_add aligned chunkWords)
          (fun other member => nonempty other (List.mem_cons_of_mem _ member))
          (fun other member => words other (List.mem_cons_of_mem _ member))
          (fun other member => long other (later_long chunk other rest member))
        rw [receives_next params memory chunk rest state next _ fuel taken, others, SplitsAgree]
        exact ⟨fun rest => ⟨agrees, rest⟩, And.right⟩
      · exact iff_of_false (chunk_wrong params memory stream position last state chunk rest.flatten wellFormed between place some
          enough rest agrees) (fun all => agrees all.1)

-- XFsbl_SecPlPartition sets NextBlkLen to 0, and its caller clears the whole of the parameters.
structure Fresh (state : DecryptState) : Prop where
  length : state.nextBlkLen = 0
  complete : state.hdr = 0
  clear : state.secureHdr = fun _ => 0
  received : state.received = []

theorem first_taken (params : DecryptParams) (memory : Nat → UInt8) (stream : Bitstream) (state : DecryptState)
    (chunk tail later : List UInt8) (wellFormed : WellFormed params.engine stream) (fresh : Fresh state)
    (split : chunk = stream.first ++ tail) (place : streamBytes stream.blocks = tail ++ later) (words : 4 ∣ tail.length)
    (fits : chunk.length < 2 ^ 32) :
    ∃ fuel next, decrptPlChunks params (chunkMemory memory params.chunkBuffer chunk) params.chunkBuffer
      (UInt32.ofNat chunk.length) state fuel = some (.success, next) ∧
      Between params stream tail.length chunk.length next := by
  have holds : Holds (chunkMemory memory params.chunkBuffer chunk) params.chunkBuffer chunk := store_holds _ _ _ _
  have size : (UInt32.ofNat chunk.length).toNat = chunk.length := UInt32.toNat_ofNat_of_lt' fits
  have total : chunk.length = aesTagSize.toNat + tail.length := by rw [split, List.length_append, wellFormed.first]
  rw [split, holds_append, ← split, wellFormed.first] at holds
  have log : headerReceived stream.first state.received = headerReceived stream.first [] := by rw [fresh.received]
  have pushed := secure_hdr_pushed params.engine (chunkMemory memory params.chunkBuffer chunk) params.chunkBuffer state
    stream.first wellFormed.first holds.1 (log ▸ wellFormed.replies.tagOk)
  have start := ready_start params.engine _ stream.blocks
    { state with received := headerReceived stream.first state.received } log fresh.complete fresh.clear wellFormed.replies
    wellFormed.accepted
  have data : (decrptSetUpNextBlk params.engine
      { state with received := headerReceived stream.first state.received }).sizeofData ≠ 0 ∨
      aesTagSize.toNat ≤ tail.length ∨ later = [] := by
    by_cases none : tail ++ later = []
    · exact .inr (.inr (List.append_eq_nil_iff.mp none).2)
    · exact .inl (ready_data _ _ _ _ start
        (more_data _ _ _ (tail ++ later) [] wellFormed.accepted (place.trans (List.append_nil _).symm) none))
  obtain ⟨fuel, next, run, after⟩ := data_taken params _ stream 0 tail later (params.chunkBuffer + aesTagSize.toNat)
    chunk.length (UInt32.ofNat chunk.length - aesTagSize) _ wellFormed start (in_trailer_start _) (Nat.zero_le _) place holds.2
    (size_left _ _ stream.first tail (size.trans (congrArg List.length split)) wellFormed.first.symm) words (Nat.dvd_zero 4) data
    (by rw [total, Nat.add_assoc])
  refine ⟨fuel, next, ?_, by rwa [Nat.zero_add] at after⟩
  rw [decrptPlChunks, if_pos fresh.length, firstHeaderChunk, pushed]
  exact run

theorem first_split (first chunk behind later : List UInt8) (enough : first.length ≤ chunk.length)
    (whole : chunk ++ later = first ++ behind) : ∃ tail, chunk = first ++ tail ∧ behind = tail ++ later := by
  refine ⟨chunk.drop first.length, ?_, ?_⟩
  · have taken := congrArg (List.take first.length) whole
    rw [List.take_append_of_le_length enough, List.take_left] at taken
    rw [← taken, List.length_take, Nat.min_eq_left enough, List.take_append_drop]
  · have dropped := congrArg (List.drop first.length) whole
    rwa [List.drop_append_of_le_length enough, List.drop_left, eq_comm] at dropped

theorem first_exactly (params : DecryptParams) (memory : Nat → UInt8) (stream : Bitstream) (state : DecryptState)
    (chunks : List (List UInt8)) (wellFormed : WellFormed params.engine stream) (fresh : Fresh state)
    (cut : Cut stream chunks) :
    EngineReceives params memory state chunks stream.received ↔ BoundariesAgree params stream chunks := by
  have firstSize : stream.first.length = 64 := wellFormed.first
  have whole := cut.whole
  cases chunks with
  | nil =>
      have none := congrArg List.length whole
      rw [Bitstream.bytes, List.length_append, List.flatten_nil, List.length_nil] at none
      omega
  | cons chunk rest =>
      rw [List.flatten_cons, Bitstream.bytes] at whole
      have total := congrArg List.length whole
      rw [List.length_append, List.length_append] at total
      have enough : stream.first.length ≤ chunk.length := by
        cases rest with
        | nil =>
            rw [List.flatten_nil, List.length_nil] at total
            omega
        | cons second others => exact wellFormed.first.le.trans (cut.long chunk List.mem_cons_self)
      obtain ⟨tail, split, place⟩ := first_split stream.first chunk _ rest.flatten enough whole
      have size : chunk.length = stream.first.length + tail.length := by rw [split, List.length_append]
      have chunkWords := cut.words chunk List.mem_cons_self
      have words : 4 ∣ tail.length := by omega
      have fits := wellFormed.fits
      rw [Bitstream.bytes, List.length_append] at fits
      obtain ⟨fuel, next, taken, after⟩ :=
        first_taken params memory stream state chunk tail rest.flatten wellFormed fresh split place words (by omega)
      rw [receives_next params memory chunk rest state next _ fuel taken, BoundariesAgree, size, Nat.add_sub_cancel_left, ← size]
      have length := congrArg List.length place
      rw [List.length_append] at length
      exact chunks_exactly params stream wellFormed rest _ tail.length chunk.length next after (by rw [place, List.drop_left])
        (by omega) words (fun other member => cut.nonempty other (List.mem_cons_of_mem _ member))
        (fun other member => cut.words other (List.mem_cons_of_mem _ member))
        (fun other member => cut.long other (later_long chunk other rest member))

theorem one_chunk (stream : Bitstream) (engine : AesEngine) (wellFormed : WellFormed engine stream) :
    Cut stream [stream.bytes] := by
  have first : stream.first.length = 64 := wellFormed.first
  have words := stream_words stream.blocks (accepts_formed engine _ _ wellFormed.accepted)
  have total : stream.bytes.length = stream.first.length + (streamBytes stream.blocks).length := List.length_append
  refine ⟨List.flatten_singleton, ?_, ?_, ?_⟩
  · intro chunk member
    rw [List.mem_singleton.mp member]
    intro none
    rw [none, List.length_nil] at total
    omega
  · intro chunk member
    rw [List.mem_singleton.mp member]
    omega
  · intro chunk member
    exact absurd member List.not_mem_nil

theorem same_as_whole (params : DecryptParams) (memory : Nat → UInt8) (state : DecryptState) (stream : Bitstream)
    (chunks : List (List UInt8)) (wellFormed : WellFormed params.engine stream) (fresh : Fresh state) :
    (∃ fuel final whole, decryptChunks params fuel memory state chunks = some (.success, final) ∧
      decryptChunks params fuel memory state [stream.bytes] = some (.success, whole) ∧
      final.received = whole.received ∧ consumed final.received = stream.bytes) ↔
        EngineReceives params memory state chunks stream.received := by
  obtain ⟨enough, whole, once, right⟩ := (first_exactly params memory stream state [stream.bytes] wellFormed fresh
    (one_chunk stream params.engine wellFormed)).mpr trivial
  constructor
  · rintro ⟨fuel, final, other, run, again, same, -⟩
    have first := chunks_more params fuel enough memory _ state _ again
    have second := chunks_more params enough fuel memory _ state _ once
    rw [Nat.add_comm, first, Option.some.injEq, Prod.mk.injEq] at second
    refine ⟨fuel, final, run, ?_⟩
    rw [same, second.2, right]
  · rintro ⟨fuel, final, run, same⟩
    have second := chunks_more params enough fuel memory _ state _ once
    rw [Nat.add_comm] at second
    exact ⟨fuel + enough, final, whole, chunks_more params fuel enough memory _ state _ run, second, same.trans right.symm,
      by rw [same, stream_consumed]⟩

-- XFsbl_DecrptPlChunks pushes the same as for the whole bitstream in one chunk, each byte once, exactly
-- if the device copy comes upon the bytes of every header that a chunk boundary cuts.
theorem chunking_exactly (params : DecryptParams) (memory : Nat → UInt8) (state : DecryptState) (stream : Bitstream)
    (chunks : List (List UInt8)) (wellFormed : WellFormed params.engine stream) (fresh : Fresh state)
    (cut : Cut stream chunks) :
    (∃ fuel final whole, decryptChunks params fuel memory state chunks = some (.success, final) ∧
      decryptChunks params fuel memory state [stream.bytes] = some (.success, whole) ∧
      final.received = whole.received ∧ consumed final.received = stream.bytes) ↔ BoundariesAgree params stream chunks := by
  rw [same_as_whole params memory state stream chunks wellFormed fresh]
  exact first_exactly params memory stream state chunks wellFormed fresh cut

def shortStream : Bitstream := ⟨List.replicate 64 0, [⟨[1, 2, 3, 4], List.replicate 64 5⟩]⟩

def shortEngine : AesEngine where
  gcmTagOk _ := true
  iv3 received := if received.length = 2 then 0x01000000 else 0
  pcapWaitForDone := .success

def shortChunks : List (List UInt8) := [shortStream.bytes.take 76, shortStream.bytes.drop 76]

def shortFlash : DeviceCopy := fun source size =>
  if source.toNat + size.toNat ≤ 0x1000000 then some (fun index => shortStream.bytes.getD (source.toNat + index) 0) else none

def freshState : DecryptState := ⟨0, 0, 0, fun _ => 0, []⟩

theorem short_well_formed : WellFormed shortEngine shortStream := by
  refine ⟨rfl, ⟨rfl, by decide⟩, ⟨⟨by decide, by decide, rfl⟩, ⟨rfl, by decide⟩, trivial⟩, rfl, by decide +kernel⟩

theorem short_cut : Cut shortStream shortChunks := by
  refine ⟨rfl, by decide, by decide, by decide⟩

theorem fresh_state : Fresh freshState := ⟨rfl, rfl, rfl, rfl⟩

theorem short_stream_decrypted :
    ∃ fuel final whole,
      decryptChunks ⟨shortEngine, none, 0xFFFD0000⟩ fuel (fun _ => 0) freshState shortChunks = some (.success, final) ∧
      decryptChunks ⟨shortEngine, none, 0xFFFD0000⟩ fuel (fun _ => 0) freshState [shortStream.bytes] = some (.success, whole) ∧
      final.received = whole.received ∧ consumed final.received = shortStream.bytes :=
  (chunking_exactly ⟨shortEngine, none, 0xFFFD0000⟩ (fun _ => 0) freshState shortStream shortChunks short_well_formed fresh_state
    short_cut).mpr (splits_agree_in_memory _ _ rfl _ _ _)

-- The flash has no address of the OCM, and the engine receives a header of zeros.
theorem split_header_lost :
    WellFormed shortEngine shortStream ∧ Fresh freshState ∧ Cut shortStream shortChunks ∧
      ¬ ∃ fuel final whole,
        decryptChunks ⟨shortEngine, some shortFlash, 0xFFFD0000⟩ fuel (fun _ => 0) freshState shortChunks =
          some (.success, final) ∧
        decryptChunks ⟨shortEngine, some shortFlash, 0xFFFD0000⟩ fuel (fun _ => 0) freshState [shortStream.bytes] =
          some (.success, whole) ∧
        final.received = whole.received ∧ consumed final.received = shortStream.bytes := by
  refine ⟨short_well_formed, fresh_state, short_cut, ?_⟩
  rw [same_as_whole ⟨shortEngine, some shortFlash, 0xFFFD0000⟩ _ _ shortStream _ short_well_formed fresh_state,
    first_exactly ⟨shortEngine, some shortFlash, 0xFFFD0000⟩ _ shortStream _ _ short_well_formed fresh_state short_cut]
  intro agree
  have zero := agree.1 (by decide) _ rfl 0 (by decide)
  exact absurd zero (by decide)

end LilacUxB.Fsbl
