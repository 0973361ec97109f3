import LilacUxB.Fsbl.ChunkCut

set_option autoImplicit false

namespace LilacUxB.Fsbl

open Bytes

def hashedTexts (block : PlBlock) : Set (List UInt8) :=
  {text | ∃ pass count, count ≤ (noOfChunks block).toNat ∧ text = textUpTo block pass count}

theorem compared_hashs (hash1 hash2 : Nat → UInt8) (compared : compareHashs hash1 hash2 hashTypeSha3.toUInt32 = .success) :
    Agree 48 hash1 hash2 := by
  intro index less
  rw [compareHashs] at compared
  split_ifs at compared with words
  have count : (hashTypeSha3.toUInt32 / 4).toNat = 12 := by decide
  rw [count] at words
  have word := of_decide_eq_true (List.all_eq_true.mp words (index / 4) (List.mem_range.mpr (by omega)))
  have byte := word32_bytes hash1 hash2 _ _ word (index % 4) (Nat.mod_lt index (by decide))
  rwa [Nat.div_add_mod] at byte

theorem digest_ext (first second : Fin 48 → UInt8) (agree : Agree 48 (digestBytes first) (digestBytes second)) :
    first = second := by
  funext index
  have byte := agree index.val index.isLt
  simpa only [digestBytes, Fin.ofNat_val_eq_self] using byte

structure SignedUpTo (block : PlBlock) (index : Nat) (state : SignState) : Prop where
  left : index < (noOfChunks block).toNat → state.hashDataLen = remainingLength block index
  size : index < (noOfChunks block).toNat → state.len = block.partition.chunkSize
  slot : index < (noOfChunks block).toNat → state.chunksHash = 48 * index
  text : state.text = textUpTo block .signVer index
  chunks : state.chunks = (List.range index).map (chunkAt block .signVer)
  stored : ∀ before, before < index → Agree 48 (fun place => state.hashsOfChunks (48 * before + place))
    (digestBytes (block.calls.readHash (textUpTo block .signVer (before + 1))))

theorem signed_at_start (block : PlBlock) (sha3 : block.partition.authType = hashTypeSha3) :
    SignedUpTo block 0 (signStart block) where
  left _ := (remaining_start block).symm
  size _ := rfl
  slot _ := rfl
  text := if_pos sha3
  chunks := rfl
  stored _ less := absurd less (Nat.not_lt_zero _)

theorem sign_chunk_done (block : PlBlock) (index : Nat) (state : SignState) (less : index < (noOfChunks block).toNat)
    (signed : SignedUpTo block index state) (done : (signChunk block index state).1 = .success) :
    (signChunk block index state).2 =
      hashSignedChunk block index (chunkLength block index) (chunkAt block .signVer index) state := by
  have len := sign_len block index state less (signed.left less) (signed.size less)
  simp only [signChunk, len] at done ⊢
  split_ifs at done ⊢ with failed
  · exact absurd done failed
  · rfl

theorem sign_step (block : PlBlock) (sha3 : block.partition.authType = hashTypeSha3) (index : Nat) (state : SignState)
    (less : index < (noOfChunks block).toNat) (signed : SignedUpTo block index state)
    (done : (signChunk block index state).1 = .success) : SignedUpTo block (index + 1) (signChunk block index state).2 := by
  rw [sign_chunk_done block index state less signed done]
  have counted := more_chunks block index less
  have text : state.text ++ (chunkAt block .signVer index).bytes = textUpTo block .signVer (index + 1) := by
    rw [text_next, signed.text]
  constructor
  case left =>
    intro more
    rw [hashSignedChunk, if_pos (counted.mpr more), signed.left less, remaining_next]
  case size =>
    intro more
    exact if_pos more
  case slot =>
    intro more
    have advanced : state.chunksHash + block.partition.authType.toNat = 48 * (index + 1) := by
      rw [signed.slot less, sha3, Nat.mul_succ]
      rfl
    exact (if_pos (counted.mpr more)).trans advanced
  case text => exact text
  case chunks =>
    rw [hashSignedChunk, signed.chunks, List.range_succ, List.map_append]
    rfl
  case stored =>
    intro before earlier place inside
    rw [hashSignedChunk, text, signed.slot less]
    dsimp only
    by_cases last : before = index
    · subst last
      exact Blocks.store_inside _ _ _ _ place inside
    · have sooner : before < index := by omega
      rw [Blocks.store_before _ _ _ _ _ (by omega)]
      exact signed.stored before sooner place inside

theorem signed_whole (block : PlBlock) (sha3 : block.partition.authType = hashTypeSha3)
    (verified : (plSignVer block).status = .success) :
    SignedUpTo block (noOfChunks block).toNat (signChunks block).2 := by
  have finished : (signChunks block).1 = .success := by
    by_contra failed
    rw [plSignVer] at verified
    dsimp only at verified
    rw [if_pos failed] at verified
    exact failed verified
  exact Loops.iterate_finished XFsblStatus.success (signChunk block) _ (SignedUpTo block)
    (fun index state less signed done => sign_step block sha3 index state less signed done) _ 0 _ (Nat.zero_add _)
    (signed_at_start block sha3) finished

def handedOf (block : PlBlock) (chunk : Chunk) : HandedChunk :=
  if block.partition.isEncrypted then ⟨.decrptPlChunks, chunk.offset, chunk.bytes⟩
  else ⟨.pcap, chunk.offset, chunk.bytes.take (4 * (chunk.bytes.length / 4))⟩

theorem hand_on_chunk (block : PlBlock) (offset : UInt64) (buffer : Nat → UInt8) (len : UInt32) :
    handOn block offset buffer len = handedOf block ⟨offset, readBuffer buffer len.toNat⟩ := by
  have words : 4 * (len / 4).toNat ≤ len.toNat := by
    rw [UInt32.toNat_div]
    exact Nat.mul_div_le _ 4
  have count : 4 * (len / 4).toNat = 4 * (len.toNat / 4) := by
    rw [UInt32.toNat_div]
    rfl
  rw [handOn, handedOf]
  split_ifs
  · rfl
  · rw [readBuffer, readBuffer, List.length_map, List.length_range, ← List.map_take, List.take_range, ← count,
      Nat.min_eq_left words]

structure Matched (block : PlBlock) (index : Nat) (state : ReAuthState) : Prop where
  left : index < (noOfChunks block).toNat → state.hashDataLen = remainingLength block index
  size : index < (noOfChunks block).toNat → state.len = block.partition.chunkSize
  slot : index < (noOfChunks block).toNat → state.hashStored = 48 * index
  text : state.text = textUpTo block .reAuthentication index
  same : ∀ place, place < index → chunkAt block .reAuthentication place = chunkAt block .signVer place
  handed : state.handed = (List.range index).map (fun place => handedOf block (chunkAt block .signVer place))

theorem matched_at_start (block : PlBlock) : Matched block 0 (reAuthStart block) where
  left _ := (remaining_start block).symm
  size _ := rfl
  slot _ := rfl
  text := rfl
  same _ less := absurd less (Nat.not_lt_zero _)
  handed := rfl

theorem re_auth_chunk_cases (block : PlBlock) (hashs : Nat → UInt8) (index : Nat) (state : ReAuthState)
    (less : index < (noOfChunks block).toNat) (matched : Matched block index state) :
    ((reAuthChunk block hashs index state).1 ≠ .success ∧ (reAuthChunk block hashs index state).2.handed = state.handed) ∨
      (compareHashs (fun place => hashs (state.hashStored + place))
          (digestBytes (block.calls.readHash (textUpTo block .reAuthentication (index + 1))))
          block.partition.authType.toUInt32 = .success ∧
        ∃ buffer, readBuffer buffer (chunkLength block index).toNat = (chunkAt block .reAuthentication index).bytes ∧
          (reAuthChunk block hashs index state).2 = handCheckedChunk block index (chunkLength block index) buffer state) := by
  have len := re_auth_len block index state less (matched.left less) (matched.size less)
  rw [text_next, ← matched.text]
  simp only [reAuthChunk, len]
  split_ifs with failed different
  · exact .inl ⟨failed, rfl⟩
  · exact .inl ⟨nofun, rfl⟩
  · exact .inr ⟨not_not.mp different, _, rfl, rfl⟩

theorem compared_text (block : PlBlock) (sha3 : block.partition.authType = hashTypeSha3)
    (collisionFree : Set.InjOn block.calls.readHash (hashedTexts block)) (signed : SignState)
    (whole : SignedUpTo block (noOfChunks block).toNat signed) (index : Nat) (less : index < (noOfChunks block).toNat)
    (compared : compareHashs (fun place => signed.hashsOfChunks (48 * index + place))
      (digestBytes (block.calls.readHash (textUpTo block .reAuthentication (index + 1))))
      block.partition.authType.toUInt32 = .success) :
    textUpTo block .reAuthentication (index + 1) = textUpTo block .signVer (index + 1) := by
  rw [sha3] at compared
  have agree := compared_hashs _ _ compared
  have stored := whole.stored index less
  apply collisionFree ⟨_, index + 1, less, rfl⟩ ⟨_, index + 1, less, rfl⟩
  exact digest_ext _ _ (fun place inside => (agree place inside).symm.trans (stored place inside))

theorem matched_step (block : PlBlock) (sha3 : block.partition.authType = hashTypeSha3) (index : Nat)
    (state : ReAuthState) (less : index < (noOfChunks block).toNat) (matched : Matched block index state)
    (buffer : Nat → UInt8)
    (read : readBuffer buffer (chunkLength block index).toNat = (chunkAt block .reAuthentication index).bytes)
    (bound : textUpTo block .reAuthentication (index + 1) = textUpTo block .signVer (index + 1)) :
    Matched block (index + 1) (handCheckedChunk block index (chunkLength block index) buffer state) := by
  have counted := more_slots block index less
  have same : chunkAt block .reAuthentication index = chunkAt block .signVer index := by
    rw [text_next, text_next, text_congr block _ _ index matched.same] at bound
    have bytes := List.append_cancel_left bound
    exact congrArg (Chunk.mk (chunkOffset block index)) bytes
  constructor
  case left =>
    intro more
    rw [handCheckedChunk, matched.left less, remaining_next]
  case size =>
    intro more
    exact if_pos more
  case slot =>
    intro more
    have advanced : state.hashStored + block.partition.authType.toNat = 48 * (index + 1) := by
      rw [matched.slot less, sha3, Nat.mul_succ]
      rfl
    exact (if_pos (counted.mpr more)).trans advanced
  case text => rw [handCheckedChunk, text_next, read, matched.text]
  case same =>
    intro place earlier
    by_cases last : place = index
    · exact last ▸ same
    · exact matched.same place (by omega)
  case handed =>
    rw [handCheckedChunk, matched.handed, List.range_succ, List.map_append, hand_on_chunk, read]
    exact congrArg (fun chunk => _ ++ [handedOf block chunk]) same

def HandedSigned (block : PlBlock) (handed : List HandedChunk) : Prop :=
  handed <+: (List.range (noOfChunks block).toNat).map (fun place => handedOf block (chunkAt block .signVer place))

theorem matched_handed (block : PlBlock) (index : Nat) (state : ReAuthState) (within : index ≤ (noOfChunks block).toNat)
    (matched : Matched block index state) : HandedSigned block state.handed := by
  have shorter : List.range index = (List.range (noOfChunks block).toNat).take index := by
    rw [List.take_range, Nat.min_eq_left within]
  rw [matched.handed, shorter]
  exact (List.take_prefix index _).map _

theorem re_authentication_hands_signed (block : PlBlock) (sha3 : block.partition.authType = hashTypeSha3)
    (collisionFree : Set.InjOn block.calls.readHash (hashedTexts block)) (signed : SignState)
    (whole : SignedUpTo block (noOfChunks block).toNat signed) :
    HandedSigned block (reAuthenticationBlock block signed.hashsOfChunks).handed := by
  have step : ∀ index state, index < (noOfChunks block).toNat → Matched block index state →
      ((reAuthChunk block signed.hashsOfChunks index state).1 ≠ .success ∧
        (reAuthChunk block signed.hashsOfChunks index state).2.handed = state.handed) ∨
      Matched block (index + 1) (reAuthChunk block signed.hashsOfChunks index state).2 := by
    intro index state less matched
    cases re_auth_chunk_cases block signed.hashsOfChunks index state less matched with
    | inl stopped => exact .inl stopped
    | inr checked =>
        obtain ⟨compared, buffer, read, after⟩ := checked
        rw [matched.slot less] at compared
        have bound := compared_text block sha3 collisionFree signed whole index less compared
        rw [after]
        exact .inr (matched_step block sha3 index state less matched buffer read bound)
  have looped := Loops.iterate_always XFsblStatus.success (reAuthChunk block signed.hashsOfChunks)
    (noOfChunks block).toNat (Matched block)
    (fun index state less matched fine => (step index state less matched).resolve_left (fun stopped => stopped.1 fine))
    (fun state => HandedSigned block state.handed) (matched_handed block)
    (by
      intro index state less matched _
      cases step index state less matched with
      | inl stopped => exact stopped.2 ▸ matched_handed block index state (Nat.le_of_lt less) matched
      | inr after => exact matched_handed block (index + 1) _ less after)
    _ 0 (reAuthStart block) (Nat.zero_add _) (matched_at_start block)
  rw [reAuthenticationBlock]
  split_ifs
  · exact List.nil_prefix
  · exact looped

theorem handed_verified (block : PlBlock) (handed : (plBlockAuthentication block).handed ≠ []) :
    noOfChunks block ≤ block.partition.noOfHashs ∧ block.calls.spkVer = .success ∧ (plSignVer block).status = .success ∧
      (plBlockAuthentication block).handed = (reAuthenticationBlock block (plSignVer block).hashsOfChunks).handed := by
  rw [plBlockAuthentication] at handed ⊢
  split_ifs at handed ⊢ with tooMany refused unsigned
  · exact absurd rfl handed
  · exact absurd rfl handed
  · exact absurd rfl handed
  · exact ⟨UInt32.not_lt.mp tooMany, not_not.mp refused, not_not.mp unsigned, rfl⟩

theorem handed_of_chunk (block : PlBlock) (chunk : Chunk) :
    (handedOf block chunk).offset = chunk.offset ∧
      ((handedOf block chunk).target = .decrptPlChunks → (handedOf block chunk).bytes = chunk.bytes) ∧
      ((handedOf block chunk).target = .pcap →
        (handedOf block chunk).bytes = chunk.bytes.take (4 * (chunk.bytes.length / 4))) := by
  rw [handedOf]
  split_ifs
  · exact ⟨rfl, fun _ => rfl, nofun⟩
  · exact ⟨rfl, nofun, fun _ => rfl⟩

theorem handed_chunks_signed (block : PlBlock) (sha3 : block.partition.authType = hashTypeSha3)
    (collisionFree : Set.InjOn block.calls.readHash (hashedTexts block)) :
    (∀ (index : Nat) (handed : HandedChunk), (plBlockAuthentication block).handed[index]? = some handed →
      ∃ chunk : Chunk, (plSignVer block).chunks[index]? = some chunk ∧ handed.offset = chunk.offset ∧
        (handed.target = .decrptPlChunks → handed.bytes = chunk.bytes) ∧
        (handed.target = .pcap → handed.bytes = chunk.bytes.take (4 * (chunk.bytes.length / 4)))) ∧
      ((plBlockAuthentication block).handed ≠ [] →
        noOfChunks block ≤ block.partition.noOfHashs ∧ block.calls.spkVer = .success ∧
          (plSignVer block).status = .success) := by
  constructor
  · intro index handed found
    have present : (plBlockAuthentication block).handed ≠ [] := by
      intro none
      rw [none] at found
      cases found
    obtain ⟨_, _, verified, source⟩ := handed_verified block present
    have whole := signed_whole block sha3 verified
    have chunks : (plSignVer block).chunks = (List.range (noOfChunks block).toNat).map (chunkAt block .signVer) := whole.chunks
    have listed : HandedSigned block (plBlockAuthentication block).handed := by
      rw [source]
      exact re_authentication_hands_signed block sha3 collisionFree _ whole
    obtain ⟨inside, there⟩ := List.getElem?_eq_some_iff.mp found
    have place := List.prefix_iff_getElem?.mp listed index inside
    rw [there, ← Function.comp_def (handedOf block), ← List.map_map, ← chunks, List.getElem?_map] at place
    obtain ⟨chunk, signed, same⟩ := Option.map_eq_some_iff.mp place
    exact ⟨chunk, signed, same ▸ handed_of_chunk block chunk⟩
  · intro present
    obtain ⟨enough, key, verified, _⟩ := handed_verified block present
    exact ⟨enough, key, verified⟩

-- A signed block whose first chunk reads as ones and whose others read as twos, until the
-- second pass finds `reread` there.
def sampleCalls (reread : UInt8) : BlockCalls where
  copyData := fun copy =>
    ⟨.success, fun _ => if copy.index = 0 then 1 else if copy.pass = .signVer then 2 else reread⟩
  spkVer := .success
  sha3Initialize := .success
  shaEngine := []
  readHash := fun text index => text.getD index.val 0
  sha3Finish := fun text index => text.getD index.val 0
  rsaInitialize := .success
  rsaPublicEncrypt := .success
  rsaSignVerification := fun _ => .success
  decrptPlChunks := fun _ => .success

def sampleBlock (chunkSize length : UInt32) (reread : UInt8) : PlBlock where
  partition := ⟨false, chunkSize, hashTypeSha3, fun _ => 0, 4⟩
  calls := sampleCalls reread
  srcAddress := 0
  length := length
  authCer := fun _ => 0

theorem texts_told_apart (block : PlBlock)
    (apart : ∀ (pass other : Pass) (count more : Fin ((noOfChunks block).toNat + 1)),
      block.calls.readHash (textUpTo block pass count) = block.calls.readHash (textUpTo block other more) →
        textUpTo block pass count = textUpTo block other more) :
    Set.InjOn block.calls.readHash (hashedTexts block) := by
  rintro _ ⟨pass, count, within, rfl⟩ _ ⟨other, more, inside, rfl⟩ same
  exact apart pass other ⟨count, Nat.lt_succ_of_le within⟩ ⟨more, Nat.lt_succ_of_le inside⟩ same

theorem changed_chunk_withheld :
    (plBlockAuthentication (sampleBlock 4 8 3)).handed = [⟨.pcap, 0, [1, 1, 1, 1]⟩] ∧
      ∃ chunk : Chunk, (plSignVer (sampleBlock 4 8 3)).chunks[0]? = some chunk ∧ 0 = chunk.offset ∧
        [1, 1, 1, 1] = chunk.bytes.take (4 * (chunk.bytes.length / 4)) := by
  have collisionFree : Set.InjOn (sampleBlock 4 8 3).calls.readHash (hashedTexts (sampleBlock 4 8 3)) := by
    apply texts_told_apart
    intro pass other
    cases pass <;> cases other <;> decide +kernel
  have handed : (plBlockAuthentication (sampleBlock 4 8 3)).handed = [⟨.pcap, 0, [1, 1, 1, 1]⟩] := by decide +kernel
  obtain ⟨chunk, signed, offset, _, bytes⟩ :=
    (handed_chunks_signed (sampleBlock 4 8 3) rfl collisionFree).1 0 ⟨.pcap, 0, [1, 1, 1, 1]⟩ (by rw [handed]; rfl)
  exact ⟨handed, chunk, signed, offset, bytes rfl⟩

-- Six bytes are hashed, one word goes to PCAP.
theorem trailing_bytes_dropped :
    Set.InjOn (sampleBlock 8 6 3).calls.readHash (hashedTexts (sampleBlock 8 6 3)) ∧
      ¬ ∀ (index : Nat) (handed : HandedChunk), (plBlockAuthentication (sampleBlock 8 6 3)).handed[index]? = some handed →
        ∃ chunk : Chunk, (plSignVer (sampleBlock 8 6 3)).chunks[index]? = some chunk ∧ handed.offset = chunk.offset ∧
          handed.bytes = chunk.bytes := by
  constructor
  · apply texts_told_apart
    intro pass other
    cases pass <;> cases other <;> decide +kernel
  · intro whole
    have handed : (plBlockAuthentication (sampleBlock 8 6 3)).handed = [⟨.pcap, 0, [1, 1, 1, 1]⟩] := by decide +kernel
    have hashed : (plSignVer (sampleBlock 8 6 3)).chunks = [⟨0, [1, 1, 1, 1, 1, 1]⟩] := by decide +kernel
    obtain ⟨chunk, signed, _, bytes⟩ := whole 0 ⟨.pcap, 0, [1, 1, 1, 1]⟩ (by rw [handed]; rfl)
    rw [hashed] at signed
    cases signed
    cases bytes

end LilacUxB.Fsbl
