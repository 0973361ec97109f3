import LilacUxB.Words
import LilacUxB.Fsbl.PlBlock

set_option autoImplicit false

namespace LilacUxB.Fsbl

def remainingLength (block : PlBlock) (index : Nat) : UInt32 :=
  block.length - block.partition.chunkSize * UInt32.ofNat index

def chunkLength (block : PlBlock) (index : Nat) : UInt32 :=
  if index + 1 < (noOfChunks block).toNat then block.partition.chunkSize else remainingLength block index

def chunkAt (block : PlBlock) (pass : Pass) (index : Nat) : Chunk :=
  ⟨chunkOffset block index,
    readBuffer (block.calls.copyData ⟨pass, index, chunkOffset block index, chunkLength block index⟩).chunkBuffer
      (chunkLength block index).toNat⟩

def textUpTo (block : PlBlock) (pass : Pass) (count : Nat) : List UInt8 :=
  (List.range count).flatMap (fun index => (chunkAt block pass index).bytes)

theorem text_next (block : PlBlock) (pass : Pass) (count : Nat) :
    textUpTo block pass (count + 1) = textUpTo block pass count ++ (chunkAt block pass count).bytes := by
  rw [textUpTo, List.range_succ, List.flatMap_append, List.flatMap_singleton]
  rfl

theorem text_congr (block : PlBlock) (pass other : Pass) (count : Nat)
    (same : ∀ index, index < count → chunkAt block pass index = chunkAt block other index) :
    textUpTo block pass count = textUpTo block other count := by
  induction count with
  | zero => rfl
  | succ before ih =>
      rw [text_next, text_next, same before (Nat.lt_succ_self before)]
      rw [ih (fun index less => same index (Nat.lt_succ_of_lt less))]

theorem remaining_start (block : PlBlock) : remainingLength block 0 = block.length := by
  have none : block.partition.chunkSize * UInt32.ofNat 0 = 0 := UInt32.mul_zero
  rw [remainingLength, none, UInt32.sub_zero]

theorem remaining_next (block : PlBlock) (index : Nat) :
    remainingLength block index - block.partition.chunkSize = remainingLength block (index + 1) := by
  have product : block.partition.chunkSize * UInt32.ofNat (index + 1) =
      block.partition.chunkSize * UInt32.ofNat index + block.partition.chunkSize := by
    rw [UInt32.ofNat_add, UInt32.mul_add]
    exact congrArg _ (UInt32.mul_one _)
  rw [remainingLength, remainingLength, product]
  exact UInt32.toBitVec_inj.mp (BitVec.sub_sub _ _ _)

theorem whole_chunk (block : PlBlock) (index : Nat) (more : index + 1 < (noOfChunks block).toNat) :
    block.partition.chunkSize.toNat * (index + 1) ≤ block.length.toNat := by
  unfold noOfChunks at more
  dsimp only at more
  have division := Nat.div_add_mod block.length.toNat block.partition.chunkSize.toNat
  have whole : index + 1 ≤ block.length.toNat / block.partition.chunkSize.toNat := by
    split_ifs at more with longer rest
    · rw [UInt32.toNat_add, UInt32.toNat_div] at more
      have bound := Nat.mod_le (block.length.toNat / block.partition.chunkSize.toNat + (1 : UInt32).toNat) (2 ^ 32)
      have one : (1 : UInt32).toNat = 1 := rfl
      omega
    · rw [UInt32.toNat_div] at more
      exact Nat.le_of_lt more
    · have one : (1 : UInt32).toNat = 1 := rfl
      omega
  exact (Nat.mul_le_mul_left _ whole).trans (Nat.mul_div_le _ _)

theorem index_exact (block : PlBlock) (index : Nat) (less : index < (noOfChunks block).toNat) :
    (UInt32.ofNat index).toNat = index ∧ (UInt32.ofNat index + 1).toNat = index + 1 := by
  have below := Words.below (noOfChunks block)
  have exact : (UInt32.ofNat index).toNat = index := UInt32.toNat_ofNat_of_lt' (Nat.lt_trans less below)
  refine ⟨exact, ?_⟩
  rw [Words.add_exact _ _ (by rw [exact]; exact Nat.lt_of_le_of_lt less below), exact]
  rfl

theorem last_exact (block : PlBlock) (index : Nat) (less : index < (noOfChunks block).toNat) :
    (noOfChunks block - 1).toNat = (noOfChunks block).toNat - 1 :=
  Words.sub_exact _ _ (Nat.le_trans (Nat.le_add_left 1 index) less)

theorem last_chunk (block : PlBlock) (index : Nat) (less : index < (noOfChunks block).toNat) :
    UInt32.ofNat index = noOfChunks block - 1 ↔ ¬ index + 1 < (noOfChunks block).toNat := by
  rw [← UInt32.toNat_inj, (index_exact block index less).1, last_exact block index less]
  omega

theorem more_chunks (block : PlBlock) (index : Nat) (less : index < (noOfChunks block).toNat) :
    UInt32.ofNat index + 1 < noOfChunks block ↔ index + 1 < (noOfChunks block).toNat := by
  rw [UInt32.lt_iff_toNat_lt, (index_exact block index less).2]

theorem more_slots (block : PlBlock) (index : Nat) (less : index < (noOfChunks block).toNat) :
    UInt32.ofNat index + 1 ≤ noOfChunks block - 1 ↔ index + 1 < (noOfChunks block).toNat := by
  rw [UInt32.le_iff_toNat_le, (index_exact block index less).2, last_exact block index less]
  omega

theorem remaining_whole (block : PlBlock) (index : Nat) (more : index + 1 < (noOfChunks block).toNat) :
    ¬ remainingLength block index < block.partition.chunkSize := by
  have whole := whole_chunk block index more
  rw [Nat.mul_succ] at whole
  have less : index < (noOfChunks block).toNat := Nat.lt_of_succ_lt more
  have exact := (index_exact block index less).1
  have product : (block.partition.chunkSize * UInt32.ofNat index).toNat = block.partition.chunkSize.toNat * index := by
    rw [Words.mul_exact _ _ (by rw [exact]; have bound := Words.below block.length; omega), exact]
  rw [UInt32.lt_iff_toNat_lt, remainingLength, Words.sub_exact _ _ (by rw [product]; omega), product]
  omega

theorem sign_len (block : PlBlock) (index : Nat) (state : SignState) (less : index < (noOfChunks block).toNat)
    (left : state.hashDataLen = remainingLength block index) (size : state.len = block.partition.chunkSize) :
    signLen block index state = chunkLength block index := by
  by_cases more : index + 1 < (noOfChunks block).toNat
  · have whole := remaining_whole block index more
    have inner : ¬ UInt32.ofNat index = noOfChunks block - 1 := fun last => (last_chunk block index less).mp last more
    rw [signLen, chunkLength, if_pos more, left, if_neg (not_or.mpr ⟨inner, whole⟩), size]
  · have last := (last_chunk block index less).mpr more
    rw [signLen, chunkLength, if_neg more, if_pos (.inl last), left]

theorem re_auth_len (block : PlBlock) (index : Nat) (state : ReAuthState) (less : index < (noOfChunks block).toNat)
    (left : state.hashDataLen = remainingLength block index) (size : state.len = block.partition.chunkSize) :
    reAuthLen block index state = chunkLength block index := by
  by_cases more : index + 1 < (noOfChunks block).toNat
  · have inner : ¬ UInt32.ofNat index = noOfChunks block - 1 := fun last => (last_chunk block index less).mp last more
    rw [reAuthLen, chunkLength, if_pos more, if_neg inner, size]
  · have last := (last_chunk block index less).mpr more
    rw [reAuthLen, chunkLength, if_neg more, if_pos last, left]

end LilacUxB.Fsbl
