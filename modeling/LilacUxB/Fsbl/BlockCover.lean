import LilacUxB.Fsbl.BlockWalk

set_option autoImplicit false

namespace LilacUxB.Fsbl

open Regions Tilings Words

theorem layout_blocks (params : SecPlParams) (size : Nat) (layout : BitstreamLayout params size) :
    ∃ last multiple, blockCount size params.blockSize.toNat = last + 1 ∧ last * params.blockSize.toNat < size ∧
      size ≤ (last + 1) * params.blockSize.toNat ∧ 0 < multiple ∧ params.blockSize.toNat = multiple * 2 ^ 22 := by
  obtain ⟨header, sized, same⟩ := layout.blockSize
  obtain ⟨multiple, positive, value⟩ := block_size_multiple header sized
  rw [same] at value
  obtain ⟨last, counted, begins, ends⟩ := block_count_bounds size params.blockSize.toNat layout.data (by omega)
  exact ⟨last, multiple, counted, begins, ends, positive, value⟩

theorem layout_end (params : SecPlParams) (size : Nat) (layout : BitstreamLayout params size) :
    params.startAddress.toNat + size < 2 ^ 32 := by
  obtain ⟨last, _, counted, _⟩ := layout_blocks params size layout
  have within := layout.within
  rw [counted] at within
  omega

theorem last_length_sum (params : SecPlParams) (index : UInt8) :
    ((lastLength params index).toNat + index.toNat * (0xEC0 + params.blockSize.toNat)) % 2 ^ 32 =
      (params.totalLen.toNat + params.blockSize.toNat) % 2 ^ 32 := by
  have identity : lastLength params index + index.toUInt32 * (authCertMinSize + params.blockSize) =
      params.totalLen + params.blockSize := by
    unfold lastLength
    grind
  have value := congrArg UInt32.toNat identity
  have certificate : authCertMinSize.toNat = 0xEC0 := rfl
  simp only [UInt32.toNat_add, UInt32.toNat_mul, UInt8.toNat_toUInt32, certificate] at value
  simpa only [Nat.mul_mod_mod, Nat.add_mod_mod] using value

theorem last_length_exact (params : SecPlParams) (size last : Nat) (layout : BitstreamLayout params size)
    (counted : blockCount size params.blockSize.toNat = last + 1) (begins : last * params.blockSize.toNat < size)
    (few : last + 1 ≤ 255) :
    (lastLength params (UInt8.ofNat (last + 1))).toNat = size - last * params.blockSize.toNat := by
  have sum := last_length_sum params (UInt8.ofNat (last + 1))
  have total := layout.total
  have finish := layout_end params size layout
  have length := below (lastLength params (UInt8.ofNat (last + 1)))
  have whole : (last + 1) * params.blockSize.toNat = last * params.blockSize.toNat + params.blockSize.toNat := Nat.succ_mul _ _
  have counter : (last + 1) % 2 ^ 8 = last + 1 := Nat.mod_eq_of_lt (by omega)
  rw [UInt8.toNat_ofNat', total, counted, Nat.mul_add, counter] at sum
  omega

section Path

variable (map : MemoryMap) (params : SecPlParams) (size : Nat) (layout : BitstreamLayout params size)

include layout

theorem block_address (index : Nat) (inside : index * params.blockSize.toNat < size) :
    (pointer map (params.startAddress.toNat + index * params.blockSize.toNat)).toNat =
      params.startAddress.toNat + index * params.blockSize.toNat :=
  pointer_exact map _ (Nat.lt_trans (Nat.add_lt_add_left inside _) (layout_end params size layout))

theorem block_below (index : Nat) (inside : index * params.blockSize.toNat < size) :
    pointer map (params.startAddress.toNat + index * params.blockSize.toNat) < params.acOfset.toUInt64 := by
  rw [UInt64.lt_iff_toNat_lt, block_address map params size layout index inside, UInt32.toNat_toUInt64, layout.certificates]
  exact Nat.add_lt_add_left inside _

theorem last_block_exact (index : Nat)
    (fits : map.narrowPointer = true → params.startAddress.toNat + (index + 1) * params.blockSize.toNat < 2 ^ 32)
    (inside : index * params.blockSize.toNat < size) :
    isLastBlock map params (pointer map (params.startAddress.toNat + index * params.blockSize.toNat)) =
      decide (size < (index + 1) * params.blockSize.toNat) := by
  have finish := layout_end params size layout
  have whole : (index + 1) * params.blockSize.toNat = index * params.blockSize.toNat + params.blockSize.toNat := Nat.succ_mul _ _
  have next : (pointer map (params.startAddress.toNat + (index + 1) * params.blockSize.toNat)).toNat =
      params.startAddress.toNat + (index + 1) * params.blockSize.toNat := by
    by_cases narrow : map.narrowPointer = true
    · exact pointer_exact map _ (fits narrow)
    · have small := below params.blockSize
      exact pointer_wide map _ narrow (by omega)
  rw [isLastBlock, pointer_next, Nat.add_assoc, ← whole]
  apply decide_eq_decide.mpr
  rw [gt_iff_lt, UInt64.lt_iff_toNat_lt, next, UInt32.toNat_toUInt64, layout.certificates, Nat.add_lt_add_iff_left]

theorem last_block_missed (index : Nat) (narrow : map.narrowPointer = true)
    (wraps : ¬ params.startAddress.toNat + (index + 1) * params.blockSize.toNat < 2 ^ 32)
    (inside : index * params.blockSize.toNat < size) :
    isLastBlock map params (pointer map (params.startAddress.toNat + index * params.blockSize.toNat)) = false := by
  have finish := layout_end params size layout
  have small := below params.blockSize
  have whole : (index + 1) * params.blockSize.toNat = index * params.blockSize.toNat + params.blockSize.toNat := Nat.succ_mul _ _
  rw [isLastBlock, pointer_next, Nat.add_assoc, ← whole, decide_eq_false_iff_not, gt_iff_lt, UInt64.lt_iff_toNat_lt,
    pointer_wrapped map _ narrow, UInt32.toNat_toUInt64, layout.certificates]
  omega

theorem whole_region (index : Nat) (inside : (index + 1) * params.blockSize.toNat ≤ size)
    (nonempty : index * params.blockSize.toNat < size) :
    (wholeBlock map params index).region = blockAt params.startAddress.toNat size params.blockSize.toNat index := by
  have whole : (index + 1) * params.blockSize.toNat = index * params.blockSize.toNat + params.blockSize.toNat := Nat.succ_mul _ _
  have address := block_address map params size layout index nonempty
  rw [AuthenticatedBlock.region, blockAt, Nat.min_eq_left inside, whole, ← Nat.add_assoc]
  exact congrArg (fun start => Region.mk start (start + params.blockSize.toNat)) address

theorem certificate_address (index : Nat) (less : index < blockCount size params.blockSize.toNat) :
    (wholeBlock map params index).certificate.toNat = params.startAddress.toNat + size + index * 0xEC0 := by
  have within := layout.within
  have certificate := layout.certificates
  exact (pointer_exact map _ (by omega)).trans (by rw [certificate])

end Path

def wholeBlocks (map : MemoryMap) (params : SecPlParams) (count : Nat) : List AuthenticatedBlock :=
  (List.range count).map (wholeBlock map params)

def lastBlock (map : MemoryMap) (params : SecPlParams) (last : Nat) : AuthenticatedBlock :=
  { wholeBlock map params last with length := lastLength params (UInt8.ofNat (last + 1)) }

theorem block_positive (params : SecPlParams) (size : Nat) (layout : BitstreamLayout params size) :
    0 < params.blockSize.toNat := by
  obtain ⟨_, multiple, _, _, _, positive, block⟩ := layout_blocks params size layout
  omega

theorem whole_regions (map : MemoryMap) (params : SecPlParams) (size count : Nat) (layout : BitstreamLayout params size)
    (inside : count * params.blockSize.toNat ≤ size) :
    (wholeBlocks map params count).map AuthenticatedBlock.region =
      (List.range count).map (blockAt params.startAddress.toNat size params.blockSize.toNat) := by
  rw [wholeBlocks, List.map_map]
  apply List.map_congr_left
  intro index member
  have fits : (index + 1) * params.blockSize.toNat ≤ size :=
    Nat.le_trans (Nat.mul_le_mul_right _ (List.mem_range.mp member)) inside
  have nonempty : index * params.blockSize.toNat < size :=
    Nat.lt_of_lt_of_le (Nat.mul_lt_mul_of_pos_right (Nat.lt_succ_self index) (block_positive params size layout)) fits
  exact whole_region map params size layout index fits nonempty

theorem whole_certificates (map : MemoryMap) (params : SecPlParams) (size count : Nat) (layout : BitstreamLayout params size)
    (inside : count ≤ blockCount size params.blockSize.toNat) :
    (wholeBlocks map params count).map (fun block => block.certificate.toNat) =
      (List.range count).map (fun index => params.startAddress.toNat + size + index * 0xEC0) := by
  rw [wholeBlocks, List.map_map]
  apply List.map_congr_left
  intro index member
  exact certificate_address map params size layout index (Nat.lt_of_lt_of_le (List.mem_range.mp member) inside)

theorem whole_cover (map : MemoryMap) (params : SecPlParams) (size last : Nat) (layout : BitstreamLayout params size)
    (counted : blockCount size params.blockSize.toNat = last + 1) (whole : size = (last + 1) * params.blockSize.toNat) :
    WalkExact params size (wholeBlocks map params (last + 1)) := by
  apply walk_exact params size _ layout.data (block_positive params size layout)
  · rw [whole_regions map params size (last + 1) layout (Nat.le_of_eq whole.symm), cut, counted]
  · rw [whole_certificates map params size (last + 1) layout (Nat.le_of_eq counted.symm), counted]

section Cover

variable (map : MemoryMap) (params : SecPlParams) (size last : Nat) (layout : BitstreamLayout params size)
  (counted : blockCount size params.blockSize.toNat = last + 1) (begins : last * params.blockSize.toNat < size)

include layout begins

theorem last_region (short : size < (last + 1) * params.blockSize.toNat) :
    (lastBlock map params last).region = blockAt params.startAddress.toNat size params.blockSize.toNat last ↔
      (lastLength params (UInt8.ofNat (last + 1))).toNat = size - last * params.blockSize.toNat := by
  have address := block_address map params size layout last begins
  have region : (lastBlock map params last).region =
      ⟨params.startAddress.toNat + last * params.blockSize.toNat, params.startAddress.toNat +
        last * params.blockSize.toNat + (lastLength params (UInt8.ofNat (last + 1))).toNat⟩ :=
    congrArg (fun start => Region.mk start (start + (lastLength params (UInt8.ofNat (last + 1))).toNat)) address
  rw [region, blockAt, Nat.min_eq_right (Nat.le_of_lt short), Region.mk.injEq]
  omega

include counted

theorem short_cover (short : size < (last + 1) * params.blockSize.toNat) :
    WalkExact params size (wholeBlocks map params last ++ [lastBlock map params last]) ↔
      (lastLength params (UInt8.ofNat (last + 1))).toNat = size - last * params.blockSize.toNat := by
  have regions := whole_regions map params size last layout (Nat.le_of_lt begins)
  have certificates := whole_certificates map params size last layout (by omega)
  rw [← last_region map params size last layout begins short]
  constructor
  · intro covers
    have same := covers.regions
    rw [List.map_append, regions, cut, counted, List.range_succ, List.map_append] at same
    exact List.singleton_inj.mp (List.append_cancel_left same)
  · intro same
    apply walk_exact params size _ layout.data (block_positive params size layout)
    · rw [List.map_append, regions, cut, counted, List.range_succ, List.map_append, List.map_singleton, same,
        List.map_singleton]
    · rw [List.map_append, certificates, counted, List.range_succ, List.map_append, List.map_singleton, List.map_singleton]
      exact congrArg (fun address => _ ++ [address]) (certificate_address map params size layout last (by omega))

end Cover

end LilacUxB.Fsbl
