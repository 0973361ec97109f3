import LilacUxB.Regions

set_option autoImplicit false

namespace Tilings

open Regions

def Tiles (start : Nat) : List Region → Nat → Prop
  | [], finish => start = finish
  | region :: rest, finish => region.start = start ∧ start < region.finish ∧ Tiles region.finish rest finish

def blockCount (size block : Nat) : Nat := (size + block - 1) / block

def blockAt (start size block index : Nat) : Region := ⟨start + index * block, start + min ((index + 1) * block) size⟩

def cut (start size block : Nat) : List Region := (List.range (blockCount size block)).map (blockAt start size block)

theorem tiles_ordered (regions : List Region) (start finish : Nat) (tiles : Tiles start regions finish) : start ≤ finish := by
  induction regions generalizing start with
  | nil => exact Nat.le_of_eq tiles
  | cons region rest ih => exact Nat.le_trans (Nat.le_of_lt tiles.2.1) (ih region.finish tiles.2.2)

theorem tiles_within (regions : List Region) (start finish : Nat) (tiles : Tiles start regions finish) (region : Region)
    (member : region ∈ regions) : start ≤ region.start := by
  induction regions generalizing start with
  | nil => cases member
  | cons first rest ih =>
      obtain ⟨begins, nonempty, later⟩ := tiles
      cases List.mem_cons.mp member with
      | inl same => exact Nat.le_of_eq (same ▸ begins.symm)
      | inr inRest => exact Nat.le_trans (Nat.le_of_lt nonempty) (ih first.finish later inRest)

theorem tiles_apart (regions : List Region) (start finish : Nat) (tiles : Tiles start regions finish) :
    regions.Pairwise Apart := by
  induction regions generalizing start with
  | nil => exact List.Pairwise.nil
  | cons region rest ih =>
      obtain ⟨_, _, later⟩ := tiles
      refine List.pairwise_cons.mpr ⟨?_, ih region.finish later⟩
      intro other member
      exact .inl (tiles_within rest region.finish finish later other member)

theorem tiles_hold (regions : List Region) (start finish : Nat) (tiles : Tiles start regions finish) (address : Nat) :
    (∃ region ∈ regions, region.Holds address) ↔ start ≤ address ∧ address < finish := by
  induction regions generalizing start with
  | nil =>
      have same : start = finish := tiles
      simp only [List.not_mem_nil, false_and, exists_false, false_iff]
      omega
  | cons region rest ih =>
      obtain ⟨begins, nonempty, later⟩ := tiles
      have ordered := tiles_ordered rest region.finish finish later
      simp only [List.mem_cons, exists_eq_or_imp]
      rw [ih region.finish later, Region.Holds, begins]
      omega

theorem block_count_next (size block : Nat) (longer : block < size) (positive : 0 < block) :
    blockCount size block = blockCount (size - block) block + 1 := by
  have numerator : size + block - 1 = (size - block + block - 1) + block := by omega
  rw [blockCount, blockCount, numerator, Nat.add_div_right _ positive]

theorem block_count_bounds (size block : Nat) (nonempty : 0 < size) (positive : 0 < block) :
    ∃ last, blockCount size block = last + 1 ∧ last * block < size ∧ size ≤ (last + 1) * block := by
  have numerator : size + block - 1 = size - 1 + block := by omega
  have division := Nat.div_add_mod (size - 1) block
  have rest := Nat.mod_lt (size - 1) positive
  have product : block * ((size - 1) / block) = (size - 1) / block * block := Nat.mul_comm _ _
  have whole : ((size - 1) / block + 1) * block = (size - 1) / block * block + block := Nat.succ_mul _ _
  refine ⟨(size - 1) / block, ?_, by omega, by omega⟩
  rw [blockCount, numerator, Nat.add_div_right _ positive]

theorem last_whole (size block last : Nat) (begins : last * block < size) (ends : size ≤ (last + 1) * block) :
    size % block = 0 ↔ size = (last + 1) * block := by
  constructor
  · intro divides
    obtain ⟨count, rfl⟩ := Nat.dvd_of_mod_eq_zero divides
    rw [Nat.mul_comm block] at begins ends ⊢
    have more : last < count := Nat.lt_of_mul_lt_mul_right begins
    exact Nat.le_antisymm ends (Nat.mul_le_mul_right block more)
  · intro whole
    rw [whole, Nat.mul_mod_left]

theorem last_count (size block : Nat) (nonempty : 0 < size) (short : size ≤ block) : blockCount size block = 1 := by
  rw [blockCount]
  exact Nat.div_eq_of_lt_le (by omega) (by omega)

theorem cut_next (start size block : Nat) (longer : block < size) (positive : 0 < block) :
    cut start size block = ⟨start, start + block⟩ :: cut (start + block) (size - block) block := by
  have first : blockAt start size block 0 = ⟨start, start + block⟩ := by
    simp only [blockAt, Nat.zero_mul, Nat.add_zero, Nat.zero_add, Nat.one_mul, Nat.min_eq_left (Nat.le_of_lt longer)]
  have later : ∀ index, blockAt start size block (index + 1) = blockAt (start + block) (size - block) block index := by
    intro index
    have whole : (index + 1 + 1) * block = (index + 1) * block + block := Nat.succ_mul _ _
    have begins : (index + 1) * block = index * block + block := Nat.succ_mul _ _
    simp only [blockAt, Region.mk.injEq]
    omega
  rw [cut, block_count_next size block longer positive, List.range_succ_eq_map, List.map_cons, List.map_map, first]
  apply congrArg (List.cons _)
  exact List.map_congr_left (fun index _ => later index)

theorem cut_tiles (start size block : Nat) (nonempty : 0 < size) (positive : 0 < block) :
    Tiles start (cut start size block) (start + size) := by
  induction size using Nat.strong_induction_on generalizing start with
  | _ size ih =>
      by_cases longer : block < size
      · rw [cut_next start size block longer positive]
        have finish : start + size = start + block + (size - block) := by omega
        refine ⟨rfl, Nat.lt_add_of_pos_right positive, ?_⟩
        rw [finish]
        exact ih (size - block) (by omega) (start + block) (by omega)
      · have short : min ((0 + 1) * block) size = size := by omega
        rw [cut, last_count size block nonempty (Nat.le_of_not_lt longer)]
        simp only [List.range_one, List.map_cons, List.map_nil, blockAt, short, Nat.zero_mul, Nat.add_zero]
        exact ⟨rfl, Nat.lt_add_of_pos_right nonempty, rfl⟩

end Tilings
