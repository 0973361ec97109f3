import LilacUxB.Fsbl.BlockAccepted
import LilacUxB.Fsbl.BlockCover

set_option autoImplicit false

namespace LilacUxB.Fsbl

open Regions Tilings Words Loops

def hashRoom : Nat := 149 * 57344

theorem chunks_fit (params : SecPlParams) (prepared : Prepared params) (calls : WalkCalls) (state : WalkState) (len : UInt32) :
    noOfChunks (plBlock params calls state len) ≤ (plBlock params calls state len).partition.noOfHashs ↔
      len.toNat ≤ hashRoom := by
  have chunk : readBufferSize.toNat = 57344 := by decide
  have hashs : (hashBufferSize / hashTypeSha3.toUInt32).toNat = 149 := by decide
  have one : (1 : UInt32).toNat = 1 := rfl
  have zero : (0 : UInt32).toNat = 0 := rfl
  have small := below len
  simp only [noOfChunks, plBlock, prepared.chunkSize, prepared.noOfHashs, gt_iff_lt, UInt32.le_iff_toNat_le,
    UInt32.lt_iff_toNat_lt, UInt32.toNat_mod, hashs, chunk, zero, hashRoom]
  split_ifs
  · rw [UInt32.toNat_add, UInt32.toNat_div, chunk, one]
    omega
  · rw [UInt32.toNat_div, chunk]
    omega
  · omega

theorem passes_room (params : SecPlParams) (prepared : Prepared params) (calls : WalkCalls) (state : WalkState) (len : UInt32)
    (passes : Passes params calls state len) : len.toNat ≤ hashRoom :=
  (chunks_fit params prepared calls state len).mp (accepted_within _ passes.authenticated)

structure AcceptingWalk (calls : WalkCalls) : Prop where
  copied : ∀ done, (calls.copyData done).status = .success
  block : ∀ done, Accepting (calls.block done)

theorem accepting_passes (params : SecPlParams) (prepared : Prepared params) (calls : WalkCalls) (accepting : AcceptingWalk calls)
    (state : WalkState) (len : UInt32) (room : len.toNat ≤ hashRoom) : Passes params calls state len :=
  ⟨accepting.copied _, steady_block_accepted _ prepared.authType (accepting.block _)
    ((chunks_fit params prepared calls state len).mpr room)⟩

theorem secured_run (map : MemoryMap) (params : SecPlParams) (prepared : Prepared params) (calls : WalkCalls) (fuel : Nat) :
    secPlPartition map params calls fuel = runUntil (walkBlock map params calls) fuel (walkStart map params) :=
  if_neg (not_not.mpr prepared.checked)

section Runs

variable (map : MemoryMap) (params : SecPlParams) (prepared : Prepared params) (calls : WalkCalls) (size last : Nat)
  (layout : BitstreamLayout params size) (begins : last * params.blockSize.toNat < size)

include prepared in
theorem reached_passes (noErrors : NoErrors map params calls) (state : WalkState)
    (reached : Reaches (walkBlock map params calls) (walkStart map params) state)
    (inside : state.srcAddress < params.acOfset.toUInt64) : Passes params calls state (walkLen map params state) := by
  by_contra refused
  obtain ⟨result, ends, failed⟩ := walk_refuses map params calls state inside refused
  obtain ⟨fuel, done⟩ := reaches_end (walkBlock map params calls) _ _ _ reached ends
  exact failed (noErrors fuel result ((secured_run map params prepared calls fuel).trans done))

include layout begins

theorem inner_block (index : Nat) (less : index < last) :
    pointer map (params.startAddress.toNat + index * params.blockSize.toNat) < params.acOfset.toUInt64 ∧
      isLastBlock map params (pointer map (params.startAddress.toNat + index * params.blockSize.toNat)) = false := by
  have whole : (index + 1) * params.blockSize.toNat < size := Nat.lt_of_le_of_lt (Nat.mul_le_mul_right _ less) begins
  have inside : index * params.blockSize.toNat < size :=
    Nat.lt_of_le_of_lt (Nat.mul_le_mul_right _ (Nat.le_succ index)) whole
  have finish := layout_end params size layout
  refine ⟨block_below map params size layout index inside, ?_⟩
  rw [last_block_exact map params size layout index (fun _ => by omega) inside]
  exact decide_eq_false (Nat.lt_asymm whole)

theorem walk_reaches
    (passes : ∀ index, index < last → Reaches (walkBlock map params calls) (walkStart map params) (walkPath map params index) →
      Passes params calls (walkPath map params index) params.blockSize) (index : Nat) (within : index ≤ last) :
    Reaches (walkBlock map params calls) (walkStart map params) (walkPath map params index) := by
  induction index with
  | zero => exact walk_start map params ▸ reaches_start _ _
  | succ before ih =>
      obtain ⟨inside, inner⟩ := inner_block map params size last layout begins before within
      have reached := ih (Nat.le_of_lt within)
      exact reaches_next _ _ _ _ reached (walk_goes map params calls before inside inner (passes before within reached))

include prepared in
theorem checked_reaches (noErrors : NoErrors map params calls) (index : Nat) (within : index ≤ last) :
    Reaches (walkBlock map params calls) (walkStart map params) (walkPath map params index) := by
  refine walk_reaches map params calls size last layout begins ?_ index within
  intro earlier less reached
  obtain ⟨inside, inner⟩ := inner_block map params size last layout begins earlier less
  have len : walkLen map params (walkPath map params earlier) = params.blockSize :=
    walk_len_inner map params (walkPath map params earlier) inner
  have passes := reached_passes map params prepared calls noErrors (walkPath map params earlier) reached inside
  exact len ▸ passes

theorem whole_walk (whole : size = (last + 1) * params.blockSize.toNat)
    (reached : Reaches (walkBlock map params calls) (walkStart map params) (walkPath map params last))
    (passes : Passes params calls (walkPath map params last) params.blockSize) :
    ∃ fuel, runUntil (walkBlock map params calls) fuel (walkStart map params) =
      some ⟨.success, wholeBlocks map params (last + 1)⟩ := by
  have finish := layout_end params size layout
  have inner : isLastBlock map params (pointer map (params.startAddress.toNat + last * params.blockSize.toNat)) = false := by
    rw [last_block_exact map params size layout last (fun _ => by omega) begins]
    exact decide_eq_false (by omega)
  have goes := walk_goes map params calls last (block_below map params size layout last begins) inner passes
  have ends : walkBlock map params calls (walkPath map params (last + 1)) =
      .inr ⟨.success, (walkPath map params (last + 1)).blocks⟩ := by
    have past : ¬ (walkPath map params (last + 1)).srcAddress < params.acOfset.toUInt64 := by
      have address := pointer_exact map (params.startAddress.toNat + (last + 1) * params.blockSize.toNat) (by omega)
      rw [walkPath, UInt64.lt_iff_toNat_lt, address, UInt32.toNat_toUInt64, layout.certificates]
      omega
    rw [walkBlock]
    exact if_pos past
  exact reaches_end _ _ _ _ (reaches_next _ _ _ _ reached goes) ends

theorem last_block_found (short : size < (last + 1) * params.blockSize.toNat)
    (fits : map.narrowPointer = true → params.startAddress.toNat + (last + 1) * params.blockSize.toNat < 2 ^ 32) :
    isLastBlock map params (pointer map (params.startAddress.toNat + last * params.blockSize.toNat)) = true := by
  rw [last_block_exact map params size layout last fits begins]
  exact decide_eq_true short

theorem short_walk (short : size < (last + 1) * params.blockSize.toNat)
    (fits : map.narrowPointer = true → params.startAddress.toNat + (last + 1) * params.blockSize.toNat < 2 ^ 32)
    (reached : Reaches (walkBlock map params calls) (walkStart map params) (walkPath map params last))
    (passes : Passes params calls (walkPath map params last) (lastLength params (UInt8.ofNat (last + 1)))) :
    ∃ fuel, runUntil (walkBlock map params calls) fuel (walkStart map params) =
      some ⟨.success, wholeBlocks map params last ++ [lastBlock map params last]⟩ := by
  have found := last_block_found map params size last layout begins short fits
  exact reaches_end _ _ _ _ reached
    (walk_last map params calls last (block_below map params size layout last begins) found passes)

include prepared in
theorem whole_block_room (noErrors : NoErrors map params calls) (index : Nat) (within : index ≤ last)
    (inner : isLastBlock map params (pointer map (params.startAddress.toNat + index * params.blockSize.toNat)) = false) :
    Passes params calls (walkPath map params index) params.blockSize ∧ params.blockSize.toNat ≤ hashRoom := by
  have inside : index * params.blockSize.toNat < size := Nat.lt_of_le_of_lt (Nat.mul_le_mul_right _ within) begins
  have reached := checked_reaches map params prepared calls size last layout begins noErrors index within
  have len : walkLen map params (walkPath map params index) = params.blockSize :=
    walk_len_inner map params (walkPath map params index) inner
  have passes := reached_passes map params prepared calls noErrors (walkPath map params index) reached
    (block_below map params size layout index inside)
  rw [len] at passes
  exact ⟨passes, passes_room params prepared calls _ _ passes⟩

-- Under NoErrors no block is too long for the hashes, so the few hundred blocks that an 8-bit index
-- miscounts do not occur below 2^32: the length computed there needs too many chunks.
theorem few_blocks (multiple : Nat) (counted : blockCount size params.blockSize.toNat = last + 1)
    (ends : size ≤ (last + 1) * params.blockSize.toNat) (block : params.blockSize.toNat = multiple * 2 ^ 22)
    (least : 1 ≤ multiple) (most : multiple ≤ 2) (small : (last + 1) * params.blockSize.toNat < 2 ^ 32)
    (room : (lastLength params (UInt8.ofNat (last + 1))).toNat ≤ hashRoom) : last + 1 ≤ 255 := by
  have sum := last_length_sum params (UInt8.ofNat (last + 1))
  rw [UInt8.toNat_ofNat', layout.total, counted] at sum
  unfold hashRoom at room
  rcases Nat.le_iff_lt_or_eq.mp most with one | two
  · obtain rfl : multiple = 1 := by omega
    rw [block] at sum small ends begins
    by_contra many
    have wraps : (last + 1) / 2 ^ 8 = 1 ∨ (last + 1) / 2 ^ 8 = 2 ∨ (last + 1) / 2 ^ 8 = 3 := by omega
    rcases wraps with once | twice | thrice <;> omega
  · subst two
    rw [block] at sum small ends begins
    by_contra many
    have wraps : (last + 1) / 2 ^ 8 = 1 := by omega
    omega

theorem wrapped_length (multiple : Nat) (counted : blockCount size params.blockSize.toNat = last + 1)
    (block : params.blockSize.toNat = multiple * 2 ^ 22) (least : 1 ≤ multiple) (most : multiple ≤ 2)
    (large : ¬ (last + 1) * params.blockSize.toNat < 2 ^ 32) (ends : size ≤ (last + 1) * params.blockSize.toNat) :
    (lastLength params (UInt8.ofNat (last + 1))).toNat =
      size - last * params.blockSize.toNat + (last + 1) * 0xEC0 := by
  have sum := last_length_sum params (UInt8.ofNat (last + 1))
  have within := layout.within
  have length := below (lastLength params (UInt8.ofNat (last + 1)))
  rw [UInt8.toNat_ofNat', layout.total, counted] at sum
  rw [counted] at within
  rcases Nat.le_iff_lt_or_eq.mp most with one | two
  · obtain rfl : multiple = 1 := by omega
    rw [block] at sum large begins ends ⊢
    have full : last + 1 = 1024 := by omega
    rw [full] at sum within length ⊢
    omega
  · subst two
    rw [block] at sum large begins ends ⊢
    have full : last + 1 = 512 := by omega
    rw [full] at sum within length ⊢
    omega

-- On a 32-bit build the walk over a wrapping grid comes back to where it began, for ever.
theorem grid_below (multiple index : Nat) (block : params.blockSize.toNat = multiple * 2 ^ 22) (least : 1 ≤ multiple)
    (most : multiple ≤ 2) (wraps : ¬ params.startAddress.toNat + (last + 1) * params.blockSize.toNat < 2 ^ 32) :
    (params.startAddress.toNat + index * params.blockSize.toNat) % 2 ^ 32 < params.acOfset.toNat := by
  have certificates := layout.certificates
  rcases Nat.le_iff_lt_or_eq.mp most with one | two
  · obtain rfl : multiple = 1 := by omega
    rw [block] at wraps begins ⊢
    omega
  · subst two
    rw [block] at wraps begins ⊢
    omega

include prepared in
theorem endless_walk (accepting : AcceptingWalk calls) (multiple : Nat) (block : params.blockSize.toNat = multiple * 2 ^ 22)
    (least : 1 ≤ multiple) (most : multiple ≤ 2) (narrow : map.narrowPointer = true)
    (wraps : ¬ params.startAddress.toNat + (last + 1) * params.blockSize.toNat < 2 ^ 32) (fuel : Nat) :
    runUntil (walkBlock map params calls) fuel (walkStart map params) = none := by
  have room : params.blockSize.toNat ≤ hashRoom := by
    unfold hashRoom
    omega
  have below : ∀ index, (pointer map (params.startAddress.toNat + index * params.blockSize.toNat)).toNat <
      params.acOfset.toNat := by
    intro index
    rw [pointer_wrapped map _ narrow]
    exact grid_below params size last layout begins multiple index block least most wraps
  have goes : ∀ index, walkBlock map params calls (walkPath map params index) = .inl (walkPath map params (index + 1)) := by
    intro index
    have next : (index + 1) * params.blockSize.toNat = index * params.blockSize.toNat + params.blockSize.toNat :=
      Nat.succ_mul _ _
    apply walk_goes map params calls index
    · rw [UInt64.lt_iff_toNat_lt, UInt32.toNat_toUInt64]
      exact below index
    · rw [isLastBlock, pointer_next, Nat.add_assoc, ← next, decide_eq_false_iff_not, gt_iff_lt, UInt64.lt_iff_toNat_lt,
        UInt32.toNat_toUInt64]
      exact Nat.lt_asymm (below (index + 1))
    · exact accepting_passes params prepared calls accepting _ _ room
  rw [walk_start]
  exact leads_forever _ (walkPath map params) (fun index => goes index ▸ leads_step _ _) fuel 0

end Runs

theorem accepting_short (map : MemoryMap) (params : SecPlParams) (prepared : Prepared params) (size last : Nat)
    (layout : BitstreamLayout params size) (begins : last * params.blockSize.toNat < size)
    (short : size < (last + 1) * params.blockSize.toNat)
    (fits : map.narrowPointer = true → params.startAddress.toNat + (last + 1) * params.blockSize.toNat < 2 ^ 32)
    (calls : WalkCalls) (accepting : AcceptingWalk calls) (room : params.blockSize.toNat ≤ hashRoom)
    (lastRoom : (lastLength params (UInt8.ofNat (last + 1))).toNat ≤ hashRoom) :
    NoErrors map params calls ∧ ∃ fuel, secPlPartition map params calls fuel =
      some ⟨.success, wholeBlocks map params last ++ [lastBlock map params last]⟩ := by
  have run := secured_run map params prepared calls
  have reached := walk_reaches map params calls size last layout begins
    (fun index _ _ => accepting_passes params prepared calls accepting _ _ room) last (Nat.le_refl last)
  have passes := accepting_passes params prepared calls accepting (walkPath map params last)
    (lastLength params (UInt8.ofNat (last + 1))) lastRoom
  obtain ⟨fuel, done⟩ := short_walk map params calls size last layout begins short fits reached passes
  refine ⟨?_, fuel, (run fuel).trans done⟩
  intro other result ended
  rw [run_unique _ _ _ _ _ _ ((run other).symm.trans ended) done]

section Exactly

variable (map : MemoryMap) (params : SecPlParams) (prepared : Prepared params) (size last multiple : Nat)
  (layout : BitstreamLayout params size) (counted : blockCount size params.blockSize.toNat = last + 1)
  (begins : last * params.blockSize.toNat < size) (ends : size ≤ (last + 1) * params.blockSize.toNat)
  (least : 1 ≤ multiple) (block : params.blockSize.toNat = multiple * 2 ^ 22)

include prepared layout counted begins

theorem whole_right (whole : size = (last + 1) * params.blockSize.toNat) (calls : WalkCalls)
    (noErrors : NoErrors map params calls) :
    ∃ fuel blocks, secPlPartition map params calls fuel = some ⟨.success, blocks⟩ ∧ WalkExact params size blocks := by
  have finish := layout_end params size layout
  have inner : isLastBlock map params (pointer map (params.startAddress.toNat + last * params.blockSize.toNat)) = false := by
    rw [last_block_exact map params size layout last (fun _ => by omega) begins]
    exact decide_eq_false (by omega)
  have reached := checked_reaches map params prepared calls size last layout begins noErrors last (Nat.le_refl last)
  have passes := (whole_block_room map params prepared calls size last layout begins noErrors last (Nat.le_refl last) inner).1
  obtain ⟨fuel, done⟩ := whole_walk map params calls size last layout begins whole reached passes
  exact ⟨fuel, _, (secured_run map params prepared calls fuel).trans done, whole_cover map params size last layout counted whole⟩

include ends least block

theorem short_right (short : size < (last + 1) * params.blockSize.toNat)
    (fits : map.narrowPointer = true → params.startAddress.toNat + (last + 1) * params.blockSize.toNat < 2 ^ 32)
    (few : multiple ≤ 2 → (last + 1) * params.blockSize.toNat < 2 ^ 32) (single : 2 < multiple → last = 0) (calls : WalkCalls)
    (noErrors : NoErrors map params calls) :
    ∃ fuel blocks, secPlPartition map params calls fuel = some ⟨.success, blocks⟩ ∧ WalkExact params size blocks := by
  have reached := checked_reaches map params prepared calls size last layout begins noErrors last (Nat.le_refl last)
  have found := last_block_found map params size last layout begins short fits
  have passes := reached_passes map params prepared calls noErrors (walkPath map params last) reached
    (block_below map params size layout last begins)
  rw [walk_len_last map params (walkPath map params last) found] at passes
  have room := passes_room params prepared calls _ _ passes
  have counts : last + 1 ≤ 255 := by
    by_cases most : multiple ≤ 2
    · exact few_blocks params size last layout begins multiple counted ends block least most (few most) room
    · have none := single (by omega)
      omega
  have length := last_length_exact params size last layout counted begins counts
  obtain ⟨fuel, done⟩ := short_walk map params calls size last layout begins short fits reached passes
  exact ⟨fuel, _, (secured_run map params prepared calls fuel).trans done,
    (short_cover map params size last layout counted begins short).mpr length⟩

theorem short_wrong (short : size < (last + 1) * params.blockSize.toNat) (most : multiple ≤ 2)
    (bad : ¬ ((last + 1) * params.blockSize.toNat < 2 ^ 32 ∧
      (map.narrowPointer = true → params.startAddress.toNat + (last + 1) * params.blockSize.toNat < 2 ^ 32)))
    (calls : WalkCalls) (accepting : AcceptingWalk calls) :
    NoErrors map params calls ∧
      ¬ ∃ fuel blocks, secPlPartition map params calls fuel = some ⟨.success, blocks⟩ ∧ WalkExact params size blocks := by
  have run := secured_run map params prepared calls
  by_cases fits : map.narrowPointer = true → params.startAddress.toNat + (last + 1) * params.blockSize.toNat < 2 ^ 32
  · have large : ¬ (last + 1) * params.blockSize.toNat < 2 ^ 32 := fun small => bad ⟨small, fits⟩
    have length := wrapped_length params size last layout begins multiple counted block least most large ends
    have whole : (last + 1) * params.blockSize.toNat = last * params.blockSize.toNat + params.blockSize.toNat := Nat.succ_mul _ _
    have within := layout.within
    rw [counted] at within
    have room : params.blockSize.toNat ≤ hashRoom := by
      unfold hashRoom
      omega
    obtain ⟨noErrors, fuel, done⟩ := accepting_short map params prepared size last layout begins short fits calls accepting room
      (by omega)
    refine ⟨noErrors, ?_⟩
    rintro ⟨other, blocks, ended, covers⟩
    have same := run_unique _ _ _ _ _ _ ((run other).symm.trans ended) ((run fuel).symm.trans done)
    rw [(WalkResult.mk.inj same).2, short_cover map params size last layout counted begins short, length] at covers
    omega
  · obtain ⟨narrow, wraps⟩ := Classical.not_imp.mp fits
    have endless := endless_walk map params prepared calls size last layout begins accepting multiple block least most narrow wraps
    constructor
    · intro fuel result ended
      rw [run, endless] at ended
      cases ended
    · rintro ⟨fuel, blocks, ended, _⟩
      rw [run, endless] at ended
      cases ended

end Exactly

def sampleWalk : WalkCalls := ⟨fun _ => ⟨.success, fun _ => 0⟩, fun _ _ => 0, fun _ => sampleCalls 2⟩

theorem sample_accepting : AcceptingWalk sampleWalk where
  copied _ := rfl
  block _ := ⟨fun _ => rfl, fun _ _ _ => by simp [sampleWalk, sampleCalls], rfl, rfl, rfl, rfl, fun _ => rfl, fun _ => rfl⟩

def bitstream (start size certificates : UInt32) : SecPlParams :=
  ⟨true, false, none, start.toUInt64, size + certificates * authCertMinSize, start + size, 0x400000, readBufferSize, hashTypeSha3,
    149⟩

def fourMegabyteBlocks : PartitionHeader := { r5Partition 0x100000 0 with partitionAttributes := 0x108020 }

theorem four_megabytes : getBlockSize fourMegabyteBlocks ≠ 0 ∧ getBlockSize fourMegabyteBlocks = 0x400000 := by decide

theorem bitstream_prepared (start size certificates : UInt32) : Prepared (bitstream start size certificates) :=
  ⟨rfl, rfl, rfl, rfl⟩

theorem two_blocks_laid : BitstreamLayout (bitstream 0x100000 0x400004 2) 0x400004 :=
  ⟨⟨fourMegabyteBlocks, four_megabytes⟩, by decide, by decide, by decide, by decide⟩

theorem thousand_blocks_laid : BitstreamLayout (bitstream 0 0xFFC00004 1024) 0xFFC00004 :=
  ⟨⟨fourMegabyteBlocks, four_megabytes⟩, by decide, by decide, by decide, by decide⟩

end LilacUxB.Fsbl
