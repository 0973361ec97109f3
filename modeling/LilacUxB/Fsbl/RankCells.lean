import LilacUxB.Fsbl.AddressMapCells

set_option autoImplicit false

namespace LilacUxB.Fsbl

-- The orders that begin with bank group 0 need that there is no other, and the plain order of a DDR4
-- DIMM that its last row bit is in reach.
def OrderFits (settings : DdrSettings) (dimm : DimmParams) : Prop :=
  if settings.videoBuf ≠ 0 then
    dimm.memType = spdMemtypeDdr4 ∧ dimm.numBgAddr = 1 ∧
      videoBufWidth settings.videoBuf dimm.busWidth - dimm.numColAddr - 4 ≤ dimm.numRowAddr
  else if dimm.memType ≠ spdMemtypeDdr4 then dimm.numBgAddr = 0
  else if settings.brcMapping = 1 ∨ settings.ddr4AddrMapping = 1 then dimm.numBgAddr = 1
  else RowsReach dimm

theorem video_width (videoBuf : UInt32) (busWidth : Nat) : 20 ≤ videoBufWidth videoBuf busWidth := by
  unfold videoBufWidth
  cases (List.range 7).find? (fun index => (1 : UInt32) <<< UInt32.ofNat index = videoBuf) with
  | none => exact Nat.le_trans (Nat.le_add_right 20 _) (Nat.le_add_right _ _)
  | some index =>
      have base : 20 ≤ index + 20 := Nat.le_add_left 20 index
      exact Nat.le_trans base (Nat.le_trans (Nat.le_add_right _ _) (Nat.le_add_right _ _))

section Orders

variable (settings : DdrSettings) (dimm : DimmParams)

inductive OrderOf : List Span → Prop
  | mapped (spans : List Span) (lower : Nat) (within : lower ≤ dimm.numRowAddr)
      (same : positions spans = positions (mappedOrder dimm lower)) (one : OrderFits settings dimm ↔ dimm.numBgAddr = 1) :
      OrderOf spans
  | groupless (none : OrderFits settings dimm ↔ dimm.numBgAddr = 0) : OrderOf (ddrCalcHifAddr dimm)
  | plain (reach : OrderFits settings dimm ↔ RowsReach dimm) : OrderOf (ddrCalcDdr4HifAddr dimm)

theorem order_cases (columns : dimm.numColAddr ≤ maxColumns) :
    (∃ spans, hifOrder settings dimm = some spans ∧ OrderOf settings dimm spans) ∨
      (hifOrder settings dimm = none ∧ ¬ OrderFits settings dimm) := by
  unfold maxColumns at columns
  have wide := video_width settings.videoBuf dimm.busWidth
  unfold hifOrder
  by_cases video : settings.videoBuf ≠ 0
  · rw [if_pos video]
    have fits : OrderFits settings dimm ↔ dimm.memType = spdMemtypeDdr4 ∧ dimm.numBgAddr = 1 ∧
        videoBufWidth settings.videoBuf dimm.busWidth - dimm.numColAddr - 4 ≤ dimm.numRowAddr := by
      rw [OrderFits, if_pos video]
    unfold ddrCalcHifAddrVideo
    dsimp only
    by_cases other : dimm.memType ≠ spdMemtypeDdr4
    · rw [if_pos other]
      exact .inr ⟨rfl, fun order => other (fits.mp order).1⟩
    · rw [if_neg other]
      by_cases room : dimm.numColAddr + 4 ≤ videoBufWidth settings.videoBuf dimm.busWidth ∧
          videoBufWidth settings.videoBuf dimm.busWidth - dimm.numColAddr - 4 ≤ dimm.numRowAddr
      · rw [if_pos room]
        refine .inl ⟨_, rfl, .mapped _ _ room.2 rfl ?_⟩
        rw [fits]
        exact ⟨fun order => order.2.1, fun one => ⟨not_not.mp other, one, room.2⟩⟩
      · rw [if_neg room]
        exact .inr ⟨rfl, fun order => room ⟨by omega, (fits.mp order).2.2⟩⟩
  · rw [if_neg video]
    left
    by_cases other : dimm.memType ≠ spdMemtypeDdr4
    · have fits : OrderFits settings dimm ↔ dimm.numBgAddr = 0 := by
        rw [OrderFits, if_neg video, if_pos other]
      rw [if_pos other, if_pos other, ite_self]
      exact ⟨_, rfl, .groupless fits⟩
    · rw [if_neg other, if_neg other]
      have fits : OrderFits settings dimm ↔
          if settings.brcMapping = 1 ∨ settings.ddr4AddrMapping = 1 then dimm.numBgAddr = 1 else RowsReach dimm := by
        rw [OrderFits, if_neg video, if_neg other]
      by_cases brc : settings.brcMapping = 1
      · rw [if_pos brc]
        refine ⟨_, rfl, .mapped _ dimm.numRowAddr (Nat.le_refl _) (brc_positions dimm) ?_⟩
        rw [fits, if_pos (Or.inl brc)]
      · rw [if_neg brc]
        by_cases mapping : settings.ddr4AddrMapping = 1
        · rw [if_pos mapping]
          refine ⟨_, rfl, .mapped _ 0 (Nat.zero_le _) (mem_map_positions dimm) ?_⟩
          rw [fits, if_pos (Or.inr mapping)]
        · rw [if_neg mapping]
          refine ⟨_, rfl, .plain ?_⟩
          rw [fits, if_neg (fun either => either.elim brc mapping)]

end Orders

def RankMapped (dimm : DimmParams) (regVal : Nat → UInt32) : Prop :=
  Wiring.OneToOne (dramWires regVal) (addressBits dimm) ∧
    Wiring.Onto (dramWires regVal) (addressBits dimm) (dimmLines dimm)

theorem fitted_maps (settings : DdrSettings) (dimm : DimmParams) (spans : List Span) (wide : dimm.busWidth = 64)
    (registers : RegisterSized dimm) (ordered : hifOrder settings dimm = some spans)
    (fitted : Fitted dimm (positions spans) (addressBits dimm)) (room : (positions spans).length ≤ hifAddrSize)
    (small : addressBits dimm ≤ 2 ^ 32) :
    ∃ regVal, ddrCalcAddrMap settings dimm = some regVal ∧ RankMapped dimm regVal := by
  have exactly := fitted_exact dimm spans registers fitted small
  refine ⟨addrMapRegVal dimm (orderArray spans), (map_computed settings dimm _ wide).mpr ?_, ?_⟩
  · refine ⟨spans, ordered, room, ?_, rfl⟩
    intro line among
    exact (fitted.fits line ((mem_searched dimm line).mp among).1.1).placed
  · exact ⟨Wiring.covers_one_to_one _ _ (Wiring.exact_covers _ _ _ exactly), Wiring.exact_onto _ _ _ exactly⟩

theorem groupless_reach (dimm : DimmParams) (registers : RegisterSized dimm) (none : dimm.numBgAddr = 0) :
    RowsReach dimm := by
  obtain ⟨-, columns, banks, -⟩ := register_bounds dimm registers
  intro _
  omega

theorem order_maps (settings : DdrSettings) (dimm : DimmParams) (sized : SpdSized dimm) (wide : dimm.busWidth = 64)
    (registers : RegisterSized dimm) (order : OrderFits settings dimm) :
    ∃ regVal, ddrCalcAddrMap settings dimm = some regVal ∧ RankMapped dimm regVal := by
  obtain ⟨rows, columns, banks, groups⟩ := register_bounds dimm registers
  have ranks := sized.ranks
  obtain ⟨least, -⟩ := sized.columns
  have few : addressBits dimm + dimm.numRankAddr ≤ hifAddrSize := by
    unfold addressBits hifAddrSize
    omega
  have small : addressBits dimm ≤ 2 ^ 32 := by
    unfold hifAddrSize at few
    omega
  cases order_cases settings dimm registers.columns with
  | inr neither => exact absurd order neither.2
  | inl some_order =>
      obtain ⟨spans, ordered, kind⟩ := some_order
      apply fitted_maps settings dimm spans wide registers ordered _ _ small
      · cases kind with
        | mapped _ lower within same one =>
            have single := one.mp order
            have bits : dimm.numColAddr + 1 + dimm.numBankAddr + dimm.numRowAddr = addressBits dimm := by
              rw [addressBits, single]
            rw [same, ← bits]
            exact mapped_fitted dimm sized lower within single.le registers
        | groupless none =>
            have groupless := none.mp order
            rw [groupless_positions dimm groupless]
            exact plain_fitted dimm sized registers (groupless_reach dimm registers groupless)
        | plain reach => exact plain_fitted dimm sized registers (reach.mp order)
      · cases kind with
        | mapped _ lower within same one =>
            have single := one.mp order
            rw [same, positions_length]
            unfold addressBits at few
            simp [mappedOrder]
            omega
        | groupless none =>
            rw [positions_length]
            unfold addressBits at few
            simp [ddrCalcHifAddr]
            omega
        | plain _ =>
            rw [positions_length]
            unfold addressBits at few
            simp [ddrCalcDdr4HifAddr]
            omega

theorem one_to_one_sized (dimm : DimmParams) (hifAddr : List HifBit) (columns : 2 ≤ dimm.numColAddr)
    (apart : Wiring.OneToOne (dramWires (addrMapRegVal dimm hifAddr)) (addressBits dimm)) : RegisterSized dimm := by
  let capped : DimmParams := { dimm with
    numRowAddr := min dimm.numRowAddr maxRows
    numColAddr := min dimm.numColAddr maxColumns
    numBankAddr := min dimm.numBankAddr maxBanks
    numBgAddr := min dimm.numBgAddr maxBankGroups }
  have enough : addressBits dimm ≤ (dimmLines capped).length := by
    by_contra few
    refine Wiring.too_few_lines _ _ (dimmLines capped) ?_ (Nat.not_le.mp few) (Wiring.one_to_one_covers _ _ apart)
    intro line bit wired
    have driven := wired_line dimm hifAddr line bit columns wired
    rw [mem_lines]
    obtain ⟨kind, number⟩ := line
    cases kind with
    | row => exact Nat.lt_min.mpr driven
    | column => exact Nat.lt_min.mpr driven
    | bank => exact Nat.lt_min.mpr driven
    | bankGroup => exact Nat.lt_min.mpr driven
    | rank => exact driven.1
    | empty => exact driven.1
  have bits : addressBits capped = min dimm.numColAddr maxColumns + min dimm.numBgAddr maxBankGroups +
      min dimm.numBankAddr maxBanks + min dimm.numRowAddr maxRows := rfl
  rw [dimm_lines_length, bits] at enough
  unfold addressBits at enough
  constructor <;> omega

-- Bank group 0 has a place of its own in a mapped order, also where the DIMM has no bank groups.
theorem mapped_alias (dimm : DimmParams) (sized : SpdSized dimm) (registers : RegisterSized dimm) (spans : List Span)
    (lower : Nat) (within : lower ≤ dimm.numRowAddr) (same : positions spans = positions (mappedOrder dimm lower))
    (none : dimm.numBgAddr = 0) :
    ¬ Wiring.OneToOne (dramWires (addrMapRegVal dimm (orderArray spans))) (addressBits dimm) := by
  intro apart
  obtain ⟨rows, columns, banks, -⟩ := register_bounds dimm registers
  obtain ⟨⟨fewRows, -⟩, ⟨fewColumns, -⟩, -, -, -⟩ := id sized
  have bits : 3 < addressBits dimm := by
    unfold addressBits
    omega
  obtain ⟨line, wired⟩ := Wiring.one_to_one_covers _ _ apart 3 bits
  have used := (wired_line dimm _ line 3 (by omega) wired).1
  have fitted := mapped_fitted dimm sized lower within (by omega) registers
  rw [← same] at fitted
  have position := fitted_wired dimm spans _ registers fitted (by omega) line used
  have third : (positions spans).idxOf line = 3 := Option.some.inj (position.symm.trans wired)
  have group : (positions spans).idxOf (.bankGroup, 0) = 3 := by
    rw [same, idx_positions]
    rfl
  have equal : line = (.bankGroup, 0) :=
    (List.idxOf_inj (fitted.fits line used).placed).mp (third.trans group.symm)
  rw [equal] at used
  exact absurd used (by simp [numAddr, none])

-- In the plain order a last row bit out of reach leaves one line too few.
theorem far_row_lost (dimm : DimmParams) (sized : SpdSized dimm) (registers : RegisterSized dimm)
    (far : ¬ RowsReach dimm) :
    ¬ Wiring.OneToOne (dramWires (addrMapRegVal dimm (orderArray (ddrCalcDdr4HifAddr dimm)))) (addressBits dimm) := by
  intro apart
  obtain ⟨all, past⟩ := Classical.not_imp.mp far
  obtain ⟨-, columns, banks, groups⟩ := register_bounds dimm registers
  obtain ⟨-, ⟨fewColumns, -⟩, -, -, -⟩ := sized
  unfold maxRows at all
  have used : 17 < dimm.numRowAddr := by omega
  have position : (orderArray (ddrCalcDdr4HifAddr dimm)).idxOf (.row, 17) = 34 := by
    rw [array_idx _ _ (plain_placed dimm (.row, 17) used), plain_idx dimm (.row, 17) used, plainPosition]
    omega
  have undriven : dramWires (addrMapRegVal dimm (orderArray (ddrCalcDdr4HifAddr dimm))) (.row, 17) = none := by
    apply far_undriven dimm _ (.row, 17) used (by decide) (fun column => HifKind.noConfusion column)
    · rw [position]
      decide
    · rw [position]
      rfl
  let fewer : DimmParams := { dimm with numRowAddr := 17 }
  have few : (dimmLines fewer).length < addressBits dimm := by
    rw [dimm_lines_length]
    exact Nat.add_lt_add_left used _
  refine Wiring.too_few_lines _ _ (dimmLines fewer) ?_ few (Wiring.one_to_one_covers _ _ apart)
  intro line bit wired
  have driven := (wired_line dimm _ line bit (by omega) wired).1
  rw [mem_lines]
  obtain ⟨kind, number⟩ := line
  cases kind with
  | row =>
      have other : number ≠ 17 := by
        rintro rfl
        rw [undriven] at wired
        cases wired
      have below : number < dimm.numRowAddr := driven
      change number < 17
      omega
  | column => exact driven
  | bank => exact driven
  | bankGroup => exact driven
  | rank => exact driven
  | empty => exact driven

theorem map_orders (settings : DdrSettings) (dimm : DimmParams) (sized : SpdSized dimm) (wide : dimm.busWidth = 64)
    (regVal : Nat → UInt32) (computed : ddrCalcAddrMap settings dimm = some regVal)
    (apart : Wiring.OneToOne (dramWires regVal) (addressBits dimm)) :
    RegisterSized dimm ∧ OrderFits settings dimm := by
  obtain ⟨spans, ordered, -, found, rfl⟩ := (map_computed settings dimm regVal wide).mp computed
  have registers := one_to_one_sized dimm _ (Nat.le_trans (by decide) sized.columns.1) apart
  refine ⟨registers, ?_⟩
  have group (bit : Nat) (used : bit < dimm.numBgAddr) : (HifKind.bankGroup, bit) ∈ positions spans := by
    apply found
    exact (mem_searched dimm _).mpr ⟨⟨used, Nat.lt_of_lt_of_le used registers.groups⟩, fun column => nomatch column⟩
  cases order_cases settings dimm registers.columns with
  | inr neither =>
      rw [neither.1] at ordered
      cases ordered
  | inl some_order =>
      obtain ⟨other, otherOrdered, kind⟩ := some_order
      rw [otherOrdered] at ordered
      cases ordered
      cases kind with
      | mapped _ lower within same one =>
          rw [one]
          have most : ¬ 1 < dimm.numBgAddr := by
            intro second
            have there := group 1 second
            rw [same, mem_positions] at there
            simp [mappedOrder] at there
          have some_group : dimm.numBgAddr ≠ 0 := fun none =>
            mapped_alias dimm sized registers spans lower within same none apart
          omega
      | groupless none =>
          rw [none]
          by_contra some_group
          have there := group 0 (Nat.pos_of_ne_zero some_group)
          rw [mem_positions] at there
          simp [ddrCalcHifAddr] at there
      | plain reach =>
          rw [reach]
          by_contra far
          exact far_row_lost dimm sized registers far apart

theorem ddr4_params (spdData : Nat → UInt8) (known : 0 < (computeDdr4Params spdData).numRowAddr) :
    SpdSized (computeDdr4Params spdData) := by
  unfold computeDdr4Params at known ⊢
  by_cases named : spdData 3 &&& spdModuletypeMask ∈ ddr4ModuleTypes
  · rw [if_pos named]
    exact params_sized spdData _ _
  · rw [if_neg named] at known
    cases known

theorem ddr3_params (spdData : Nat → UInt8) (known : 0 < (computeDdr3Params spdData).numRowAddr) :
    SpdSized (computeDdr3Params spdData) := by
  unfold computeDdr3Params at known ⊢
  by_cases named : spdData 3 &&& spdModuletypeMask ∈ ddr3ModuleTypes
  · rw [if_pos named]
    exact params_sized spdData _ _
  · rw [if_neg named] at known
    cases known

theorem init_params (ddr4Board : Bool) (spdData : Nat → UInt8)
    (known : 0 < (ddrInitParams ddr4Board spdData).numRowAddr) : SpdSized (ddrInitParams ddr4Board spdData) := by
  cases ddr4Board with
  | true => exact ddr4_params spdData known
  | false =>
      change 0 < (ddrComputeDimmParameters spdData).numRowAddr at known
      change SpdSized (ddrComputeDimmParameters spdData)
      unfold ddrComputeDimmParameters at known ⊢
      split_ifs at known ⊢
      · exact ddr4_params spdData known
      · exact ddr3_params spdData known
      · exact params_sized spdData _ _
      · cases known

theorem rank_cells_exactly (settings : DdrSettings) (ddr4Board : Bool) (spdData : Nat → UInt8)
    (known : 0 < (ddrInitParams ddr4Board spdData).numRowAddr) (wide : (ddrInitParams ddr4Board spdData).busWidth = 64) :
    (∃ regVal, ddrCalcAddrMap settings (ddrInitParams ddr4Board spdData) = some regVal ∧
        RankMapped (ddrInitParams ddr4Board spdData) regVal) ↔
      RegisterSized (ddrInitParams ddr4Board spdData) ∧ OrderFits settings (ddrInitParams ddr4Board spdData) := by
  have sized := init_params ddr4Board spdData known
  constructor
  · rintro ⟨regVal, computed, mapped⟩
    exact map_orders settings _ sized wide regVal computed mapped.1
  · rintro ⟨registers, order⟩
    exact order_maps settings _ sized wide registers order

-- A SODIMM of the kind that psu_init.c is generated for: 16 row, 10 column and 2 bank bits, 1 bank group bit.
def sodimmSpd : Nat → UInt8
  | 2 => 0x0C
  | 3 => 0x03
  | 4 => 0x45
  | 5 => 0x21
  | 12 => 0x02
  | 13 => 0x03
  | _ => 0

def memMapped : DdrSettings := ⟨0, 0, 1⟩

theorem sodimm_cells :
    ∃ regVal, ddrCalcAddrMap memMapped (ddrInitParams true sodimmSpd) = some regVal ∧
      RankMapped (ddrInitParams true sodimmSpd) regVal := by
  apply (rank_cells_exactly memMapped true sodimmSpd (by decide) (by decide)).mpr
  refine ⟨⟨by decide, by decide, by decide, by decide⟩, ?_⟩
  unfold OrderFits RowsReach
  decide

-- The values that psu_init.c writes to ADDRMAP0 to ADDRMAP11.
example : (ddrCalcAddrMap memMapped (ddrInitParams true sodimmSpd)).map (List.range 12).map =
    some [0x0000001F, 0x001F0909, 0x01010100, 0x01010101, 0x00000F0F, 0x070F0707, 0x07070707, 0x00000F0F, 0x00001F01,
      0x07070707, 0x07070707, 0x00000007] := by decide +kernel

end LilacUxB.Fsbl
