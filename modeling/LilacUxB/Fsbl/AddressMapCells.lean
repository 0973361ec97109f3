import LilacUxB.Fsbl.AddressMapFields

set_option autoImplicit false

namespace LilacUxB.Fsbl

structure LineFits (order : List HifBit) (line : HifBit) : Prop where
  placed : line ∈ order
  lower : fieldBase line ≤ order.idxOf line
  upper : order.idxOf line ≤ fieldBase line + fieldTop line
  fixed : line.1 = .column → line.2 < 2 → order.idxOf line = line.2

structure RegisterSized (dimm : DimmParams) : Prop where
  rows : dimm.numRowAddr ≤ maxRows
  columns : dimm.numColAddr ≤ maxColumns
  banks : dimm.numBankAddr ≤ maxBanks
  groups : dimm.numBgAddr ≤ maxBankGroups

theorem register_bounds (dimm : DimmParams) (registers : RegisterSized dimm) :
    dimm.numRowAddr ≤ 18 ∧ dimm.numColAddr ≤ 12 ∧ dimm.numBankAddr ≤ 3 ∧ dimm.numBgAddr ≤ 2 :=
  ⟨registers.rows, registers.columns, registers.banks, registers.groups⟩

def mappedOrder (dimm : DimmParams) (lower : Nat) : List Span :=
  [⟨.column, 0, 3⟩, ⟨.bankGroup, 0, 1⟩, ⟨.column, 3, dimm.numColAddr - 3⟩, ⟨.row, 0, lower⟩,
    ⟨.bank, 0, dimm.numBankAddr⟩, ⟨.row, lower, dimm.numRowAddr - lower⟩, ⟨.rank, 0, dimm.numRankAddr⟩]

theorem brc_positions (dimm : DimmParams) :
    positions (ddrCalcHifAddrBrcMap dimm) = positions (mappedOrder dimm dimm.numRowAddr) := by
  simp [positions, ddrCalcHifAddrBrcMap, mappedOrder, Span.bits]

theorem mem_map_positions (dimm : DimmParams) :
    positions (ddrCalcHifAddrMemMap dimm) = positions (mappedOrder dimm 0) := by
  simp [positions, ddrCalcHifAddrMemMap, mappedOrder, Span.bits]

theorem groupless_positions (dimm : DimmParams) (none : dimm.numBgAddr = 0) :
    positions (ddrCalcHifAddr dimm) = positions (ddrCalcDdr4HifAddr dimm) := by
  simp [positions, ddrCalcHifAddr, ddrCalcDdr4HifAddr, Span.bits, none]

def plainPosition (dimm : DimmParams) : HifBit → Nat
  | (.column, bit) => bit
  | (.bankGroup, bit) => dimm.numColAddr + bit
  | (.bank, bit) => dimm.numColAddr + dimm.numBgAddr + bit
  | (.row, bit) => dimm.numColAddr + dimm.numBgAddr + dimm.numBankAddr + bit
  | (.rank, _) => 0
  | (.empty, _) => 0

theorem plain_idx (dimm : DimmParams) (line : HifBit) (used : line.2 < numAddr dimm line.1) :
    (positions (ddrCalcDdr4HifAddr dimm)).idxOf line = plainPosition dimm line := by
  obtain ⟨kind, bit⟩ := line
  rw [idx_positions]
  cases kind with
  | row => simp_all [place, ddrCalcDdr4HifAddr, plainPosition, numAddr, Nat.add_assoc]
  | column => simp_all [place, ddrCalcDdr4HifAddr, plainPosition, numAddr]
  | bank => simp_all [place, ddrCalcDdr4HifAddr, plainPosition, numAddr, Nat.add_assoc]
  | bankGroup => simp_all [place, ddrCalcDdr4HifAddr, plainPosition, numAddr]
  | rank => cases used
  | empty => cases used

theorem plain_placed (dimm : DimmParams) (line : HifBit) (used : line.2 < numAddr dimm line.1) :
    line ∈ positions (ddrCalcDdr4HifAddr dimm) := by
  obtain ⟨kind, bit⟩ := line
  rw [mem_positions]
  cases kind with
  | row => simpa [ddrCalcDdr4HifAddr, numAddr] using used
  | column => simpa [ddrCalcDdr4HifAddr, numAddr] using used
  | bank => simpa [ddrCalcDdr4HifAddr, numAddr] using used
  | bankGroup => simpa [ddrCalcDdr4HifAddr, numAddr] using used
  | rank => cases used
  | empty => cases used

-- The rows come last in the plain order, and the field of row bit 17 ends one earlier than the others.
def RowsReach (dimm : DimmParams) : Prop :=
  dimm.numRowAddr = maxRows → dimm.numColAddr + dimm.numBgAddr + dimm.numBankAddr ≤ 16

theorem plain_bounds (dimm : DimmParams) (sized : SpdSized dimm) (registers : RegisterSized dimm)
    (reach : RowsReach dimm) (line : HifBit) (used : line.2 < numAddr dimm line.1) :
    fieldBase line ≤ plainPosition dimm line ∧ plainPosition dimm line ≤ fieldBase line + fieldTop line ∧
      plainPosition dimm line < addressBits dimm := by
  obtain ⟨rows, columns, banks, groups⟩ := register_bounds dimm registers
  obtain ⟨-, ⟨fewColumns, -⟩, ⟨fewBanks, -⟩, -, -⟩ := sized
  obtain ⟨kind, bit⟩ := line
  cases kind with
  | row =>
      have below : bit < dimm.numRowAddr := used
      obtain ⟨least, -, most⟩ := row_top bit
      unfold RowsReach maxRows at reach
      simp only [plainPosition, fieldBase, addressBits]
      omega
  | column =>
      have below : bit < dimm.numColAddr := used
      simp only [plainPosition, fieldBase, fieldTop, addressBits]
      omega
  | bank =>
      have below : bit < dimm.numBankAddr := used
      have least := (bank_top bit).1
      simp only [plainPosition, fieldBase, addressBits]
      omega
  | bankGroup =>
      have below : bit < dimm.numBgAddr := used
      simp only [plainPosition, fieldBase, fieldTop, addressBits]
      omega
  | rank => cases used
  | empty => cases used

structure Fitted (dimm : DimmParams) (order : List HifBit) (bits : Nat) : Prop where
  fits : ∀ line, line.2 < numAddr dimm line.1 → LineFits order line
  inside : ∀ line, line.2 < numAddr dimm line.1 → order.idxOf line < bits

theorem plain_fitted (dimm : DimmParams) (sized : SpdSized dimm) (registers : RegisterSized dimm)
    (reach : RowsReach dimm) :
    Fitted dimm (positions (ddrCalcDdr4HifAddr dimm)) (addressBits dimm) := by
  constructor
  · intro line used
    obtain ⟨lower, upper, -⟩ := plain_bounds dimm sized registers reach line used
    have found := plain_idx dimm line used
    refine ⟨plain_placed dimm line used, found ▸ lower, found ▸ upper, ?_⟩
    intro column low
    obtain ⟨kind, bit⟩ := line
    cases column
    exact found
  · intro line used
    rw [plain_idx dimm line used]
    exact (plain_bounds dimm sized registers reach line used).2.2

def mappedPosition (dimm : DimmParams) (lower : Nat) : HifBit → Nat
  | (.column, bit) => if bit < 3 then bit else bit + 1
  | (.bankGroup, bit) => 3 + bit
  | (.bank, bit) => dimm.numColAddr + 1 + lower + bit
  | (.row, bit) => if bit < lower then dimm.numColAddr + 1 + bit else dimm.numColAddr + 1 + dimm.numBankAddr + bit
  | (.rank, _) => 0
  | (.empty, _) => 0

section Mapped

variable (dimm : DimmParams) (sized : SpdSized dimm) (lower : Nat) (within : lower ≤ dimm.numRowAddr)
  (one : dimm.numBgAddr ≤ 1)

include sized within one

theorem mapped_idx (line : HifBit) (used : line.2 < numAddr dimm line.1) :
    (positions (mappedOrder dimm lower)).idxOf line = mappedPosition dimm lower line := by
  obtain ⟨-, ⟨fewColumns, -⟩, -, -, -⟩ := sized
  obtain ⟨kind, bit⟩ := line
  rw [idx_positions]
  cases kind with
  | row =>
      have below : bit < dimm.numRowAddr := used
      by_cases low : bit < lower
      · simp [place, mappedOrder, mappedPosition, low]
        omega
      · have behind : lower ≤ bit ∧ bit < lower + (dimm.numRowAddr - lower) := by omega
        simp [place, mappedOrder, mappedPosition, low, behind]
        omega
  | column =>
      have below : bit < dimm.numColAddr := used
      by_cases low : bit < 3
      · simp [place, mappedOrder, mappedPosition, low]
      · have behind : 3 ≤ bit ∧ bit < 3 + (dimm.numColAddr - 3) := by omega
        simp [place, mappedOrder, mappedPosition, low, behind]
        omega
  | bank =>
      have below : bit < dimm.numBankAddr := used
      simp [place, mappedOrder, mappedPosition, below]
      omega
  | bankGroup =>
      have below : bit < dimm.numBgAddr := used
      have zero : bit = 0 := by omega
      simp [place, mappedOrder, mappedPosition, zero]
  | rank => cases used
  | empty => cases used

theorem mapped_placed (line : HifBit) (used : line.2 < numAddr dimm line.1) :
    line ∈ positions (mappedOrder dimm lower) := by
  obtain ⟨-, ⟨fewColumns, -⟩, -, -, -⟩ := sized
  obtain ⟨kind, bit⟩ := line
  rw [mem_positions]
  cases kind with
  | row =>
      have below : bit < dimm.numRowAddr := used
      simp [mappedOrder]
      omega
  | column =>
      have below : bit < dimm.numColAddr := used
      simp [mappedOrder]
      omega
  | bank => simpa [mappedOrder, numAddr] using used
  | bankGroup =>
      have below : bit < dimm.numBgAddr := used
      simp [mappedOrder]
      omega
  | rank => cases used
  | empty => cases used

theorem mapped_bounds (registers : RegisterSized dimm) (line : HifBit) (used : line.2 < numAddr dimm line.1) :
    fieldBase line ≤ mappedPosition dimm lower line ∧
      mappedPosition dimm lower line ≤ fieldBase line + fieldTop line ∧
      mappedPosition dimm lower line < dimm.numColAddr + 1 + dimm.numBankAddr + dimm.numRowAddr := by
  obtain ⟨rows, columns, banks, -⟩ := register_bounds dimm registers
  obtain ⟨-, ⟨fewColumns, -⟩, -, -, -⟩ := sized
  obtain ⟨kind, bit⟩ := line
  cases kind with
  | row =>
      have below : bit < dimm.numRowAddr := used
      obtain ⟨least, -, most⟩ := row_top bit
      by_cases low : bit < lower
      · simp only [mappedPosition, fieldBase, if_pos low]
        omega
      · simp only [mappedPosition, fieldBase, if_neg low]
        omega
  | column =>
      have below : bit < dimm.numColAddr := used
      by_cases low : bit < 3
      · simp only [mappedPosition, fieldBase, fieldTop, if_pos low]
        omega
      · simp only [mappedPosition, fieldBase, fieldTop, if_neg low]
        omega
  | bank =>
      have below : bit < dimm.numBankAddr := used
      have least := (bank_top bit).1
      simp only [mappedPosition, fieldBase]
      omega
  | bankGroup =>
      have below : bit < dimm.numBgAddr := used
      simp only [mappedPosition, fieldBase, fieldTop]
      omega
  | rank => cases used
  | empty => cases used

theorem mapped_fitted (registers : RegisterSized dimm) :
    Fitted dimm (positions (mappedOrder dimm lower)) (dimm.numColAddr + 1 + dimm.numBankAddr + dimm.numRowAddr) := by
  constructor
  · intro line used
    obtain ⟨least, most, -⟩ := mapped_bounds dimm sized lower within one registers line used
    have found := mapped_idx dimm sized lower within one line used
    refine ⟨mapped_placed dimm sized lower within one line used, found ▸ least, found ▸ most, ?_⟩
    intro column low
    obtain ⟨kind, bit⟩ := line
    cases column
    exact found.trans (if_pos (Nat.lt_succ_of_lt low))
  · intro line used
    rw [mapped_idx dimm sized lower within one line used]
    exact (mapped_bounds dimm sized lower within one registers line used).2.2

end Mapped

theorem positions_nodup (spans : List Span) (apart : spans.Pairwise (fun left right => left.kind ≠ right.kind)) :
    (positions spans).Nodup := by
  rw [positions, List.nodup_flatMap]
  constructor
  · intro span among
    apply List.Nodup.map _ (List.nodup_range' ..)
    intro left right equal
    exact (Prod.mk.inj equal).2
  · apply apart.imp
    intro left right different bit inLeft inRight
    obtain ⟨leftIndex, -, rfl⟩ := List.mem_map.mp inLeft
    obtain ⟨rightIndex, -, equal⟩ := List.mem_map.mp inRight
    exact different (Prod.mk.inj equal).1.symm

theorem dimm_lines_nodup (dimm : DimmParams) : (dimmLines dimm).Nodup := by
  apply positions_nodup
  simp

def orderArray (spans : List Span) : List HifBit :=
  positions spans ++ List.replicate (hifAddrSize - (positions spans).length) (.empty, 0)

theorem array_idx (spans : List Span) (line : HifBit) (placed : line ∈ positions spans) :
    (orderArray spans).idxOf line = (positions spans).idxOf line := List.idxOf_append_of_mem placed

theorem array_placed (spans : List Span) (line : HifBit) (filled : line.1 ≠ .empty) :
    line ∈ orderArray spans ↔ line ∈ positions spans := by
  constructor
  · intro among
    cases List.mem_append.mp among with
    | inl placed => exact placed
    | inr padding => exact absurd (congrArg Prod.fst (List.eq_of_mem_replicate padding)) filled
  · exact List.mem_append_left _

theorem mem_searched (dimm : DimmParams) (line : HifBit) :
    line ∈ searched dimm ↔ (line.2 < numAddr dimm line.1 ∧ line.2 < maxAddr line.1) ∧ (line.1 = .column → 2 ≤ line.2) := by
  obtain ⟨kind, bit⟩ := line
  rw [searched, mem_positions]
  cases kind with
  | row =>
      simp [numAddr, maxAddr]
      omega
  | column =>
      simp [numAddr, maxAddr]
      omega
  | bank =>
      simp [numAddr, maxAddr]
      omega
  | bankGroup =>
      simp [numAddr, maxAddr]
      omega
  | rank => simp [numAddr]
  | empty => simp [numAddr]

theorem searched_filled (dimm : DimmParams) (line : HifBit) (among : line ∈ searched dimm) : line.1 ≠ .empty := by
  have used := ((mem_searched dimm line).mp among).1.1
  intro empty
  rw [empty] at used
  cases used

theorem map_computed (settings : DdrSettings) (dimm : DimmParams) (regVal : Nat → UInt32) (wide : dimm.busWidth = 64) :
    ddrCalcAddrMap settings dimm = some regVal ↔
      ∃ spans, hifOrder settings dimm = some spans ∧ (positions spans).length ≤ hifAddrSize ∧
        (∀ line ∈ searched dimm, line ∈ positions spans) ∧ addrMapRegVal dimm (orderArray spans) = regVal := by
  have unshifted (hifAddr : List HifBit) : busShifted dimm.busWidth hifAddr = hifAddr := by
    unfold busShifted
    simp [wide]
  have placed (spans : List Span) :
      (∀ line ∈ searched dimm, line ∈ orderArray spans) ↔ ∀ line ∈ searched dimm, line ∈ positions spans :=
    forall₂_congr (fun line among => array_placed spans line (searched_filled dimm line among))
  unfold ddrCalcAddrMap
  cases hifOrder settings dimm with
  | none => simp
  | some spans =>
      by_cases room : (positions spans).length ≤ hifAddrSize
      · have array : hifArray spans = some (orderArray spans) := if_pos room
        simp only [array, unshifted, placed, Option.some.injEq, exists_eq_left', room, true_and]
        by_cases found : ∀ line ∈ searched dimm, line ∈ positions spans
        · rw [if_pos found]
          simp only [Option.some.injEq]
          exact ⟨fun same => ⟨found, same⟩, And.right⟩
        · rw [if_neg found]
          exact ⟨fun impossible => (nomatch impossible), fun both => absurd both.1 found⟩
      · have array : hifArray spans = none := if_neg room
        simp [array, room]

theorem sized_mapped (dimm : DimmParams) (registers : RegisterSized dimm) (line : HifBit)
    (used : line.2 < numAddr dimm line.1) : line.2 < maxAddr line.1 := by
  obtain ⟨kind, bit⟩ := line
  cases kind with
  | row => exact Nat.lt_of_lt_of_le used registers.rows
  | column => exact Nat.lt_of_lt_of_le used registers.columns
  | bank => exact Nat.lt_of_lt_of_le used registers.banks
  | bankGroup => exact Nat.lt_of_lt_of_le used registers.groups
  | rank => cases used
  | empty => cases used

theorem fitted_wired (dimm : DimmParams) (spans : List Span) (bits : Nat) (registers : RegisterSized dimm)
    (fitted : Fitted dimm (positions spans) bits) (room : bits ≤ 2 ^ 32) (line : HifBit)
    (used : line.2 < numAddr dimm line.1) :
    dramWires (addrMapRegVal dimm (orderArray spans)) line = some ((positions spans).idxOf line) := by
  have fits := fitted.fits line used
  have same := array_idx spans line fits.placed
  rw [← same]
  apply line_wired dimm _ line used (sized_mapped dimm registers line used)
  have inside := fitted.inside line used
  exact ⟨by omega, same ▸ fits.lower, same ▸ fits.upper, same ▸ fits.fixed⟩

theorem fitted_exact (dimm : DimmParams) (spans : List Span) (registers : RegisterSized dimm)
    (fitted : Fitted dimm (positions spans) (addressBits dimm)) (room : addressBits dimm ≤ 2 ^ 32) :
    Wiring.Exact (dramWires (addrMapRegVal dimm (orderArray spans))) (addressBits dimm) (dimmLines dimm) := by
  have wired (line : HifBit) (member : line ∈ dimmLines dimm) :=
    fitted_wired dimm spans (addressBits dimm) registers fitted room line ((mem_lines dimm line).mp member)
  constructor
  · exact dimm_lines_nodup dimm
  · exact dimm_lines_length dimm
  · intro line member
    exact ⟨_, fitted.inside line ((mem_lines dimm line).mp member), wired line member⟩
  · intro line member other otherMember same
    rw [wired line member, wired other otherMember, Option.some.injEq] at same
    exact (List.idxOf_inj (fitted.fits line ((mem_lines dimm line).mp member)).placed).mp same

end LilacUxB.Fsbl
