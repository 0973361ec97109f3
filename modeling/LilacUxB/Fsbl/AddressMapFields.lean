import LilacUxB.Fsbl.DdrAddressMap

set_option autoImplicit false

namespace LilacUxB.Fsbl

theorem mem_positions (spans : List Span) (bit : HifBit) :
    bit ∈ positions spans ↔
      ∃ span ∈ spans, span.kind = bit.1 ∧ span.first ≤ bit.2 ∧ bit.2 < span.first + span.count := by
  obtain ⟨kind, index⟩ := bit
  simp only [positions, Span.bits, List.mem_flatMap, List.mem_map, List.mem_range'_1, Prod.mk.injEq]
  constructor
  · rintro ⟨span, among, index, inside, rfl, rfl⟩
    exact ⟨span, among, rfl, inside⟩
  · rintro ⟨span, among, rfl, inside⟩
    exact ⟨span, among, index, inside, rfl, rfl⟩

def place : List Span → HifBit → Nat
  | [], _ => 0
  | span :: rest, bit =>
      if span.kind = bit.1 ∧ span.first ≤ bit.2 ∧ bit.2 < span.first + span.count then bit.2 - span.first
      else span.count + place rest bit

theorem span_length (span : Span) : span.bits.length = span.count := by
  rw [Span.bits, List.length_map, List.length_range']

theorem span_idx (span : Span) (bit : HifBit) (same : span.kind = bit.1) (lower : span.first ≤ bit.2)
    (upper : bit.2 < span.first + span.count) : span.bits.idxOf bit = bit.2 - span.first := by
  have nodup : span.bits.Nodup := by
    apply List.Nodup.map _ (List.nodup_range' ..)
    intro left right equal
    exact (Prod.mk.inj equal).2
  have inside : bit.2 - span.first < span.bits.length := by
    rw [span_length]
    omega
  have there : span.bits[bit.2 - span.first] = bit := by
    obtain ⟨kind, index⟩ := bit
    cases same
    have sum : span.first + (index - span.first) = index := Nat.add_sub_of_le lower
    simp [Span.bits, sum]
  have found := nodup.idxOf_getElem (bit.2 - span.first) inside
  rwa [there] at found

theorem idx_positions (spans : List Span) (bit : HifBit) : (positions spans).idxOf bit = place spans bit := by
  induction spans with
  | nil => rfl
  | cons span rest ih =>
      have split : positions (span :: rest) = span.bits ++ positions rest := rfl
      have member : bit ∈ span.bits ↔ span.kind = bit.1 ∧ span.first ≤ bit.2 ∧ bit.2 < span.first + span.count := by
        have one := mem_positions [span] bit
        simpa [positions] using one
      rw [split, place]
      by_cases here : span.kind = bit.1 ∧ span.first ≤ bit.2 ∧ bit.2 < span.first + span.count
      · rw [if_pos here, List.idxOf_append_of_mem (member.mpr here), span_idx span bit here.1 here.2.1 here.2.2]
      · rw [if_neg here, List.idxOf_append_of_notMem (fun inside => here (member.mp inside)), span_length, ih]

theorem positions_length (spans : List Span) : (positions spans).length = (spans.map Span.count).sum := by
  induction spans with
  | nil => rfl
  | cons span rest ih =>
      have split : positions (span :: rest) = span.bits ++ positions rest := rfl
      rw [split, List.length_append, span_length, ih, List.map_cons, List.sum_cons]

structure SpdSized (dimm : DimmParams) : Prop where
  rows : 12 ≤ dimm.numRowAddr ∧ dimm.numRowAddr ≤ 19
  columns : 9 ≤ dimm.numColAddr ∧ dimm.numColAddr ≤ 16
  banks : 2 ≤ dimm.numBankAddr ∧ dimm.numBankAddr ≤ 5
  groups : dimm.numBgAddr ≤ 3
  ranks : dimm.numRankAddr ≤ 3

theorem masked_most (value mask : UInt8) : (value &&& mask).toNat ≤ mask.toNat := by
  rw [UInt8.toNat_and]
  exact Nat.and_le_right

theorem params_sized (spdData : Nat → UInt8) (organization busWidth : UInt8) :
    SpdSized (addressParams spdData organization busWidth) := by
  have rows := masked_most (spdData 5 >>> 3) 7
  have columns := masked_most (spdData 5) 7
  have banks := masked_most (spdData 4 >>> 4) 3
  have groups := masked_most (spdData 4 >>> 6) 3
  have ranks := masked_most (organization >>> 3) 7
  have seven : (7 : UInt8).toNat = 7 := rfl
  have three : (3 : UInt8).toNat = 3 := rfl
  rw [seven] at rows columns ranks
  rw [three] at banks groups
  have log : ((organization >>> 3 &&& 7).toNat + 1).log2 < 4 := by
    apply (Nat.log2_lt (Nat.succ_ne_zero _)).mpr
    omega
  unfold addressParams getLog2
  constructor
  · exact ⟨Nat.le_add_left _ _, Nat.add_le_add_right rows 12⟩
  · exact ⟨Nat.le_add_left _ _, Nat.add_le_add_right columns 9⟩
  · exact ⟨Nat.le_add_left _ _, Nat.add_le_add_right banks 2⟩
  · exact groups
  · exact Nat.le_of_lt_succ log

def addressBits (dimm : DimmParams) : Nat := dimm.numColAddr + dimm.numBgAddr + dimm.numBankAddr + dimm.numRowAddr

def dimmLines (dimm : DimmParams) : List HifBit :=
  positions [⟨.column, 0, dimm.numColAddr⟩, ⟨.bankGroup, 0, dimm.numBgAddr⟩, ⟨.bank, 0, dimm.numBankAddr⟩,
    ⟨.row, 0, dimm.numRowAddr⟩]

theorem dimm_lines_length (dimm : DimmParams) : (dimmLines dimm).length = addressBits dimm := by
  simp [dimmLines, positions_length, addressBits, Nat.add_assoc]

def numAddr (dimm : DimmParams) : HifKind → Nat
  | .column => dimm.numColAddr
  | .row => dimm.numRowAddr
  | .bank => dimm.numBankAddr
  | .bankGroup => dimm.numBgAddr
  | .rank => 0
  | .empty => 0

theorem mem_lines (dimm : DimmParams) (line : HifBit) : line ∈ dimmLines dimm ↔ line.2 < numAddr dimm line.1 := by
  obtain ⟨kind, index⟩ := line
  rw [dimmLines, mem_positions]
  cases kind <;> simp [numAddr]

theorem fields_lane (mask : UInt32) (values : List UInt32) (index : Nat) (few : values.length ≤ 4)
    (small : mask.toNat < 256) (inside : index < values.length) :
    Registers.lane (fields mask values) index = values[index] &&& mask := by
  have bytes : ∀ value ∈ values.map (fun value => value &&& mask), value.toNat < 256 := by
    intro value among
    obtain ⟨whole, -, rfl⟩ := List.mem_map.mp among
    rw [UInt32.toNat_and]
    exact Nat.lt_of_le_of_lt Nat.and_le_right small
  rw [fields, Registers.lane_lanes _ index (by rwa [List.length_map]) bytes (by rwa [List.length_map]), List.getElem_map]

section Lanes

variable (dimm : DimmParams) (hifAddr : List HifBit) (bit : Nat)

theorem row_lane (mapped : bit < maxRows) :
    Registers.lane (addrMapRegVal dimm hifAddr (rowField bit).1) (rowField bit).2 =
      addrMapRowBit dimm hifAddr bit &&& 0xF := by
  unfold maxRows at mapped
  interval_cases bit <;>
    exact fields_lane 0xF _ _ (Nat.le_of_ble_eq_true rfl) (by decide) (Nat.le_of_ble_eq_true rfl)

theorem col_lane (lower : 2 ≤ bit) (mapped : bit < maxColumns) :
    Registers.lane (addrMapRegVal dimm hifAddr (colField bit).1) (colField bit).2 =
      addrMapColBit dimm hifAddr bit &&& 0xF := by
  unfold maxColumns at mapped
  interval_cases bit <;>
    exact fields_lane 0xF _ _ (Nat.le_of_ble_eq_true rfl) (by decide) (Nat.le_of_ble_eq_true rfl)

theorem bank_lane (mapped : bit < maxBanks) :
    Registers.lane (addrMapRegVal dimm hifAddr 1) bit = addrMapBankBit dimm hifAddr bit &&& 0x1F := by
  unfold maxBanks at mapped
  interval_cases bit <;>
    exact fields_lane 0x1F _ _ (Nat.le_of_ble_eq_true rfl) (by decide) (Nat.le_of_ble_eq_true rfl)

theorem bg_lane (mapped : bit < maxBankGroups) :
    Registers.lane (addrMapRegVal dimm hifAddr 8) bit = addrMapBgBit dimm hifAddr bit &&& 0x1F := by
  unfold maxBankGroups at mapped
  interval_cases bit <;>
    exact fields_lane 0x1F _ _ (Nat.le_of_ble_eq_true rfl) (by decide) (Nat.le_of_ble_eq_true rfl)

end Lanes

theorem offset_field (word : UInt32) (lane width base index : Nat) (mask : UInt32)
    (ones : mask.toNat = 2 ^ width - 1) (small : index < 2 ^ 32) (lower : base ≤ index)
    (upper : index ≤ base + mask.toNat)
    (read : Registers.lane word lane = (UInt32.ofNat index - UInt32.ofNat base) &&& mask) :
    (Registers.lane word lane &&& mask).toNat = index - base := by
  have indexNat : (UInt32.ofNat index).toNat = index := UInt32.toNat_ofNat_of_lt' small
  have baseNat : (UInt32.ofNat base).toNat = base := UInt32.toNat_ofNat_of_lt' (Nat.lt_of_le_of_lt lower small)
  have difference : (UInt32.ofNat index - UInt32.ofNat base).toNat = index - base := by
    rw [Words.sub_exact _ _ (by omega), indexNat, baseNat]
  have positive := Nat.two_pow_pos width
  rw [read, UInt32.toNat_and, UInt32.toNat_and, difference, ones, Nat.and_two_pow_sub_one_eq_mod,
    Nat.and_two_pow_sub_one_eq_mod, Nat.mod_mod, Nat.mod_eq_of_lt (by omega)]

theorem outside_selected (word : UInt32) (lane top base : Nat) (mask : UInt32)
    (outside : top < (Registers.lane word lane &&& mask).toNat) : selected word lane mask top base = none := by
  unfold selected
  exact if_neg (Nat.not_le.mpr outside)

theorem inside_selected (word : UInt32) (lane top base index : Nat) (mask : UInt32) (lower : base ≤ index)
    (upper : index ≤ base + top) (field : (Registers.lane word lane &&& mask).toNat = index - base) :
    selected word lane mask top base = some index := by
  have within : index - base ≤ top := by omega
  have sum : base + (index - base) = index := Nat.add_sub_of_le lower
  unfold selected
  dsimp only
  rw [field, if_pos within, sum]

def fieldBase : HifBit → Nat
  | (.row, bit) => bit + 6
  | (.column, bit) => bit
  | (.bank, bit) => bit + 2
  | (.bankGroup, bit) => bit + 2
  | (.rank, _) => 0
  | (.empty, _) => 0

def maxAddr : HifKind → Nat
  | .row => maxRows
  | .column => maxColumns
  | .bank => maxBanks
  | .bankGroup => maxBankGroups
  | .rank => 0
  | .empty => 0

structure FieldRead (dimm : DimmParams) (hifAddr : List HifBit) (line : HifBit) where
  word : UInt32
  lane : Nat
  width : Nat
  mask : UInt32
  wires : dramWires (addrMapRegVal dimm hifAddr) line = selected word lane mask (fieldTop line) (fieldBase line)
  ones : mask.toNat = 2 ^ width - 1
  range : fieldTop line < mask.toNat
  inUse : line.2 < numAddr dimm line.1 → fieldBase line ≤ hifAddr.idxOf line →
    Registers.lane word lane = (UInt32.ofNat (hifAddr.idxOf line) - UInt32.ofNat (fieldBase line)) &&& mask
  beyond : ¬ line.2 < numAddr dimm line.1 → Registers.lane word lane = mask &&& mask

theorem row_top (bit : Nat) :
    10 ≤ fieldTop (.row, bit) ∧ fieldTop (.row, bit) ≤ 11 ∧ (bit ≠ 17 → fieldTop (.row, bit) = 11) := by
  by_cases last : bit = 17
  · rw [last]
    exact ⟨Nat.le_refl 10, Nat.le_succ 10, fun other => absurd rfl other⟩
  · have top : fieldTop (.row, bit) = 11 := if_neg last
    rw [top]
    exact ⟨Nat.le_succ 10, Nat.le_refl 11, fun _ => rfl⟩

theorem bank_top (bit : Nat) : 29 ≤ fieldTop (.bank, bit) ∧ fieldTop (.bank, bit) ≤ 30 := by
  by_cases last : bit = 2
  · rw [last]
    exact ⟨Nat.le_refl 29, Nat.le_succ 29⟩
  · have top : fieldTop (.bank, bit) = 30 := if_neg last
    rw [top]
    exact ⟨Nat.le_succ 29, Nat.le_refl 30⟩

theorem line_read (dimm : DimmParams) (hifAddr : List HifBit) (line : HifBit) (mapped : line.2 < maxAddr line.1)
    (selectable : line.1 = .column → 2 ≤ line.2) : Nonempty (FieldRead dimm hifAddr line) := by
  obtain ⟨kind, bit⟩ := line
  cases kind with
  | row =>
      have lane := row_lane dimm hifAddr bit mapped
      have range : fieldTop (.row, bit) < 15 := Nat.lt_of_le_of_lt (row_top bit).2.1 (by decide)
      exact ⟨_, _, 4, 0xF, if_pos mapped, rfl, range,
        fun used _ => lane.trans (congrArg (· &&& 0xF) (if_pos used)),
        fun beyond => lane.trans (congrArg (· &&& 0xF) (if_neg beyond))⟩
  | column =>
      have lower := selectable rfl
      have lane := col_lane dimm hifAddr bit lower mapped
      exact ⟨_, _, 4, 0xF, (if_neg (Nat.not_lt.mpr lower)).trans (if_pos mapped), rfl, (by decide : 7 < 15),
        fun used _ => lane.trans (congrArg (· &&& 0xF) (if_pos used)),
        fun beyond => lane.trans (congrArg (· &&& 0xF) (if_neg beyond))⟩
  | bank =>
      have lane := bank_lane dimm hifAddr bit mapped
      exact ⟨_, _, 5, 0x1F, if_pos mapped, rfl, Nat.lt_succ_of_le (bank_top bit).2,
        fun used _ => lane.trans (congrArg (· &&& 0x1F) (if_pos used)),
        fun beyond => lane.trans (congrArg (· &&& 0x1F) (if_neg beyond))⟩
  | bankGroup =>
      have lane := bg_lane dimm hifAddr bit mapped
      exact ⟨_, _, 5, 0x1F, if_pos mapped, rfl, (by decide : 30 < 31),
        fun used lower => lane.trans (congrArg (· &&& 0x1F) ((if_pos used).trans (if_pos lower))),
        fun beyond => lane.trans (congrArg (· &&& 0x1F) (if_neg beyond))⟩
  | rank => exact absurd mapped (Nat.not_lt_zero bit)
  | empty => exact absurd mapped (Nat.not_lt_zero bit)

structure FieldFits (hifAddr : List HifBit) (line : HifBit) : Prop where
  small : hifAddr.idxOf line < 2 ^ 32
  lower : fieldBase line ≤ hifAddr.idxOf line
  upper : hifAddr.idxOf line ≤ fieldBase line + fieldTop line
  fixed : line.1 = .column → line.2 < 2 → hifAddr.idxOf line = line.2

theorem low_column_wired (regVal : Nat → UInt32) (line : HifBit) (column : line.1 = .column) (low : line.2 < 2) :
    dramWires regVal line = some line.2 := by
  obtain ⟨kind, bit⟩ := line
  cases column
  exact if_pos low

theorem line_wired (dimm : DimmParams) (hifAddr : List HifBit) (line : HifBit) (used : line.2 < numAddr dimm line.1)
    (mapped : line.2 < maxAddr line.1) (fits : FieldFits hifAddr line) :
    dramWires (addrMapRegVal dimm hifAddr) line = some (hifAddr.idxOf line) := by
  by_cases selectable : line.1 = .column → 2 ≤ line.2
  · obtain ⟨field⟩ := line_read dimm hifAddr line mapped selectable
    have upper := Nat.le_trans fits.upper (Nat.add_le_add_left field.range.le (fieldBase line))
    have value := offset_field field.word field.lane field.width _ _ field.mask field.ones fits.small fits.lower upper
      (field.inUse used fits.lower)
    rw [field.wires, inside_selected _ _ _ _ _ _ fits.lower fits.upper value]
  · obtain ⟨column, low⟩ := Classical.not_imp.mp selectable
    rw [low_column_wired _ line column (Nat.not_le.mp low), fits.fixed column (Nat.not_le.mp low)]

theorem unmapped_unwired (regVal : Nat → UInt32) (line : HifBit) (unmapped : ¬ line.2 < maxAddr line.1) :
    dramWires regVal line = none := by
  obtain ⟨kind, bit⟩ := line
  cases kind with
  | row => exact if_neg unmapped
  | column =>
      have two : 2 ≤ maxColumns := by decide
      have high : ¬ bit < 2 := fun low => unmapped (Nat.lt_of_lt_of_le low two)
      exact (if_neg high).trans (if_neg unmapped)
  | bank => exact if_neg unmapped
  | bankGroup => exact if_neg unmapped
  | rank => rfl
  | empty => rfl

theorem wired_line (dimm : DimmParams) (hifAddr : List HifBit) (line : HifBit) (bit : Nat) (columns : 2 ≤ dimm.numColAddr)
    (wired : dramWires (addrMapRegVal dimm hifAddr) line = some bit) :
    line.2 < numAddr dimm line.1 ∧ line.2 < maxAddr line.1 := by
  have mapped : line.2 < maxAddr line.1 := by
    by_contra unmapped
    rw [unmapped_unwired _ line unmapped] at wired
    cases wired
  refine ⟨?_, mapped⟩
  by_contra beyond
  have selectable : line.1 = .column → 2 ≤ line.2 := by
    intro column
    rw [column] at beyond
    exact Nat.le_trans columns (Nat.not_lt.mp beyond)
  obtain ⟨field⟩ := line_read dimm hifAddr line mapped selectable
  have outside : fieldTop line < (Registers.lane field.word field.lane &&& field.mask).toNat := by
    rw [field.beyond beyond, UInt32.and_self, UInt32.and_self]
    exact field.range
  rw [field.wires, outside_selected _ _ _ _ _ outside] at wired
  cases wired

theorem far_undriven (dimm : DimmParams) (hifAddr : List HifBit) (line : HifBit) (used : line.2 < numAddr dimm line.1)
    (mapped : line.2 < maxAddr line.1) (selectable : line.1 = .column → 2 ≤ line.2)
    (small : hifAddr.idxOf line < 2 ^ 32) (past : hifAddr.idxOf line = fieldBase line + fieldTop line + 1) :
    dramWires (addrMapRegVal dimm hifAddr) line = none := by
  obtain ⟨field⟩ := line_read dimm hifAddr line mapped selectable
  have range := field.range
  have lower : fieldBase line ≤ hifAddr.idxOf line := by omega
  have value := offset_field field.word field.lane field.width _ _ field.mask field.ones small lower (by omega)
    (field.inUse used lower)
  rw [field.wires]
  apply outside_selected
  omega

end LilacUxB.Fsbl
