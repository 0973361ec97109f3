import LilacUxB.Fsbl.Qspi24

set_option autoImplicit false

namespace LilacUxB.Fsbl

-- SendBankSelect has no command for these makes.
def bankless (make : FlashMake) : Bool := make = .winbond ∨ make = .issi

-- A chip that stays in bank 0 answers with the cells of its first 16 MB.
def bankView (make : FlashMake) (device : Device) : Device :=
  if bankless make then
    { device with
      lower := fun place => device.lower (place % bankCells)
      upper := fun place => device.upper (place % bankCells) }
  else device

def BanksSettled (mode : ConnectionMode) (make : FlashMake) (flashSize : UInt32) (state : QspiState) : Prop :=
  bankless make = true ∨ totalFlashSize mode flashSize ≤ bankSize mode → state.lowerBank = 0 ∧ state.upperBank = 0

theorem bank_view_chip (make : FlashMake) (device : Device) : (bankView make device).chipSize = device.chipSize := by
  unfold bankView
  split <;> rfl

theorem bank_view_banked (make : FlashMake) (device : Device) (banked : bankless make = false) :
    bankView make device = device := by
  rw [bankView, banked]
  rfl

theorem bank_number (bankSel : UInt32) (small : bankSel.toNat < 256) : bankSel.toUInt8.toNat = bankSel.toNat := by
  rw [UInt32.toNat_toUInt8, Nat.mod_eq_of_lt small]

structure BankWritten (state after : QspiState) (bank : Nat) : Prop where
  select : after.select = state.select
  memory : after.memory = state.memory
  lower : state.select ≠ .upper → after.lowerBank = bank
  upper : state.select ≠ .lower → after.upperBank = bank

theorem write_bank_written (state : QspiState) (bank : Nat) : BankWritten state (writeBank state bank) bank := by
  cases selected : state.select with
  | lower => exact ⟨by simp [writeBank, selected], by simp [writeBank, selected], by simp [writeBank, selected], by simp [selected]⟩
  | upper => exact ⟨by simp [writeBank, selected], by simp [writeBank, selected], by simp [selected], by simp [writeBank, selected]⟩
  | both => exact ⟨by simp [writeBank, selected], by simp [writeBank, selected], by simp [writeBank, selected], by simp [writeBank, selected]⟩

theorem command_succeeds (device : Device) (state : QspiState) (succeeds : device.succeeds = fun _ => true) :
    polledCommand device state = (true, { state with transfers := state.transfers + 1 }) := by
  rw [polledCommand, succeeds]

theorem bank_write_succeeds (device : Device) (bankSel : UInt32) (state : QspiState)
    (succeeds : device.succeeds = fun _ => true) (small : bankSel.toNat < 256) :
    ∃ after, polledBankWrite device bankSel state = (true, after) ∧ BankWritten state after bankSel.toNat := by
  refine ⟨writeBank { state with transfers := state.transfers + 1 } bankSel.toNat, ?_, ?_⟩
  · simp only [polledBankWrite, command_succeeds device state succeeds, if_true, bank_number bankSel small]
  · obtain ⟨select, memory, lower, upper⟩ := write_bank_written { state with transfers := state.transfers + 1 } bankSel.toNat
    exact ⟨select, memory, lower, upper⟩

theorem read_bank_agrees (state after : QspiState) (bank : Nat) (written : BankWritten state after bank) :
    readBank after = bank := by
  have select := written.select
  cases selected : state.select with
  | lower =>
      rw [selected] at select
      rw [readBank, select]
      exact written.lower (by rw [selected]; decide)
  | upper =>
      rw [selected] at select
      rw [readBank, select]
      exact written.upper (by rw [selected]; decide)
  | both =>
      rw [selected] at select
      rw [readBank, select]
      exact written.lower (by rw [selected]; decide)

theorem bank_selected (make : FlashMake) (device : Device) (bankSel : UInt32) (state : QspiState)
    (succeeds : device.succeeds = fun _ => true) (small : bankSel.toNat < 256) (banked : bankless make = false) :
    ∃ after, sendBankSelect make device bankSel state = (true, after) ∧ BankWritten state after bankSel.toNat := by
  have commands := fun state => command_succeeds device state succeeds
  have twoCommands : ∃ after,
      sendBankSelect .micron device bankSel state = (true, after) ∧ BankWritten state after bankSel.toNat := by
    obtain ⟨after, sent, select, memory, lower, upper⟩ :=
      bank_write_succeeds device bankSel { state with transfers := state.transfers + 1 } succeeds small
    refine ⟨{ after with transfers := after.transfers + 1 }, ?_, ⟨select, memory, lower, upper⟩⟩
    simp only [sendBankSelect, commands, if_true, sent]
  cases make with
  | micron => exact twoCommands
  | macronix => exact twoCommands
  | spansion =>
      obtain ⟨after, sent, written⟩ := bank_write_succeeds device bankSel state succeeds small
      have agrees : readBank { after with transfers := after.transfers + 1 } = bankSel.toNat :=
        read_bank_agrees state after bankSel.toNat written
      refine ⟨{ after with transfers := after.transfers + 1 }, ?_,
        ⟨written.select, written.memory, written.lower, written.upper⟩⟩
      simp only [sendBankSelect, sent, if_true, commands, agrees, decide_true, Bool.and_self]
  | winbond => cases banked
  | issi => cases banked

theorem bankless_selected (make : FlashMake) (device : Device) (bankSel : UInt32) (state : QspiState)
    (none : bankless make = true) : sendBankSelect make device bankSel state = (true, state) := by
  cases make with
  | winbond => rfl
  | issi => rfl
  | micron => cases none
  | macronix => cases none
  | spansion => cases none

theorem bank_of_address (qspiAddr : UInt32) :
    (qspiAddr / 0x1000000).toNat = qspiAddr.toNat / bankCells ∧ (qspiAddr / 0x1000000).toNat < 256 := by
  have below := Words.below qspiAddr
  have quotient : (qspiAddr / 0x1000000).toNat = qspiAddr.toNat / bankCells := UInt32.toNat_div qspiAddr 0x1000000
  refine ⟨quotient, ?_⟩
  rw [quotient, bankCells]
  omega

structure Selected (mode : ConnectionMode) (make : FlashMake) (flashSize qspiAddr : UInt32) (state after : QspiState) :
    Prop where
  select : after.select = state.select
  memory : after.memory = state.memory
  settled : BanksSettled mode make flashSize state → BanksSettled mode make flashSize after
  bank : ¬ (bankless make = true ∨ totalFlashSize mode flashSize ≤ bankSize mode) →
    BankWritten state after (qspiAddr.toNat / bankCells)

theorem bank_select_succeeds (mode : ConnectionMode) (make : FlashMake) (flashSize : UInt32) (device : Device)
    (qspiAddr : UInt32) (state : QspiState) (succeeds : device.succeeds = fun _ => true) :
    ∃ after, selectBank mode make flashSize device qspiAddr state = (true, after) ∧
      Selected mode make flashSize qspiAddr state after := by
  by_cases never : bankless make = true ∨ totalFlashSize mode flashSize ≤ bankSize mode
  · refine ⟨state, ?_, ⟨rfl, rfl, fun settled => settled, fun switched => absurd never switched⟩⟩
    rw [selectBank]
    split
    case isTrue large =>
      have none : bankless make = true := never.resolve_right (UInt32.not_le.mpr large)
      exact bankless_selected make device _ state none
    case isFalse => rfl
  · obtain ⟨banked, notSmall⟩ := not_or.mp never
    obtain ⟨number, small⟩ := bank_of_address qspiAddr
    obtain ⟨after, sent, written⟩ :=
      bank_selected make device (qspiAddr / 0x1000000) state succeeds small (Bool.eq_false_iff.mpr banked)
    rw [number] at written
    refine ⟨after, ?_, ⟨written.select, written.memory, fun _ settled => absurd settled never, fun _ => written⟩⟩
    rw [selectBank, if_pos (UInt32.not_le.mp notSmall)]
    exact sent

theorem reads_24 (chipSize bank : Nat) (qspiAddr : UInt32) :
    readStart bank (addressBytes24 qspiAddr) = bank * bankCells + qspiAddr.toNat % bankCells ∧
      readEnd chipSize bank (addressBytes24 qspiAddr) = min chipSize ((bank + 1) * bankCells) := by
  refine ⟨?_, rfl⟩
  rw [← address_bytes_24 qspiAddr]
  rfl

def bankLimit (chipSize : Nat) (qspiAddr : UInt32) : Nat :=
  min chipSize ((qspiAddr.toNat / bankCells + 1) * bankCells)

theorem addressed_bank_byte (device : Device) (cells : Nat → UInt8) (qspiAddr : UInt32) (bank index : Nat)
    (addressed : bank = qspiAddr.toNat / bankCells) (inside : qspiAddr.toNat + index < bankLimit device.chipSize qspiAddr) :
    chipByte device cells bank (addressBytes24 qspiAddr) index = cells (qspiAddr.toNat + index) := by
  obtain ⟨begins, ends⟩ := reads_24 device.chipSize bank qspiAddr
  subst addressed
  rw [Nat.div_add_mod'] at begins
  exact chip_byte_cell device cells _ _ _ index _ ⟨begins, ends⟩ inside

theorem first_bank_byte (device : Device) (cells : Nat → UInt8) (qspiAddr : UInt32) (index : Nat)
    (inside : qspiAddr.toNat + index < bankLimit device.chipSize qspiAddr) :
    chipByte device cells 0 (addressBytes24 qspiAddr) index = cells ((qspiAddr.toNat + index) % bankCells) := by
  have reads := reads_24 device.chipSize 0 qspiAddr
  have place : (qspiAddr.toNat + index) % bankCells = 0 * bankCells + qspiAddr.toNat % bankCells + index := by
    simp only [bankLimit, bankCells] at inside ⊢
    omega
  rw [place]
  refine chip_byte_cell device cells 0 _ _ index _ reads ?_
  simp only [bankLimit, bankCells] at inside ⊢
  omega

theorem delivers_24 (mode : ConnectionMode) (make : FlashMake) (flashSize qspiAddr : UInt32) (device : Device)
    (state after : QspiState) (settled : BanksSettled mode make flashSize state)
    (selected : Selected mode make flashSize qspiAddr state after)
    (first : totalFlashSize mode flashSize ≤ bankSize mode → qspiAddr.toNat < bankCells) :
    Delivers device (bankView make device) after (addressBytes24 qspiAddr) qspiAddr.toNat
      (bankLimit device.chipSize qspiAddr) := by
  by_cases none : bankless make = true
  · obtain ⟨lowerZero, upperZero⟩ := selected.settled settled (.inl none)
    have view : bankView make device = { device with
        lower := fun place => device.lower (place % bankCells)
        upper := fun place => device.upper (place % bankCells) } := by rw [bankView, if_pos none]
    rw [view]
    cases chosen : after.select <;> simp only [Delivers, chosen, lowerZero, upperZero]
    case lower => exact first_bank_byte device device.lower qspiAddr
    case upper => exact first_bank_byte device device.upper qspiAddr
    case both =>
      intro index inside
      exact ⟨first_bank_byte device device.lower qspiAddr index inside,
        first_bank_byte device device.upper qspiAddr index inside⟩
  · have banks : (after.select ≠ .upper → after.lowerBank = qspiAddr.toNat / bankCells) ∧
        (after.select ≠ .lower → after.upperBank = qspiAddr.toNat / bankCells) := by
      by_cases small : totalFlashSize mode flashSize ≤ bankSize mode
      · obtain ⟨lowerZero, upperZero⟩ := selected.settled settled (.inr small)
        have zero : qspiAddr.toNat / bankCells = 0 := Nat.div_eq_of_lt (first small)
        rw [zero]
        exact ⟨fun _ => lowerZero, fun _ => upperZero⟩
      · have written := selected.bank (not_or.mpr ⟨none, small⟩)
        rw [written.select]
        exact ⟨written.lower, written.upper⟩
    rw [bank_view_banked make device (Bool.eq_false_iff.mpr none)]
    cases chosen : after.select <;> simp only [Delivers, chosen] <;> simp only [chosen] at banks
    case lower =>
      intro index inside
      exact addressed_bank_byte device device.lower qspiAddr _ index (banks.1 (by decide)) inside
    case upper =>
      intro index inside
      exact addressed_bank_byte device device.upper qspiAddr _ index (banks.2 (by decide)) inside
    case both =>
      intro index inside
      exact ⟨addressed_bank_byte device device.lower qspiAddr _ index (banks.1 (by decide)) inside,
        addressed_bank_byte device device.upper qspiAddr _ index (banks.2 (by decide)) inside⟩

structure ChipSize (flashSize : UInt32) : Prop where
  small : flashSize.toNat ≤ 2 ^ 28
  banks : flashSize.toNat = 2 ^ 23 ∨ flashSize.toNat % 2 ^ 24 = 0

theorem flash_size_of_sized (sizeId : UInt8) (flashSize : UInt32) (known : flashSizeOf sizeId = some flashSize) :
    ChipSize flashSize := by
  unfold flashSizeOf at known
  split_ifs at known <;> cases known <;> exact ⟨by decide, by decide⟩

theorem accepted_sized (makeId sizeId : UInt8) (make : FlashMake) (flashSize : UInt32)
    (accepted : flashReadID makeId sizeId = .ok (make, flashSize)) : ChipSize flashSize := by
  unfold flashReadID at accepted
  split at accepted
  · cases accepted
  split at accepted
  · cases accepted
  case h_2 known =>
    cases accepted
    exact flash_size_of_sized sizeId flashSize known

-- A range on stacked chips of 8 MB, which are smaller than a bank, does not leave its chip.
def OneChip (mode : ConnectionMode) (flashSize : UInt32) (start count : Nat) : Prop :=
  mode = .stacked → flashSize.toNat < 2 ^ 24 → ¬ (start < flashSize.toNat ∧ flashSize.toNat < start + count)

theorem first_bank_address (mode : ConnectionMode) (flashSize srcAddress : UInt32) (state : QspiState)
    (sized : ChipSize flashSize) (inside : srcAddress.toNat < (totalFlashSize mode flashSize).toNat)
    (small : totalFlashSize mode flashSize ≤ bankSize mode) :
    (getQspiAddr mode (totalFlashSize mode flashSize) srcAddress state).1.toNat < bankCells := by
  have total := UInt32.le_iff_toNat_le.mp small
  rw [bank_size_nat] at total
  cases mode with
  | single =>
      simp only [qspi_addr_single, bankCells]
      simp only [bankBytes, reduceCtorEq, if_false] at total
      omega
  | stacked =>
      have doubled := total_doubled .stacked flashSize sized.small (by decide)
      by_cases first : srcAddress.toNat < flashSize.toNat
      · simp only [qspi_addr_lower flashSize srcAddress state sized.small first, bankCells]
        simp only [bankBytes, reduceCtorEq, if_false] at total
        omega
      · obtain ⟨qspiAddr, translated, place⟩ :=
          qspi_addr_upper flashSize srcAddress state sized.small (Nat.le_of_not_lt first)
        simp only [translated, place, bankCells]
        simp only [bankBytes, reduceCtorEq, if_false] at total
        omega
  | parallel =>
      have half : (srcAddress / 2).toNat = srcAddress.toNat / 2 := UInt32.toNat_div srcAddress 2
      simp only [qspi_addr_parallel, half, bankCells]
      simp only [bankBytes, if_true] at total
      omega

theorem pass_inside (mode : ConnectionMode) (flashSize srcAddress remainingBytes : UInt32) (state : QspiState) (index : Nat)
    (sized : ChipSize flashSize) (more : remainingBytes ≠ 0)
    (fits : srcAddress.toNat + remainingBytes.toNat ≤ (totalFlashSize mode flashSize).toNat)
    (even : mode = .parallel → srcAddress.toNat % 2 = 0 ∧ remainingBytes.toNat % 2 = 0)
    (oneChip : OneChip mode flashSize srcAddress.toNat remainingBytes.toNat)
    (less : index < (cutToBank mode (origAddr mode (getQspiAddr mode (totalFlashSize mode flashSize) srcAddress state).1)
      (dmaTransferBytes remainingBytes)).toNat) :
    (getQspiAddr mode (totalFlashSize mode flashSize) srcAddress state).1.toNat + chipIndex mode index <
      bankLimit flashSize.toNat (getQspiAddr mode (totalFlashSize mode flashSize) srcAddress state).1 := by
  obtain ⟨_, within, short⟩ := dma_transfer_bytes remainingBytes more
  rw [cut_to_bank mode _ _ short, Nat.lt_min] at less
  obtain ⟨small, banks⟩ := sized
  cases mode with
  | single =>
      simp only [qspi_addr_single, chipIndex, bankLimit, bankCells, origAddr, bankBytes, total_single] at less fits ⊢
      simp only [reduceCtorEq, if_false] at less
      omega
  | stacked =>
      have doubled := total_doubled .stacked flashSize small (by decide)
      have apart := oneChip rfl
      by_cases first : srcAddress.toNat < flashSize.toNat
      · simp only [qspi_addr_lower flashSize srcAddress state small first, chipIndex, bankLimit, bankCells, origAddr,
          bankBytes, reduceCtorEq, if_false] at less ⊢
        omega
      · obtain ⟨qspiAddr, translated, place⟩ :=
          qspi_addr_upper flashSize srcAddress state small (Nat.le_of_not_lt first)
        simp only [translated, chipIndex, bankLimit, bankCells, origAddr, bankBytes, reduceCtorEq, if_false] at less ⊢
        omega
  | parallel =>
      have doubled := total_doubled .parallel flashSize small (by decide)
      have half : (srcAddress / 2).toNat = srcAddress.toNat / 2 := UInt32.toNat_div srcAddress 2
      have aligned := even rfl
      have twice : (srcAddress / 2 * 2).toNat = srcAddress.toNat := by
        have below := Words.below srcAddress
        have two : (2 : UInt32).toNat = 2 := rfl
        rw [Words.mul_exact _ _ (by rw [half, two]; omega), half, two]
        omega
      simp only [qspi_addr_parallel, chipIndex, bankLimit, bankCells, origAddr, bankBytes, if_true, twice, half] at less ⊢
      omega

end LilacUxB.Fsbl
