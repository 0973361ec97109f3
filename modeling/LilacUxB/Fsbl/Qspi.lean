import LilacUxB.Blocks
import LilacUxB.Words

set_option autoImplicit false

-- xfsbl_qspi.c: the flash devices behind the controller and the address translation that
-- the 24-bit and the 32-bit copy share.
namespace LilacUxB.Fsbl

inductive ConnectionMode where
  | single | stacked | parallel
deriving DecidableEq, Repr

inductive FlashSelect where
  | lower | upper | both
deriving DecidableEq, Repr

inductive QspiStatus where
  | success | errorUnsupportedQspi | errorQspiLength | errorQspiRead
deriving DecidableEq, Repr

def flashSize64M : UInt32 := 0x0800000
def flashSize128M : UInt32 := 0x1000000
def flashSize256M : UInt32 := 0x2000000
def flashSize512M : UInt32 := 0x4000000
def flashSize1G : UInt32 := 0x8000000
def flashSize2G : UInt32 := 0x10000000

def dmaDataTranSize : UInt32 := 0x20000000

-- The chips on the two chip selects. `past` is what a chip returns where it has no cell
-- or the read has left the bank, `succeeds` tells which of the transfers succeed.
structure Device where
  chipSize : Nat
  lower : Nat → UInt8
  upper : Nat → UInt8
  past : (Nat → UInt8) → Nat → UInt8
  succeeds : Nat → Bool

structure QspiState where
  memory : Nat → UInt8
  select : FlashSelect
  lowerBank : Nat
  upperBank : Nat
  transfers : Nat

-- QspiFlashSize for two chips is twice that of one.
def totalFlashSize (mode : ConnectionMode) (flashSize : UInt32) : UInt32 :=
  match mode with
  | .single => flashSize
  | .stacked => 2 * flashSize
  | .parallel => 2 * flashSize

def getQspiAddr (mode : ConnectionMode) (qspiFlashSize address : UInt32) (state : QspiState) : UInt32 × QspiState :=
  match mode with
  | .single => (address, { state with select := .lower })
  | .stacked =>
      if address ≥ qspiFlashSize / 2 then (address - qspiFlashSize / 2, { state with select := .upper })
      else (address, { state with select := .lower })
  | .parallel => (address / 2, { state with select := .both })

def addressBytes32 (qspiAddr : UInt32) : List UInt8 :=
  [((qspiAddr &&& 0xFF000000) >>> 24).toUInt8, ((qspiAddr &&& 0xFF0000) >>> 16).toUInt8,
    ((qspiAddr &&& 0xFF00) >>> 8).toUInt8, (qspiAddr &&& 0xFF).toUInt8]

def addressBytes24 (qspiAddr : UInt32) : List UInt8 :=
  [((qspiAddr &&& 0xFF0000) >>> 16).toUInt8, ((qspiAddr &&& 0xFF00) >>> 8).toUInt8, (qspiAddr &&& 0xFF).toUInt8]

def byteAddress (bytes : List UInt8) : Nat := bytes.foldl (fun address byte => address * 256 + byte.toNat) 0

def bankCells : Nat := 2 ^ 24

-- A chip decodes four address bytes as they are; three select a cell of the current bank.
def readStart (bank : Nat) (address : List UInt8) : Nat :=
  if address.length = 3 then bank * bankCells + byteAddress address else byteAddress address

def readEnd (chipSize bank : Nat) (address : List UInt8) : Nat :=
  if address.length = 3 then min chipSize ((bank + 1) * bankCells) else chipSize

def chipByte (device : Device) (cells : Nat → UInt8) (bank : Nat) (address : List UInt8) (index : Nat) : UInt8 :=
  let place := readStart bank address + index
  if place < readEnd device.chipSize bank address then cells place else device.past cells place

-- With both chips selected the bytes come in turn from the lower and the upper one.
def dataByte (device : Device) (state : QspiState) (address : List UInt8) (index : Nat) : UInt8 :=
  match state.select with
  | .lower => chipByte device device.lower state.lowerBank address index
  | .upper => chipByte device device.upper state.upperBank address index
  | .both =>
      if index % 2 = 0 then chipByte device device.lower state.lowerBank address (index / 2)
      else chipByte device device.upper state.upperBank address (index / 2)

-- XQspiPsu_PolledTransfer of a read command.
def polledRead (device : Device) (address : List UInt8) (dest count : Nat) (state : QspiState) : Bool × QspiState :=
  (device.succeeds state.transfers,
    { state with
      memory :=
        if device.succeeds state.transfers then Blocks.store state.memory dest count (dataByte device state address)
        else state.memory
      transfers := state.transfers + 1 })

def logicalByte (mode : ConnectionMode) (device : Device) (place : Nat) : UInt8 :=
  match mode with
  | .single => device.lower place
  | .stacked => if place < device.chipSize then device.lower place else device.upper (place - device.chipSize)
  | .parallel => if place % 2 = 0 then device.lower (place / 2) else device.upper (place / 2)

theorem byte_to_nat (word mask shift : UInt32) (low : Nat) (small : low < 32) (shifts : shift.toNat = low)
    (masks : mask.toNat = 0xFF <<< low) :
    ((word &&& mask) >>> shift).toUInt8.toNat = word.toNat / 2 ^ low % 256 := by
  rw [UInt32.toNat_toUInt8, UInt32.toNat_shiftRight, UInt32.toNat_and, shifts, masks, Nat.mod_eq_of_lt small,
    Words.masked_byte]

theorem low_byte_to_nat (word : UInt32) : (word &&& 0xFF).toUInt8.toNat = word.toNat % 256 := by
  rw [UInt32.toNat_toUInt8, UInt32.toNat_and]
  exact (congrArg (· % 256) (Nat.and_two_pow_sub_one_eq_mod word.toNat 8)).trans (Nat.mod_mod _ _)

theorem address_bytes_32 (qspiAddr : UInt32) : byteAddress (addressBytes32 qspiAddr) = qspiAddr.toNat := by
  have below := Words.below qspiAddr
  simp only [addressBytes32, byteAddress, List.foldl_cons, List.foldl_nil, low_byte_to_nat,
    byte_to_nat qspiAddr 0xFF000000 24 24 (by decide) (by decide) (by decide),
    byte_to_nat qspiAddr 0xFF0000 16 16 (by decide) (by decide) (by decide),
    byte_to_nat qspiAddr 0xFF00 8 8 (by decide) (by decide) (by decide)]
  omega

theorem address_bytes_24 (qspiAddr : UInt32) : byteAddress (addressBytes24 qspiAddr) = qspiAddr.toNat % bankCells := by
  simp only [addressBytes24, byteAddress, List.foldl_cons, List.foldl_nil, low_byte_to_nat,
    byte_to_nat qspiAddr 0xFF0000 16 16 (by decide) (by decide) (by decide),
    byte_to_nat qspiAddr 0xFF00 8 8 (by decide) (by decide) (by decide), bankCells]
  omega

theorem total_single (flashSize : UInt32) : totalFlashSize .single flashSize = flashSize := rfl

theorem total_doubled (mode : ConnectionMode) (flashSize : UInt32) (small : flashSize.toNat ≤ 2 ^ 28)
    (two : mode ≠ .single) : (totalFlashSize mode flashSize).toNat = 2 * flashSize.toNat := by
  have fits : 2 * flashSize.toNat < 2 ^ 32 := by omega
  have doubled : (2 * flashSize).toNat = 2 * flashSize.toNat := Words.mul_exact 2 flashSize fits
  cases mode with
  | single => exact absurd rfl two
  | stacked => exact doubled
  | parallel => exact doubled

theorem stacked_half (flashSize : UInt32) (small : flashSize.toNat ≤ 2 ^ 28) :
    (totalFlashSize .stacked flashSize / 2).toNat = flashSize.toNat := by
  rw [UInt32.toNat_div, total_doubled .stacked flashSize small (by decide)]
  exact Nat.mul_div_cancel_left _ (by decide)

theorem total_below (mode : ConnectionMode) (flashSize : UInt32) (small : flashSize.toNat ≤ 2 ^ 28) :
    flashSize.toNat ≤ (totalFlashSize mode flashSize).toNat ∧ (totalFlashSize mode flashSize).toNat ≤ 2 ^ 29 := by
  by_cases one : mode = .single
  · subst one
    rw [total_single]
    omega
  · rw [total_doubled mode flashSize small one]
    omega

theorem qspi_addr_single (qspiFlashSize address : UInt32) (state : QspiState) :
    getQspiAddr .single qspiFlashSize address state = (address, { state with select := .lower }) := rfl

theorem qspi_addr_parallel (qspiFlashSize address : UInt32) (state : QspiState) :
    getQspiAddr .parallel qspiFlashSize address state = (address / 2, { state with select := .both }) := rfl

theorem qspi_addr_lower (flashSize address : UInt32) (state : QspiState) (small : flashSize.toNat ≤ 2 ^ 28)
    (first : address.toNat < flashSize.toNat) :
    getQspiAddr .stacked (totalFlashSize .stacked flashSize) address state = (address, { state with select := .lower }) := by
  have below : ¬ address ≥ totalFlashSize .stacked flashSize / 2 := by
    rw [ge_iff_le, UInt32.le_iff_toNat_le, stacked_half flashSize small]
    omega
  simp only [getQspiAddr, if_neg below]

theorem qspi_addr_upper (flashSize address : UInt32) (state : QspiState) (small : flashSize.toNat ≤ 2 ^ 28)
    (second : flashSize.toNat ≤ address.toNat) :
    ∃ qspiAddr, getQspiAddr .stacked (totalFlashSize .stacked flashSize) address state =
        (qspiAddr, { state with select := .upper }) ∧ qspiAddr.toNat = address.toNat - flashSize.toNat := by
  have half := stacked_half flashSize small
  have above : address ≥ totalFlashSize .stacked flashSize / 2 := by
    rw [ge_iff_le, UInt32.le_iff_toNat_le, half]
    exact second
  refine ⟨address - totalFlashSize .stacked flashSize / 2, ?_, ?_⟩
  · simp only [getQspiAddr, if_pos above]
  · rw [Words.sub_exact _ _ (by rw [half]; exact second), half]

theorem qspi_addr_memory (mode : ConnectionMode) (qspiFlashSize address : UInt32) (state : QspiState) :
    (getQspiAddr mode qspiFlashSize address state).2.memory = state.memory := by
  cases mode with
  | single => rfl
  | stacked =>
      simp only [getQspiAddr]
      split <;> rfl
  | parallel => rfl

theorem qspi_addr_banks (mode : ConnectionMode) (qspiFlashSize address : UInt32) (state : QspiState) :
    (getQspiAddr mode qspiFlashSize address state).2.lowerBank = state.lowerBank ∧
      (getQspiAddr mode qspiFlashSize address state).2.upperBank = state.upperBank := by
  cases mode with
  | single => exact ⟨rfl, rfl⟩
  | stacked =>
      simp only [getQspiAddr]
      split <;> exact ⟨rfl, rfl⟩
  | parallel => exact ⟨rfl, rfl⟩

-- What the selected chips deliver from a place on, up to a limit, are the cells of `view`:
-- the device itself as long as each chip decodes the whole address.
def Delivers (device view : Device) (state : QspiState) (address : List UInt8) (start limit : Nat) : Prop :=
  match state.select with
  | .lower => ∀ index, start + index < limit →
      chipByte device device.lower state.lowerBank address index = view.lower (start + index)
  | .upper => ∀ index, start + index < limit →
      chipByte device device.upper state.upperBank address index = view.upper (start + index)
  | .both => ∀ index, start + index < limit →
      chipByte device device.lower state.lowerBank address index = view.lower (start + index) ∧
        chipByte device device.upper state.upperBank address index = view.upper (start + index)

def chipIndex (mode : ConnectionMode) (index : Nat) : Nat :=
  match mode with
  | .single => index
  | .stacked => index
  | .parallel => index / 2

theorem chip_byte_cell (device : Device) (cells : Nat → UInt8) (bank start limit index : Nat) (address : List UInt8)
    (reads : readStart bank address = start ∧ readEnd device.chipSize bank address = limit)
    (inside : start + index < limit) : chipByte device cells bank address index = cells (start + index) := by
  rw [chipByte, reads.1, reads.2]
  exact if_pos inside

theorem chip_byte_past (device : Device) (cells : Nat → UInt8) (bank start limit index : Nat) (address : List UInt8)
    (reads : readStart bank address = start ∧ readEnd device.chipSize bank address = limit)
    (beyond : limit ≤ start + index) : chipByte device cells bank address index = device.past cells (start + index) := by
  rw [chipByte, reads.1, reads.2]
  exact if_neg (Nat.not_lt.mpr beyond)

theorem upper_chip_begins (device : Device) : logicalByte .stacked device device.chipSize = device.upper 0 := by
  rw [logicalByte, if_neg (Nat.lt_irrefl _), Nat.sub_self]

theorem data_byte_logical (mode : ConnectionMode) (device view : Device) (flashSize src : UInt32) (state : QspiState)
    (after : QspiState) (address : List UInt8) (limit index : Nat) (chips : view.chipSize = flashSize.toNat)
    (small : flashSize.toNat ≤ 2 ^ 28) (capped : limit ≤ view.chipSize) (even : mode = .parallel → src.toNat % 2 = 0)
    (select : after.select = (getQspiAddr mode (totalFlashSize mode flashSize) src state).2.select)
    (delivers : Delivers device view after address
      (getQspiAddr mode (totalFlashSize mode flashSize) src state).1.toNat limit)
    (inside : (getQspiAddr mode (totalFlashSize mode flashSize) src state).1.toNat + chipIndex mode index < limit) :
    dataByte device after address index = logicalByte mode view (src.toNat + index) := by
  cases mode with
  | single =>
      simp only [qspi_addr_single] at select delivers inside
      simp only [Delivers, select] at delivers
      simp only [dataByte, select]
      exact delivers index inside
  | stacked =>
      by_cases first : src.toNat < flashSize.toNat
      · simp only [qspi_addr_lower flashSize src state small first] at select delivers inside
        simp only [Delivers, select] at delivers
        have lower : src.toNat + index < view.chipSize := Nat.lt_of_lt_of_le inside capped
        rw [logicalByte, if_pos lower]
        simp only [dataByte, select]
        exact delivers index inside
      · obtain ⟨qspiAddr, translated, place⟩ := qspi_addr_upper flashSize src state small (Nat.le_of_not_lt first)
        simp only [translated] at select delivers inside
        simp only [Delivers, select] at delivers
        have upper : ¬ src.toNat + index < view.chipSize := by omega
        have cell : src.toNat + index - view.chipSize = qspiAddr.toNat + index := by omega
        rw [logicalByte, if_neg upper, cell]
        simp only [dataByte, select]
        exact delivers index inside
  | parallel =>
      simp only [qspi_addr_parallel, chipIndex] at select delivers inside
      simp only [Delivers, select] at delivers
      have half : (src / 2).toNat = src.toNat / 2 := UInt32.toNat_div src 2
      have aligned := even rfl
      have turn : (src.toNat + index) % 2 = index % 2 := by omega
      have cell : (src.toNat + index) / 2 = (src / 2).toNat + index / 2 := by omega
      rw [logicalByte, turn, cell]
      simp only [dataByte, select]
      by_cases lower : index % 2 = 0
      · rw [if_pos lower, if_pos lower]
        exact (delivers (index / 2) inside).1
      · rw [if_neg lower, if_neg lower]
        exact (delivers (index / 2) inside).2

def LengthSeen (flashSize srcAddress length : UInt32) : Prop :=
  srcAddress.toNat + length.toNat < 2 ^ 32 ∨ flashSize.toNat < (srcAddress.toNat + length.toNat) % 2 ^ 32

theorem length_check (flashSize srcAddress length : UInt32)
    (seen : LengthSeen flashSize srcAddress length) :
    srcAddress + length > flashSize ↔ flashSize.toNat < srcAddress.toNat + length.toNat := by
  rw [gt_iff_lt, UInt32.lt_iff_toNat_lt, UInt32.toNat_add]
  rcases seen with exact | large
  · rw [Nat.mod_eq_of_lt exact]
  · have reduced := Nat.mod_le (srcAddress.toNat + length.toNat) (2 ^ 32)
    exact ⟨fun _ => Nat.lt_of_lt_of_le large reduced, fun _ => large⟩

theorem length_unseen (flashSize srcAddress length : UInt32) (unseen : ¬ LengthSeen flashSize srcAddress length) :
    ¬ srcAddress + length > flashSize ∧ 2 ^ 32 ≤ srcAddress.toNat + length.toNat := by
  obtain ⟨wraps, passes⟩ := not_or.mp unseen
  rw [gt_iff_lt, UInt32.lt_iff_toNat_lt, UInt32.toNat_add]
  exact ⟨passes, Nat.le_of_not_lt wraps⟩

theorem nonzero_length (length : UInt32) : length ≠ 0 ↔ 0 < length.toNat := by
  rw [Nat.pos_iff_ne_zero, ne_eq, ne_eq, ← UInt32.toNat_inj]
  rfl

def dmaTransferBytes (remainingBytes : UInt32) : UInt32 :=
  if remainingBytes > dmaDataTranSize then dmaDataTranSize else remainingBytes

theorem dma_transfer_bytes (remainingBytes : UInt32) (more : remainingBytes ≠ 0) :
    0 < (dmaTransferBytes remainingBytes).toNat ∧ (dmaTransferBytes remainingBytes).toNat ≤ remainingBytes.toNat ∧
      (dmaTransferBytes remainingBytes).toNat ≤ 2 ^ 29 := by
  have positive : 0 < remainingBytes.toNat := by
    apply Nat.pos_of_ne_zero
    intro zero
    exact more (UInt32.toNat_inj.mp zero)
  unfold dmaTransferBytes
  split
  case isTrue long =>
    have most : dmaDataTranSize.toNat < remainingBytes.toNat := long
    exact ⟨by decide, Nat.le_of_lt most, by decide⟩
  case isFalse short =>
    have most : ¬ dmaDataTranSize.toNat < remainingBytes.toNat := short
    have limit : dmaDataTranSize.toNat = 2 ^ 29 := by decide
    exact ⟨positive, Nat.le_refl _, by omega⟩

theorem polled_read_succeeds (device : Device) (address : List UInt8) (dest count : Nat) (state : QspiState)
    (succeeds : device.succeeds = fun _ => true) :
    polledRead device address dest count state =
      (true, { state with
        memory := Blocks.store state.memory dest count (dataByte device state address)
        transfers := state.transfers + 1 }) := by
  simp only [polledRead, succeeds, if_true]

-- Samples that show where a copy goes wrong: the state before the first copy, and cells of an
-- upper chip that no read past the end of an empty lower one answers.
def firstQspi : QspiState := ⟨fun _ => 0, .lower, 0, 0, 0⟩

def tellingCells (past : (Nat → UInt8) → Nat → UInt8) (chipSize _place : Nat) : UInt8 := past (fun _ => 0) chipSize + 1

theorem telling_cells_differ (past : (Nat → UInt8) → Nat → UInt8) (chipSize place : Nat) :
    tellingCells past chipSize place ≠ past (fun _ => 0) chipSize := by
  simp [tellingCells]

end LilacUxB.Fsbl
