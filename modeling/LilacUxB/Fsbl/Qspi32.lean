import LilacUxB.Fsbl.Qspi

set_option autoImplicit false

-- XFsbl_Qspi32Copy and the flash size that XFsbl_Qspi32Init sets without reading the flash ID.
namespace LilacUxB.Fsbl

def qspi32FlashSize (mode : ConnectionMode) : UInt32 := totalFlashSize mode flashSize512M

def qspi32Loop (mode : ConnectionMode) (device : Device) (srcAddress : UInt32) (destAddress : Nat)
    (remainingBytes : UInt32) (state : QspiState) : QspiStatus × QspiState :=
  if _more : remainingBytes ≠ 0 then
    let transferBytes := dmaTransferBytes remainingBytes
    let translated := getQspiAddr mode (qspi32FlashSize mode) srcAddress state
    let read := polledRead device (addressBytes32 translated.1) destAddress transferBytes.toNat translated.2
    if read.1 then
      qspi32Loop mode device (srcAddress + transferBytes) (destAddress + transferBytes.toNat)
        (remainingBytes - transferBytes) read.2
    else (.errorQspiRead, read.2)
  else (.success, state)
termination_by remainingBytes.toNat
decreasing_by
  have bounds := dma_transfer_bytes remainingBytes _more
  rw [Words.sub_exact _ _ bounds.2.1]
  omega

def qspi32Copy (mode : ConnectionMode) (device : Device) (srcAddress : UInt32) (destAddress : Nat) (length : UInt32)
    (state : QspiState) : QspiStatus × QspiState :=
  if srcAddress + length > qspi32FlashSize mode then (.errorQspiLength, state)
  else qspi32Loop mode device srcAddress destAddress length state

theorem qspi_32_loop_success (mode : ConnectionMode) (device : Device) (srcAddress : UInt32) (destAddress : Nat)
    (remainingBytes : UInt32) (state : QspiState) (succeeds : device.succeeds = fun _ => true) :
    (qspi32Loop mode device srcAddress destAddress remainingBytes state).1 = .success := by
  fun_induction qspi32Loop with
  | case1 src dest remaining state more transferBytes translated read success ih => exact ih
  | case2 src dest remaining state more transferBytes translated read failed =>
      have success : read.1 = true := congrArg Prod.fst (polled_read_succeeds device _ _ _ _ succeeds)
      exact absurd success failed
  | case3 src dest remaining state none => rfl

theorem qspi_32_loop_once (mode : ConnectionMode) (device : Device) (srcAddress : UInt32) (destAddress : Nat)
    (length : UInt32) (state : QspiState) (succeeds : device.succeeds = fun _ => true) (more : length ≠ 0)
    (short : length.toNat ≤ dmaDataTranSize.toNat) :
    (qspi32Loop mode device srcAddress destAddress length state).2.memory =
      Blocks.store state.memory destAddress length.toNat
        (dataByte device (getQspiAddr mode (qspi32FlashSize mode) srcAddress state).2
          (addressBytes32 (getQspiAddr mode (qspi32FlashSize mode) srcAddress state).1)) := by
  have whole : dmaTransferBytes length = length := by
    rw [dmaTransferBytes, if_neg]
    exact Nat.not_lt.mpr short
  have kept := qspi_addr_memory mode (qspi32FlashSize mode) srcAddress state
  have none : ¬ length - length ≠ 0 := by simp
  rw [qspi32Loop, dif_pos more]
  simp only [whole, polled_read_succeeds device _ _ _ _ succeeds, if_true, kept]
  rw [qspi32Loop, dif_neg none]

theorem reads_32 (chipSize bank : Nat) (qspiAddr : UInt32) :
    readStart bank (addressBytes32 qspiAddr) = qspiAddr.toNat ∧
      readEnd chipSize bank (addressBytes32 qspiAddr) = chipSize :=
  ⟨address_bytes_32 qspiAddr, rfl⟩

theorem delivers_32 (device : Device) (state : QspiState) (qspiAddr : UInt32) :
    Delivers device device state (addressBytes32 qspiAddr) qspiAddr.toNat device.chipSize := by
  have cells (contents : Nat → UInt8) (bank index : Nat) (inside : qspiAddr.toNat + index < device.chipSize) :
      chipByte device contents bank (addressBytes32 qspiAddr) index = contents (qspiAddr.toNat + index) :=
    chip_byte_cell device contents bank _ _ index _ (reads_32 device.chipSize bank qspiAddr) inside
  cases selected : state.select <;> simp only [Delivers, selected]
  case lower => exact cells device.lower state.lowerBank
  case upper => exact cells device.upper state.upperBank
  case both =>
    intro index inside
    exact ⟨cells device.lower state.lowerBank index inside, cells device.upper state.upperBank index inside⟩

-- The 512 Mbit chips the copy takes for granted.
def chips32 (past : (Nat → UInt8) → Nat → UInt8) (lower upper : Nat → UInt8) : Device :=
  ⟨flashSize512M.toNat, lower, upper, past, fun _ => true⟩

def Qspi32Copies (mode : ConnectionMode) (past : (Nat → UInt8) → Nat → UInt8) (srcAddress length : UInt32) : Prop :=
  ∀ (lower upper : Nat → UInt8) (destAddress : Nat) (state : QspiState),
    let device := chips32 past lower upper
    let result := qspi32Copy mode device srcAddress destAddress length state
    if srcAddress.toNat + length.toNat ≤ (qspi32FlashSize mode).toNat then
      result.1 = .success ∧ result.2.memory =
        Blocks.store state.memory destAddress length.toNat (fun index => logicalByte mode device (srcAddress.toNat + index))
    else result = (.errorQspiLength, state)

def WithinOneChip (mode : ConnectionMode) (chipSize flashSize srcAddress length : UInt32) : Prop :=
  mode = .stacked → srcAddress.toNat + length.toNat ≤ flashSize.toNat →
    ¬ (srcAddress.toNat < chipSize.toNat ∧ chipSize.toNat < srcAddress.toNat + length.toNat)

theorem qspi_32_one_pass (mode : ConnectionMode) (device : Device) (srcAddress : UInt32) (destAddress : Nat)
    (length : UInt32) (state : QspiState) (succeeds : device.succeeds = fun _ => true)
    (fits : srcAddress.toNat + length.toNat ≤ (qspi32FlashSize mode).toNat)
    (passes : ¬ srcAddress + length > qspi32FlashSize mode) (small : (qspi32FlashSize mode).toNat ≤ 2 ^ 29) :
    (qspi32Copy mode device srcAddress destAddress length state).2.memory =
      Blocks.store state.memory destAddress length.toNat
        (dataByte device (getQspiAddr mode (qspi32FlashSize mode) srcAddress state).2
          (addressBytes32 (getQspiAddr mode (qspi32FlashSize mode) srcAddress state).1)) := by
  rw [qspi32Copy, if_neg passes]
  by_cases more : length ≠ 0
  · have short : length.toNat ≤ dmaDataTranSize.toNat := by
      have limit : dmaDataTranSize.toNat = 2 ^ 29 := by decide
      omega
    exact qspi_32_loop_once mode device srcAddress destAddress length state succeeds more short
  · have zero : length.toNat = 0 := by
      rw [nonzero_length] at more
      omega
    rw [qspi32Loop, dif_neg more, zero, Blocks.store_none]

theorem size_32 (mode : ConnectionMode) : (qspi32FlashSize mode).toNat ≤ 2 ^ 29 :=
  (total_below mode flashSize512M (by decide)).2

theorem chip_read_32 (mode : ConnectionMode) (past : (Nat → UInt8) → Nat → UInt8) (lower upper : Nat → UInt8)
    (srcAddress length : UInt32) (state : QspiState) (index : Nat) (less : index < length.toNat)
    (even : mode = .parallel → srcAddress.toNat % 2 = 0 ∧ length.toNat % 2 = 0)
    (fits : srcAddress.toNat + length.toNat ≤ (qspi32FlashSize mode).toNat)
    (within : WithinOneChip mode flashSize512M (qspi32FlashSize mode) srcAddress length) :
    (getQspiAddr mode (qspi32FlashSize mode) srcAddress state).1.toNat + chipIndex mode index <
      (chips32 past lower upper).chipSize := by
  have chip : (chips32 past lower upper).chipSize = flashSize512M.toNat := rfl
  have small : flashSize512M.toNat ≤ 2 ^ 28 := by decide
  rw [chip]
  cases mode with
  | single =>
      have total : (qspi32FlashSize .single).toNat = flashSize512M.toNat := rfl
      simp only [qspi_addr_single, chipIndex]
      omega
  | stacked =>
      have total : (qspi32FlashSize .stacked).toNat = 2 * flashSize512M.toNat := by decide
      have apart := within rfl fits
      by_cases first : srcAddress.toNat < flashSize512M.toNat
      · simp only [qspi32FlashSize, qspi_addr_lower flashSize512M srcAddress state small first, chipIndex]
        omega
      · obtain ⟨qspiAddr, translated, place⟩ :=
          qspi_addr_upper flashSize512M srcAddress state small (Nat.le_of_not_lt first)
        simp only [qspi32FlashSize, translated, chipIndex, place]
        omega
  | parallel =>
      have total : (qspi32FlashSize .parallel).toNat = 2 * flashSize512M.toNat := by decide
      have half : (srcAddress / 2).toNat = srcAddress.toNat / 2 := UInt32.toNat_div srcAddress 2
      have pairs := even rfl
      simp only [qspi_addr_parallel, chipIndex, half]
      omega

theorem boundary_read_past (device : Device) (flashSize srcAddress : UInt32) (state : QspiState)
    (chips : device.chipSize = flashSize.toNat) (small : flashSize.toNat ≤ 2 ^ 28)
    (lowerChip : srcAddress.toNat < flashSize.toNat) :
    dataByte device (getQspiAddr .stacked (totalFlashSize .stacked flashSize) srcAddress state).2
      (addressBytes32 (getQspiAddr .stacked (totalFlashSize .stacked flashSize) srcAddress state).1)
      (flashSize.toNat - srcAddress.toNat) = device.past device.lower device.chipSize := by
  have boundary : srcAddress.toNat + (flashSize.toNat - srcAddress.toNat) = device.chipSize := by omega
  have reads := reads_32 device.chipSize state.lowerBank srcAddress
  rw [qspi_addr_lower flashSize srcAddress state small lowerChip]
  refine (chip_byte_past device device.lower state.lowerBank _ _ _ _ reads (Nat.le_of_eq boundary.symm)).trans ?_
  rw [boundary]

-- A read across the end of the lower chip: some contents of the upper one tell the difference.
theorem straddle_differs (past : (Nat → UInt8) → Nat → UInt8) (srcAddress length : UInt32)
    (seen : LengthSeen (qspi32FlashSize .stacked) srcAddress length)
    (fits : srcAddress.toNat + length.toNat ≤ (qspi32FlashSize .stacked).toNat)
    (lowerChip : srcAddress.toNat < flashSize512M.toNat)
    (upperChip : flashSize512M.toNat < srcAddress.toNat + length.toNat) :
    ¬ Qspi32Copies .stacked past srcAddress length := by
  intro copies
  have result := copies (fun _ => 0) (tellingCells past flashSize512M.toNat) 0 firstQspi
  simp only [if_pos fits] at result
  have passes : ¬ srcAddress + length > qspi32FlashSize .stacked := by
    rw [length_check _ _ _ seen]
    omega
  have read := qspi_32_one_pass .stacked
    (chips32 past (fun _ => 0) (tellingCells past flashSize512M.toNat)) srcAddress 0 length
    firstQspi rfl fits passes (size_32 .stacked)
  have same := congrFun (result.2.symm.trans read) (0 + (flashSize512M.toNat - srcAddress.toNat))
  have reached : flashSize512M.toNat - srcAddress.toNat < length.toNat := by omega
  have boundary : srcAddress.toNat + (flashSize512M.toNat - srcAddress.toNat) =
      (chips32 past (fun _ => 0) (tellingCells past flashSize512M.toNat)).chipSize :=
    Nat.add_sub_of_le (Nat.le_of_lt lowerChip)
  rw [Blocks.store_inside _ _ _ _ _ reached, Blocks.store_inside _ _ _ _ _ reached, boundary, upper_chip_begins,
    qspi32FlashSize, boundary_read_past _ flashSize512M srcAddress _ rfl (by decide) lowerChip] at same
  exact telling_cells_differ past _ 0 same

theorem unseen_differs (mode : ConnectionMode) (past : (Nat → UInt8) → Nat → UInt8) (srcAddress length : UInt32)
    (unseen : ¬ LengthSeen (qspi32FlashSize mode) srcAddress length) : ¬ Qspi32Copies mode past srcAddress length := by
  intro copies
  obtain ⟨passes, wraps⟩ := length_unseen _ _ _ unseen
  have size := size_32 mode
  have tooLong : ¬ srcAddress.toNat + length.toNat ≤ (qspi32FlashSize mode).toNat := by omega
  have result := copies (fun _ => 0) (fun _ => 0) 0 firstQspi
  simp only [if_neg tooLong, qspi32Copy, if_neg passes] at result
  have success := qspi_32_loop_success mode (chips32 past (fun _ => 0) (fun _ => 0)) srcAddress 0 length
    firstQspi rfl
  rw [result] at success
  cases success

theorem qspi_32_copy_exactly (mode : ConnectionMode) (past : (Nat → UInt8) → Nat → UInt8) (srcAddress length : UInt32)
    (even : mode = .parallel → srcAddress.toNat % 2 = 0 ∧ length.toNat % 2 = 0) :
    Qspi32Copies mode past srcAddress length ↔
      LengthSeen (qspi32FlashSize mode) srcAddress length ∧
        WithinOneChip mode flashSize512M (qspi32FlashSize mode) srcAddress length := by
  have size := size_32 mode
  constructor
  · intro copies
    have seen : LengthSeen (qspi32FlashSize mode) srcAddress length := by
      by_contra unseen
      exact unseen_differs mode past srcAddress length unseen copies
    refine ⟨seen, ?_⟩
    rintro rfl fits ⟨lowerChip, upperChip⟩
    exact straddle_differs past srcAddress length seen fits lowerChip upperChip copies
  · rintro ⟨seen, within⟩ lower upper destAddress state
    have check := length_check _ _ _ seen
    by_cases fits : srcAddress.toNat + length.toNat ≤ (qspi32FlashSize mode).toNat
    · have passes : ¬ srcAddress + length > qspi32FlashSize mode := by
        rw [check]
        exact Nat.not_lt.mpr fits
      simp only [if_pos fits]
      constructor
      · rw [qspi32Copy, if_neg passes]
        exact qspi_32_loop_success mode _ srcAddress destAddress length state rfl
      · rw [qspi_32_one_pass mode _ srcAddress destAddress length state rfl fits passes size]
        apply Blocks.store_congr
        intro index less
        exact data_byte_logical mode (chips32 past lower upper) (chips32 past lower upper) flashSize512M srcAddress state
          _ _ (chips32 past lower upper).chipSize index rfl (by decide) (Nat.le_refl _) (fun striped => (even striped).1)
          rfl (delivers_32 _ _ _) (chip_read_32 mode past lower upper srcAddress length state index less even fits within)
    · have refused : srcAddress + length > qspi32FlashSize mode := check.mpr (Nat.lt_of_not_le fits)
      simp only [if_neg fits, qspi32Copy, if_pos refused]

theorem striped_range_copied : Qspi32Copies .parallel (fun _ _ => 0) 4096 65536 :=
  (qspi_32_copy_exactly .parallel (fun _ _ => 0) 4096 65536 (fun _ => by decide)).mpr
    ⟨.inl (by decide), fun stacked => by cases stacked⟩

-- Two bytes from the last address of all, and the two around the boundary of stacked chips.
theorem qspi_32_copy_fails :
    ¬ Qspi32Copies .single (fun _ _ => 0) 0xFFFFFFFF 2 ∧ ¬ Qspi32Copies .stacked (fun _ _ => 0) 0x3FFFFFF 2 :=
  ⟨unseen_differs .single _ _ _ (by unfold LengthSeen; decide),
    straddle_differs _ _ _ (.inl (by decide)) (by decide) (by decide) (by decide)⟩

end LilacUxB.Fsbl
