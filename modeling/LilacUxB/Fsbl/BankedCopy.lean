import LilacUxB.Fsbl.BankSwitching

set_option autoImplicit false

namespace LilacUxB.Fsbl

theorem qspi_24_loop_success (mode : ConnectionMode) (make : FlashMake) (flashSize : UInt32) (device : Device)
    (srcAddress : UInt32) (destAddress : Nat) (remainingBytes : UInt32) (state : QspiState)
    (succeeds : device.succeeds = fun _ => true) :
    (qspi24Loop mode make flashSize device srcAddress destAddress remainingBytes state).1 = .success := by
  fun_induction qspi24Loop mode make flashSize device srcAddress destAddress remainingBytes state with
  | case1 src dest remaining state more translated selected chosen transferBytes read success ih => exact ih
  | case2 src dest remaining state more translated selected chosen transferBytes read failed =>
      have success : read.1 = true := congrArg Prod.fst (polled_read_succeeds device _ _ _ _ succeeds)
      exact absurd success failed
  | case3 src dest remaining state more translated selected refused =>
      obtain ⟨after, sent, _⟩ :=
        bank_select_succeeds mode make flashSize device translated.1 translated.2 succeeds
      exact absurd (congrArg Prod.fst sent) refused
  | case4 src dest remaining state none => rfl

theorem pass_delivers (mode : ConnectionMode) (make : FlashMake) (flashSize : UInt32) (device : Device)
    (srcAddress remainingBytes : UInt32) (state after : QspiState) (index : Nat) (sized : ChipSize flashSize)
    (chips : device.chipSize = flashSize.toNat) (more : remainingBytes ≠ 0)
    (fits : srcAddress.toNat + remainingBytes.toNat ≤ (totalFlashSize mode flashSize).toNat)
    (even : mode = .parallel → srcAddress.toNat % 2 = 0 ∧ remainingBytes.toNat % 2 = 0)
    (oneChip : OneChip mode flashSize srcAddress.toNat remainingBytes.toNat)
    (settled : BanksSettled mode make flashSize state)
    (selected : Selected mode make flashSize (getQspiAddr mode (totalFlashSize mode flashSize) srcAddress state).1
      (getQspiAddr mode (totalFlashSize mode flashSize) srcAddress state).2 after)
    (less : index < (cutToBank mode (origAddr mode (getQspiAddr mode (totalFlashSize mode flashSize) srcAddress state).1)
      (dmaTransferBytes remainingBytes)).toNat) :
    dataByte device after (addressBytes24 (getQspiAddr mode (totalFlashSize mode flashSize) srcAddress state).1) index =
      logicalByte mode (bankView make device) (srcAddress.toNat + index) := by
  have view : (bankView make device).chipSize = flashSize.toNat := (bank_view_chip make device).trans chips
  have inside := pass_inside mode flashSize srcAddress remainingBytes state index sized more fits even oneChip less
  have start : srcAddress.toNat < (totalFlashSize mode flashSize).toNat := by
    have positive := (nonzero_length remainingBytes).mp more
    omega
  have banks := qspi_addr_banks mode (totalFlashSize mode flashSize) srcAddress state
  have delivers := delivers_24 mode make flashSize _ device _ after
    (fun never => by rw [banks.1, banks.2]; exact settled never) selected
    (first_bank_address mode flashSize srcAddress state sized start)
  rw [chips] at delivers
  exact data_byte_logical mode device (bankView make device) flashSize srcAddress state after _ _ index view sized.small
    (by rw [view]; exact Nat.min_le_left _ _) (fun striped => (even striped).1) selected.select delivers inside

theorem cut_even (mode : ConnectionMode) (srcAddress remainingBytes : UInt32) (qspiFlashSize : UInt32)
    (state : QspiState) (more : remainingBytes ≠ 0) (striped : mode = .parallel)
    (even : srcAddress.toNat % 2 = 0 ∧ remainingBytes.toNat % 2 = 0) :
    (cutToBank mode (origAddr mode (getQspiAddr mode qspiFlashSize srcAddress state).1)
      (dmaTransferBytes remainingBytes)).toNat % 2 = 0 := by
  obtain ⟨_, _, short⟩ := dma_transfer_bytes remainingBytes more
  have whole : (dmaTransferBytes remainingBytes).toNat % 2 = 0 := by
    unfold dmaTransferBytes
    split
    · decide
    · exact even.2
  rw [cut_to_bank mode _ _ short]
  subst striped
  simp only [qspi_addr_parallel, origAddr, if_true, bankBytes, UInt32.toNat_mul]
  have two : (2 : UInt32).toNat = 2 := rfl
  rw [two]
  omega

theorem qspi_24_loop_delivers (mode : ConnectionMode) (make : FlashMake) (flashSize : UInt32) (device : Device)
    (srcAddress : UInt32) (destAddress : Nat) (remainingBytes : UInt32) (state : QspiState)
    (succeeds : device.succeeds = fun _ => true) (sized : ChipSize flashSize) (chips : device.chipSize = flashSize.toNat)
    (fits : srcAddress.toNat + remainingBytes.toNat ≤ (totalFlashSize mode flashSize).toNat)
    (even : mode = .parallel → srcAddress.toNat % 2 = 0 ∧ remainingBytes.toNat % 2 = 0)
    (oneChip : OneChip mode flashSize srcAddress.toNat remainingBytes.toNat)
    (settled : BanksSettled mode make flashSize state) :
    (qspi24Loop mode make flashSize device srcAddress destAddress remainingBytes state).2.memory =
        Blocks.store state.memory destAddress remainingBytes.toNat
          (fun index => logicalByte mode (bankView make device) (srcAddress.toNat + index)) ∧
      BanksSettled mode make flashSize
        (qspi24Loop mode make flashSize device srcAddress destAddress remainingBytes state).2 := by
  fun_induction qspi24Loop mode make flashSize device srcAddress destAddress remainingBytes state with
  | case1 src dest remaining state more translated selected chosen transferBytes read success ih =>
      obtain ⟨after, sent, chosen⟩ := bank_select_succeeds mode make flashSize device translated.1 translated.2 succeeds
      have banks := qspi_addr_banks mode (totalFlashSize mode flashSize) src state
      have memory := qspi_addr_memory mode (totalFlashSize mode flashSize) src state
      have within : transferBytes.toNat ≤ remaining.toNat :=
        (cut_progress mode (origAddr mode translated.1) remaining more).2
      have rest : (remaining - transferBytes).toNat = remaining.toNat - transferBytes.toNat :=
        Words.sub_exact remaining transferBytes within
      have next : (src + transferBytes).toNat = src.toNat + transferBytes.toNat := by
        refine Words.add_exact src transferBytes ?_
        have total := (total_below mode flashSize sized.small).2
        omega
      have result := polled_read_succeeds device (addressBytes24 translated.1) dest transferBytes.toNat after succeeds
      have readState : read.2 = { after with
          memory := Blocks.store after.memory dest transferBytes.toNat (dataByte device after (addressBytes24 translated.1))
          transfers := after.transfers + 1 } := by
        simp only [read, selected, sent, result]
      have kept : BanksSettled mode make flashSize read.2 := by
        rw [readState]
        exact chosen.settled (fun never => by rw [banks.1, banks.2]; exact settled never)
      have striped : mode = .parallel → transferBytes.toNat % 2 = 0 :=
        fun parallel => cut_even mode src remaining _ state more parallel (even parallel)
      obtain ⟨stored, left⟩ := ih (by omega) (fun parallel => by have := even parallel; have := striped parallel; omega)
        (fun stacked small => by have := oneChip stacked small; omega) kept
      refine ⟨?_, left⟩
      have bytes : read.2.memory = Blocks.store state.memory dest transferBytes.toNat
          (fun index => logicalByte mode (bankView make device) (src.toNat + index)) := by
        rw [readState, chosen.memory, memory]
        apply Blocks.store_congr
        intro index less
        exact pass_delivers mode make flashSize device src remaining state after index sized chips more fits even oneChip
          settled chosen less
      have whole : transferBytes.toNat + (remaining.toNat - transferBytes.toNat) = remaining.toNat :=
        Nat.add_sub_of_le within
      rw [stored, bytes, next, rest]
      simp only [Nat.add_assoc]
      rw [Blocks.store_append _ _ _ _ (fun index => logicalByte mode (bankView make device) (src.toNat + index)), whole]
  | case2 src dest remaining state more translated selected chosen transferBytes read failed =>
      have success : read.1 = true := congrArg Prod.fst (polled_read_succeeds device _ _ _ _ succeeds)
      exact absurd success failed
  | case3 src dest remaining state more translated selected refused =>
      obtain ⟨after, sent, _⟩ :=
        bank_select_succeeds mode make flashSize device translated.1 translated.2 succeeds
      exact absurd (congrArg Prod.fst sent) refused
  | case4 src dest remaining state none =>
      have zero : remaining.toNat = 0 := by
        rw [nonzero_length] at none
        omega
      rw [zero, Blocks.store_none]
      exact ⟨rfl, settled⟩

def chips24 (flashSize : UInt32) (past : (Nat → UInt8) → Nat → UInt8) (lower upper : Nat → UInt8) : Device :=
  ⟨flashSize.toNat, lower, upper, past, fun _ => true⟩

def Qspi24Copies (mode : ConnectionMode) (make : FlashMake) (flashSize : UInt32) (past : (Nat → UInt8) → Nat → UInt8)
    (srcAddress length : UInt32) : Prop :=
  ∀ (lower upper : Nat → UInt8) (destAddress : Nat) (state : QspiState), BanksSettled mode make flashSize state →
    let device := chips24 flashSize past lower upper
    let result := qspi24Copy mode make flashSize device srcAddress destAddress length state
    if srcAddress.toNat + length.toNat ≤ (totalFlashSize mode flashSize).toNat then
      result.1 = .success ∧ BanksSettled mode make flashSize result.2 ∧ result.2.memory =
        Blocks.store state.memory destAddress length.toNat (fun index => logicalByte mode device (srcAddress.toNat + index))
    else result = (.errorQspiLength, state)

def chipPlace (mode : ConnectionMode) (chipSize place : Nat) : Nat :=
  match mode with
  | .single => place
  | .stacked => if place < chipSize then place else place - chipSize
  | .parallel => place / 2

def BanksReached (mode : ConnectionMode) (make : FlashMake) (flashSize srcAddress length : UInt32) : Prop :=
  bankless make = true → ∀ index, index < length.toNat →
    chipPlace mode flashSize.toNat (srcAddress.toNat + index) < bankCells

theorem view_agrees (mode : ConnectionMode) (make : FlashMake) (device : Device) (place : Nat)
    (reached : bankless make = true → chipPlace mode device.chipSize place < bankCells) :
    logicalByte mode (bankView make device) place = logicalByte mode device place := by
  cases none : bankless make with
  | false => rw [bank_view_banked make device none]
  | true =>
      have inside := reached none
      rw [bankView, if_pos none]
      cases mode with
      | single =>
          have cell : place % bankCells = place := Nat.mod_eq_of_lt inside
          simp only [logicalByte, cell]
      | stacked =>
          by_cases lower : place < device.chipSize
          · rw [chipPlace, if_pos lower] at inside
            simp only [logicalByte, lower, if_true, Nat.mod_eq_of_lt inside]
          · rw [chipPlace, if_neg lower] at inside
            simp only [logicalByte, lower, if_false, Nat.mod_eq_of_lt inside]
      | parallel =>
          have cell : place / 2 % bankCells = place / 2 := Nat.mod_eq_of_lt inside
          simp only [logicalByte, cell]

def markedCells (place : Nat) : UInt8 := if place < bankCells then 0 else 1

theorem view_differs (mode : ConnectionMode) (make : FlashMake) (flashSize : UInt32)
    (past : (Nat → UInt8) → Nat → UInt8) (place : Nat) (none : bankless make = true)
    (beyond : bankCells ≤ chipPlace mode flashSize.toNat place) :
    logicalByte mode (bankView make (chips24 flashSize past markedCells markedCells)) place ≠
      logicalByte mode (chips24 flashSize past markedCells markedCells) place := by
  have first (cell : Nat) : markedCells (cell % bankCells) = 0 := if_pos (Nat.mod_lt cell (by decide))
  have later (cell : Nat) (above : bankCells ≤ cell) : markedCells cell = 1 := if_neg (Nat.not_lt.mpr above)
  rw [bankView, if_pos none]
  cases mode with
  | single =>
      simp only [logicalByte, chips24, first, later place beyond]
      decide
  | stacked =>
      by_cases lower : place < flashSize.toNat
      · rw [chipPlace, if_pos lower] at beyond
        simp only [logicalByte, chips24, lower, if_true, first, later _ beyond]
        decide
      · rw [chipPlace, if_neg lower] at beyond
        simp only [logicalByte, chips24, lower, if_false, first, later _ beyond]
        decide
  | parallel =>
      have other : markedCells (place / 2) = 1 := later (place / 2) beyond
      simp only [logicalByte, chips24, first, other, ite_self]
      decide

theorem qspi_24_copy_delivers (mode : ConnectionMode) (make : FlashMake) (flashSize : UInt32) (device : Device)
    (srcAddress length : UInt32) (destAddress : Nat) (state : QspiState) (succeeds : device.succeeds = fun _ => true)
    (sized : ChipSize flashSize) (chips : device.chipSize = flashSize.toNat)
    (fits : srcAddress.toNat + length.toNat ≤ (totalFlashSize mode flashSize).toNat)
    (even : mode = .parallel → srcAddress.toNat % 2 = 0 ∧ length.toNat % 2 = 0)
    (oneChip : OneChip mode flashSize srcAddress.toNat length.toNat) (settled : BanksSettled mode make flashSize state) :
    (qspi24Copy mode make flashSize device srcAddress destAddress length state).1 = .success ∧
      BanksSettled mode make flashSize (qspi24Copy mode make flashSize device srcAddress destAddress length state).2 ∧
      (qspi24Copy mode make flashSize device srcAddress destAddress length state).2.memory =
        Blocks.store state.memory destAddress length.toNat
          (fun index => logicalByte mode (bankView make device) (srcAddress.toNat + index)) := by
  have total := (total_below mode flashSize sized.small).2
  have seen : LengthSeen (totalFlashSize mode flashSize) srcAddress length := .inl (by omega)
  have passes : ¬ srcAddress + length > totalFlashSize mode flashSize := by
    rw [length_check _ _ _ seen]
    exact Nat.not_lt.mpr fits
  rw [qspi24Copy, if_neg passes]
  obtain ⟨stored, left⟩ := qspi_24_loop_delivers mode make flashSize device srcAddress destAddress length state succeeds
    sized chips fits even oneChip settled
  exact ⟨qspi_24_loop_success mode make flashSize device srcAddress destAddress length state succeeds, left, stored⟩

theorem unseen_differs_24 (mode : ConnectionMode) (make : FlashMake) (flashSize : UInt32)
    (past : (Nat → UInt8) → Nat → UInt8) (srcAddress length : UInt32) (sized : ChipSize flashSize)
    (unseen : ¬ LengthSeen (totalFlashSize mode flashSize) srcAddress length) :
    ¬ Qspi24Copies mode make flashSize past srcAddress length := by
  intro copies
  obtain ⟨passes, wraps⟩ := length_unseen _ _ _ unseen
  have size := (total_below mode flashSize sized.small).2
  have tooLong : ¬ srcAddress.toNat + length.toNat ≤ (totalFlashSize mode flashSize).toNat := by omega
  have result := copies (fun _ => 0) (fun _ => 0) 0 firstQspi (fun _ => ⟨rfl, rfl⟩)
  simp only [if_neg tooLong, qspi24Copy, if_neg passes] at result
  have success := qspi_24_loop_success mode make flashSize (chips24 flashSize past (fun _ => 0) (fun _ => 0)) srcAddress 0
    length firstQspi rfl
  rw [result] at success
  cases success

theorem unreached_differs (mode : ConnectionMode) (make : FlashMake) (flashSize : UInt32)
    (past : (Nat → UInt8) → Nat → UInt8) (srcAddress length : UInt32) (sized : ChipSize flashSize)
    (fits : srcAddress.toNat + length.toNat ≤ (totalFlashSize mode flashSize).toNat)
    (even : mode = .parallel → srcAddress.toNat % 2 = 0 ∧ length.toNat % 2 = 0)
    (oneChip : OneChip mode flashSize srcAddress.toNat length.toNat) (none : bankless make = true) (index : Nat)
    (less : index < length.toNat) (beyond : bankCells ≤ chipPlace mode flashSize.toNat (srcAddress.toNat + index)) :
    ¬ Qspi24Copies mode make flashSize past srcAddress length := by
  intro copies
  have start : BanksSettled mode make flashSize firstQspi := fun _ => ⟨rfl, rfl⟩
  have result := copies markedCells markedCells 0 firstQspi start
  simp only [if_pos fits] at result
  have delivered := qspi_24_copy_delivers mode make flashSize (chips24 flashSize past markedCells markedCells) srcAddress
    length 0 firstQspi rfl sized rfl fits even oneChip start
  have same := congrFun (delivered.2.2.symm.trans result.2.2) (0 + index)
  rw [Blocks.store_inside _ _ _ _ _ less, Blocks.store_inside _ _ _ _ _ less] at same
  exact view_differs mode make flashSize past (srcAddress.toNat + index) none beyond same

-- Stacked chips of 8 MB make up one bank, so that the boundary between them is crossed in one pass.
theorem small_chips_one_pass (make : FlashMake) (device : Device) (srcAddress length : UInt32) (destAddress : Nat)
    (state : QspiState) (flashSize : UInt32) (succeeds : device.succeeds = fun _ => true)
    (eight : flashSize.toNat = 2 ^ 23) (more : length ≠ 0) (lowerChip : srcAddress.toNat < flashSize.toNat)
    (fits : srcAddress.toNat + length.toNat ≤ (totalFlashSize .stacked flashSize).toNat) :
    (qspi24Loop .stacked make flashSize device srcAddress destAddress length state).2.memory =
      Blocks.store state.memory destAddress length.toNat
        (dataByte device { state with select := .lower } (addressBytes24 srcAddress)) := by
  have small : flashSize.toNat ≤ 2 ^ 28 := by omega
  have doubled := total_doubled .stacked flashSize small (by decide)
  have oneBank : ¬ totalFlashSize .stacked flashSize > bankSize .stacked := by
    rw [gt_iff_lt, UInt32.lt_iff_toNat_lt, doubled, bank_size_nat]
    simp only [bankBytes, reduceCtorEq, if_false]
    omega
  obtain ⟨_, within, short⟩ := dma_transfer_bytes length more
  have unlimited : dmaTransferBytes length = length := by
    rw [dmaTransferBytes, if_neg]
    have limit : dmaDataTranSize.toNat = 2 ^ 29 := by decide
    rw [gt_iff_lt, UInt32.lt_iff_toNat_lt]
    omega
  have whole : cutToBank .stacked (origAddr .stacked srcAddress) (dmaTransferBytes length) = length := by
    apply UInt32.toNat_inj.mp
    rw [cut_to_bank _ _ _ short, unlimited]
    simp only [origAddr, bankBytes, reduceCtorEq, if_false]
    omega
  have none : ¬ length - length ≠ 0 := by simp
  rw [qspi24Loop, dif_pos more]
  simp only [qspi_addr_lower flashSize srcAddress state small lowerChip, selectBank, if_neg oneBank, if_true, whole,
    polled_read_succeeds device _ _ _ _ succeeds]
  rw [qspi24Loop, dif_neg none]

theorem bank_boundary_read_past (device : Device) (srcAddress : UInt32) (state : QspiState) (first : state.lowerBank = 0)
    (chips : device.chipSize ≤ bankCells) (lowerChip : srcAddress.toNat < device.chipSize) :
    dataByte device { state with select := .lower } (addressBytes24 srcAddress) (device.chipSize - srcAddress.toNat) =
      device.past device.lower device.chipSize := by
  have boundary : srcAddress.toNat + (device.chipSize - srcAddress.toNat) = device.chipSize := by omega
  have reads := reads_24 device.chipSize 0 srcAddress
  rw [Nat.zero_mul, Nat.zero_add, Nat.zero_add, Nat.one_mul, Nat.min_eq_left chips,
    Nat.mod_eq_of_lt (Nat.lt_of_lt_of_le lowerChip chips)] at reads
  have beyond := chip_byte_past device device.lower 0 _ _ _ _ reads (Nat.le_of_eq boundary.symm)
  simpa only [dataByte, first, boundary] using beyond

theorem straddle_differs_24 (make : FlashMake) (flashSize : UInt32) (past : (Nat → UInt8) → Nat → UInt8)
    (srcAddress length : UInt32) (eight : flashSize.toNat = 2 ^ 23)
    (fits : srcAddress.toNat + length.toNat ≤ (totalFlashSize .stacked flashSize).toNat)
    (lowerChip : srcAddress.toNat < flashSize.toNat) (upperChip : flashSize.toNat < srcAddress.toNat + length.toNat) :
    ¬ Qspi24Copies .stacked make flashSize past srcAddress length := by
  intro copies
  have total := (total_below .stacked flashSize (by omega)).2
  have result := copies (fun _ => 0) (tellingCells past flashSize.toNat) 0 firstQspi
    (fun _ => ⟨rfl, rfl⟩)
  simp only [if_pos fits] at result
  have seen : LengthSeen (totalFlashSize .stacked flashSize) srcAddress length := .inl (by omega)
  have passes : ¬ srcAddress + length > totalFlashSize .stacked flashSize := by
    rw [length_check _ _ _ seen]
    omega
  have more : length ≠ 0 := (nonzero_length length).mpr (by omega)
  have read := small_chips_one_pass make
    (chips24 flashSize past (fun _ => 0) (tellingCells past flashSize.toNat)) srcAddress length 0
    firstQspi flashSize rfl eight more lowerChip fits
  simp only [qspi24Copy, if_neg passes] at result
  have same := congrFun (result.2.2.symm.trans read) (0 + (flashSize.toNat - srcAddress.toNat))
  have reached : flashSize.toNat - srcAddress.toNat < length.toNat := by omega
  have boundary : srcAddress.toNat + (flashSize.toNat - srcAddress.toNat) = flashSize.toNat := by omega
  have cells : flashSize.toNat ≤ bankCells := eight.trans_le (by decide)
  have past24 := bank_boundary_read_past (chips24 flashSize past (fun _ => 0) (tellingCells past flashSize.toNat))
    srcAddress firstQspi rfl cells lowerChip
  have upper := upper_chip_begins (chips24 flashSize past (fun _ => 0) (tellingCells past flashSize.toNat))
  simp only [chips24] at upper past24 same
  rw [Blocks.store_inside _ _ _ _ _ reached, Blocks.store_inside _ _ _ _ _ reached, boundary, upper, past24] at same
  exact telling_cells_differ past _ 0 same

theorem qspi_24_copy_exactly (mode : ConnectionMode) (makeId sizeId : UInt8) (make : FlashMake) (flashSize : UInt32)
    (accepted : flashReadID makeId sizeId = .ok (make, flashSize)) (past : (Nat → UInt8) → Nat → UInt8)
    (srcAddress length : UInt32) (even : mode = .parallel → srcAddress.toNat % 2 = 0 ∧ length.toNat % 2 = 0) :
    Qspi24Copies mode make flashSize past srcAddress length ↔
      LengthSeen (totalFlashSize mode flashSize) srcAddress length ∧
        (srcAddress.toNat + length.toNat ≤ (totalFlashSize mode flashSize).toNat →
          OneChip mode flashSize srcAddress.toNat length.toNat ∧
            BanksReached mode make flashSize srcAddress length) := by
  have sized := accepted_sized makeId sizeId make flashSize accepted
  constructor
  · intro copies
    constructor
    · by_contra unseen
      exact unseen_differs_24 mode make flashSize past srcAddress length sized unseen copies
    · intro fits
      have oneChip : OneChip mode flashSize srcAddress.toNat length.toNat := by
        rintro rfl small ⟨lowerChip, upperChip⟩
        have eight : flashSize.toNat = 2 ^ 23 := by
          have banks := sized.banks
          omega
        exact straddle_differs_24 make flashSize past srcAddress length eight fits lowerChip upperChip copies
      refine ⟨oneChip, ?_⟩
      intro none index less
      by_contra beyond
      exact unreached_differs mode make flashSize past srcAddress length sized fits even oneChip none index less
        (Nat.le_of_not_lt beyond) copies
  · rintro ⟨seen, inside⟩ lower upper destAddress state settled
    have check := length_check _ _ _ seen
    by_cases fits : srcAddress.toNat + length.toNat ≤ (totalFlashSize mode flashSize).toNat
    · obtain ⟨oneChip, reached⟩ := inside fits
      obtain ⟨success, left, stored⟩ := qspi_24_copy_delivers mode make flashSize (chips24 flashSize past lower upper)
        srcAddress length destAddress state rfl sized rfl fits even oneChip settled
      simp only [if_pos fits]
      refine ⟨success, left, stored.trans (Blocks.store_congr _ _ _ _ _ ?_)⟩
      intro index less
      exact view_agrees mode make (chips24 flashSize past lower upper) _ (fun none => reached none index less)
    · have refused : srcAddress + length > totalFlashSize mode flashSize := check.mpr (Nat.lt_of_not_le fits)
      simp only [if_neg fits, qspi24Copy, if_pos refused]

theorem stacked_banks_copied : Qspi24Copies .stacked .spansion 0x2000000 (fun _ _ => 0) 0x0FFFFFF 0x2000000 :=
  (qspi_24_copy_exactly .stacked 0x01 0x19 .spansion 0x2000000 rfl (fun _ _ => 0) 0x0FFFFFF 0x2000000
    (fun striped => by cases striped)).mpr
    ⟨.inl (by decide), fun _ => ⟨fun _ small => absurd small (by decide), fun none => by cases none⟩⟩

-- A sum that wraps, two 8 MB chips across their boundary, and a 32 MB Winbond chip in its second bank.
theorem qspi_24_copy_fails :
    ¬ Qspi24Copies .single .micron flashSize128M (fun _ _ => 0) 0xFFFFFFFF 2 ∧
      ¬ Qspi24Copies .stacked .micron flashSize64M (fun _ _ => 0) 0x7FFFFF 2 ∧
      ¬ Qspi24Copies .single .winbond flashSize256M (fun _ _ => 0) 0x1000000 4 := by
  refine ⟨?_, ?_, ?_⟩
  · exact unseen_differs_24 .single .micron flashSize128M _ _ _ ⟨by decide, by decide⟩ (by unfold LengthSeen; decide)
  · exact straddle_differs_24 .micron flashSize64M _ _ _ (by decide) (by decide) (by decide) (by decide)
  · exact unreached_differs .single .winbond flashSize256M _ _ _ ⟨by decide, by decide⟩ (by decide)
      (fun striped => by cases striped) (fun stacked => by cases stacked) rfl 0 (by decide) (by decide)

end LilacUxB.Fsbl
