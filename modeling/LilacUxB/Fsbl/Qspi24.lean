import LilacUxB.Fsbl.Qspi

set_option autoImplicit false

-- FlashReadID, SendBankSelect and XFsbl_Qspi24Copy.
namespace LilacUxB.Fsbl

inductive FlashMake where
  | micron | spansion | winbond | macronix | issi
deriving DecidableEq, Repr

def micronId : UInt8 := 0x20
def spansionId : UInt8 := 0x01
def winbondId : UInt8 := 0xEF
def macronixId : UInt8 := 0xC2
def issiId : UInt8 := 0x9D

def flashMake (id : UInt8) : Option FlashMake :=
  if id = micronId then some .micron
  else if id = spansionId then some .spansion
  else if id = winbondId then some .winbond
  else if id = macronixId then some .macronix
  else if id = issiId then some .issi
  else none

-- 64M to 2G; Macronix has its own identifiers for 512M and 1G.
def flashSizeOf (id : UInt8) : Option UInt32 :=
  if id = 0x17 then some flashSize64M
  else if id = 0x18 then some flashSize128M
  else if id = 0x19 then some flashSize256M
  else if id = 0x20 ∨ id = 0x1A then some flashSize512M
  else if id = 0x21 ∨ id = 0x1B then some flashSize1G
  else if id = 0x22 then some flashSize2G
  else none

-- From the bytes 0 and 2 of the answer to READ_ID_CMD.
def flashReadID (makeId sizeId : UInt8) : Except QspiStatus (FlashMake × UInt32) :=
  match flashMake makeId with
  | none => .error .errorUnsupportedQspi
  | some make =>
      match flashSizeOf sizeId with
      | none => .error .errorUnsupportedQspi
      | some size => .ok (make, size)

def bankSize (mode : ConnectionMode) : UInt32 := if mode = .parallel then 0x1000000 * 2 else 0x1000000

def bankMask (mode : ConnectionMode) : UInt32 := if mode = .parallel then 0xFF000000 * 2 else 0xFF000000

def origAddr (mode : ConnectionMode) (qspiAddr : UInt32) : UInt32 :=
  if mode = .parallel then qspiAddr * 2 else qspiAddr

-- XQspiPsu_PolledTransfer of a command without data.
def polledCommand (device : Device) (state : QspiState) : Bool × QspiState :=
  (device.succeeds state.transfers, { state with transfers := state.transfers + 1 })

def writeBank (state : QspiState) (bank : Nat) : QspiState :=
  match state.select with
  | .lower => { state with lowerBank := bank }
  | .upper => { state with upperBank := bank }
  | .both => { state with lowerBank := bank, upperBank := bank }

def readBank (state : QspiState) : Nat :=
  match state.select with
  | .lower => state.lowerBank
  | .upper => state.upperBank
  | .both => state.lowerBank

def polledBankWrite (device : Device) (bankSel : UInt32) (state : QspiState) : Bool × QspiState :=
  let sent := polledCommand device state
  (sent.1, if sent.1 then writeBank sent.2 bankSel.toUInt8.toNat else sent.2)

-- Micron and Macronix: write enable, extended address register write, and a read whose
-- answer is not looked at. Spansion: bank register write, and a read that must agree.
def sendBankSelect (make : FlashMake) (device : Device) (bankSel : UInt32) (state : QspiState) : Bool × QspiState :=
  match make with
  | .micron | .macronix =>
      let enabled := polledCommand device state
      if enabled.1 then
        let written := polledBankWrite device bankSel enabled.2
        if written.1 then polledCommand device written.2 else (false, written.2)
      else (false, enabled.2)
  | .spansion =>
      let written := polledBankWrite device bankSel state
      if written.1 then
        let register := polledCommand device written.2
        (register.1 && decide (readBank register.2 = bankSel.toNat), register.2)
      else (false, written.2)
  | .winbond | .issi => (true, state)

def cutToBank (mode : ConnectionMode) (address transferBytes : UInt32) : UInt32 :=
  if address &&& bankMask mode ≠ (address + transferBytes) &&& bankMask mode then
    (address &&& bankMask mode) + bankSize mode - address
  else transferBytes

def bankBytes (mode : ConnectionMode) : Nat := if mode = .parallel then 2 ^ 25 else 2 ^ 24

theorem bank_size_nat (mode : ConnectionMode) : (bankSize mode).toNat = bankBytes mode := by
  cases mode <;> rfl

theorem bank_mask_nat (mode : ConnectionMode) (address : UInt32) :
    (address &&& bankMask mode).toNat = address.toNat / bankBytes mode * bankBytes mode := by
  have below := Words.below address
  rw [UInt32.toNat_and]
  by_cases striped : mode = .parallel
  · subst striped
    exact Words.and_high_mask 25 7 address.toNat below
  · have mask : bankMask mode = 0xFF000000 := by rw [bankMask, if_neg striped]
    rw [mask, bankBytes, if_neg striped]
    exact Words.and_high_mask 24 8 address.toNat below

theorem cut_to_bank (mode : ConnectionMode) (address transferBytes : UInt32) (short : transferBytes.toNat ≤ 2 ^ 29) :
    (cutToBank mode address transferBytes).toNat =
      min transferBytes.toNat (bankBytes mode - address.toNat % bankBytes mode) := by
  have below := Words.below address
  have size : bankBytes mode = 2 ^ 24 ∨ bankBytes mode = 2 ^ 25 := by
    cases mode <;> simp [bankBytes]
  have sum := UInt32.toNat_add address transferBytes
  have crosses : address &&& bankMask mode ≠ (address + transferBytes) &&& bankMask mode ↔
      bankBytes mode ≤ address.toNat % bankBytes mode + transferBytes.toNat := by
    rw [ne_eq, ← UInt32.toNat_inj, bank_mask_nat, bank_mask_nat, sum]
    rcases size with bytes | bytes <;> rw [bytes] <;> omega
  unfold cutToBank
  split
  case isTrue differ =>
    have reaches := crosses.mp differ
    rw [UInt32.toNat_sub, UInt32.toNat_add, bank_mask_nat, bank_size_nat]
    rcases size with bytes | bytes <;> rw [bytes] at reaches ⊢ <;> omega
  case isFalse same =>
    have stays := mt crosses.mpr same
    omega

theorem cut_progress (mode : ConnectionMode) (address remainingBytes : UInt32) (more : remainingBytes ≠ 0) :
    0 < (cutToBank mode address (dmaTransferBytes remainingBytes)).toNat ∧
      (cutToBank mode address (dmaTransferBytes remainingBytes)).toNat ≤ remainingBytes.toNat := by
  obtain ⟨positive, within, short⟩ := dma_transfer_bytes remainingBytes more
  have room : address.toNat % bankBytes mode < bankBytes mode := Nat.mod_lt _ (by cases mode <;> decide)
  rw [cut_to_bank mode address _ short]
  omega

def selectBank (mode : ConnectionMode) (make : FlashMake) (flashSize : UInt32) (device : Device) (qspiAddr : UInt32)
    (state : QspiState) : Bool × QspiState :=
  if totalFlashSize mode flashSize > bankSize mode then sendBankSelect make device (qspiAddr / 0x1000000) state
  else (true, state)

-- The while loop; every pass takes at least one byte off RemainingBytes. BankSwitchFlag
-- stays 0, so that nothing follows the loop.
def qspi24Loop (mode : ConnectionMode) (make : FlashMake) (flashSize : UInt32) (device : Device) (srcAddress : UInt32)
    (destAddress : Nat) (remainingBytes : UInt32) (state : QspiState) : QspiStatus × QspiState :=
  if _more : remainingBytes ≠ 0 then
    let translated := getQspiAddr mode (totalFlashSize mode flashSize) srcAddress state
    let selected := selectBank mode make flashSize device translated.1 translated.2
    if selected.1 then
      let transferBytes := cutToBank mode (origAddr mode translated.1) (dmaTransferBytes remainingBytes)
      let read := polledRead device (addressBytes24 translated.1) destAddress transferBytes.toNat selected.2
      if read.1 then
        qspi24Loop mode make flashSize device (srcAddress + transferBytes) (destAddress + transferBytes.toNat)
          (remainingBytes - transferBytes) read.2
      else (.errorQspiRead, read.2)
    else (.errorQspiRead, selected.2)
  else (.success, state)
termination_by remainingBytes.toNat
decreasing_by
  have bounds := cut_progress mode (origAddr mode (getQspiAddr mode (totalFlashSize mode flashSize) srcAddress state).1)
    remainingBytes _more
  rw [Words.sub_exact _ _ bounds.2]
  omega

def qspi24Copy (mode : ConnectionMode) (make : FlashMake) (flashSize : UInt32) (device : Device) (srcAddress : UInt32)
    (destAddress : Nat) (length : UInt32) (state : QspiState) : QspiStatus × QspiState :=
  if srcAddress + length > totalFlashSize mode flashSize then (.errorQspiLength, state)
  else qspi24Loop mode make flashSize device srcAddress destAddress length state

end LilacUxB.Fsbl
