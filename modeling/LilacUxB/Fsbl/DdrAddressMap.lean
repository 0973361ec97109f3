import LilacUxB.Registers
import LilacUxB.Wiring

set_option autoImplicit false

-- xfsbl_ddr_init.c: from the SPD bytes of a DIMM to the address map registers of the DDR controller.
namespace LilacUxB.Fsbl

structure DimmParams where
  memType : UInt8
  busWidth : Nat
  numRowAddr : Nat
  numColAddr : Nat
  numBankAddr : Nat
  numBgAddr : Nat
  numRankAddr : Nat
deriving DecidableEq, Repr

def spdMemtypeDdr3 : UInt8 := 0x0B
def spdMemtypeDdr4 : UInt8 := 0x0C
def spdMemtypeLpddr3 : UInt8 := 0x0F
def spdMemtypeLpddr4 : UInt8 := 0x10

def spdModuletypeMask : UInt8 := 0x0F
def ddr3ModuleTypes : List UInt8 := [0x1, 0x5, 0x9, 0x2, 0x3, 0x4, 0x6, 0x7, 0x8, 0xA, 0xB, 0xC, 0xD]
def ddr4ModuleTypes : List UInt8 := [0x1, 0x8, 0x2, 0x3, 0x9]

-- XFsbl_GetLog2, which gives 0 for 0.
def getLog2 (value : Nat) : Nat := Nat.log2 value

def addressParams (spdData : Nat → UInt8) (organization busWidth : UInt8) : DimmParams where
  memType := spdData 2
  busWidth := 1 <<< (3 + (busWidth &&& 7).toNat)
  numRowAddr := ((spdData 5 >>> 3) &&& 7).toNat + 12
  numColAddr := (spdData 5 &&& 7).toNat + 9
  numBankAddr := ((spdData 4 >>> 4) &&& 3).toNat + 2
  numBgAddr := ((spdData 4 >>> 6) &&& 3).toNat
  numRankAddr := getLog2 (((organization >>> 3) &&& 7).toNat + 1)

-- A module type that is not known ends the computation before the numbers.
def unknownModule (spdData : Nat → UInt8) (busWidth : UInt8) : DimmParams :=
  ⟨spdData 2, 1 <<< (3 + (busWidth &&& 7).toNat), 0, 0, 0, 0, 0⟩

def computeDdr4Params (spdData : Nat → UInt8) : DimmParams :=
  if spdData 3 &&& spdModuletypeMask ∈ ddr4ModuleTypes then addressParams spdData (spdData 12) (spdData 13)
  else unknownModule spdData (spdData 13)

def computeDdr3Params (spdData : Nat → UInt8) : DimmParams :=
  if spdData 3 &&& spdModuletypeMask ∈ ddr3ModuleTypes then addressParams spdData (spdData 7) (spdData 8)
  else unknownModule spdData (spdData 8)

def computeLpDdrParams (spdData : Nat → UInt8) : DimmParams := addressParams spdData (spdData 12) (spdData 13)

def ddrComputeDimmParameters (spdData : Nat → UInt8) : DimmParams :=
  if spdData 2 = spdMemtypeDdr4 then computeDdr4Params spdData
  else if spdData 2 = spdMemtypeDdr3 then computeDdr3Params spdData
  else if spdData 2 = spdMemtypeLpddr3 ∨ spdData 2 = spdMemtypeLpddr4 then computeLpDdrParams spdData
  else ⟨0, 0, 0, 0, 0, 0, 0⟩

-- What XFsbl_DdrInit computes; a ZCU102 or ZCU106 has DDR4 only, and does not ask.
def ddrInitParams (ddr4Board : Bool) (spdData : Nat → UInt8) : DimmParams :=
  if ddr4Board then computeDdr4Params spdData else ddrComputeDimmParameters spdData

-- XFSBL_HIF_COLUMN, XFSBL_HIF_ROW, XFSBL_HIF_BANK, XFSBL_HIF_BG and XFSBL_HIF_RANK; `empty` is 0.
inductive HifKind where
  | empty | column | row | bank | bankGroup | rank
deriving DecidableEq, Repr

abbrev HifBit := HifKind × Nat

structure Span where
  kind : HifKind
  first : Nat
  count : Nat

def Span.bits (span : Span) : List HifBit := (List.range' span.first span.count).map (fun index => (span.kind, index))

def positions (spans : List Span) : List HifBit := spans.flatMap Span.bits

-- XPAR_PSU_DDRC_0_VIDEO_BUFFER_SIZE, XPAR_PSU_DDRC_0_BRC_MAPPING, XPAR_PSU_DDRC_0_DDR4_ADDR_MAPPING.
structure DdrSettings where
  videoBuf : UInt32
  brcMapping : UInt32
  ddr4AddrMapping : UInt32

def ddrCalcDdr4HifAddr (dimm : DimmParams) : List Span :=
  [⟨.column, 0, dimm.numColAddr⟩, ⟨.bankGroup, 0, dimm.numBgAddr⟩, ⟨.bank, 0, dimm.numBankAddr⟩,
    ⟨.row, 0, dimm.numRowAddr⟩, ⟨.rank, 0, dimm.numRankAddr⟩]

def videoBufWidth (videoBuf : UInt32) (busWidth : Nat) : Nat :=
  (match (List.range 7).find? (fun index => (1 : UInt32) <<< UInt32.ofNat index = videoBuf) with
    | some index => index + 20
    | none => 20) + (if busWidth = 16 then 2 else 0) + (if busWidth = 32 then 1 else 0)

-- `none` where Position is not initialised, or a count wraps and the loop leaves the array.
def ddrCalcHifAddrVideo (videoBuf : UInt32) (dimm : DimmParams) : Option (List Span) :=
  let lower := videoBufWidth videoBuf dimm.busWidth - dimm.numColAddr - 4
  if dimm.memType ≠ spdMemtypeDdr4 then none
  else if dimm.numColAddr + 4 ≤ videoBufWidth videoBuf dimm.busWidth ∧ lower ≤ dimm.numRowAddr then
    some [⟨.column, 0, 3⟩, ⟨.bankGroup, 0, 1⟩, ⟨.column, 3, dimm.numColAddr - 3⟩, ⟨.row, 0, lower⟩,
      ⟨.bank, 0, dimm.numBankAddr⟩, ⟨.row, lower, dimm.numRowAddr - lower⟩, ⟨.rank, 0, dimm.numRankAddr⟩]
  else none

def ddrCalcHifAddrBrcMap (dimm : DimmParams) : List Span :=
  [⟨.column, 0, 3⟩, ⟨.bankGroup, 0, 1⟩, ⟨.column, 3, dimm.numColAddr - 3⟩, ⟨.row, 0, dimm.numRowAddr⟩,
    ⟨.bank, 0, dimm.numBankAddr⟩, ⟨.rank, 0, dimm.numRankAddr⟩]

def ddrCalcHifAddrMemMap (dimm : DimmParams) : List Span :=
  [⟨.column, 0, 3⟩, ⟨.bankGroup, 0, 1⟩, ⟨.column, 3, dimm.numColAddr - 3⟩, ⟨.bank, 0, dimm.numBankAddr⟩,
    ⟨.row, 0, dimm.numRowAddr⟩, ⟨.rank, 0, dimm.numRankAddr⟩]

def ddrCalcHifAddr (dimm : DimmParams) : List Span :=
  [⟨.column, 0, dimm.numColAddr⟩, ⟨.bank, 0, dimm.numBankAddr⟩, ⟨.row, 0, dimm.numRowAddr⟩,
    ⟨.rank, 0, dimm.numRankAddr⟩]

def hifOrder (settings : DdrSettings) (dimm : DimmParams) : Option (List Span) :=
  if settings.videoBuf ≠ 0 then ddrCalcHifAddrVideo settings.videoBuf dimm
  else if settings.brcMapping = 1 then
    if dimm.memType ≠ spdMemtypeDdr4 then some (ddrCalcHifAddr dimm) else some (ddrCalcHifAddrBrcMap dimm)
  else if dimm.memType ≠ spdMemtypeDdr4 then some (ddrCalcHifAddr dimm)
  else if settings.ddr4AddrMapping = 1 then some (ddrCalcHifAddrMemMap dimm)
  else some (ddrCalcDdr4HifAddr dimm)

def hifAddrSize : Nat := 40

-- The array that the positions are written to; `none` where they do not fit.
def hifArray (spans : List Span) : Option (List HifBit) :=
  if (positions spans).length ≤ hifAddrSize then
    some (positions spans ++ List.replicate (hifAddrSize - (positions spans).length) (.empty, 0))
  else none

def shiftedDown (hifAddr : List HifBit) : List HifBit := hifAddr.drop 1 ++ [(.empty, 0)]

def busShifted (busWidth : Nat) (hifAddr : List HifBit) : List HifBit :=
  let once := if busWidth ≤ 32 then shiftedDown hifAddr else hifAddr
  if busWidth = 16 then shiftedDown once else once

def maxRows : Nat := 18
def maxColumns : Nat := 12
def maxBanks : Nat := 3
def maxBankGroups : Nat := 2

def addrMapBankBit (dimm : DimmParams) (hifAddr : List HifBit) (bankBit : Nat) : UInt32 :=
  if bankBit < dimm.numBankAddr then UInt32.ofNat (hifAddr.idxOf (.bank, bankBit)) - UInt32.ofNat (bankBit + 2) else 0x1F

def addrMapBgBit (dimm : DimmParams) (hifAddr : List HifBit) (bgBit : Nat) : UInt32 :=
  if bgBit < dimm.numBgAddr then
    if hifAddr.idxOf (.bankGroup, bgBit) ≥ bgBit + 2 then
      UInt32.ofNat (hifAddr.idxOf (.bankGroup, bgBit)) - UInt32.ofNat (bgBit + 2)
    else 0
  else 0x1F

def addrMapColBit (dimm : DimmParams) (hifAddr : List HifBit) (colBit : Nat) : UInt32 :=
  if colBit < dimm.numColAddr then UInt32.ofNat (hifAddr.idxOf (.column, colBit)) - UInt32.ofNat colBit else 0xF

def addrMapRowBits2To10 : UInt32 := 15

def addrMapRowBit (dimm : DimmParams) (hifAddr : List HifBit) (rowBit : Nat) : UInt32 :=
  if rowBit < dimm.numRowAddr then UInt32.ofNat (hifAddr.idxOf (.row, rowBit)) - UInt32.ofNat (rowBit + 6) else 0xF

def addrMapCsBit0 : UInt32 := 0x1F

def searched (dimm : DimmParams) : List HifBit :=
  positions [⟨.bank, 0, min maxBanks dimm.numBankAddr⟩, ⟨.column, 2, min maxColumns dimm.numColAddr - 2⟩,
    ⟨.row, 0, min maxRows dimm.numRowAddr⟩, ⟨.bankGroup, 0, min maxBankGroups dimm.numBgAddr⟩]

def fields (mask : UInt32) (values : List UInt32) : UInt32 := Registers.lanes (values.map (fun value => value &&& mask))

-- The twelve words for the registers from 0xFD070200 on.
def addrMapRegVal (dimm : DimmParams) (hifAddr : List HifBit) : Nat → UInt32
  | 0 => fields 0x1F [addrMapCsBit0]
  | 1 => fields 0x1F [addrMapBankBit dimm hifAddr 0, addrMapBankBit dimm hifAddr 1, addrMapBankBit dimm hifAddr 2]
  | 2 => fields 0xF [addrMapColBit dimm hifAddr 2, addrMapColBit dimm hifAddr 3, addrMapColBit dimm hifAddr 4,
      addrMapColBit dimm hifAddr 5]
  | 3 => fields 0xF [addrMapColBit dimm hifAddr 6, addrMapColBit dimm hifAddr 7, addrMapColBit dimm hifAddr 8,
      addrMapColBit dimm hifAddr 9]
  | 4 => fields 0xF [addrMapColBit dimm hifAddr 10, addrMapColBit dimm hifAddr 11]
  | 5 => fields 0xF [addrMapRowBit dimm hifAddr 0, addrMapRowBit dimm hifAddr 1, addrMapRowBits2To10,
      addrMapRowBit dimm hifAddr 11]
  | 6 => fields 0xF [addrMapRowBit dimm hifAddr 12, addrMapRowBit dimm hifAddr 13, addrMapRowBit dimm hifAddr 14,
      addrMapRowBit dimm hifAddr 15]
  | 7 => fields 0xF [addrMapRowBit dimm hifAddr 16, addrMapRowBit dimm hifAddr 17]
  | 8 => fields 0x1F [addrMapBgBit dimm hifAddr 0, addrMapBgBit dimm hifAddr 1]
  | 9 => fields 0xF [addrMapRowBit dimm hifAddr 2, addrMapRowBit dimm hifAddr 3, addrMapRowBit dimm hifAddr 4,
      addrMapRowBit dimm hifAddr 5]
  | 10 => fields 0xF [addrMapRowBit dimm hifAddr 6, addrMapRowBit dimm hifAddr 7, addrMapRowBit dimm hifAddr 8,
      addrMapRowBit dimm hifAddr 9]
  | 11 => fields 0xF [addrMapRowBit dimm hifAddr 10]
  | _ => 0

-- `none` where the code leaves the array, while it writes it or while it searches it.
def ddrCalcAddrMap (settings : DdrSettings) (dimm : DimmParams) : Option (Nat → UInt32) :=
  match hifOrder settings dimm with
  | none => none
  | some spans =>
      match hifArray spans with
      | none => none
      | some written =>
          let hifAddr := busShifted dimm.busWidth written
          if ∀ bit ∈ searched dimm, bit ∈ hifAddr then some (addrMapRegVal dimm hifAddr) else none

-- How the controller reads a field (psu_init.c): the base is added to a value in its range. All ones,
-- which tie the line to 0, are outside every range.
def selected (word : UInt32) (lane : Nat) (mask : UInt32) (top base : Nat) : Option Nat :=
  let field := (Registers.lane word lane &&& mask).toNat
  if field ≤ top then some (base + field) else none

def rowField (rowBit : Nat) : Nat × Nat :=
  if rowBit < 2 then (5, rowBit)
  else if rowBit < 6 then (9, rowBit - 2)
  else if rowBit < 10 then (10, rowBit - 6)
  else if rowBit = 10 then (11, 0)
  else if rowBit = 11 then (5, 3)
  else if rowBit < 16 then (6, rowBit - 12)
  else (7, rowBit - 16)

def colField (colBit : Nat) : Nat × Nat :=
  if colBit < 6 then (2, colBit - 2) else if colBit < 10 then (3, colBit - 6) else (4, colBit - 10)

-- The end of the range that psu_init.c gives for the field of a line.
def fieldTop : HifBit → Nat
  | (.row, bit) => if bit = 17 then 10 else 11
  | (.column, _) => 7
  | (.bank, bit) => if bit = 2 then 29 else 30
  | (.bankGroup, _) => 30
  | (.rank, _) => 0
  | (.empty, _) => 0

-- The address bit behind each line of the DRAM on a full-width bus; the two lowest column bits are
-- the two lowest address bits, and one rank is in use.
def dramWires (regVal : Nat → UInt32) : HifBit → Option Nat
  | (.row, bit) =>
      if bit < maxRows then
        selected (regVal (rowField bit).1) (rowField bit).2 0xF (fieldTop (.row, bit)) (bit + 6)
      else none
  | (.column, bit) =>
      if bit < 2 then some bit
      else if bit < maxColumns then
        selected (regVal (colField bit).1) (colField bit).2 0xF (fieldTop (.column, bit)) bit
      else none
  | (.bank, bit) => if bit < maxBanks then selected (regVal 1) bit 0x1F (fieldTop (.bank, bit)) (bit + 2) else none
  | (.bankGroup, bit) =>
      if bit < maxBankGroups then selected (regVal 8) bit 0x1F (fieldTop (.bankGroup, bit)) (bit + 2) else none
  | (.rank, _) => none
  | (.empty, _) => none

end LilacUxB.Fsbl
