import LilacUxB.Modulator.Sender

set_option autoImplicit false

-- RTL/QPSK_TX/QPSK_data_converter.v, the revision that is deployed.
namespace LilacUxB.Modulator

-- DAC levels at 80% of full scale.
def levelOne : BitVec 16 := 0x6665#16
def levelZero : BitVec 16 := 0x999B#16

def converterParams : SenderParams where
  endCnt := 14
  advance count := (count + 1) % 16

def minusCnt (senderCnt : Nat) : BitVec 4 := 0b1111#4 - BitVec.ofNat 4 senderCnt
def cntM2 (senderCnt : Nat) : BitVec 5 := minusCnt senderCnt ++ 0#1
def cntM2p1 (senderCnt : Nat) : BitVec 5 := minusCnt senderCnt ++ 1#1

-- {in_tdata_reg[cnt_m2p1], in_tdata_reg[cnt_m2]}
def selectedPair (inTdataReg : Word) (senderCnt : Nat) : Bool × Bool :=
  (inTdataReg.getLsbD (cntM2p1 senderCnt).toNat, inTdataReg.getLsbD (cntM2 senderCnt).toNat)

def remap : Bool × Bool → Word
  | (false, false) => levelOne ++ levelOne
  | (false, true) => levelZero ++ levelOne
  | (true, true) => levelZero ++ levelZero
  | (true, false) => levelOne ++ levelZero

def selectedSymbol (inTdataReg : Word) (senderCnt : Nat) : Word := remap (selectedPair inTdataReg senderCnt)

def converterOutTdata (regs : SenderRegs) : Word := selectedSymbol regs.inTdataReg regs.senderCnt

def qpskDataConverter : Clocked.Machine SenderRegs SenderIn := senderMachine converterParams

def bitPair (word : Word) (index : Nat) : Bool × Bool :=
  (word.getLsbD (31 - 2 * index), word.getLsbD (30 - 2 * index))

def bitPairs (word : Word) : List (Bool × Bool) := (List.range 16).map (bitPair word)

theorem selected_pair_index (senderCnt : Nat) (within : senderCnt < 16) :
    (cntM2p1 senderCnt).toNat = 31 - 2 * senderCnt ∧ (cntM2 senderCnt).toNat = 30 - 2 * senderCnt := by
  have all : ∀ count : Fin 16, (cntM2p1 count).toNat = 31 - 2 * count ∧ (cntM2 count).toNat = 30 - 2 * count := by
    decide
  exact all ⟨senderCnt, within⟩

theorem selected_pair_bits (word : Word) (senderCnt : Nat) (within : senderCnt < 16) :
    selectedPair word senderCnt = bitPair word senderCnt := by
  obtain ⟨high, low⟩ := selected_pair_index senderCnt within
  rw [selectedPair, bitPair, high, low]

theorem pair_frame (symbol : Bool × Bool → Word) (word : Word) :
    Slots.frame 16 (fun word senderCnt => symbol (selectedPair word senderCnt)) word = (bitPairs word).map symbol := by
  simp only [Slots.frame, bitPairs, List.map_map]
  apply List.map_congr_left
  intro index member
  have within : index < 16 := by simpa using member
  simp only [Function.comp_apply, selected_pair_bits word index within]

theorem pair_stream (symbol : Bool × Bool → Word) (words : List Word) :
    (words.flatMap bitPairs).map symbol =
      Slots.stream 16 (fun word senderCnt => symbol (selectedPair word senderCnt)) words := by
  rw [List.map_flatMap, Slots.stream]
  exact congrArg (words.flatMap ·) (funext fun word => (pair_frame symbol word).symm)

theorem remap_injective (left right : Bool × Bool) (same : remap left = remap right) : left = right := by
  obtain ⟨leftHigh, leftLow⟩ := left
  obtain ⟨rightHigh, rightLow⟩ := right
  revert leftHigh leftLow rightHigh rightLow
  decide

theorem converter_counts : Counts 16 converterParams where
  two := by decide
  ends := rfl
  wraps := rfl
  next count less := Nat.mod_eq_of_lt less

theorem converter_shows : Shows selectedSymbol converterOutTdata := fun _ _ => rfl

end LilacUxB.Modulator
