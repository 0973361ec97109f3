import LilacUxB.Modulator.Chain
import LilacUxB.Modulator.Converter

set_option autoImplicit false

-- The hierarchy QPSK_TX_on_Xband_dac0 of Lilac_UxB_bd.tcl (N = 5 there).
namespace LilacUxB.Modulator

def converterStage : Stage SenderRegs where
  toMachine := qpskDataConverter
  control regs := regs
  outTdata := converterOutTdata

def qpskTx (n : Nat) : Clocked.Machine (ChainRegs SenderRegs) SenderIn := chain converterStage n

def txWords (n : Nat) (source : Nat → Offer) (cycle : Nat) : List Word :=
  (qpskTx n).log (wordTaken converterStage) (readySink source) cycle

def txBeats (n : Nat) (source : Nat → Offer) (cycle : Nat) : List Word :=
  (qpskTx n).log (beatDelivered converterStage) (readySink source) cycle

def txReference (n : Nat) (words : List Word) : List Word :=
  repeats n ((words.flatMap bitPairs).map remap)

def SameLastPair (old new : Word) : Prop := bitPair old 15 = bitPair new 15

def LastSymbolKept (regs : ChainRegs SenderRegs) (wires : SenderIn) : Prop :=
  Permits SameLastPair regs.converter (converterWires regs wires)

instance (regs : ChainRegs SenderRegs) (wires : SenderIn) : Decidable (LastSymbolKept regs wires) :=
  inferInstanceAs (Decidable (
    (regs.converter.cstate = .sendLast ∧ wires.inTvalid = true ∧ regs.repeater.inTready = false) →
      bitPair regs.converter.inTdataReg 15 = bitPair wires.inTdata 15))

theorem reference_symbols (words : List Word) :
    (words.flatMap bitPairs).map remap = Slots.stream 16 selectedSymbol words :=
  pair_stream remap words

theorem same_last_symbol (old new : Word) (same : SameLastPair old new) :
    selectedSymbol old (16 - 1) = selectedSymbol new (16 - 1) := by
  have within : 16 - 1 < 16 := by decide
  rw [selectedSymbol, selectedSymbol, selected_pair_bits old _ within, selected_pair_bits new _ within]
  exact congrArg remap same

theorem tx_converter_aligned (n : Nat) (source : Nat → Offer) (cycle : Nat)
    (kept : ∀ earlier, earlier < cycle →
      LastSymbolKept ((qpskTx n).run (readySink source) earlier) (readySink source earlier)) :
    Aligned 16 selectedSymbol SameLastPair ((qpskTx n).run (readySink source) cycle).converter
      (txWords n source cycle) ((qpskTx n).log (symbolPassed converterStage) (readySink source) cycle) := by
  refine (qpskTx n).logged_invariant (readySink source) (wordTaken converterStage) (symbolPassed converterStage)
    (fun regs words symbols => Aligned 16 selectedSymbol SameLastPair regs.converter words symbols)
    LastSymbolKept (aligned_reset 16 _ SameLastPair) ?_ cycle kept
  intro regs wires words symbols aligned permits
  exact aligned_step 16 selectedSymbol SameLastPair converterParams converterOutTdata converter_counts
    converter_shows regs.converter words symbols (converterWires regs wires) aligned permits

theorem tx_beats_follow_reference (n : Nat) (two : 2 ≤ n) (source : Nat → Offer) (cycle : Nat)
    (kept : ∀ earlier, earlier < cycle →
      LastSymbolKept ((qpskTx n).run (readySink source) earlier) (readySink source earlier)) :
    txBeats n source cycle <+: txReference n (txWords n source cycle) := by
  have symbols := Slots.prefix_of_slots 16 (by decide) selectedSymbol SameLastPair _ _ same_last_symbol
    (tx_converter_aligned n source cycle kept).origin
  rw [← reference_symbols] at symbols
  exact (repeater_beats_follow converterStage n two source cycle).trans (symbols.flatMap (List.replicate n))

-- Both words end in the bits 01; the second is taken over the stalled last symbol of the first.
def twoWords (cycle : Nat) : Offer := ⟨if cycle = 0 then 0xC0FFEE2D else 0x12345679, decide (cycle < 90)⟩

theorem tx_two_words_follow :
    txBeats 5 twoWords 170 <+: txReference 5 (txWords 5 twoWords 170) :=
  tx_beats_follow_reference 5 (by decide) twoWords 170 (by decide +kernel)

def alternating (cycle : Nat) : Offer := ⟨if cycle = 0 then 0 else 0xFFFFFFFF, true⟩

-- The second word is on the bus when the first one's last symbol waits for the
-- repeater: symbol 15 goes out as {ZERO, ZERO} although bits 1:0 are 00.
theorem tx_loses_last_symbol :
    SourceHolds converterStage 5 alternating ∧
      ¬ txBeats 5 alternating 80 <+: txReference 5 (txWords 5 alternating 80) := by
  constructor
  · intro cycle _ stalled
    cases cycle with
    | zero => cases stalled
    | succ cycle => rfl
  · decide +kernel

end LilacUxB.Modulator
