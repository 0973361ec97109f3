import LilacUxB.Modulator.Chain
import LilacUxB.Modulator.Converter

set_option autoImplicit false

-- The packaged IP ip/QPSK_MOD: its own QPSK_data_converter and QPSK_Mod.v.
namespace LilacUxB.Modulator

structure SymbolTable where
  z00 : Word
  z01 : Word
  z10 : Word
  z11 : Word
deriving DecidableEq, Repr

-- The parameter defaults of QPSK_data_converter, with ONE and ZERO set by QPSK_Mod.
def levelTable (posLevel negLevel : BitVec 16) : SymbolTable where
  z00 := posLevel ++ posLevel
  z01 := posLevel ++ negLevel
  z10 := negLevel ++ posLevel
  z11 := negLevel ++ negLevel

def SymbolTable.symbol (table : SymbolTable) : Bool × Bool → Word
  | (false, false) => table.z00
  | (false, true) => table.z01
  | (true, false) => table.z10
  | (true, true) => table.z11

def modConverterParams : SenderParams where
  endCnt := 15
  advance count := (count + 1) % 16

structure ModConverterRegs where
  ctrl : SenderRegs
  outTdata : Word
deriving DecidableEq, Repr

def modSymbol (table : SymbolTable) (inTdataReg : Word) (senderCnt : Nat) : Word :=
  table.symbol (selectedPair inTdataReg senderCnt)

-- out_tdata is loaded at the same edge as the counter, from the counter's old value.
def modConverterStep (table : SymbolTable) (regs : ModConverterRegs) (wires : SenderIn) : ModConverterRegs where
  ctrl := senderStep modConverterParams regs.ctrl wires
  outTdata :=
    match nstate modConverterParams regs.ctrl wires with
    | .idle => regs.outTdata
    | .header => regs.outTdata
    | .send => modSymbol table regs.ctrl.inTdataReg regs.ctrl.senderCnt
    | .sendLast => modSymbol table regs.ctrl.inTdataReg regs.ctrl.senderCnt

-- out_tdata has no reset value: `powerUp` is whatever the register holds.
def modConverter (table : SymbolTable) (powerUp : Word) : Clocked.Machine ModConverterRegs SenderIn where
  reset := ⟨senderReset, powerUp⟩
  step := modConverterStep table

def modStage (table : SymbolTable) (powerUp : Word) : Stage ModConverterRegs where
  toMachine := modConverter table powerUp
  control regs := regs.ctrl
  outTdata regs := regs.outTdata

def qpskMod (sps : Nat) (table : SymbolTable) (powerUp : Word) :
    Clocked.Machine (ChainRegs ModConverterRegs) SenderIn :=
  chain (modStage table powerUp) sps

def modWords (sps : Nat) (table : SymbolTable) (powerUp : Word) (source : Nat → Offer) (cycle : Nat) : List Word :=
  (qpskMod sps table powerUp).log (wordTaken (modStage table powerUp)) (readySink source) cycle

def modBeats (sps : Nat) (table : SymbolTable) (powerUp : Word) (source : Nat → Offer) (cycle : Nat) : List Word :=
  (qpskMod sps table powerUp).log (beatDelivered (modStage table powerUp)) (readySink source) cycle

def modReference (sps : Nat) (table : SymbolTable) (words : List Word) : List Word :=
  repeats sps ((words.flatMap bitPairs).map table.symbol)

theorem mod_symbols (table : SymbolTable) (words : List Word) :
    (words.flatMap bitPairs).map table.symbol = Slots.stream 16 (modSymbol table) words :=
  pair_stream table.symbol words

theorem mod_step_idle (table : SymbolTable) (count : Nat) (reg data : Word) (wires : SenderIn) :
    modConverterStep table ⟨⟨count, reg, .idle, true, false⟩, data⟩ wires =
      if wires.inTvalid then ⟨⟨count, wires.inTdata, .header, false, false⟩, data⟩
      else ⟨⟨count, reg, .idle, true, false⟩, data⟩ := by
  cases offered : wires.inTvalid <;> simp [modConverterStep, step_idle, nstate, sample, offered]

theorem mod_step_header (table : SymbolTable) (count : Nat) (reg data : Word) (wires : SenderIn) :
    modConverterStep table ⟨⟨count, reg, .header, false, false⟩, data⟩ wires =
      ⟨⟨count, reg, .send, false, true⟩, modSymbol table reg count⟩ := by
  simp [modConverterStep, step_header, nstate]

theorem mod_step_send (table : SymbolTable) (count : Nat) (reg data : Word) (wires : SenderIn) :
    modConverterStep table ⟨⟨count, reg, .send, false, true⟩, data⟩ wires =
      ⟨if wires.outTready then
          if count = 15 then ⟨0, reg, .sendLast, true, true⟩
          else ⟨(count + 1) % 16, reg, .send, false, true⟩
        else ⟨count, reg, .send, false, true⟩, modSymbol table reg count⟩ := by
  cases ready : wires.outTready <;> by_cases ended : count = 15 <;>
    simp [modConverterStep, step_send, nstate, modConverterParams, ready, ended]

theorem mod_step_last (table : SymbolTable) (count : Nat) (reg data : Word) (wires : SenderIn) :
    modConverterStep table ⟨⟨count, reg, .sendLast, true, true⟩, data⟩ wires =
      if wires.inTvalid then
        ⟨⟨if wires.outTready then (count + 1) % 16 else count, wires.inTdata, .send, false, true⟩,
          modSymbol table reg count⟩
      else if wires.outTready then ⟨⟨(count + 1) % 16, reg, .idle, true, false⟩, data⟩
      else ⟨⟨count, reg, .sendLast, true, true⟩, modSymbol table reg count⟩ := by
  cases offered : wires.inTvalid <;> cases ready : wires.outTready <;>
    simp [modConverterStep, step_last, nstate, sample, modConverterParams, offered, ready]

-- While the converter waits in SEND_LAST the repeater is at least two cycles away from its
-- next symbol, so a word taken now still reaches the data register in time.
def WordInTime (sps : Nat) (regs : ChainRegs ModConverterRegs) : Prop :=
  regs.converter.ctrl.cstate = .sendLast → regs.repeater.senderCnt + 3 ≤ sps

instance (sps : Nat) (regs : ChainRegs ModConverterRegs) : Decidable (WordInTime sps regs) :=
  inferInstanceAs (Decidable (regs.converter.ctrl.cstate = .sendLast → regs.repeater.senderCnt + 3 ≤ sps))

-- The converter's configurations as long as every word is in time. The data
-- register lags behind the counter for one cycle, in which the repeater is busy.
inductive ModPhase (table : SymbolTable) : ModConverterRegs → SenderRegs → List Word → Nat → Prop where
  | idle (reg data : Word) (repeater : SenderRegs) :
      ModPhase table ⟨⟨0, reg, .idle, true, false⟩, data⟩ repeater [] 0
  | header (reg data : Word) (repeater : SenderRegs) :
      ModPhase table ⟨⟨0, reg, .header, false, false⟩, data⟩ repeater [reg] 0
  | send (count : Nat) (reg data : Word) (repeater : SenderRegs) (before : List Word) (within : count < 16)
      (fresh : repeater.inTready = true → data = modSymbol table reg count) :
      ModPhase table ⟨⟨count, reg, .send, false, true⟩, data⟩ repeater (before ++ [reg]) (16 * before.length + count)
  | last (reg data : Word) (repeater : SenderRegs) (before : List Word)
      (busy : repeater.cstate = .header ∨ repeater.cstate = .send) :
      ModPhase table ⟨⟨0, reg, .sendLast, true, true⟩, data⟩ repeater (before ++ [reg])
        (16 * (before ++ [reg]).length)

theorem repeater_takes (sps : Nat) (regs : SenderRegs) (wires : SenderIn) (symbols : List Word) (count : Nat)
    (phase : Phase sps NeverLate regs symbols count) (ready : regs.inTready = true)
    (offered : wires.inTvalid = true) (sink : wires.outTready = true) :
    (senderStep (repeaterParams sps) regs wires).inTready = false ∧
      ((senderStep (repeaterParams sps) regs wires).cstate = .header ∨
        (senderStep (repeaterParams sps) regs wires).cstate = .send) := by
  cases phase with
  | idle reg words => simp [step_idle, offered]
  | header reg before => cases ready
  | send c reg before within => cases ready
  | late old reg before permitted => cases ready
  | last reg before => simp [step_last, offered, sink]

theorem repeater_busy_not_ready (sps : Nat) (regs : SenderRegs) (symbols : List Word) (count : Nat)
    (phase : Phase sps NeverLate regs symbols count) (busy : regs.cstate = .header ∨ regs.cstate = .send) :
    regs.inTready = false := by
  cases phase with
  | idle reg words => simp at busy
  | header reg before => rfl
  | send c reg before within => rfl
  | late old reg before permitted => rfl
  | last reg before => simp at busy

theorem repeater_stays_busy (sps : Nat) (regs : SenderRegs) (wires : SenderIn) (symbols : List Word) (count : Nat)
    (phase : Phase sps NeverLate regs symbols count) (busy : regs.cstate = .header ∨ regs.cstate = .send)
    (early : regs.senderCnt + 3 ≤ sps) (sink : wires.outTready = true) :
    (senderStep (repeaterParams sps) regs wires).inTready = false ∧
      (senderStep (repeaterParams sps) regs wires).cstate = .send := by
  cases phase with
  | idle reg words => simp at busy
  | header reg before => simp [step_header]
  | send c reg before within =>
      have notEnd : c ≠ sps - 2 := by simp only at early; omega
      simp [step_send, repeaterParams, sink, notEnd]
  | late old reg before permitted => exact False.elim permitted
  | last reg before => simp at busy

theorem mod_phase_step (sps : Nat) (table : SymbolTable) (converter : ModConverterRegs) (repeater : SenderRegs)
    (words symbols : List Word) (count beats : Nat) (wires toRepeater : SenderIn)
    (phase : ModPhase table converter repeater words count)
    (repeaterPhase : Phase sps NeverLate repeater symbols beats)
    (link : wires.outTready = repeater.inTready) (offered : toRepeater.inTvalid = converter.ctrl.outTvalid)
    (sink : toRepeater.outTready = true) (inTime : converter.ctrl.cstate = .sendLast → repeater.senderCnt + 3 ≤ sps) :
    ModPhase table (modConverterStep table converter wires)
      (senderStep (repeaterParams sps) repeater toRepeater)
      (words ++ (taken converter.ctrl wires).toList) (count + (sends converter.ctrl wires).toNat) := by
  cases phase with
  | idle reg data repeater =>
      rw [mod_step_idle]
      cases valid : wires.inTvalid with
      | false => simpa [valid] using ModPhase.idle reg data _
      | true => simpa [valid] using ModPhase.header wires.inTdata data _
  | header reg data repeater =>
      rw [mod_step_header]
      simpa using ModPhase.send 0 reg (modSymbol table reg 0) _ [] (by decide) (fun _ => rfl)
  | send c reg data repeater before within fresh =>
      rw [mod_step_send]
      cases ready : repeater.inTready with
      | false =>
          rw [ready] at link
          simpa [link] using ModPhase.send c reg (modSymbol table reg c) _ before within (fun _ => rfl)
      | true =>
          rw [ready] at link
          obtain ⟨notReady, busy⟩ := repeater_takes sps repeater toRepeater symbols beats repeaterPhase ready offered sink
          by_cases ended : c = 15
          · subst c
            have full : 16 * before.length + 15 + 1 = 16 * (before ++ [reg]).length := by
              rw [List.length_append, List.length_singleton, Nat.mul_add]
            have reached := @ModPhase.last table reg (modSymbol table reg 15) _ before busy
            rw [← full] at reached
            simpa [link] using reached
          · have next : (c + 1) % 16 = c + 1 := Nat.mod_eq_of_lt (by omega)
            have reached := @ModPhase.send table (c + 1) reg (modSymbol table reg c)
              (senderStep (repeaterParams sps) repeater toRepeater) before (by omega)
              (fun again => by rw [notReady] at again; cases again)
            simpa [link, ended, next, Nat.add_assoc] using reached
  | last reg data repeater before busy =>
      rw [mod_step_last]
      have early := inTime rfl
      have notReady := repeater_busy_not_ready sps repeater symbols beats repeaterPhase busy
      obtain ⟨stillBusy, sending⟩ :=
        repeater_stays_busy sps repeater toRepeater symbols beats repeaterPhase busy early sink
      rw [notReady] at link
      cases valid : wires.inTvalid with
      | false =>
          simpa [valid, link] using ModPhase.last reg (modSymbol table reg 0) _ before (Or.inr sending)
      | true =>
          have reached := @ModPhase.send table 0 wires.inTdata (modSymbol table reg 0)
            (senderStep (repeaterParams sps) repeater toRepeater) (before ++ [reg]) (by decide)
            (fun again => by rw [stillBusy] at again; cases again)
          simpa [valid, link] using reached

theorem mod_phase_symbol (sps : Nat) (table : SymbolTable) (converter : ModConverterRegs) (repeater : SenderRegs)
    (words symbols : List Word) (count beats : Nat) (phase : ModPhase table converter repeater words count)
    (repeaterPhase : Phase sps NeverLate repeater symbols beats) (valid : converter.ctrl.outTvalid = true)
    (ready : repeater.inTready = true) :
    Slots.FromSlot 16 (modSymbol table) NeverLate words count converter.outTdata := by
  cases phase with
  | idle reg data repeater => cases valid
  | header reg data repeater => cases valid
  | send c reg data repeater before within fresh =>
      rw [fresh ready]
      exact slot_beat 16 (modSymbol table) NeverLate c reg before within
  | last reg data repeater before busy =>
      rw [repeater_busy_not_ready sps repeater symbols beats repeaterPhase busy] at ready
      cases ready

structure ModAligned (table : SymbolTable) (regs : ChainRegs ModConverterRegs) (words symbols : List Word) : Prop where
  phase : ModPhase table regs.converter regs.repeater words symbols.length
  origin : Slots.AllFromSlots 16 (modSymbol table) NeverLate words symbols

theorem mod_aligned_step (sps : Nat) (table : SymbolTable) (powerUp : Word) (regs : ChainRegs ModConverterRegs)
    (wires : SenderIn) (words symbols : List Word) (aligned : ModAligned table regs words symbols)
    (repeated : ∃ symbols beats, Phase sps NeverLate regs.repeater symbols beats)
    (inTime : WordInTime sps regs) (sink : wires.outTready = true) :
    ModAligned table ((qpskMod sps table powerUp).step regs wires)
      (words ++ (wordTaken (modStage table powerUp) regs wires).toList)
      (symbols ++ (symbolPassed (modStage table powerUp) regs wires).toList) := by
  obtain ⟨repeaterSymbols, beats, repeaterPhase⟩ := repeated
  have phase := mod_phase_step sps table regs.converter regs.repeater words repeaterSymbols symbols.length beats
    (converterWires regs wires) (repeaterWires (modStage table powerUp) regs wires) aligned.phase repeaterPhase
    rfl rfl sink inTime
  have kept := Slots.all_from_slots_words 16 (modSymbol table) NeverLate words
    (wordTaken (modStage table powerUp) regs wires).toList symbols aligned.origin
  rw [symbol_passed_sent]
  cases passing : sends ((modStage table powerUp).control regs.converter) (converterWires regs wires) with
  | false =>
      have control : sends regs.converter.ctrl (converterWires regs wires) = false := passing
      simp only [Bool.false_eq_true, if_false, Option.toList_none, List.append_nil]
      rw [control, Bool.toNat_false, Nat.add_zero] at phase
      exact ⟨phase, kept⟩
  | true =>
      have control : sends regs.converter.ctrl (converterWires regs wires) = true := passing
      obtain ⟨valid, ready⟩ := Bool.and_eq_true_iff.mp control
      have symbol := mod_phase_symbol sps table regs.converter regs.repeater words repeaterSymbols symbols.length beats
        aligned.phase repeaterPhase valid ready
      simp only [if_true, Option.toList_some]
      refine ⟨?_, Slots.all_from_slots_beat 16 (modSymbol table) NeverLate _ symbols _ kept
        (Slots.from_slot_append 16 (modSymbol table) NeverLate words _ _ _ symbol)⟩
      rw [control, Bool.toNat_true] at phase
      rw [List.length_append, List.length_singleton]
      exact phase

theorem mod_converter_aligned (sps : Nat) (two : 2 ≤ sps) (table : SymbolTable) (powerUp : Word)
    (source : Nat → Offer) (cycle : Nat)
    (inTime : ∀ earlier, earlier < cycle →
      WordInTime sps ((qpskMod sps table powerUp).run (readySink source) earlier)) :
    ModAligned table ((qpskMod sps table powerUp).run (readySink source) cycle)
      (modWords sps table powerUp source cycle)
      ((qpskMod sps table powerUp).log (symbolPassed (modStage table powerUp)) (readySink source) cycle) := by
  refine (qpskMod sps table powerUp).logged_invariant (readySink source) (wordTaken (modStage table powerUp))
    (symbolPassed (modStage table powerUp)) (ModAligned table)
    (fun regs wires => (∃ symbols beats, Phase sps NeverLate regs.repeater symbols beats) ∧
      WordInTime sps regs ∧ wires.outTready = true) ?_ ?_ cycle ?_
  · exact ⟨ModPhase.idle 0 powerUp senderReset, by simp [Slots.AllFromSlots]⟩
  · intro regs wires words symbols aligned allowed
    exact mod_aligned_step sps table powerUp regs wires words symbols aligned allowed.1 allowed.2.1 allowed.2.2
  · intro earlier before
    have repeated := (repeater_aligned (modStage table powerUp) sps two source earlier).phase
    exact ⟨⟨_, _, repeated⟩, inTime earlier before, rfl⟩

theorem mod_beats_follow_reference (sps : Nat) (two : 2 ≤ sps) (posLevel negLevel : BitVec 16) (powerUp : Word)
    (source : Nat → Offer) (cycle : Nat)
    (inTime : ∀ earlier, earlier < cycle →
      WordInTime sps ((qpskMod sps (levelTable posLevel negLevel) powerUp).run (readySink source) earlier)) :
    modBeats sps (levelTable posLevel negLevel) powerUp source cycle <+:
      modReference sps (levelTable posLevel negLevel)
        (modWords sps (levelTable posLevel negLevel) powerUp source cycle) := by
  have symbols := Slots.prefix_of_slots 16 (by decide) (modSymbol (levelTable posLevel negLevel)) NeverLate _ _
    (fun _ _ late => False.elim late)
    (mod_converter_aligned sps two (levelTable posLevel negLevel) powerUp source cycle inTime).origin
  rw [← mod_symbols] at symbols
  exact (repeater_beats_follow (modStage (levelTable posLevel negLevel) powerUp) sps two source cycle).trans
    (symbols.flatMap (List.replicate sps))

def backToBack (cycle : Nat) : Offer := ⟨if cycle = 0 then 0xC0FFEE2D else 0x12345678, true⟩

theorem mod_back_to_back_follows :
    modBeats 4 (levelTable 0x6665 0x999B) 0 backToBack 150 <+:
      modReference 4 (levelTable 0x6665 0x999B) (modWords 4 (levelTable 0x6665 0x999B) 0 backToBack 150) :=
  mod_beats_follow_reference 4 (by decide) 0x6665 0x999B 0 backToBack 150 (by decide +kernel)

def wordThenGap (cycle : Nat) : Offer := ⟨0xC0FFEE2D, cycle == 0⟩

-- One word, then silence: the repeater takes the first symbol of the word a second time.
theorem mod_gap_inserts_symbol :
    SourceHolds (modStage (levelTable 0x6665 0x999B) 0) 4 wordThenGap ∧
      ¬ modBeats 4 (levelTable 0x6665 0x999B) 0 wordThenGap 80 <+:
        modReference 4 (levelTable 0x6665 0x999B) (modWords 4 (levelTable 0x6665 0x999B) 0 wordThenGap 80) := by
  constructor
  · intro cycle offered stalled
    cases cycle with
    | zero => cases stalled
    | succ cycle => cases offered
  · decide +kernel

end LilacUxB.Modulator
