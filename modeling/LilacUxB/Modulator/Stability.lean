import LilacUxB.Modulator.QpskTx
import LilacUxB.Modulator.QpskMod

set_option autoImplicit false

namespace LilacUxB.Modulator

def Stalled {Regs : Type} (stage : Stage Regs) (wires : Nat → SenderIn) (cycle : Nat) : Prop :=
  (stage.control (stage.run wires cycle)).outTvalid = true ∧ (wires cycle).outTready = false

def Held {Regs : Type} (stage : Stage Regs) (wires : Nat → SenderIn) (cycle : Nat) : Prop :=
  (stage.control (stage.run wires (cycle + 1))).outTvalid = true ∧
    stage.outTdata (stage.run wires (cycle + 1)) = stage.outTdata (stage.run wires cycle)

instance {Regs : Type} (stage : Stage Regs) (wires : Nat → SenderIn) (cycle : Nat) :
    Decidable (Stalled stage wires cycle) :=
  inferInstanceAs (Decidable (_ ∧ _))

instance {Regs : Type} (stage : Stage Regs) (wires : Nat → SenderIn) (cycle : Nat) :
    Decidable (Held stage wires cycle) :=
  inferInstanceAs (Decidable (_ ∧ _))

def LastPairKept (regs : SenderRegs) (wires : SenderIn) : Prop :=
  regs.cstate = .sendLast → wires.inTvalid = true → SameLastPair regs.inTdataReg wires.inTdata

theorem converter_step_held (regs : SenderRegs) (wires : SenderIn) (words : List Word) (count : Nat)
    (phase : Phase 16 AnyLate regs words count) (valid : regs.outTvalid = true) (stalled : wires.outTready = false) :
    ((senderStep converterParams regs wires).outTvalid = true ∧
      converterOutTdata (senderStep converterParams regs wires) = converterOutTdata regs) ↔
        LastPairKept regs wires := by
  cases phase with
  | idle reg words => cases valid
  | header reg before => cases valid
  | send c reg before within => simp [step_send, stalled, LastPairKept]
  | late old reg before permitted => simp [step_send, stalled, LastPairKept]
  | last reg before =>
      rw [step_last]
      cases offered : wires.inTvalid with
      | false => simp [stalled, LastPairKept, offered]
      | true =>
          have within : 16 - 1 < 16 := by decide
          simp only [stalled, LastPairKept, SameLastPair, offered, converterOutTdata, selectedSymbol, if_true,
            Bool.false_eq_true, if_false, true_and, forall_const, selected_pair_bits _ _ within]
          constructor
          · intro same
            exact (remap_injective _ _ same).symm
          · intro same
            exact congrArg remap same.symm

theorem mod_data_follows (table : SymbolTable) (regs : ModConverterRegs) (wires : SenderIn)
    (valid : (modConverterStep table regs wires).ctrl.outTvalid = true) :
    (modConverterStep table regs wires).outTdata = modSymbol table regs.ctrl.inTdataReg regs.ctrl.senderCnt := by
  simp only [modConverterStep, senderStep] at valid ⊢
  cases next : nstate modConverterParams regs.ctrl wires with
  | idle => simp [next, loadOutTvalid] at valid
  | header => simp [next, loadOutTvalid] at valid
  | send => rfl
  | sendLast => rfl

def Coherent (regs : SenderRegs) : Prop :=
  regs.inTready = loadInTready regs.cstate ∧ regs.outTvalid = loadOutTvalid regs.cstate

theorem mod_coherent (table : SymbolTable) (powerUp : Word) (wires : Nat → SenderIn) (cycle : Nat) :
    Coherent ((modConverter table powerUp).run wires cycle).ctrl :=
  (modConverter table powerUp).run_invariant wires (fun regs => Coherent regs.ctrl) ⟨rfl, rfl⟩
    (fun _ _ _ => ⟨rfl, rfl⟩) cycle

theorem mod_stall_stays_valid (table : SymbolTable) (regs : ModConverterRegs) (wires : SenderIn)
    (coherent : Coherent regs.ctrl) (valid : regs.ctrl.outTvalid = true) (stalled : wires.outTready = false) :
    (modConverterStep table regs wires).ctrl.outTvalid = true := by
  have sending := coherent.2.symm.trans valid
  simp only [modConverterStep, senderStep, nstate]
  cases state : regs.ctrl.cstate with
  | idle => simp [state, loadOutTvalid] at sending
  | header => simp [state, loadOutTvalid] at sending
  | send => simp [stalled, loadOutTvalid]
  | sendLast => cases sample regs.ctrl wires <;> simp [stalled, loadOutTvalid]

theorem mod_step_held (table : SymbolTable) (powerUp : Word) (wires : Nat → SenderIn) (cycle : Nat)
    (stalled : Stalled (modStage table powerUp) wires (cycle + 1)) :
    Held (modStage table powerUp) wires (cycle + 1) ↔
      modSymbol table ((modConverter table powerUp).run wires cycle).ctrl.inTdataReg
          ((modConverter table powerUp).run wires cycle).ctrl.senderCnt =
        modSymbol table ((modConverter table powerUp).run wires (cycle + 1)).ctrl.inTdataReg
          ((modConverter table powerUp).run wires (cycle + 1)).ctrl.senderCnt := by
  have stays := mod_stall_stays_valid table _ (wires (cycle + 1)) (mod_coherent table powerUp wires (cycle + 1))
    stalled.1 stalled.2
  have shown := mod_data_follows table ((modConverter table powerUp).run wires cycle) (wires cycle) stalled.1
  have loaded := mod_data_follows table ((modConverter table powerUp).run wires (cycle + 1)) (wires (cycle + 1)) stays
  constructor
  · intro held
    exact shown.symm.trans (held.2.symm.trans loaded)
  · intro same
    exact ⟨stays, loaded.trans (same.symm.trans shown.symm)⟩

def beatAccepted {Regs : Type} (stage : Stage Regs) (regs : Regs) (wires : SenderIn) : Option Word :=
  if sends (stage.control regs) wires then some (stage.outTdata regs) else none

def wordsTaken {Regs : Type} (stage : Stage Regs) (wires : Nat → SenderIn) (cycle : Nat) : List Word :=
  stage.log (fun regs => taken (stage.control regs)) wires cycle

def beatsAccepted {Regs : Type} (stage : Stage Regs) (wires : Nat → SenderIn) (cycle : Nat) : List Word :=
  stage.log (beatAccepted stage) wires cycle

def symbolInTurn (table : SymbolTable) (word : Word) (beats : Nat) : Word := table.symbol (bitPair word (beats % 16))

def SymbolKept (table : SymbolTable) (word : Word) (beats : Nat) : Option Word → Option Word → Prop
  | none, none => True
  | none, some _ => symbolInTurn table word beats = symbolInTurn table word (beats + 1)
  | some next, none => symbolInTurn table word beats = symbolInTurn table next beats
  | some next, some _ => symbolInTurn table word beats = symbolInTurn table next (beats + 1)

def SymbolKeptIn {Regs : Type} (table : SymbolTable) (stage : Stage Regs) (wires : Nat → SenderIn) (cycle : Nat) : Prop :=
  SymbolKept table ((wordsTaken stage wires cycle).getLastD 0) (beatsAccepted stage wires cycle).length
    (taken (stage.control (stage.run wires cycle)) (wires cycle)) (beatAccepted stage (stage.run wires cycle) (wires cycle))

instance (table : SymbolTable) (word : Word) (beats : Nat) (next beat : Option Word) :
    Decidable (SymbolKept table word beats next beat) :=
  match next, beat with
  | none, none => inferInstanceAs (Decidable True)
  | none, some _ => inferInstanceAs (Decidable (_ = _))
  | some _, none => inferInstanceAs (Decidable (_ = _))
  | some _, some _ => inferInstanceAs (Decidable (_ = _))

instance {Regs : Type} (table : SymbolTable) (stage : Stage Regs) (wires : Nat → SenderIn) (cycle : Nat) :
    Decidable (SymbolKeptIn table stage wires cycle) :=
  inferInstanceAs (Decidable (SymbolKept _ _ _ _ _))

structure Accounted (regs : SenderRegs) (words beats : List Word) : Prop where
  word : regs.inTdataReg = words.getLastD 0
  position : regs.senderCnt = beats.length % 16

theorem accounted_step (table : SymbolTable) (powerUp : Word) (regs : ModConverterRegs) (wires : SenderIn)
    (words beats : List Word) (before : Accounted regs.ctrl words beats) :
    Accounted (modConverterStep table regs wires).ctrl (words ++ (taken regs.ctrl wires).toList)
      (beats ++ (beatAccepted (modStage table powerUp) regs wires).toList) := by
  obtain ⟨word, position⟩ := before
  have next : (beats.length % 16 + 1) % 16 = (beats.length + 1) % 16 := by omega
  constructor
  · cases offered : sample regs.ctrl wires <;> simp [modConverterStep, senderStep, taken, offered, word]
  · cases accepted : sends regs.ctrl wires <;>
      simp [modConverterStep, senderStep, modConverterParams, beatAccepted, modStage, accepted, position, next]

theorem mod_accounted (table : SymbolTable) (powerUp : Word) (wires : Nat → SenderIn) (cycle : Nat) :
    Accounted ((modConverter table powerUp).run wires cycle).ctrl (wordsTaken (modStage table powerUp) wires cycle)
      (beatsAccepted (modStage table powerUp) wires cycle) := by
  refine (modConverter table powerUp).logged_invariant wires (fun regs => taken regs.ctrl)
    (beatAccepted (modStage table powerUp)) (fun regs => Accounted regs.ctrl) (fun _ _ => True) ⟨rfl, rfl⟩ ?_ cycle
    (fun _ _ => trivial)
  intro regs wires words beats before _
  exact accounted_step table powerUp regs wires words beats before

theorem mod_symbol_in_turn (table : SymbolTable) (regs : SenderRegs) (words beats : List Word)
    (accounted : Accounted regs words beats) :
    modSymbol table regs.inTdataReg regs.senderCnt = symbolInTurn table (words.getLastD 0) beats.length := by
  have within : beats.length % 16 < 16 := Nat.mod_lt _ (by decide)
  rw [modSymbol, accounted.word, accounted.position, selected_pair_bits _ _ within, symbolInTurn]

theorem symbol_kept_iff (table : SymbolTable) (words beats : List Word) (next beat : Option Word) :
    SymbolKept table (words.getLastD 0) beats.length next beat ↔
      symbolInTurn table (words.getLastD 0) beats.length =
        symbolInTurn table ((words ++ next.toList).getLastD 0) (beats ++ beat.toList).length := by
  cases next <;> cases beat <;> simp [SymbolKept]

-- The packaged converter shows a symbol one cycle after its counter selected it, so a stalled
-- output is stable exactly when the cycle before left the symbol in turn as it was.
theorem output_held_exactly (table : SymbolTable) (powerUp : Word) (wires : Nat → SenderIn) (cycle : Nat) :
    (Stalled converterStage wires cycle →
      (Held converterStage wires cycle ↔ LastPairKept (qpskDataConverter.run wires cycle) (wires cycle))) ∧
    ¬ Stalled (modStage table powerUp) wires 0 ∧
    (Stalled (modStage table powerUp) wires (cycle + 1) →
      (Held (modStage table powerUp) wires (cycle + 1) ↔ SymbolKeptIn table (modStage table powerUp) wires cycle)) := by
  refine ⟨?_, ?_, ?_⟩
  · intro stalled
    have aligned := sender_aligned 16 selectedSymbol converterParams converterOutTdata converter_counts
      converter_shows wires cycle
    exact converter_step_held _ (wires cycle) _ _ aligned.phase stalled.1 stalled.2
  · intro stalled
    cases stalled.1
  · intro stalled
    rw [mod_step_held table powerUp wires cycle stalled, mod_symbol_in_turn table _ _ _ (mod_accounted table powerUp wires cycle),
      mod_symbol_in_turn table _ _ _ (mod_accounted table powerUp wires (cycle + 1))]
    exact (symbol_kept_iff table _ _ _ _).symm

def defaultStage : Stage ModConverterRegs := modStage (levelTable 0x6665 0x999B) 0

def stallAt (first : Word) (next : Word) (accepting : Nat → Bool) (cycle : Nat) : SenderIn :=
  ⟨if cycle = 0 then first else next, true, accepting cycle⟩

theorem output_held_at_word_end :
    (Held converterStage (stallAt 0x3 0xFFFFFFFF (fun cycle => decide (cycle < 17))) 17 ↔
      LastPairKept (qpskDataConverter.run (stallAt 0x3 0xFFFFFFFF (fun cycle => decide (cycle < 17))) 17)
        (stallAt 0x3 0xFFFFFFFF (fun cycle => decide (cycle < 17)) 17)) ∧
      Held defaultStage (stallAt 0x3 0 (fun cycle => decide (cycle < 3))) 3 := by
  have deployed := (output_held_exactly (levelTable 0x6665 0x999B) 0
    (stallAt 0x3 0xFFFFFFFF (fun cycle => decide (cycle < 17))) 17).1
  have packaged := (output_held_exactly (levelTable 0x6665 0x999B) 0
    (stallAt 0x3 0 (fun cycle => decide (cycle < 3))) 2).2.2
  exact ⟨deployed (by decide +kernel), (packaged (by decide +kernel)).mpr (by decide +kernel)⟩

-- The deployed converter changes the stalled last symbol when the next word comes in, the
-- packaged one shows the next symbol a cycle after the previous one was accepted.
theorem outputs_change_while_stalled :
    (Stalled converterStage (stallAt 0 0xFFFFFFFF (fun cycle => decide (cycle < 17))) 17 ∧
      ¬ Held converterStage (stallAt 0 0xFFFFFFFF (fun cycle => decide (cycle < 17))) 17) ∧
    (Stalled defaultStage (stallAt 0x40000000 0 (fun cycle => decide (cycle < 3))) 3 ∧
      ¬ Held defaultStage (stallAt 0x40000000 0 (fun cycle => decide (cycle < 3))) 3) := by
  decide +kernel

end LilacUxB.Modulator
