import LilacUxB.Modulator.QpskTx
import LilacUxB.Modulator.QpskMod

set_option autoImplicit false

namespace LilacUxB.Modulator

def countingParams (endCnt : Nat) : SenderParams := ⟨endCnt, fun count => (count + 1) % 16⟩

-- Source and sink never pause: the converter takes its next word in the first repetition of
-- the symbol that follows the one counted `endCnt`.
def takesWord (endCnt symbol beat : Nat) : Bool := decide ((symbol + 1) % 16 = (endCnt + 1) % 16 ∧ beat = 0)

def steadyConverter (endCnt symbol beat : Nat) (reg : Word) : SenderRegs :=
  ⟨(symbol + 1) % 16, reg, if takesWord endCnt symbol beat then .sendLast else .send, takesWord endCnt symbol beat, true⟩

def steadyRepeater (n beat : Nat) (reg : Word) : SenderRegs :=
  ⟨beat, reg, if beat + 1 = n then .sendLast else .send, decide (beat + 1 = n), true⟩

def Steady (n endCnt symbol beat : Nat) (converter repeater : SenderRegs) : Prop :=
  (∃ reg, converter = steadyConverter endCnt symbol beat reg) ∧ ∃ reg, repeater = steadyRepeater n beat reg

theorem converter_waits (endCnt symbol beat : Nat) (reg : Word) (wires : SenderIn)
    (offered : wires.inTvalid = true) (stalled : wires.outTready = false) :
    ∃ next, senderStep (countingParams endCnt) (steadyConverter endCnt symbol beat reg) wires =
      steadyConverter endCnt symbol (beat + 1) next := by
  have later : takesWord endCnt symbol (beat + 1) = false := by simp [takesWord]
  cases takes : takesWord endCnt symbol beat with
  | true => exact ⟨wires.inTdata, by simp [steadyConverter, takes, later, step_last, offered, stalled]⟩
  | false => exact ⟨reg, by simp [steadyConverter, takes, later, step_send, stalled]⟩

theorem converter_advances (endCnt symbol beat : Nat) (endsWord : endCnt < 16) (started : 0 < beat) (reg : Word)
    (wires : SenderIn) (accepted : wires.outTready = true) :
    senderStep (countingParams endCnt) (steadyConverter endCnt symbol beat reg) wires =
      steadyConverter endCnt (symbol + 1) 0 reg := by
  have takes : takesWord endCnt symbol beat = false := by simp [takesWord, Nat.ne_of_gt started]
  have next : ((symbol + 1) % 16 + 1) % 16 = (symbol + 1 + 1) % 16 := by omega
  by_cases ended : (symbol + 1) % 16 = endCnt
  · have takesNext : takesWord endCnt (symbol + 1) 0 = true := by
      simp only [takesWord, and_true, decide_eq_true_eq]
      omega
    simp [steadyConverter, takes, takesNext, step_send, accepted, countingParams, ended]
    omega
  · have takesNext : takesWord endCnt (symbol + 1) 0 = false := by
      simp only [takesWord, and_true, decide_eq_false_iff_not]
      omega
    simp [steadyConverter, takes, takesNext, step_send, accepted, countingParams, ended, next]

theorem repeater_repeats (n beat : Nat) (two : 2 ≤ n) (more : beat + 1 < n) (reg : Word) (wires : SenderIn)
    (sink : wires.outTready = true) :
    senderStep (repeaterParams n) (steadyRepeater n beat reg) wires = steadyRepeater n (beat + 1) reg := by
  have notLast : beat + 1 ≠ n := Nat.ne_of_lt more
  have counted : (repeaterParams n).advance beat = beat + 1 := (repeater_counts n two).next beat more
  have ends := (repeater_counts n two).ends
  by_cases ended : beat = (repeaterParams n).endCnt
  · have reaches : beat + 1 + 1 = n := by omega
    simp [steadyRepeater, notLast, reaches, step_send, sink, counted, ← ended]
  · have continues : beat + 1 + 1 ≠ n := by omega
    simp [steadyRepeater, notLast, continues, step_send, sink, counted, ended]

theorem repeater_advances (n : Nat) (two : 2 ≤ n) (reg : Word) (wires : SenderIn) (sink : wires.outTready = true)
    (offered : wires.inTvalid = true) :
    senderStep (repeaterParams n) (steadyRepeater n (n - 1) reg) wires = steadyRepeater n 0 wires.inTdata := by
  have last : n - 1 + 1 = n := by omega
  have first : 0 + 1 ≠ n := by omega
  have wraps := (repeater_counts n two).wraps
  simp [steadyRepeater, last, first, step_last, sink, offered, wraps]

def ControlledBy {Regs : Type} (stage : Stage Regs) (endCnt : Nat) : Prop :=
  stage.control stage.reset = senderReset ∧
    ∀ regs wires, stage.control (stage.step regs wires) = senderStep (countingParams endCnt) (stage.control regs) wires

def SteadyChain {Regs : Type} (stage : Stage Regs) (n endCnt later : Nat) (regs : ChainRegs Regs) : Prop :=
  Steady n endCnt (later / n) (later % n) (stage.control regs.converter) regs.repeater

theorem steady_chain_step {Regs : Type} (stage : Stage Regs) (n endCnt later : Nat) (two : 2 ≤ n) (endsWord : endCnt < 16)
    (controlled : ControlledBy stage endCnt) (regs : ChainRegs Regs) (wires : SenderIn)
    (offered : wires.inTvalid = true) (sink : wires.outTready = true) (steady : SteadyChain stage n endCnt later regs) :
    SteadyChain stage n endCnt (later + 1) ((chain stage n).step regs wires) := by
  obtain ⟨⟨converterReg, converter⟩, repeaterReg, repeater⟩ := steady
  have below : later % n < n := Nat.mod_lt later (by omega)
  simp only [SteadyChain, Steady, chain, controlled.2, converter, repeater]
  by_cases more : later % n + 1 < n
  · have symbol : (later + 1) / n = later / n := by
      rw [Nat.succ_div_of_not_dvd]
      intro divides
      have zero := Nat.mod_eq_zero_of_dvd divides
      rw [Nat.add_mod, Nat.mod_eq_of_lt two, Nat.mod_eq_of_lt more] at zero
      omega
    have beat : (later + 1) % n = later % n + 1 := by
      rw [Nat.add_mod, Nat.mod_eq_of_lt two, Nat.mod_eq_of_lt more]
    rw [symbol, beat]
    refine ⟨converter_waits endCnt _ _ converterReg _ offered ?_, repeaterReg,
      repeater_repeats n _ two more repeaterReg _ sink⟩
    simp [converterWires, repeater, steadyRepeater, Nat.ne_of_lt more]
  · have last : later % n = n - 1 := by omega
    have symbol : (later + 1) / n = later / n + 1 := by
      apply Nat.succ_div_of_dvd
      apply Nat.dvd_of_mod_eq_zero
      rw [Nat.add_mod, Nat.mod_eq_of_lt two, last, Nat.sub_add_cancel (by omega), Nat.mod_self]
    have beat : (later + 1) % n = 0 := by
      rw [Nat.add_mod, Nat.mod_eq_of_lt two, last, Nat.sub_add_cancel (by omega), Nat.mod_self]
    rw [symbol, beat, last]
    refine ⟨⟨converterReg, converter_advances endCnt _ _ endsWord (by omega) converterReg _ ?_⟩, _,
      repeater_advances n two repeaterReg _ sink ?_⟩
    · simp [converterWires, repeater, steadyRepeater, last]
      omega
    · simp [repeaterWires, converter, steadyConverter]

def NeverPauses (wires : Nat → SenderIn) : Prop :=
  ∀ cycle, (wires cycle).inTvalid = true ∧ (wires cycle).outTready = true

theorem chain_converter_step {Regs : Type} (stage : Stage Regs) (n endCnt : Nat) (controlled : ControlledBy stage endCnt)
    (wires : Nat → SenderIn) (cycle : Nat) :
    stage.control ((chain stage n).run wires (cycle + 1)).converter =
      senderStep (countingParams endCnt) (stage.control ((chain stage n).run wires cycle).converter)
        (converterWires ((chain stage n).run wires cycle) (wires cycle)) :=
  controlled.2 _ _

theorem chain_repeater_step {Regs : Type} (stage : Stage Regs) (n : Nat) (wires : Nat → SenderIn) (cycle : Nat) :
    ((chain stage n).run wires (cycle + 1)).repeater =
      senderStep (repeaterParams n) ((chain stage n).run wires cycle).repeater
        (repeaterWires stage ((chain stage n).run wires cycle) (wires cycle)) := rfl

theorem chain_after_one {Regs : Type} (stage : Stage Regs) (n endCnt : Nat) (controlled : ControlledBy stage endCnt)
    (wires : Nat → SenderIn) (flowing : NeverPauses wires) :
    stage.control ((chain stage n).run wires 1).converter = ⟨0, (wires 0).inTdata, .header, false, false⟩ ∧
      ((chain stage n).run wires 1).repeater = senderReset := by
  have converter0 : stage.control ((chain stage n).run wires 0).converter = senderReset := controlled.1
  have repeater0 : ((chain stage n).run wires 0).repeater = senderReset := rfl
  have converter1 := chain_converter_step stage n endCnt controlled wires 0
  have repeater1 := chain_repeater_step stage n wires 0
  rw [converter0, senderReset, step_idle] at converter1
  rw [repeater0, senderReset, step_idle] at repeater1
  simp only [converterWires, repeaterWires, converter0, senderReset, (flowing 0).1, if_true, Bool.false_eq_true,
    if_false] at converter1 repeater1
  exact ⟨converter1, repeater1⟩

theorem chain_after_two {Regs : Type} (stage : Stage Regs) (n endCnt : Nat) (controlled : ControlledBy stage endCnt)
    (wires : Nat → SenderIn) (flowing : NeverPauses wires) :
    stage.control ((chain stage n).run wires 2).converter = ⟨0, (wires 0).inTdata, .send, false, true⟩ ∧
      ((chain stage n).run wires 2).repeater = senderReset := by
  obtain ⟨converter1, repeater1⟩ := chain_after_one stage n endCnt controlled wires flowing
  have converter2 := chain_converter_step stage n endCnt controlled wires 1
  have repeater2 := chain_repeater_step stage n wires 1
  rw [converter1, step_header] at converter2
  rw [repeater1, senderReset, step_idle] at repeater2
  simp only [repeaterWires, converter1, Bool.false_eq_true, if_false] at repeater2
  exact ⟨converter2, repeater2⟩

theorem chain_after_three {Regs : Type} (stage : Stage Regs) (n endCnt : Nat) (ends : 0 < endCnt)
    (controlled : ControlledBy stage endCnt) (wires : Nat → SenderIn) (flowing : NeverPauses wires) :
    stage.control ((chain stage n).run wires 3).converter = ⟨(0 + 1) % 16, (wires 0).inTdata, .send, false, true⟩ ∧
      ∃ symbol, ((chain stage n).run wires 3).repeater = ⟨0, symbol, .header, false, false⟩ := by
  have notEnd : ¬ 0 = endCnt := Nat.ne_of_lt ends
  obtain ⟨converter2, repeater2⟩ := chain_after_two stage n endCnt controlled wires flowing
  have converter3 := chain_converter_step stage n endCnt controlled wires 2
  have repeater3 := chain_repeater_step stage n wires 2
  rw [converter2, step_send] at converter3
  rw [repeater2, senderReset, step_idle] at repeater3
  simp only [converterWires, repeater2, senderReset, countingParams, notEnd, if_true, if_false] at converter3
  simp only [repeaterWires, converter2, if_true] at repeater3
  exact ⟨converter3, _, repeater3⟩

theorem chain_after_four {Regs : Type} (stage : Stage Regs) (n endCnt : Nat) (ends : 0 < endCnt)
    (controlled : ControlledBy stage endCnt) (wires : Nat → SenderIn) (flowing : NeverPauses wires) :
    stage.control ((chain stage n).run wires 4).converter = ⟨(0 + 1) % 16, (wires 0).inTdata, .send, false, true⟩ ∧
      ∃ symbol, ((chain stage n).run wires 4).repeater = ⟨0, symbol, .send, false, true⟩ := by
  obtain ⟨converter3, symbol, repeater3⟩ := chain_after_three stage n endCnt ends controlled wires flowing
  have converter4 := chain_converter_step stage n endCnt controlled wires 3
  have repeater4 := chain_repeater_step stage n wires 3
  rw [converter3, step_send] at converter4
  rw [repeater3, step_header] at repeater4
  simp only [converterWires, repeater3, Bool.false_eq_true, if_false] at converter4
  exact ⟨converter4, symbol, repeater4⟩

theorem chain_start {Regs : Type} (stage : Stage Regs) (n endCnt : Nat) (two : 2 ≤ n) (ends : 0 < endCnt)
    (endsWord : endCnt < 16) (controlled : ControlledBy stage endCnt) (wires : Nat → SenderIn)
    (flowing : NeverPauses wires) :
    SteadyChain stage n endCnt 0 ((chain stage n).run wires 4) ∧
      ∀ cycle, cycle < 4 → ((chain stage n).run wires cycle).repeater.outTvalid = false ∧
        ((stage.control ((chain stage n).run wires cycle).converter).inTready = true ↔ cycle = 0) := by
  obtain ⟨converter1, repeater1⟩ := chain_after_one stage n endCnt controlled wires flowing
  obtain ⟨converter2, repeater2⟩ := chain_after_two stage n endCnt controlled wires flowing
  obtain ⟨converter3, symbol3, repeater3⟩ := chain_after_three stage n endCnt ends controlled wires flowing
  obtain ⟨converter4, symbol4, repeater4⟩ := chain_after_four stage n endCnt ends controlled wires flowing
  have first : 0 + 1 ≠ n := by omega
  have takes : takesWord endCnt 0 0 = false := by
    simp only [takesWord, and_true, decide_eq_false_iff_not]
    omega
  constructor
  · rw [SteadyChain, Nat.zero_div, Nat.zero_mod]
    refine ⟨⟨(wires 0).inTdata, ?_⟩, symbol4, ?_⟩
    · rw [converter4]
      simp [steadyConverter, takes]
    · exact repeater4.trans (by simp [steadyRepeater, first])
  · intro cycle early
    have cases4 : cycle = 0 ∨ cycle = 1 ∨ cycle = 2 ∨ cycle = 3 := by omega
    rcases cases4 with rfl | rfl | rfl | rfl
    · have converter0 : stage.control ((chain stage n).run wires 0).converter = senderReset := controlled.1
      have repeater0 : ((chain stage n).run wires 0).repeater = senderReset := rfl
      simp [converter0, repeater0, senderReset]
    · simp [converter1, repeater1, senderReset]
    · simp [converter2, repeater2, senderReset]
    · simp [converter3, repeater3]

theorem steady_forever {Regs : Type} (stage : Stage Regs) (n endCnt : Nat) (two : 2 ≤ n) (ends : 0 < endCnt)
    (endsWord : endCnt < 16) (controlled : ControlledBy stage endCnt) (wires : Nat → SenderIn)
    (flowing : NeverPauses wires) (later : Nat) :
    SteadyChain stage n endCnt later ((chain stage n).run wires (4 + later)) := by
  induction later with
  | zero => exact (chain_start stage n endCnt two ends endsWord controlled wires flowing).1
  | succ later ih =>
      exact steady_chain_step stage n endCnt later two endsWord controlled _ (wires (4 + later))
        (flowing (4 + later)).1 (flowing (4 + later)).2 ih

def Accepts {Regs : Type} (stage : Stage Regs) (n : Nat) (wires : Nat → SenderIn) (cycle : Nat) : Prop :=
  (wordTaken stage ((chain stage n).run wires cycle) (wires cycle)).isSome = true

theorem accepts_ready {Regs : Type} (stage : Stage Regs) (n : Nat) (wires : Nat → SenderIn)
    (flowing : NeverPauses wires) (cycle : Nat) :
    Accepts stage n wires cycle ↔
      (stage.control ((chain stage n).run wires cycle).converter).inTready = true := by
  simp [Accepts, wordTaken, taken, sample, converterWires, (flowing cycle).1]

def WordTime (n endCnt later : Nat) : Prop := later % n = 0 ∧ (later / n + 1) % 16 = (endCnt + 1) % 16

theorem accepts_times {Regs : Type} (stage : Stage Regs) (n endCnt : Nat) (two : 2 ≤ n) (ends : 0 < endCnt)
    (endsWord : endCnt < 16) (controlled : ControlledBy stage endCnt) (wires : Nat → SenderIn)
    (flowing : NeverPauses wires) (cycle : Nat) :
    Accepts stage n wires cycle ↔ cycle = 0 ∨ ∃ later, cycle = 4 + later ∧ WordTime n endCnt later := by
  rw [accepts_ready stage n wires flowing]
  by_cases early : cycle < 4
  · rw [((chain_start stage n endCnt two ends endsWord controlled wires flowing).2 cycle early).2]
    constructor
    · exact Or.inl
    · rintro (zero | ⟨later, place, _⟩)
      · exact zero
      · omega
  · obtain ⟨later, rfl⟩ : ∃ later, cycle = 4 + later := ⟨cycle - 4, by omega⟩
    obtain ⟨⟨reg, converter⟩, _⟩ := steady_forever stage n endCnt two ends endsWord controlled wires flowing later
    have ready : (stage.control ((chain stage n).run wires (4 + later)).converter).inTready = true ↔
        WordTime n endCnt later := by
      simp [converter, steadyConverter, takesWord, WordTime, And.comm]
    rw [ready]
    constructor
    · exact fun time => Or.inr ⟨later, rfl, time⟩
    · rintro (zero | ⟨same, place, time⟩)
      · omega
      · rwa [Nat.add_left_cancel place]

theorem word_time_next (n endCnt later : Nat) (positive : 0 < n) (time : WordTime n endCnt later) :
    WordTime n endCnt (later + 16 * n) ∧
      ∀ between, later < between → between < later + 16 * n → ¬ WordTime n endCnt between := by
  obtain ⟨aligned, phase⟩ := time
  constructor
  · constructor
    · rw [Nat.add_mul_mod_self_right, aligned]
    · rw [Nat.add_mul_div_right _ _ positive]
      omega
  · rintro between after before ⟨betweenAligned, betweenPhase⟩
    have laterWords := Nat.div_add_mod later n
    have betweenWords := Nat.div_add_mod between n
    rw [aligned, Nat.add_zero] at laterWords
    rw [betweenAligned, Nat.add_zero] at betweenWords
    have more : later / n < between / n := by
      apply Nat.lt_of_mul_lt_mul_left (a := n)
      omega
    have fewer : between / n < later / n + 16 := by
      apply Nat.lt_of_mul_lt_mul_left (a := n)
      rw [Nat.mul_add, Nat.mul_comm n 16]
      omega
    omega

structure ConstantRate {Regs : Type} (stage : Stage Regs) (n : Nat) (wires : Nat → SenderIn) : Prop where
  noBubble : ∀ cycle, ((chain stage n).run wires cycle).repeater.outTvalid = true → ∀ later, cycle ≤ later →
    ((chain stage n).run wires later).repeater.outTvalid = true ∧
      (stage.control ((chain stage n).run wires later).converter).cstate ≠ .idle ∧
      (stage.control ((chain stage n).run wires later).converter).cstate ≠ .header ∧
      ((chain stage n).run wires later).repeater.cstate ≠ .idle ∧
      ((chain stage n).run wires later).repeater.cstate ≠ .header
  secondWord : ∃ cycle, 0 < cycle ∧ Accepts stage n wires cycle
  spacing : ∀ cycle, Accepts stage n wires cycle → (∃ earlier, earlier < cycle ∧ Accepts stage n wires earlier) →
    Accepts stage n wires (cycle + 16 * n) ∧
      ∀ between, cycle < between → between < cycle + 16 * n → ¬ Accepts stage n wires between

theorem steady_no_bubble {Regs : Type} (stage : Stage Regs) (n endCnt later : Nat) (regs : ChainRegs Regs)
    (steady : SteadyChain stage n endCnt later regs) :
    regs.repeater.outTvalid = true ∧ (stage.control regs.converter).cstate ≠ .idle ∧
      (stage.control regs.converter).cstate ≠ .header ∧ regs.repeater.cstate ≠ .idle ∧
      regs.repeater.cstate ≠ .header := by
  obtain ⟨⟨converterReg, converter⟩, repeaterReg, repeater⟩ := steady
  rw [converter, repeater]
  refine ⟨rfl, ?_, ?_, ?_, ?_⟩ <;> simp only [steadyConverter, steadyRepeater] <;> split <;> simp

theorem chain_constant_rate {Regs : Type} (stage : Stage Regs) (n endCnt : Nat) (two : 2 ≤ n) (ends : 0 < endCnt)
    (endsWord : endCnt < 16) (controlled : ControlledBy stage endCnt) (wires : Nat → SenderIn)
    (flowing : NeverPauses wires) : ConstantRate stage n wires := by
  have times := accepts_times stage n endCnt two ends endsWord controlled wires flowing
  refine ⟨?_, ?_, ?_⟩
  · intro cycle valid later after
    have started : 4 ≤ cycle := by
      apply Nat.le_of_not_lt
      intro early
      rw [((chain_start stage n endCnt two ends endsWord controlled wires flowing).2 cycle early).1] at valid
      cases valid
    obtain ⟨since, rfl⟩ : ∃ since, later = 4 + since := ⟨later - 4, by omega⟩
    exact steady_no_bubble stage n endCnt since _
      (steady_forever stage n endCnt two ends endsWord controlled wires flowing since)
  · refine ⟨4 + n * endCnt, by omega, (times _).mpr (Or.inr ⟨n * endCnt, rfl, ?_, ?_⟩)⟩
    · rw [Nat.mul_mod_right]
    · rw [Nat.mul_div_cancel_left endCnt (by omega)]
  · rintro cycle accepted ⟨earlier, before, _⟩
    rcases (times cycle).mp accepted with zero | ⟨later, rfl, time⟩
    · omega
    · obtain ⟨next, quiet⟩ := word_time_next n endCnt later (by omega) time
      refine ⟨(times _).mpr (Or.inr ⟨later + 16 * n, by omega, next⟩), ?_⟩
      intro between after below again
      rcases (times between).mp again with zero | ⟨other, rfl, otherTime⟩
      · omega
      · exact quiet other (by omega) (by omega) otherTime

theorem modulator_constant_rate (n : Nat) (two : 2 ≤ n) (table : SymbolTable) (powerUp : Word)
    (wires : Nat → SenderIn) (flowing : NeverPauses wires) :
    ConstantRate converterStage n wires ∧ ConstantRate (modStage table powerUp) n wires :=
  ⟨chain_constant_rate converterStage n 14 two (by decide) (by decide) ⟨rfl, fun _ _ => rfl⟩ wires flowing,
    chain_constant_rate (modStage table powerUp) n 15 two (by decide) (by decide) ⟨rfl, fun _ _ => rfl⟩ wires flowing⟩

theorem deployed_constant_rate :
    ConstantRate converterStage 5 (fun cycle => ⟨BitVec.ofNat 32 cycle, true, true⟩) ∧
      ConstantRate (modStage (levelTable 0x6665 0x999B) 0) 5 (fun cycle => ⟨BitVec.ofNat 32 cycle, true, true⟩) :=
  modulator_constant_rate 5 (by decide) (levelTable 0x6665 0x999B) 0 _ (fun _ => ⟨rfl, rfl⟩)

end LilacUxB.Modulator
