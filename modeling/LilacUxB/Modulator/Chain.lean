import LilacUxB.Modulator.Repeater

set_option autoImplicit false

namespace LilacUxB.Modulator

structure Stage (Regs : Type) extends Clocked.Machine Regs SenderIn where
  control : Regs → SenderRegs
  outTdata : Regs → Word

structure ChainRegs (Regs : Type) where
  converter : Regs
  repeater : SenderRegs
deriving DecidableEq, Repr

structure Offer where
  tdata : Word
  tvalid : Bool
deriving DecidableEq, Repr

def converterWires {Regs : Type} (regs : ChainRegs Regs) (wires : SenderIn) : SenderIn :=
  ⟨wires.inTdata, wires.inTvalid, regs.repeater.inTready⟩

def repeaterWires {Regs : Type} (stage : Stage Regs) (regs : ChainRegs Regs) (wires : SenderIn) : SenderIn :=
  ⟨stage.outTdata regs.converter, (stage.control regs.converter).outTvalid, wires.outTready⟩

-- QPSK_data_converter -> Repeater #(N), as the block design and QPSK_Mod.v connect them.
def chain {Regs : Type} (stage : Stage Regs) (n : Nat) : Clocked.Machine (ChainRegs Regs) SenderIn where
  reset := ⟨stage.reset, senderReset⟩
  step regs wires :=
    ⟨stage.step regs.converter (converterWires regs wires),
      senderStep (repeaterParams n) regs.repeater (repeaterWires stage regs wires)⟩

def wordTaken {Regs : Type} (stage : Stage Regs) (regs : ChainRegs Regs) (wires : SenderIn) : Option Word :=
  taken (stage.control regs.converter) (converterWires regs wires)

def symbolPassed {Regs : Type} (stage : Stage Regs) (regs : ChainRegs Regs) (wires : SenderIn) : Option Word :=
  taken regs.repeater (repeaterWires stage regs wires)

def beatDelivered {Regs : Type} (stage : Stage Regs) (regs : ChainRegs Regs) (wires : SenderIn) : Option Word :=
  sent repeaterOutTdata regs.repeater (repeaterWires stage regs wires)

def readySink (source : Nat → Offer) (cycle : Nat) : SenderIn :=
  ⟨(source cycle).tdata, (source cycle).tvalid, true⟩

def SourceHolds {Regs : Type} (stage : Stage Regs) (n : Nat) (source : Nat → Offer) : Prop :=
  ∀ cycle, (source cycle).tvalid = true →
    (stage.control ((chain stage n).run (readySink source) cycle).converter).inTready = false →
    source (cycle + 1) = source cycle

def repeats (n : Nat) (symbols : List Word) : List Word := symbols.flatMap (List.replicate n)

theorem repeats_stream (n : Nat) (symbols : List Word) :
    repeats n symbols = Slots.stream n (fun word _ => word) symbols := by
  rw [repeats, Slots.stream, Slots.frame_constant]

theorem symbol_passed_sent {Regs : Type} (stage : Stage Regs) (regs : ChainRegs Regs) (wires : SenderIn) :
    symbolPassed stage regs wires =
      if sends (stage.control regs.converter) (converterWires regs wires) then
        some (stage.outTdata regs.converter) else none := rfl

def NeverLate : Word → Word → Prop := fun _ _ => False

theorem ready_never_overtakes (Late : Word → Word → Prop) (regs : SenderRegs) (wires : SenderIn)
    (ready : wires.outTready = true) : Permits Late regs wires := by
  intro overtakes
  rw [overtakes.2.2] at ready
  cases ready

theorem repeater_aligned {Regs : Type} (stage : Stage Regs) (n : Nat) (two : 2 ≤ n) (source : Nat → Offer)
    (cycle : Nat) :
    Aligned n (fun word _ => word) NeverLate ((chain stage n).run (readySink source) cycle).repeater
      ((chain stage n).log (symbolPassed stage) (readySink source) cycle)
      ((chain stage n).log (beatDelivered stage) (readySink source) cycle) := by
  refine (chain stage n).logged_invariant (readySink source) (symbolPassed stage) (beatDelivered stage)
    (fun regs symbols beats => Aligned n (fun word _ => word) NeverLate regs.repeater symbols beats)
    (fun _ wires => wires.outTready = true) (aligned_reset n _ NeverLate) ?_ cycle (fun _ _ => rfl)
  intro regs wires symbols beats aligned ready
  exact aligned_step n _ NeverLate (repeaterParams n) repeaterOutTdata (repeater_counts n two) repeater_shows
    regs.repeater symbols beats (repeaterWires stage regs wires) aligned
    (ready_never_overtakes NeverLate regs.repeater _ ready)

theorem repeater_beats_follow {Regs : Type} (stage : Stage Regs) (n : Nat) (two : 2 ≤ n) (source : Nat → Offer)
    (cycle : Nat) :
    (chain stage n).log (beatDelivered stage) (readySink source) cycle <+:
      repeats n ((chain stage n).log (symbolPassed stage) (readySink source) cycle) := by
  rw [repeats_stream]
  exact Slots.prefix_of_slots n (by omega) _ NeverLate _ _ (fun _ _ late => False.elim late)
    (repeater_aligned stage n two source cycle).origin

end LilacUxB.Modulator
