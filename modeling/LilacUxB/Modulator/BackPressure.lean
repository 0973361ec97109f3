import LilacUxB.Modulator.Chain

set_option autoImplicit false

-- Repeater.v by itself, between any source and any sink.
namespace LilacUxB.Modulator

-- The rule AXI4-Stream sets a source: an offer stays on the bus until it is accepted.
def OfferHeld (n : Nat) (wires : Nat → SenderIn) : Prop :=
  ∀ cycle, (wires cycle).inTvalid = true → ((repeater n).run wires cycle).inTready = false →
    (wires (cycle + 1)).inTvalid = true ∧ (wires (cycle + 1)).inTdata = (wires cycle).inTdata

def acceptedWords (n : Nat) (wires : Nat → SenderIn) (cycle : Nat) : List Word :=
  (repeater n).log taken wires cycle

def acceptedBeats (n : Nat) (wires : Nat → SenderIn) (cycle : Nat) : List Word :=
  (repeater n).log (sent repeaterOutTdata) wires cycle

def RepetitionKept (regs : SenderRegs) (wires : SenderIn) : Prop := Permits Eq regs wires

instance (regs : SenderRegs) (wires : SenderIn) : Decidable (RepetitionKept regs wires) :=
  inferInstanceAs (Decidable (
    (regs.cstate = .sendLast ∧ wires.inTvalid = true ∧ wires.outTready = false) →
      regs.inTdataReg = wires.inTdata))

theorem repeater_alone_aligned (n : Nat) (two : 2 ≤ n) (wires : Nat → SenderIn) (cycle : Nat)
    (kept : ∀ earlier, earlier < cycle → RepetitionKept ((repeater n).run wires earlier) (wires earlier)) :
    Aligned n (fun word _ => word) Eq ((repeater n).run wires cycle) (acceptedWords n wires cycle)
      (acceptedBeats n wires cycle) := by
  refine (repeater n).logged_invariant wires taken (sent repeaterOutTdata) (Aligned n (fun word _ => word) Eq)
    RepetitionKept (aligned_reset n _ Eq) ?_ cycle kept
  intro regs input words beats aligned permits
  exact aligned_step n _ Eq (repeaterParams n) repeaterOutTdata (repeater_counts n two) repeater_shows
    regs words beats input aligned permits

theorem repetitions_follow_words (n : Nat) (two : 2 ≤ n) (wires : Nat → SenderIn) (cycle : Nat)
    (kept : ∀ earlier, earlier < cycle → RepetitionKept ((repeater n).run wires earlier) (wires earlier)) :
    acceptedBeats n wires cycle <+: repeats n (acceptedWords n wires cycle) := by
  rw [repeats_stream]
  exact Slots.prefix_of_slots n (by omega) _ Eq _ _ (fun _ _ same => same)
    (repeater_alone_aligned n two wires cycle kept).origin

-- The second 7 is taken over the stalled last repetition of the first, the 9 with an accepted one.
def sevensThenNine (cycle : Nat) : SenderIn := ⟨if cycle < 20 then 7 else 9, true, cycle % 3 == 2 || cycle == 21⟩

theorem three_words_repeated :
    acceptedBeats 4 sevensThenNine 30 <+: repeats 4 (acceptedWords 4 sevensThenNine 30) :=
  repetitions_follow_words 4 (by decide) sevensThenNine 30 (by decide +kernel)

-- Word 1, then word 2 offered until accepted; the sink stalls in cycle 5 only.
def stalledLast (cycle : Nat) : SenderIn := ⟨if cycle = 0 then 1 else 2, true, cycle != 5⟩

-- In cycle 5 the fourth repetition of word 1 waits for the sink while word 2 is
-- taken into the register it is shown from: three repetitions of 1, then 2.
theorem repeater_overwrites_last :
    OfferHeld 4 stalledLast ∧
      ¬ acceptedBeats 4 stalledLast 20 <+: repeats 4 (acceptedWords 4 stalledLast 20) := by
  constructor
  · intro cycle _ stalled
    cases cycle with
    | zero => cases stalled
    | succ cycle => exact ⟨rfl, rfl⟩
  · decide +kernel

end LilacUxB.Modulator
