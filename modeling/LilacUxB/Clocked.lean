import Mathlib

set_option autoImplicit false

-- Synchronous machines in general: one clock, every register loaded at the same edge.
namespace Clocked

structure Machine (State Input : Type) where
  reset : State
  step : State → Input → State

namespace Machine

def run {State Input : Type} (machine : Machine State Input) (inputs : Nat → Input) : Nat → State
  | 0 => machine.reset
  | cycle + 1 => machine.step (machine.run inputs cycle) (inputs cycle)

def log {State Input Beat : Type} (machine : Machine State Input) (channel : State → Input → Option Beat)
    (inputs : Nat → Input) : Nat → List Beat
  | 0 => []
  | cycle + 1 => machine.log channel inputs cycle ++ (channel (machine.run inputs cycle) (inputs cycle)).toList

-- The step premise may use whatever holds of the run's own steps, so that a
-- result under a condition on the steps taken needs no second induction.
theorem run_induction {State Input : Type} (machine : Machine State Input) (inputs : Nat → Input)
    (Inv : Nat → State → Prop) (Allowed : State → Input → Prop) (start : Inv 0 machine.reset)
    (kept : ∀ cycle state, Inv cycle state → Allowed state (inputs cycle) →
      Inv (cycle + 1) (machine.step state (inputs cycle)))
    (cycle : Nat) (allowed : ∀ earlier, earlier < cycle → Allowed (machine.run inputs earlier) (inputs earlier)) :
    Inv cycle (machine.run inputs cycle) := by
  induction cycle with
  | zero => exact start
  | succ cycle ih =>
      have before := ih (fun earlier less => allowed earlier (Nat.lt_succ_of_lt less))
      exact kept cycle _ before (allowed cycle (Nat.lt_succ_self cycle))

theorem run_invariant {State Input : Type} (machine : Machine State Input) (inputs : Nat → Input)
    (Inv : State → Prop) (start : Inv machine.reset)
    (kept : ∀ state input, Inv state → Inv (machine.step state input)) (cycle : Nat) :
    Inv (machine.run inputs cycle) :=
  machine.run_induction inputs (fun _ => Inv) (fun _ _ => True) start
    (fun _ state inv _ => kept state _ inv) cycle (fun _ _ => trivial)

theorem logged_invariant {State Input Taken Sent : Type} (machine : Machine State Input) (inputs : Nat → Input)
    (taken : State → Input → Option Taken) (sent : State → Input → Option Sent)
    (Inv : State → List Taken → List Sent → Prop) (Allowed : State → Input → Prop)
    (start : Inv machine.reset [] [])
    (kept : ∀ state input words beats, Inv state words beats → Allowed state input →
      Inv (machine.step state input) (words ++ (taken state input).toList) (beats ++ (sent state input).toList))
    (cycle : Nat) (allowed : ∀ earlier, earlier < cycle → Allowed (machine.run inputs earlier) (inputs earlier)) :
    Inv (machine.run inputs cycle) (machine.log taken inputs cycle) (machine.log sent inputs cycle) := by
  induction cycle with
  | zero => exact start
  | succ cycle ih =>
      have before := ih (fun earlier less => allowed earlier (Nat.lt_succ_of_lt less))
      exact kept _ _ _ _ before (allowed cycle (Nat.lt_succ_self cycle))

end Machine

end Clocked
