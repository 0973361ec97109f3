import Mathlib

set_option autoImplicit false

namespace Transitions

structure System (State Event : Type) where
  start : State → Prop
  step : State → Event → Option State

-- Runs whose steps all meet a rule. The list holds the events taken, newest first.
inductive Run {State Event : Type} (system : System State Event) (Rule : State → Event → Prop) :
    List Event → State → Prop
  | start (state : State) (started : system.start state) : Run system Rule [] state
  | next (events : List Event) (state : State) (event : Event) (after : State)
      (before : Run system Rule events state) (rule : Rule state event)
      (taken : system.step state event = some after) : Run system Rule (event :: events) after

namespace Run

theorem history_invariant {State Event : Type} {system : System State Event} {Rule : State → Event → Prop}
    (Inv : List Event → State → Prop) (started : ∀ state, system.start state → Inv [] state)
    (kept : ∀ events state event after, Inv events state → Rule state event →
      system.step state event = some after → Inv (event :: events) after)
    {events : List Event} {state : State} (run : Run system Rule events state) : Inv events state := by
  induction run with
  | start state starts => exact started state starts
  | next events state event after before rule taken ih => exact kept events state event after ih rule taken

theorem invariant {State Event : Type} {system : System State Event} {Rule : State → Event → Prop}
    (Inv : State → Prop) (started : ∀ state, system.start state → Inv state)
    (kept : ∀ state event after, Inv state → Rule state event → system.step state event = some after → Inv after)
    {events : List Event} {state : State} (run : Run system Rule events state) : Inv state :=
  run.history_invariant (fun _ => Inv) started
    (fun _ state event after inv rule taken => kept state event after inv rule taken)

theorem length_bound {State Event : Type} {system : System State Event} {Rule : State → Event → Prop}
    (rank : State → Nat) (bound : Nat) (started : ∀ state, system.start state → rank state ≤ bound)
    (lowered : ∀ events state event after, Run system Rule events state → Rule state event →
      system.step state event = some after → rank after < rank state)
    {events : List Event} {state : State} (run : Run system Rule events state) :
    events.length + rank state ≤ bound := by
  induction run with
  | start state starts => simpa using started state starts
  | next events state event after before rule taken ih =>
      have less := lowered events state event after before rule taken
      rw [List.length_cons]
      omega

theorem change_rule {State Event : Type} {system : System State Event} {Rule Other : State → Event → Prop}
    (meets : ∀ events state event after, Run system Rule events state → Rule state event →
      system.step state event = some after → Other state event)
    {events : List Event} {state : State} (run : Run system Rule events state) : Run system Other events state := by
  induction run with
  | start state starts => exact .start state starts
  | next events state event after before rule taken ih =>
      exact .next events state event after ih (meets events state event after before rule taken) taken

end Run

def System.replay {State Event : Type} (system : System State Event) (rule : State → Event → Bool)
    (origin : State) : List Event → Option State
  | [] => some origin
  | event :: events =>
      (system.replay rule origin events).bind
        (fun state => if rule state event then system.step state event else none)

theorem replay_run {State Event : Type} (system : System State Event) (Rule : State → Event → Prop)
    (rule : State → Event → Bool) (checks : ∀ state event, rule state event = true → Rule state event)
    (origin : State) (started : system.start origin) (events : List Event) (after : State)
    (replayed : system.replay rule origin events = some after) : Run system Rule events after := by
  induction events generalizing after with
  | nil =>
      cases replayed
      exact .start origin started
  | cons event events ih =>
      obtain ⟨state, before, taken⟩ := Option.bind_eq_some_iff.mp replayed
      by_cases passed : rule state event = true
      · rw [if_pos passed] at taken
        exact .next events state event after (ih state before) (checks state event passed) taken
      · rw [if_neg passed] at taken
        cases taken

theorem replay_get {State Event : Type} (system : System State Event) (Rule : State → Event → Prop)
    (rule : State → Event → Bool) (checks : ∀ state event, rule state event = true → Rule state event)
    (origin : State) (started : system.start origin) (events : List Event)
    (replays : (system.replay rule origin events).isSome = true) :
    Run system Rule events ((system.replay rule origin events).get replays) :=
  replay_run system Rule rule checks origin started events _ (Option.some_get replays).symm

theorem replay_reaches {State Event : Type} (system : System State Event) (Rule : State → Event → Prop)
    (rule : State → Event → Bool) (checks : ∀ state event, rule state event = true → Rule state event)
    (origin : State) (started : system.start origin) (events : List Event) (observed : State → Bool)
    (passed : (system.replay rule origin events).any observed = true) :
    ∃ after, Run system Rule events after ∧ observed after = true := by
  obtain ⟨after, replayed, seen⟩ := (Option.any_eq_true _ _).mp passed
  exact ⟨after, replay_run system Rule rule checks origin started events after replayed, seen⟩

end Transitions
