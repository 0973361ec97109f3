import Mathlib

set_option autoImplicit false

-- Loops over consecutive indices that stop at the first status other than the good one, and loops
-- that run until a step of theirs ends them.
namespace Loops

section Iterate

variable {Status State : Type} [DecidableEq Status] (fine : Status) (body : Nat → State → Status × State)

def iterate : Nat → Nat → State → Status × State
  | 0, _, state => (fine, state)
  | rest + 1, index, state =>
      if (body index state).1 ≠ fine then body index state
      else iterate rest (index + 1) (body index state).2

variable (last : Nat) (Inv : Nat → State → Prop)
  (kept : ∀ index state, index < last → Inv index state → (body index state).1 = fine →
    Inv (index + 1) (body index state).2)

include kept

theorem iterate_finished (remaining index : Nat) (state : State) (reaches : index + remaining = last)
    (inv : Inv index state) (finished : (iterate fine body remaining index state).1 = fine) :
    Inv last (iterate fine body remaining index state).2 := by
  induction remaining generalizing index state with
  | zero =>
      rw [Nat.add_zero] at reaches
      exact reaches ▸ inv
  | succ rest ih =>
      rw [iterate] at finished ⊢
      split_ifs at finished ⊢ with stopped
      · exact absurd finished stopped
      · exact ih (index + 1) _ (by omega) (kept index state (by omega) inv (not_not.mp stopped)) finished

theorem iterate_always (Always : State → Prop) (weaker : ∀ index state, index ≤ last → Inv index state → Always state)
    (stops : ∀ index state, index < last → Inv index state → (body index state).1 ≠ fine → Always (body index state).2)
    (remaining index : Nat) (state : State) (reaches : index + remaining = last) (inv : Inv index state) :
    Always (iterate fine body remaining index state).2 := by
  induction remaining generalizing index state with
  | zero => exact weaker index state (by omega) inv
  | succ rest ih =>
      rw [iterate]
      split_ifs with stopped
      · exact stops index state (by omega) inv stopped
      · exact ih (index + 1) _ (by omega) (kept index state (by omega) inv (not_not.mp stopped))

theorem iterate_passes (passes : ∀ index state, index < last → Inv index state → (body index state).1 = fine)
    (remaining index : Nat) (state : State) (reaches : index + remaining = last) (inv : Inv index state) :
    (iterate fine body remaining index state).1 = fine := by
  induction remaining generalizing index state with
  | zero => rfl
  | succ rest ih =>
      have passed := passes index state (by omega) inv
      rw [iterate, if_neg (not_not.mpr passed)]
      exact ih (index + 1) _ (by omega) (kept index state (by omega) inv passed)

end Iterate

section Until

variable {State Result : Type} (step : State → State ⊕ Result)

def runUntil : Nat → State → Option Result
  | 0, _ => none
  | fuel + 1, state =>
      match step state with
      | .inl next => runUntil fuel next
      | .inr result => some result

theorem run_last (fuel : Nat) (state : State) (result : Result) (ends : step state = .inr result) :
    runUntil step (fuel + 1) state = some result := by
  rw [runUntil, ends]

theorem run_next (fuel : Nat) (state next : State) (goes : step state = .inl next) :
    runUntil step (fuel + 1) state = runUntil step fuel next := by
  rw [runUntil, goes]

def Reaches (state target : State) : Prop :=
  ∃ used, ∀ fuel, runUntil step (used + fuel) state = runUntil step fuel target

theorem reaches_start (state : State) : Reaches step state state :=
  ⟨0, fun fuel => by rw [Nat.zero_add]⟩

theorem reaches_next (state middle next : State) (reached : Reaches step state middle) (goes : step middle = .inl next) :
    Reaches step state next := by
  obtain ⟨used, along⟩ := reached
  refine ⟨used + 1, ?_⟩
  intro fuel
  rw [Nat.add_assoc, Nat.add_comm 1, along, run_next step fuel middle next goes]

theorem reaches_end (state target : State) (result : Result) (reached : Reaches step state target)
    (ends : step target = .inr result) : ∃ fuel, runUntil step fuel state = some result := by
  obtain ⟨used, along⟩ := reached
  exact ⟨used + 1, (along 1).trans (run_last step 0 target result ends)⟩

def follow (state : State) : Nat → State
  | 0 => state
  | count + 1 =>
      match step (follow state count) with
      | .inl next => next
      | .inr _ => follow state count

theorem follow_next (state : State) (count : Nat) (goes : (step (follow step state count)).isLeft = true) :
    step (follow step state count) = .inl (follow step state (count + 1)) := by
  rw [follow]
  cases move : step (follow step state count) with
  | inl next => rfl
  | inr result =>
      rw [move] at goes
      cases goes

theorem run_more (fuel more : Nat) (state : State) (result : Result) (done : runUntil step fuel state = some result) :
    runUntil step (fuel + more) state = some result := by
  induction fuel generalizing state with
  | zero => cases done
  | succ less ih =>
      rw [Nat.add_right_comm]
      cases move : step state with
      | inl next =>
          rw [run_next step less state next move] at done
          rw [run_next step (less + more) state next move]
          exact ih next done
      | inr final =>
          rw [run_last step less state final move] at done
          rw [run_last step (less + more) state final move, done]

theorem run_unique (fuel other : Nat) (state : State) (result final : Result)
    (done : runUntil step fuel state = some result) (again : runUntil step other state = some final) : result = final := by
  have first := run_more step fuel other state result done
  have second := run_more step other fuel state final again
  rw [Nat.add_comm, first] at second
  exact Option.some.inj second

theorem run_keeps (Inv : State → Prop) (Ends : Result → Prop)
    (kept : ∀ state next, Inv state → step state = .inl next → Inv next)
    (ended : ∀ state result, Inv state → step state = .inr result → Ends result) (fuel : Nat) (state : State)
    (result : Result) (inv : Inv state) (done : runUntil step fuel state = some result) : Ends result := by
  induction fuel generalizing state with
  | zero => cases done
  | succ less ih =>
      cases move : step state with
      | inl next =>
          rw [run_next step less state next move] at done
          exact ih next (kept state next inv move) done
      | inr final =>
          rw [run_last step less state final move, Option.some.injEq] at done
          exact done ▸ ended state final inv move

end Until

section Leads

variable {State Result : Type} (step : State → State ⊕ Result)

def proceed (fuel : Nat) : State ⊕ Result → Option Result
  | .inl next => runUntil step fuel next
  | .inr result => some result

-- After one step or more, and not before, the loop is at another state or at its end.
def Leads (state : State) (target : State ⊕ Result) : Prop :=
  ∃ used, 0 < used ∧ (∀ less, less < used → runUntil step less state = none) ∧
    ∀ more, runUntil step (used + more) state = proceed step more target

theorem leads_step (state : State) : Leads step state (step state) := by
  refine ⟨1, Nat.one_pos, ?_, ?_⟩
  · intro less early
    rw [Nat.lt_one_iff.mp early, runUntil]
  · intro more
    rw [Nat.add_comm]
    cases move : step state with
    | inl next => exact run_next step more state next move
    | inr result => exact run_last step more state result move

theorem leads_trans (state next : State) (target : State ⊕ Result) (first : Leads step state (.inl next))
    (second : Leads step next target) : Leads step state target := by
  obtain ⟨used, some_used, unfinished, reached⟩ := first
  obtain ⟨rest, _, later, ended⟩ := second
  refine ⟨used + rest, Nat.add_pos_left some_used rest, ?_, ?_⟩
  · intro less early
    by_cases sooner : less < used
    · exact unfinished less sooner
    · obtain ⟨more, rfl⟩ := Nat.exists_eq_add_of_le (Nat.le_of_not_lt sooner)
      exact (reached more).trans (later more (Nat.lt_of_add_lt_add_left early))
  · intro more
    rw [Nat.add_assoc]
    exact (reached _).trans (ended more)

theorem leads_found (enter : Nat → State) (count : Nat) (result : Result)
    (passes : ∀ index, index < count → Leads step (enter index) (.inl (enter (index + 1))))
    (ends : Leads step (enter count) (.inr result)) : Leads step (enter 0) (.inr result) := by
  induction count with
  | zero => exact ends
  | succ before ih =>
      have last := passes before (Nat.lt_succ_self before)
      exact ih (fun index less => passes index (Nat.lt_succ_of_lt less)) (leads_trans step _ _ _ last ends)

theorem leads_forever (enter : Nat → State) (passes : ∀ index, Leads step (enter index) (.inl (enter (index + 1))))
    (fuel index : Nat) : runUntil step fuel (enter index) = none := by
  induction fuel using Nat.strong_induction_on generalizing index with
  | _ fuel ih =>
      obtain ⟨used, some_used, unfinished, reached⟩ := passes index
      by_cases early : fuel < used
      · exact unfinished fuel early
      · obtain ⟨more, rfl⟩ := Nat.exists_eq_add_of_le (Nat.le_of_not_lt early)
        rw [reached more]
        exact ih more (Nat.lt_add_of_pos_left some_used) (index + 1)

end Leads

-- A loop inside another one: each of its steps is one of the outer loop, which goes on from its result.
section Nested

variable {Inner Result Outer Final : Type} (inner : Inner → Inner ⊕ Result) (outer : Outer → Outer ⊕ Final)
  (embed : Inner → Outer) (resume : Result → Outer ⊕ Final)
  (follows : ∀ state, outer (embed state) = Sum.elim (fun next => .inl (embed next)) resume (inner state))

include follows

theorem nested_leads (fuel : Nat) (state : Inner) (result : Result) (done : runUntil inner fuel state = some result) :
    Leads outer (embed state) (resume result) := by
  induction fuel generalizing state with
  | zero => cases done
  | succ less ih =>
      have first := leads_step outer (embed state)
      rw [follows state] at first
      cases move : inner state with
      | inl next =>
          rw [run_next inner less state next move] at done
          rw [move] at first
          exact leads_trans outer _ _ _ first (ih next done)
      | inr last =>
          rw [run_last inner less state last move] at done
          obtain rfl := Option.some.inj done
          rw [move] at first
          exact first

end Nested

end Loops
