import Mathlib

set_option autoImplicit false

-- Accounts of what a program has acquired and released, newest entry first.
namespace Ledger

inductive Entry (Resource : Type) where
  | acquire (resource : Resource)
  | release (resource : Resource)
deriving DecidableEq

def Held {Resource : Type} (resource : Resource) (log : List (Entry Resource)) : Prop :=
  .acquire resource ∈ log ∧ .release resource ∉ log

def ReleasedOnce {Resource : Type} [DecidableEq Resource] (resource : Resource) (log : List (Entry Resource)) : Prop :=
  log.count (.release resource) = 1

instance {Resource : Type} [DecidableEq Resource] (resource : Resource) (log : List (Entry Resource)) :
    Decidable (Held resource log) := inferInstanceAs (Decidable (_ ∧ _))

def outstanding {Resource : Type} (kind : Resource → Bool) : List (Entry Resource) → Int
  | [] => 0
  | .acquire resource :: log => outstanding kind log + (if kind resource then 1 else 0)
  | .release resource :: log => outstanding kind log - (if kind resource then 1 else 0)

def Legal {Resource : Type} (Admissible : List (Entry Resource) → Entry Resource → Prop) :
    List (Entry Resource) → Prop
  | [] => True
  | entry :: log => Admissible log entry ∧ Legal Admissible log

theorem held_acquire {Resource : Type} (resource : Resource) (log : List (Entry Resource))
    (fresh : .release resource ∉ log) : Held resource (.acquire resource :: log) :=
  ⟨List.mem_cons_self, by simpa using fresh⟩

theorem held_keep_acquire {Resource : Type} (resource other : Resource) (log : List (Entry Resource))
    (held : Held resource log) : Held resource (.acquire other :: log) :=
  ⟨List.mem_cons_of_mem _ held.1, by simpa using held.2⟩

theorem held_keep_release {Resource : Type} (resource other : Resource) (log : List (Entry Resource))
    (different : resource ≠ other) (held : Held resource log) : Held resource (.release other :: log) :=
  ⟨List.mem_cons_of_mem _ held.1, by simpa [different] using held.2⟩

theorem never_released {Resource : Type} [DecidableEq Resource] (resource : Resource) (log : List (Entry Resource))
    (kept : .release resource ∉ log) : ¬ ReleasedOnce resource log := by
  rw [ReleasedOnce, List.count_eq_zero_of_not_mem kept]
  exact Nat.zero_ne_one

end Ledger
