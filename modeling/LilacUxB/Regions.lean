import Mathlib

set_option autoImplicit false

namespace Regions

structure Region where
  start : Nat
  finish : Nat
deriving DecidableEq, Repr

def Region.Holds (region : Region) (address : Nat) : Prop :=
  region.start ≤ address ∧ address < region.finish

instance (region : Region) (address : Nat) : Decidable (region.Holds address) :=
  inferInstanceAs (Decidable (_ ∧ _))

def Apart (left right : Region) : Prop :=
  left.finish ≤ right.start ∨ right.finish ≤ left.start

def InOneRegion (regions : List Region) (start length : Nat) : Prop :=
  ∃ region ∈ regions, ∀ index, index < length → region.Holds (start + index)

instance : Std.Symm Apart where
  symm _ _ apart := apart.symm

theorem run_inside (region : Region) (start length : Nat) (begins : region.Holds start) :
    (∀ index, index < length → region.Holds (start + index)) ↔ length ≤ region.finish - start := by
  constructor
  · intro inside
    cases length with
    | zero => exact Nat.zero_le _
    | succ last =>
        have ends := (inside last (Nat.lt_succ_self last)).2
        omega
  · intro room index less
    exact ⟨Nat.le_add_right_of_le begins.1, by omega⟩

theorem held_once (regions : List Region) (apart : regions.Pairwise Apart) (left right : Region) (address : Nat)
    (leftMember : left ∈ regions) (rightMember : right ∈ regions) (leftHolds : left.Holds address)
    (rightHolds : right.Holds address) : left = right := by
  by_contra different
  have separate := apart.forall leftMember rightMember different
  obtain ⟨leftStart, leftFinish⟩ := leftHolds
  obtain ⟨rightStart, rightFinish⟩ := rightHolds
  cases separate with
  | inl before => exact absurd (Nat.lt_of_lt_of_le leftFinish before) (Nat.not_lt.mpr rightStart)
  | inr after => exact absurd (Nat.lt_of_lt_of_le rightFinish after) (Nat.not_lt.mpr leftStart)

theorem in_one_region (regions : List Region) (apart : regions.Pairwise Apart) (region : Region) (start length : Nat)
    (member : region ∈ regions) (begins : region.Holds start) :
    InOneRegion regions start length ↔ length ≤ region.finish - start := by
  rw [← run_inside region start length begins]
  constructor
  · rintro ⟨other, otherMember, inside⟩ index less
    have first : other.Holds start := by
      simpa only [Nat.add_zero] using inside 0 (Nat.zero_lt_of_lt less)
    rw [held_once regions apart region other start member otherMember begins first]
    exact inside index less
  · intro inside
    exact ⟨region, member, inside⟩

end Regions
