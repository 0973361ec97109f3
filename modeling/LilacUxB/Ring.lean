import Mathlib

set_option autoImplicit false

namespace Ring

structure Shape where
  count : Nat
  step : Nat
  count_pos : 0 < count
  step_pos : 0 < step
  divides : step ∣ count

namespace Shape

def size (ring : Shape) : Nat := ring.count / ring.step

def slot (ring : Shape) (visit : Nat) : Nat := visit * ring.step % ring.count

theorem size_mul (ring : Shape) : ring.size * ring.step = ring.count := Nat.div_mul_cancel ring.divides

theorem size_pos (ring : Shape) : 0 < ring.size :=
  Nat.div_pos (Nat.le_of_dvd ring.count_pos ring.divides) ring.step_pos

theorem slot_zero (ring : Shape) : ring.slot 0 = 0 := by
  rw [slot, Nat.zero_mul, Nat.zero_mod]

theorem slot_next (ring : Shape) (visit : Nat) : (ring.slot visit + ring.step) % ring.count = ring.slot (visit + 1) := by
  rw [slot, Nat.mod_add_mod, slot, Nat.succ_mul]

theorem slot_first_lap (ring : Shape) (visit : Nat) (first : visit < ring.size) :
    ring.slot visit = visit * ring.step := by
  refine Nat.mod_eq_of_lt ?_
  calc visit * ring.step < ring.size * ring.step := Nat.mul_lt_mul_of_pos_right first ring.step_pos
    _ = ring.count := ring.size_mul

theorem slot_lap (ring : Shape) (visit : Nat) : ring.slot (visit + ring.size) = ring.slot visit := by
  rw [slot, Nat.add_mul, ring.size_mul, Nat.add_mod_right, slot]

theorem slot_window (ring : Shape) (earlier later : Nat) (ordered : earlier ≤ later)
    (lap : later < earlier + ring.size) (same : ring.slot earlier = ring.slot later) : earlier = later := by
  rw [slot, slot, ← ring.size_mul, Nat.mul_mod_mul_right, Nat.mul_mod_mul_right] at same
  have modular : earlier ≡ later [MOD ring.size] := Nat.eq_of_mul_eq_mul_right ring.step_pos same
  have divisible : ring.size ∣ later - earlier := (Nat.modEq_iff_dvd' ordered).mp modular
  have none : later - earlier = 0 := Nat.eq_zero_of_dvd_of_lt divisible (by omega)
  omega

theorem slot_ne (ring : Shape) (first visit other : Nat) (start : first ≤ visit) (start_other : first ≤ other)
    (lap : visit < first + ring.size) (lap_other : other < first + ring.size) (different : visit ≠ other) :
    ring.slot visit ≠ ring.slot other := by
  intro same
  rcases Nat.lt_or_gt_of_ne different with less | greater
  · exact different (ring.slot_window visit other (Nat.le_of_lt less) (by omega) same)
  · exact different (ring.slot_window other visit (Nat.le_of_lt greater) (by omega) same.symm).symm

end Shape

end Ring
