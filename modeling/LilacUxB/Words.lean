import Mathlib

set_option autoImplicit false

namespace Words

theorem add_exact (left right : UInt32) (fits : left.toNat + right.toNat < 2 ^ 32) :
    (left + right).toNat = left.toNat + right.toNat := by
  rw [UInt32.toNat_add, Nat.mod_eq_of_lt fits]

theorem sub_exact (left right : UInt32) (ordered : right.toNat ≤ left.toNat) :
    (left - right).toNat = left.toNat - right.toNat :=
  UInt32.toNat_sub_of_le left right ordered

theorem mul_exact (left right : UInt32) (fits : left.toNat * right.toNat < 2 ^ 32) :
    (left * right).toNat = left.toNat * right.toNat := by
  rw [UInt32.toNat_mul, Nat.mod_eq_of_lt fits]

theorem below (word : UInt32) : word.toNat < 2 ^ 32 := UInt32.toNat_lt word

theorem and_high_mask (low high value : Nat) (fits : value < 2 ^ (low + high)) :
    value &&& ((2 ^ high - 1) <<< low) = value / 2 ^ low * 2 ^ low := by
  apply Nat.eq_of_testBit_eq
  intro bit
  rw [Nat.testBit_and, Nat.testBit_shiftLeft, Nat.testBit_mul_two_pow, Nat.testBit_div_two_pow, Nat.testBit_two_pow_sub_one]
  by_cases upper : low ≤ bit
  · rw [Nat.sub_add_cancel upper]
    by_cases inside : bit - low < high
    · simp [upper, inside]
    · have beyond : value < 2 ^ bit := Nat.lt_of_lt_of_le fits (Nat.pow_le_pow_right (by decide) (by omega))
      simp [Nat.testBit_lt_two_pow beyond]
  · simp [upper]

theorem or_masked (left right mask : UInt32) : (left ||| right) &&& mask = (left &&& mask) ||| (right &&& mask) :=
  UInt32.toBitVec_inj.mp BitVec.and_or_distrib_right

theorem masked_field (value low mask : Nat) : value &&& (mask <<< low) = ((value >>> low) &&& mask) <<< low := by
  apply Nat.eq_of_testBit_eq
  intro bit
  rw [Nat.testBit_and, Nat.testBit_shiftLeft, Nat.testBit_shiftLeft, Nat.testBit_and, Nat.testBit_shiftRight]
  by_cases upper : low ≤ bit
  · simp [upper, Nat.add_sub_of_le upper]
  · simp [upper]

theorem masked_byte (value low : Nat) : (value &&& (0xFF <<< low)) >>> low % 256 = value / 2 ^ low % 256 := by
  rw [Nat.shiftRight_and_distrib, Nat.shiftLeft_shiftRight, Nat.shiftRight_eq_div_pow,
    Nat.and_two_pow_sub_one_eq_mod _ 8, Nat.mod_mod]

def field (word low width : Nat) : Nat := word / 2 ^ low % 2 ^ width

theorem field_below (word low width : Nat) : field word low width < 2 ^ width :=
  Nat.mod_lt _ (Nat.two_pow_pos width)

theorem masked_is_field (word low width : Nat) :
    word &&& ((2 ^ width - 1) <<< low) = field word low width * 2 ^ low := by
  rw [masked_field, Nat.shiftRight_eq_div_pow, Nat.and_two_pow_sub_one_eq_mod, Nat.shiftLeft_eq]
  rfl

theorem field_down (word mask shift : UInt32) (low width : Nat) (masks : mask.toNat = (2 ^ width - 1) <<< low)
    (near : shift.toNat ≤ low) (small : shift.toNat < 32) :
    ((word &&& mask) >>> shift).toNat = field word.toNat low width * 2 ^ (low - shift.toNat) := by
  have split : 2 ^ low = 2 ^ (low - shift.toNat) * 2 ^ shift.toNat := by rw [← Nat.pow_add, Nat.sub_add_cancel near]
  rw [UInt32.toNat_shiftRight, UInt32.toNat_and, masks, masked_is_field, Nat.mod_eq_of_lt small,
    Nat.shiftRight_eq_div_pow, split, ← Nat.mul_assoc, Nat.mul_div_cancel _ (Nat.two_pow_pos _)]

theorem field_up (word mask shift : UInt32) (low width : Nat) (masks : mask.toNat = (2 ^ width - 1) <<< low)
    (fits : width + (low + shift.toNat) ≤ 32) (small : shift.toNat < 32) :
    ((word &&& mask) <<< shift).toNat = field word.toNat low width * 2 ^ (low + shift.toNat) := by
  have moved : field word.toNat low width * 2 ^ (low + shift.toNat) < 2 ^ 32 :=
    calc field word.toNat low width * 2 ^ (low + shift.toNat)
      _ < 2 ^ width * 2 ^ (low + shift.toNat) :=
          Nat.mul_lt_mul_of_pos_right (field_below word.toNat low width) (Nat.two_pow_pos _)
      _ = 2 ^ (width + (low + shift.toNat)) := (Nat.pow_add 2 width _).symm
      _ ≤ 2 ^ 32 := Nat.pow_le_pow_right (by decide) fits
  rw [UInt32.toNat_shiftLeft, UInt32.toNat_and, masks, masked_is_field, Nat.mod_eq_of_lt small, Nat.shiftLeft_eq,
    Nat.mul_assoc, ← Nat.pow_add, Nat.mod_eq_of_lt moved]

end Words
