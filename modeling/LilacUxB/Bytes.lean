import Mathlib

set_option autoImplicit false

namespace Bytes

def word32 (bytes : Nat → UInt8) (place : Nat) : UInt32 :=
  (bytes place).toUInt32 ||| (bytes (place + 1)).toUInt32 <<< 8 ||| (bytes (place + 2)).toUInt32 <<< 16 |||
    (bytes (place + 3)).toUInt32 <<< 24

def word64 (bytes : Nat → UInt8) (place : Nat) : UInt64 :=
  (word32 bytes place).toUInt64 ||| (word32 bytes (place + 4)).toUInt64 <<< 32

def Agree (count : Nat) (bytes other : Nat → UInt8) : Prop :=
  ∀ index, index < count → bytes index = other index

theorem word32_congr (count : Nat) (bytes other : Nat → UInt8) (place : Nat) (agree : Agree count bytes other)
    (inside : place + 4 ≤ count) : word32 bytes place = word32 other place := by
  rw [word32, word32, agree place (by omega), agree (place + 1) (by omega), agree (place + 2) (by omega),
    agree (place + 3) (by omega)]

theorem word64_congr (count : Nat) (bytes other : Nat → UInt8) (place : Nat) (agree : Agree count bytes other)
    (inside : place + 8 ≤ count) : word64 bytes place = word64 other place := by
  rw [word64, word64, word32_congr count bytes other place agree (by omega),
    word32_congr count bytes other (place + 4) agree (by omega)]

theorem or_shifted (low high width : Nat) (fits : low < 2 ^ width) : low ||| high <<< width = low + 2 ^ width * high := by
  rw [Nat.or_comm, Nat.shiftLeft_eq, Nat.mul_comm, ← Nat.two_pow_add_eq_or_of_lt fits, Nat.add_comm]

theorem byte_shifted (byte : UInt8) (width : UInt32) (within : width.toNat ≤ 24) :
    (byte.toUInt32 <<< width).toNat = byte.toNat <<< width.toNat := by
  have size := byte.toNat_lt
  have scale : 2 ^ width.toNat ≤ 2 ^ 24 := Nat.pow_le_pow_right (by decide) within
  have fits : byte.toNat * 2 ^ width.toNat < 2 ^ 32 :=
    Nat.lt_of_lt_of_le (Nat.mul_lt_mul_of_lt_of_le size scale (by decide)) (by decide)
  rw [UInt32.toNat_shiftLeft, UInt8.toNat_toUInt32, Nat.mod_eq_of_lt (show width.toNat < 32 by omega), Nat.shiftLeft_eq,
    Nat.mod_eq_of_lt fits]

theorem word32_value (bytes : Nat → UInt8) (place : Nat) :
    (word32 bytes place).toNat = (bytes place).toNat + 2 ^ 8 * (bytes (place + 1)).toNat +
      2 ^ 16 * (bytes (place + 2)).toNat + 2 ^ 24 * (bytes (place + 3)).toNat := by
  have first := (bytes place).toNat_lt
  have second := (bytes (place + 1)).toNat_lt
  have third := (bytes (place + 2)).toNat_lt
  rw [word32, UInt32.toNat_or, UInt32.toNat_or, UInt32.toNat_or, byte_shifted _ 8 (by decide), byte_shifted _ 16 (by decide),
    byte_shifted _ 24 (by decide), UInt8.toNat_toUInt32]
  change _ ||| _ <<< 8 ||| _ <<< 16 ||| _ <<< 24 = _
  rw [or_shifted _ _ 8 (by omega), or_shifted _ _ 16 (by omega), or_shifted _ _ 24 (by omega)]

theorem word32_byte (bytes : Nat → UInt8) (place index : Nat) (less : index < 4) :
    (word32 bytes place).toNat / 2 ^ (8 * index) % 2 ^ 8 = (bytes (place + index)).toNat := by
  have first := (bytes place).toNat_lt
  have second := (bytes (place + 1)).toNat_lt
  have third := (bytes (place + 2)).toNat_lt
  have fourth := (bytes (place + 3)).toNat_lt
  rw [word32_value]
  interval_cases index
  · change _ = (bytes place).toNat
    omega
  · omega
  · omega
  · omega

theorem word32_bytes (bytes other : Nat → UInt8) (place spot : Nat) (same : word32 bytes place = word32 other spot)
    (index : Nat) (less : index < 4) : bytes (place + index) = other (spot + index) := by
  apply UInt8.toNat_inj.mp
  rw [← word32_byte bytes place index less, ← word32_byte other spot index less, same]

end Bytes
