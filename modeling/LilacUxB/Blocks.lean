import Mathlib

set_option autoImplicit false

namespace Blocks

def store {Byte : Type} (memory : Nat → Byte) (start count : Nat) (bytes : Nat → Byte) (place : Nat) : Byte :=
  if start ≤ place ∧ place < start + count then bytes (place - start) else memory place

theorem store_inside {Byte : Type} (memory : Nat → Byte) (start count : Nat) (bytes : Nat → Byte) (index : Nat)
    (within : index < count) : store memory start count bytes (start + index) = bytes index := by
  have inside : start ≤ start + index ∧ start + index < start + count :=
    ⟨Nat.le_add_right _ _, Nat.add_lt_add_left within start⟩
  rw [store, if_pos inside, Nat.add_sub_cancel_left]

theorem store_before {Byte : Type} (memory : Nat → Byte) (start count : Nat) (bytes : Nat → Byte) (place : Nat)
    (before : place < start) : store memory start count bytes place = memory place :=
  if_neg (fun inside => Nat.not_le_of_lt before inside.1)

theorem store_after {Byte : Type} (memory : Nat → Byte) (start count : Nat) (bytes : Nat → Byte) (place : Nat)
    (after : start + count ≤ place) : store memory start count bytes place = memory place :=
  if_neg (fun inside => Nat.not_le_of_lt inside.2 after)

theorem store_none {Byte : Type} (memory : Nat → Byte) (start : Nat) (bytes : Nat → Byte) :
    store memory start 0 bytes = memory := by
  funext place
  rw [store, if_neg (by omega)]

theorem store_congr {Byte : Type} (memory : Nat → Byte) (start count : Nat) (bytes other : Nat → Byte)
    (agree : ∀ index, index < count → bytes index = other index) :
    store memory start count bytes = store memory start count other := by
  funext place
  by_cases inside : start ≤ place ∧ place < start + count
  · rw [store, if_pos inside, store, if_pos inside]
    exact agree _ (by omega)
  · rw [store, if_neg inside, store, if_neg inside]

theorem store_append {Byte : Type} (memory : Nat → Byte) (start count more : Nat) (bytes : Nat → Byte) :
    store (store memory start count bytes) (start + count) more (fun index => bytes (count + index)) =
      store memory start (count + more) bytes := by
  funext place
  by_cases later : start + count ≤ place ∧ place < start + count + more
  · have whole : start ≤ place ∧ place < start + (count + more) := by omega
    have position : count + (place - (start + count)) = place - start := by omega
    rw [store, if_pos later, store, if_pos whole, position]
  · rw [store, if_neg later]
    by_cases first : start ≤ place ∧ place < start + count
    · rw [store, if_pos first, store, if_pos (by omega)]
    · rw [store, if_neg first, store, if_neg (by omega)]

def Holds {Byte : Type} (memory : Nat → Byte) (address : Nat) (bytes : List Byte) : Prop :=
  ∀ (index : Nat) (inside : index < bytes.length), memory (address + index) = bytes[index]

theorem holds_append {Byte : Type} (memory : Nat → Byte) (address : Nat) (left right : List Byte) :
    Holds memory address (left ++ right) ↔ Holds memory address left ∧ Holds memory (address + left.length) right := by
  constructor
  · intro holds
    constructor
    · intro index inside
      rw [holds index (by rw [List.length_append]; omega), List.getElem_append_left inside]
    · intro index inside
      rw [Nat.add_assoc, holds (left.length + index) (by rw [List.length_append]; omega),
        List.getElem_append_right (Nat.le_add_right _ _)]
      simp only [Nat.add_sub_cancel_left]
  · rintro ⟨holdsLeft, holdsRight⟩ index inside
    by_cases first : index < left.length
    · rw [holdsLeft index first, List.getElem_append_left first]
    · rw [List.length_append] at inside
      have place : address + index = address + left.length + (index - left.length) := by omega
      rw [place, holdsRight (index - left.length) (by omega), List.getElem_append_right (Nat.le_of_not_lt first)]

theorem holds_read {Byte : Type} (memory : Nat → Byte) (address : Nat) (bytes : List Byte)
    (holds : Holds memory address bytes) : (List.range bytes.length).map (fun index => memory (address + index)) = bytes := by
  apply List.ext_getElem
  · simp
  · intro index inside bound
    rw [List.getElem_map, List.getElem_range]
    exact holds index bound

theorem store_holds {Byte : Type} (memory : Nat → Byte) (address : Nat) (bytes : List Byte) (blank : Byte) :
    Holds (store memory address bytes.length (fun index => bytes.getD index blank)) address bytes := by
  intro index inside
  rw [store_inside _ _ _ _ _ inside, List.getD_eq_getElem _ _ inside]

end Blocks
