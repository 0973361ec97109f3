import Mathlib

set_option autoImplicit false

-- Lines that are each driven by one bit of an address, or tied to zero.
namespace Wiring

variable {Line : Type}

def drive (wires : Line → Option Nat) (address : Nat) (line : Line) : Bool :=
  ((wires line).map address.testBit).getD false

def OneToOne (wires : Line → Option Nat) (bits : Nat) : Prop :=
  ∀ first second, first < 2 ^ bits → second < 2 ^ bits →
    (∀ line, drive wires first line = drive wires second line) → first = second

def Onto (wires : Line → Option Nat) (bits : Nat) (used : List Line) : Prop :=
  ∀ wanted : Line → Bool, ∃ address, address < 2 ^ bits ∧ ∀ line ∈ used, drive wires address line = wanted line

def Covers (wires : Line → Option Nat) (bits : Nat) : Prop := ∀ bit < bits, ∃ line, wires line = some bit

theorem drive_bit (wires : Line → Option Nat) (address : Nat) (line : Line) (bit : Nat) (wired : wires line = some bit) :
    drive wires address line = address.testBit bit := by
  rw [drive, wired, Option.map_some, Option.getD_some]

theorem covers_one_to_one (wires : Line → Option Nat) (bits : Nat) (covers : Covers wires bits) : OneToOne wires bits := by
  intro first second firstFits secondFits alike
  apply Nat.eq_of_testBit_eq
  intro bit
  by_cases inside : bit < bits
  · obtain ⟨line, wired⟩ := covers bit inside
    rw [← drive_bit wires first line bit wired, ← drive_bit wires second line bit wired, alike line]
  · have beyond : 2 ^ bits ≤ 2 ^ bit := Nat.pow_le_pow_right Nat.two_pos (Nat.not_lt.mp inside)
    rw [Nat.testBit_lt_two_pow (Nat.lt_of_lt_of_le firstFits beyond),
      Nat.testBit_lt_two_pow (Nat.lt_of_lt_of_le secondFits beyond)]

theorem one_to_one_covers (wires : Line → Option Nat) (bits : Nat) (apart : OneToOne wires bits) : Covers wires bits := by
  intro bit inside
  by_contra free
  have alike : ∀ line, drive wires (2 ^ bit) line = drive wires 0 line := by
    intro line
    cases wired : wires line with
    | none => rw [drive, drive, wired]; rfl
    | some other =>
        have different : bit ≠ other := fun same => free ⟨line, same ▸ wired⟩
        rw [drive_bit wires _ line other wired, drive_bit wires _ line other wired, Nat.testBit_two_pow_of_ne different,
          Nat.zero_testBit]
  have same := apart (2 ^ bit) 0 (Nat.pow_lt_pow_right (Nat.lt_succ_self 1) inside) (Nat.two_pow_pos bits) alike
  exact absurd same (Nat.two_pow_pos bit).ne'

theorem too_few_lines (wires : Line → Option Nat) (bits : Nat) (lines : List Line)
    (only : ∀ line bit, wires line = some bit → line ∈ lines) (few : lines.length < bits) : ¬ Covers wires bits := by
  intro covers
  have among : List.range bits ⊆ lines.filterMap wires := by
    intro bit inside
    obtain ⟨line, wired⟩ := covers bit (List.mem_range.mp inside)
    exact List.mem_filterMap.mpr ⟨line, only line bit wired, wired⟩
  have count := (List.nodup_range.subperm among).length_le
  have most := List.length_filterMap_le wires lines
  rw [List.length_range] at count
  omega

structure Exact (wires : Line → Option Nat) (bits : Nat) (used : List Line) : Prop where
  different : used.Nodup
  many : used.length = bits
  driven : ∀ line ∈ used, ∃ bit < bits, wires line = some bit
  apart : ∀ line ∈ used, ∀ other ∈ used, wires line = wires other → line = other

theorem exact_covers (wires : Line → Option Nat) (bits : Nat) (used : List Line) (exactly : Exact wires bits used) :
    Covers wires bits := by
  have mapped : (used.map wires).Nodup := exactly.different.map_on exactly.apart
  have among : used.map wires ⊆ (List.range bits).map some := by
    intro wire inside
    obtain ⟨line, member, rfl⟩ := List.mem_map.mp inside
    obtain ⟨bit, below, wired⟩ := exactly.driven line member
    rw [wired]
    exact List.mem_map_of_mem (List.mem_range.mpr below)
  have all : (List.range bits).map some ⊆ used.map wires := by
    apply ((mapped.subperm among).perm_of_length_le _).symm.subset
    rw [List.length_map, List.length_map, List.length_range, exactly.many]
  intro bit below
  obtain ⟨line, -, wired⟩ := List.mem_map.mp (all (List.mem_map_of_mem (List.mem_range.mpr below)))
  exact ⟨line, wired⟩

theorem exact_onto (wires : Line → Option Nat) (bits : Nat) (used : List Line) (exactly : Exact wires bits used) :
    Onto wires bits used := by
  classical
  intro wanted
  refine ⟨Nat.ofBits (fun bit : Fin bits => decide (∃ line ∈ used, wires line = some bit.val ∧ wanted line = true)),
    Nat.ofBits_lt_two_pow _, ?_⟩
  intro line member
  obtain ⟨bit, below, wired⟩ := exactly.driven line member
  rw [drive_bit wires _ line bit wired, Nat.testBit_ofBits_lt _ bit below]
  cases value : wanted line with
  | true => exact decide_eq_true ⟨line, member, wired, value⟩
  | false =>
      apply decide_eq_false
      rintro ⟨other, otherMember, otherWired, otherValue⟩
      have same := exactly.apart other otherMember line member (otherWired.trans wired.symm)
      rw [same, value] at otherValue
      cases otherValue

end Wiring
