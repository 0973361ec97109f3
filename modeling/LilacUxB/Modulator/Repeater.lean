import LilacUxB.Modulator.Sender

set_option autoImplicit false

-- Repeater.v. The two copies of the file differ in the port names only.
namespace LilacUxB.Modulator

def clog2 (n : Nat) : Nat := if n ≤ 1 then 0 else Nat.log2 (n - 1) + 1

def repeaterParams (n : Nat) : SenderParams where
  endCnt := n - 2
  advance count := if count == n - 1 then 0 else (count + 1) % 2 ^ clog2 n

def repeaterOutTdata (regs : SenderRegs) : Word :=
  if regs.cstate = .idle then 0 else regs.inTdataReg

def repeater (n : Nat) : Clocked.Machine SenderRegs SenderIn := senderMachine (repeaterParams n)

theorem clog2_covers (n : Nat) : n ≤ 2 ^ clog2 n := by
  by_cases small : n ≤ 1
  · simp [clog2, small]
  · have below : n - 1 < 2 ^ (Nat.log2 (n - 1) + 1) := Nat.lt_log2_self
    rw [clog2, if_neg small]
    omega

theorem repeater_counts (n : Nat) (two : 2 ≤ n) : Counts n (repeaterParams n) where
  two := two
  ends := by simp only [repeaterParams]; omega
  wraps := by simp [repeaterParams]
  next count less := by
    have notLast : count ≠ n - 1 := by omega
    have covers := clog2_covers n
    simp only [repeaterParams, beq_iff_eq, if_neg notLast]
    exact Nat.mod_eq_of_lt (by omega)

theorem repeater_shows : Shows (fun word _ => word) repeaterOutTdata := by
  intro regs busy
  simp [repeaterOutTdata, busy]

end LilacUxB.Modulator
