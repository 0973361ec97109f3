import LilacUxB.Modulator.Repeater
import LilacUxB.Modulator.Converter

set_option autoImplicit false

namespace LilacUxB.Modulator

structure SlotAligned (size : Nat) (emit : Word → Nat → Word) (regs : SenderRegs) (words beats : List Word) : Prop where
  count : regs.senderCnt = beats.length % size
  lower : (size : Int) * ((words.length : Int) - 1) - 1 ≤ beats.length
  upper : beats.length ≤ size * words.length
  drained : regs.cstate = .idle → beats.length = size * words.length
  derived : ∀ index beat, beats[index]? = some beat → ∃ origin word, words[origin]? = some word ∧
    beat = emit word (index % size) ∧
      (origin = index / size ∨ (index % size = size - 1 ∧ origin = index / size + 1))

theorem slot_bounds (size length count : Nat) (within : count < size)
    (before : List Word) (reg : Word) (place : length = size * before.length + count) :
    count = length % size ∧ (size : Int) * (((before ++ [reg]).length : Int) - 1) - 1 ≤ length ∧
      length ≤ size * (before ++ [reg]).length := by
  have grown : size * (before ++ [reg]).length = size * before.length + size := by
    rw [List.length_append, List.length_singleton, Nat.mul_add, Nat.mul_one]
  refine ⟨?_, ?_, by omega⟩
  · rw [place, Nat.mul_add_mod, Nat.mod_eq_of_lt within]
  · have start : (size : Int) * (((before ++ [reg]).length : Int) - 1) = (size * before.length : Nat) := by
      have last : ((before ++ [reg]).length : Int) - 1 = (before.length : Int) := by
        rw [List.length_append, List.length_singleton]
        omega
      rw [last, Int.natCast_mul]
    rw [start, place]
    omega

theorem phase_slot_aligned (size : Nat) (two : 2 ≤ size) (regs : SenderRegs) (words : List Word) (length : Nat)
    (phase : Phase size AnyLate regs words length) :
    regs.senderCnt = length % size ∧ (size : Int) * ((words.length : Int) - 1) - 1 ≤ length ∧
      length ≤ size * words.length ∧ (regs.cstate = .idle → length = size * words.length) := by
  cases phase with
  | idle reg words =>
      refine ⟨by simp, ?_, Nat.le_refl _, fun _ => rfl⟩
      rw [Int.mul_sub, Int.mul_one, Int.natCast_mul]
      omega
  | header reg before =>
      obtain ⟨count, lower, upper⟩ := slot_bounds size (size * before.length) 0 (by omega) before reg rfl
      exact ⟨count, lower, upper, by simp⟩
  | send c reg before within =>
      obtain ⟨count, lower, upper⟩ := slot_bounds size _ c (by omega) before reg rfl
      exact ⟨count, lower, upper, by simp⟩
  | late old reg before permitted =>
      obtain ⟨count, _, upper⟩ := slot_bounds size _ (size - 1) (by omega) before old rfl
      refine ⟨count, ?_, ?_, by simp⟩
      · have grown : (size : Int) * (((before ++ [old, reg]).length : Int) - 1) =
            (size * before.length : Nat) + (size : Int) := by
          have more : ((before ++ [old, reg]).length : Int) - 1 = (before.length : Int) + 1 := by
            rw [List.length_append, List.length_cons, List.length_singleton]
            omega
          rw [more, Int.mul_add, Int.mul_one, Int.natCast_mul]
        rw [grown]
        omega
      · refine Nat.le_trans upper (Nat.mul_le_mul_left size ?_)
        simp
  | last reg before =>
      obtain ⟨count, lower, upper⟩ := slot_bounds size _ (size - 1) (by omega) before reg rfl
      exact ⟨count, lower, upper, by simp⟩

theorem aligned_slot_aligned (size : Nat) (two : 2 ≤ size) (emit : Word → Nat → Word) (regs : SenderRegs)
    (words beats : List Word) (aligned : Aligned size emit AnyLate regs words beats) :
    SlotAligned size emit regs words beats := by
  obtain ⟨count, lower, upper, drained⟩ := phase_slot_aligned size two regs words beats.length aligned.phase
  refine ⟨count, lower, upper, drained, ?_⟩
  intro index beat found
  obtain ⟨word, slot, same | ⟨last, next, following, _, same⟩⟩ := aligned.origin index beat found
  · exact ⟨index / size, word, slot, same, Or.inl rfl⟩
  · exact ⟨index / size + 1, next, following, same, Or.inr ⟨by omega, rfl⟩⟩

theorem frames_never_shift (wires : Nat → SenderIn) (cycle : Nat) :
    (∀ n, 2 ≤ n → SlotAligned n (fun word _ => word) ((repeater n).run wires cycle)
      ((repeater n).log taken wires cycle) ((repeater n).log (sent repeaterOutTdata) wires cycle)) ∧
    SlotAligned 16 (fun word index => remap (bitPair word index)) (qpskDataConverter.run wires cycle)
      (qpskDataConverter.log taken wires cycle) (qpskDataConverter.log (sent converterOutTdata) wires cycle) := by
  constructor
  · intro n two
    exact aligned_slot_aligned n two _ _ _ _ (sender_aligned n _ (repeaterParams n) repeaterOutTdata
      (repeater_counts n two) repeater_shows wires cycle)
  · have aligned := aligned_slot_aligned 16 (by decide) _ _ _ _ (sender_aligned 16 selectedSymbol converterParams
      converterOutTdata converter_counts converter_shows wires cycle)
    refine ⟨aligned.count, aligned.lower, aligned.upper, aligned.drained, ?_⟩
    intro index beat found
    obtain ⟨origin, word, slot, same, place⟩ := aligned.derived index beat found
    have pair := selected_pair_bits word (index % 16) (Nat.mod_lt index (by decide))
    exact ⟨origin, word, slot, by rw [same, selectedSymbol, pair], place⟩

theorem five_beat_frames :
    SlotAligned 5 (fun word _ => word) ((repeater 5).run (fun cycle => ⟨BitVec.ofNat 32 cycle, true, cycle % 3 == 0⟩) 40)
      ((repeater 5).log taken (fun cycle => ⟨BitVec.ofNat 32 cycle, true, cycle % 3 == 0⟩) 40)
      ((repeater 5).log (sent repeaterOutTdata) (fun cycle => ⟨BitVec.ofNat 32 cycle, true, cycle % 3 == 0⟩) 40) :=
  (frames_never_shift _ 40).1 5 (by decide)

end LilacUxB.Modulator
