import LilacUxB.Clocked
import LilacUxB.Slots

set_option autoImplicit false

-- QPSK_data_converter.v (both revisions) and Repeater.v declare the same
-- registers, the same three-part FSM and the same handshake. They differ in the
-- count that ends a word, in how the counter advances and in the data output.
namespace LilacUxB.Modulator

abbrev Word := BitVec 32

-- The one-hot codes 4'b0001, 4'b0010, 4'b0100, 4'b1000 of cstate and nstate.
inductive SenderState where
  | idle
  | header
  | send
  | sendLast
deriving DecidableEq, Repr

structure SenderRegs where
  senderCnt : Nat
  inTdataReg : Word
  cstate : SenderState
  inTready : Bool
  outTvalid : Bool
deriving DecidableEq, Repr

structure SenderIn where
  inTdata : Word
  inTvalid : Bool
  outTready : Bool
deriving DecidableEq, Repr

structure SenderParams where
  -- sender_cnt value whose beat moves SEND to SEND_LAST
  endCnt : Nat
  advance : Nat → Nat

def senderReset : SenderRegs := ⟨0, 0, .idle, true, false⟩

def sample (regs : SenderRegs) (wires : SenderIn) : Bool := wires.inTvalid && regs.inTready

def sends (regs : SenderRegs) (wires : SenderIn) : Bool := regs.outTvalid && wires.outTready

def nstate (params : SenderParams) (regs : SenderRegs) (wires : SenderIn) : SenderState :=
  match regs.cstate with
  | .idle => if sample regs wires then .header else .idle
  | .header => .send
  | .send => if regs.senderCnt == params.endCnt && regs.outTvalid && wires.outTready then .sendLast else .send
  | .sendLast =>
      if sample regs wires then .send
      else if regs.outTvalid && wires.outTready then .idle
      else .sendLast

-- fsm-3 loads the two handshake registers from nstate.
def loadInTready : SenderState → Bool
  | .idle => true
  | .header => false
  | .send => false
  | .sendLast => true

def loadOutTvalid : SenderState → Bool
  | .idle => false
  | .header => false
  | .send => true
  | .sendLast => true

def senderStep (params : SenderParams) (regs : SenderRegs) (wires : SenderIn) : SenderRegs where
  senderCnt := if sends regs wires then params.advance regs.senderCnt else regs.senderCnt
  inTdataReg := if sample regs wires then wires.inTdata else regs.inTdataReg
  cstate := nstate params regs wires
  inTready := loadInTready (nstate params regs wires)
  outTvalid := loadOutTvalid (nstate params regs wires)

def senderMachine (params : SenderParams) : Clocked.Machine SenderRegs SenderIn where
  reset := senderReset
  step := senderStep params

def taken (regs : SenderRegs) (wires : SenderIn) : Option Word :=
  if sample regs wires then some wires.inTdata else none

def sent (outTdata : SenderRegs → Word) (regs : SenderRegs) (wires : SenderIn) : Option Word :=
  if sends regs wires then some (outTdata regs) else none

theorem step_idle (params : SenderParams) (count : Nat) (reg : Word) (wires : SenderIn) :
    senderStep params ⟨count, reg, .idle, true, false⟩ wires =
      if wires.inTvalid then ⟨count, wires.inTdata, .header, false, false⟩
      else ⟨count, reg, .idle, true, false⟩ := by
  cases offered : wires.inTvalid <;> simp [senderStep, sample, sends, nstate, loadInTready, loadOutTvalid, offered]

theorem step_header (params : SenderParams) (count : Nat) (reg : Word) (wires : SenderIn) :
    senderStep params ⟨count, reg, .header, false, false⟩ wires = ⟨count, reg, .send, false, true⟩ := by
  simp [senderStep, sample, sends, nstate, loadInTready, loadOutTvalid]

theorem step_send (params : SenderParams) (count : Nat) (reg : Word) (wires : SenderIn) :
    senderStep params ⟨count, reg, .send, false, true⟩ wires =
      if wires.outTready then
        if count = params.endCnt then ⟨params.advance count, reg, .sendLast, true, true⟩
        else ⟨params.advance count, reg, .send, false, true⟩
      else ⟨count, reg, .send, false, true⟩ := by
  cases ready : wires.outTready <;> by_cases ended : count = params.endCnt <;>
    simp [senderStep, sample, sends, nstate, loadInTready, loadOutTvalid, ready, ended]

theorem step_last (params : SenderParams) (count : Nat) (reg : Word) (wires : SenderIn) :
    senderStep params ⟨count, reg, .sendLast, true, true⟩ wires =
      if wires.inTvalid then
        ⟨if wires.outTready then params.advance count else count, wires.inTdata, .send, false, true⟩
      else if wires.outTready then ⟨params.advance count, reg, .idle, true, false⟩
      else ⟨count, reg, .sendLast, true, true⟩ := by
  cases offered : wires.inTvalid <;> cases ready : wires.outTready <;>
    simp [senderStep, sample, sends, nstate, loadInTready, loadOutTvalid, offered, ready]

@[simp] theorem taken_ready (count : Nat) (reg : Word) (cstate : SenderState) (valid : Bool) (wires : SenderIn) :
    taken ⟨count, reg, cstate, true, valid⟩ wires = if wires.inTvalid then some wires.inTdata else none := by
  simp [taken, sample]

@[simp] theorem taken_busy (count : Nat) (reg : Word) (cstate : SenderState) (valid : Bool) (wires : SenderIn) :
    taken ⟨count, reg, cstate, false, valid⟩ wires = none := by
  simp [taken, sample]

@[simp] theorem sends_valid (count : Nat) (reg : Word) (cstate : SenderState) (ready : Bool) (wires : SenderIn) :
    sends ⟨count, reg, cstate, ready, true⟩ wires = wires.outTready := by
  simp [sends]

@[simp] theorem sends_silent (count : Nat) (reg : Word) (cstate : SenderState) (ready : Bool) (wires : SenderIn) :
    sends ⟨count, reg, cstate, ready, false⟩ wires = false := by
  simp [sends]

structure Counts (size : Nat) (params : SenderParams) : Prop where
  two : 2 ≤ size
  ends : params.endCnt + 2 = size
  wraps : params.advance (size - 1) = 0
  next : ∀ count, count + 1 < size → params.advance count = count + 1

-- Every configuration a sender can be in, with the words taken and the number
-- of beats sent so far. `late` is SEND with the counter already at the last
-- beat: it is entered when a word is taken while the last beat is stalled.
inductive Phase (size : Nat) (Late : Word → Word → Prop) : SenderRegs → List Word → Nat → Prop where
  | idle (reg : Word) (words : List Word) :
      Phase size Late ⟨0, reg, .idle, true, false⟩ words (size * words.length)
  | header (reg : Word) (before : List Word) :
      Phase size Late ⟨0, reg, .header, false, false⟩ (before ++ [reg]) (size * before.length)
  | send (count : Nat) (reg : Word) (before : List Word) (within : count + 2 ≤ size) :
      Phase size Late ⟨count, reg, .send, false, true⟩ (before ++ [reg]) (size * before.length + count)
  | late (old reg : Word) (before : List Word) (permitted : Late old reg) :
      Phase size Late ⟨size - 1, reg, .send, false, true⟩ (before ++ [old, reg]) (size * before.length + (size - 1))
  | last (reg : Word) (before : List Word) :
      Phase size Late ⟨size - 1, reg, .sendLast, true, true⟩ (before ++ [reg]) (size * before.length + (size - 1))

def Overtakes (regs : SenderRegs) (wires : SenderIn) : Prop :=
  regs.cstate = .sendLast ∧ wires.inTvalid = true ∧ wires.outTready = false

def Permits (Late : Word → Word → Prop) (regs : SenderRegs) (wires : SenderIn) : Prop :=
  Overtakes regs wires → Late regs.inTdataReg wires.inTdata

theorem phase_reset (size : Nat) (Late : Word → Word → Prop) : Phase size Late senderReset [] 0 :=
  .idle 0 []

theorem slot_after (size : Nat) (two : 2 ≤ size) (before : List Word) (reg : Word) :
    size * before.length + (size - 1) + 1 = size * (before ++ [reg]).length := by
  rw [List.length_append, List.length_singleton, Nat.mul_add]
  omega

theorem phase_step (size : Nat) (Late : Word → Word → Prop) (params : SenderParams) (counts : Counts size params)
    (regs : SenderRegs) (words : List Word) (count : Nat) (wires : SenderIn)
    (phase : Phase size Late regs words count) (permits : Permits Late regs wires) :
    Phase size Late (senderStep params regs wires) (words ++ (taken regs wires).toList)
      (count + (sends regs wires).toNat) := by
  obtain ⟨two, ends, wraps, next⟩ := counts
  cases phase with
  | idle reg words =>
      rw [step_idle]
      cases offered : wires.inTvalid with
      | false => simpa [offered] using @Phase.idle size Late reg words
      | true => simpa [offered] using @Phase.header size Late wires.inTdata words
  | header reg before =>
      rw [step_header]
      simpa using @Phase.send size Late 0 reg before two
  | send c reg before within =>
      rw [step_send]
      cases ready : wires.outTready with
      | false => simpa [ready] using @Phase.send size Late c reg before within
      | true =>
          rw [next c (by omega)]
          by_cases ended : c = params.endCnt
          · have lastCount : size - 1 = c + 1 := by omega
            have reached := @Phase.last size Late reg before
            rw [lastCount] at reached
            simpa [ready, ended, Nat.add_assoc] using reached
          · have reached := @Phase.send size Late (c + 1) reg before (by omega)
            simpa [ready, ended, Nat.add_assoc] using reached
  | late old reg before permitted =>
      rw [step_send]
      cases ready : wires.outTready with
      | false => simpa [ready] using @Phase.late size Late old reg before permitted
      | true =>
          have notEnded : size - 1 ≠ params.endCnt := by omega
          have reached := @Phase.send size Late 0 reg (before ++ [old]) two
          rw [Nat.add_zero, ← slot_after size two before old] at reached
          simpa [ready, notEnded, wraps] using reached
  | last reg before =>
      rw [step_last]
      cases offered : wires.inTvalid with
      | false =>
          cases ready : wires.outTready with
          | false => simpa [offered, ready] using @Phase.last size Late reg before
          | true =>
              have reached := @Phase.idle size Late reg (before ++ [reg])
              rw [← slot_after size two before reg] at reached
              simpa [offered, ready, wraps] using reached
      | true =>
          cases ready : wires.outTready with
          | false =>
              have reached := @Phase.late size Late reg wires.inTdata before (permits ⟨rfl, offered, ready⟩)
              simpa [offered, ready] using reached
          | true =>
              have reached := @Phase.send size Late 0 wires.inTdata (before ++ [reg]) two
              rw [Nat.add_zero, ← slot_after size two before reg] at reached
              simpa [offered, ready, wraps] using reached

theorem slot_place (size count : Nat) (before : List Word) (within : count < size) :
    (size * before.length + count) / size = before.length ∧ (size * before.length + count) % size = count := by
  have positive : 0 < size := by omega
  rw [Nat.mul_add_div positive, Nat.mul_add_mod, Nat.div_eq_of_lt within, Nat.mod_eq_of_lt within]
  exact ⟨Nat.add_zero _, rfl⟩

theorem slot_beat (size : Nat) (emit : Word → Nat → Word) (Late : Word → Word → Prop) (count : Nat) (reg : Word)
    (before : List Word) (within : count < size) :
    Slots.FromSlot size emit Late (before ++ [reg]) (size * before.length + count) (emit reg count) := by
  obtain ⟨slot, place⟩ := slot_place size count before within
  exact ⟨reg, by rw [slot]; simp, Or.inl (by rw [place])⟩

theorem phase_beat (size : Nat) (two : 2 ≤ size) (emit : Word → Nat → Word) (Late : Word → Word → Prop)
    (regs : SenderRegs) (words : List Word) (count : Nat) (phase : Phase size Late regs words count)
    (valid : regs.outTvalid = true) :
    Slots.FromSlot size emit Late words count (emit regs.inTdataReg regs.senderCnt) := by
  cases phase with
  | idle reg words => cases valid
  | header reg before => cases valid
  | send c reg before within => exact slot_beat size emit Late c reg before (by omega)
  | late old reg before permitted =>
      obtain ⟨slot, place⟩ := slot_place size (size - 1) before (by omega)
      refine ⟨old, by rw [slot]; simp, Or.inr ⟨by omega, reg, by rw [slot]; simp, permitted, by rw [place]⟩⟩
  | last reg before => exact slot_beat size emit Late (size - 1) reg before (by omega)

theorem phase_valid_sending (size : Nat) (Late : Word → Word → Prop) (regs : SenderRegs) (words : List Word)
    (count : Nat) (phase : Phase size Late regs words count) :
    regs.outTvalid = true ↔ regs.cstate = .send ∨ regs.cstate = .sendLast := by
  cases phase <;> simp

def Shows (emit : Word → Nat → Word) (outTdata : SenderRegs → Word) : Prop :=
  ∀ regs : SenderRegs, regs.cstate ≠ .idle → outTdata regs = emit regs.inTdataReg regs.senderCnt

structure Aligned (size : Nat) (emit : Word → Nat → Word) (Late : Word → Word → Prop) (regs : SenderRegs)
    (words beats : List Word) : Prop where
  phase : Phase size Late regs words beats.length
  origin : Slots.AllFromSlots size emit Late words beats

theorem aligned_reset (size : Nat) (emit : Word → Nat → Word) (Late : Word → Word → Prop) :
    Aligned size emit Late senderReset [] [] :=
  ⟨phase_reset size Late, by simp [Slots.AllFromSlots]⟩

theorem aligned_step (size : Nat) (emit : Word → Nat → Word) (Late : Word → Word → Prop) (params : SenderParams)
    (outTdata : SenderRegs → Word) (counts : Counts size params) (shows_ : Shows emit outTdata)
    (regs : SenderRegs) (words beats : List Word) (wires : SenderIn) (aligned : Aligned size emit Late regs words beats)
    (permits : Permits Late regs wires) :
    Aligned size emit Late (senderStep params regs wires) (words ++ (taken regs wires).toList)
      (beats ++ (sent outTdata regs wires).toList) := by
  have phase := phase_step size Late params counts regs words beats.length wires aligned.phase permits
  have kept := Slots.all_from_slots_words size emit Late words (taken regs wires).toList beats aligned.origin
  cases sending : sends regs wires with
  | false =>
      simp only [sent, sending, Bool.false_eq_true, if_false, Option.toList_none, List.append_nil]
      exact ⟨by simpa [sending] using phase, kept⟩
  | true =>
      have valid : regs.outTvalid = true := by
        rw [sends, Bool.and_eq_true] at sending
        exact sending.1
      have busy : regs.cstate ≠ .idle := by
        rcases (phase_valid_sending size Late regs words _ aligned.phase).mp valid with state | state <;> simp [state]
      have beat := phase_beat size counts.two emit Late regs words _ aligned.phase valid
      simp only [sent, sending, if_true, Option.toList_some, shows_ regs busy]
      refine ⟨by simpa [sending] using phase, ?_⟩
      exact Slots.all_from_slots_beat size emit Late _ beats _ kept
        (Slots.from_slot_append size emit Late words _ _ _ beat)

def AnyLate : Word → Word → Prop := fun _ _ => True

theorem sender_aligned (size : Nat) (emit : Word → Nat → Word) (params : SenderParams)
    (outTdata : SenderRegs → Word) (counts : Counts size params) (shows_ : Shows emit outTdata)
    (wires : Nat → SenderIn) (cycle : Nat) :
    Aligned size emit AnyLate ((senderMachine params).run wires cycle) ((senderMachine params).log taken wires cycle)
      ((senderMachine params).log (sent outTdata) wires cycle) := by
  refine (senderMachine params).logged_invariant wires taken (sent outTdata) (Aligned size emit AnyLate)
    (fun _ _ => True) (aligned_reset size emit AnyLate) ?_ cycle (fun _ _ => trivial)
  intro regs input words beats aligned _
  exact aligned_step size emit AnyLate params outTdata counts shows_ regs words beats input aligned (fun _ => trivial)

end LilacUxB.Modulator
