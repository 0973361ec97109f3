import LilacUxB.Words

set_option autoImplicit false

-- Files of 32-bit registers and programs that change some bits of them, one access after another.
namespace Registers

abbrev File := UInt32 → UInt32

structure BitField where
  address : UInt32
  mask : UInt32
deriving DecidableEq, Repr

-- One access: the bits of `clear` go, then the bits of `set` come.
structure Change where
  address : UInt32
  clear : UInt32
  set : UInt32
deriving DecidableEq, Repr

def Change.apply (change : Change) (file : File) : File := fun address =>
  if address = change.address then file address &&& ~~~change.clear ||| change.set else file address

def out32 (address value : UInt32) : Change := ⟨address, 0xFFFFFFFF, value⟩

def run (changes : List Change) (file : File) : File := changes.foldl (fun state change => change.apply state) file

def field (file : File) (part : BitField) : UInt32 := file part.address &&& part.mask

def Change.spares (change : Change) (part : BitField) : Bool :=
  change.address ≠ part.address || part.mask &&& (change.clear ||| change.set) = 0

def Change.fixes (change : Change) (part : BitField) (value : UInt32) : Bool :=
  change.address = part.address && part.mask &&& ~~~(change.clear ||| change.set) = 0 && change.set &&& part.mask = value

def Change.keeps (change : Change) (part : BitField) (value : UInt32) : Bool := change.spares part || change.fixes part value

def establishes (part : BitField) (value : UInt32) : List Change → Bool
  | [] => false
  | change :: rest => (change.fixes part value && rest.all (fun next => next.keeps part value)) || establishes part value rest

theorem masked_untouched (word clear set mask : UInt32) (apart : mask &&& (clear ||| set) = 0) :
    (word &&& ~~~clear ||| set) &&& mask = word &&& mask := by
  apply UInt32.toBitVec_inj.mp
  apply BitVec.eq_of_getLsbD_eq
  intro bit inside
  have free := congrArg (fun bits => bits.toBitVec.getLsbD bit) apart
  simp only [UInt32.toBitVec_and, UInt32.toBitVec_or, BitVec.getLsbD_and, BitVec.getLsbD_or, UInt32.toBitVec_zero,
    BitVec.getLsbD_zero] at free
  simp only [UInt32.toBitVec_and, UInt32.toBitVec_or, UInt32.toBitVec_not, BitVec.getLsbD_and, BitVec.getLsbD_or,
    BitVec.getLsbD_not]
  grind

theorem masked_written (word clear set mask : UInt32) (covered : mask &&& ~~~(clear ||| set) = 0) :
    (word &&& ~~~clear ||| set) &&& mask = set &&& mask := by
  apply UInt32.toBitVec_inj.mp
  apply BitVec.eq_of_getLsbD_eq
  intro bit inside
  have full := congrArg (fun bits => bits.toBitVec.getLsbD bit) covered
  simp only [UInt32.toBitVec_and, UInt32.toBitVec_or, UInt32.toBitVec_not, BitVec.getLsbD_and, BitVec.getLsbD_or,
    BitVec.getLsbD_not, UInt32.toBitVec_zero, BitVec.getLsbD_zero, inside, decide_true, Bool.true_and] at full
  simp only [UInt32.toBitVec_and, UInt32.toBitVec_or, UInt32.toBitVec_not, BitVec.getLsbD_and, BitVec.getLsbD_or,
    BitVec.getLsbD_not]
  grind

theorem run_append (first second : List Change) (file : File) : run (first ++ second) file = run second (run first file) :=
  List.foldl_append

theorem spared_once (change : Change) (part : BitField) (file : File) (spared : change.spares part = true) :
    field (change.apply file) part = field file part := by
  unfold field Change.apply
  by_cases here : part.address = change.address
  · rw [if_pos here]
    have apart : part.mask &&& (change.clear ||| change.set) = 0 := by simpa [Change.spares, here] using spared
    exact masked_untouched _ _ _ _ apart
  · rw [if_neg here]

theorem fixed_once (change : Change) (part : BitField) (value : UInt32) (file : File)
    (fixed : change.fixes part value = true) : field (change.apply file) part = value := by
  simp only [Change.fixes, Bool.and_eq_true, decide_eq_true_eq] at fixed
  obtain ⟨⟨here, covered⟩, written⟩ := fixed
  rw [field, Change.apply, if_pos here.symm, masked_written _ _ _ _ covered, written]

theorem run_untouched (changes : List Change) (address : UInt32) (file : File)
    (untouched : ∀ change ∈ changes, change.address ≠ address) : run changes file address = file address := by
  induction changes generalizing file with
  | nil => rfl
  | cons change rest ih =>
      obtain ⟨first, later⟩ := List.forall_mem_cons.mp untouched
      exact (ih (change.apply file) later).trans (if_neg first.symm)

theorem run_other (address clear set other : UInt32) (file : File) (apart : address ≠ other) :
    run [⟨address, clear, set⟩] file other = file other :=
  run_untouched _ other file (List.forall_mem_singleton.mpr apart)

theorem run_written (address value : UInt32) (file : File) : run [out32 address value] file address = value := by
  have ones : ~~~(0xFFFFFFFF : UInt32) = 0 := by decide
  simp [run, Change.apply, out32, ones]

theorem run_spared (changes : List Change) (part : BitField) (file : File)
    (spared : changes.all (fun change => change.spares part) = true) : field (run changes file) part = field file part := by
  induction changes generalizing file with
  | nil => rfl
  | cons change rest ih =>
      obtain ⟨first, later⟩ := Bool.and_eq_true_iff.mp (List.all_cons.symm.trans spared)
      exact (ih (change.apply file) later).trans (spared_once change part file first)

theorem run_kept (changes : List Change) (part : BitField) (value : UInt32) (file : File) (holds : field file part = value)
    (kept : changes.all (fun change => change.keeps part value) = true) : field (run changes file) part = value := by
  induction changes generalizing file with
  | nil => exact holds
  | cons change rest ih =>
      obtain ⟨first, later⟩ := Bool.and_eq_true_iff.mp (List.all_cons.symm.trans kept)
      apply ih _ _ later
      cases Bool.or_eq_true_iff.mp first with
      | inl spared => exact (spared_once change part file spared).trans holds
      | inr fixed => exact fixed_once change part value file fixed

theorem run_established (changes : List Change) (part : BitField) (value : UInt32) (file : File)
    (established : establishes part value changes = true) : field (run changes file) part = value := by
  induction changes generalizing file with
  | nil => cases established
  | cons change rest ih =>
      cases Bool.or_eq_true_iff.mp established with
      | inl here =>
          obtain ⟨fixed, kept⟩ := Bool.and_eq_true_iff.mp here
          exact run_kept rest part value _ (fixed_once change part value file fixed) kept
      | inr later => exact ih _ later

theorem establishes_append (before changes : List Change) (part : BitField) (value : UInt32)
    (established : establishes part value changes = true) : establishes part value (before ++ changes) = true := by
  induction before with
  | nil => exact established
  | cons change rest ih => rw [List.cons_append, establishes, ih, Bool.or_true]

theorem establishes_kept (changes after : List Change) (part : BitField) (value : UInt32)
    (established : establishes part value changes = true)
    (kept : after.all (fun change => change.keeps part value) = true) : establishes part value (changes ++ after) = true := by
  induction changes with
  | nil => cases established
  | cons change rest ih =>
      rw [List.cons_append, establishes, Bool.or_eq_true, Bool.and_eq_true, List.all_append, Bool.and_eq_true]
      cases Bool.or_eq_true_iff.mp established with
      | inl here =>
          obtain ⟨fixed, later⟩ := Bool.and_eq_true_iff.mp here
          exact .inl ⟨fixed, later, kept⟩
      | inr later => exact .inr (ih later)

theorem out32_fixes (address value : UInt32) : (out32 address value).fixes ⟨address, 0xFFFFFFFF⟩ value = true := by
  have ones : ∀ word : UInt32, word &&& 0xFFFFFFFF = word := fun word => UInt32.and_neg_one
  have full : (0xFFFFFFFF : UInt32) &&& ~~~(0xFFFFFFFF ||| value) = 0 := by
    have covered : (0xFFFFFFFF : UInt32) ||| value = 0xFFFFFFFF := UInt32.neg_one_or
    rw [covered, UInt32.and_not_self]
  simp [Change.fixes, out32, full, ones]

theorem settled_first (early late : List Change) (gate entry : BitField) (value : UInt32) (file : File)
    (closed : early.all (fun change => change.spares gate) = true) (settles : establishes entry value early = true)
    (stays : late.all (fun change => change.keeps entry value) = true) (done : List Change) (cut : done <+: early ++ late) :
    field (run done file) gate = field file gate ∨ field (run done file) entry = value := by
  cases Nat.lt_or_ge done.length early.length with
  | inl short =>
      have within : done <+: early := List.prefix_of_prefix_length_le cut (List.prefix_append early late) short.le
      left
      apply run_spared
      rw [List.all_eq_true] at closed ⊢
      exact fun change member => closed change (within.subset member)
  | inr long =>
      have all_early : early <+: done := List.prefix_of_prefix_length_le (List.prefix_append early late) cut long
      obtain ⟨rest, rfl⟩ := all_early
      right
      rw [run_append]
      apply run_kept _ _ _ _ (run_established early entry value file settles)
      rw [List.all_eq_true] at stays ⊢
      exact fun change member => stays change (((List.prefix_append_right_inj early).mp cut).subset member)

def lanes : List UInt32 → UInt32
  | [] => 0
  | value :: rest => value ||| lanes rest <<< 8

def lane (word : UInt32) (index : Nat) : UInt32 := (word >>> UInt32.ofNat (8 * index)) &&& 0xFF

theorem lanes_cons (value : UInt32) (rest : List UInt32) (small : value.toNat < 256)
    (room : (lanes rest).toNat < 2 ^ 24) : (lanes (value :: rest)).toNat = (lanes rest).toNat * 256 + value.toNat := by
  have eight : (8 : UInt32).toNat % 32 = 8 := rfl
  rw [lanes, UInt32.toNat_or, UInt32.toNat_shiftLeft, eight, Nat.mod_eq_of_lt (by omega), Nat.or_comm,
    ← Nat.shiftLeft_add_eq_or_of_lt (by simpa using small), Nat.shiftLeft_eq]

theorem lanes_below (values : List UInt32) (few : values.length ≤ 4) (small : ∀ value ∈ values, value.toNat < 256) :
    (lanes values).toNat < 256 ^ values.length := by
  induction values with
  | nil => exact Nat.one_pos
  | cons value rest ih =>
      obtain ⟨first, later⟩ := List.forall_mem_cons.mp small
      rw [List.length_cons] at few
      have below := ih (by omega) later
      have room : (lanes rest).toNat < 2 ^ 24 :=
        Nat.lt_of_lt_of_le below (Nat.pow_le_pow_right (by decide) (Nat.le_of_succ_le_succ few))
      rw [lanes_cons value rest first room, List.length_cons, Nat.pow_succ]
      omega

theorem lane_nat (word : UInt32) (index : Nat) (inside : index < 4) :
    (lane word index).toNat = word.toNat / 256 ^ index % 256 := by
  have shift : (UInt32.ofNat (8 * index)).toNat % 32 = 8 * index := by
    rw [UInt32.toNat_ofNat']
    omega
  have mask : (0xFF : UInt32).toNat = 2 ^ 8 - 1 := rfl
  have base : 2 ^ (8 * index) = 256 ^ index := Nat.pow_mul 2 8 index
  rw [lane, UInt32.toNat_and, mask, Nat.and_two_pow_sub_one_eq_mod, UInt32.toNat_shiftRight, shift,
    Nat.shiftRight_eq_div_pow, base]

theorem lane_lanes (values : List UInt32) (index : Nat) (few : values.length ≤ 4)
    (small : ∀ value ∈ values, value.toNat < 256) (inside : index < values.length) :
    lane (lanes values) index = values[index] := by
  apply UInt32.toNat_inj.mp
  rw [lane_nat _ _ (by omega)]
  induction values generalizing index with
  | nil => cases inside
  | cons value rest ih =>
      obtain ⟨first, later⟩ := List.forall_mem_cons.mp small
      rw [List.length_cons] at few inside
      have room : (lanes rest).toNat < 2 ^ 24 := Nat.lt_of_lt_of_le (lanes_below rest (by omega) later)
        (Nat.pow_le_pow_right (by decide) (Nat.le_of_succ_le_succ few))
      rw [lanes_cons value rest first room]
      cases index with
      | zero =>
          rw [Nat.pow_zero, Nat.div_one, List.getElem_cons_zero]
          omega
      | succ index =>
          have lower : ((lanes rest).toNat * 256 + value.toNat) / 256 = (lanes rest).toNat := by omega
          rw [Nat.pow_succ', ← Nat.div_div_eq_div_mul, lower, List.getElem_cons_succ]
          exact ih index (by omega) later (by omega)

end Registers
