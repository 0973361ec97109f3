import LilacUxB.Fsbl.Fallback

set_option autoImplicit false

-- XFsbl_MakeSdFileName: the file that a boot from a card opens, by the multiboot register.
namespace LilacUxB.Fsbl

def sdDrvNum0 : UInt32 := 0
def baseFileNameLenSd0 : Nat := 8
def baseFileNameLenSd1 : Nat := 11
def numDigitsInFileName : Nat := 4

def addDigit (value : UInt32) (letter : Char) : Char := Char.ofNat (letter.toNat + value.toNat)

-- The decimal digits from the last one on, until none is left of the number.
def updateDigits : Nat → Nat → UInt32 → List Char → List Char
  | 0, _, _, name => name
  | count + 1, index, multiBootNum, name =>
      let updated := name.modify index (addDigit (multiBootNum % 10))
      if multiBootNum / 10 = 0 then updated else updateDigits count (index - 1) (multiBootNum / 10) updated

def drivePrefix (drvNum : UInt32) : List Char := if drvNum = sdDrvNum0 then [] else ['1', ':', '/']

def makeSdFileName (multibootReg drvNum : UInt32) : List Char :=
  if multibootReg = 0 then drivePrefix drvNum ++ ['B', 'O', 'O', 'T', '.', 'B', 'I', 'N']
  else
    let fileNameLen := if drvNum = sdDrvNum0 then baseFileNameLenSd0 else baseFileNameLenSd1
    updateDigits numDigitsInFileName (fileNameLen - 1) multibootReg
      (drivePrefix drvNum ++ ['B', 'O', 'O', 'T', '0', '0', '0', '0', '.', 'B', 'I', 'N'])

theorem add_nothing (letter : Char) : addDigit 0 letter = letter := Char.ofNat_toNat letter

def addDigits : Nat → Nat → UInt32 → List Char → List Char
  | 0, _, _, name => name
  | count + 1, index, number, name =>
      addDigits count (index - 1) (number / 10) (name.modify index (addDigit (number % 10)))

theorem add_zeros (count index : Nat) (name : List Char) : addDigits count index 0 name = name := by
  induction count generalizing index with
  | zero => rfl
  | succ less ih =>
      have unchanged : name.modify index (addDigit 0) = name := by
        rw [show addDigit 0 = id from funext add_nothing, List.modify_id]
      rw [addDigits, show (0 : UInt32) % 10 = 0 from rfl, show (0 : UInt32) / 10 = 0 from rfl, unchanged]
      exact ih (index - 1)

theorem update_digits (count index : Nat) (number : UInt32) (name : List Char) :
    updateDigits count index number name = addDigits count index number name := by
  induction count generalizing index number name with
  | zero => rfl
  | succ less ih =>
      rw [updateDigits, addDigits]
      by_cases last : number / 10 = 0
      · rw [last, add_zeros]
        rfl
      · simp only [if_neg last]
        exact ih _ _ _

def digitLetter (number : UInt32) : Char := Char.ofNat (48 + (number % 10).toNat)

def numberedName (number : UInt32) : List Char :=
  ['B', 'O', 'O', 'T', digitLetter (number / 10 / 10 / 10), digitLetter (number / 10 / 10), digitLetter (number / 10),
    digitLetter number, '.', 'B', 'I', 'N']

theorem numbered_file_name (multibootReg drvNum : UInt32) (numbered : multibootReg ≠ 0) :
    makeSdFileName multibootReg drvNum = drivePrefix drvNum ++ numberedName multibootReg := by
  rw [makeSdFileName, if_neg numbered]
  dsimp only
  rw [update_digits]
  unfold drivePrefix
  by_cases first : drvNum = sdDrvNum0
  · rw [if_pos first, if_pos first]
    rfl
  · rw [if_neg first, if_neg first]
    rfl

theorem digit_letter_code (number : UInt32) : (digitLetter number).toNat = 48 + number.toNat % 10 := by
  have below : number.toNat % 10 < 10 := Nat.mod_lt _ (by decide)
  have digit : (number % 10).toNat = number.toNat % 10 := UInt32.toNat_mod _ _
  have valid : (48 + (number % 10).toNat).isValidChar := .inl (by omega)
  rw [digitLetter, Char.toNat_ofNat, if_pos valid, digit]

theorem same_digit (first second : UInt32) :
    digitLetter first = digitLetter second ↔ first.toNat % 10 = second.toNat % 10 := by
  constructor
  · intro same
    have codes := congrArg Char.toNat same
    rw [digit_letter_code, digit_letter_code] at codes
    exact Nat.add_left_cancel codes
  · intro same
    apply Char.toNat_inj.mp
    rw [digit_letter_code, digit_letter_code, same]

theorem same_numbered (first second : UInt32) :
    numberedName first = numberedName second ↔ first.toNat % 10000 = second.toNat % 10000 := by
  have tenth (number : UInt32) : (number / 10).toNat = number.toNat / 10 := UInt32.toNat_div _ _
  simp only [numberedName, List.cons.injEq, true_and, and_true, same_digit, tenth]
  omega

theorem plain_not_numbered (drvNum number : UInt32) :
    drivePrefix drvNum ++ ['B', 'O', 'O', 'T', '.', 'B', 'I', 'N'] ≠ drivePrefix drvNum ++ numberedName number := by
  intro same
  have lengths : 8 = 12 := congrArg List.length (List.append_cancel_left same)
  exact absurd lengths (by decide)

theorem numbered_alike (first second drvNum : UInt32) (plain : first ≠ 0) (other : second ≠ 0) :
    makeSdFileName first drvNum = makeSdFileName second drvNum ↔ first.toNat % 10000 = second.toNat % 10000 := by
  rw [numbered_file_name first drvNum plain, numbered_file_name second drvNum other, List.append_cancel_left_eq,
    same_numbered]

theorem same_file_name (first second drvNum : UInt32) :
    makeSdFileName first drvNum = makeSdFileName second drvNum ↔
      first = second ∨ (first ≠ 0 ∧ second ≠ 0 ∧ first.toNat % 10000 = second.toNat % 10000) := by
  by_cases plain : first = 0
  · subst plain
    by_cases other : second = 0
    · simp [other]
    · have different := plain_not_numbered drvNum second
      rw [numbered_file_name second drvNum other, makeSdFileName, if_pos rfl]
      simp [different, Ne.symm other]
  · by_cases other : second = 0
    · subst other
      have different := (plain_not_numbered drvNum first).symm
      rw [numbered_file_name first drvNum plain, makeSdFileName, if_pos rfl]
      simp [different, plain]
    · rw [numbered_alike first second drvNum plain other]
      constructor
      · exact fun same => .inr ⟨plain, other, same⟩
      · rintro (rfl | ⟨_, _, same⟩)
        · rfl
        · exact same

theorem attempt_counts (board : Board) (faithful : ∀ image, (board.rom image).registers csuMultiBoot = image)
    (start : UInt32) (count : Nat) : attempt board start count = start + UInt32.ofNat count := by
  induction count with
  | zero => exact (UInt32.add_zero start).symm
  | succ before ih =>
      rw [attempt, faithful, ih, UInt32.ofNat_add, UInt32.add_assoc]
      rfl

theorem digits_repeat (image drvNum : UInt32) (numbered : image ≠ 0) :
    ∃ index, index ≤ 10000 ∧ makeSdFileName image drvNum = makeSdFileName (UInt32.ofNat index) drvNum := by
  have positive : 0 < image.toNat := Nat.pos_of_ne_zero (fun zero => numbered (UInt32.toNat.inj zero))
  have name (index : Nat) (first : 0 < index) (bound : index ≤ 10000) (same : image.toNat % 10000 = index % 10000) :
      makeSdFileName image drvNum = makeSdFileName (UInt32.ofNat index) drvNum := by
    have exact_index : (UInt32.ofNat index).toNat = index := UInt32.toNat_ofNat_of_lt' (Nat.lt_of_le_of_lt bound (by decide))
    have other : UInt32.ofNat index ≠ 0 := by
      intro zero
      rw [zero] at exact_index
      exact absurd exact_index.symm (Nat.ne_of_gt first)
    rw [numbered_alike image _ drvNum numbered other, exact_index, same]
  by_cases full : image.toNat % 10000 = 0
  · exact ⟨10000, Nat.le_refl _, name 10000 (by decide) (Nat.le_refl _) (by rw [full])⟩
  · have below : image.toNat % 10000 < 10000 := Nat.mod_lt _ (by decide)
    exact ⟨image.toNat % 10000, below.le, name _ (Nat.pos_of_ne_zero full) below.le (Nat.mod_mod _ _).symm⟩

theorem names_repeat (image drvNum : UInt32) :
    ∃ index, index ≤ 10000 ∧ makeSdFileName image drvNum = makeSdFileName (UInt32.ofNat index) drvNum := by
  by_cases zero : image = 0
  · rw [zero]
    exact ⟨0, Nat.zero_le _, rfl⟩
  · exact digits_repeat image drvNum zero

theorem card_search_repeats (board : Board) (drvNum : UInt32)
    (plain : ∀ image, (board.rom image).env.build.earlyHandoff = false)
    (faithful : ∀ image, (board.rom image).registers csuMultiBoot = image)
    (files : ∀ first second, makeSdFileName first drvNum = makeSdFileName second drvNum →
      FallsBack board first → FallsBack board second)
    (tried : ∀ index, index ≤ 10000 → FallsBack board (UInt32.ofNat index)) (fuel : Nat) :
    Loops.runUntil (systemStep board) fuel (reset board 0) = none ∧
      ∀ image, ∃ index, index ≤ 10000 ∧ makeSdFileName image drvNum = makeSdFileName (UInt32.ofNat index) drvNum := by
  refine ⟨fallback_forever board plain 0 ?_ fuel, fun image => names_repeat image drvNum⟩
  intro index
  rw [attempt_counts board faithful, UInt32.zero_add]
  obtain ⟨known, bound, same⟩ := names_repeat (UInt32.ofNat index) drvNum
  exact files _ _ same.symm (tried known bound)

def emptyCard : Board where
  firstSilicon := false
  rom multiBoot :=
    ⟨{ r5Boot with bootDeviceInitAndValidate := fun ps => (0x21, ps) }, twoCores,
      fun address => if address = csuMultiBoot then multiBoot else sd0BootMode⟩

theorem empty_card_repeats : Loops.runUntil (systemStep emptyCard) 5 (reset emptyCard 0) = none := by
  have card : sd0BootMode &&& bootModeMask ∈ fallbackModes := by decide
  have full : twoCores.fsbl.resetReason ≠ apuOnlyReset := by decide
  have falls (image : UInt32) : FallsBack emptyCard image := ⟨⟨0x21 + errorStage2, rfl⟩, card, full⟩
  exact (card_search_repeats emptyCard sdDrvNum0 (fun _ => rfl) (fun _ => rfl) (fun _ second _ _ => falls second)
    (fun index _ => falls (UInt32.ofNat index)) 5).1

end LilacUxB.Fsbl
