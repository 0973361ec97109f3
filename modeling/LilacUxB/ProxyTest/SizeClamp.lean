import LilacUxB.ProxyTest.Threads

set_option autoImplicit false

namespace LilacUxB.ProxyTest

open Transitions

-- test_size in main after the comparison with BUFFER_SIZE, still in KB.
def clampedSize (arg : Int) : Int := if arg > bufferSize then bufferSize else arg

def mainTestSize (arg : Int) : Int := int32 (clampedSize arg * 1024)

def elementsWritten (app : AppState) : Nat :=
  if app.verify then
    match app.tx.pc with
    | .primeStart => 1
    | .restart => patternWords app.testSize
    | _ => 0
  else 0

structure WritesFit (app after : AppState) (event : AppEvent) : Prop where
  txLength : event = .tx → app.tx.pc = .primeStart →
    (after.txChannel.memory (lengthAt app.tx.bufferId)).toNat ≤ bufferSize
  rxLength : event = .rx → app.rx.pc = .primeStart →
    (after.rxChannel.memory (lengthAt app.rx.bufferId)).toNat ≤ bufferSize
  elements : event = .tx → elementsWritten app ≤ bufferWords

def SizedBy (arg : Int) (app : AppState) : Prop := app.testSize = mainTestSize arg

structure SizesFit (arg : Int) : Prop where
  least : -2 ^ 31 ≤ clampedSize arg * 1024
  most : clampedSize arg * 1024 ≤ intMax
  writes : ∀ config events app event after,
    Run (applicationWith config (SizedBy arg)) (fun _ _ => True) events app →
      appStep config app event = some after → WritesFit app after event

theorem write_words_outside (memory : Nat → UInt32) (bufferId bound : Nat) (word : Nat → UInt32) (place : Nat)
    (outside : place < wordAt bufferId 0 ∨ wordAt bufferId bound ≤ place) :
    writeWords memory bufferId bound word place = memory place := by
  have elsewhere : ¬ (wordAt bufferId 0 ≤ place ∧ place < wordAt bufferId bound) := by omega
  rw [writeWords, if_neg elsewhere]

theorem length_stored (channel : Channel) (bufferId : Nat) (testSize : Int) :
    (startXfer (setLength channel bufferId testSize) bufferId).memory (lengthAt bufferId) = toUnsigned testSize := by
  simp only [startXfer, setLength, Function.update_self]

theorem tx_length_stored (config : Config) (app after : AppState) (entered : app.tx.pc = .primeStart)
    (taken : txThread config app = some after) :
    after.txChannel.memory (lengthAt app.tx.bufferId) = toUnsigned app.testSize := by
  simp only [txThread, entered, Option.some.injEq] at taken
  subst after
  cases app.verify with
  | false => exact length_stored app.txChannel app.tx.bufferId app.testSize
  | true =>
      have outside : wordAt app.tx.bufferId 1 ≤ lengthAt app.tx.bufferId := by
        simp [lengthAt, wordAt]
      simp only [if_true, startXfer, fillPattern]
      rw [write_words_outside _ _ _ _ _ (.inr outside)]
      simp only [setLength, Function.update_self]

theorem rx_length_stored (config : Config) (app after : AppState) (entered : app.rx.pc = .primeStart)
    (taken : rxThread config app = some after) :
    after.rxChannel.memory (lengthAt app.rx.bufferId) = toUnsigned app.testSize := by
  simp only [rxThread, entered, Option.some.injEq] at taken
  exact taken ▸ length_stored app.rxChannel app.rx.bufferId app.testSize

theorem sized_writes_fit (config : Config) (app after : AppState) (event : AppEvent) (least : 0 ≤ app.testSize)
    (most : app.testSize ≤ bufferSize) (taken : appStep config app event = some after) : WritesFit app after event := by
  have stored : (toUnsigned app.testSize).toNat ≤ bufferSize := by
    rw [to_unsigned_nat]
    simp only [bufferSize] at most ⊢
    omega
  have filled : patternWords app.testSize ≤ bufferWords := by
    simp only [patternWords, bufferWords, bufferSize] at most ⊢
    omega
  refine ⟨?_, ?_, ?_⟩
  · rintro rfl entered
    rw [tx_length_stored config app after entered taken]
    exact stored
  · rintro rfl entered
    rw [rx_length_stored config app after entered taken]
    exact stored
  · intro _
    unfold elementsWritten
    cases app.verify with
    | false => exact Nat.zero_le _
    | true =>
        simp only [if_true]
        split
        · decide
        · exact filled
        · exact Nat.zero_le _

theorem run_sized (config : Config) (arg : Int) (events : List AppEvent) (app : AppState)
    (run : Run (applicationWith config (SizedBy arg)) (fun _ _ => True) events app) : SizedBy arg app := by
  refine run.invariant (SizedBy arg) ?_ ?_
  · intro state started
    exact started.2
  · intro state event after sized _ taken
    exact (step_keeps_settings config state after event taken).1.trans sized

def firstStart (testSize : Int) : AppState :=
  ⟨false, testSize, false, 1, threadStart, threadStart, ⟨fun _ => .idle, [], fun _ => 0, fun _ => 0, 0, 0, 0⟩,
    ⟨fun _ => .idle, [], fun _ => 0, fun _ => 0, 0, 0, 0⟩, 0⟩

theorem first_start_launched (testSize : Int) : Launched (firstStart testSize) :=
  ⟨Int.le_refl 1, by simp [firstStart, intMax], rfl, rfl, ⟨rfl, rfl, rfl, rfl, rfl⟩, ⟨rfl, rfl, rfl, rfl, rfl⟩⟩

theorem first_length_fits (arg : Int) (fits : SizesFit arg) : (toUnsigned (mainTestSize arg)).toNat ≤ bufferSize := by
  have run : Run (applicationWith deployed (SizedBy arg)) (fun _ _ => True) [] (firstStart (mainTestSize arg)) :=
    .start _ ⟨first_start_launched _, rfl⟩
  have inside := (fits.writes deployed [] _ .tx _ run rfl).txLength rfl rfl
  rw [tx_length_stored deployed (firstStart (mainTestSize arg)) _ rfl rfl] at inside
  exact inside

theorem main_test_size_fits (arg : Int) (least : -2 ^ 31 ≤ clampedSize arg * 1024)
    (most : clampedSize arg * 1024 ≤ intMax) : mainTestSize arg = clampedSize arg * 1024 := by
  unfold intMax at most
  exact Int.bmod_eq_of_le (by omega) (by omega)

theorem sizes_fit_exactly (arg : Int) : SizesFit arg ↔ 0 ≤ arg ∧ arg ≤ 128 := by
  constructor
  · intro fits
    have length := first_length_fits arg fits
    rw [main_test_size_fits arg fits.least fits.most, to_unsigned_nat] at length
    have lower := fits.least
    by_cases clamped : arg > bufferSize
    · rw [clampedSize, if_pos clamped] at length
      exact absurd length (by decide)
    · rw [clampedSize, if_neg clamped] at length lower
      simp only [bufferSize] at length clamped
      omega
  · rintro ⟨positive, small⟩
    have unclamped : clampedSize arg = arg := by
      rw [clampedSize, if_neg]
      simp only [bufferSize]
      omega
    have low : -2 ^ 31 ≤ clampedSize arg * 1024 := by omega
    have high : clampedSize arg * 1024 ≤ intMax := by
      rw [unclamped, intMax]
      omega
    refine ⟨low, high, ?_⟩
    intro config events app event after run taken
    have sized := run_sized config arg events app run
    rw [SizedBy, main_test_size_fits arg low high, unclamped] at sized
    refine sized_writes_fit config app after event (by omega) ?_ taken
    simp only [bufferSize]
    omega

-- 129 KB pass the comparison with 131072, and so does every negative size.
theorem kilobytes_pass_clamp : ¬ SizesFit 129 ∧ ¬ SizesFit (-1) := by
  constructor
  · intro fits
    exact absurd (first_length_fits 129 fits) (by decide)
  · intro fits
    exact absurd (first_length_fits (-1) fits) (by decide)

end LilacUxB.ProxyTest
