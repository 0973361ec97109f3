import LilacUxB.ProxyTest.GracefulStop
import LilacUxB.ProxyTest.SizeClamp

set_option autoImplicit false

namespace LilacUxB.ProxyTest

open Transitions

theorem struct_words : structWords = 33024 := by decide

theorem buffer_words : bufferWords = 32768 := by decide

theorem write_words_elsewhere (memory : Nat → UInt32) (bufferId bound : Nat) (word : Nat → UInt32) (other i : Nat)
    (inside : bound ≤ bufferWords) (within : i < structWords) (apart : other ≠ bufferId ∨ bufferWords ≤ i) :
    writeWords memory bufferId bound word (wordAt other i) = memory (wordAt other i) := by
  apply write_words_outside
  rw [buffer_words] at inside apart
  rw [struct_words] at within
  rw [wordAt, wordAt, wordAt, struct_words]
  omega

theorem write_words_first (memory : Nat → UInt32) (bufferId bound : Nat) (word : Nat → UInt32) (positive : 0 < bound) :
    writeWords memory bufferId bound word (wordAt bufferId 0) = word 0 := by
  have inside : wordAt bufferId 0 ≤ wordAt bufferId 0 ∧ wordAt bufferId 0 < wordAt bufferId bound :=
    ⟨Nat.le_refl _, Nat.add_lt_add_left positive _⟩
  rw [writeWords, if_pos inside, Nat.sub_self]

theorem length_apart (bufferId other : Nat) : wordAt other 0 ≠ lengthAt bufferId := by
  rw [lengthAt, wordAt, wordAt, struct_words, buffer_words]
  omega

theorem length_injective (bufferId other : Nat) (different : other ≠ bufferId) : lengthAt other ≠ lengthAt bufferId := by
  rw [lengthAt, lengthAt, wordAt, wordAt, struct_words]
  omega

theorem set_length_memory (channel : Channel) (bufferId : Nat) (testSize : Int) :
    (setLength channel bufferId testSize).memory =
      Function.update channel.memory (lengthAt bufferId) (toUnsigned testSize) := rfl

theorem fill_pattern_memory (channel : Channel) (bufferId bound : Nat) (base : Int) :
    (fillPattern channel bufferId bound base).memory =
      writeWords channel.memory bufferId bound (fun i => toUnsigned (i + base)) := rfl

theorem received_memory (channel : Channel) (bufferId other : Nat) (sent : Nat → UInt32) (length : UInt32)
    (rest : List Nat) :
    (complete (receive channel bufferId sent length) other rest).memory =
      writeWords channel.memory bufferId ((length.toNat + 3) / 4) sent := rfl

structure SameBooks (channel other : Channel) : Prop where
  entry : other.entry = channel.entry
  started : other.started = channel.started
  completed : other.completed = channel.completed
  finished : other.finished = channel.finished

theorem memory_books (channel : Channel) (memory : Nat → UInt32) : SameBooks channel { channel with memory := memory } :=
  ⟨rfl, rfl, rfl, rfl⟩

theorem SameBooks.trans {channel other last : Channel} (first : SameBooks channel other) (second : SameBooks other last) :
    SameBooks channel last :=
  ⟨second.entry.trans first.entry, second.started.trans first.started, second.completed.trans first.completed,
    second.finished.trans first.finished⟩

theorem set_length_books (channel : Channel) (bufferId : Nat) (testSize : Int) :
    SameBooks channel (setLength channel bufferId testSize) :=
  memory_books channel _

theorem fill_pattern_books (channel : Channel) (bufferId bound : Nat) (base : Int) :
    SameBooks channel (fillPattern channel bufferId bound base) :=
  memory_books channel _

theorem start_books (channel sent : Channel) (bufferId : Nat) (books : SameBooks channel sent) :
    (startXfer sent bufferId).started = channel.started + 1 ∧ (startXfer sent bufferId).completed = channel.completed ∧
      (startXfer sent bufferId).finished = channel.finished :=
  ⟨congrArg Nat.succ books.started, books.completed, books.finished⟩

theorem prime_start_books (channel : Channel) (bufferId bound : Nat) (testSize base : Int) :
    SameBooks channel (fillPattern (setLength channel bufferId testSize) bufferId bound base) :=
  (set_length_books channel bufferId testSize).trans (fill_pattern_books _ bufferId bound base)

theorem completed_books (channel : Channel) (memory : Nat → UInt32) (bufferId : Nat) (rest : List Nat) :
    (complete { channel with memory := memory } bufferId rest).started = channel.started ∧
      (complete { channel with memory := memory } bufferId rest).completed = channel.completed + 1 ∧
      (complete { channel with memory := memory } bufferId rest).finished = channel.finished :=
  ⟨rfl, rfl, rfl⟩

theorem received_books (channel : Channel) (bufferId other : Nat) (sent : Nat → UInt32) (length : UInt32) (rest : List Nat) :
    (complete (receive channel bufferId sent length) other rest).started = channel.started ∧
      (complete (receive channel bufferId sent length) other rest).completed = channel.completed + 1 ∧
      (complete (receive channel bufferId sent length) other rest).finished = channel.finished :=
  completed_books channel _ other rest

structure Filled (ring : Ring.Shape) (testSize : Int) (channel : Channel) (limit : Nat) : Prop where
  lengths : ∀ transfer, transfer < limit → channel.memory (lengthAt (ring.slot transfer)) = toUnsigned testSize
  numbers : ∀ transfer, channel.finished ≤ transfer → transfer < limit →
    channel.memory (wordAt (ring.slot transfer) 0) = toUnsigned transfer

def Entered (ring : Ring.Shape) (testSize : Int) (channel : Channel) : Prop :=
  ∀ transfer, channel.completed ≤ transfer → transfer < channel.started →
    channel.entry (ring.slot transfer) = toUnsigned testSize

structure Stocked (ring : Ring.Shape) (testSize : Int) (channel : Channel) : Prop where
  filled : Filled ring testSize channel channel.started
  entered : Entered ring testSize channel

def Delivered (ring : Ring.Shape) (channel : Channel) : Prop :=
  ∀ transfer, channel.finished ≤ transfer → transfer < channel.completed →
    channel.memory (wordAt (ring.slot transfer) 0) = toUnsigned transfer

theorem set_length_keeps_numbers (channel : Channel) (bufferId other : Nat) (testSize : Int) :
    (setLength channel bufferId testSize).memory (wordAt other 0) = channel.memory (wordAt other 0) := by
  rw [set_length_memory, Function.update_of_ne (length_apart bufferId other)]

theorem set_length_lengths (ring : Ring.Shape) (testSize : Int) (channel : Channel) (limit : Nat)
    (filled : Filled ring testSize channel limit) (transfer : Nat) (below : transfer < limit + 1) :
    (setLength channel (ring.slot limit) testSize).memory (lengthAt (ring.slot transfer)) = toUnsigned testSize := by
  rw [set_length_memory]
  by_cases same : ring.slot transfer = ring.slot limit
  · rw [same, Function.update_self]
  · have earlier : transfer < limit := by
      rcases Nat.lt_succ_iff_lt_or_eq.mp below with earlier | rfl
      · exact earlier
      · exact absurd rfl same
    rw [Function.update_of_ne (length_injective (ring.slot limit) (ring.slot transfer) same)]
    exact filled.lengths transfer earlier

theorem fill_pattern_filled (ring : Ring.Shape) (testSize base : Int) (channel : Channel) (limit bound : Nat)
    (room : limit < channel.finished + ring.size) (positive : 0 < bound) (inside : bound ≤ bufferWords)
    (lengths : ∀ transfer, transfer < limit + 1 →
      channel.memory (lengthAt (ring.slot transfer)) = toUnsigned testSize)
    (numbers : ∀ transfer, channel.finished ≤ transfer → transfer < limit →
      channel.memory (wordAt (ring.slot transfer) 0) = toUnsigned transfer)
    (number : base = limit) :
    Filled ring testSize (fillPattern channel (ring.slot limit) bound base) (limit + 1) := by
  refine ⟨?_, ?_⟩
  · intro transfer below
    rw [fill_pattern_memory, lengthAt,
      write_words_elsewhere _ _ _ _ _ _ inside (by decide) (.inr (Nat.le_succ bufferWords))]
    exact lengths transfer below
  · intro transfer start below
    rw [(fill_pattern_books channel (ring.slot limit) bound base).finished] at start
    rw [fill_pattern_memory]
    rcases Nat.lt_succ_iff_lt_or_eq.mp below with earlier | rfl
    · have apart := ring.slot_ne channel.finished transfer limit start (by omega) (by omega) room (Nat.ne_of_lt earlier)
      rw [write_words_elsewhere _ _ _ _ _ _ inside (by decide) (.inl apart)]
      exact numbers transfer start earlier
    · rw [write_words_first _ _ _ _ positive, number]
      exact congrArg toUnsigned (Int.zero_add _)

theorem start_stocked (ring : Ring.Shape) (testSize : Int) (channel sent : Channel) (bufferId : Nat)
    (books : SameBooks channel sent) (buffer : bufferId = ring.slot channel.started)
    (filled : Filled ring testSize sent (channel.started + 1)) (entered : Entered ring testSize channel) :
    Stocked ring testSize (startXfer sent bufferId) := by
  obtain ⟨entry, started, completed, finished⟩ := books
  rw [← started] at buffer filled
  subst buffer
  refine ⟨⟨filled.lengths, filled.numbers⟩, ?_⟩
  intro transfer start below
  by_cases same : ring.slot transfer = ring.slot sent.started
  · simp only [startXfer, same, Function.update_self]
    exact filled.lengths sent.started (Nat.lt_succ_self _)
  · have earlier : transfer < sent.started := by
      rcases Nat.lt_succ_iff_lt_or_eq.mp below with earlier | rfl
      · exact earlier
      · exact absurd rfl same
    have kept : sent.entry (ring.slot transfer) = toUnsigned testSize := by
      rw [entry]
      exact entered transfer (completed ▸ start) (started ▸ earlier)
    exact (Function.update_of_ne same _ _).trans kept

theorem prime_start_stocked (ring : Ring.Shape) (testSize base : Int) (channel : Channel) (bufferId : Nat)
    (buffer : bufferId = ring.slot channel.started) (room : channel.started < channel.finished + ring.size)
    (number : base = channel.started) (stocked : Stocked ring testSize channel) :
    Stocked ring testSize (startXfer (fillPattern (setLength channel bufferId testSize) bufferId 1 base) bufferId) := by
  have length := set_length_books channel bufferId testSize
  have books := prime_start_books channel bufferId 1 testSize base
  refine start_stocked ring testSize channel _ bufferId books buffer ?_ stocked.entered
  rw [← length.finished] at room
  rw [buffer] at room ⊢
  refine fill_pattern_filled ring testSize base _ channel.started 1 room Nat.one_pos (by decide) ?_ ?_ number
  · exact set_length_lengths ring testSize channel channel.started stocked.filled
  · intro transfer start below
    rw [set_length_keeps_numbers]
    exact stocked.filled.numbers transfer start below

theorem restart_stocked (ring : Ring.Shape) (testSize base : Int) (channel : Channel) (bufferId : Nat)
    (least : 4 ≤ testSize) (most : testSize ≤ bufferSize) (buffer : bufferId = ring.slot channel.started)
    (room : channel.started < channel.finished + ring.size) (lapped : ring.size ≤ channel.started)
    (number : base = channel.started) (stocked : Stocked ring testSize channel) :
    Stocked ring testSize (startXfer (fillPattern channel bufferId (patternWords testSize) base) bufferId) := by
  have positive : 0 < patternWords testSize := by
    simp only [patternWords, bufferSize] at most ⊢
    omega
  have inside : patternWords testSize ≤ bufferWords := by
    simp only [patternWords, bufferWords, bufferSize] at most ⊢
    omega
  have books := fill_pattern_books channel bufferId (patternWords testSize) base
  refine start_stocked ring testSize channel _ bufferId books buffer ?_ stocked.entered
  rw [buffer]
  refine fill_pattern_filled ring testSize base channel channel.started _ room positive inside ?_
    stocked.filled.numbers number
  intro transfer below
  rcases Nat.lt_succ_iff_lt_or_eq.mp below with earlier | rfl
  · exact stocked.filled.lengths transfer earlier
  · have size := ring.size_pos
    have before : channel.started - ring.size < channel.started := by omega
    have same := ring.slot_lap (channel.started - ring.size)
    rw [Nat.sub_add_cancel lapped] at same
    rw [same]
    exact stocked.filled.lengths _ before

theorem delivered_receive (txRing rxRing : Ring.Shape) (testSize : Int) (txChannel rxChannel : Channel)
    (least : 4 ≤ testSize) (most : testSize ≤ bufferSize)
    (txUnderWay : txChannel.completed < txChannel.started) (txFinished : txChannel.finished ≤ txChannel.completed)
    (rxWindow : Window rxRing rxChannel) (rxUnderWay : rxChannel.completed < rxChannel.started)
    (paired : txChannel.completed = rxChannel.completed) (stocked : Stocked txRing testSize txChannel)
    (delivered : Delivered rxRing rxChannel) (rest : List Nat) :
    Delivered rxRing (complete (receive rxChannel (rxRing.slot rxChannel.completed)
      (fun i => txChannel.memory (wordAt (txRing.slot txChannel.completed) i))
      (txChannel.entry (txRing.slot txChannel.completed))) (rxRing.slot rxChannel.completed) rest) := by
  have length := stocked.entered txChannel.completed (Nat.le_refl _) txUnderWay
  have words : 0 < ((toUnsigned testSize).toNat + 3) / 4 ∧ ((toUnsigned testSize).toNat + 3) / 4 ≤ bufferWords := by
    rw [to_unsigned_nat]
    simp only [bufferWords, bufferSize] at most ⊢
    omega
  rw [← length] at words
  obtain ⟨_, completed, finished⟩ := received_books rxChannel (rxRing.slot rxChannel.completed)
    (rxRing.slot rxChannel.completed) (fun i => txChannel.memory (wordAt (txRing.slot txChannel.completed) i))
    (txChannel.entry (txRing.slot txChannel.completed)) rest
  intro transfer start below
  rw [finished] at start
  rw [completed] at below
  have fits := rxWindow.fits
  rcases Nat.lt_succ_iff_lt_or_eq.mp below with earlier | rfl
  · have apart := rxRing.slot_ne rxChannel.finished transfer rxChannel.completed start rxWindow.finished_le (by omega)
      (by omega) (Nat.ne_of_lt earlier)
    rw [received_memory, write_words_elsewhere _ _ _ _ _ _ words.2 (by decide) (.inl apart)]
    exact delivered transfer start earlier
  · rw [received_memory, write_words_first _ _ _ _ words.1,
      stocked.filled.numbers txChannel.completed txFinished txUnderWay, paired]

structure Checking (testSize numTransfers : Int) (app : AppState) : Prop where
  verify : app.verify = true
  size : app.testSize = testSize
  running : app.stop = false
  count : app.numTransfers = numTransfers

def NoSignal (_ : AppState) (event : AppEvent) : Prop := event ≠ .sigint

structure Agreeing (config : Config) (testSize numTransfers : Int) (app : AppState) : Prop where
  ordered : Ordered config app
  settings : Checking testSize numTransfers app
  stocked : Stocked config.txRing testSize app.txChannel
  delivered : Delivered config.rxRing app.rxChannel
  equal : app.notEqual = 0
  txPc : app.tx.pc ≠ .rewrite
  rxPc : app.rx.pc ≠ .rewrite ∧ app.rx.pc ≠ .stopCheck
  txAll : app.tx.pc = .exited → (app.txChannel.started : Int) = numTransfers
  rxAll : app.rx.pc = .exited → (app.rxChannel.started : Int) = numTransfers

theorem prime_start_number (ring : Ring.Shape) (numTransfers : Int) (started finished : Nat) (thread : Thread)
    (entered : thread.pc = .primeStart) (place : Place ring numTransfers started finished thread) :
    thread.inProgressCount = started := by
  cases place with
  | priming pc none counter count buffer room more => exact count
  | _ => simp_all

theorem restart_number (ring : Ring.Shape) (numTransfers : Int) (started finished : Nat) (thread : Thread)
    (entered : thread.pc = .restart) (place : Place ring numTransfers started finished thread) :
    ((ring.size : Nat) : Int) - 1 + thread.counter = started ∧ ring.size ≤ started := by
  cases place with
  | restarting last pc following buffer counter count more full =>
      subst following full
      exact ⟨by omega, Nat.le_add_left _ _⟩
  | _ => simp_all

theorem count_leaves (ring : Ring.Shape) (numTransfers : Int) (started finished : Nat) (thread : Thread) (next : Pc)
    (entered : thread.pc = .count) (stays : next ≠ .exited) (ordered : finished ≤ started)
    (place : Place ring numTransfers started finished thread)
    (leaves : (countFinished numTransfers next thread).pc = .exited) : (started : Int) = numTransfers := by
  cases place with
  | counting last pc following buffer counter count room within kept =>
      by_cases enough : thread.counter + 1 ≥ numTransfers
      · omega
      · simp only [countFinished, if_neg enough] at leaves
        exact absurd leaves stays
  | _ => simp_all

theorem count_pc (numTransfers : Int) (next : Pc) (thread : Thread) :
    (countFinished numTransfers next thread).pc = .exited ∨ (countFinished numTransfers next thread).pc = next := by
  simp only [countFinished]
  split
  · exact .inl rfl
  · exact .inr rfl

theorem prime_check_pc (bufferCount increment : Nat) (numTransfers : Int) (thread : Thread) :
    (primeCheck bufferCount increment numTransfers thread).pc = .finish ∨
      (primeCheck bufferCount increment numTransfers thread).pc = .primeStart := by
  simp only [primeCheck]
  split
  · exact .inl rfl
  · exact .inr rfl

theorem restart_check_pc (bufferCount increment : Nat) (numTransfers : Int) (thread : Thread) :
    (restartCheck bufferCount increment numTransfers thread).pc = .finish ∨
      (restartCheck bufferCount increment numTransfers thread).pc = .restart := by
  simp only [restartCheck]
  split
  · exact .inl rfl
  · exact .inr rfl

theorem prime_check_goes_on (bufferCount increment : Nat) (numTransfers : Int) (thread : Thread) :
    (primeCheck bufferCount increment numTransfers thread).pc ≠ .rewrite ∧
      (primeCheck bufferCount increment numTransfers thread).pc ≠ .stopCheck ∧
      (primeCheck bufferCount increment numTransfers thread).pc ≠ .exited := by
  rcases prime_check_pc bufferCount increment numTransfers thread with pc | pc <;> simp [pc]

theorem restart_check_goes_on (bufferCount increment : Nat) (numTransfers : Int) (thread : Thread) :
    (restartCheck bufferCount increment numTransfers thread).pc ≠ .rewrite ∧
      (restartCheck bufferCount increment numTransfers thread).pc ≠ .stopCheck ∧
      (restartCheck bufferCount increment numTransfers thread).pc ≠ .exited := by
  rcases restart_check_pc bufferCount increment numTransfers thread with pc | pc <;> simp [pc]

theorem finish_account (channel after : Channel) (bufferId : Nat) (returned : finishXfer channel bufferId = some after) :
    after.memory = channel.memory ∧ after.entry = channel.entry ∧ after.started = channel.started ∧
      after.completed = channel.completed ∧ after.finished = channel.finished + 1 := by
  unfold finishXfer at returned
  split at returned
  · cases returned
    exact ⟨rfl, rfl, rfl, rfl, rfl⟩
  · cases returned

theorem finish_stocked (ring : Ring.Shape) (testSize : Int) (channel after : Channel) (bufferId : Nat)
    (returned : finishXfer channel bufferId = some after) (stocked : Stocked ring testSize channel) :
    Stocked ring testSize after := by
  obtain ⟨memory, entry, started, completed, finished⟩ := finish_account channel after bufferId returned
  refine ⟨⟨?_, ?_⟩, ?_⟩
  · intro transfer below
    rw [memory]
    exact stocked.filled.lengths transfer (started ▸ below)
  · intro transfer start below
    rw [memory]
    exact stocked.filled.numbers transfer (by omega) (started ▸ below)
  · intro transfer start below
    rw [entry]
    exact stocked.entered transfer (completed ▸ start) (started ▸ below)

theorem tx_keeps_checking (config : Config) (testSize numTransfers : Int) (app after : AppState)
    (plain : app.tx.pc ≠ .rewrite) (taken : txThread config app = some after)
    (settings : Checking testSize numTransfers app) : Checking testSize numTransfers after := by
  obtain ⟨size, verify, stop⟩ := tx_keeps_settings config app after taken
  refine ⟨verify.trans settings.verify, size.trans settings.size, stop.trans settings.running, ?_⟩
  cases entered : app.tx.pc <;> simp only [txThread, entered, Option.some.injEq, reduceCtorEq] at taken
  case blocked =>
    obtain ⟨channel, _, rfl⟩ := Option.map_eq_some_iff.mp taken
    exact settings.count
  case rewrite => exact absurd entered plain
  all_goals exact taken ▸ settings.count

theorem rx_keeps_checking (config : Config) (testSize numTransfers : Int) (app after : AppState)
    (taken : rxThread config app = some after) (settings : Checking testSize numTransfers app) :
    Checking testSize numTransfers after := by
  obtain ⟨size, verify, stop⟩ := rx_keeps_settings config app after taken
  refine ⟨verify.trans settings.verify, size.trans settings.size, stop.trans settings.running, ?_⟩
  cases entered : app.rx.pc <;> simp only [rxThread, entered, Option.some.injEq, reduceCtorEq] at taken
  case blocked =>
    obtain ⟨channel, _, rfl⟩ := Option.map_eq_some_iff.mp taken
    exact settings.count
  all_goals exact taken ▸ settings.count

theorem launched_agreeing (config : Config) (testSize numTransfers : Int) (app : AppState) (launched : Launched app)
    (quiet : app.notEqual = 0) (settings : Checking testSize numTransfers app) :
    Agreeing config testSize numTransfers app := by
  obtain ⟨state, inFlight, started, completed, finished⟩ := launched.txChannel
  obtain ⟨rxState, rxInFlight, rxStarted, rxCompleted, rxFinished⟩ := launched.rxChannel
  have txPc : app.tx.pc = .primeStart := by rw [launched.tx, threadStart]
  have rxPc : app.rx.pc = .primeStart := by rw [launched.rx, threadStart]
  refine ⟨launched_ordered config app launched, settings, ⟨⟨?_, ?_⟩, ?_⟩, ?_, quiet, ?_, ?_, ?_, ?_⟩
  · intro transfer below
    omega
  · intro transfer _ below
    omega
  · intro transfer _ below
    omega
  · intro transfer _ below
    omega
  · simp [txPc]
  · simp [rxPc]
  · simp [txPc]
  · simp [rxPc]

theorem tx_agreeing (config : Config) (testSize numTransfers : Int) (app after : AppState) (least : 4 ≤ testSize)
    (most : testSize ≤ bufferSize) (taken : txThread config app = some after)
    (agreeing : Agreeing config testSize numTransfers app) : Agreeing config testSize numTransfers after := by
  obtain ⟨ordered, settings, stocked, delivered, equal, txPc, rxPc, txAll, rxAll⟩ := agreeing
  have nextOrdered := tx_ordered config app after (fun rewriting => absurd rewriting txPc) taken ordered
  have nextSettings := tx_keeps_checking config testSize numTransfers app after txPc taken settings
  obtain ⟨verify, size, running, count⟩ := settings
  cases entered : app.tx.pc <;> simp only [txThread, entered, Option.some.injEq, reduceCtorEq] at taken
  case primeStart =>
    obtain ⟨_, buffer, room⟩ := prime_start_place _ _ _ _ _ entered ordered.txPlace
    have number := prime_start_number _ _ _ _ _ entered ordered.txPlace
    have next := prime_start_stocked config.txRing testSize _ app.txChannel app.tx.bufferId buffer room number stocked
    rw [verify, size, if_pos rfl] at taken
    subst after
    exact ⟨nextOrdered, nextSettings, next, delivered, equal, by simp, rxPc, by simp, rxAll⟩
  case primeCheck =>
    subst after
    obtain ⟨plain, -, stays⟩ := prime_check_goes_on config.txBufferCount config.bufferIncrement app.numTransfers app.tx
    exact ⟨nextOrdered, nextSettings, stocked, delivered, equal, plain, rxPc, fun exited => absurd exited stays, rxAll⟩
  case finish =>
    subst after
    exact ⟨nextOrdered, nextSettings, stocked, delivered, equal, by simp, rxPc, by simp, rxAll⟩
  case blocked =>
    obtain ⟨channel, returned, rfl⟩ := Option.map_eq_some_iff.mp taken
    have next := finish_stocked config.txRing testSize _ channel _ returned stocked
    exact ⟨nextOrdered, nextSettings, next, delivered, equal, by simp, rxPc, by simp, rxAll⟩
  case count =>
    subst after
    have order := Nat.le_trans ordered.txWindow.finished_le ordered.txWindow.completed_le
    have leaves := count_leaves _ _ _ _ _ .stopCheck entered (by simp) order ordered.txPlace
    refine ⟨nextOrdered, nextSettings, stocked, delivered, equal, ?_, rxPc, fun exited => (leaves exited).trans count, rxAll⟩
    rcases count_pc app.numTransfers .stopCheck app.tx with pc | pc <;> simp [pc]
  case stopCheck =>
    rw [running] at taken
    subst after
    exact ⟨nextOrdered, nextSettings, stocked, delivered, equal, by simp, rxPc, by simp, rxAll⟩
  case rewrite => exact absurd entered txPc
  case restartCheck =>
    subst after
    obtain ⟨plain, -, stays⟩ := restart_check_goes_on config.txBufferCount config.bufferIncrement app.numTransfers app.tx
    exact ⟨nextOrdered, nextSettings, stocked, delivered, equal, plain, rxPc, fun exited => absurd exited stays, rxAll⟩
  case restart =>
    obtain ⟨_, buffer, room⟩ := restart_place _ _ _ _ _ entered ordered.txPlace
    obtain ⟨number, lapped⟩ := restart_number _ _ _ _ _ entered ordered.txPlace
    have next := restart_stocked config.txRing testSize _ app.txChannel app.tx.bufferId least most buffer room lapped
      number stocked
    rw [verify, size, if_pos rfl] at taken
    subst after
    exact ⟨nextOrdered, nextSettings, next, delivered, equal, by simp [restarted, flip], rxPc,
      by simp [restarted, flip], rxAll⟩

theorem set_length_delivered (ring : Ring.Shape) (channel : Channel) (bufferId : Nat) (testSize : Int)
    (delivered : Delivered ring channel) : Delivered ring (setLength channel bufferId testSize) := by
  intro transfer start below
  rw [set_length_keeps_numbers]
  exact delivered transfer start below

theorem finish_delivered (ring : Ring.Shape) (channel after : Channel) (bufferId : Nat)
    (returned : finishXfer channel bufferId = some after) (delivered : Delivered ring channel) : Delivered ring after := by
  obtain ⟨memory, _, _, completed, finished⟩ := finish_account channel after bufferId returned
  intro transfer start below
  rw [memory]
  exact delivered transfer (by omega) (completed ▸ below)

theorem finish_completed (ring : Ring.Shape) (numTransfers : Int) (channel after : Channel) (thread : Thread)
    (entered : thread.pc = .blocked) (window : Window ring channel)
    (place : Place ring numTransfers channel.started channel.finished thread)
    (returned : finishXfer channel thread.bufferId = some after) :
    thread.bufferId = ring.slot channel.finished ∧ channel.finished < channel.completed ∧
      thread.counter = channel.finished := by
  obtain ⟨kept, _, completed⟩ := finish_returned ring numTransfers channel after thread entered window place returned
  obtain ⟨_, _, _, _, finished⟩ := finish_account channel after thread.bufferId returned
  have order := kept.finished_le
  cases place with
  | finishing pc buffer counter count underWay within full => exact ⟨buffer, by omega, counter⟩
  | _ => simp_all

theorem rx_agreeing (config : Config) (testSize numTransfers : Int) (app after : AppState)
    (taken : rxThread config app = some after) (agreeing : Agreeing config testSize numTransfers app) :
    Agreeing config testSize numTransfers after := by
  obtain ⟨ordered, settings, stocked, delivered, equal, txPc, rxPc, txAll, rxAll⟩ := agreeing
  have nextOrdered := rx_ordered config app after taken ordered
  have nextSettings := rx_keeps_checking config testSize numTransfers app after taken settings
  have count := settings.count
  cases entered : app.rx.pc <;> simp only [rxThread, entered, Option.some.injEq, reduceCtorEq] at taken
  case primeStart =>
    subst after
    have next := set_length_delivered config.rxRing app.rxChannel app.rx.bufferId app.testSize delivered
    exact ⟨nextOrdered, nextSettings, stocked, next, equal, txPc, by simp, txAll, by simp⟩
  case primeCheck =>
    subst after
    obtain ⟨plain, going, stays⟩ := prime_check_goes_on config.rxBufferCount config.bufferIncrement app.numTransfers app.rx
    exact ⟨nextOrdered, nextSettings, stocked, delivered, equal, txPc, ⟨plain, going⟩, txAll, fun exited => absurd exited stays⟩
  case finish =>
    subst after
    exact ⟨nextOrdered, nextSettings, stocked, delivered, equal, txPc, by simp, txAll, by simp⟩
  case blocked =>
    obtain ⟨channel, returned, rfl⟩ := Option.map_eq_some_iff.mp taken
    have next := finish_delivered config.rxRing _ channel _ returned delivered
    obtain ⟨buffer, completed, counter⟩ := finish_completed _ _ _ channel _ entered ordered.rxWindow ordered.rxPlace returned
    have same : channel.memory (wordAt app.rx.bufferId 0) = toUnsigned app.rx.counter := by
      rw [(finish_account _ channel _ returned).1, buffer, counter]
      exact delivered app.rxChannel.finished (Nat.le_refl _) completed
    have reported : ¬ (app.verify = true ∧ channel.memory (wordAt app.rx.bufferId 0) ≠ toUnsigned app.rx.counter) :=
      fun report => report.2 same
    exact ⟨nextOrdered, nextSettings, stocked, next, (if_neg reported).trans equal, txPc, by simp, txAll, by simp⟩
  case count =>
    subst after
    have order := Nat.le_trans ordered.rxWindow.finished_le ordered.rxWindow.completed_le
    have leaves := count_leaves _ _ _ _ _ .restartCheck entered (by simp) order ordered.rxPlace
    refine ⟨nextOrdered, nextSettings, stocked, delivered, equal, txPc, ?_, txAll, fun exited => (leaves exited).trans count⟩
    rcases count_pc app.numTransfers .restartCheck app.rx with pc | pc <;> simp [pc]
  case restartCheck =>
    subst after
    obtain ⟨plain, going, stays⟩ := restart_check_goes_on config.rxBufferCount config.bufferIncrement app.numTransfers app.rx
    exact ⟨nextOrdered, nextSettings, stocked, delivered, equal, txPc, ⟨plain, going⟩, txAll, fun exited => absurd exited stays⟩
  case restart =>
    subst after
    exact ⟨nextOrdered, nextSettings, stocked, delivered, equal, txPc, by simp [restarted, flip], txAll,
      by simp [restarted, flip]⟩

theorem complete_stocked (ring : Ring.Shape) (testSize : Int) (channel : Channel) (bufferId : Nat) (rest : List Nat)
    (stocked : Stocked ring testSize channel) : Stocked ring testSize (complete channel bufferId rest) :=
  ⟨⟨stocked.filled.lengths, stocked.filled.numbers⟩,
    fun transfer start below => stocked.entered transfer (Nat.le_of_succ_le start) below⟩

theorem loopback_agreeing (config : Config) (testSize numTransfers : Int) (app after : AppState)
    (least : 4 ≤ testSize) (most : testSize ≤ bufferSize) (taken : loopback app = some after)
    (agreeing : Agreeing config testSize numTransfers app) : Agreeing config testSize numTransfers after := by
  obtain ⟨ordered, settings, stocked, delivered, equal, txPc, rxPc, txAll, rxAll⟩ := agreeing
  have nextOrdered := loopback_ordered config app after taken ordered
  unfold loopback at taken
  split at taken
  case h_1 sent txRest received rxRest txOldest rxOldest =>
    obtain ⟨txUnderWay, txBuffer, _⟩ := flight_oldest _ _ sent txRest ordered.txWindow txOldest
    obtain ⟨rxUnderWay, rxBuffer, _⟩ := flight_oldest _ _ received rxRest ordered.rxWindow rxOldest
    have next := delivered_receive config.txRing config.rxRing testSize app.txChannel app.rxChannel least most txUnderWay
      ordered.txWindow.finished_le ordered.rxWindow rxUnderWay ordered.paired stocked delivered rxRest
    rw [txBuffer, rxBuffer] at next
    obtain ⟨started, _, _⟩ := received_books app.rxChannel received received
      (fun i => app.txChannel.memory (wordAt sent i)) (app.txChannel.entry sent) rxRest
    cases taken
    exact ⟨nextOrdered, ⟨settings.verify, settings.size, settings.running, settings.count⟩,
      complete_stocked config.txRing testSize app.txChannel sent txRest stocked, next, equal, txPc, rxPc, txAll,
      fun exited => (congrArg Nat.cast started).trans (rxAll exited)⟩
  case h_2 => cases taken

theorem step_agreeing (config : Config) (testSize numTransfers : Int) (app after : AppState) (event : AppEvent)
    (least : 4 ≤ testSize) (most : testSize ≤ bufferSize) (agreeing : Agreeing config testSize numTransfers app)
    (rule : NoSignal app event) (taken : appStep config app event = some after) :
    Agreeing config testSize numTransfers after := by
  cases event with
  | tx => exact tx_agreeing config testSize numTransfers app after least most taken agreeing
  | rx => exact rx_agreeing config testSize numTransfers app after taken agreeing
  | loopback => exact loopback_agreeing config testSize numTransfers app after least most taken agreeing
  | sigint => exact absurd rfl rule

def verifying (config : Config) (testSize numTransfers : Int) : System AppState AppEvent :=
  applicationWith config (fun app => Checking testSize numTransfers app ∧ app.notEqual = 0)

theorem run_agreeing (config : Config) (testSize numTransfers : Int) (least : 4 ≤ testSize)
    (most : testSize ≤ bufferSize) (events : List AppEvent) (app : AppState)
    (run : Run (verifying config testSize numTransfers) NoSignal events app) :
    Agreeing config testSize numTransfers app := by
  refine run.invariant (Agreeing config testSize numTransfers) ?_ ?_
  · rintro state ⟨launched, settings, quiet⟩
    exact launched_agreeing config testSize numTransfers state launched quiet settings
  · intro state event after agreeing rule taken
    exact step_agreeing config testSize numTransfers state after event least most agreeing rule taken

end LilacUxB.ProxyTest
