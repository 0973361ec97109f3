import LilacUxB.ProxyTest.Pattern

set_option autoImplicit false

namespace LilacUxB.ProxyTest

open Transitions

theorem place_within (ring : Ring.Shape) (numTransfers : Int) (started finished : Nat) (thread : Thread)
    (place : Place ring numTransfers started finished thread)
    (all : thread.pc = .exited → (started : Int) = numTransfers) : (started : Int) ≤ numTransfers := by
  cases place with
  | priming pc none counter count buffer room more => omega
  | primed pc none counter count buffer room within positive => exact within
  | finishing pc buffer counter count underWay within kept => exact within
  | counting last pc following buffer counter count room within kept => exact within
  | deciding last pc following buffer counter count room more within kept => exact within
  | restarting last pc following buffer counter count more full => omega
  | gone pc every => exact Int.le_of_eq (all pc)

def pcRank : Pc → Nat
  | .exited => 0
  | .blocked => 1
  | .finish => 2
  | .primeStart => 3
  | .restart => 3
  | .primeCheck => 4
  | .restartCheck => 4
  | .rewrite => 5
  | .stopCheck => 6
  | .count => 7

def threadRank (total : Nat) (channel : Channel) (thread : Thread) : Nat :=
  8 * (total - channel.started) + 8 * (total - channel.finished) + pcRank thread.pc

def appRank (total : Nat) (app : AppState) : Nat :=
  threadRank total app.txChannel app.tx + threadRank total app.rxChannel app.rx + (total - app.txChannel.completed)

theorem prime_check_lowers (bufferCount increment : Nat) (numTransfers : Int) (thread : Thread)
    (entered : thread.pc = .primeCheck) :
    pcRank (primeCheck bufferCount increment numTransfers thread).pc < pcRank thread.pc := by
  rw [entered]
  rcases prime_check_pc bufferCount increment numTransfers thread with pc | pc
  · rw [pc]
    decide
  · rw [pc]
    decide

theorem count_lowers (numTransfers : Int) (next : Pc) (thread : Thread) (entered : thread.pc = .count)
    (lower : pcRank next < pcRank .count) : pcRank (countFinished numTransfers next thread).pc < pcRank thread.pc := by
  rw [entered]
  rcases count_pc numTransfers next thread with pc | pc
  · rw [pc]
    decide
  · rw [pc]
    exact lower

theorem restart_check_lowers (bufferCount increment : Nat) (numTransfers : Int) (thread : Thread)
    (entered : thread.pc = .restartCheck) :
    pcRank (restartCheck bufferCount increment numTransfers thread).pc < pcRank thread.pc := by
  rw [entered]
  rcases restart_check_pc bufferCount increment numTransfers thread with pc | pc
  · rw [pc]
    decide
  · rw [pc]
    decide

theorem tx_lowers_rank (config : Config) (testSize : Int) (total : Nat) (app after : AppState)
    (taken : txThread config app = some after) (agreeing : Agreeing config testSize total app)
    (next : Agreeing config testSize total after) : appRank total after < appRank total app := by
  have within := place_within _ _ _ _ _ next.ordered.txPlace (fun exited => (next.txAll exited).trans next.settings.count.symm)
  rw [next.settings.count] at within
  have window := next.ordered.txWindow
  have finished_le := window.finished_le
  have completed_le := window.completed_le
  cases entered : app.tx.pc <;> simp only [txThread, entered, Option.some.injEq, reduceCtorEq] at taken
  case blocked =>
    obtain ⟨channel, returned, rfl⟩ := Option.map_eq_some_iff.mp taken
    obtain ⟨_, _, started, completed, finished⟩ := finish_account _ channel _ returned
    simp only [appRank, threadRank, entered, pcRank] at within finished_le completed_le ⊢
    omega
  case primeCheck =>
    subst after
    have lower := prime_check_lowers config.txBufferCount config.bufferIncrement app.numTransfers app.tx entered
    simp only [appRank, threadRank]
    omega
  case count =>
    subst after
    have lower := count_lowers app.numTransfers .stopCheck app.tx entered (by decide)
    simp only [appRank, threadRank]
    omega
  case restartCheck =>
    subst after
    have lower := restart_check_lowers config.txBufferCount config.bufferIncrement app.numTransfers app.tx entered
    simp only [appRank, threadRank]
    omega
  case primeStart =>
    rw [agreeing.settings.verify, if_pos rfl] at taken
    subst after
    obtain ⟨started, completed, finished⟩ := start_books app.txChannel _ app.tx.bufferId
      (prime_start_books app.txChannel app.tx.bufferId 1 app.testSize app.tx.inProgressCount)
    dsimp only at within
    rw [started] at within
    simp only [appRank, threadRank, entered, pcRank, started, completed, finished]
    omega
  case restart =>
    rw [agreeing.settings.verify, if_pos rfl] at taken
    subst after
    obtain ⟨started, completed, finished⟩ := start_books app.txChannel _ app.tx.bufferId
      (fill_pattern_books app.txChannel app.tx.bufferId (patternWords app.testSize)
        (((config.txBufferCount / config.bufferIncrement : Nat) : Int) - 1 + app.tx.counter))
    dsimp only at within
    rw [started] at within
    simp only [appRank, threadRank, entered, pcRank, started, completed, finished, restarted, flip]
    omega
  case stopCheck =>
    rw [agreeing.settings.running] at taken
    subst after
    simp [appRank, threadRank, entered, pcRank]
  case rewrite => exact absurd entered agreeing.txPc
  case finish =>
    subst after
    simp [appRank, threadRank, entered, pcRank]

theorem rx_lowers_rank (config : Config) (testSize : Int) (total : Nat) (app after : AppState)
    (taken : rxThread config app = some after) (next : Agreeing config testSize total after) :
    appRank total after < appRank total app := by
  have within := place_within _ _ _ _ _ next.ordered.rxPlace (fun exited => (next.rxAll exited).trans next.settings.count.symm)
  rw [next.settings.count] at within
  have window := next.ordered.rxWindow
  have finished_le := window.finished_le
  have completed_le := window.completed_le
  cases entered : app.rx.pc <;> simp only [rxThread, entered, Option.some.injEq, reduceCtorEq] at taken
  case blocked =>
    obtain ⟨channel, returned, rfl⟩ := Option.map_eq_some_iff.mp taken
    obtain ⟨_, _, started, completed, finished⟩ := finish_account _ channel _ returned
    simp only [appRank, threadRank, entered, pcRank] at within finished_le completed_le ⊢
    omega
  case primeCheck =>
    subst after
    have lower := prime_check_lowers config.rxBufferCount config.bufferIncrement app.numTransfers app.rx entered
    simp only [appRank, threadRank]
    omega
  case count =>
    subst after
    have lower := count_lowers app.numTransfers .restartCheck app.rx entered (by decide)
    simp only [appRank, threadRank]
    omega
  case restartCheck =>
    subst after
    have lower := restart_check_lowers config.rxBufferCount config.bufferIncrement app.numTransfers app.rx entered
    simp only [appRank, threadRank]
    omega
  case primeStart =>
    subst after
    simp only [appRank, threadRank, entered, pcRank, startXfer, setLength] at within ⊢
    omega
  case restart =>
    subst after
    simp only [appRank, threadRank, entered, pcRank, startXfer, restarted, flip] at within ⊢
    omega
  case finish =>
    subst after
    simp [appRank, threadRank, entered, pcRank]

theorem loopback_lowers_rank (config : Config) (testSize : Int) (total : Nat) (app after : AppState)
    (taken : loopback app = some after) (next : Agreeing config testSize total after) :
    appRank total after < appRank total app := by
  have within := place_within _ _ _ _ _ next.ordered.txPlace (fun exited => (next.txAll exited).trans next.settings.count.symm)
  rw [next.settings.count] at within
  have completed_le := next.ordered.txWindow.completed_le
  unfold loopback at taken
  split at taken
  case h_1 sent txRest received rxRest txOldest rxOldest =>
    obtain ⟨started, _, finished⟩ := received_books app.rxChannel received received
      (fun i => app.txChannel.memory (wordAt sent i)) (app.txChannel.entry sent) rxRest
    cases taken
    simp only [appRank, threadRank, complete] at within completed_le started finished ⊢
    rw [started, finished]
    omega
  case h_2 => cases taken

theorem step_lowers_rank (config : Config) (testSize : Int) (total : Nat) (app after : AppState) (event : AppEvent)
    (rule : NoSignal app event) (taken : appStep config app event = some after)
    (agreeing : Agreeing config testSize total app) (next : Agreeing config testSize total after) :
    appRank total after < appRank total app := by
  cases event with
  | tx => exact tx_lowers_rank config testSize total app after taken agreeing next
  | rx => exact rx_lowers_rank config testSize total app after taken next
  | loopback => exact loopback_lowers_rank config testSize total app after taken next
  | sigint => exact absurd rfl rule

theorem tx_stuck (config : Config) (app : AppState) (stuck : txThread config app = none) :
    app.tx.pc = .exited ∨ (app.tx.pc = .blocked ∧ app.txChannel.state app.tx.bufferId ≠ .done) := by
  cases entered : app.tx.pc <;> simp only [txThread, entered, reduceCtorEq] at stuck
  case blocked =>
    refine .inr ⟨rfl, fun done => ?_⟩
    rw [finishXfer, if_pos done] at stuck
    cases stuck
  case exited => exact .inl rfl

theorem rx_stuck (config : Config) (app : AppState) (plain : app.rx.pc ≠ .rewrite ∧ app.rx.pc ≠ .stopCheck)
    (stuck : rxThread config app = none) :
    app.rx.pc = .exited ∨ (app.rx.pc = .blocked ∧ app.rxChannel.state app.rx.bufferId ≠ .done) := by
  cases entered : app.rx.pc <;> simp only [rxThread, entered, reduceCtorEq] at stuck
  case blocked =>
    refine .inr ⟨rfl, fun done => ?_⟩
    rw [finishXfer, if_pos done] at stuck
    cases stuck
  case exited => exact .inl rfl
  case rewrite => exact absurd entered plain.1
  case stopCheck => exact absurd entered plain.2

theorem waits_for_loopback (ring : Ring.Shape) (numTransfers : Int) (channel : Channel) (thread : Thread)
    (entered : thread.pc = .blocked) (window : Window ring channel)
    (place : Place ring numTransfers channel.started channel.finished thread)
    (waiting : channel.state thread.bufferId ≠ .done) :
    channel.completed = channel.finished ∧ channel.finished < channel.started ∧ (channel.started : Int) ≤ numTransfers := by
  cases place with
  | finishing pc buffer counter count underWay within kept =>
      rw [buffer] at waiting
      have order := window.finished_le
      have none : ¬ channel.finished < channel.completed :=
        fun more => waiting (window.done channel.finished (Nat.le_refl _) more)
      exact ⟨by omega, underWay, within⟩
  | _ => simp_all

theorem exited_completed (ring : Ring.Shape) (numTransfers : Int) (channel : Channel) (thread : Thread)
    (entered : thread.pc = .exited) (window : Window ring channel)
    (place : Place ring numTransfers channel.started channel.finished thread) :
    channel.finished = channel.started ∧ channel.completed = channel.started := by
  have finished_le := window.finished_le
  have completed_le := window.completed_le
  cases place with
  | gone pc all => exact ⟨all, by omega⟩
  | _ => simp_all

theorem loopback_stuck (app : AppState) (txRing rxRing : Ring.Shape) (txWindow : Window txRing app.txChannel)
    (rxWindow : Window rxRing app.rxChannel) (stuck : loopback app = none)
    (txUnderWay : app.txChannel.completed < app.txChannel.started) :
    app.rxChannel.started ≤ app.rxChannel.completed := by
  by_contra rxUnderWay
  have txMore : app.txChannel.started - app.txChannel.completed = app.txChannel.started - app.txChannel.completed - 1 + 1 := by
    omega
  have rxMore : app.rxChannel.started - app.rxChannel.completed = app.rxChannel.started - app.rxChannel.completed - 1 + 1 := by
    omega
  have txFlight := txWindow.flight
  have rxFlight := rxWindow.flight
  rw [txMore, List.range'_succ, List.map_cons] at txFlight
  rw [rxMore, List.range'_succ, List.map_cons] at rxFlight
  simp only [loopback, txFlight, rxFlight] at stuck
  cases stuck

theorem stuck_finished (config : Config) (testSize numTransfers : Int) (app : AppState)
    (agreeing : Agreeing config testSize numTransfers app) (txStuck : txThread config app = none)
    (rxStuck : rxThread config app = none) (loopStuck : loopback app = none) :
    app.tx.pc = .exited ∧ app.rx.pc = .exited := by
  obtain ⟨ordered, settings, _, _, _, _, rxPc, txAll, rxAll⟩ := agreeing
  obtain ⟨txWindow, rxWindow, txPlace, rxPlace, paired, _⟩ := ordered
  rcases tx_stuck config app txStuck with txGone | ⟨txBlocked, txWaiting⟩
  · refine ⟨txGone, ?_⟩
    rcases rx_stuck config app rxPc rxStuck with rxGone | ⟨rxBlocked, rxWaiting⟩
    · exact rxGone
    · obtain ⟨same, underWay, within⟩ := waits_for_loopback _ _ _ _ rxBlocked rxWindow rxPlace rxWaiting
      obtain ⟨_, completed⟩ := exited_completed _ _ _ _ txGone txWindow txPlace
      have every := txAll txGone
      rw [settings.count] at within
      omega
  · obtain ⟨same, underWay, within⟩ := waits_for_loopback _ _ _ _ txBlocked txWindow txPlace txWaiting
    have rxDone := loopback_stuck app _ _ txWindow rxWindow loopStuck (by omega)
    rcases rx_stuck config app rxPc rxStuck with rxGone | ⟨rxBlocked, rxWaiting⟩
    · obtain ⟨_, completed⟩ := exited_completed _ _ _ _ rxGone rxWindow rxPlace
      have every := rxAll rxGone
      rw [settings.count] at within
      omega
    · obtain ⟨_, rxUnderWay, _⟩ := waits_for_loopback _ _ _ _ rxBlocked rxWindow rxPlace rxWaiting
      omega

theorem launched_rank (total : Nat) (app : AppState) (launched : Launched app) : appRank total app ≤ 33 * total + 6 := by
  simp only [appRank, threadRank, launched.tx, launched.rx, launched.txChannel.started, launched.txChannel.finished,
    launched.rxChannel.started, launched.rxChannel.finished, launched.txChannel.completed, threadStart, pcRank]
  omega

theorem run_length (config : Config) (testSize : Int) (total : Nat) (least : 4 ≤ testSize) (most : testSize ≤ bufferSize)
    (events : List AppEvent) (app : AppState) (run : Run (verifying config testSize total) NoSignal events app) :
    events.length ≤ 33 * total + 6 := by
  have bounded := run.length_bound (appRank total) (33 * total + 6) ?_ ?_
  · exact Nat.le_trans (Nat.le_add_right _ _) bounded
  · intro state started
    exact launched_rank total state started.1
  · intro earlier state event after before rule taken
    have agreeing := run_agreeing config testSize total least most earlier state before
    have next := step_agreeing config testSize total state after event least most agreeing rule taken
    exact step_lowers_rank config testSize total state after event rule taken agreeing next

theorem place_starts (ring : Ring.Shape) (numTransfers : Int) (started finished : Nat) (thread : Thread)
    (starts : thread.pc = .primeStart ∨ thread.pc = .restart)
    (place : Place ring numTransfers started finished thread) : thread.bufferId = ring.slot started := by
  rcases starts with entered | entered
  · exact (prime_start_place ring numTransfers started finished thread entered place).2.1
  · exact (restart_place ring numTransfers started finished thread entered place).2.1

theorem place_waits (ring : Ring.Shape) (numTransfers : Int) (started finished : Nat) (thread : Thread)
    (entered : thread.pc = .blocked) (place : Place ring numTransfers started finished thread) :
    thread.bufferId = ring.slot finished ∧ thread.counter = finished := by
  cases place with
  | finishing pc buffer counter count underWay within kept => exact ⟨buffer, counter⟩
  | _ => simp_all

-- The k-th START_XFER of a thread and its k-th FINISH_XFER are on the same buffer, the
-- k-th on its way round the ring.
structure PatternsAgree (config : Config) (numTransfers : Int) (app : AppState) : Prop where
  txStarts : app.tx.pc = .primeStart ∨ app.tx.pc = .restart → app.tx.bufferId = config.txRing.slot app.txChannel.started
  carries : app.tx.pc = .primeStart ∨ app.tx.pc = .restart → ∀ after, txThread config app = some after →
    after.txChannel.started = app.txChannel.started + 1 ∧
      after.txChannel.memory (wordAt app.tx.bufferId 0) = toUnsigned app.txChannel.started
  txFinishes : app.tx.pc = .blocked → app.tx.bufferId = config.txRing.slot app.txChannel.finished
  rxStarts : app.rx.pc = .primeStart ∨ app.rx.pc = .restart → app.rx.bufferId = config.rxRing.slot app.rxChannel.started
  rxFinishes : app.rx.pc = .blocked → app.rx.bufferId = config.rxRing.slot app.rxChannel.finished
  compares : app.rx.pc = .blocked → app.rx.counter = app.rxChannel.finished
  txCount : app.txChannel.finished ≤ app.txChannel.started ∧ (app.txChannel.started : Int) ≤ numTransfers
  rxCount : app.rxChannel.finished ≤ app.rxChannel.started ∧ (app.rxChannel.started : Int) ≤ numTransfers
  txAll : app.tx.pc = .exited → (app.txChannel.started : Int) = numTransfers ∧ (app.txChannel.finished : Int) = numTransfers
  rxAll : app.rx.pc = .exited → (app.rxChannel.started : Int) = numTransfers ∧ (app.rxChannel.finished : Int) = numTransfers
  equal : app.notEqual = 0

theorem start_counted (config : Config) (app after : AppState) (starts : app.tx.pc = .primeStart ∨ app.tx.pc = .restart)
    (verify : app.verify = true) (taken : txThread config app = some after) :
    after.txChannel.started = app.txChannel.started + 1 ∧ after.txChannel.finished = app.txChannel.finished := by
  rcases starts with entered | entered
  · simp only [txThread, entered, verify, if_true, Option.some.injEq] at taken
    obtain ⟨started, _, finished⟩ := start_books app.txChannel _ app.tx.bufferId
      (prime_start_books app.txChannel app.tx.bufferId 1 app.testSize app.tx.inProgressCount)
    exact taken ▸ ⟨started, finished⟩
  · simp only [txThread, entered, verify, if_true, Option.some.injEq] at taken
    obtain ⟨started, _, finished⟩ := start_books app.txChannel _ app.tx.bufferId
      (fill_pattern_books app.txChannel app.tx.bufferId (patternWords app.testSize)
        (((config.txBufferCount / config.bufferIncrement : Nat) : Int) - 1 + app.tx.counter))
    exact taken ▸ ⟨started, finished⟩

theorem agreeing_patterns (config : Config) (testSize numTransfers : Int) (app : AppState) (least : 4 ≤ testSize)
    (most : testSize ≤ bufferSize) (agreeing : Agreeing config testSize numTransfers app) :
    PatternsAgree config numTransfers app := by
  have step := fun after taken => tx_agreeing config testSize numTransfers app after least most taken agreeing
  obtain ⟨ordered, settings, _, _, equal, _, _, txAll, rxAll⟩ := agreeing
  obtain ⟨txWindow, rxWindow, txPlace, rxPlace, _, _⟩ := ordered
  have txOrder := Nat.le_trans txWindow.finished_le txWindow.completed_le
  have rxOrder := Nat.le_trans rxWindow.finished_le rxWindow.completed_le
  rw [settings.count] at txPlace rxPlace
  refine ⟨fun starts => place_starts _ _ _ _ _ starts txPlace, ?_, fun entered => (place_waits _ _ _ _ _ entered txPlace).1,
    fun starts => place_starts _ _ _ _ _ starts rxPlace, fun entered => (place_waits _ _ _ _ _ entered rxPlace).1,
    fun entered => (place_waits _ _ _ _ _ entered rxPlace).2, ⟨txOrder, place_within _ _ _ _ _ txPlace txAll⟩,
    ⟨rxOrder, place_within _ _ _ _ _ rxPlace rxAll⟩, ?_, ?_, equal⟩
  · intro starts after taken
    obtain ⟨started, finished⟩ := start_counted config app after starts settings.verify taken
    rw [place_starts _ _ _ _ _ starts txPlace]
    exact ⟨started, (step after taken).stocked.filled.numbers _ (by omega) (by omega)⟩
  · intro exited
    rw [(exited_completed _ _ _ _ exited txWindow txPlace).1]
    exact ⟨txAll exited, txAll exited⟩
  · intro exited
    rw [(exited_completed _ _ _ _ exited rxWindow rxPlace).1]
    exact ⟨rxAll exited, rxAll exited⟩

-- In every state of every run, whatever the order of the threads and of the loopback; and no
-- run is longer than 33 steps a transfer and six or stops before both threads have left.
theorem patterns_agree (config : Config) (testSize : Int) (numTransfers : Nat) (least : 4 ≤ testSize)
    (most : testSize ≤ bufferSize) (events : List AppEvent) (app : AppState)
    (run : Run (verifying config testSize numTransfers) NoSignal events app) :
    PatternsAgree config numTransfers app ∧ events.length ≤ 33 * numTransfers + 6 ∧
      ((∀ event, event ≠ .sigint → appStep config app event = none) → app.tx.pc = .exited ∧ app.rx.pc = .exited) := by
  have agreeing := run_agreeing config testSize numTransfers least most events app run
  refine ⟨agreeing_patterns config testSize numTransfers app least most agreeing,
    run_length config testSize numTransfers least most events app run, ?_⟩
  intro stuck
  exact stuck_finished config testSize numTransfers app agreeing (stuck .tx (by decide)) (stuck .rx (by decide))
    (stuck .loopback (by decide))

def twoBuffers : Config := ⟨2, 2, 1, Nat.one_pos, by decide, by decide, by decide, by decide⟩

def verifiedStart (testSize numTransfers : Int) : AppState :=
  { launch numTransfers with verify := true, testSize := testSize }

theorem verified_start (config : Config) (testSize numTransfers : Int) (positive : 1 ≤ numTransfers)
    (fits : numTransfers ≤ intMax) :
    (verifying config testSize numTransfers).start (verifiedStart testSize numTransfers) :=
  ⟨⟨positive, fits, rfl, rfl, ⟨rfl, rfl, rfl, rfl, rfl⟩, ⟨rfl, rfl, rfl, rfl, rfl⟩⟩, ⟨rfl, rfl, rfl, rfl⟩, rfl⟩

def notSigint (_ : AppState) (event : AppEvent) : Bool := decide (event ≠ .sigint)

theorem not_sigint_rule (app : AppState) (event : AppEvent) (checked : notSigint app event = true) :
    NoSignal app event := by
  rw [notSigint, decide_eq_true_eq] at checked
  exact checked

-- Newest first: two of three transfers on each side started, the first looped back, its
-- transmit buffer restarted, the second looped back, and rx_thread has finished both.
def secondOverwritten : List AppEvent :=
  [.rx, .rx, .rx, .rx, .rx, .rx, .rx, .loopback, .tx, .tx, .tx, .tx, .tx, .tx, .loopback,
    .rx, .rx, .rx, .rx, .tx, .tx, .tx, .tx]

theorem kilobyte_patterns_agree :
    ∃ app, Run (verifying twoBuffers 1024 (3 : Nat)) NoSignal secondOverwritten app ∧
      PatternsAgree twoBuffers (3 : Nat) app := by
  obtain ⟨app, run, _⟩ := replay_reaches (verifying twoBuffers 1024 (3 : Nat)) NoSignal notSigint not_sigint_rule
    (verifiedStart 1024 3) (verified_start twoBuffers 1024 3 (by decide) (by decide)) secondOverwritten
    (fun app => decide (app.rx.pc = .count)) (by decide +kernel)
  exact ⟨app, run, (patterns_agree twoBuffers 1024 3 (by decide) (by decide) secondOverwritten app run).1⟩

-- With transfers of 130 KB the restart of buffer 0 runs into buffer 1, whose transfer has
-- not been looped back yet.
theorem long_pattern_overwrites :
    4 ≤ (133120 : Int) ∧ ∃ app, Run (verifying twoBuffers 133120 3) NoSignal secondOverwritten app ∧ app.notEqual = 1 := by
  refine ⟨by decide, ?_⟩
  obtain ⟨app, run, reported⟩ := replay_reaches (verifying twoBuffers 133120 3) NoSignal notSigint not_sigint_rule
    (verifiedStart 133120 3) (verified_start twoBuffers 133120 3 (by decide) (by decide)) secondOverwritten
    (fun app => decide (app.notEqual = 1)) (by decide +kernel)
  exact ⟨app, run, of_decide_eq_true reported⟩

end LilacUxB.ProxyTest
