import LilacUxB.ProxyTest.Discipline

set_option autoImplicit false

namespace LilacUxB.ProxyTest

open Transitions

structure Disciplined (app : AppState) : Prop where
  txFinishes : app.tx.pc = .finish → app.txChannel.state app.tx.bufferId ≠ .idle
  txLeaves : app.tx.pc = .exited → ∀ bufferId, app.txChannel.state bufferId = .idle
  rxFinishes : app.rx.pc = .finish → app.rxChannel.state app.rx.bufferId ≠ .idle
  rxLeaves : app.rx.pc = .exited → ∀ bufferId, app.rxChannel.state bufferId = .idle

def RingFull (ring : Ring.Shape) (thread : Thread) : Prop :=
  match thread.pc with
  | .primeStart | .primeCheck => True
  | .finish | .blocked | .count => thread.inProgressCount = ring.size
  | .stopCheck | .rewrite | .restartCheck | .restart => thread.inProgressCount + 1 = ring.size
  | .exited => False

def StopSafe (config : Config) (app : AppState) (event : AppEvent) : Prop :=
  event = .tx → app.tx.pc = .rewrite →
    app.tx.counter + config.rxBufferCount ≤ intMax ∧
      (app.tx.counter + config.rxBufferCount ≤ app.numTransfers ∨ RingFull config.rxRing app.rx)

structure Ordered (config : Config) (app : AppState) : Prop where
  txWindow : Window config.txRing app.txChannel
  rxWindow : Window config.rxRing app.rxChannel
  txPlace : Place config.txRing app.numTransfers app.txChannel.started app.txChannel.finished app.tx
  rxPlace : Place config.rxRing app.numTransfers app.rxChannel.started app.rxChannel.finished app.rx
  paired : app.txChannel.completed = app.rxChannel.completed
  fits : app.numTransfers ≤ intMax

theorem launched_ordered (config : Config) (app : AppState) (launched : Launched app) : Ordered config app := by
  obtain ⟨positive, fits, tx, rx, txChannel, rxChannel⟩ := launched
  refine ⟨quiescent_window _ _ txChannel, quiescent_window _ _ rxChannel, ?_, ?_, ?_, fits⟩
  · rw [tx, txChannel.started, txChannel.finished]
    exact thread_start_place _ _ positive
  · rw [rx, rxChannel.started, rxChannel.finished]
    exact thread_start_place _ _ positive
  · rw [txChannel.completed, rxChannel.completed]

theorem place_finishes (ring : Ring.Shape) (numTransfers : Int) (channel : Channel) (thread : Thread)
    (window : Window ring channel) (place : Place ring numTransfers channel.started channel.finished thread)
    (entered : thread.pc = .finish) : channel.state thread.bufferId ≠ .idle := by
  cases place with
  | finishing pc buffer counter count underWay within kept =>
      rw [buffer]
      exact under_way_started ring channel window underWay
  | _ => simp_all

theorem place_leaves (ring : Ring.Shape) (numTransfers : Int) (channel : Channel) (thread : Thread)
    (window : Window ring channel) (place : Place ring numTransfers channel.started channel.finished thread)
    (entered : thread.pc = .exited) (bufferId : Nat) : channel.state bufferId = .idle := by
  cases place with
  | gone pc all => exact none_under_way ring channel window all bufferId
  | _ => simp_all

theorem finish_returned (ring : Ring.Shape) (numTransfers : Int) (channel after : Channel) (thread : Thread)
    (entered : thread.pc = .blocked) (window : Window ring channel)
    (place : Place ring numTransfers channel.started channel.finished thread)
    (returned : finishXfer channel thread.bufferId = some after) :
    Window ring after ∧ Place ring numTransfers after.started after.finished { thread with pc := .count } ∧
      after.completed = channel.completed := by
  obtain ⟨next, buffer, underWay⟩ := blocked_place _ _ _ _ _ entered window.fits place
  rw [buffer] at returned
  obtain ⟨kept, started, completed, finished⟩ := finish_window _ _ after window underWay returned
  rw [← started, ← finished] at next
  exact ⟨kept, next, completed⟩

theorem ordered_disciplined (config : Config) (app : AppState) (ordered : Ordered config app) : Disciplined app :=
  ⟨place_finishes _ _ _ _ ordered.txWindow ordered.txPlace, place_leaves _ _ _ _ ordered.txWindow ordered.txPlace,
    place_finishes _ _ _ _ ordered.rxWindow ordered.rxPlace, place_leaves _ _ _ _ ordered.rxWindow ordered.rxPlace⟩

theorem renumber_place (ring : Ring.Shape) (old new : Int) (started finished : Nat) (thread : Thread)
    (fits : started ≤ finished + ring.size) (place : Place ring old started finished thread)
    (reach : (finished : Int) + ring.size ≤ new) (safe : new ≤ old ∨ RingFull ring thread) :
    Place ring new started finished thread := by
  have size := ring.size_pos
  cases place with
  | priming pc none counter count buffer room more => exact .priming pc none counter count buffer room (by omega)
  | primed pc none counter count buffer room within positive =>
      exact .primed pc none counter count buffer room (by omega) positive
  | finishing pc buffer counter count underWay within kept =>
      refine .finishing pc buffer counter count underWay (by omega) ?_
      rcases safe with lower | full
      · omega
      · have : thread.inProgressCount = ring.size := by rcases pc with pc | pc <;> simpa [RingFull, pc] using full
        omega
  | counting last pc following buffer counter count room within kept =>
      refine .counting last pc following buffer counter count room (by omega) ?_
      rcases safe with lower | full
      · omega
      · have : thread.inProgressCount = ring.size := by simpa [RingFull, pc] using full
        omega
  | deciding last pc following buffer counter count room more within kept =>
      refine .deciding last pc following buffer counter count room (by omega) (by omega) ?_
      rcases safe with lower | full
      · omega
      · have : thread.inProgressCount + 1 = ring.size := by
          rcases pc with pc | pc | pc <;> simpa [RingFull, pc] using full
        omega
  | restarting last pc following buffer counter count more full =>
      exact .restarting last pc following buffer counter count (by omega) full
  | gone pc all => exact .gone pc all

-- A single transmit buffer is finished when the stop is seen, so every completed receive
-- transfer belongs to a finished transmit transfer.
theorem rewrite_ordered (config : Config) (app : AppState) (single : config.txRing.size = 1)
    (entered : app.tx.pc = .rewrite) (ordered : Ordered config app)
    (fits : app.tx.counter + config.rxBufferCount ≤ intMax)
    (safe : app.tx.counter + config.rxBufferCount ≤ app.numTransfers ∨ RingFull config.rxRing app.rx) :
    Ordered config { app with
      numTransfers := int32 (app.tx.counter + config.rxBufferCount)
      tx := { app.tx with pc := .restartCheck, stopInProgress := true } } := by
  obtain ⟨txWindow, rxWindow, txPlace, rxPlace, paired, within⟩ := ordered
  cases txPlace with
  | deciding last pc following buffer counter count room more reached kept =>
      have same := int32_fits (app.tx.counter + config.rxBufferCount) (by omega) fits
      have order := txWindow.finished_le
      have fewer := txWindow.completed_le
      have received := rxWindow.finished_le
      have lap : config.rxRing.size ≤ config.rxBufferCount := Nat.div_le_self _ _
      have positive : 0 < config.rxBufferCount := config.rx_pos
      have further : (app.txChannel.finished : Int) < app.tx.counter + config.rxBufferCount := by omega
      have started : app.txChannel.started = last + config.txRing.size := by omega
      have reachable : (app.txChannel.started : Int) ≤ app.tx.counter + config.rxBufferCount := by omega
      have reach : (app.rxChannel.finished : Int) + config.rxRing.size ≤ app.tx.counter + config.rxBufferCount := by
        omega
      rw [same]
      refine ⟨txWindow, rxWindow, ?_, ?_, paired, fits⟩
      · exact .deciding last (.inr (.inr rfl)) following buffer counter count room further reachable (.inl started)
      · exact renumber_place config.rxRing app.numTransfers _ _ _ app.rx rxWindow.fits rxPlace reach safe
  | _ => simp_all

theorem tx_ordered (config : Config) (app after : AppState)
    (rewritten : app.tx.pc = .rewrite → Ordered config { app with
      numTransfers := int32 (app.tx.counter + config.rxBufferCount)
      tx := { app.tx with pc := .restartCheck, stopInProgress := true } })
    (taken : txThread config app = some after) (ordered : Ordered config app) : Ordered config after := by
  cases entered : app.tx.pc <;> simp only [txThread, entered, Option.some.injEq, reduceCtorEq] at taken
  case rewrite => exact taken ▸ rewritten entered
  all_goals obtain ⟨txWindow, rxWindow, txPlace, rxPlace, paired, within⟩ := ordered
  case primeStart =>
    subst after
    obtain ⟨place, buffer, room⟩ := prime_start_place _ _ _ _ _ entered txPlace
    have window := set_length_window config.txRing app.txChannel app.tx.bufferId app.testSize txWindow
    cases app.verify with
    | false => exact ⟨start_window _ _ _ window buffer room, rxWindow, place, rxPlace, paired, within⟩
    | true =>
        have filled := fill_pattern_window _ _ app.tx.bufferId 1 app.tx.inProgressCount window
        exact ⟨start_window _ _ _ filled buffer room, rxWindow, place, rxPlace, paired, within⟩
  case primeCheck =>
    exact taken ▸ ⟨txWindow, rxWindow, prime_check_place _ _ _ _ _ entered txPlace, rxPlace, paired, within⟩
  case finish => exact taken ▸ ⟨txWindow, rxWindow, finish_place _ _ _ _ _ entered txPlace, rxPlace, paired, within⟩
  case blocked =>
    obtain ⟨channel, returned, rfl⟩ := Option.map_eq_some_iff.mp taken
    obtain ⟨window, place, completed⟩ := finish_returned _ _ _ channel _ entered txWindow txPlace returned
    exact ⟨window, rxWindow, place, rxPlace, completed.trans paired, within⟩
  case count =>
    have order := Nat.le_trans txWindow.finished_le txWindow.completed_le
    exact taken ▸ ⟨txWindow, rxWindow, count_place _ _ _ _ _ _ entered (.inl rfl) order txPlace, rxPlace, paired, within⟩
  case stopCheck =>
    have decides : (if app.stop && !app.tx.stopInProgress then Pc.rewrite else Pc.restartCheck) = .rewrite ∨
        (if app.stop && !app.tx.stopInProgress then Pc.rewrite else Pc.restartCheck) = .restartCheck := by
      split
      · exact .inl rfl
      · exact .inr rfl
    exact taken ▸ ⟨txWindow, rxWindow, stop_check_place _ _ _ _ _ _ entered decides txPlace, rxPlace, paired, within⟩
  case restartCheck =>
    exact taken ▸ ⟨txWindow, rxWindow, restart_check_place _ _ _ _ _ entered txPlace, rxPlace, paired, within⟩
  case restart =>
    subst after
    obtain ⟨place, buffer, room⟩ := restart_place _ _ _ _ _ entered txPlace
    cases app.verify with
    | false => exact ⟨start_window _ _ _ txWindow buffer room, rxWindow, place, rxPlace, paired, within⟩
    | true =>
        have filled := fill_pattern_window config.txRing app.txChannel app.tx.bufferId (patternWords app.testSize)
          (((config.txBufferCount / config.bufferIncrement : Nat) : Int) - 1 + app.tx.counter) txWindow
        exact ⟨start_window _ _ _ filled buffer room, rxWindow, place, rxPlace, paired, within⟩

theorem rx_ordered (config : Config) (app after : AppState) (taken : rxThread config app = some after)
    (ordered : Ordered config app) : Ordered config after := by
  obtain ⟨txWindow, rxWindow, txPlace, rxPlace, paired, within⟩ := ordered
  cases entered : app.rx.pc <;> simp only [rxThread, entered, Option.some.injEq, reduceCtorEq] at taken
  case primeStart =>
    obtain ⟨place, buffer, room⟩ := prime_start_place _ _ _ _ _ entered rxPlace
    have window := set_length_window config.rxRing app.rxChannel app.rx.bufferId app.testSize rxWindow
    exact taken ▸ ⟨txWindow, start_window _ _ _ window buffer room, txPlace, place, paired, within⟩
  case primeCheck =>
    exact taken ▸ ⟨txWindow, rxWindow, txPlace, prime_check_place _ _ _ _ _ entered rxPlace, paired, within⟩
  case finish => exact taken ▸ ⟨txWindow, rxWindow, txPlace, finish_place _ _ _ _ _ entered rxPlace, paired, within⟩
  case blocked =>
    obtain ⟨channel, returned, rfl⟩ := Option.map_eq_some_iff.mp taken
    obtain ⟨window, place, completed⟩ := finish_returned _ _ _ channel _ entered rxWindow rxPlace returned
    exact ⟨txWindow, window, txPlace, place, paired.trans completed.symm, within⟩
  case count =>
    have order := Nat.le_trans rxWindow.finished_le rxWindow.completed_le
    exact taken ▸ ⟨txWindow, rxWindow, txPlace, count_place _ _ _ _ _ _ entered (.inr rfl) order rxPlace, paired, within⟩
  case restartCheck =>
    exact taken ▸ ⟨txWindow, rxWindow, txPlace, restart_check_place _ _ _ _ _ entered rxPlace, paired, within⟩
  case restart =>
    obtain ⟨place, buffer, room⟩ := restart_place _ _ _ _ _ entered rxPlace
    exact taken ▸ ⟨txWindow, start_window _ _ _ rxWindow buffer room, txPlace, place, paired, within⟩

theorem loopback_ordered (config : Config) (app after : AppState) (taken : loopback app = some after)
    (ordered : Ordered config app) : Ordered config after := by
  obtain ⟨txWindow, rxWindow, txPlace, rxPlace, paired, within⟩ := ordered
  unfold loopback at taken
  split at taken
  case h_1 sent txRest received rxRest txOldest rxOldest =>
    have delivered := receive_window config.rxRing app.rxChannel received
      (fun i => app.txChannel.memory (wordAt sent i)) (app.txChannel.entry sent) rxWindow
    cases taken
    exact ⟨complete_window _ _ sent txRest txWindow txOldest, complete_window _ _ received rxRest delivered rxOldest,
      txPlace, rxPlace, congrArg Nat.succ paired, within⟩
  case h_2 => cases taken

theorem step_ordered (config : Config) (app : AppState) (event : AppEvent) (after : AppState)
    (single : config.txRing.size = 1) (ordered : Ordered config app) (rule : StopSafe config app event)
    (taken : appStep config app event = some after) : Ordered config after := by
  cases event with
  | tx =>
      refine tx_ordered config app after (fun entered => ?_) taken ordered
      obtain ⟨fits, safe⟩ := rule rfl entered
      exact rewrite_ordered config app single entered ordered fits safe
  | rx => exact rx_ordered config app after taken ordered
  | loopback => exact loopback_ordered config app after taken ordered
  | sigint =>
      cases taken
      exact ⟨ordered.txWindow, ordered.rxWindow, ordered.txPlace, ordered.rxPlace, ordered.paired, ordered.fits⟩

theorem run_ordered (events : List AppEvent) (app : AppState)
    (run : Run (application deployed) (StopSafe deployed) events app) : Ordered deployed app := by
  refine run.invariant (Ordered deployed) (launched_ordered deployed) ?_
  intro state event after ordered rule taken
  exact step_ordered deployed state event after rfl ordered rule taken

theorem graceful_stop_disciplined (events : List AppEvent) (app : AppState)
    (run : Run (application deployed) (StopSafe deployed) events app) : Disciplined app :=
  ordered_disciplined deployed app (run_ordered events app run)

def quietChannel : Channel := ⟨fun _ => .idle, [], fun _ => 0, fun _ => 0, 0, 0, 0⟩

def launch (numTransfers : Int) : AppState :=
  ⟨false, 1024, false, numTransfers, threadStart, threadStart, quietChannel, quietChannel, 0⟩

theorem launch_launched (numTransfers : Int) (positive : 1 ≤ numTransfers) (fits : numTransfers ≤ intMax) :
    Launched (launch numTransfers) :=
  ⟨positive, fits, rfl, rfl, ⟨rfl, rfl, rfl, rfl, rfl⟩, ⟨rfl, rfl, rfl, rfl, rfl⟩⟩

def lowersCount (app : AppState) (event : AppEvent) : Bool :=
  decide (event ≠ .tx ∨ app.tx.pc ≠ .rewrite ∨
    (app.tx.counter + 32 ≤ intMax ∧ app.tx.counter + 32 ≤ app.numTransfers))

theorem lowers_count_safe (app : AppState) (event : AppEvent) (checked : lowersCount app event = true) :
    StopSafe deployed app event := by
  intro tx rewrite
  rcases of_decide_eq_true checked with other | elsewhere | ⟨fits, lower⟩
  · exact absurd tx other
  · exact absurd rewrite elsewhere
  · exact ⟨fits, .inl lower⟩

-- Newest first: two receive buffers started, one transfer looped back and finished by
-- tx_thread, which then sees the stop and rewrites num_transfers.
def stoppedAfterOne : List AppEvent :=
  [.tx, .tx, .tx, .tx, .tx, .sigint, .loopback, .tx, .tx, .rx, .rx, .rx, .rx]

theorem early_stop_disciplined :
    ∃ app, Run (application deployed) (StopSafe deployed) stoppedAfterOne app ∧ app.numTransfers = 33 ∧
      Disciplined app := by
  obtain ⟨app, run, rewritten⟩ := replay_reaches (application deployed) (StopSafe deployed) lowersCount
    lowers_count_safe (launch 40) (launch_launched 40 (by decide) (by decide)) stoppedAfterOne
    (fun app => decide (app.numTransfers = 33)) (by decide +kernel)
  exact ⟨app, run, of_decide_eq_true rewritten, graceful_stop_disciplined stoppedAfterOne app run⟩

-- With two transfers asked for, rx_thread has started buffers 0 and 1 only. Once the count is
-- raised to 33 it goes on round the ring and finishes buffer 2.
theorem raised_count_finishes_idle :
    ∃ events app, Run (application deployed) (fun _ _ => True) events app ∧ ¬ Disciplined app := by
  obtain ⟨app, run, reached⟩ := replay_reaches (application deployed) (fun _ _ => True) (fun _ _ => true)
    (fun _ _ _ => trivial) (launch 2) (launch_launched 2 (by decide) (by decide))
    ([.rx, .rx, .rx, .rx, .rx, .loopback, .tx, .tx, .rx, .rx, .rx, .rx, .rx] ++ stoppedAfterOne)
    (fun app => decide (app.rx.pc = .finish ∧ app.rx.bufferId = 2 ∧ app.rxChannel.state app.rx.bufferId = .idle))
    (by decide +kernel)
  obtain ⟨finishes, _, idle⟩ := of_decide_eq_true reached
  exact ⟨_, app, run, fun disciplined => disciplined.rxFinishes finishes idle⟩

end LilacUxB.ProxyTest
