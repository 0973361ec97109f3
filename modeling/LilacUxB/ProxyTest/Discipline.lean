import LilacUxB.ProxyTest.Threads

set_option autoImplicit false

namespace LilacUxB.ProxyTest

-- Transfers are numbered in the order of their START_XFER. Those from `finished` on are
-- under way, each in the place of its number.
structure Window (ring : Ring.Shape) (channel : Channel) : Prop where
  finished_le : channel.finished ≤ channel.completed
  completed_le : channel.completed ≤ channel.started
  fits : channel.started ≤ channel.finished + ring.size
  flight : channel.inFlight =
    (List.range' channel.completed (channel.started - channel.completed)).map ring.slot
  done : ∀ transfer, channel.finished ≤ transfer → transfer < channel.completed →
    channel.state (ring.slot transfer) = .done
  flying : ∀ transfer, channel.completed ≤ transfer → transfer < channel.started →
    channel.state (ring.slot transfer) = .inProgress
  idle : ∀ bufferId, (∀ transfer, channel.finished ≤ transfer → transfer < channel.started →
    bufferId ≠ ring.slot transfer) → channel.state bufferId = .idle

theorem quiescent_window (ring : Ring.Shape) (channel : Channel) (quiet : Quiescent channel) : Window ring channel := by
  obtain ⟨state, inFlight, started, completed, finished⟩ := quiet
  refine ⟨by omega, by omega, by omega, by simp [inFlight, started, completed], ?_, ?_, fun _ _ => by rw [state]⟩
  · intro transfer _ below
    omega
  · intro transfer _ below
    omega

theorem memory_window (ring : Ring.Shape) (channel : Channel) (memory : Nat → UInt32) (window : Window ring channel) :
    Window ring { channel with memory := memory } :=
  ⟨window.finished_le, window.completed_le, window.fits, window.flight, window.done, window.flying, window.idle⟩

theorem set_length_window (ring : Ring.Shape) (channel : Channel) (bufferId : Nat) (testSize : Int)
    (window : Window ring channel) : Window ring (setLength channel bufferId testSize) :=
  memory_window ring channel _ window

theorem fill_pattern_window (ring : Ring.Shape) (channel : Channel) (bufferId bound : Nat) (base : Int)
    (window : Window ring channel) : Window ring (fillPattern channel bufferId bound base) :=
  memory_window ring channel _ window

theorem receive_window (ring : Ring.Shape) (channel : Channel) (bufferId : Nat) (sent : Nat → UInt32) (length : UInt32)
    (window : Window ring channel) : Window ring (receive channel bufferId sent length) :=
  memory_window ring channel _ window

theorem start_window (ring : Ring.Shape) (channel : Channel) (bufferId : Nat) (window : Window ring channel)
    (buffer : bufferId = ring.slot channel.started) (room : channel.started < channel.finished + ring.size) :
    Window ring (startXfer channel bufferId) := by
  subst buffer
  obtain ⟨finished_le, completed_le, fits, flight, done, flying, idle⟩ := window
  have old (transfer : Nat) (start : channel.finished ≤ transfer) (before : transfer < channel.started) :
      ring.slot transfer ≠ ring.slot channel.started :=
    ring.slot_ne channel.finished transfer channel.started start (by omega) (by omega) room (Nat.ne_of_lt before)
  refine ⟨finished_le, Nat.le_succ_of_le completed_le, room, ?_, ?_, ?_, ?_⟩
  · have grown : channel.started + 1 - channel.completed = channel.started - channel.completed + 1 := by omega
    have last : channel.completed + 1 * (channel.started - channel.completed) = channel.started := by omega
    simp only [startXfer, grown, List.range'_concat, List.map_append, flight, last, List.map_cons, List.map_nil]
  · intro transfer start below
    have before : transfer < channel.started := Nat.lt_of_lt_of_le below completed_le
    exact (Function.update_of_ne (old transfer start before) _ _).trans (done transfer start below)
  · intro transfer start below
    rcases Nat.lt_succ_iff_lt_or_eq.mp below with before | rfl
    · have here := old transfer (Nat.le_trans finished_le start) before
      exact (Function.update_of_ne here _ _).trans (flying transfer start before)
    · exact Function.update_self _ _ _
  · intro bufferId elsewhere
    have here := elsewhere channel.started (Nat.le_trans finished_le completed_le) (Nat.lt_succ_self _)
    have before := idle bufferId (fun transfer start before => elsewhere transfer start (Nat.lt_succ_of_lt before))
    exact (Function.update_of_ne here _ _).trans before

theorem flight_oldest (ring : Ring.Shape) (channel : Channel) (bufferId : Nat) (rest : List Nat)
    (window : Window ring channel) (oldest : channel.inFlight = bufferId :: rest) :
    channel.completed < channel.started ∧ ring.slot channel.completed = bufferId ∧
      (List.range' (channel.completed + 1) (channel.started - (channel.completed + 1))).map ring.slot = rest := by
  have flight := window.flight
  have underWay : channel.completed < channel.started := by
    by_contra none
    have zero : channel.started - channel.completed = 0 := by omega
    rw [zero, oldest] at flight
    cases flight
  have grown : channel.started - channel.completed = channel.started - (channel.completed + 1) + 1 := by omega
  rw [grown, List.range'_succ, List.map_cons, oldest, List.cons.injEq] at flight
  exact ⟨underWay, flight.1.symm, flight.2.symm⟩

theorem complete_window (ring : Ring.Shape) (channel : Channel) (bufferId : Nat) (rest : List Nat)
    (window : Window ring channel) (oldest : channel.inFlight = bufferId :: rest) :
    Window ring (complete channel bufferId rest) := by
  obtain ⟨underWay, rfl, rest_flight⟩ := flight_oldest ring channel bufferId rest window oldest
  obtain ⟨finished_le, completed_le, fits, flight, done, flying, idle⟩ := window
  have other (transfer : Nat) (start : channel.finished ≤ transfer) (before : transfer < channel.started)
      (different : transfer ≠ channel.completed) : ring.slot transfer ≠ ring.slot channel.completed :=
    ring.slot_ne channel.finished transfer channel.completed start finished_le (by omega) (by omega) different
  refine ⟨Nat.le_succ_of_le finished_le, underWay, fits, rest_flight.symm, ?_, ?_, ?_⟩
  · intro transfer start below
    rcases Nat.lt_succ_iff_lt_or_eq.mp below with before | rfl
    · have apart := other transfer start (by omega) (Nat.ne_of_lt before)
      exact (Function.update_of_ne apart _ _).trans (done transfer start before)
    · exact Function.update_self _ _ _
  · intro transfer start below
    have after : channel.completed < transfer := start
    have apart := other transfer (by omega) below (Nat.ne_of_gt after)
    exact (Function.update_of_ne apart _ _).trans (flying transfer (Nat.le_of_lt after) below)
  · intro bufferId elsewhere
    have apart := elsewhere channel.completed finished_le underWay
    exact (Function.update_of_ne apart _ _).trans (idle bufferId elsewhere)

theorem finish_window (ring : Ring.Shape) (channel after : Channel) (window : Window ring channel)
    (underWay : channel.finished < channel.started) (returned : finishXfer channel (ring.slot channel.finished) = some after) :
    Window ring after ∧ after.started = channel.started ∧ after.completed = channel.completed ∧
      after.finished = channel.finished + 1 := by
  unfold finishXfer at returned
  split at returned
  case isFalse => cases returned
  case isTrue completed =>
    cases returned
    have first : channel.finished < channel.completed := by
      by_contra none
      rw [window.flying channel.finished (by omega) underWay] at completed
      cases completed
    have other (transfer : Nat) (start : channel.finished < transfer) (before : transfer < channel.started) :
        ring.slot transfer ≠ ring.slot channel.finished :=
      ring.slot_ne channel.finished transfer channel.finished (Nat.le_of_lt start) (Nat.le_refl _)
        (Nat.lt_of_lt_of_le before window.fits) (Nat.lt_add_of_pos_right ring.size_pos) (Nat.ne_of_gt start)
    have fits : channel.started ≤ channel.finished + 1 + ring.size := by
      have := window.fits
      omega
    refine ⟨⟨first, window.completed_le, fits, window.flight, ?_, ?_, ?_⟩, rfl, rfl, rfl⟩
    · intro transfer start below
      have start : channel.finished < transfer := start
      simp only [Function.update_of_ne (other transfer start (Nat.lt_of_lt_of_le below window.completed_le))]
      exact window.done transfer (Nat.le_of_lt start) below
    · intro transfer start below
      simp only [Function.update_of_ne (other transfer (Nat.lt_of_lt_of_le first start) below)]
      exact window.flying transfer start below
    · intro bufferId elsewhere
      by_cases same : bufferId = ring.slot channel.finished
      · subst bufferId
        exact Function.update_self _ _ _
      · simp only [Function.update_of_ne same]
        refine window.idle bufferId (fun transfer start below => ?_)
        rcases Nat.lt_or_eq_of_le start with later | rfl
        · exact elsewhere transfer later below
        · exact same

theorem under_way_started (ring : Ring.Shape) (channel : Channel) (window : Window ring channel)
    (underWay : channel.finished < channel.started) : channel.state (ring.slot channel.finished) ≠ .idle := by
  by_cases completed : channel.finished < channel.completed
  · rw [window.done channel.finished (Nat.le_refl _) completed]
    simp
  · rw [window.flying channel.finished (Nat.le_of_not_lt completed) underWay]
    simp

theorem none_under_way (ring : Ring.Shape) (channel : Channel) (window : Window ring channel)
    (all : channel.finished = channel.started) (bufferId : Nat) : channel.state bufferId = .idle :=
  window.idle bufferId (fun transfer start below => by omega)

-- Where a thread stands, by its program counter. From the first restart check on, either
-- the ring has been kept full or every transfer asked for has been started.
inductive Place (ring : Ring.Shape) (numTransfers : Int) (started finished : Nat) (thread : Thread) : Prop
  | priming (pc : thread.pc = .primeStart) (none : finished = 0) (counter : thread.counter = 0)
      (count : thread.inProgressCount = started) (buffer : thread.bufferId = started * ring.step)
      (room : started < ring.size) (more : (started : Int) < numTransfers)
  | primed (pc : thread.pc = .primeCheck) (none : finished = 0) (counter : thread.counter = 0)
      (count : thread.inProgressCount + 1 = started) (buffer : thread.bufferId + ring.step = started * ring.step)
      (room : started ≤ ring.size) (within : (started : Int) ≤ numTransfers) (positive : 0 < started)
  | finishing (pc : thread.pc = .finish ∨ thread.pc = .blocked) (buffer : thread.bufferId = ring.slot finished)
      (counter : thread.counter = finished) (count : thread.inProgressCount = started - finished)
      (underWay : finished < started) (within : (started : Int) ≤ numTransfers)
      (kept : started = finished + ring.size ∨ (started : Int) = numTransfers)
  | counting (last : Nat) (pc : thread.pc = .count) (next : finished = last + 1) (buffer : thread.bufferId = ring.slot last)
      (counter : thread.counter = last) (count : thread.inProgressCount = started - last)
      (room : started ≤ last + ring.size) (within : (started : Int) ≤ numTransfers)
      (kept : started = last + ring.size ∨ (started : Int) = numTransfers)
  | deciding (last : Nat) (pc : thread.pc = .stopCheck ∨ thread.pc = .rewrite ∨ thread.pc = .restartCheck)
      (next : finished = last + 1) (buffer : thread.bufferId = ring.slot last) (counter : thread.counter = finished)
      (count : thread.inProgressCount = started - finished) (room : started ≤ last + ring.size)
      (more : (finished : Int) < numTransfers) (within : (started : Int) ≤ numTransfers)
      (kept : started = last + ring.size ∨ (started : Int) = numTransfers)
  | restarting (last : Nat) (pc : thread.pc = .restart) (next : finished = last + 1) (buffer : thread.bufferId = ring.slot last)
      (counter : thread.counter = finished) (count : thread.inProgressCount = started - finished)
      (more : (started : Int) < numTransfers) (full : started = last + ring.size)
  | gone (pc : thread.pc = .exited) (all : finished = started)

theorem thread_start_place (ring : Ring.Shape) (numTransfers : Int) (positive : 1 ≤ numTransfers) :
    Place ring numTransfers 0 0 threadStart := by
  refine .priming rfl rfl rfl rfl ?_ ring.size_pos (by omega)
  rw [Nat.zero_mul]
  rfl

theorem prime_start_place (ring : Ring.Shape) (numTransfers : Int) (started finished : Nat) (thread : Thread)
    (entered : thread.pc = .primeStart) (place : Place ring numTransfers started finished thread) :
    Place ring numTransfers (started + 1) finished { thread with pc := .primeCheck } ∧
      thread.bufferId = ring.slot started ∧ started < finished + ring.size := by
  cases place with
  | priming pc none counter count buffer room more =>
      have counted : thread.inProgressCount + 1 = ((started + 1 : Nat) : Int) := by omega
      have place : thread.bufferId + ring.step = (started + 1) * ring.step := by rw [buffer, Nat.succ_mul]
      refine ⟨.primed rfl none counter counted place room (by omega) (Nat.succ_pos _), ?_, by omega⟩
      rw [buffer, ring.slot_first_lap started room]
  | _ => simp_all

theorem prime_check_place (ring : Ring.Shape) (numTransfers : Int) (started finished : Nat) (thread : Thread)
    (entered : thread.pc = .primeCheck) (place : Place ring numTransfers started finished thread) :
    Place ring numTransfers started finished (primeCheck ring.count ring.step numTransfers thread) := by
  cases place with
  | primed pc none counter count buffer room within positive =>
      have lap : ¬ thread.bufferId + ring.step < ring.count ↔ ring.size ≤ started := by
        rw [buffer, ← ring.size_mul, Nat.not_lt]
        exact Nat.mul_le_mul_right_iff ring.step_pos
      unfold primeCheck
      dsimp only
      split
      case isTrue stops =>
        have kept : started = finished + ring.size ∨ (started : Int) = numTransfers := by
          rcases stops with enough | last
          · exact .inr (by omega)
          · have := lap.mp last
            exact .inl (by omega)
        refine .finishing (.inl rfl) ?_ ?_ ?_ (by omega) within kept
        · rw [none, ring.slot_zero]
        · rw [none]
          exact counter
        · rw [none]
          simpa using count
      case isFalse goes =>
        obtain ⟨fewer, next⟩ := not_or.mp goes
        have room : started < ring.size := by
          by_contra full
          exact next (lap.mpr (Nat.le_of_not_lt full))
        exact .priming rfl none counter count buffer room (by omega)
  | _ => simp_all

theorem finish_place (ring : Ring.Shape) (numTransfers : Int) (started finished : Nat) (thread : Thread)
    (entered : thread.pc = .finish) (place : Place ring numTransfers started finished thread) :
    Place ring numTransfers started finished { thread with pc := .blocked } := by
  cases place with
  | finishing pc buffer counter count underWay within kept =>
      exact .finishing (.inr rfl) buffer counter count underWay within kept
  | _ => simp_all

theorem blocked_place (ring : Ring.Shape) (numTransfers : Int) (started finished : Nat) (thread : Thread)
    (entered : thread.pc = .blocked) (fits : started ≤ finished + ring.size)
    (place : Place ring numTransfers started finished thread) :
    Place ring numTransfers started (finished + 1) { thread with pc := .count } ∧
      thread.bufferId = ring.slot finished ∧ finished < started := by
  cases place with
  | finishing pc buffer counter count underWay within kept =>
      exact ⟨.counting finished rfl rfl buffer counter count fits within kept, buffer, underWay⟩
  | _ => simp_all

theorem count_place (ring : Ring.Shape) (numTransfers : Int) (started finished : Nat) (thread : Thread) (next : Pc)
    (entered : thread.pc = .count) (decides : next = .stopCheck ∨ next = .restartCheck) (ordered : finished ≤ started)
    (place : Place ring numTransfers started finished thread) :
    Place ring numTransfers started finished (countFinished numTransfers next thread) := by
  cases place with
  | counting last pc following buffer counter count room within kept =>
      by_cases enough : thread.counter + 1 ≥ numTransfers
      · refine .gone (by simp only [countFinished, if_pos enough]) ?_
        omega
      · have counted : thread.counter + 1 = finished := by omega
        have left : thread.inProgressCount - 1 = started - finished := by omega
        refine .deciding last ?_ following buffer counted left room (by omega) within kept
        simp only [countFinished, if_neg enough]
        rcases decides with rfl | rfl
        · exact .inl rfl
        · exact .inr (.inr rfl)
  | _ => simp_all

theorem stop_check_place (ring : Ring.Shape) (numTransfers : Int) (started finished : Nat) (thread : Thread) (next : Pc)
    (entered : thread.pc = .stopCheck) (decides : next = .rewrite ∨ next = .restartCheck)
    (place : Place ring numTransfers started finished thread) :
    Place ring numTransfers started finished { thread with pc := next } := by
  cases place with
  | deciding last pc following buffer counter count room more within kept =>
      exact .deciding last (.inr decides) following buffer counter count room more within kept
  | _ => simp_all

theorem restart_check_place (ring : Ring.Shape) (numTransfers : Int) (started finished : Nat) (thread : Thread)
    (entered : thread.pc = .restartCheck) (place : Place ring numTransfers started finished thread) :
    Place ring numTransfers started finished (restartCheck ring.count ring.step numTransfers thread) := by
  cases place with
  | deciding last pc following buffer counter count room more within kept =>
      unfold restartCheck
      split
      case isTrue enough =>
        have all : (started : Int) = numTransfers := by omega
        refine .finishing (.inl rfl) ?_ counter count (by omega) within (.inr all)
        rw [flip, buffer, ring.slot_next, following]
      case isFalse fewer => exact .restarting last rfl following buffer counter count (by omega) (by omega)
  | _ => simp_all

theorem restart_place (ring : Ring.Shape) (numTransfers : Int) (started finished : Nat) (thread : Thread)
    (entered : thread.pc = .restart) (place : Place ring numTransfers started finished thread) :
    Place ring numTransfers (started + 1) finished (restarted ring.count ring.step thread) ∧
      thread.bufferId = ring.slot started ∧ started < finished + ring.size := by
  cases place with
  | restarting last pc following buffer counter count more full =>
      have size := ring.size_pos
      have counted : thread.inProgressCount + 1 = ((started + 1 : Nat) : Int) - finished := by omega
      refine ⟨.finishing (.inl rfl) ?_ counter counted (by omega) (by omega) (.inl (by omega)), ?_, by omega⟩
      · rw [restarted, flip, buffer, ring.slot_next, following]
      · rw [buffer, full, ring.slot_lap]
  | _ => simp_all

end LilacUxB.ProxyTest
