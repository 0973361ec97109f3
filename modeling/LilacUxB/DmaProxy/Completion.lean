import LilacUxB.DmaProxy.Channel

set_option autoImplicit false

namespace LilacUxB.DmaProxy

open Transitions

def Submitted (state : DriverState) (index : Int) : Prop := ∃ cookie, state.requests index = .submitted cookie

def Quiet (state : DriverState) (index : Int) : Prop :=
  completionCount state index = 0 ∧ ∀ transaction ∈ state.engine.awaiting, transaction.bd ≠ index

def Covered (state : DriverState) (index : Int) : Prop := Submitted state index ∨ Quiet state index

def CallsInRange (event : Event) : Prop := ∀ cmd arg, event = .ioctl cmd arg → InRange arg

def SoundWaits (state : DriverState) (event : Event) : Prop :=
  CallsInRange event ∧ (event = .beginWait → Covered state state.channel.bdindex)

def CookiesMatch (state : DriverState) : Prop :=
  ∀ index cookie, state.requests index = .submitted cookie →
    (state.channel.bdtable index).cookie = cookie ∧ 1 ≤ cookie ∧ cookie ≤ state.engine.lastCookie

structure Accounted (state : DriverState) : Prop where
  assigned : 0 ≤ state.engine.lastCookie
  cookies : CookiesMatch state
  waits : state.position = .waiting → Covered state state.channel.bdindex
  woke : state.position = .woken false → Submitted state state.channel.bdindex

theorem cookies_after_refusal (state after : DriverState) (index : Int) (request : Request)
    (none : ∀ cookie, request ≠ .submitted cookie)
    (requests : after.requests = Function.update state.requests index request)
    (cookies : ∀ bd, bd ≠ index → (after.channel.bdtable bd).cookie = (state.channel.bdtable bd).cookie)
    (engine : after.engine = state.engine) (matching : CookiesMatch state) : CookiesMatch after := by
  intro bd cookie submitted
  rw [requests] at submitted
  by_cases same : bd = index
  · subst bd
    rw [Function.update_self] at submitted
    exact absurd submitted (none cookie)
  · rw [Function.update_of_ne same] at submitted
    rw [cookies bd same, engine]
    exact matching bd cookie submitted

theorem after_start_not_waiting (thenWait : Bool) :
    afterStart thenWait ≠ .waiting ∧ ∀ timedOut, afterStart thenWait ≠ .woken timedOut := by
  cases thenWait <;> simp [afterStart]

theorem ioctl_entry_not_waiting (cmd : UInt32) :
    ioctlEntry cmd ≠ .waiting ∧ ∀ timedOut, ioctlEntry cmd ≠ .woken timedOut := by
  unfold ioctlEntry
  split_ifs <;> simp

theorem ioctl_keeps_cookies (state : DriverState) (cmd : UInt32) (arg : Int) (cookies : CookiesMatch state) :
    CookiesMatch (ioctl state cmd arg) := by
  by_cases starts : Starts cmd
  · refine cookies_after_refusal state _ arg .asked (by simp) ?_ (fun _ _ => rfl) rfl cookies
    simp only [ioctl, if_pos starts]
  · have kept : (ioctl state cmd arg).requests = state.requests := by simp only [ioctl, if_neg starts]
    intro bd cookie submitted
    exact cookies bd cookie (kept ▸ submitted)

theorem prepare_keeps_cookies (state : DriverState) (thenWait obtained : Bool) (cookies : CookiesMatch state) :
    CookiesMatch (prepareTransfer state thenWait obtained) := by
  cases obtained with
  | true =>
      intro bd cookie submitted
      simpa [prepareTransfer] using cookies bd cookie submitted
  | false =>
      exact cookies_after_refusal state _ state.channel.bdindex .refused (by simp) rfl
        (fun bd _ => fill_sglist_cookie _ bd) rfl cookies

theorem submit_keeps_cookies (state : DriverState) (thenWait : Bool) (error : Option Nat)
    (assigned : 0 ≤ state.engine.lastCookie) (cookies : CookiesMatch state) :
    CookiesMatch (submitTransfer state thenWait error) := by
  cases error with
  | some code =>
      refine cookies_after_refusal state _ state.channel.bdindex .refused (by simp) rfl (fun bd other => ?_) rfl cookies
      simp only [submitTransfer, storeCookie, update_bd_other _ _ _ _ other]
  | none =>
      intro bd cookie submitted
      by_cases same : bd = state.channel.bdindex
      · subst bd
        simp only [submitTransfer, Function.update_self, Request.submitted.injEq] at submitted
        subst cookie
        simp only [submitTransfer, storeCookie, update_bd_self, true_and]
        omega
      · simp only [submitTransfer, Function.update_of_ne same] at submitted
        obtain ⟨stored, positive, given⟩ := cookies bd cookie submitted
        simp only [submitTransfer, storeCookie, update_bd_other _ _ _ _ same]
        exact ⟨stored, positive, by omega⟩

theorem callback_keeps_covered (state : DriverState) (transaction : Transaction) (index : Int)
    (awaited : transaction ∈ state.engine.awaiting) (covered : Covered state index) :
    Covered (syncCallback state transaction) index := by
  rcases covered with submitted | quiet
  · exact .inl submitted
  · refine .inr ⟨?_, fun other member => quiet.2 other (List.mem_of_mem_erase member)⟩
    have elsewhere : index ≠ transaction.bd := (quiet.2 transaction awaited).symm
    simpa only [completionCount, syncCallback, complete, update_bd_other _ _ _ _ elsewhere] using quiet.1

theorem accounted_elsewhere (after : DriverState) (assigned : 0 ≤ after.engine.lastCookie)
    (cookies : CookiesMatch after)
    (elsewhere : after.position ≠ .waiting ∧ ∀ timedOut, after.position ≠ .woken timedOut) : Accounted after :=
  ⟨assigned, cookies, fun waiting => absurd waiting elsewhere.1, fun woken => absurd woken (elsewhere.2 _)⟩

theorem step_keeps_accounted (state : DriverState) (event : Event) (after : DriverState) (rule : SoundWaits state event)
    (taken : Taken state event after) (accounted : Accounted state) : Accounted after := by
  obtain ⟨assigned, cookies, waits, woke⟩ := accounted
  cases taken with
  | userStore buffer content mapped => exact ⟨assigned, cookies, waits, woke⟩
  | ioctl cmd arg entered =>
      exact accounted_elsewhere _ assigned (ioctl_keeps_cookies state cmd arg cookies) (ioctl_entry_not_waiting cmd)
  | prepSlaveSg thenWait obtained entered =>
      have kept := prepare_keeps_cookies state thenWait obtained cookies
      cases obtained with
      | true => exact accounted_elsewhere _ assigned kept (by simp [prepareTransfer])
      | false => exact accounted_elsewhere _ assigned kept (after_start_not_waiting thenWait)
  | submit thenWait error entered =>
      have kept := submit_keeps_cookies state thenWait error assigned cookies
      cases error with
      | some code => exact accounted_elsewhere _ assigned kept (after_start_not_waiting thenWait)
      | none => exact accounted_elsewhere _ (Int.le_add_one assigned) kept (after_start_not_waiting thenWait)
  | beginWait entered => exact ⟨assigned, cookies, fun _ => rule.2 rfl, by simp [beginWait]⟩
  | endWait timedOut entered count =>
      refine ⟨assigned, ?_, by simp [endWait], ?_⟩
      · intro bd cookie submitted
        simpa [endWait] using cookies bd cookie submitted
      · intro woken
        cases woken
        rcases waits entered with submitted | quiet
        · exact submitted
        · exact absurd quiet.1 (of_decide_eq_false count.symm)
  | txStatus timedOut status entered reports =>
      exact accounted_elsewhere _ assigned cookies (by simp [finishWait])
  | finish cookie started => exact ⟨assigned, cookies, waits, woke⟩
  | callback transaction awaited finished =>
      refine ⟨assigned, ?_, fun waiting => callback_keeps_covered state transaction _ awaited (waits waiting), woke⟩
      intro bd cookie submitted
      simpa [syncCallback] using cookies bd cookie submitted

theorem run_accounted (events : List Event) (state : DriverState) (run : Run driver SoundWaits events state) :
    Accounted state := by
  refine run.invariant Accounted ?_ ?_
  · intro state created
    have idle := created.position
    refine ⟨by rw [created.engine], ?_, fun waiting => ?_, fun woken => ?_⟩
    · intro index cookie submitted
      rw [created.requests] at submitted
      cases submitted
    · rw [idle] at waiting
      cases waiting
    · rw [idle] at woken
      cases woken
  · intro state event after accounted rule taken
    exact step_keeps_accounted state event after rule (step_taken _ _ _ taken) accounted

theorem no_error_when_complete (timedOut : Bool) (status : DmaStatus)
    (good : transferStatus timedOut status = .proxyNoError) : timedOut = false ∧ status = .dmaComplete := by
  cases timedOut <;> cases status <;> simp_all [transferStatus]

theorem no_error_means_completed (events : List Event) (state : DriverState) (status : DmaStatus)
    (after : DriverState) (run : Run driver SoundWaits events state)
    (taken : driverStep state (.txStatus status) = some after)
    (good : (after.channel.bufferTable after.channel.bdindex).status = .proxyNoError) :
    ∃ cookie, after.requests after.channel.bdindex = .submitted cookie ∧ cookie ∈ after.engine.finished := by
  have accounted := run_accounted events state run
  cases step_taken _ _ _ taken with
  | txStatus timedOut status entered reports =>
      have stored : transferStatus timedOut status = .proxyNoError := by
        simpa [finishWait, ProxyChannel.storeStatus] using good
      obtain ⟨rfl, rfl⟩ := no_error_when_complete timedOut status stored
      obtain ⟨cookie, submitted⟩ := accounted.woke entered
      obtain ⟨same, positive, given⟩ := accounted.cookies _ cookie submitted
      rw [same] at reports
      exact ⟨cookie, submitted, (reports positive given).mp rfl⟩

def inRangeCall : Event → Bool
  | .ioctl _ arg => decide (InRange arg)
  | _ => true

theorem in_range_call (event : Event) (checked : inRangeCall event = true) : CallsInRange event := by
  rintro cmd arg rfl
  exact of_decide_eq_true checked

def isSubmitted : Request → Bool
  | .submitted _ => true
  | _ => false

theorem is_submitted (state : DriverState) (index : Int) (checked : isSubmitted (state.requests index) = true) :
    Submitted state index := by
  cases request : state.requests index with
  | submitted cookie => exact ⟨cookie, request⟩
  | _ => simp [request, isSubmitted] at checked

def soundWait (state : DriverState) : Event → Bool
  | .beginWait => isSubmitted (state.requests state.channel.bdindex)
  | event => inRangeCall event

theorem sound_wait (state : DriverState) (event : Event) (checked : soundWait state event = true) :
    SoundWaits state event := by
  cases event with
  | beginWait => exact ⟨in_range_call _ rfl, fun _ => .inl (is_submitted state _ checked)⟩
  | _ => exact ⟨in_range_call _ checked, nofun⟩

def goodTransfer : List Event :=
  [.callback ⟨1, 0⟩, .finish 1, .submit none, .prepSlaveSg true, .ioctl startXfer 0]

def countTaken : List Event := [.endWait false, .beginWait, .ioctl finishXfer 0]

def refusedStart : List Event := [.prepSlaveSg false, .ioctl startXfer 0]

theorem good_transfer_completed :
    ∃ state after cookie, driverStep state (.txStatus .dmaComplete) = some after ∧
      after.requests after.channel.bdindex = .submitted cookie ∧ cookie ∈ after.engine.finished := by
  let state := (driver.replay soundWait (newChannel 1024) (countTaken ++ goodTransfer)).get (by decide)
  have run : Run driver SoundWaits (countTaken ++ goodTransfer) state :=
    replay_get driver SoundWaits soundWait sound_wait (newChannel 1024) (new_channel_created 1024) _ (by decide)
  obtain ⟨cookie, completed⟩ := no_error_means_completed _ state .dmaComplete _ run rfl rfl
  exact ⟨state, _, cookie, rfl, completed⟩

-- The second START_XFER gets no descriptor and leaves the first one's count and cookie behind.
theorem stale_completion_reported :
    ∃ events state after, Run driver (fun _ event => CallsInRange event) events state ∧
      driverStep state (.txStatus .dmaComplete) = some after ∧
      (after.channel.bufferTable after.channel.bdindex).status = .proxyNoError ∧
      after.requests after.channel.bdindex = .refused := by
  have run := replay_get driver (fun _ event => CallsInRange event) (fun _ event => inRangeCall event)
    (fun _ event checked => in_range_call event checked) (newChannel 1024) (new_channel_created 1024)
    (countTaken ++ refusedStart ++ goodTransfer) (by decide)
  exact ⟨_, _, _, run, rfl, rfl, rfl⟩

end LilacUxB.DmaProxy
