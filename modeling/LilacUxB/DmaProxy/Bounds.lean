import LilacUxB.DmaProxy.Channel

set_option autoImplicit false

namespace LilacUxB.DmaProxy

open Transitions

inductive Table where
  | bdtable | bufferTable
deriving DecidableEq

structure Access where
  table : Table
  index : Int
deriving DecidableEq

def touched (state : DriverState) : Event → List Access
  | .prepSlaveSg _ => [⟨.bdtable, state.channel.bdindex⟩, ⟨.bufferTable, state.channel.bdindex⟩]
  | .submit _ => [⟨.bdtable, state.channel.bdindex⟩]
  | .beginWait => [⟨.bufferTable, state.channel.bdindex⟩]
  | .endWait _ => [⟨.bdtable, state.channel.bdindex⟩]
  | .txStatus _ => [⟨.bdtable, state.channel.bdindex⟩, ⟨.bufferTable, state.channel.bdindex⟩]
  | _ => []

def handed (state : DriverState) : Event → Option (SgEntry × UInt32)
  | .prepSlaveSg _ =>
      some (((fillSglist state.channel).bdtable state.channel.bdindex).sglist, state.channel.direction)
  | _ => none

def bufferStart (channel : ProxyChannel) (index : Int) : Nat :=
  channel.bufferPhysAddr.toNat + channelBufferSize * index.toNat + bufferOffset

def InsideBuffer (channel : ProxyChannel) (index : Int) (entry : SgEntry) : Prop :=
  bufferStart channel index ≤ entry.dmaAddress.toNat ∧
    entry.dmaAddress.toNat + entry.dmaLength.toNat ≤ bufferStart channel index + bufferSize

instance (channel : ProxyChannel) (index : Int) (entry : SgEntry) : Decidable (InsideBuffer channel index entry) :=
  inferInstanceAs (Decidable (_ ∧ _))

def InBounds (state : DriverState) (event : Event) : Prop :=
  (∀ access ∈ touched state event, InRange access.index) ∧
    ∀ entry direction, handed state event = some (entry, direction) →
      InsideBuffer state.channel state.channel.bdindex entry

def currentCall : List Event → Option (UInt32 × Int)
  | [] => none
  | .ioctl cmd arg :: _ => some (cmd, arg)
  | _ :: events => currentCall events

def KnownCommand (cmd : UInt32) : Prop := cmd = startXfer ∨ cmd = finishXfer ∨ cmd = xfer

instance (cmd : UInt32) : Decidable (KnownCommand cmd) := inferInstanceAs (Decidable (_ ∨ _))

def calledIndex (events : List Event) : Int := ((currentCall events).map Prod.snd).getD 0

def LengthFits (state : DriverState) : Event → Prop
  | .prepSlaveSg _ => (state.channel.bufferTable state.channel.bdindex).length.toNat ≤ bufferSize
  | _ => True

def CarefulUse (state : DriverState) (event : Event) : Prop :=
  (∀ cmd arg, event = .ioctl cmd arg → KnownCommand cmd → InRange arg) ∧ LengthFits state event

structure HandlesSet (channel : ProxyChannel) : Prop where
  fits : channel.bufferPhysAddr.toNat + channelBufferSize * bufferCount.toNat ≤ 2 ^ 64
  handle : ∀ index, InRange index → (channel.bdtable index).dmaHandle.toNat = bufferStart channel index

theorem init_handles_set (channel : ProxyChannel) (memory : Int → ProxyBd)
    (fits : channel.bufferPhysAddr.toNat + channelBufferSize * bufferCount.toNat ≤ 2 ^ 64)
    (filled : channel.bdtable = initHandles channel.bufferPhysAddr memory) : HandlesSet channel := by
  refine ⟨fits, ?_⟩
  intro index inRange
  have below : channelBufferSize * index.toNat + bufferOffset < channelBufferSize * bufferCount.toNat := by
    have less : index.toNat < bufferCount.toNat :=
      (Int.toNat_lt_toNat (by decide)).mpr inRange.2
    exact Nat.mul_lt_mul_of_pos_left less (by decide)
  rw [filled, initHandles, if_pos inRange, UInt64.toNat_add, UInt64.toNat_ofNat', bufferStart, Nat.add_assoc]
  have ends := lt_of_lt_of_le (Nat.add_lt_add_left below channel.bufferPhysAddr.toNat) fits
  rw [Nat.mod_eq_of_lt (lt_of_le_of_lt (Nat.le_add_left _ _) ends), Nat.mod_eq_of_lt ends]

theorem handles_kept (channel after : ProxyChannel) (base : after.bufferPhysAddr = channel.bufferPhysAddr)
    (kept : ∀ bd, (after.bdtable bd).dmaHandle = (channel.bdtable bd).dmaHandle) (handles : HandlesSet channel) :
    HandlesSet after := by
  refine ⟨by simpa only [base] using handles.fits, ?_⟩
  intro index inRange
  rw [kept, handles.handle index inRange, bufferStart, bufferStart, base]

theorem step_keeps_handles (state : DriverState) (event : Event) (after : DriverState)
    (taken : Taken state event after) (handles : HandlesSet state.channel) : HandlesSet after.channel := by
  have kept := handles_kept state.channel after.channel
  cases taken with
  | userStore buffer content mapped => exact kept rfl (fun _ => rfl) handles
  | ioctl cmd arg entered => exact kept rfl (fun _ => rfl) handles
  | prepSlaveSg thenWait obtained entered =>
      cases obtained with
      | false => exact kept rfl (fill_sglist_handle _) handles
      | true => exact kept rfl (fun bd => (init_completion_handle _ bd).trans (fill_sglist_handle _ bd)) handles
  | submit thenWait error entered =>
      cases error with
      | none => exact kept rfl (store_cookie_handle _ _) handles
      | some code => exact kept rfl (store_cookie_handle _ _) handles
  | beginWait entered => exact kept rfl (fun _ => rfl) handles
  | endWait timedOut entered count => exact kept rfl (take_count_handle _) handles
  | txStatus timedOut status entered reports => exact kept rfl (fun _ => rfl) handles
  | finish cookie started => exact kept rfl (fun _ => rfl) handles
  | callback transaction awaited finished => exact kept rfl (complete_handle _ _) handles

structure Serving (events : List Event) (state : DriverState) : Prop where
  index : state.channel.bdindex = calledIndex events
  command : state.position ≠ .userSpace → ∃ cmd arg, currentCall events = some (cmd, arg) ∧ KnownCommand cmd

theorem serving_kept (events : List Event) (event : Event) (state after : DriverState)
    (same : currentCall (event :: events) = currentCall events)
    (index : after.channel.bdindex = state.channel.bdindex)
    (inside : after.position ≠ .userSpace → state.position ≠ .userSpace) (serving : Serving events state) :
    Serving (event :: events) after := by
  refine ⟨by rw [index, serving.index, calledIndex, calledIndex, same], ?_⟩
  intro serves
  rw [same]
  exact serving.command (inside serves)

theorem ioctl_entry_known (cmd : UInt32) (serves : ioctlEntry cmd ≠ .userSpace) : KnownCommand cmd := by
  unfold ioctlEntry at serves
  split at serves
  · exact .inl ‹_›
  · split at serves
    · exact .inr (.inl ‹_›)
    · split at serves
      · exact .inr (.inr ‹_›)
      · exact absurd rfl serves

theorem step_keeps_serving (events : List Event) (state : DriverState) (event : Event) (after : DriverState)
    (taken : Taken state event after) (serving : Serving events state) : Serving (event :: events) after := by
  have kept := fun event => serving_kept events event state after
  cases taken with
  | userStore buffer content mapped => exact kept _ rfl rfl id serving
  | ioctl cmd arg entered => exact ⟨rfl, fun serves => ⟨cmd, arg, rfl, ioctl_entry_known cmd serves⟩⟩
  | prepSlaveSg thenWait obtained entered =>
      cases obtained <;> exact kept _ rfl rfl (fun _ => by simp [entered]) serving
  | submit thenWait error entered =>
      cases error <;> exact kept _ rfl rfl (fun _ => by simp [entered]) serving
  | beginWait entered => exact kept _ rfl rfl (fun _ => by simp [entered]) serving
  | endWait timedOut entered count => exact kept _ rfl rfl (fun _ => by simp [entered]) serving
  | txStatus timedOut status entered reports => exact kept _ rfl rfl (fun serves => absurd rfl serves) serving
  | finish cookie started => exact kept _ rfl rfl id serving
  | callback transaction awaited finished => exact kept _ rfl rfl id serving

structure Described (events : List Event) (state : DriverState) : Prop where
  handles : HandlesSet state.channel
  serving : Serving events state

theorem run_described (Rule : DriverState → Event → Prop) (events : List Event) (state : DriverState)
    (run : Run driver Rule events state) : Described events state := by
  refine run.history_invariant Described ?_ ?_
  · intro state created
    obtain ⟨memory, filled⟩ := created.handles
    exact ⟨init_handles_set _ memory created.fits filled, created.bdindex,
      fun serves => absurd created.position serves⟩
  · intro events state event after described rule taken
    have step := step_taken _ _ _ taken
    exact ⟨step_keeps_handles _ _ _ step described.handles, step_keeps_serving _ _ _ _ step described.serving⟩

theorem touched_index (state : DriverState) (event : Event) (access : Access)
    (member : access ∈ touched state event) : access.index = state.channel.bdindex := by
  cases event with
  | prepSlaveSg obtained => rcases List.mem_pair.mp member with rfl | rfl <;> rfl
  | txStatus status => rcases List.mem_pair.mp member with rfl | rfl <;> rfl
  | submit error => exact congrArg Access.index (List.mem_singleton.mp member)
  | beginWait => exact congrArg Access.index (List.mem_singleton.mp member)
  | endWait timedOut => exact congrArg Access.index (List.mem_singleton.mp member)
  | userStore buffer content => cases member
  | ioctl cmd arg => cases member
  | finish cookie => cases member
  | callback transaction => cases member

theorem touched_inside_call (state : DriverState) (event : Event) (after : DriverState)
    (taken : Taken state event after) (touches : touched state event ≠ []) : state.position ≠ .userSpace := by
  cases taken with
  | userStore buffer content mapped => exact absurd rfl touches
  | ioctl cmd arg entered => exact absurd rfl touches
  | prepSlaveSg thenWait obtained entered => simp [entered]
  | submit thenWait error entered => simp [entered]
  | beginWait entered => simp [entered]
  | endWait timedOut entered count => simp [entered]
  | txStatus timedOut status entered reports => simp [entered]
  | finish cookie started => exact absurd rfl touches
  | callback transaction awaited finished => exact absurd rfl touches

theorem handed_entry (state : DriverState) (obtained : Bool) :
    handed state (.prepSlaveSg obtained) = some (sgEntry state.channel, state.channel.direction) := by
  simp only [handed, fillSglist, update_bd_self]

theorem entry_inside_iff (channel : ProxyChannel) (handles : HandlesSet channel) (inRange : InRange channel.bdindex) :
    InsideBuffer channel channel.bdindex (sgEntry channel) ↔
      (channel.bufferTable channel.bdindex).length.toNat ≤ bufferSize := by
  simp only [InsideBuffer, sgEntry, handles.handle _ inRange, le_refl, true_and, Nat.add_le_add_iff_left]

theorem in_bounds_iff (state : DriverState) (event : Event) (handles : HandlesSet state.channel) :
    InBounds state event ↔
      (touched state event = [] ∨ InRange state.channel.bdindex) ∧ LengthFits state event := by
  have all_in_range : (∀ access ∈ touched state event, InRange access.index) ↔
      (touched state event = [] ∨ InRange state.channel.bdindex) := by
    constructor
    · intro bounded
      cases touches : touched state event with
      | nil => exact .inl rfl
      | cons access rest =>
          have member : access ∈ touched state event := touches ▸ List.mem_cons_self
          exact .inr (touched_index state event access member ▸ bounded access member)
    · rintro (none | inRange) access member
      · simp [none] at member
      · exact touched_index state event access member ▸ inRange
  rw [InBounds, all_in_range]
  refine and_congr_right (fun bounded => ?_)
  cases event with
  | prepSlaveSg obtained =>
      have inRange : InRange state.channel.bdindex := bounded.resolve_left (List.cons_ne_nil _ _)
      rw [LengthFits, ← entry_inside_iff state.channel handles inRange, handed_entry]
      constructor
      · intro inside
        exact inside _ _ rfl
      · intro inside entry direction same
        cases same
        exact inside
  | _ => simp [handed, LengthFits]

theorem careful_call_in_range (events : List Event) (state : DriverState) (run : Run driver CarefulUse events state)
    (cmd : UInt32) (arg : Int) (called : currentCall events = some (cmd, arg)) (known : KnownCommand cmd) :
    InRange arg := by
  induction run with
  | start state started => cases called
  | next events state event after before rule taken ih =>
      cases event with
      | ioctl given passed =>
          cases called
          exact rule.1 cmd arg rfl known
      | _ => exact ih called

theorem careful_in_bounds (events : List Event) (state : DriverState) (event : Event) (after : DriverState)
    (run : Run driver CarefulUse events state) (rule : CarefulUse state event)
    (taken : driverStep state event = some after) : InBounds state event := by
  have described := run_described CarefulUse events state run
  refine (in_bounds_iff state event described.handles).mpr ⟨?_, rule.2⟩
  by_cases touches : touched state event = []
  · exact .inl touches
  · have inside := touched_inside_call state event after (step_taken _ _ _ taken) touches
    obtain ⟨cmd, arg, called, known⟩ := described.serving.command inside
    have inRange := careful_call_in_range events state run cmd arg called known
    rw [described.serving.index, calledIndex, called]
    exact .inr inRange

-- An access outside the tables changes memory that the model does not hold, so the exact
-- account is of the next step of a run that has kept inside them.
theorem ioctl_bounds_exactly :
    (∀ events state event after, Run driver InBounds events state → driverStep state event = some after →
      (∀ access ∈ touched state event, access.index = calledIndex events ∧
        ∃ cmd arg, currentCall events = some (cmd, arg) ∧ KnownCommand cmd) ∧
      (InBounds state event ↔
        (touched state event = [] ∨ InRange (calledIndex events)) ∧ LengthFits state event)) ∧
    (∀ events state, Run driver CarefulUse events state → Run driver InBounds events state) := by
  constructor
  · intro events state event after run taken
    have described := run_described InBounds events state run
    constructor
    · intro access member
      have inside := touched_inside_call state event after (step_taken _ _ _ taken) (List.ne_nil_of_mem member)
      exact ⟨(touched_index state event access member).trans described.serving.index,
        described.serving.command inside⟩
    · rw [← described.serving.index]
      exact in_bounds_iff state event described.handles
  · intro events state run
    exact run.change_rule careful_in_bounds

theorem first_start (Rule : DriverState → Event → Prop) (length : UInt32) (arg : Int)
    (rule : Rule (newChannel length) (Event.ioctl startXfer arg)) :
    Run driver Rule [Event.ioctl startXfer arg] (ioctl (newChannel length) startXfer arg) :=
  .next [] (newChannel length) (Event.ioctl startXfer arg) _ (.start _ (new_channel_created length)) rule rfl

theorem last_buffer_in_bounds :
    InBounds (ioctl (newChannel 131072) startXfer 31) (.prepSlaveSg true) ∧
      ¬ InBounds (ioctl (newChannel 131073) startXfer 31) (.prepSlaveSg true) := by
  have careful : CarefulUse (newChannel 131072) (.ioctl startXfer 31) :=
    ⟨fun _ _ same _ => by cases same; decide, trivial⟩
  have within := ioctl_bounds_exactly.2 _ _ (first_start CarefulUse 131072 31 careful)
  have outside := first_start InBounds 131073 31 ⟨fun _ member => (List.not_mem_nil member).elim, fun _ _ same => by cases same⟩
  have fits : (131072 : UInt32).toNat ≤ bufferSize := by decide
  have overruns : ¬ (131073 : UInt32).toNat ≤ bufferSize := by decide
  constructor
  · exact ((ioctl_bounds_exactly.1 _ _ (.prepSlaveSg true) _ within rfl).2).mpr ⟨.inr (by decide), fits⟩
  · intro inside
    exact overruns ((ioctl_bounds_exactly.1 _ _ (.prepSlaveSg true) _ outside rfl).2.mp inside).2

theorem index_and_length_unchecked :
    (∃ events state event after, Run driver (fun _ _ => True) events state ∧
      driverStep state event = some after ∧ ∃ access ∈ touched state event, ¬ InRange access.index) ∧
    (∃ events state event after, Run driver (fun _ _ => True) events state ∧
      driverStep state event = some after ∧ ∃ entry direction, handed state event = some (entry, direction) ∧
        ¬ InsideBuffer state.channel (calledIndex events) entry) := by
  constructor
  · exact ⟨_, _, .prepSlaveSg true, _, first_start _ 1024 (-1) trivial, rfl, ⟨.bdtable, -1⟩,
      List.mem_cons_self, by decide⟩
  · exact ⟨_, _, .prepSlaveSg true, _, first_start _ 131073 0 trivial, rfl, _, _, rfl, by decide⟩

end LilacUxB.DmaProxy
