import LilacUxB.Fsbl.Dfu

set_option autoImplicit false

namespace LilacUxB.Fsbl

def usbRun (events : List UsbEvent) (state : UsbState) : UsbState :=
  events.foldl (fun current event => usbHandle event current) state

def ClassRequest (packet : SetupPacket) (request : UInt8) : Prop :=
  packet.bRequestType &&& reqTypeMask = cmdClassReq ∧ packet.bRequest = request

instance (packet : SetupPacket) (request : UInt8) : Decidable (ClassRequest packet request) :=
  inferInstanceAs (Decidable ((_ = _) ∧ (_ = _)))

def dataOf (packet : SetupPacket) (data : Nat → UInt8) : List UInt8 := (List.range packet.wLength.toNat).map data

-- Block 0 starts a new image; every other block goes behind what there is.
def received (bytes : List UInt8) : UsbEvent → List UInt8
  | .setup packet data _ =>
      if ClassRequest packet dfuDnload then (if packet.wValue = 0 then [] else bytes) ++ dataOf packet data else bytes
  | .reset => bytes
  | .device _ => bytes

def image (events : List UsbEvent) : List UInt8 := events.foldl received []

structure Kept (bytes : List UInt8) (state : UsbState) : Prop where
  counted : state.dfu.totalBytesDnloaded.toNat = bytes.length
  stored : Blocks.Holds state.dfuVirtFlash 0 bytes

def SameImage (before after : UsbState) : Prop :=
  after.dfu.totalBytesDnloaded = before.dfu.totalBytesDnloaded ∧ after.dfuVirtFlash = before.dfuVirtFlash

theorem same_kept (bytes : List UInt8) (before after : UsbState) (same : SameImage before after)
    (kept : Kept bytes before) : Kept bytes after := by
  obtain ⟨counted, stored⟩ := kept
  exact ⟨same.1 ▸ counted, same.2 ▸ stored⟩

structure Quiet (before after : UsbState) : Prop where
  image : SameImage before after
  told : after.downloadDone = before.downloadDone
  status : before.dfu.currStatus = dfuStatusOk → after.dfu.currStatus = dfuStatusOk

theorem quiet_self (state : UsbState) : Quiet state state := ⟨⟨rfl, rfl⟩, rfl, id⟩

theorem stall_quiet (endpoint : UInt8) (inward : Bool) (state : UsbState) : Quiet state (stall endpoint inward state) :=
  ⟨⟨rfl, rfl⟩, rfl, id⟩

theorem set_state_quiet (dfuState : DfuState) (state : UsbState) : Quiet state (dfuSetState dfuState state) := by
  cases dfuState with
  | appDetach =>
      rw [dfuSetState]
      split_ifs
      · exact ⟨⟨rfl, rfl⟩, rfl, id⟩
      · exact ⟨⟨rfl, rfl⟩, rfl, fun _ => rfl⟩
      · exact ⟨⟨rfl, rfl⟩, rfl, id⟩
  | appIdle => exact ⟨⟨rfl, rfl⟩, rfl, fun _ => rfl⟩
  | dfuIdle => exact ⟨⟨rfl, rfl⟩, rfl, id⟩
  | downloadSync => exact ⟨⟨rfl, rfl⟩, rfl, id⟩
  | downloadBusy => exact ⟨⟨rfl, rfl⟩, rfl, id⟩
  | downloadIdle => exact ⟨⟨rfl, rfl⟩, rfl, id⟩
  | error => exact ⟨⟨rfl, rfl⟩, rfl, id⟩

theorem set_intf_quiet (packet : SetupPacket) (state : UsbState) : Quiet state (dfuSetIntf packet state) := by
  unfold dfuSetIntf
  dsimp only
  split_ifs
  · have entered := set_state_quiet .dfuIdle { state with
      dfu := { state.dfu with currentInf := packet.wValue.toUInt32, runtimeToDfu := false } }
    exact ⟨entered.image, entered.told, entered.status⟩
  · have entered := set_state_quiet .appIdle { state with
      dfu := { state.dfu with currentInf := packet.wValue.toUInt32 } }
    exact ⟨entered.image, entered.told, entered.status⟩

theorem set_configuration_quiet (state : UsbState) : Quiet state (setConfiguration state).2 := by
  unfold setConfiguration
  cases state.deviceState <;> exact ⟨⟨rfl, rfl⟩, rfl, id⟩

theorem set_feature_quiet (packet : SetupPacket) (state : UsbState) : Quiet state (setFeature packet state).2 := by
  unfold setFeature
  split_ifs
  · exact stall_quiet _ _ state
  · exact quiet_self state
  · exact quiet_self state
  · exact quiet_self state

theorem std_dev_quiet (packet : SetupPacket) (sent : Bool) (state : UsbState) :
    Quiet state (stdDevReq packet sent state) := by
  have answered (result : Bool × UsbState) (quiet : Quiet state result.2) :
      Quiet state (if result.1 then result.2 else stall 0 false result.2) := by
    by_cases passed : result.1 = true
    · rw [if_pos passed]
      exact quiet
    · rw [if_neg passed]
      exact ⟨quiet.image, quiet.told, quiet.status⟩
  apply answered
  split_ifs
  · exact quiet_self state
  · exact quiet_self state
  · exact quiet_self state
  · exact quiet_self state
  · exact quiet_self state
  · exact quiet_self state
  · exact set_configuration_quiet state
  · exact quiet_self state
  · exact set_feature_quiet packet state
  · exact set_intf_quiet packet state
  · exact quiet_self state
  · exact quiet_self state

theorem other_quiet (packet : SetupPacket) (data : Nat → UInt8) (sent : Bool) (state : UsbState)
    (undownloaded : ¬ ClassRequest packet dfuDnload) (unasked : ¬ ClassRequest packet dfuGetStatus) :
    Quiet state (usbHandle (.setup packet data sent) state) := by
  rw [usbHandle, ch9Handler]
  by_cases standard : packet.bRequestType &&& reqTypeMask = cmdStdReq
  · rw [if_pos standard]
    exact std_dev_quiet packet sent state
  · rw [if_neg standard]
    by_cases classReq : packet.bRequestType &&& reqTypeMask = cmdClassReq
    · rw [if_pos classReq, dfuClassReq, if_neg (fun request => undownloaded ⟨classReq, request⟩),
        if_neg (fun request => unasked ⟨classReq, request⟩)]
      split_ifs
      · exact set_state_quiet .appDetach state
      · exact ⟨⟨rfl, rfl⟩, rfl, id⟩
    · rw [if_neg classReq]
      exact stall_quiet _ _ state

theorem class_not_standard (packet : SetupPacket) (request : UInt8) (asked : ClassRequest packet request) :
    packet.bRequestType &&& reqTypeMask ≠ cmdStdReq := by
  rw [asked.1]
  decide

theorem download_handled (packet : SetupPacket) (data : Nat → UInt8) (sent : Bool) (state : UsbState)
    (download : ClassRequest packet dfuDnload) : usbHandle (.setup packet data sent) state = dnload packet data state := by
  have undetached : packet.bRequest ≠ dfuDetach := by
    rw [download.2]
    decide
  rw [usbHandle, ch9Handler, if_neg (class_not_standard packet _ download), if_pos download.1, dfuClassReq,
    if_neg undetached, if_pos download.2]

theorem status_handled (packet : SetupPacket) (data : Nat → UInt8) (sent : Bool) (state : UsbState)
    (asked : ClassRequest packet dfuGetStatus) : usbHandle (.setup packet data sent) state = getStatus packet state := by
  have undetached : packet.bRequest ≠ dfuDetach := by
    rw [asked.2]
    decide
  have undownloaded : packet.bRequest ≠ dfuDnload := by
    rw [asked.2]
    decide
  rw [usbHandle, ch9Handler, if_neg (class_not_standard packet _ asked), if_pos asked.1, dfuClassReq,
    if_neg undetached, if_neg undownloaded, if_pos asked.2]

theorem get_status_same (packet : SetupPacket) (state : UsbState) : SameImage state (getStatus packet state) := by
  unfold getStatus
  split_ifs <;> exact ⟨rfl, rfl⟩

theorem other_same (packet : SetupPacket) (data : Nat → UInt8) (sent : Bool) (state : UsbState)
    (undownloaded : ¬ ClassRequest packet dfuDnload) : SameImage state (usbHandle (.setup packet data sent) state) := by
  by_cases asked : ClassRequest packet dfuGetStatus
  · rw [status_handled packet data sent state asked]
    exact get_status_same packet state
  · exact (other_quiet packet data sent state undownloaded asked).image

theorem data_length (packet : SetupPacket) (data : Nat → UInt8) : (dataOf packet data).length = packet.wLength.toNat := by
  rw [dataOf, List.length_map, List.length_range]

theorem store_data (memory : Nat → UInt8) (bytes : List UInt8) (packet : SetupPacket) (data : Nat → UInt8)
    (stored : Blocks.Holds memory 0 bytes) :
    Blocks.Holds (Blocks.store memory bytes.length packet.wLength.toNat data) 0 (bytes ++ dataOf packet data) := by
  apply (Blocks.holds_append _ 0 _ _).mpr
  constructor
  · intro index inside
    rw [Blocks.store_before _ _ _ _ _ (by omega)]
    exact stored index inside
  · intro index inside
    rw [data_length] at inside
    rw [Nat.zero_add, Blocks.store_inside _ _ _ _ _ inside]
    simp [dataOf]

theorem start_kept (packet : SetupPacket) (bytes : List UInt8) (state : UsbState) (kept : Kept bytes state) :
    (if packet.wValue = 0 then 0 else state.dfu.totalBytesDnloaded).toNat =
        (if packet.wValue = 0 then [] else bytes).length ∧
      Blocks.Holds state.dfuVirtFlash 0 (if packet.wValue = 0 then [] else bytes) := by
  by_cases first : packet.wValue = 0
  · rw [if_pos first, if_pos first]
    exact ⟨rfl, fun index inside => absurd inside (Nat.not_lt_zero index)⟩
  · rw [if_neg first, if_neg first]
    exact ⟨kept.counted, kept.stored⟩

theorem dnload_kept (packet : SetupPacket) (data : Nat → UInt8) (bytes : List UInt8) (state : UsbState)
    (kept : Kept bytes state)
    (fits : ((if packet.wValue = 0 then [] else bytes) ++ dataOf packet data).length < 2 ^ 32) :
    Kept ((if packet.wValue = 0 then [] else bytes) ++ dataOf packet data) (dnload packet data state) := by
  obtain ⟨counted, stored⟩ := start_kept packet bytes state kept
  unfold dnload
  dsimp only
  by_cases some_data : packet.wLength > 0
  · rw [if_pos some_data]
    constructor
    · rw [List.length_append, data_length] at fits ⊢
      have length : packet.wLength.toUInt32.toNat = packet.wLength.toNat := UInt16.toNat_toUInt32 _
      rw [UInt32.toNat_add, counted, length, Nat.mod_eq_of_lt fits]
    · dsimp only
      rw [counted]
      exact store_data _ _ packet data stored
  · have nothing : packet.wLength.toNat = 0 := Nat.eq_zero_of_not_pos some_data
    have no_data : dataOf packet data = [] := List.eq_nil_of_length_eq_zero ((data_length packet data).trans nothing)
    rw [if_neg some_data, no_data, List.append_nil]
    exact ⟨counted, stored⟩

theorem handle_kept (event : UsbEvent) (bytes : List UInt8) (state : UsbState) (kept : Kept bytes state)
    (fits : (received bytes event).length < 2 ^ 32) : Kept (received bytes event) (usbHandle event state) := by
  cases event with
  | reset => exact same_kept bytes state (dfuReset state) ⟨rfl, rfl⟩ kept
  | device deviceState => exact same_kept bytes state { state with deviceState := deviceState } ⟨rfl, rfl⟩ kept
  | setup packet data sent =>
      by_cases download : ClassRequest packet dfuDnload
      · rw [received, if_pos download] at fits ⊢
        rw [download_handled packet data sent state download]
        exact dnload_kept packet data bytes state kept fits
      · rw [received, if_neg download]
        exact same_kept bytes _ _ (other_same packet data sent state download) kept

theorem run_kept_from (events : List UsbEvent) (bytes : List UInt8) (state : UsbState) (kept : Kept bytes state)
    (fits : ∀ done, done <+: events → (done.foldl received bytes).length < 2 ^ 32) :
    Kept (events.foldl received bytes) (usbRun events state) := by
  induction events generalizing bytes state with
  | nil => exact kept
  | cons event rest ih =>
      have first := handle_kept event bytes state kept (fits [event] ⟨rest, rfl⟩)
      apply ih _ _ first
      intro done cut
      exact fits (event :: done) ((List.prefix_cons_inj event).mpr cut)

theorem start_empty (memory : Nat → UInt8) : Kept [] (usbStart memory) :=
  ⟨rfl, fun index inside => absurd inside (Nat.not_lt_zero index)⟩

theorem usb_run_kept (memory : Nat → UInt8) (events : List UsbEvent)
    (fits : ∀ done, done <+: events → (image done).length < 2 ^ 32) :
    Kept (image events) (usbRun events (usbStart memory)) :=
  run_kept_from events [] (usbStart memory) (start_empty memory) fits

def twoDownloads : List UsbEvent :=
  [.setup ⟨0x21, dfuDnload, 1, 0, 1⟩ (fun _ => 9) true, .reset, .setup ⟨0x21, dfuDnload, 0, 0, 2⟩ (fun _ => 7) true]

theorem two_downloads_kept : Kept [7, 7] (usbRun twoDownloads (usbStart (fun _ => 0))) := by
  have few : ∀ done ∈ twoDownloads.inits, (image done).length < 2 ^ 32 := by decide
  exact usb_run_kept (fun _ => 0) twoDownloads (fun done cut => few done ((List.mem_inits done twoDownloads).mpr cut))

-- A GETSTATUS in DFU_IDLE, which the loader counts.
def Completes (state : UsbState) : UsbEvent → Prop
  | .setup packet _ _ => ClassRequest packet dfuGetStatus ∧ state.dfu.currState = .dfuIdle
  | .reset => False
  | .device _ => False

instance (state : UsbState) (event : UsbEvent) : Decidable (Completes state event) :=
  match event with
  | .setup _ _ _ => inferInstanceAs (Decidable (_ ∧ _))
  | .reset => isFalse id
  | .device _ => isFalse id

def completion (state : UsbState) (event : UsbEvent) : Nat := if Completes state event then 1 else 0

def completions : UsbState → List UsbEvent → Nat
  | _, [] => 0
  | state, event :: rest => completion state event + completions (usbHandle event state) rest

theorem get_status_counts (packet : SetupPacket) (state : UsbState) (few : state.downloadDone.toNat < 2) :
    (getStatus packet state).downloadDone.toNat =
        state.downloadDone.toNat + (if state.dfu.currState = .dfuIdle then 1 else 0) ∧
      (getStatus packet state).dfu.currStatus = state.dfu.currStatus := by
  have next : (state.downloadDone + 1).toNat = state.downloadDone.toNat + 1 :=
    Words.add_exact state.downloadDone 1 (by
      have one : (1 : UInt32).toNat = 1 := rfl
      omega)
  unfold getStatus
  split_ifs
  · exact ⟨next, rfl⟩
  · exact ⟨rfl, rfl⟩
  · exact ⟨rfl, rfl⟩

theorem handle_counts (event : UsbEvent) (state : UsbState) (few : state.downloadDone.toNat < 2)
    (good : state.dfu.currStatus = dfuStatusOk) :
    (usbHandle event state).downloadDone.toNat = state.downloadDone.toNat + completion state event ∧
      (usbHandle event state).dfu.currStatus = dfuStatusOk := by
  cases event with
  | reset => exact ⟨rfl, good⟩
  | device deviceState => exact ⟨rfl, good⟩
  | setup packet data sent =>
      by_cases asked : ClassRequest packet dfuGetStatus
      · obtain ⟨counted, status⟩ := get_status_counts packet state few
        rw [status_handled packet data sent state asked]
        refine ⟨?_, status.trans good⟩
        rw [counted, completion]
        simp only [Completes, asked, true_and]
      · have uncounted : completion state (.setup packet data sent) = 0 := if_neg (fun completes => asked completes.1)
        rw [uncounted, Nat.add_zero]
        by_cases download : ClassRequest packet dfuDnload
        · rw [download_handled packet data sent state download]
          unfold dnload
          dsimp only
          split_ifs <;> exact ⟨rfl, good⟩
        · have quiet := other_quiet packet data sent state download asked
          exact ⟨congrArg UInt32.toNat quiet.told, quiet.status good⟩

theorem few_waits (state : UsbState) (few : state.downloadDone.toNat < 2) (good : state.dfu.currStatus = dfuStatusOk) :
    usbWaits state = true := by
  have fine : state.dfu.currStatus ≠ DfuState.error.code := by
    rw [good]
    decide
  have less : state.downloadDone < downloadComplete := few
  unfold usbWaits
  simp [less, fine]

theorem loop_none (state : UsbState) (waits : usbWaits state = true) : usbLoop [] state = none := by
  rw [usbLoop, if_pos waits]

theorem loop_next (event : UsbEvent) (rest : List UsbEvent) (state : UsbState) (waits : usbWaits state = true) :
    usbLoop (event :: rest) state = usbLoop rest (usbHandle event state) := by
  rw [usbLoop, if_pos waits]

theorem loop_done (events : List UsbEvent) (state : UsbState) (done : state.downloadDone.toNat = 2) :
    usbLoop events state = some (events, state, true) := by
  have complete : state.downloadDone = downloadComplete := UInt32.toNat_inj.mp done
  have stopped : ¬ usbWaits state = true := by
    unfold usbWaits
    rw [complete]
    simp
  cases events with
  | nil => rw [usbLoop, if_neg stopped, decide_eq_true complete]
  | cons event rest => rw [usbLoop, if_neg stopped, decide_eq_true complete]

def EndsAfter (events : List UsbEvent) (state : UsbState) (rest : List UsbEvent) (final : UsbState) : Prop :=
  ∃ before event, events = before ++ event :: rest ∧ state.downloadDone.toNat + completions state before = 1 ∧
    Completes (usbRun before state) event ∧ final = usbRun (before ++ [event]) state

theorem ends_later (event : UsbEvent) (tail : List UsbEvent) (state : UsbState) (rest : List UsbEvent) (final : UsbState)
    (counted : (usbHandle event state).downloadDone.toNat = state.downloadDone.toNat + completion state event)
    (few : (usbHandle event state).downloadDone.toNat < 2) :
    EndsAfter (event :: tail) state rest final ↔ EndsAfter tail (usbHandle event state) rest final := by
  constructor
  · rintro ⟨before, last, cut, once, completes, reached⟩
    cases before with
    | nil =>
        obtain ⟨rfl, rfl⟩ : event = last ∧ tail = rest := List.cons.inj cut
        have one : completion state event = 1 := if_pos completes
        rw [completions] at once
        omega
    | cons head before =>
        obtain ⟨rfl, rfl⟩ := List.cons.inj cut
        refine ⟨before, last, rfl, ?_, completes, reached⟩
        rw [completions] at once
        omega
  · rintro ⟨before, last, cut, once, completes, reached⟩
    refine ⟨event :: before, last, congrArg (List.cons event) cut, ?_, completes, reached⟩
    rw [completions]
    omega

theorem loop_end_from (events : List UsbEvent) (state : UsbState) (few : state.downloadDone.toNat < 2)
    (good : state.dfu.currStatus = dfuStatusOk) (rest : List UsbEvent) (final : UsbState) (success : Bool) :
    usbLoop events state = some (rest, final, success) ↔ EndsAfter events state rest final ∧ success = true := by
  induction events generalizing state with
  | nil =>
      rw [loop_none state (few_waits state few good)]
      constructor
      · intro impossible
        cases impossible
      · rintro ⟨⟨before, event, cut, -⟩, -⟩
        exact absurd cut.symm (List.append_ne_nil_of_right_ne_nil before (List.cons_ne_nil event rest))
  | cons event tail ih =>
      obtain ⟨counted, status⟩ := handle_counts event state few good
      rw [loop_next event tail state (few_waits state few good)]
      by_cases still : (usbHandle event state).downloadDone.toNat < 2
      · rw [ih (usbHandle event state) still status, ends_later event tail state rest final counted still]
      · have completes : Completes state event := by
          by_contra incomplete
          have zero : completion state event = 0 := if_neg incomplete
          omega
        have one : completion state event = 1 := if_pos completes
        have second : (usbHandle event state).downloadDone.toNat = 2 := by omega
        rw [loop_done tail (usbHandle event state) second]
        constructor
        · intro ended
          obtain ⟨rfl, rfl, rfl⟩ : tail = rest ∧ usbHandle event state = final ∧ true = success := by
            simpa only [Option.some.injEq, Prod.mk.injEq] using ended
          refine ⟨⟨[], event, rfl, ?_, completes, rfl⟩, rfl⟩
          rw [completions]
          omega
        · rintro ⟨⟨before, last, cut, once, -, reached⟩, rfl⟩
          cases before with
          | nil =>
              obtain ⟨rfl, rfl⟩ : event = last ∧ tail = rest := List.cons.inj cut
              rw [reached]
              rfl
          | cons head before =>
              obtain ⟨rfl, rfl⟩ := List.cons.inj cut
              rw [completions] at once
              omega

theorem usb_loop_end (memory : Nat → UInt8) (events rest : List UsbEvent) (final : UsbState) (success : Bool) :
    usbLoop events (usbStart memory) = some (rest, final, success) ↔
      (∃ before event, events = before ++ event :: rest ∧ completions (usbStart memory) before = 1 ∧
        Completes (usbRun before (usbStart memory)) event ∧ final = usbRun (before ++ [event]) (usbStart memory)) ∧
      success = true := by
  have zero : (usbStart memory).downloadDone.toNat = 0 := rfl
  have ended := loop_end_from events (usbStart memory) (by omega) rfl rest final success
  unfold EndsAfter at ended
  simpa only [zero, Nat.zero_add] using ended

end LilacUxB.Fsbl
