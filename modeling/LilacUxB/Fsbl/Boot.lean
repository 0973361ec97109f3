import LilacUxB.Fsbl.RegularHandoff
import LilacUxB.Fsbl.Stages

set_option autoImplicit false

namespace LilacUxB.Fsbl

open Registers

structure Loading where
  ps : HandoffPs
  registers : File
  loaded : List UInt32

def loadNext (env : BootEnv) (partitionNum : Nat) (state : Loading) : XFsblStatus × Loading :=
  let number := UInt32.ofNat partitionNum
  let result := loadOne env number state.ps
  let marks := if result.1 = .success then markUsedRPUCores result.2 number else []
  (result.1, ⟨result.2, run marks state.registers, state.loaded ++ [number]⟩)

-- Partition 1 is loaded before the number of partitions is looked at.
def lastLoaded (ps : HandoffPs) : Nat := max 1 (lastPartition ps).toNat

def loadPartitions (env : BootEnv) (ps : HandoffPs) (registers : File) : XFsblStatus × Loading :=
  Loops.iterate .success (loadNext env) (lastLoaded ps) 1 ⟨ps, registers, []⟩

def bootEnd : Ending → BootEnd
  | .exit address flags => .exit address flags
  | .returns status => .lockDown (status.code + errorStage4)

def handOver (env : BootEnv) (state : Loading) (partitionNum : UInt32) : MainEnd :=
  let result := handoff env.map env.build env.platform (env.handoff 0) state.registers state.ps partitionNum false 0
  ⟨bootEnd result.ending, state.ps, run result.changes state.registers, state.loaded, 1⟩

def deviceLoads (env : BootEnv) (registers : File) : XFsblStatus × Loading :=
  loadPartitions env (env.bootDeviceInitAndValidate env.initialized.2).2
    (run [⟨r5UsageStatusReg, r5_0StatusMask ||| r5_1StatusMask, 0⟩] registers)

def straightBoot (env : BootEnv) (registers : File) : MainEnd :=
  let device := env.bootDeviceInitAndValidate env.initialized.2
  let marked := run [⟨r5UsageStatusReg, 0, r5_0StatusMask ||| r5_1StatusMask⟩] registers
  let loads := deviceLoads env registers
  if env.initialized.1 ≠ fsblSuccess then
    ⟨.lockDown (env.initialized.1 + errorStage1), env.initialized.2, registers, [], 0⟩
  else if device.1 ≠ fsblSuccess ∧ device.1 ≠ statusJtag then
    ⟨.lockDown (device.1 + errorStage2), device.2, registers, [], 0⟩
  else if device.1 = statusJtag then handOver env ⟨device.2, marked, []⟩ 0
  else if loads.1 ≠ .success then
    ⟨.lockDown (loads.1.code + errorStage3), loads.2.ps, loads.2.registers, loads.2.loaded, 0⟩
  else handOver env loads.2 (UInt32.ofNat (lastLoaded device.2))

def Final (status : HandoffStatus) : Prop := status ≠ .continuePartitionLoad ∧ status ≠ .continueOtherHandoff

theorem release_final (qemu : Bool) (cpuSettings : UInt32) : Final (setCpuPwrSettings qemu cpuSettings cpuSwrst).1 := by
  have flagged : cpuSwrst &&& cpuSwrst ≠ 0 := by decide
  rw [setCpuPwrSettings, if_pos flagged]
  cases cpuRelease qemu (cpuSettings &&& destCpuMask) (cpuSettings &&& a53ExecStMask) with
  | none => exact ⟨by simp, by simp⟩
  | some release => exact ⟨by simp, by simp⟩

theorem serve_final (build : Build) (platform : Platform) (ps : HandoffPs) (early : Bool) (vector : UInt32)
    (entry : HandoffValues) (walk : Walk) : Final (serve build platform ps early vector entry walk).1 := by
  unfold serve serveOther serveRunning
  split_ifs
  · exact release_final platform.qemu entry.cpuSettings
  · exact ⟨by simp, by simp⟩
  · exact ⟨by simp, by simp⟩
  · exact ⟨by simp, by simp⟩
  · exact ⟨by simp, by simp⟩

theorem regular_loop_final (build : Build) (platform : Platform) (ps : HandoffPs) (vector partitionNum : UInt32)
    (entries : List HandoffValues) (walk : Walk) :
    Final (handoffLoop build platform ps false vector partitionNum entries walk).1 := by
  induction entries generalizing walk with
  | nil => exact ⟨by simp [handoffLoop], by simp [handoffLoop]⟩
  | cons entry rest ih =>
      rw [handoffLoop]
      simp only [Bool.false_eq_true, false_and, if_false]
      split_ifs with failed
      · exact serve_final build platform ps false vector entry walk
      · exact ih _

theorem config_final (build : Build) (outcomes : HandoffOutcomes) (ps : HandoffPs) (registers : File) :
    Final (systemConfig build outcomes ps registers).1 := by
  unfold systemConfig protectionConfig
  split_ifs <;> exact ⟨by simp, by simp⟩

theorem final_exit_leaves (map : MemoryMap) (build : Build) (ps : HandoffPs) (running : Option (UInt64 × UInt32))
    (status : HandoffStatus) : (finalExit map build ps running).2 ≠ .returns status := by
  cases running <;> exact Ending.noConfusion

theorem jtag_exit_leaves (map : MemoryMap) (platform : Platform) (status : HandoffStatus) :
    (jtagExit map platform).2 ≠ .returns status := by
  unfold jtagExit
  split_ifs <;> exact Ending.noConfusion

theorem regular_ending (map : MemoryMap) (build : Build) (platform : Platform) (outcomes : HandoffOutcomes)
    (registers : File) (ps : HandoffPs) (partitionNum index : UInt32) (status : HandoffStatus)
    (returned : (handoff map build platform outcomes registers ps partitionNum false index).ending = .returns status) :
    Final status ∧ status ≠ .success := by
  have walked : Final (handoffWalk build platform ps partitionNum false index).1 :=
    regular_loop_final build platform ps (vectorOf ps partitionNum) partitionNum _ _
  simp only [handoff] at returned
  split_ifs at returned with misconfigured jtag unhooked stopped
  · obtain rfl := Ending.returns.inj returned
    exact ⟨config_final build outcomes ps registers, misconfigured⟩
  · exact absurd returned (jtag_exit_leaves map platform status)
  · obtain rfl := Ending.returns.inj returned
    exact ⟨walked, stopped⟩
  · exact absurd returned (final_exit_leaves map build ps _ status)
  · obtain rfl := Ending.returns.inj returned
    exact ⟨⟨by simp, by simp⟩, by simp⟩

def loadingAt (fsblStatus : UInt32) (partitionNum : Nat) (state : Loading) : MainState :=
  ⟨.stage3, fsblStatus, state.ps, UInt32.ofNat partitionNum, false, 0, state.registers, state.loaded, 0⟩

def handingAt (fsblStatus : UInt32) (partitionNum : Nat) (state : Loading) : MainState :=
  { loadingAt fsblStatus partitionNum state with stage := .stage4 }

def loadFailure (state : XFsblStatus × Loading) : MainEnd :=
  ⟨.lockDown (state.1.code + errorStage3), state.2.ps, state.2.registers, state.2.loaded, 0⟩

theorem never_early (build : Build) (plain : build.earlyHandoff = false) (ps : HandoffPs) (partitionNum : UInt32) :
    checkEarlyHandoff build ps partitionNum = false := by
  simp [checkEarlyHandoff, plain]

theorem stage3_failed (env : BootEnv) (state : MainState)
    (failed : (loadOne env state.partitionNum state.ps).1 ≠ .success) :
    stage3 env state = { state with
      stage := .err
      fsblStatus := (loadOne env state.partitionNum state.ps).1.code + errorStage3
      ps := (loadOne env state.partitionNum state.ps).2
      loaded := state.loaded ++ [state.partitionNum] } :=
  if_pos failed

def loadedState (env : BootEnv) (state : MainState) : MainState :=
  let ps := (loadOne env state.partitionNum state.ps).2
  { state with
    ps := ps
    loaded := state.loaded ++ [state.partitionNum]
    registers := run (markUsedRPUCores ps state.partitionNum) state.registers }

theorem stage3_loaded (env : BootEnv) (state : MainState)
    (loaded : (loadOne env state.partitionNum state.ps).1 = .success) :
    stage3 env state =
      if state.partitionNum < lastPartition state.ps then
        if checkEarlyHandoff env.build (loadOne env state.partitionNum state.ps).2 state.partitionNum then
          { loadedState env state with earlyHandoff := true, stage := .stage4 }
        else { loadedState env state with partitionNum := state.partitionNum + 1 }
      else
        { loadedState env state with
          earlyHandoff := checkEarlyHandoff env.build (loadOne env state.partitionNum state.ps).2 state.partitionNum
          stage := .stage4 } :=
  if_neg (not_not.mpr loaded)

theorem load_failed (env : BootEnv) (fsblStatus : UInt32) (partitionNum : Nat) (state : Loading)
    (failed : (loadNext env partitionNum state).1 ≠ .success) (fuel : Nat) :
    Loops.runUntil (mainStep env) (fuel + 2) (loadingAt fsblStatus partitionNum state) =
      some (loadFailure (loadNext env partitionNum state)) := by
  have unmarked : (loadNext env partitionNum state).2.registers = state.registers := by
    have unmarked : (if (loadNext env partitionNum state).1 = .success then
        markUsedRPUCores (loadNext env partitionNum state).2.ps (UInt32.ofNat partitionNum) else []) = [] := if_neg failed
    exact congrArg (fun marks => run marks state.registers) unmarked
  have stage : mainStep env (loadingAt fsblStatus partitionNum state) = .inl _ :=
    congrArg Sum.inl (stage3_failed env (loadingAt fsblStatus partitionNum state) failed)
  rw [Loops.run_next _ _ _ _ stage]
  exact Loops.run_last _ _ _ _ (by rw [loadFailure, unmarked]; rfl)

theorem last_loaded_small (ps : HandoffPs) : lastLoaded ps < 2 ^ 32 := max_lt (by decide) (Words.below _)

theorem load_succeeded (env : BootEnv) (plain : env.build.earlyHandoff = false) (fsblStatus : UInt32)
    (partitionNum last : Nat) (state : Loading) (ends : lastLoaded state.ps = last) (started : 1 ≤ partitionNum)
    (inside : partitionNum ≤ last) (loaded : (loadNext env partitionNum state).1 = .success) :
    mainStep env (loadingAt fsblStatus partitionNum state) = .inl
      (if partitionNum < last then loadingAt fsblStatus (partitionNum + 1) (loadNext env partitionNum state).2
        else handingAt fsblStatus partitionNum (loadNext env partitionNum state).2) := by
  have small : partitionNum < 2 ^ 32 := Nat.lt_of_le_of_lt inside (ends ▸ last_loaded_small state.ps)
  have number : (UInt32.ofNat partitionNum).toNat = partitionNum := UInt32.toNat_ofNat_of_lt' small
  have compared : (loadingAt fsblStatus partitionNum state).partitionNum <
      lastPartition (loadingAt fsblStatus partitionNum state).ps ↔ partitionNum < last := by
    rw [loadingAt]
    rw [UInt32.lt_iff_toNat_lt, number, ← ends, lastLoaded]
    exact ⟨lt_max_of_lt_right, fun less => (lt_max_iff.mp less).resolve_left (not_lt.mpr started)⟩
  have marked : (loadNext env partitionNum state).2 =
      ⟨(loadedState env (loadingAt fsblStatus partitionNum state)).ps,
        (loadedState env (loadingAt fsblStatus partitionNum state)).registers,
        (loadedState env (loadingAt fsblStatus partitionNum state)).loaded⟩ := by
    have marks : (if (loadNext env partitionNum state).1 = .success then
        markUsedRPUCores (loadNext env partitionNum state).2.ps (UInt32.ofNat partitionNum) else []) =
        markUsedRPUCores (loadNext env partitionNum state).2.ps (UInt32.ofNat partitionNum) := if_pos loaded
    exact congrArg (fun changes => (⟨(loadNext env partitionNum state).2.ps, run changes state.registers,
      (loadNext env partitionNum state).2.loaded⟩ : Loading)) marks
  have stage := stage3_loaded env (loadingAt fsblStatus partitionNum state) loaded
  have moved : mainStep env (loadingAt fsblStatus partitionNum state) = .inl _ := congrArg Sum.inl stage
  rw [moved, marked]
  by_cases more : partitionNum < last
  · rw [if_pos more, if_pos (compared.mpr more), never_early env.build plain, if_neg (by decide)]
    have next (after : Loading) : loadingAt fsblStatus (partitionNum + 1) after =
        { loadingAt fsblStatus partitionNum after with partitionNum := UInt32.ofNat partitionNum + 1 } := by
      rw [loadingAt, UInt32.ofNat_add]
      rfl
    rw [next]
    rfl
  · rw [if_neg more, if_neg (mt compared.mp more), never_early env.build plain]
    rfl

def afterLoads (env : BootEnv) (fsblStatus : UInt32) (last fuel : Nat) (loads : XFsblStatus × Loading) : Option MainEnd :=
  if loads.1 ≠ .success then some (loadFailure loads)
  else Loops.runUntil (mainStep env) (fuel + 1) (handingAt fsblStatus last loads.2)

theorem load_keeps_last (env : BootEnv) (partitionNum : Nat) (state : Loading) :
    lastLoaded (loadNext env partitionNum state).2.ps = lastLoaded state.ps := rfl

theorem loads_run (env : BootEnv) (plain : env.build.earlyHandoff = false) (fsblStatus : UInt32) (last fuel : Nat)
    (remaining partitionNum : Nat) (started : 1 ≤ partitionNum) (reaches : partitionNum + remaining = last)
    (state : Loading) (ends : lastLoaded state.ps = last) :
    Loops.runUntil (mainStep env) (remaining + 1 + (fuel + 1)) (loadingAt fsblStatus partitionNum state) =
      afterLoads env fsblStatus last fuel (Loops.iterate .success (loadNext env) (remaining + 1) partitionNum state) := by
  induction remaining generalizing partitionNum state fuel with
  | zero =>
      obtain rfl : partitionNum = last := reaches
      rw [Loops.iterate, Nat.zero_add, Nat.add_comm 1]
      by_cases failed : (loadNext env partitionNum state).1 ≠ .success
      · rw [if_pos failed, afterLoads, if_pos failed]
        exact load_failed env fsblStatus partitionNum state failed fuel
      · have loaded := load_succeeded env plain fsblStatus partitionNum partitionNum state ends started
          (Nat.le_refl _) (not_not.mp failed)
        rw [if_neg (Nat.lt_irrefl _)] at loaded
        rw [if_neg failed, Loops.iterate, afterLoads, if_neg (not_not.mpr rfl)]
        exact Loops.run_next _ _ _ _ loaded
  | succ less ih =>
      rw [Loops.iterate]
      by_cases failed : (loadNext env partitionNum state).1 ≠ .success
      · have enough : less + 1 + 1 + (fuel + 1) = less + fuel + 1 + 2 := by omega
        rw [if_pos failed, afterLoads, if_pos failed, enough]
        exact load_failed env fsblStatus partitionNum state failed _
      · have inside : partitionNum < last := by omega
        have loaded := load_succeeded env plain fsblStatus partitionNum last state ends started inside.le
          (not_not.mp failed)
        rw [if_pos inside] at loaded
        have moved : less + 1 + 1 + (fuel + 1) = less + 1 + (fuel + 1) + 1 := by omega
        have ends' : lastLoaded (loadNext env partitionNum state).2.ps = last :=
          (load_keeps_last env partitionNum state).trans ends
        rw [if_neg failed, moved, Loops.run_next _ _ _ _ loaded]
        exact ih fuel (partitionNum + 1) (Nat.le_add_left 1 _) (by omega) (loadNext env partitionNum state).2 ends'

def handoffAt (env : BootEnv) (state : MainState) : HandoffResult :=
  handoff env.map env.build env.platform (env.handoff state.handoffs) state.registers state.ps state.partitionNum
    state.earlyHandoff state.cpuIndexEarlyHandoff

theorem stage4_exits (env : BootEnv) (state : MainState) (address : UInt64) (flags : UInt32)
    (exits : (handoffAt env state).ending = .exit address flags) :
    stage4 env state = .inr ⟨.exit address flags, state.ps, run (handoffAt env state).changes state.registers,
      state.loaded, state.handoffs + 1⟩ := by
  unfold handoffAt at exits ⊢
  simp only [stage4, exits]

theorem stage4_fails (env : BootEnv) (state : MainState) (status : HandoffStatus)
    (returned : (handoffAt env state).ending = .returns status) (final : Final status) (failed : status ≠ .success) :
    stage4 env state = .inl { state with
      registers := run (handoffAt env state).changes state.registers
      cpuIndexEarlyHandoff := (handoffAt env state).cpuIndexEarlyHandoff
      handoffs := state.handoffs + 1
      fsblStatus := status.code + errorStage4
      stage := .err } := by
  unfold handoffAt at returned ⊢
  simp only [stage4, returned]
  cases status with
  | success => exact absurd rfl failed
  | continuePartitionLoad => exact absurd rfl final.1
  | continueOtherHandoff => exact absurd rfl final.2
  | _ => rfl

theorem hand_over_run (env : BootEnv) (fsblStatus : UInt32) (partitionNum : Nat) (state : Loading) (fuel : Nat) :
    Loops.runUntil (mainStep env) (fuel + 2) (handingAt fsblStatus partitionNum state) =
      some (handOver env state (UInt32.ofNat partitionNum)) := by
  let handing := handingAt fsblStatus partitionNum state
  have handed (ending : Ending) (ends : (handoffAt env handing).ending = ending) :
      handOver env state (UInt32.ofNat partitionNum) =
        ⟨bootEnd ending, state.ps, run (handoffAt env handing).changes state.registers, state.loaded, 1⟩ :=
    congrArg (fun ending => (⟨bootEnd ending, state.ps, run (handoffAt env handing).changes state.registers,
      state.loaded, 1⟩ : MainEnd)) ends
  cases ending : (handoffAt env handing).ending with
  | exit address flags =>
      rw [handed _ ending]
      exact Loops.run_last _ _ _ _ (stage4_exits env handing address flags ending)
  | returns status =>
      obtain ⟨final, failed⟩ := regular_ending env.map env.build env.platform (env.handoff 0) state.registers state.ps
        (UInt32.ofNat partitionNum) 0 status ending
      have fails : mainStep env handing = .inl _ := stage4_fails env handing status ending final failed
      rw [handed _ ending, Loops.run_next _ _ _ _ fails]
      exact Loops.run_last _ _ _ _ rfl

theorem stage1_failed (env : BootEnv) (state : MainState) (failed : env.initialized.1 ≠ fsblSuccess) :
    stage1 env state = { state with
      ps := env.initialized.2
      fsblStatus := env.initialized.1 + errorStage1
      stage := .err } :=
  if_pos failed

theorem stage1_done (env : BootEnv) (state : MainState) (done : env.initialized.1 = fsblSuccess) :
    stage1 env state = { state with ps := env.initialized.2, fsblStatus := env.initialized.1, stage := .stage2 } :=
  if_neg (not_not.mpr done)

theorem stage2_failed (env : BootEnv) (state : MainState)
    (failed : (env.bootDeviceInitAndValidate state.ps).1 ≠ fsblSuccess ∧
      (env.bootDeviceInitAndValidate state.ps).1 ≠ statusJtag) :
    stage2 env state = { state with
      ps := (env.bootDeviceInitAndValidate state.ps).2
      fsblStatus := (env.bootDeviceInitAndValidate state.ps).1 + errorStage2
      stage := .err } :=
  if_pos failed

theorem stage2_jtag (env : BootEnv) (state : MainState) (jtag : (env.bootDeviceInitAndValidate state.ps).1 = statusJtag) :
    stage2 env state = { state with
      ps := (env.bootDeviceInitAndValidate state.ps).2
      fsblStatus := (env.bootDeviceInitAndValidate state.ps).1
      registers := run [⟨r5UsageStatusReg, 0, r5_0StatusMask ||| r5_1StatusMask⟩] state.registers
      stage := .stage4 } :=
  (if_neg (fun failed => failed.2 jtag)).trans (if_pos jtag)

theorem stage2_done (env : BootEnv) (state : MainState) (done : (env.bootDeviceInitAndValidate state.ps).1 = fsblSuccess) :
    stage2 env state = { state with
      ps := (env.bootDeviceInitAndValidate state.ps).2
      fsblStatus := (env.bootDeviceInitAndValidate state.ps).1
      partitionNum := 1
      registers := run [⟨r5UsageStatusReg, r5_0StatusMask ||| r5_1StatusMask, 0⟩] state.registers
      stage := .stage3 } :=
  (if_neg (fun failed => failed.1 done)).trans (if_neg (by rw [done]; decide))

theorem straight_uninitialized (env : BootEnv) (registers : File) (failed : env.initialized.1 ≠ fsblSuccess) :
    straightBoot env registers =
      ⟨.lockDown (env.initialized.1 + errorStage1), env.initialized.2, registers, [], 0⟩ :=
  if_pos failed

section Device

variable (env : BootEnv) (registers : File) (done : env.initialized.1 = fsblSuccess)

include done

theorem straight_no_device (failed : (env.bootDeviceInitAndValidate env.initialized.2).1 ≠ fsblSuccess ∧
    (env.bootDeviceInitAndValidate env.initialized.2).1 ≠ statusJtag) :
    straightBoot env registers = ⟨.lockDown ((env.bootDeviceInitAndValidate env.initialized.2).1 + errorStage2),
      (env.bootDeviceInitAndValidate env.initialized.2).2, registers, [], 0⟩ :=
  (if_neg (not_not.mpr done)).trans (if_pos failed)

theorem straight_jtag (jtag : (env.bootDeviceInitAndValidate env.initialized.2).1 = statusJtag) :
    straightBoot env registers = handOver env ⟨(env.bootDeviceInitAndValidate env.initialized.2).2,
      run [⟨r5UsageStatusReg, 0, r5_0StatusMask ||| r5_1StatusMask⟩] registers, []⟩ 0 :=
  (if_neg (not_not.mpr done)).trans ((if_neg (fun failed => failed.2 jtag)).trans (if_pos jtag))

variable (device : (env.bootDeviceInitAndValidate env.initialized.2).1 = fsblSuccess)

include device

theorem straight_load_failed (failed : (deviceLoads env registers).1 ≠ .success) :
    straightBoot env registers = loadFailure (deviceLoads env registers) :=
  (if_neg (not_not.mpr done)).trans ((if_neg (fun failed => failed.1 device)).trans
    ((if_neg (by rw [device]; decide)).trans (if_pos failed)))

theorem straight_loaded (loaded : (deviceLoads env registers).1 = .success) :
    straightBoot env registers = handOver env (deviceLoads env registers).2
      (UInt32.ofNat (lastLoaded (env.bootDeviceInitAndValidate env.initialized.2).2)) :=
  (if_neg (not_not.mpr done)).trans ((if_neg (fun failed => failed.1 device)).trans
    ((if_neg (by rw [device]; decide)).trans (if_neg (not_not.mpr loaded))))

end Device

def deviceAt (env : BootEnv) (registers : File) : MainState :=
  { mainStart env.initialized.2 registers with stage := .stage2, fsblStatus := env.initialized.1 }

theorem all_loads (env : BootEnv) (plain : env.build.earlyHandoff = false) (fsblStatus : UInt32) (ps : HandoffPs)
    (registers : File) (fuel : Nat) :
    Loops.runUntil (mainStep env) (lastLoaded ps + (fuel + 2)) (loadingAt fsblStatus 1 ⟨ps, registers, []⟩) =
      afterLoads env fsblStatus (lastLoaded ps) (fuel + 1) (loadPartitions env ps registers) := by
  obtain ⟨more, reaches⟩ : ∃ more, lastLoaded ps = more + 1 :=
    ⟨lastLoaded ps - 1, (Nat.sub_add_cancel (le_max_left 1 (lastPartition ps).toNat)).symm⟩
  have run := loads_run env plain fsblStatus (lastLoaded ps) (fuel + 1) more 1 (Nat.le_refl 1) (by omega)
    ⟨ps, registers, []⟩ rfl
  rw [loadPartitions, reaches] at *
  exact run

theorem straight_boot (env : BootEnv) (plain : env.build.earlyHandoff = false) (ps : HandoffPs) (registers : File)
    (fuel : Nat) :
    Loops.runUntil (mainStep env) (lastLoaded (env.bootDeviceInitAndValidate env.initialized.2).2 + (fuel + 2) + 2)
      (mainStart ps registers) = some (straightBoot env registers) := by
  let device := env.bootDeviceInitAndValidate env.initialized.2
  let left := lastLoaded device.2 + fuel
  by_cases failed : env.initialized.1 ≠ fsblSuccess
  · have first : mainStep env (mainStart ps registers) = .inl _ := congrArg Sum.inl (stage1_failed env _ failed)
    rw [straight_uninitialized env registers failed, Loops.run_next _ _ _ _ first]
    exact Loops.run_last _ _ _ _ rfl
  · have done := not_not.mp failed
    have first : mainStep env (mainStart ps registers) = .inl (deviceAt env registers) :=
      congrArg Sum.inl (stage1_done env _ done)
    rw [Loops.run_next _ _ _ _ first]
    by_cases broken : device.1 ≠ fsblSuccess ∧ device.1 ≠ statusJtag
    · have second : mainStep env (deviceAt env registers) = .inl _ :=
        congrArg Sum.inl (stage2_failed env (deviceAt env registers) broken)
      rw [straight_no_device env registers done broken, Loops.run_next _ _ _ _ second]
      exact Loops.run_last _ _ _ _ rfl
    · by_cases jtag : device.1 = statusJtag
      · have second : mainStep env (deviceAt env registers) = .inl _ :=
          congrArg Sum.inl (stage2_jtag env (deviceAt env registers) jtag)
        rw [straight_jtag env registers done jtag, Loops.run_next _ _ _ _ second]
        exact hand_over_run env device.1 0 ⟨device.2, _, []⟩ left
      · have device_done : device.1 = fsblSuccess := by
          by_contra other
          exact broken ⟨other, jtag⟩
        have second : mainStep env (deviceAt env registers) = .inl _ :=
          congrArg Sum.inl (stage2_done env (deviceAt env registers) device_done)
        rw [Loops.run_next _ _ _ _ second]
        refine (all_loads env plain device.1 device.2 _ fuel).trans ?_
        by_cases stopped : (deviceLoads env registers).1 ≠ .success
        · rw [straight_load_failed env registers done device_done stopped]
          exact if_pos stopped
        · rw [straight_loaded env registers done device_done (not_not.mp stopped)]
          exact (if_neg stopped).trans
            (hand_over_run env device.1 (lastLoaded device.2) (deviceLoads env registers).2 fuel)

end LilacUxB.Fsbl
