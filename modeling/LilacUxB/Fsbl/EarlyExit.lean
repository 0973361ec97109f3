import LilacUxB.Fsbl.EarlyHandoff

set_option autoImplicit false

namespace LilacUxB.Fsbl

open Registers

def partitionsTo (partitionNum : Nat) : List UInt32 := (List.range' 1 partitionNum).map UInt32.ofNat

theorem partitions_next (partitionNum : UInt32) (started : 1 ≤ partitionNum.toNat) :
    partitionsTo (partitionNum.toNat - 1) ++ [partitionNum] = partitionsTo partitionNum.toNat := by
  have range := range_next partitionNum.toNat started
  rw [Nat.add_sub_cancel] at range
  rw [partitionsTo, partitionsTo, range, List.map_append, List.map_singleton, UInt32.ofNat_toNat]

theorem partitions_length (partitionNum : Nat) : (partitionsTo partitionNum).length = partitionNum := by
  rw [partitionsTo, List.length_map, List.length_range']

def EarlyOutcome (build : Build) (ps : HandoffPs) (partitionNum : UInt32) (entries : List HandoffValues) :
    HandoffStatus → Prop
  | .success => ∀ entry ∈ entries, checkEarlyHandoffCpu build (cpuOf entry) = false
  | .continuePartitionLoad => partitionNum < lastPartition ps
  | .continueOtherHandoff => ¬ partitionNum < lastPartition ps
  | _ => True

theorem early_outcome (build : Build) (platform : Platform) (ps : HandoffPs) (vector partitionNum : UInt32)
    (entries : List HandoffValues) (walk : Walk) :
    EarlyOutcome build ps partitionNum entries
      (handoffLoop build platform ps true vector partitionNum entries walk).1 := by
  induction entries generalizing walk with
  | nil => exact List.forall_mem_nil _
  | cons entry rest ih =>
      obtain ⟨no_load, no_handoff⟩ := serve_final build platform ps true vector entry walk
      rw [handoffLoop]
      dsimp only
      by_cases failed : (serve build platform ps true vector entry walk).1 ≠ .success
      · rw [if_pos failed]
        cases status : (serve build platform ps true vector entry walk).1 with
        | success => exact absurd status failed
        | continuePartitionLoad => exact absurd status no_load
        | continueOtherHandoff => exact absurd status no_handoff
        | _ => trivial
      · rw [if_neg failed]
        by_cases stops : checkEarlyHandoffCpu build (cpuOf entry) = true
        · rw [if_pos ⟨rfl, stops⟩]
          by_cases more : partitionNum < lastPartition ps
          · rw [lastPartition] at more
            rw [if_pos more]
            exact more
          · rw [lastPartition] at more
            rw [if_neg more]
            exact more
        · rw [if_neg (fun both => stops both.2)]
          have others := ih { (serve build platform ps true vector entry walk).2 with
            cpuIndexEarlyHandoff := (serve build platform ps true vector entry walk).2.cpuIndexEarlyHandoff + 1 }
          revert others
          generalize (handoffLoop build platform ps true vector partitionNum rest _).1 = status
          intro others
          cases status with
          | success => exact List.forall_mem_cons.mpr ⟨Bool.eq_false_iff.mpr stops, others⟩
          | _ => exact others

theorem early_walk_outcome (env : BootEnv) (state : MainState) (early : state.earlyHandoff = true) :
    EarlyOutcome env.build state.ps state.partitionNum (passEntries state.ps true state.cpuIndexEarlyHandoff)
      (handoffWalk env.build env.platform state.ps state.partitionNum state.earlyHandoff
        state.cpuIndexEarlyHandoff).1 := by
  rw [early]
  exact early_outcome env.build env.platform state.ps _ _ _ _

theorem exit_walked (env : BootEnv) (state : MainState) (flash : state.ps.primaryBootDevice ≠ jtagBootMode)
    (address : UInt64) (flags : UInt32) (exits : (handoffAt env state).ending = .exit address flags) :
    (systemConfig env.build (env.handoff state.handoffs) state.ps state.registers).1 = .success ∧
      (env.handoff state.handoffs).hookBeforeHandoff = true ∧
      (handoffWalk env.build env.platform state.ps state.partitionNum state.earlyHandoff
        state.cpuIndexEarlyHandoff).1 = .success := by
  unfold handoffAt at exits
  simp only [handoff, if_neg flash] at exits
  split_ifs at exits with misconfigured unhooked stopped
  exact ⟨not_not.mp misconfigured, unhooked, not_not.mp stopped⟩

theorem success_leaves (env : BootEnv) (state : MainState) : (handoffAt env state).ending ≠ .returns .success := by
  intro returned
  unfold handoffAt at returned
  simp only [handoff] at returned
  split_ifs at returned with misconfigured jtag unhooked stopped
  · exact misconfigured (Ending.returns.inj returned)
  · exact jtag_exit_leaves env.map env.platform .success returned
  · exact stopped (Ending.returns.inj returned)
  · exact final_exit_leaves env.map env.build state.ps _ .success returned
  · cases Ending.returns.inj returned

section Progress

variable (env : BootEnv)

def SameDevice (state : MainState) : Prop := ∃ fsbl, state.ps = { bootDevice env with fsbl := fsbl }

def lastOf : Nat := lastLoaded (bootDevice env)

def Progress (state : MainState) : Prop :=
  match state.stage with
  | .stage1 => state.loaded = []
  | .stage2 => state.loaded = [] ∧ state.ps = env.initialized.2
  | .stage3 => SameDevice env state ∧ 1 ≤ state.partitionNum.toNat ∧ state.partitionNum.toNat ≤ lastOf env ∧
      state.loaded = partitionsTo (state.partitionNum.toNat - 1)
  | .stage4 => SameDevice env state ∧ 1 ≤ state.partitionNum.toNat ∧ state.partitionNum.toNat ≤ lastOf env ∧
      state.loaded = partitionsTo state.partitionNum.toNat ∧
      (state.earlyHandoff = false → state.partitionNum.toNat = lastOf env)
  | .err => True

theorem device_last (state : MainState) (same : SameDevice env state) (started : 1 ≤ state.partitionNum.toNat) :
    state.partitionNum < lastPartition state.ps ↔ state.partitionNum.toNat < lastOf env := by
  obtain ⟨fsbl, same⟩ := same
  rw [same, UInt32.lt_iff_toNat_lt]
  exact ⟨lt_max_of_lt_right, fun less => (lt_max_iff.mp less).resolve_left (not_lt.mpr started)⟩

theorem next_partition (partitionNum : UInt32) (more : partitionNum.toNat < lastOf env) :
    (partitionNum + 1).toNat = partitionNum.toNat + 1 := by
  have small := last_loaded_small (bootDevice env)
  exact Words.add_exact partitionNum 1 (Nat.lt_of_le_of_lt (Nat.succ_le_of_lt more) small)

theorem progress_stage3 (state : MainState) (loading : state.stage = .stage3) (progress : Progress env state) :
    Progress env (stage3 env state) := by
  unfold Progress at progress
  rw [loading] at progress
  obtain ⟨same, started, inside, loaded⟩ := progress
  have ends := device_last env state same started
  have same_next : SameDevice env (loadedState env state) := by
    obtain ⟨fsbl, same⟩ := same
    exact ⟨(loadOne env state.partitionNum state.ps).2.fsbl, congrArg (fun ps : HandoffPs => { ps with
      fsbl := (loadOne env state.partitionNum state.ps).2.fsbl }) same⟩
  have loaded_next : (loadedState env state).loaded = partitionsTo state.partitionNum.toNat := by
    rw [← partitions_next state.partitionNum started, ← loaded]
    rfl
  by_cases failed : (loadOne env state.partitionNum state.ps).1 ≠ .success
  · rw [stage3_failed env state failed]
    trivial
  · rw [stage3_loaded env state (not_not.mp failed)]
    by_cases more : state.partitionNum < lastPartition state.ps
    · rw [if_pos more]
      by_cases early : checkEarlyHandoff env.build (loadOne env state.partitionNum state.ps).2 state.partitionNum = true
      · rw [if_pos early]
        exact ⟨same_next, started, inside, loaded_next, fun regular => Bool.noConfusion regular⟩
      · rw [if_neg early]
        have counted := next_partition env state.partitionNum (ends.mp more)
        have goes_on : (loadedState env state).stage = .stage3 := loading
        unfold Progress
        dsimp only
        rw [goes_on, counted]
        exact ⟨same_next, Nat.le_add_left 1 _, Nat.succ_le_of_lt (ends.mp more), loaded_next⟩
    · rw [if_neg more]
      exact ⟨same_next, started, inside, loaded_next,
        fun _ => Nat.le_antisymm inside (Nat.le_of_not_lt (mt ends.mpr more))⟩

theorem progress_stage4 (state next : MainState) (handing : state.stage = .stage4) (progress : Progress env state)
    (goes : stage4 env state = .inl next) : Progress env next := by
  unfold Progress at progress
  rw [handing] at progress
  obtain ⟨same, started, inside, loaded, regular⟩ := progress
  have ends := device_last env state same started
  cases ending : (handoffAt env state).ending with
  | exit address flags =>
      rw [stage4_exits env state address flags ending] at goes
      cases goes
  | returns status =>
      have failed : status ≠ .success := by
        intro success
        exact success_leaves env state (success ▸ ending)
      by_cases final : Final status
      · rw [stage4_fails env state status ending final failed] at goes
        obtain rfl := Sum.inl.inj goes
        trivial
      · have outcome := early_walk_outcome env state (goes_on_early env state status ending final)
        rw [(handoff_returns env state status ending final).1] at outcome
        cases status with
        | continuePartitionLoad =>
            have more := ends.mp outcome
            have counted := next_partition env state.partitionNum more
            unfold handoffAt at ending
            simp only [stage4, ending] at goes
            obtain rfl := Sum.inl.inj goes
            unfold Progress
            dsimp only
            rw [counted]
            exact ⟨same, Nat.le_add_left 1 _, Nat.succ_le_of_lt more, loaded⟩
        | continueOtherHandoff =>
            have last := Nat.le_antisymm inside (Nat.le_of_not_lt (mt ends.mpr outcome))
            unfold handoffAt at ending
            simp only [stage4, ending] at goes
            obtain rfl := Sum.inl.inj goes
            unfold Progress
            dsimp only
            rw [handing]
            exact ⟨same, started, inside, loaded, fun _ => last⟩
        | _ => exact absurd ⟨by simp, by simp⟩ final

theorem progress_step (flash : (env.bootDeviceInitAndValidate env.initialized.2).1 ≠ statusJtag) (state next : MainState)
    (progress : Progress env state) (goes : mainStep env state = .inl next) : Progress env next := by
  unfold mainStep at goes
  cases stage : state.stage with
  | stage1 =>
      unfold Progress at progress
      rw [stage] at goes progress
      obtain rfl := Sum.inl.inj goes
      by_cases failed : env.initialized.1 ≠ fsblSuccess
      · rw [stage1_failed env state failed]
        trivial
      · rw [stage1_done env state (not_not.mp failed)]
        exact ⟨progress, rfl⟩
  | stage2 =>
      unfold Progress at progress
      rw [stage] at goes progress
      obtain ⟨none, same⟩ := progress
      obtain rfl := Sum.inl.inj goes
      rw [← same] at flash
      by_cases failed : (env.bootDeviceInitAndValidate state.ps).1 ≠ fsblSuccess
      · rw [stage2_failed env state ⟨failed, flash⟩]
        trivial
      · rw [stage2_done env state (not_not.mp failed)]
        refine ⟨⟨(bootDevice env).fsbl, ?_⟩, Nat.le_refl 1, le_max_left 1 _, none⟩
        rw [same]
        rfl
  | stage3 =>
      rw [stage] at goes
      obtain rfl := Sum.inl.inj goes
      exact progress_stage3 env state stage progress
  | stage4 =>
      rw [stage] at goes
      exact progress_stage4 env state next stage progress goes
  | err =>
      rw [stage] at goes
      cases goes

theorem progress_path (flash : (env.bootDeviceInitAndValidate env.initialized.2).1 ≠ statusJtag) (path : Nat → MainState)
    (ps : HandoffPs) (registers : File) (starts : path 0 = mainStart ps registers) (count : Nat)
    (goes : ∀ index, index < count → mainStep env (path index) = .inl (path (index + 1))) : Progress env (path count) := by
  induction count with
  | zero =>
      rw [starts]
      exact rfl
  | succ count ih =>
      have before := ih (fun index sooner => goes index (Nat.lt_succ_of_lt sooner))
      exact progress_step env flash _ _ before (goes count (Nat.lt_succ_self count))

end Progress

structure Premature (env : BootEnv) (state : MainState) : Prop where
  handing : state.stage = .stage4
  configured : (systemConfig env.build (env.handoff state.handoffs) state.ps state.registers).1 = .success
  hooked : (env.handoff state.handoffs).hookBeforeHandoff = true
  early : state.earlyHandoff = true
  before : state.partitionNum.toNat < lastOf env
  nobody : ∀ entry ∈ passEntries state.ps true state.cpuIndexEarlyHandoff, checkEarlyHandoffCpu env.build (cpuOf entry) = false

def Exits (env : BootEnv) (state : MainState) (left : MainEnd) : Prop :=
  mainStep env state = .inr left ∧ ∃ address flags, left.ending = .exit address flags

theorem quiet_pass (build : Build) (platform : Platform) (ps : HandoffPs) (vector partitionNum : UInt32)
    (entries : List HandoffValues) (quiet : ∀ entry ∈ entries, checkEarlyHandoffCpu build (cpuOf entry) = false)
    (walk : Walk) : (handoffLoop build platform ps true vector partitionNum entries walk).1 = .success := by
  induction entries generalizing walk with
  | nil => rfl
  | cons entry rest ih =>
      obtain ⟨here, others⟩ := List.forall_mem_cons.mp quiet
      have passed : serve build platform ps true vector entry walk = (.success, walk) := by
        have unserved : serves build ps true entry = false := by
          rw [serves, here]
          rfl
        exact if_neg (Bool.eq_false_iff.mp unserved)
      have stays : ¬ (true = true ∧ checkEarlyHandoffCpu build (cpuOf entry) = true) := by
        rw [here]
        decide
      rw [handoffLoop, passed]
      dsimp only
      rw [if_neg (not_not.mpr rfl), if_neg stays]
      exact ih others _

theorem exit_handoff (env : BootEnv) (state : MainState) (left : MainEnd) (exits : Exits env state left) :
    state.stage = .stage4 ∧ left.loaded = state.loaded ∧
      ∃ address flags, (handoffAt env state).ending = .exit address flags := by
  obtain ⟨ends, address, flags, exited⟩ := exits
  unfold mainStep at ends
  cases stage : state.stage with
  | stage4 =>
      rw [stage] at ends
      cases ending : (handoffAt env state).ending with
      | exit target mode =>
          dsimp only at ends
          rw [stage4_exits env state target mode ending] at ends
          obtain rfl := Sum.inr.inj ends
          exact ⟨rfl, rfl, target, mode, rfl⟩
      | returns status =>
          have failed : status ≠ .success := by
            intro success
            exact success_leaves env state (success ▸ ending)
          unfold handoffAt at ending
          simp only [stage4, ending] at ends
          cases status with
          | success => exact absurd rfl failed
          | _ => cases ends
  | err =>
      rw [stage] at ends
      obtain rfl := Sum.inr.inj ends
      cases exited
  | _ =>
      rw [stage] at ends
      cases ends

theorem premature_exits (env : BootEnv) (state : MainState) (flash : state.ps.primaryBootDevice ≠ jtagBootMode)
    (premature : Premature env state) : ∃ left, Exits env state left ∧ left.loaded = state.loaded := by
  obtain ⟨handing, configured, hooked, early, -, nobody⟩ := premature
  have walked : (handoffWalk env.build env.platform state.ps state.partitionNum state.earlyHandoff
      state.cpuIndexEarlyHandoff).1 = .success := by
    rw [early]
    exact quiet_pass env.build env.platform state.ps _ _ _ nobody _
  cases ending : (handoffAt env state).ending with
  | exit address flags =>
      have stage : mainStep env state = stage4 env state := by
        rw [mainStep, handing]
      exact ⟨_, ⟨stage.trans (stage4_exits env state address flags ending), address, flags, rfl⟩, rfl⟩
  | returns status =>
      unfold handoffAt at ending
      simp only [handoff] at ending
      rw [if_neg (not_not.mpr configured), if_neg flash, if_neg (not_not.mpr hooked), if_neg (not_not.mpr walked)] at ending
      exact absurd ending (final_exit_leaves env.map env.build state.ps _ status)

-- A boot from flash leaves with a partition not loaded exactly in a premature early hand-off.
theorem leaves_early_exactly (env : BootEnv) (flash : (bootDevice env).primaryBootDevice ≠ jtagBootMode ∧
    (env.bootDeviceInitAndValidate env.initialized.2).1 ≠ statusJtag) (path : Nat → MainState) (ps : HandoffPs)
    (registers : File) (starts : path 0 = mainStart ps registers) (count : Nat)
    (goes : ∀ index, index < count → mainStep env (path index) = .inl (path (index + 1))) :
    (∀ left, Exits env (path count) left → left.loaded = partitionsTo (path count).partitionNum.toNat) ∧
      ((∃ left, Exits env (path count) left ∧ left.loaded ≠ partitionsTo (lastOf env)) ↔ Premature env (path count)) := by
  have progress := progress_path env flash.2 path ps registers starts count goes
  have at_handoff (handing : (path count).stage = .stage4) :
      SameDevice env (path count) ∧ (path count).partitionNum.toNat ≤ lastOf env ∧
        (path count).loaded = partitionsTo (path count).partitionNum.toNat ∧
        ((path count).earlyHandoff = false → (path count).partitionNum.toNat = lastOf env) := by
    unfold Progress at progress
    rw [handing] at progress
    exact ⟨progress.1, progress.2.2⟩
  have from_flash (same : SameDevice env (path count)) : (path count).ps.primaryBootDevice ≠ jtagBootMode := by
    obtain ⟨fsbl, same⟩ := same
    rw [same]
    exact flash.1
  refine ⟨?_, ?_, ?_⟩
  · intro left exits
    obtain ⟨handing, kept, -⟩ := exit_handoff env (path count) left exits
    exact kept.trans (at_handoff handing).2.2.1
  · rintro ⟨left, exits, missing⟩
    obtain ⟨handing, kept, address, flags, ending⟩ := exit_handoff env (path count) left exits
    obtain ⟨same, inside, loaded, regular⟩ := at_handoff handing
    have other : (path count).partitionNum.toNat ≠ lastOf env := by
      intro last
      exact missing (by rw [kept, loaded, last])
    have early : (path count).earlyHandoff = true := by
      by_contra plain
      exact other (regular (Bool.eq_false_iff.mpr plain))
    obtain ⟨configured, hooked, walked⟩ := exit_walked env (path count) (from_flash same) address flags ending
    have outcome := early_walk_outcome env (path count) early
    rw [walked] at outcome
    exact ⟨handing, configured, hooked, early, Nat.lt_of_le_of_ne inside other, outcome⟩
  · intro premature
    obtain ⟨same, -, loaded, -⟩ := at_handoff premature.handing
    obtain ⟨left, exits, kept⟩ := premature_exits env (path count) (from_flash same) premature
    refine ⟨left, exits, ?_⟩
    rw [kept, loaded]
    intro all
    have lengths := congrArg List.length all
    rw [partitions_length, partitions_length] at lengths
    exact absurd lengths premature.before.ne

-- R5-0 is handed over after its first partition; the second one, behind the application of the
-- running core, finds its entry passed, and the partition for R5-1 is never loaded.
def splitBoot : BootEnv := { earlyBoot with
  bootDeviceInitAndValidate ps := (fsblSuccess, { ps with imageHeader :=
    ⟨⟨0, 5, 0, 0, 0, 0, Vector.replicate 9 0, 0⟩,
      fun number => withChecksum { r5Partition 0x100 4 with partitionAttributes :=
        if number = 2 then 0x110 else if number = 4 then 0x610 else 0x510 }⟩ }) }

def splitPath : Nat → MainState := Loops.follow (mainStep splitBoot) (mainStart twoCores allOnes)

theorem last_partition_missed :
    ∃ left, Exits splitBoot (splitPath 6) left ∧ left.loaded = [1, 2, 3] ∧
      left.loaded ≠ partitionsTo (lastOf splitBoot) := by
  have goes : ∀ index, index < 6 → mainStep splitBoot (splitPath index) = .inl (splitPath (index + 1)) := by
    intro index within
    exact Loops.follow_next (mainStep splitBoot) _ index (by
      interval_cases index <;> decide)
  have boot := leaves_early_exactly splitBoot (by decide) splitPath twoCores allOnes rfl 6 goes
  have premature : Premature splitBoot (splitPath 6) :=
    ⟨by decide, by decide, by decide, by decide, by decide, by decide⟩
  obtain ⟨left, exits, missing⟩ := boot.2.mpr premature
  exact ⟨left, exits, (boot.1 left exits).trans (by decide), missing⟩

end LilacUxB.Fsbl
