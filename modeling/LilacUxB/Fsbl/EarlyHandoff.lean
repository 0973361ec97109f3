import LilacUxB.Fsbl.FirstPartitions

set_option autoImplicit false

namespace LilacUxB.Fsbl

open Registers

section Pass

variable (build : Build) (platform : Platform) (ps : HandoffPs) (early : Bool)

def serveStatus (entry : HandoffValues) : HandoffStatus := (serve build platform ps early 0 entry ⟨[], none, 0⟩).1

def releasedHere (entry : HandoffValues) : Bool :=
  serves build ps early entry && cpuOf entry ≠ ps.fsbl.processorID && checkSupportedCpu platform (cpuOf entry)

def leavesPass (entry : HandoffValues) : Bool :=
  serveStatus build platform ps early entry ≠ .success || (early && checkEarlyHandoffCpu build (cpuOf entry))

def passReleases : List HandoffValues → List HandoffValues
  | [] => []
  | entry :: rest =>
      (if releasedHere build platform ps early entry then [entry] else []) ++
        (if leavesPass build platform ps early entry then [] else passReleases rest)

theorem serve_alike (vector : UInt32) (entry : HandoffValues) (walk : Walk) :
    (serve build platform ps early vector entry walk).1 = serveStatus build platform ps early entry ∧
      (serve build platform ps early vector entry walk).2.changes = walk.changes ++
        (if releasedHere build platform ps early entry then [entry] else []).flatMap (releaseProgram platform.qemu vector) ∧
      (serve build platform ps early vector entry walk).2.cpuIndexEarlyHandoff = walk.cpuIndexEarlyHandoff := by
  unfold serveStatus releasedHere serve serveOther serveRunning
  by_cases served : serves build ps early entry = true
  · by_cases other : cpuOf entry ≠ ps.fsbl.processorID
    · by_cases supported : checkSupportedCpu platform (cpuOf entry) = true
      · simp [served, other, supported]
      · simp [served, other, supported]
    · simp only [served, other, if_true, if_false, decide_false, Bool.and_false, Bool.false_and, Bool.false_eq_true,
        List.flatMap_nil, List.append_nil]
      split_ifs <;> exact ⟨rfl, rfl, rfl⟩
  · simp [served]

theorem pass_changes (vector partitionNum : UInt32) (entries : List HandoffValues) (walk : Walk) :
    (handoffLoop build platform ps early vector partitionNum entries walk).2.changes = walk.changes ++
      (passReleases build platform ps early entries).flatMap (releaseProgram platform.qemu vector) := by
  induction entries generalizing walk with
  | nil => simp [handoffLoop, passReleases]
  | cons entry rest ih =>
      obtain ⟨status, changes, -⟩ := serve_alike build platform ps early vector entry walk
      rw [handoffLoop, passReleases, List.flatMap_append, ← List.append_assoc, ← changes]
      dsimp only
      rw [status]
      by_cases failed : serveStatus build platform ps early entry ≠ .success
      · have leaves : leavesPass build platform ps early entry = true := by simp [leavesPass, failed]
        rw [if_pos failed, if_pos leaves, List.flatMap_nil, List.append_nil]
      · rw [if_neg failed]
        by_cases stops : early = true ∧ checkEarlyHandoffCpu build (cpuOf entry) = true
        · have leaves : leavesPass build platform ps early entry = true := by simp [leavesPass, stops]
          rw [if_pos stops, if_pos leaves, List.flatMap_nil, List.append_nil]
          split_ifs <;> rfl
        · have stays : ¬ leavesPass build platform ps early entry = true := by
            simpa [leavesPass, failed] using stops
          rw [if_neg stops, if_neg stays]
          exact ih _

theorem pass_sublist (entries : List HandoffValues) : (passReleases build platform ps early entries).Sublist entries := by
  induction entries with
  | nil => exact List.Sublist.refl _
  | cons entry rest ih =>
      have tail : (if leavesPass build platform ps early entry then [] else passReleases build platform ps early rest).Sublist
          rest := by
        split_ifs
        · exact List.nil_sublist rest
        · exact ih
      rw [passReleases]
      by_cases released : releasedHere build platform ps early entry = true
      · rw [if_pos released]
        exact tail.cons_cons entry
      · rw [if_neg released]
        exact tail.cons entry

theorem release_serves (entries : List HandoffValues) (entry : HandoffValues)
    (among : entry ∈ passReleases build platform ps early entries) : releasedHere build platform ps early entry = true := by
  induction entries with
  | nil => cases among
  | cons first rest ih =>
      rw [passReleases] at among
      cases List.mem_append.mp among with
      | inl here =>
          by_cases released : releasedHere build platform ps early first = true
          · rw [if_pos released] at here
            rwa [List.mem_singleton.mp here]
          · rw [if_neg released] at here
            cases here
      | inr later =>
          by_cases leaves : leavesPass build platform ps early first = true
          · rw [if_pos leaves] at later
            cases later
          · rw [if_neg leaves] at later
            exact ih later

theorem release_kind (entries : List HandoffValues) (entry : HandoffValues)
    (among : entry ∈ passReleases build platform ps early entries) : checkEarlyHandoffCpu build (cpuOf entry) = early := by
  have released := release_serves build platform ps early entries entry among
  simp only [releasedHere, serves, Bool.and_eq_true, decide_eq_true_eq] at released
  cases early with
  | true => simpa using released.1.1
  | false => simpa [released.1.2] using released.1.1

theorem early_continues (vector partitionNum : UInt32) (entries : List HandoffValues) (walk : Walk)
    (room : walk.cpuIndexEarlyHandoff.toNat + entries.length < 2 ^ 32)
    (continues : (handoffLoop build platform ps true vector partitionNum entries walk).1 = .continuePartitionLoad) :
    ∃ passed, passed ≤ entries.length ∧
      (handoffLoop build platform ps true vector partitionNum entries walk).2.cpuIndexEarlyHandoff.toNat =
        walk.cpuIndexEarlyHandoff.toNat + passed ∧
      ∀ entry ∈ passReleases build platform ps true entries, entry ∈ entries.take passed := by
  induction entries generalizing walk with
  | nil =>
      rw [handoffLoop] at continues
      cases continues
  | cons entry rest ih =>
      obtain ⟨status, -, index⟩ := serve_alike build platform ps true vector entry walk
      rw [List.length_cons] at room
      have one : (1 : UInt32).toNat = 1 := rfl
      have counted : ((serve build platform ps true vector entry walk).2.cpuIndexEarlyHandoff + 1).toNat =
          walk.cpuIndexEarlyHandoff.toNat + 1 := by
        rw [index, Words.add_exact _ _ (by omega), one]
      rw [handoffLoop] at continues ⊢
      rw [passReleases]
      dsimp only at continues ⊢
      have final := serve_final build platform ps true vector entry walk
      by_cases failed : (serve build platform ps true vector entry walk).1 ≠ .success
      · rw [if_pos failed] at continues
        exact absurd continues final.1
      · rw [if_neg failed] at continues ⊢
        by_cases stops : checkEarlyHandoffCpu build (cpuOf entry) = true
        · have leaves : leavesPass build platform ps true entry = true := by simp [leavesPass, stops]
          rw [if_pos ⟨rfl, stops⟩] at continues ⊢
          by_cases more : partitionNum < ps.imageHeader.imageHeaderTable.noOfPartitions - 1
          · rw [if_pos more, if_pos leaves]
            refine ⟨1, Nat.le_add_left 1 _, counted, ?_⟩
            intro other member
            rw [List.append_nil] at member
            split_ifs at member
            · simpa using member
            · cases member
          · rw [if_neg more] at continues
            cases continues
        · have stays : ¬ leavesPass build platform ps true entry = true := by
            rw [status] at failed
            simpa [leavesPass, failed] using stops
          rw [if_neg (fun both => stops both.2)] at continues ⊢
          obtain ⟨passed, inside, sum, among⟩ := ih _ (by
            dsimp only
            omega) continues
          refine ⟨passed + 1, Nat.succ_le_succ inside, ?_, ?_⟩
          · rw [sum]
            dsimp only
            omega
          · intro other member
            rw [if_neg stays] at member
            cases List.mem_append.mp member with
            | inl here =>
                split_ifs at here
                · rw [List.mem_singleton.mp here]
                  exact List.mem_cons_self
                · cases here
            | inr later => exact List.mem_cons_of_mem entry (among other later)

end Pass

def passEntries (ps : HandoffPs) (early : Bool) (cpuIndexEarlyHandoff : UInt32) : List HandoffValues :=
  (table ps.fsbl).drop (if early then cpuIndexEarlyHandoff.toNat else 0)

def handoffReleases (build : Build) (platform : Platform) (outcomes : HandoffOutcomes) (registers : File) (ps : HandoffPs)
    (early : Bool) (cpuIndexEarlyHandoff : UInt32) : List HandoffValues :=
  if (systemConfig build outcomes ps registers).1 ≠ .success then []
  else if ps.primaryBootDevice = jtagBootMode then []
  else if ¬ outcomes.hookBeforeHandoff then []
  else passReleases build platform ps early (passEntries ps early cpuIndexEarlyHandoff)

def stateReleases (env : BootEnv) (state : MainState) : List HandoffValues :=
  if state.stage = .stage4 then
    handoffReleases env.build env.platform (env.handoff state.handoffs) state.registers state.ps state.earlyHandoff
      state.cpuIndexEarlyHandoff
  else []

def AfterReleases (env : BootEnv) (ps : HandoffPs) (exits : List Change) : Prop :=
  exits = [] ∨ exits = (jtagExit env.map env.platform).1 ∨ ∃ running, exits = (finalExit env.map env.build ps running).1

def Performs (env : BootEnv) (state : MainState) (entries : List HandoffValues) : Prop :=
  ∃ exits, AfterReleases env state.ps exits ∧
    (handoffAt env state).changes =
      runningStatus state.ps ++ (systemConfig env.build (env.handoff state.handoffs) state.ps state.registers).2 ++
        entries.flatMap (releaseProgram env.platform.qemu (vectorOf state.ps state.partitionNum)) ++ exits

theorem walk_changes (env : BootEnv) (state : MainState) :
    (handoffWalk env.build env.platform state.ps state.partitionNum state.earlyHandoff state.cpuIndexEarlyHandoff).2.changes =
      (passReleases env.build env.platform state.ps state.earlyHandoff
        (passEntries state.ps state.earlyHandoff state.cpuIndexEarlyHandoff)).flatMap
          (releaseProgram env.platform.qemu (vectorOf state.ps state.partitionNum)) :=
  pass_changes env.build env.platform state.ps state.earlyHandoff (vectorOf state.ps state.partitionNum)
    state.partitionNum _ ⟨[], none, state.cpuIndexEarlyHandoff⟩

theorem handoff_performs (env : BootEnv) (state : MainState) (handing : state.stage = .stage4) :
    Performs env state (stateReleases env state) := by
  have walked := walk_changes env state
  unfold Performs stateReleases handoffReleases handoffAt
  rw [if_pos handing]
  simp only [handoff]
  by_cases misconfigured : (systemConfig env.build (env.handoff state.handoffs) state.ps state.registers).1 ≠ .success
  · refine ⟨[], .inl rfl, ?_⟩
    rw [if_pos misconfigured, if_pos misconfigured, List.flatMap_nil, List.append_nil, List.append_nil]
  · rw [if_neg misconfigured, if_neg misconfigured]
    by_cases jtag : state.ps.primaryBootDevice = jtagBootMode
    · refine ⟨(jtagExit env.map env.platform).1, .inr (.inl rfl), ?_⟩
      rw [if_pos jtag, if_pos jtag, List.flatMap_nil, List.append_nil]
    · rw [if_neg jtag, if_neg jtag]
      by_cases unhooked : ¬ (env.handoff state.handoffs).hookBeforeHandoff = true
      · refine ⟨[], .inl rfl, ?_⟩
        rw [if_pos unhooked, if_pos unhooked, List.flatMap_nil, List.append_nil, List.append_nil]
      · rw [if_neg unhooked, if_neg unhooked, walked]
        by_cases stopped : (handoffWalk env.build env.platform state.ps state.partitionNum state.earlyHandoff
            state.cpuIndexEarlyHandoff).1 ≠ .success
        · refine ⟨[], .inl rfl, ?_⟩
          rw [if_pos stopped, List.append_nil]
        · refine ⟨(finalExit env.map env.build state.ps (handoffWalk env.build env.platform state.ps state.partitionNum
            state.earlyHandoff state.cpuIndexEarlyHandoff).2.running).1, .inr (.inr ⟨_, rfl⟩), ?_⟩
          rw [if_neg stopped]

theorem state_releases_cases (env : BootEnv) (state : MainState) :
    stateReleases env state = [] ∨
      stateReleases env state = passReleases env.build env.platform state.ps state.earlyHandoff
        (passEntries state.ps state.earlyHandoff state.cpuIndexEarlyHandoff) := by
  unfold stateReleases handoffReleases
  by_cases handing : state.stage = .stage4
  · rw [if_pos handing]
    by_cases misconfigured : (systemConfig env.build (env.handoff state.handoffs) state.ps state.registers).1 ≠ .success
    · exact .inl (if_pos misconfigured)
    · rw [if_neg misconfigured]
      by_cases jtag : state.ps.primaryBootDevice = jtagBootMode
      · exact .inl (if_pos jtag)
      · rw [if_neg jtag]
        by_cases unhooked : ¬ (env.handoff state.handoffs).hookBeforeHandoff = true
        · exact .inl (if_pos unhooked)
        · exact .inr (if_neg unhooked)
  · exact .inl (if_neg handing)

theorem releases_sublist (env : BootEnv) (state : MainState) :
    (stateReleases env state).Sublist (passEntries state.ps state.earlyHandoff state.cpuIndexEarlyHandoff) := by
  cases state_releases_cases env state with
  | inl nothing =>
      rw [nothing]
      exact List.nil_sublist _
  | inr passed =>
      rw [passed]
      exact pass_sublist env.build env.platform state.ps state.earlyHandoff _

theorem releases_kind (env : BootEnv) (state : MainState) (entry : HandoffValues) (among : entry ∈ stateReleases env state) :
    checkEarlyHandoffCpu env.build (cpuOf entry) = state.earlyHandoff := by
  cases state_releases_cases env state with
  | inl nothing =>
      rw [nothing] at among
      cases among
  | inr passed =>
      rw [passed] at among
      exact release_kind env.build env.platform state.ps state.earlyHandoff _ entry among

section History

variable (env : BootEnv)

def bootDevice : HandoffPs := (env.bootDeviceInitAndValidate env.initialized.2).2

def Loaded (state : MainState) : Prop := ∃ calls, state.ps.fsbl = loadAll env.map (bootDevice env).fsbl calls

def Behind (released : List UInt32) (state : MainState) : Prop :=
  ∀ cpu ∈ released, cpu ∈ ((table state.ps.fsbl).take state.cpuIndexEarlyHandoff.toNat).map cpuOf

def AllEarly (released : List UInt32) : Prop := ∀ cpu ∈ released, checkEarlyHandoffCpu env.build cpu = true

def History (released : List UInt32) (state : MainState) : Prop :=
  released.Nodup ∧
    match state.stage with
    | .stage1 => released = []
    | .stage2 => released = [] ∧ state.ps = env.initialized.2
    | .stage3 => Loaded env state ∧ AllEarly env released ∧ Behind released state
    | .stage4 => Loaded env state ∧ AllEarly env released ∧ (state.earlyHandoff = true → Behind released state)
    | .err => True

theorem handoff_returns (state : MainState) (status : HandoffStatus) (returned : (handoffAt env state).ending = .returns status)
    (goes : ¬ Final status) :
    (handoffWalk env.build env.platform state.ps state.partitionNum state.earlyHandoff state.cpuIndexEarlyHandoff).1 = status ∧
      (handoffAt env state).cpuIndexEarlyHandoff =
        (handoffWalk env.build env.platform state.ps state.partitionNum state.earlyHandoff
          state.cpuIndexEarlyHandoff).2.cpuIndexEarlyHandoff := by
  unfold handoffAt at returned ⊢
  simp only [handoff] at returned ⊢
  split_ifs at returned with misconfigured jtag unhooked stopped
  · obtain rfl := Ending.returns.inj returned
    exact absurd (config_final env.build _ state.ps state.registers) goes
  · exact absurd returned (jtag_exit_leaves env.map env.platform status)
  · rw [if_neg misconfigured, if_neg jtag, if_neg (not_not.mpr unhooked), if_pos stopped]
    exact ⟨Ending.returns.inj returned, rfl⟩
  · exact absurd returned (final_exit_leaves env.map env.build state.ps _ status)
  · obtain rfl := Ending.returns.inj returned
    exact absurd ⟨by simp, by simp⟩ goes

theorem goes_on_early (state : MainState) (status : HandoffStatus) (returned : (handoffAt env state).ending = .returns status)
    (goes : ¬ Final status) : state.earlyHandoff = true := by
  by_contra regular
  have plain := Bool.eq_false_iff.mpr regular
  unfold handoffAt at returned
  rw [plain] at returned
  exact goes (regular_ending env.map env.build env.platform _ state.registers state.ps _ _ status returned).1

theorem behind_after (released : List UInt32) (state : MainState)
    (small : (table state.ps.fsbl).length ≤ cpuCodes.length) (early : state.earlyHandoff = true)
    (behind : Behind released state) (returned : (handoffAt env state).ending = .returns .continuePartitionLoad) :
    ∀ cpu ∈ released ++ (stateReleases env state).map cpuOf,
      cpu ∈ ((table state.ps.fsbl).take (handoffAt env state).cpuIndexEarlyHandoff.toNat).map cpuOf := by
  obtain ⟨continues, index⟩ := handoff_returns env state _ returned (fun final => final.1 rfl)
  have codes : cpuCodes.length = 8 := rfl
  have within := Words.below state.cpuIndexEarlyHandoff
  rw [early] at continues index
  obtain ⟨passed, -, sum, among⟩ := early_continues env.build env.platform state.ps (vectorOf state.ps state.partitionNum)
    state.partitionNum (passEntries state.ps true state.cpuIndexEarlyHandoff) ⟨[], none, state.cpuIndexEarlyHandoff⟩
    (by
      rw [passEntries, if_pos rfl, List.length_drop]
      dsimp only
      omega) continues
  have after : (handoffAt env state).cpuIndexEarlyHandoff.toNat = state.cpuIndexEarlyHandoff.toNat + passed := by
    rw [index]
    exact sum
  intro cpu member
  rw [after, List.take_add, List.map_append]
  cases List.mem_append.mp member with
  | inl before => exact List.mem_append_left _ (behind cpu before)
  | inr now =>
      obtain ⟨entry, released, rfl⟩ := List.mem_map.mp now
      refine List.mem_append_right _ (List.mem_map_of_mem ?_)
      cases state_releases_cases env state with
      | inl nothing =>
          rw [nothing] at released
          cases released
      | inr all =>
          rw [all, early] at released
          exact among entry released

theorem all_early (released : List UInt32) (state : MainState) (before : AllEarly env released)
    (handing : state.earlyHandoff = true) : AllEarly env (released ++ (stateReleases env state).map cpuOf) := by
  intro cpu member
  cases List.mem_append.mp member with
  | inl earlier => exact before cpu earlier
  | inr now =>
      obtain ⟨entry, among, rfl⟩ := List.mem_map.mp now
      exact (releases_kind env state entry among).trans handing

theorem history_start (ps : HandoffPs) (registers : File) : History env [] (mainStart ps registers) :=
  ⟨List.nodup_nil, rfl⟩

variable (fresh : (bootDevice env).fsbl.handoffCpuNo = 0) (real : (bootDevice env).fsbl.processorID ∈ loaderCpus)

include fresh real

theorem loaded_table (state : MainState) (loaded : Loaded env state) :
    ((table state.ps.fsbl).map cpuOf).Nodup ∧ (table state.ps.fsbl).length ≤ cpuCodes.length := by
  obtain ⟨calls, same⟩ := loaded
  rw [same]
  refine ⟨loaded_distinct env.map _ calls fresh real, ?_⟩
  rw [run_table env.map _ calls fresh real]
  exact FirstCome.settled_bound cpuOf _ cpuCodes (settled_known env.map _ calls real)

theorem releases_new (released : List UInt32) (state : MainState) (history : History env released state) :
    (released ++ (stateReleases env state).map cpuOf).Nodup := by
  obtain ⟨once, stage⟩ := history
  by_cases handing : state.stage = .stage4
  · rw [handing] at stage
    obtain ⟨loaded, early, behind⟩ := stage
    have distinct := (loaded_table env fresh real state loaded).1
    have part := List.Sublist.map cpuOf (releases_sublist env state)
    refine List.nodup_append'.mpr ⟨once, ?_, ?_⟩
    · exact (part.trans ((List.drop_sublist _ _).map cpuOf)).nodup distinct
    · intro cpu before now
      by_cases again : state.earlyHandoff = true
      · rw [passEntries, if_pos again] at part
        rw [← List.take_append_drop state.cpuIndexEarlyHandoff.toNat (table state.ps.fsbl), List.map_append] at distinct
        exact (List.nodup_append'.mp distinct).2.2 (behind again cpu before) (part.subset now)
      · obtain ⟨entry, among, rfl⟩ := List.mem_map.mp now
        have kind := releases_kind env state entry among
        rw [early _ before] at kind
        exact again kind.symm
  · have nothing : stateReleases env state = [] := if_neg handing
    rw [nothing, List.map_nil, List.append_nil]
    exact once

theorem load_extends (state : MainState) (loaded : Loaded env state) :
    Loaded env (loadedState env state) ∧ table state.ps.fsbl <+: table (loadedState env state).ps.fsbl := by
  obtain ⟨calls, same⟩ := loaded
  let call : LoadCall := ⟨env.load state.partitionNum, headerAt state.ps state.partitionNum⟩
  have next : (loadedState env state).ps.fsbl = loadAll env.map (bootDevice env).fsbl (calls ++ [call]) := by
    rw [load_all_next, ← same]
    rfl
  refine ⟨⟨_, next⟩, ?_⟩
  rw [next, same, run_table env.map _ _ fresh real, run_table env.map _ _ fresh real, offers_append]
  exact FirstCome.settled_extends cpuOf _ _

theorem history_stage3 (released : List UInt32) (state : MainState) (loading : state.stage = .stage3)
    (history : History env released state) : History env released (stage3 env state) := by
  obtain ⟨once, stage⟩ := history
  rw [loading] at stage
  obtain ⟨loaded, early, behind⟩ := stage
  obtain ⟨loaded_next, longer⟩ := load_extends env fresh real state loaded
  have behind_next : Behind released (loadedState env state) := by
    intro cpu member
    exact ((longer.take _).map cpuOf).subset (behind cpu member)
  by_cases failed : (loadOne env state.partitionNum state.ps).1 ≠ .success
  · rw [stage3_failed env state failed]
    exact ⟨once, trivial⟩
  · rw [stage3_loaded env state (not_not.mp failed)]
    split_ifs
    · exact ⟨once, loaded_next, early, fun _ => behind_next⟩
    · refine ⟨once, ?_⟩
      have goes_on : (loadedState env state).stage = .stage3 := loading
      dsimp only
      rw [goes_on]
      exact ⟨loaded_next, early, behind_next⟩
    · exact ⟨once, loaded_next, early, fun _ => behind_next⟩

theorem history_stage4 (released : List UInt32) (state next : MainState) (handing : state.stage = .stage4)
    (history : History env released state) (goes : stage4 env state = .inl next) :
    History env (released ++ (stateReleases env state).map cpuOf) next := by
  have once := releases_new env fresh real released state history
  obtain ⟨-, stage⟩ := history
  rw [handing] at stage
  obtain ⟨loaded, early, behind⟩ := stage
  cases ending : (handoffAt env state).ending with
  | exit address flags =>
      rw [stage4_exits env state address flags ending] at goes
      cases goes
  | returns status =>
      by_cases final : Final status
      · by_cases success : status = .success
        · subst success
          unfold handoffAt at ending
          simp only [stage4, ending] at goes
          cases goes
        · rw [stage4_fails env state status ending final success] at goes
          obtain rfl := Sum.inl.inj goes
          exact ⟨once, trivial⟩
      · have handing_early := goes_on_early env state status ending final
        have early_next := all_early env released state early handing_early
        have small := (loaded_table env fresh real state loaded).2
        have after := behind_after env released state small handing_early (behind handing_early)
        cases status with
        | continuePartitionLoad =>
            have passed := after ending
            unfold handoffAt at ending passed
            simp only [stage4, ending] at goes
            obtain rfl := Sum.inl.inj goes
            exact ⟨once, loaded, early_next, passed⟩
        | continueOtherHandoff =>
            unfold handoffAt at ending
            simp only [stage4, ending] at goes
            obtain rfl := Sum.inl.inj goes
            refine ⟨once, ?_⟩
            dsimp only
            rw [handing]
            exact ⟨loaded, early_next, fun again => absurd again (by simp)⟩
        | _ => exact absurd ⟨by simp, by simp⟩ final

theorem history_step (released : List UInt32) (state next : MainState) (history : History env released state)
    (goes : mainStep env state = .inl next) : History env (released ++ (stateReleases env state).map cpuOf) next := by
  have quiet (other : state.stage ≠ .stage4) : released ++ (stateReleases env state).map cpuOf = released := by
    have nothing : stateReleases env state = [] := if_neg other
    rw [nothing, List.map_nil, List.append_nil]
  unfold mainStep at goes
  cases stage : state.stage with
  | stage1 =>
      rw [quiet (by rw [stage]; decide)]
      obtain ⟨once, none⟩ := history
      rw [stage] at goes none
      obtain rfl := Sum.inl.inj goes
      by_cases failed : env.initialized.1 ≠ fsblSuccess
      · rw [stage1_failed env state failed]
        exact ⟨once, trivial⟩
      · rw [stage1_done env state (not_not.mp failed)]
        exact ⟨once, none, rfl⟩
  | stage2 =>
      rw [quiet (by rw [stage]; decide)]
      obtain ⟨once, kept⟩ := history
      rw [stage] at goes kept
      obtain ⟨none, same⟩ := kept
      obtain rfl := Sum.inl.inj goes
      subst none
      have found : Loaded env { state with ps := (env.bootDeviceInitAndValidate state.ps).2 } := by
        rw [same]
        exact ⟨[], rfl⟩
      by_cases failed : (env.bootDeviceInitAndValidate state.ps).1 ≠ fsblSuccess ∧
          (env.bootDeviceInitAndValidate state.ps).1 ≠ statusJtag
      · rw [stage2_failed env state failed]
        exact ⟨once, trivial⟩
      · by_cases jtag : (env.bootDeviceInitAndValidate state.ps).1 = statusJtag
        · rw [stage2_jtag env state jtag]
          exact ⟨once, found, by simp [AllEarly], by simp [Behind]⟩
        · have done : (env.bootDeviceInitAndValidate state.ps).1 = fsblSuccess := by
            by_contra other
            exact failed ⟨other, jtag⟩
          rw [stage2_done env state done]
          exact ⟨once, found, by simp [AllEarly], by simp [Behind]⟩
  | stage3 =>
      rw [quiet (by rw [stage]; decide)]
      rw [stage] at goes
      obtain rfl := Sum.inl.inj goes
      exact history_stage3 env fresh real released state stage history
  | stage4 =>
      rw [stage] at goes
      exact history_stage4 env fresh real released state next stage history goes
  | err =>
      rw [stage] at goes
      cases goes

def releasedBefore (path : Nat → MainState) (count : Nat) : List UInt32 :=
  (List.range count).flatMap (fun index => (stateReleases env (path index)).map cpuOf)

theorem history_path (path : Nat → MainState) (ps : HandoffPs) (registers : File) (starts : path 0 = mainStart ps registers)
    (count : Nat) (goes : ∀ index, index < count → mainStep env (path index) = .inl (path (index + 1))) :
    History env (releasedBefore env path count) (path count) := by
  induction count with
  | zero =>
      rw [starts]
      exact history_start env ps registers
  | succ count ih =>
      have before := ih (fun index sooner => goes index (Nat.lt_succ_of_lt sooner))
      have next := history_step env fresh real _ _ _ before (goes count (Nat.lt_succ_self count))
      rw [releasedBefore, List.range_succ, List.flatMap_append, List.flatMap_singleton]
      exact next

end History

theorem released_once (env : BootEnv) (fresh : (bootDevice env).fsbl.handoffCpuNo = 0)
    (real : (bootDevice env).fsbl.processorID ∈ loaderCpus) (ps : HandoffPs) (registers : File) (path : Nat → MainState)
    (starts : path 0 = mainStart ps registers) (count : Nat)
    (goes : ∀ index, index < count → mainStep env (path index) = .inl (path (index + 1))) :
    (releasedBefore env path (count + 1)).Nodup ∧
      ∀ index, (path index).stage = .stage4 → Performs env (path index) (stateReleases env (path index)) := by
  have history := history_path env fresh real path ps registers starts count goes
  refine ⟨?_, fun index handing => handoff_performs env (path index) handing⟩
  rw [releasedBefore, List.range_succ, List.flatMap_append, List.flatMap_singleton]
  exact releases_new env fresh real _ _ history

def earlyBoot : BootEnv where
  map := twoGigabytes
  build := { unprotected with earlyHandoff := true }
  platform := zu9
  initialized := (fsblSuccess, { twoCores with fsbl := a53Loader })
  bootDeviceInitAndValidate ps := (fsblSuccess, { ps with imageHeader :=
    ⟨⟨0, 3, 0, 0, 0, 0, Vector.replicate 9 0, 0⟩,
      fun number => withChecksum { r5Partition 0x100 4 with partitionAttributes := if number = 1 then 0x510 else 0x610 }⟩ })
  load _ := allSucceed
  handoff _ := allConfigured

def earlyPath : Nat → MainState := Loops.follow (mainStep earlyBoot) (mainStart twoCores allOnes)

theorem both_r5_once :
    releasedBefore earlyBoot earlyPath 7 = [destCpuR5_0, destCpuR5_1] ∧
      (releasedBefore earlyBoot earlyPath 7).Nodup := by
  have goes : ∀ index, index < 6 → mainStep earlyBoot (earlyPath index) = .inl (earlyPath (index + 1)) := by
    intro index within
    exact Loops.follow_next (mainStep earlyBoot) _ index (by
      interval_cases index <;> decide)
  exact ⟨by decide, (released_once earlyBoot rfl (by decide) twoCores allOnes earlyPath rfl 6 goes).1⟩

end LilacUxB.Fsbl
