import LilacUxB.Fsbl.SafeRelease

set_option autoImplicit false

namespace LilacUxB.Fsbl

open Registers

def execStateMixed (ps : HandoffPs) (entry : HandoffValues) : Bool :=
  (ps.a53ExecState = execStAA64 && execStateOf entry = execStAA32) ||
    (ps.a53ExecState = execStAA32 && execStateOf entry = execStAA64)

def Servable (platform : Platform) (ps : HandoffPs) (entry : HandoffValues) : Prop :=
  if cpuOf entry ≠ ps.fsbl.processorID then checkSupportedCpu platform (cpuOf entry) = true ∧ cpuOf entry ∈ loaderCpus
  else execStateMixed ps entry = false

instance (platform : Platform) (ps : HandoffPs) (entry : HandoffValues) : Decidable (Servable platform ps entry) := by
  unfold Servable
  infer_instance

theorem a53_real (cpu : UInt32) (core : A53Core) (own : a53Core cpu = some core) : cpu ∈ loaderCpus := by
  rcases a53_core_cases cpu core own with ⟨rfl, _⟩ | ⟨rfl, _⟩ | ⟨rfl, _⟩ | ⟨rfl, _⟩ <;> decide

theorem release_known (qemu : Bool) (entry : HandoffValues) :
    (setCpuPwrSettings qemu entry.cpuSettings cpuSwrst).1 = .success ↔ cpuOf entry ∈ loaderCpus := by
  have flagged : cpuSwrst &&& cpuSwrst ≠ 0 := by decide
  simp only [setCpuPwrSettings, if_pos flagged, cpuRelease, ← cpuOf.eq_1]
  cases own : a53Core (cpuOf entry) with
  | some core => exact iff_of_true rfl (a53_real _ core own)
  | none =>
      dsimp only
      split_ifs with r5_0 r5_1 r5_L
      · simp [r5_0, loaderCpus]
      · simp [r5_1, loaderCpus]
      · simp [r5_L, loaderCpus]
      · simp only [false_iff]
        intro real
        rcases real_cases _ real with known | known | known | known | known | known | known <;>
          first | contradiction | (rw [known] at own; contradiction)

def Plain (build : Build) (entries : List HandoffValues) : Prop :=
  ∀ entry ∈ entries, checkEarlyHandoffCpu build (cpuOf entry) = false

theorem serve_plain (build : Build) (platform : Platform) (ps : HandoffPs) (vector : UInt32) (entry : HandoffValues)
    (walk : Walk) (plain : checkEarlyHandoffCpu build (cpuOf entry) = false) :
    (Servable platform ps entry ∧ serve build platform ps false vector entry walk = (.success,
        if cpuOf entry ≠ ps.fsbl.processorID then
          { walk with changes := walk.changes ++ releaseProgram platform.qemu vector entry }
        else { walk with running := some (entry.handoffAddress, execStateOf entry) })) ∨
      (¬ Servable platform ps entry ∧ (serve build platform ps false vector entry walk).1 ≠ .success) := by
  have served : serves build ps false entry = true := by simp [serves, plain]
  rw [serve, if_pos served]
  by_cases other : cpuOf entry ≠ ps.fsbl.processorID
  · simp only [Servable, if_pos other, serveOther]
    by_cases supported : checkSupportedCpu platform (cpuOf entry) = true
    · by_cases real : cpuOf entry ∈ loaderCpus
      · left
        simp [supported, real, (release_known platform.qemu entry).mpr real]
      · right
        have failed := mt (release_known platform.qemu entry).mp real
        simp [supported, real, failed]
    · right
      simp [supported]
  · simp only [Servable, if_neg other, serveRunning]
    by_cases mixed : execStateMixed ps entry = true
    · right
      have refused : (ps.a53ExecState = execStAA64 ∧ execStateOf entry = execStAA32) ∨
          (ps.a53ExecState = execStAA32 ∧ execStateOf entry = execStAA64) := by
        simpa [execStateMixed] using mixed
      simp [mixed, if_pos refused]
    · left
      have agrees : ¬ ((ps.a53ExecState = execStAA64 ∧ execStateOf entry = execStAA32) ∨
          (ps.a53ExecState = execStAA32 ∧ execStateOf entry = execStAA64)) := by
        simpa [execStateMixed] using mixed
      simp [mixed, if_neg agrees]

def ownEntry (ps : HandoffPs) (entry : HandoffValues) : Bool := cpuOf entry = ps.fsbl.processorID

def runningOf (ps : HandoffPs) (entries : List HandoffValues) (found : Option (UInt64 × UInt32)) :
    Option (UInt64 × UInt32) :=
  entries.foldl (fun last entry => if ownEntry ps entry then some (entry.handoffAddress, execStateOf entry) else last) found

theorem plain_loop (build : Build) (platform : Platform) (ps : HandoffPs) (vector partitionNum : UInt32)
    (entries : List HandoffValues) (plain : Plain build entries) (walk : Walk) :
    ((∀ entry ∈ entries, Servable platform ps entry) ∧
        ∃ index, handoffLoop build platform ps false vector partitionNum entries walk = (.success,
          ⟨walk.changes ++ (entries.filter (fun entry => !ownEntry ps entry)).flatMap (releaseProgram platform.qemu vector),
            runningOf ps entries walk.running, index⟩)) ∨
      ((∃ entry ∈ entries, ¬ Servable platform ps entry) ∧
        (handoffLoop build platform ps false vector partitionNum entries walk).1 ≠ .success) := by
  induction entries generalizing walk with
  | nil => exact .inl ⟨List.forall_mem_nil _, walk.cpuIndexEarlyHandoff, by simp [handoffLoop, runningOf]⟩
  | cons entry rest ih =>
      have first := plain entry List.mem_cons_self
      have later : Plain build rest := fun other member => plain other (List.mem_cons_of_mem _ member)
      rw [handoffLoop]
      cases serve_plain build platform ps vector entry walk first with
      | inr failed =>
          right
          refine ⟨⟨entry, List.mem_cons_self, failed.1⟩, ?_⟩
          simpa only [if_pos failed.2] using failed.2
      | inl passed =>
          obtain ⟨servable, served⟩ := passed
          simp only [served, ne_eq, not_true_eq_false, if_false, Bool.false_eq_true, false_and]
          cases ih later _ with
          | inr stopped =>
              obtain ⟨⟨other, member, refused⟩, status⟩ := stopped
              exact .inr ⟨⟨other, List.mem_cons_of_mem _ member, refused⟩, status⟩
          | inl finished =>
              obtain ⟨all, index, result⟩ := finished
              refine .inl ⟨List.forall_mem_cons.mpr ⟨servable, all⟩, index, result.trans ?_⟩
              by_cases own : cpuOf entry = ps.fsbl.processorID
              · simp [ownEntry, own, runningOf]
              · simp [ownEntry, own, runningOf]

def ownEnding (map : MemoryMap) (ps : HandoffPs) : Ending :=
  match (table ps.fsbl).find? (ownEntry ps) with
  | some entry =>
      .exit (ptrSize map entry.handoffAddress)
        (if execStateOf entry = execStAA32 then handoffExit32Flag else handoffExitFlag)
  | none => .exit (ptrSize map 0) noHandoffExit

theorem running_none (ps : HandoffPs) (entries : List HandoffValues) (found : Option (UInt64 × UInt32))
    (absent : ∀ entry ∈ entries, ownEntry ps entry = false) : runningOf ps entries found = found := by
  induction entries generalizing found with
  | nil => rfl
  | cons entry rest ih =>
      obtain ⟨here, later⟩ := List.forall_mem_cons.mp absent
      rw [runningOf, List.foldl_cons, here]
      exact ih found later

theorem running_first (ps : HandoffPs) (entries : List HandoffValues) (distinct : (entries.map cpuOf).Nodup) :
    runningOf ps entries none =
      (entries.find? (ownEntry ps)).map (fun entry => (entry.handoffAddress, execStateOf entry)) := by
  induction entries with
  | nil => rfl
  | cons entry rest ih =>
      obtain ⟨fresh, others⟩ := List.nodup_cons.mp distinct
      cases own : ownEntry ps entry with
      | false =>
          rw [List.find?_cons_of_neg (Bool.eq_false_iff.mp own), runningOf, List.foldl_cons, own]
          exact ih others
      | true =>
          rw [List.find?_cons_of_pos own, runningOf, List.foldl_cons, own]
          apply running_none
          intro other member
          apply Bool.eq_false_iff.mpr
          intro also
          have same : cpuOf other = cpuOf entry := (of_decide_eq_true also).trans (of_decide_eq_true own).symm
          exact fresh (same ▸ List.mem_map_of_mem member)

theorem final_ending (map : MemoryMap) (build : Build) (ps : HandoffPs) (distinct : ((table ps.fsbl).map cpuOf).Nodup) :
    (finalExit map build ps (runningOf ps (table ps.fsbl) none)).2 = ownEnding map ps := by
  rw [running_first ps _ distinct, ownEnding]
  cases (table ps.fsbl).find? (ownEntry ps) <;> rfl

theorem served_cores_run (platform : Platform) (ps : HandoffPs) (partitionNum : UInt32) (before after : List Change)
    (first : Elsewhere before) (last : Elsewhere after) (distinct : ((table ps.fsbl).map cpuOf).Nodup)
    (registers : File) (entry : HandoffValues) (listed : entry ∈ table ps.fsbl) (other : ownEntry ps entry = false)
    (real : cpuOf entry ∈ loaderCpus) (alone : Alone ps.fsbl entry) :
    Meets (run (before ++ ((table ps.fsbl).filter (fun next => !ownEntry ps next)).flatMap
        (releaseProgram platform.qemu (vectorOf ps partitionNum)) ++ after) registers)
      (entryDemands (vectorOf ps partitionNum) entry ++ releasedDemands (cpuOf entry)) := by
  have taken : entry ∈ (table ps.fsbl).filter (fun next => !ownEntry ps next) :=
    List.mem_filter.mpr ⟨listed, by rw [other]; rfl⟩
  obtain ⟨sooner, later, _, late, split⟩ := entry_split platform ps partitionNum before after _ first last
    List.filter_sublist distinct entry real alone taken
  have prepares := program_prepares platform.qemu _ (vector_bit ps partitionNum) entry real
  intro demand asked
  have own := demands_own (vectorOf ps partitionNum) entry real demand asked
  have stays := (left_alone _ _ late).2 demand own
  have settled : establishes demand.part demand.value (programOf platform.qemu (vectorOf ps partitionNum) entry).whole = true := by
    cases List.mem_append.mp asked with
    | inl entering =>
        exact establishes_kept _ _ _ _ (List.all_eq_true.mp prepares.settles demand entering)
          (List.all_eq_true.mp prepares.stays demand entering)
    | inr leaving => exact List.all_eq_true.mp prepares.released demand leaving
  rw [split, List.append_assoc]
  exact run_established _ _ _ _ (establishes_append sooner _ _ _ (establishes_kept _ later _ _ settled stays))

def HandoffReady (build : Build) (platform : Platform) (outcomes : HandoffOutcomes) (registers : File) (ps : HandoffPs) : Prop :=
  (systemConfig build outcomes ps registers).1 = .success ∧ outcomes.hookBeforeHandoff = true ∧
    ∀ entry ∈ table ps.fsbl, Servable platform ps entry

section Regular

variable (map : MemoryMap) (build : Build) (platform : Platform) (outcomes : HandoffOutcomes) (registers : File)
  (ps : HandoffPs) (partitionNum index : UInt32) (plain : Plain build (table ps.fsbl))
  (flash : ps.primaryBootDevice ≠ jtagBootMode)

include plain flash

theorem ready_handoff (distinct : ((table ps.fsbl).map cpuOf).Nodup)
    (ready : HandoffReady build platform outcomes registers ps) :
    (handoff map build platform outcomes registers ps partitionNum false index).ending = ownEnding map ps ∧
      ∀ entry ∈ table ps.fsbl, ownEntry ps entry = false → Alone ps.fsbl entry →
        Meets (run (handoff map build platform outcomes registers ps partitionNum false index).changes registers)
          (entryDemands (vectorOf ps partitionNum) entry ++ releasedDemands (cpuOf entry)) := by
  obtain ⟨configured, hooked, all⟩ := ready
  have walk : _ ∨ (_ ∧ (handoffWalk build platform ps partitionNum false index).1 ≠ .success) :=
    plain_loop build platform ps (vectorOf ps partitionNum) partitionNum (table ps.fsbl) plain ⟨[], none, index⟩
  cases walk with
  | inr stopped =>
      obtain ⟨⟨entry, member, refused⟩, _⟩ := stopped
      exact absurd (all entry member) refused
  | inl finished =>
      obtain ⟨_, next, walked⟩ := finished
      have walked : handoffWalk build platform ps partitionNum false index = _ := walked
      have outcome : handoff map build platform outcomes registers ps partitionNum false index =
          ⟨runningStatus ps ++ (systemConfig build outcomes ps registers).2 ++
            ((table ps.fsbl).filter (fun next => !ownEntry ps next)).flatMap
              (releaseProgram platform.qemu (vectorOf ps partitionNum)) ++
            (finalExit map build ps (runningOf ps (table ps.fsbl) none)).1,
            (finalExit map build ps (runningOf ps (table ps.fsbl) none)).2, next⟩ := by
        simp only [handoff, configured, hooked, walked, flash, ne_eq, not_true_eq_false, if_false, List.nil_append]
      rw [outcome]
      refine ⟨final_ending map build ps distinct, ?_⟩
      intro entry listed other alone
      have servable := all entry listed
      rw [Servable, if_pos (of_decide_eq_false other)] at servable
      exact served_cores_run platform ps partitionNum _ _
        (elsewhere_append _ _ (running_status_elsewhere ps) (system_config_elsewhere build outcomes ps registers))
        (final_exit_elsewhere map build ps _) distinct registers entry listed other servable.2 alone

theorem unready_handoff (unready : ¬ HandoffReady build platform outcomes registers ps) :
    ∃ status, (handoff map build platform outcomes registers ps partitionNum false index).ending = .returns status ∧
      status ≠ .success := by
  by_cases configured : (systemConfig build outcomes ps registers).1 = .success
  · by_cases hooked : outcomes.hookBeforeHandoff = true
    · have walk : _ ∨ (_ ∧ (handoffWalk build platform ps partitionNum false index).1 ≠ .success) :=
        plain_loop build platform ps (vectorOf ps partitionNum) partitionNum (table ps.fsbl) plain ⟨[], none, index⟩
      cases walk with
      | inl finished => exact absurd ⟨configured, hooked, finished.1⟩ unready
      | inr stopped =>
          refine ⟨_, ?_, stopped.2⟩
          simp only [handoff, configured, hooked, flash, ne_eq, not_true_eq_false, if_false, stopped.2,
            not_false_eq_true, if_true]
    · refine ⟨.errorHookBeforeHandoff, ?_, by decide⟩
      simp only [handoff, configured, hooked, flash, ne_eq, not_true_eq_false, if_false, not_false_eq_true, if_true,
        Bool.false_eq_true]
  · refine ⟨_, ?_, configured⟩
    simp only [handoff, configured, ne_eq, not_false_eq_true, if_true]

end Regular

theorem regular_handoff (map : MemoryMap) (build : Build) (platform : Platform) (outcomes : HandoffOutcomes)
    (registers : File) (ps : HandoffPs) (partitionNum index : UInt32) (distinct : ((table ps.fsbl).map cpuOf).Nodup)
    (plain : Plain build (table ps.fsbl)) (flash : ps.primaryBootDevice ≠ jtagBootMode) :
    let result := handoff map build platform outcomes registers ps partitionNum false index
    let ready := (systemConfig build outcomes ps registers).1 = .success ∧ outcomes.hookBeforeHandoff = true ∧
      ∀ entry ∈ table ps.fsbl, Servable platform ps entry
    (ready → result.ending = ownEnding map ps ∧
        ∀ entry ∈ table ps.fsbl, ownEntry ps entry = false → Alone ps.fsbl entry →
          Meets (run result.changes registers)
            (entryDemands (vectorOf ps partitionNum) entry ++ releasedDemands (cpuOf entry))) ∧
      (¬ ready → ∃ status, result.ending = .returns status ∧ status ≠ .success) :=
  ⟨ready_handoff map build platform outcomes registers ps partitionNum index plain flash distinct,
    unready_handoff map build platform outcomes registers ps partitionNum index plain flash⟩

theorem two_cores_run :
    (handoff twoGigabytes unprotected zu9 allConfigured allOnes twoCores 2 false 0).ending = .exit 0 noHandoffExit ∧
      Meets (run twoCoresChanges allOnes)
        (entryDemands (vectorOf twoCores 2) ⟨destCpuA53_1, 0x1000⟩ ++ releasedDemands destCpuA53_1) := by
  have served := (regular_handoff twoGigabytes unprotected zu9 allConfigured allOnes twoCores 2 0 (by decide)
    (by unfold Plain; decide) (by decide)).1 ⟨by decide, rfl, by decide⟩
  exact ⟨served.1, served.2 ⟨destCpuA53_1, 0x1000⟩ (by decide) (by decide) (by decide)⟩

end LilacUxB.Fsbl
