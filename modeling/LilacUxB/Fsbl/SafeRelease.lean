import LilacUxB.Fsbl.CpuRelease

set_option autoImplicit false

namespace LilacUxB.Fsbl

open Registers

theorem vector_bit (ps : HandoffPs) (partitionNum : UInt32) : vectorOf ps partitionNum = 0 ∨ vectorOf ps partitionNum = 1 := by
  let header := ps.imageHeader.partitionHeader partitionNum.toNat
  have moved := Words.field_down header.partitionAttributes 0x800000 23 23 1 rfl (by decide) (by decide)
  have below : (vectorOf ps partitionNum).toNat < 2 := by
    rw [vectorOf, getVectorLocation, moved]
    exact (Nat.mul_one _).trans_lt (Words.field_below _ 23 1)
  cases Nat.lt_or_ge (vectorOf ps partitionNum).toNat 1 with
  | inl zero => exact .inl (UInt32.toNat.inj (Nat.lt_one_iff.mp zero))
  | inr one => exact .inr (UInt32.toNat.inj (Nat.le_antisymm (Nat.le_of_lt_succ below) one))

def cpuRegisters : List UInt32 :=
  [apuConfig0, rstFpdApu, acpuCtrl, cpuR5Ctrl, rpuGlblCntl, rpu0Cfg, rpu1Cfg, rstLpdTop, a53_0.rvbarLow, a53_0.rvbarHigh, a53_1.rvbarLow,
    a53_1.rvbarHigh, a53_2.rvbarLow, a53_2.rvbarHigh, a53_3.rvbarLow, a53_3.rvbarHigh]

def ownRegisters : List UInt32 :=
  [globGenStorage5, sdCdnCtrl, errorStatusRegister, sysmonConfigReg1, sysmonConfigReg3, errorSrstDis1, 0xFFFC0000]

theorem registers_apart (address : UInt32) (own : address ∈ ownRegisters) : address ∉ cpuRegisters := by
  simp only [ownRegisters, List.mem_cons, List.not_mem_nil, or_false] at own
  rcases own with rfl | rfl | rfl | rfl | rfl | rfl | rfl <;> decide

def Elsewhere (changes : List Change) : Prop := ∀ change ∈ changes, change.address ∈ ownRegisters

theorem part_registers (cpu : UInt32) (real : cpu ∈ loaderCpus) :
    (∀ part ∈ ownParts cpu, part.address ∈ cpuRegisters) ∧
      ∀ demand ∈ commonDemands cpu, demand.part.address ∈ cpuRegisters := by
  rcases real_cases cpu real with rfl | rfl | rfl | rfl | rfl | rfl | rfl <;> decide

theorem elsewhere_spares (change : Change) (elsewhere : change.address ∈ ownRegisters) (part : BitField)
    (known : part.address ∈ cpuRegisters) : change.spares part = true := by
  have different : change.address ≠ part.address := fun same =>
    registers_apart _ elsewhere (same ▸ known)
  simp [Change.spares, different]

theorem elsewhere_leaves_alone (changes : List Change) (elsewhere : Elsewhere changes) (cpu : UInt32)
    (real : cpu ∈ loaderCpus) : leavesAlone cpu changes = true := by
  obtain ⟨own, mode⟩ := part_registers cpu real
  have spares : ∀ change ∈ changes, ∀ part : BitField, part.address ∈ cpuRegisters → change.spares part = true :=
    fun change member part known => elsewhere_spares change (elsewhere change member) part known
  apply List.all_eq_true.mpr
  intro change member
  apply Bool.and_eq_true_iff.mpr
  constructor
  · exact List.all_eq_true.mpr (fun part owned => spares change member part (own part owned))
  · apply List.all_eq_true.mpr
    intro demand owned
    rw [Change.keeps, spares change member demand.part (mode demand owned), Bool.true_or]

theorem gate_own (cpu : UInt32) : gate cpu ∈ ownParts cpu := by
  unfold ownParts
  split
  · exact List.mem_cons_self
  · split_ifs <;> exact List.mem_cons_self

theorem left_alone (cpu : UInt32) (changes : List Change) (alone : leavesAlone cpu changes = true) :
    spareAll (gate cpu) changes = true ∧
      ∀ demand : Demand, demand.part ∈ ownParts cpu ∨ demand ∈ commonDemands cpu → keepAll demand changes = true := by
  have each : ∀ change ∈ changes, (∀ part ∈ ownParts cpu, change.spares part = true) ∧
      ∀ demand ∈ commonDemands cpu, change.keeps demand.part demand.value = true := by
    intro change member
    obtain ⟨own, mode⟩ := Bool.and_eq_true_iff.mp (List.all_eq_true.mp alone change member)
    exact ⟨List.all_eq_true.mp own, List.all_eq_true.mp mode⟩
  refine ⟨List.all_eq_true.mpr (fun change member => (each change member).1 _ (gate_own cpu)), ?_⟩
  intro demand known
  apply List.all_eq_true.mpr
  intro change member
  cases known with
  | inl own => rw [Change.keeps, (each change member).1 _ own, Bool.true_or]
  | inr mode => exact (each change member).2 demand mode

theorem released_own (cpu : UInt32) (real : cpu ∈ loaderCpus) :
    ∀ demand ∈ releasedDemands cpu, demand.part ∈ ownParts cpu := by
  rcases real_cases cpu real with rfl | rfl | rfl | rfl | rfl | rfl | rfl <;> decide

theorem a53_own (cpu : UInt32) (core : A53Core) (own : a53Core cpu = some core) (aa32 : Bool) (vector : UInt32)
    (address : UInt64) (demand : Demand) (asked : demand ∈ a53Demands core aa32 vector address) :
    demand.part ∈ ownParts cpu ∨ demand ∈ commonDemands cpu := by
  have parts : ownParts cpu = [gate cpu, ⟨core.rvbarLow, 0xFFFFFFFF⟩, ⟨core.rvbarHigh, 0xFFFFFFFF⟩,
      ⟨apuConfig0, core.aa64n32⟩, ⟨apuConfig0, core.vinithi⟩] := by
    rw [ownParts, own]
  have common : commonDemands cpu = [a53Clock] := by
    rcases a53_core_cases cpu core own with ⟨rfl, _⟩ | ⟨rfl, _⟩ | ⟨rfl, _⟩ | ⟨rfl, _⟩ <;> decide
  rw [parts, common]
  cases aa32 with
  | false =>
      simp only [a53Demands, Bool.false_eq_true, if_false, List.mem_cons, List.not_mem_nil, or_false] at asked
      rcases asked with rfl | rfl | rfl <;> simp
  | true =>
      simp only [a53Demands, if_true, List.mem_cons, List.not_mem_nil, or_false] at asked
      rcases asked with rfl | rfl | rfl <;> simp

theorem r5_own (cpu : UInt32) (mode entering demand : Demand) (common : ∀ shared ∈ [mode, r5Clock], shared ∈ commonDemands cpu)
    (own : entering.part ∈ ownParts cpu) (asked : demand ∈ [mode, r5Clock, entering]) :
    demand.part ∈ ownParts cpu ∨ demand ∈ commonDemands cpu := by
  simp only [List.mem_cons, List.not_mem_nil, or_false] at asked
  rcases asked with first | second | third
  · exact .inr (common demand (by simp [first]))
  · exact .inr (common demand (by simp [second]))
  · exact .inl (third ▸ own)

theorem demands_own (vector : UInt32) (entry : HandoffValues) (real : cpuOf entry ∈ loaderCpus) (demand : Demand)
    (asked : demand ∈ entryDemands vector entry ++ releasedDemands (cpuOf entry)) :
    demand.part ∈ ownParts (cpuOf entry) ∨ demand ∈ commonDemands (cpuOf entry) := by
  cases List.mem_append.mp asked with
  | inr leaving => exact .inl (released_own _ real demand leaving)
  | inl entering =>
      unfold entryDemands at entering
      cases own : a53Core (cpuOf entry) with
      | some core =>
          rw [own] at entering
          exact a53_own _ core own _ vector _ demand entering
      | none =>
          simp only [own] at entering
          split_ifs at entering with r5_0 r5_1
          · rw [r5_0]
            exact r5_own destCpuR5_0 _ _ demand (by decide) (show BitField.mk rpu0Cfg rpuVinithi ∈ _ by decide) entering
          · rw [r5_1]
            exact r5_own destCpuR5_1 _ _ demand (by decide) (show BitField.mk rpu1Cfg rpuVinithi ∈ _ by decide) entering
          · have lockStep : cpuOf entry = destCpuR5_L := by
              rcases real_cases _ real with known | known | known | known | known | known | known <;>
                first | exact known | contradiction | (rw [known] at own; contradiction)
            rw [lockStep]
            exact r5_own destCpuR5_L _ _ demand (by decide) (show BitField.mk rpu0Cfg rpuVinithi ∈ _ by decide) entering

theorem elsewhere_append (first second : List Change) (before : Elsewhere first) (after : Elsewhere second) :
    Elsewhere (first ++ second) := by
  intro change member
  cases List.mem_append.mp member with
  | inl early => exact before change early
  | inr late => exact after change late

theorem serve_changes (build : Build) (platform : Platform) (ps : HandoffPs) (early : Bool) (vector : UInt32)
    (entry : HandoffValues) (walk : Walk) :
    (serve build platform ps early vector entry walk).2.changes = walk.changes ∨
      (serve build platform ps early vector entry walk).2.changes =
        walk.changes ++ releaseProgram platform.qemu vector entry := by
  unfold serve serveOther serveRunning
  by_cases served : serves build ps early entry = true
  · by_cases other : cpuOf entry ≠ ps.fsbl.processorID
    · by_cases supported : checkSupportedCpu platform (cpuOf entry) = true
      · exact .inr (by simp [served, other, supported])
      · exact .inl (by simp [served, other, supported])
    · left
      rw [if_pos served, if_neg other]
      split_ifs <;> rfl
  · exact .inl (by rw [if_neg served])

theorem loop_changes (build : Build) (platform : Platform) (ps : HandoffPs) (early : Bool) (vector partitionNum : UInt32)
    (entries : List HandoffValues) (walk : Walk) :
    ∃ served : List HandoffValues, served.Sublist entries ∧
      (handoffLoop build platform ps early vector partitionNum entries walk).2.changes =
        walk.changes ++ served.flatMap (releaseProgram platform.qemu vector) := by
  induction entries generalizing walk with
  | nil => exact ⟨[], List.Sublist.refl [], (List.append_nil _).symm⟩
  | cons entry rest ih =>
      obtain ⟨later, within, more⟩ := ih { (serve build platform ps early vector entry walk).2 with
        cpuIndexEarlyHandoff := (serve build platform ps early vector entry walk).2.cpuIndexEarlyHandoff + 1 }
      rw [handoffLoop]
      cases serve_changes build platform ps early vector entry walk with
      | inl none =>
          dsimp only
          split_ifs
          · exact ⟨[], List.nil_sublist _, none.trans (List.append_nil _).symm⟩
          · exact ⟨[], List.nil_sublist _, none.trans (List.append_nil _).symm⟩
          · exact ⟨[], List.nil_sublist _, none.trans (List.append_nil _).symm⟩
          · exact ⟨later, within.cons entry, more.trans (congrArg (fun start => start ++ _) none)⟩
      | inr one =>
          have single := one.trans (congrArg (fun own => walk.changes ++ own) (List.flatMap_singleton _ entry).symm)
          have alone : [entry].Sublist (entry :: rest) := (List.nil_sublist rest).cons_cons entry
          dsimp only
          split_ifs
          · exact ⟨[entry], alone, single⟩
          · exact ⟨[entry], alone, single⟩
          · exact ⟨[entry], alone, single⟩
          · refine ⟨entry :: later, within.cons_cons entry, more.trans ?_⟩
            rw [one, List.flatMap_cons, List.append_assoc]

theorem elsewhere_nil : Elsewhere [] := List.forall_mem_nil _

theorem elsewhere_cons (change : Change) (rest : List Change) (here : change.address ∈ ownRegisters)
    (later : Elsewhere rest) : Elsewhere (change :: rest) :=
  List.forall_mem_cons.mpr ⟨here, later⟩

theorem running_status_elsewhere (ps : HandoffPs) : Elsewhere (runningStatus ps) :=
  elsewhere_cons _ _ (show globGenStorage5 ∈ ownRegisters by decide)
    (elsewhere_cons _ _ (show sdCdnCtrl ∈ ownRegisters by decide) elsewhere_nil)

theorem system_config_elsewhere (build : Build) (outcomes : HandoffOutcomes) (ps : HandoffPs) (registers : File) :
    Elsewhere (systemConfig build outcomes ps registers).2 := by
  have sysmon (first third : Change) (one : first.address = sysmonConfigReg1) (other : third.address = sysmonConfigReg3) :
      Elsewhere [first, third] :=
    elsewhere_cons _ _ (one ▸ by decide) (elsewhere_cons _ _ (other ▸ by decide) elsewhere_nil)
  have disabled := sysmon ⟨sysmonConfigReg1, 0, 0xF0E⟩ ⟨sysmonConfigReg3, 0, 0x3F⟩ rfl rfl
  by_cases apuOnly : ps.fsbl.resetReason = apuOnlyReset
  · rw [systemConfig, if_pos apuOnly]
    exact elsewhere_nil
  · by_cases failed : ¬ outcomes.pmInit = true
    · rw [systemConfig, if_neg apuOnly, if_pos failed]
      exact elsewhere_nil
    · rw [systemConfig, if_neg apuOnly, if_neg failed]
      unfold protectionConfig
      dsimp only
      split_ifs
      · exact disabled
      · exact elsewhere_append _ _ disabled (sysmon _ _ rfl rfl)

theorem exit_elsewhere : Elsewhere exitChanges :=
  elsewhere_cons _ _ (show globGenStorage5 ∈ ownRegisters by decide) elsewhere_nil

theorem jtag_exit_elsewhere (map : MemoryMap) (platform : Platform) : Elsewhere (jtagExit map platform).1 := by
  have status : errorStatusRegister ∈ ownRegisters := by decide
  have ocm : (0xFFFC0000 : UInt32) ∈ ownRegisters := by decide
  unfold jtagExit
  split_ifs
  · exact elsewhere_cons _ _ status (elsewhere_cons _ _ ocm elsewhere_nil)
  · exact elsewhere_cons _ _ status (elsewhere_cons _ _ ocm elsewhere_nil)
  · exact elsewhere_cons _ _ status exit_elsewhere

theorem final_exit_elsewhere (map : MemoryMap) (build : Build) (ps : HandoffPs) (running : Option (UInt64 × UInt32)) :
    Elsewhere (finalExit map build ps running).1 := by
  have watchdog : Elsewhere (stopWdt build ps) := by
    unfold stopWdt
    split
    · split_ifs
      · exact elsewhere_cons _ _ (show errorSrstDis1 ∈ ownRegisters by decide) elsewhere_nil
      · exact elsewhere_nil
    · exact elsewhere_nil
  have left : (finalExit map build ps running).1 =
      out32 errorStatusRegister fsblCompleted :: (stopWdt build ps ++ exitChanges) := by
    cases running <;> rfl
  rw [left]
  exact elsewhere_cons _ _ (show errorStatusRegister ∈ ownRegisters by decide)
    (elsewhere_append _ _ watchdog exit_elsewhere)

theorem handoff_changes (map : MemoryMap) (build : Build) (platform : Platform) (outcomes : HandoffOutcomes)
    (registers : File) (ps : HandoffPs) (partitionNum : UInt32) (early : Bool) (index : UInt32) :
    ∃ (before after : List Change) (served : List HandoffValues), Elsewhere before ∧ Elsewhere after ∧
      served.Sublist (table ps.fsbl) ∧
      (handoff map build platform outcomes registers ps partitionNum early index).changes =
        before ++ served.flatMap (releaseProgram platform.qemu (vectorOf ps partitionNum)) ++ after := by
  obtain ⟨served, within, walked⟩ := loop_changes build platform ps early (vectorOf ps partitionNum) partitionNum
    ((table ps.fsbl).drop (if early then index.toNat else 0)) ⟨[], none, index⟩
  have sub : served.Sublist (table ps.fsbl) := within.trans (List.drop_sublist _ _)
  have prologue : Elsewhere (runningStatus ps ++ (systemConfig build outcomes ps registers).2) :=
    elsewhere_append _ _ (running_status_elsewhere ps) (system_config_elsewhere build outcomes ps registers)
  rw [← handoffWalk, List.nil_append] at walked
  by_cases misconfigured : (systemConfig build outcomes ps registers).1 ≠ .success
  · refine ⟨_, [], [], prologue, elsewhere_nil, List.nil_sublist _, ?_⟩
    simp only [handoff, if_pos misconfigured, List.flatMap_nil, List.append_nil]
  · by_cases jtag : ps.primaryBootDevice = jtagBootMode
    · refine ⟨_, _, [], prologue, jtag_exit_elsewhere map platform, List.nil_sublist _, ?_⟩
      simp only [handoff, if_neg misconfigured, if_pos jtag, List.flatMap_nil, List.append_nil]
    · by_cases unhooked : ¬ outcomes.hookBeforeHandoff = true
      · refine ⟨_, [], [], prologue, elsewhere_nil, List.nil_sublist _, ?_⟩
        simp only [handoff, if_neg misconfigured, if_neg jtag, if_pos unhooked, List.flatMap_nil, List.append_nil]
      · by_cases stopped : (handoffWalk build platform ps partitionNum early index).1 ≠ .success
        · refine ⟨_, [], served, prologue, elsewhere_nil, sub, ?_⟩
          simp only [handoff, if_neg misconfigured, if_neg jtag, if_neg unhooked, if_pos stopped, walked, List.append_nil]
        · have leaving := final_exit_elsewhere map build ps (handoffWalk build platform ps partitionNum early index).2.running
          refine ⟨_, _, served, prologue, leaving, sub, ?_⟩
          simp only [handoff, if_neg misconfigured, if_neg jtag, if_neg unhooked, if_neg stopped, walked]

theorem programs_leave_alone (qemu : Bool) (vector : UInt32) (bit : vector = 0 ∨ vector = 1) (cpu : UInt32)
    (real : cpu ∈ loaderCpus) (entries : List HandoffValues)
    (apart : ∀ entry ∈ entries, sharesCore cpu (cpuOf entry) = false) :
    leavesAlone cpu (entries.flatMap (releaseProgram qemu vector)) = true := by
  apply List.all_eq_true.mpr
  intro change member
  obtain ⟨entry, listed, inside⟩ := List.mem_flatMap.mp member
  rw [release_program] at inside
  exact List.all_eq_true.mp (program_leaves_alone qemu vector bit cpu real entry (apart entry listed)) change inside

def Alone (fsbl : XFsblPs) (entry : HandoffValues) : Prop :=
  ∀ other ∈ table fsbl, other ≠ entry → sharesCore (cpuOf entry) (cpuOf other) = false

instance (fsbl : XFsblPs) (entry : HandoffValues) : Decidable (Alone fsbl entry) :=
  inferInstanceAs (Decidable (∀ other ∈ table fsbl, _))

theorem prefix_leaves_alone (cpu : UInt32) (changes done : List Change) (cut : done <+: changes)
    (alone : leavesAlone cpu changes = true) : leavesAlone cpu done = true := by
  apply List.all_eq_true.mpr
  intro change member
  exact List.all_eq_true.mp alone change (cut.subset member)

theorem entry_split (platform : Platform) (ps : HandoffPs) (partitionNum : UInt32) (before after : List Change)
    (served : List HandoffValues) (first : Elsewhere before) (last : Elsewhere after)
    (within : served.Sublist (table ps.fsbl)) (distinct : ((table ps.fsbl).map cpuOf).Nodup) (entry : HandoffValues)
    (real : cpuOf entry ∈ loaderCpus) (alone : Alone ps.fsbl entry) (taken : entry ∈ served) :
    ∃ early late : List Change, leavesAlone (cpuOf entry) early = true ∧ leavesAlone (cpuOf entry) late = true ∧
      before ++ served.flatMap (releaseProgram platform.qemu (vectorOf ps partitionNum)) ++ after =
        early ++ (programOf platform.qemu (vectorOf ps partitionNum) entry).whole ++ late := by
  have bit := vector_bit ps partitionNum
  obtain ⟨sooner, later, rfl⟩ := List.append_of_mem taken
  have once : (sooner ++ entry :: later).Nodup := within.nodup distinct.of_map
  have others : ∀ other ∈ sooner ++ later, sharesCore (cpuOf entry) (cpuOf other) = false := by
    intro other member
    have listed : other ∈ sooner ++ entry :: later := by
      rw [List.mem_append, List.mem_cons]
      exact (List.mem_append.mp member).imp id .inr
    apply alone other (within.subset listed)
    rintro rfl
    exact (List.nodup_middle.mp once).notMem member
  refine ⟨before ++ sooner.flatMap (releaseProgram platform.qemu (vectorOf ps partitionNum)),
    later.flatMap (releaseProgram platform.qemu (vectorOf ps partitionNum)) ++ after, ?_, ?_, ?_⟩
  · rw [leavesAlone, List.all_append, Bool.and_eq_true]
    exact ⟨elsewhere_leaves_alone before first _ real, programs_leave_alone _ _ bit _ real sooner
      (fun other member => others other (List.mem_append_left _ member))⟩
  · rw [leavesAlone, List.all_append, Bool.and_eq_true]
    exact ⟨programs_leave_alone _ _ bit _ real later (fun other member => others other (List.mem_append_right _ member)),
      elsewhere_leaves_alone after last _ real⟩
  · simp only [List.flatMap_append, List.flatMap_cons, release_program, Release.whole, List.append_assoc]

theorem unserved_gate (platform : Platform) (ps : HandoffPs) (partitionNum : UInt32) (before after : List Change)
    (served : List HandoffValues) (first : Elsewhere before) (last : Elsewhere after) (cpu : UInt32) (real : cpu ∈ loaderCpus)
    (apart : ∀ entry ∈ served, sharesCore cpu (cpuOf entry) = false) (done : List Change)
    (cut : done <+: before ++ served.flatMap (releaseProgram platform.qemu (vectorOf ps partitionNum)) ++ after)
    (registers : File) : field (run done registers) (gate cpu) = field registers (gate cpu) := by
  apply run_spared
  apply (left_alone cpu done (prefix_leaves_alone cpu _ done cut ?_)).1
  rw [leavesAlone, List.all_append, List.all_append, Bool.and_eq_true, Bool.and_eq_true]
  exact ⟨⟨elsewhere_leaves_alone before first cpu real, programs_leave_alone _ _ (vector_bit ps partitionNum) cpu real
    served apart⟩, elsewhere_leaves_alone after last cpu real⟩

def zu9 : Platform := ⟨4, false, "EG"⟩

def unprotected : Build := ⟨false, true, none⟩

def allConfigured : HandoffOutcomes := ⟨true, true, true, true⟩

def allOnes : File := fun _ => 0xFFFFFFFF

def twoCores : HandoffPs where
  fsbl := { a53Loader with
    handoffCpuNo := 2
    handoffValues := fun index => if index = 0 then ⟨destCpuA53_1, 0x1000⟩ else ⟨destCpuR5_0, 0x100⟩ }
  a53ExecState := execStAA64
  primaryBootDevice := 2
  imageHeader := ⟨⟨0, 3, 0, 0, 0, 0, Vector.replicate 9 0, 0⟩, fun _ => r5Partition 0x100 4⟩

def twoCoresChanges : List Change :=
  (handoff twoGigabytes unprotected zu9 allConfigured allOnes twoCores 2 false 0).changes

end LilacUxB.Fsbl
