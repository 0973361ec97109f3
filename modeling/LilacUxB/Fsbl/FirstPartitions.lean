import LilacUxB.Fsbl.Boot

set_option autoImplicit false

namespace LilacUxB.Fsbl

open Registers

def partitionCall (env : BootEnv) (ps : HandoffPs) (partitionNum : Nat) : LoadCall :=
  ⟨env.load (UInt32.ofNat partitionNum), headerAt ps (UInt32.ofNat partitionNum)⟩

def partitionsBefore (env : BootEnv) (ps : HandoffPs) (partitionNum : Nat) : List LoadCall :=
  (List.range' 1 (partitionNum - 1)).map (partitionCall env ps)

def partitionCalls (env : BootEnv) (ps : HandoffPs) : List LoadCall := partitionsBefore env ps (lastLoaded ps + 1)

theorem load_all_next (map : MemoryMap) (fsbl : XFsblPs) (calls : List LoadCall) (call : LoadCall) :
    loadAll map fsbl (calls ++ [call]) = (partitionLoad map call.outcomes (loadAll map fsbl calls) call.header).2 := by
  rw [loadAll, List.foldl_append]
  rfl

theorem range_next (partitionNum : Nat) (started : 1 ≤ partitionNum) :
    List.range' 1 (partitionNum + 1 - 1) = List.range' 1 (partitionNum - 1) ++ [partitionNum] := by
  obtain ⟨before, rfl⟩ := Nat.exists_eq_add_of_le' started
  rw [Nat.add_sub_cancel, Nat.add_sub_cancel, List.range'_1_concat, Nat.add_comm 1]

structure LoadedBefore (env : BootEnv) (ps : HandoffPs) (partitionNum : Nat) (state : Loading) : Prop where
  started : 1 ≤ partitionNum
  instance_loaded : state.ps = { ps with fsbl := loadAll env.map ps.fsbl (partitionsBefore env ps partitionNum) }
  all : state.loaded = (List.range' 1 (partitionNum - 1)).map UInt32.ofNat

theorem load_next_loaded (env : BootEnv) (ps : HandoffPs) (partitionNum : Nat) (state : Loading)
    (before : LoadedBefore env ps partitionNum state) :
    LoadedBefore env ps (partitionNum + 1) (loadNext env partitionNum state).2 := by
  have range := range_next partitionNum before.started
  refine ⟨Nat.le_add_left 1 _, ?_, ?_⟩
  · have calls : partitionsBefore env ps (partitionNum + 1) =
        partitionsBefore env ps partitionNum ++ [partitionCall env ps partitionNum] := by
      rw [partitionsBefore, range, List.map_append]
      rfl
    have loaded : (loadNext env partitionNum state).2.ps =
        { state.ps with fsbl := (loadOne env (UInt32.ofNat partitionNum) state.ps).2.fsbl } := rfl
    rw [loaded, calls, load_all_next, before.instance_loaded]
    rfl
  · have loaded : (loadNext env partitionNum state).2.loaded = state.loaded ++ [UInt32.ofNat partitionNum] := rfl
    rw [loaded, before.all, range, List.map_append]
    rfl

theorem all_loaded (env : BootEnv) (ps : HandoffPs) (registers : File)
    (finished : (loadPartitions env ps registers).1 = .success) :
    LoadedBefore env ps (lastLoaded ps + 1) (loadPartitions env ps registers).2 :=
  Loops.iterate_finished .success (loadNext env) (lastLoaded ps + 1) (LoadedBefore env ps)
    (fun partitionNum state _ before _ => load_next_loaded env ps partitionNum state before) (lastLoaded ps) 1
    ⟨ps, registers, []⟩ (Nat.add_comm 1 _) ⟨Nat.le_refl 1, rfl, rfl⟩ finished

-- The running processor enters the entry of its own; the core of another one has left reset with
-- its registers set, unless its core is named alone and in lock step.
def Runs (map : MemoryMap) (left : MainEnd) (vector : UInt32) (entry : HandoffValues) : Prop :=
  if ownEntry left.ps entry then
    left.ending = .exit (ptrSize map entry.handoffAddress)
      (if execStateOf entry = execStAA32 then handoffExit32Flag else handoffExitFlag)
  else
    Alone left.ps.fsbl entry →
      Meets left.registers (entryDemands vector entry ++ releasedDemands (cpuOf entry))

theorem own_found (ps : HandoffPs) (entries : List HandoffValues) (distinct : (entries.map cpuOf).Nodup)
    (entry : HandoffValues) (listed : entry ∈ entries) (own : ownEntry ps entry = true) :
    entries.find? (ownEntry ps) = some entry := by
  cases found : entries.find? (ownEntry ps) with
  | none => exact absurd own (List.find?_eq_none.mp found entry listed)
  | some other =>
      have also := List.find?_some found
      have same : cpuOf other = cpuOf entry := (of_decide_eq_true also).trans (of_decide_eq_true own).symm
      rw [List.inj_on_of_nodup_map distinct (List.mem_of_find?_eq_some found) listed same]

theorem hand_over_runs (env : BootEnv) (plain : env.build.earlyHandoff = false) (state : Loading) (partitionNum : UInt32)
    (distinct : ((table state.ps.fsbl).map cpuOf).Nodup) (flash : state.ps.primaryBootDevice ≠ jtagBootMode)
    (address : UInt64) (flags : UInt32) (exits : (handOver env state partitionNum).ending = .exit address flags)
    (entry : HandoffValues) (listed : entry ∈ table state.ps.fsbl) :
    Runs env.map (handOver env state partitionNum) (vectorOf state.ps partitionNum) entry := by
  have none_early : Plain env.build (table state.ps.fsbl) := fun other _ => by simp [checkEarlyHandoffCpu, plain]
  by_cases ready : HandoffReady env.build env.platform (env.handoff 0) state.registers state.ps
  · obtain ⟨ends, others⟩ := ready_handoff env.map env.build env.platform (env.handoff 0) state.registers state.ps
      partitionNum 0 none_early flash distinct ready
    unfold Runs
    by_cases own : ownEntry (handOver env state partitionNum).ps entry = true
    · rw [if_pos own]
      have ending : (handOver env state partitionNum).ending = bootEnd (ownEnding env.map state.ps) := congrArg bootEnd ends
      rw [ending, ownEnding, own_found state.ps _ distinct entry listed own]
      rfl
    · rw [if_neg own]
      exact others entry listed (Bool.eq_false_iff.mpr own)
  · obtain ⟨status, returned, _⟩ := unready_handoff env.map env.build env.platform (env.handoff 0) state.registers
      state.ps partitionNum 0 none_early flash ready
    have locked : (handOver env state partitionNum).ending = .lockDown (status.code + errorStage4) :=
      congrArg bootEnd returned
    rw [locked] at exits
    cases exits

def FirstLoad (map : MemoryMap) (fsbl : XFsblPs) (calls : List LoadCall) (index : Nat) (call : LoadCall) : Prop :=
  calls[index]? = some call ∧ Qualifies map (loadAll map fsbl (calls.take index)) call ∧
    ∀ earlier other, earlier < index → calls[earlier]? = some other →
      Qualifies map (loadAll map fsbl (calls.take earlier)) other →
      destinationCpu fsbl.processorID other.header ≠ destinationCpu fsbl.processorID call.header

theorem loaded_distinct (map : MemoryMap) (fsbl : XFsblPs) (calls : List LoadCall) (empty : fsbl.handoffCpuNo = 0)
    (real : fsbl.processorID ∈ loaderCpus) : ((table (loadAll map fsbl calls)).map cpuOf).Nodup := by
  rw [run_table map fsbl calls empty real]
  exact FirstCome.settled_distinct cpuOf _

theorem first_load_listed (map : MemoryMap) (fsbl : XFsblPs) (calls : List LoadCall) (empty : fsbl.handoffCpuNo = 0)
    (real : fsbl.processorID ∈ loaderCpus) (index : Nat) (call : LoadCall) (first : FirstLoad map fsbl calls index call) :
    handoffEntry (destinationCpu fsbl.processorID call.header) call.header ∈ table (loadAll map fsbl calls) := by
  obtain ⟨at_index, qualifies, earliest⟩ := first
  rw [run_table map fsbl calls empty real]
  apply FirstCome.first_settled cpuOf _ index
  · rw [offers_at, at_index, Option.map_some, offered, if_pos qualifies, run_keeps_processor]
  · intro earlier entry sooner found
    rw [offers_at] at found
    obtain ⟨other, at_earlier, made⟩ := Option.map_eq_some_iff.mp found
    obtain ⟨otherQualifies, rfl⟩ := offer_fields map _ other entry made
    rw [run_keeps_processor, own_entry fsbl other.header real, own_entry fsbl call.header real]
    exact earliest earlier other sooner at_earlier otherQualifies

def r5Boot : BootEnv where
  map := twoGigabytes
  build := unprotected
  platform := zu9
  initialized := (fsblSuccess, { twoCores with fsbl := a53Loader })
  bootDeviceInitAndValidate ps := (fsblSuccess, { ps with imageHeader :=
    ⟨⟨0, 3, 0, 0, 0, 0, Vector.replicate 9 0, 0⟩,
      fun number => withChecksum (r5Partition (if number = 1 then 0x100 else 0x200) 4)⟩ })
  load _ := allSucceed
  handoff _ := allConfigured

end LilacUxB.Fsbl
