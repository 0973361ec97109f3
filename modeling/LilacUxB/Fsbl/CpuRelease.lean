import LilacUxB.Fsbl.Handoff

set_option autoImplicit false

namespace LilacUxB.Fsbl

open Registers

def gate (cpu : UInt32) : BitField :=
  match a53Core cpu with
  | some core => ⟨rstFpdApu, core.reset ||| core.pwronReset⟩
  | none =>
      if cpu = destCpuR5_0 then ⟨rstLpdTop, 0x1⟩
      else if cpu = destCpuR5_1 then ⟨rstLpdTop, 0x2⟩
      else ⟨rstLpdTop, 0x1 ||| 0x2⟩

structure Demand where
  part : BitField
  value : UInt32
deriving DecidableEq, Repr

def Meets (file : File) (demands : List Demand) : Prop := ∀ demand ∈ demands, field file demand.part = demand.value

def rpuMode : BitField := ⟨rpuGlblCntl, slsplit ||| tcmComb ||| slclamp⟩

def splitDemand : Demand := ⟨rpuMode, slsplit⟩
def safeDemand : Demand := ⟨rpuMode, tcmComb ||| slclamp⟩
def a53Clock : Demand := ⟨⟨acpuCtrl, 0x1000000 ||| 0x2000000⟩, 0x1000000 ||| 0x2000000⟩
def r5Clock : Demand := ⟨⟨cpuR5Ctrl, 0x1000000⟩, 0x1000000⟩

def a53Demands (core : A53Core) (aa32 : Bool) (vector : UInt32) (address : UInt64) : List Demand :=
  if aa32 then [a53Clock, ⟨⟨apuConfig0, core.aa64n32⟩, 0⟩, ⟨⟨apuConfig0, core.vinithi⟩, vector <<< core.vinithiShift⟩]
  else
    [a53Clock, ⟨⟨core.rvbarLow, 0xFFFFFFFF⟩, address.toUInt32⟩,
      ⟨⟨core.rvbarHigh, 0xFFFFFFFF⟩, (address >>> 32).toUInt32⟩]

def entryDemands (vector : UInt32) (entry : HandoffValues) : List Demand :=
  match a53Core (cpuOf entry) with
  | some core => a53Demands core (execStateOf entry = execStAA32) vector entry.handoffAddress
  | none =>
      if cpuOf entry = destCpuR5_0 then [splitDemand, r5Clock, ⟨⟨rpu0Cfg, rpuVinithi⟩, vector <<< 2⟩]
      else if cpuOf entry = destCpuR5_1 then [splitDemand, r5Clock, ⟨⟨rpu1Cfg, rpuVinithi⟩, vector <<< 2⟩]
      else [safeDemand, r5Clock, ⟨⟨rpu0Cfg, rpuVinithi⟩, vector <<< 2⟩]

def releasedDemands (cpu : UInt32) : List Demand :=
  if cpu = destCpuR5_0 then [⟨gate cpu, 0⟩, ⟨⟨rpu0Cfg, nCpuHalt⟩, nCpuHalt⟩]
  else if cpu = destCpuR5_1 then [⟨gate cpu, 0⟩, ⟨⟨rpu1Cfg, nCpuHalt⟩, nCpuHalt⟩]
  else if cpu = destCpuR5_L then
    [⟨gate cpu, 0⟩, ⟨⟨rpu0Cfg, nCpuHalt⟩, nCpuHalt⟩, ⟨⟨rpu1Cfg, nCpuHalt⟩, nCpuHalt⟩]
  else [⟨gate cpu, 0⟩]

-- Lock step is the two R5 cores at once.
def sharesCore (first second : UInt32) : Bool :=
  first = second || (first = destCpuR5_L && (second = destCpuR5_0 || second = destCpuR5_1)) ||
    (second = destCpuR5_L && (first = destCpuR5_0 || first = destCpuR5_1))

def a53Program (qemu : Bool) (core : A53Core) (aa32 : Bool) (vector : UInt32) (address : UInt64) : Release where
  prepare :=
    (if aa32 then [⟨apuConfig0, core.vinithi, vector <<< core.vinithiShift⟩]
      else [out32 core.rvbarLow address.toUInt32, out32 core.rvbarHigh (address >>> 32).toUInt32]) ++
      (a53Release qemu core (if aa32 then execStAA32 else execStAA64)).prepare
  release := (a53Release qemu core (if aa32 then execStAA32 else execStAA64)).release

def r5Program (cfg : UInt32) (vector : UInt32) (release : Release) : Release where
  prepare := ⟨cfg, rpuVinithi, vector <<< 2⟩ :: release.prepare
  release := release.release

def r5_0Program (qemu : Bool) (vector : UInt32) : Release :=
  r5Program rpu0Cfg vector (r5Release qemu pwrStateR5_0 splitMode [rpu0Cfg] 0x1)

def r5_1Program (qemu : Bool) (vector : UInt32) : Release :=
  r5Program rpu1Cfg vector (r5Release qemu pwrStateR5_1 splitMode [rpu1Cfg] 0x2)

def r5_LProgram (qemu : Bool) (vector : UInt32) : Release :=
  r5Program rpu0Cfg vector (r5Release qemu pwrStateR5_0 safeMode [rpu0Cfg, rpu1Cfg] (0x1 ||| 0x2))

-- Two writes to address 0 for a destination that is no core.
def strayProgram (aa32 : Bool) (address : UInt64) : Release :=
  ⟨if aa32 then [] else [out32 0 address.toUInt32, out32 0 (address >>> 32).toUInt32], []⟩

def programOf (qemu : Bool) (vector : UInt32) (entry : HandoffValues) : Release :=
  match a53Core (cpuOf entry) with
  | some core => a53Program qemu core (execStateOf entry = execStAA32) vector entry.handoffAddress
  | none =>
      if cpuOf entry = destCpuR5_0 then r5_0Program qemu vector
      else if cpuOf entry = destCpuR5_1 then r5_1Program qemu vector
      else if cpuOf entry = destCpuR5_L then r5_LProgram qemu vector
      else strayProgram (execStateOf entry = execStAA32) entry.handoffAddress

theorem a53_core_cases (cpu : UInt32) (core : A53Core) (own : a53Core cpu = some core) :
    (cpu = destCpuA53_0 ∧ core = a53_0) ∨ (cpu = destCpuA53_1 ∧ core = a53_1) ∨
      (cpu = destCpuA53_2 ∧ core = a53_2) ∨ (cpu = destCpuA53_3 ∧ core = a53_3) := by
  unfold a53Core at own
  split_ifs at own with first second third fourth
  · exact .inl ⟨first, (Option.some.inj own).symm⟩
  · exact .inr (.inl ⟨second, (Option.some.inj own).symm⟩)
  · exact .inr (.inr (.inl ⟨third, (Option.some.inj own).symm⟩))
  · exact .inr (.inr (.inr ⟨fourth, (Option.some.inj own).symm⟩))

theorem not_r5 (cpu : UInt32) (core : A53Core) (own : a53Core cpu = some core) :
    cpu ≠ destCpuR5_0 ∧ cpu ≠ destCpuR5_1 ∧ cpu ≠ destCpuR5_L := by
  rcases a53_core_cases cpu core own with ⟨rfl, _⟩ | ⟨rfl, _⟩ | ⟨rfl, _⟩ | ⟨rfl, _⟩ <;> decide

theorem a53_settings (qemu : Bool) (vector : UInt32) (entry : HandoffValues) (core : A53Core)
    (own : a53Core (cpuOf entry) = some core) :
    updateResetVector entry.handoffAddress entry.cpuSettings otherCpuHandoff vector ++
        (setCpuPwrSettings qemu entry.cpuSettings cpuSwrst).2 =
      (programOf qemu vector entry).prepare ++ (programOf qemu vector entry).release := by
  obtain ⟨not0, not1, notL⟩ := not_r5 _ core own
  have flagged : cpuSwrst &&& cpuSwrst ≠ 0 := by decide
  have other : otherCpuHandoff ≠ a53_0_32HandoffToA53_0_64 := by decide
  rw [programOf, own]
  simp only [cpuOf] at own not0 not1 notL
  simp only [setCpuPwrSettings, if_pos flagged, updateResetVector, vectorLocation, rvbarAddress, is32BitCpu, cpuRelease,
    own, not0, not1, notL, execStateOf, a53Program]
  by_cases aa32 : entry.cpuSettings &&& a53ExecStMask = execStAA32
  · simp [aa32, a53Release]
  · have apart : execStAA64 ≠ execStAA32 := by decide
    simp [aa32, other, apart, a53Release]

theorem r5_settings (qemu : Bool) (vector : UInt32) (entry : HandoffValues) (foreign : a53Core (cpuOf entry) = none) :
    updateResetVector entry.handoffAddress entry.cpuSettings otherCpuHandoff vector ++
        (setCpuPwrSettings qemu entry.cpuSettings cpuSwrst).2 =
      (programOf qemu vector entry).prepare ++ (programOf qemu vector entry).release := by
  have flagged : cpuSwrst &&& cpuSwrst ≠ 0 := by decide
  have other : otherCpuHandoff ≠ a53_0_32HandoffToA53_0_64 := by decide
  rw [programOf, foreign]
  simp only [cpuOf] at foreign
  simp only [setCpuPwrSettings, if_pos flagged, updateResetVector, vectorLocation, rvbarAddress, is32BitCpu, cpuRelease,
    foreign, cpuOf, execStateOf]
  have apart1 : destCpuR5_1 ≠ destCpuR5_0 := by decide
  have apartL : destCpuR5_L ≠ destCpuR5_0 ∧ destCpuR5_L ≠ destCpuR5_1 := by decide
  by_cases first : entry.cpuSettings &&& destCpuMask = destCpuR5_0
  · simp [first, r5_0Program, r5Program]
  · by_cases second : entry.cpuSettings &&& destCpuMask = destCpuR5_1
    · simp [second, apart1, apartL.2.symm, r5_1Program, r5Program]
    · by_cases lockStep : entry.cpuSettings &&& destCpuMask = destCpuR5_L
      · simp [lockStep, apartL, r5_LProgram, r5Program]
      · by_cases aa32 : entry.cpuSettings &&& a53ExecStMask = execStAA32
        · simp [first, second, lockStep, aa32, strayProgram]
        · simp [first, second, lockStep, aa32, other, strayProgram]

theorem release_program (qemu : Bool) (vector : UInt32) (entry : HandoffValues) :
    releaseProgram qemu vector entry = (programOf qemu vector entry).prepare ++ (programOf qemu vector entry).release := by
  have unflagged : ¬ cpuPowerUp &&& cpuSwrst ≠ 0 := by decide
  rw [releaseProgram, setCpuPwrSettings, if_neg unflagged, List.nil_append]
  cases own : a53Core (cpuOf entry) with
  | some core => exact a53_settings qemu vector entry core own
  | none => exact r5_settings qemu vector entry own

def Release.whole (release : Release) : List Change := release.prepare ++ release.release

def ownParts (cpu : UInt32) : List BitField :=
  match a53Core cpu with
  | some core =>
      [gate cpu, ⟨core.rvbarLow, 0xFFFFFFFF⟩, ⟨core.rvbarHigh, 0xFFFFFFFF⟩, ⟨apuConfig0, core.aa64n32⟩,
        ⟨apuConfig0, core.vinithi⟩]
  | none =>
      if cpu = destCpuR5_0 then [gate cpu, ⟨rpu0Cfg, nCpuHalt⟩, ⟨rpu0Cfg, rpuVinithi⟩]
      else if cpu = destCpuR5_1 then [gate cpu, ⟨rpu1Cfg, nCpuHalt⟩, ⟨rpu1Cfg, rpuVinithi⟩]
      else [gate cpu, ⟨rpu0Cfg, nCpuHalt⟩, ⟨rpu0Cfg, rpuVinithi⟩, ⟨rpu1Cfg, nCpuHalt⟩]

def commonDemands (cpu : UInt32) : List Demand :=
  if cpu = destCpuR5_0 ∨ cpu = destCpuR5_1 then [splitDemand, r5Clock]
  else if cpu = destCpuR5_L then [safeDemand, r5Clock]
  else [a53Clock]

def spareAll (part : BitField) (changes : List Change) : Bool := changes.all (fun change => change.spares part)

def keepAll (demand : Demand) (changes : List Change) : Bool := changes.all (fun change => change.keeps demand.part demand.value)

def changeLeaves (cpu : UInt32) (change : Change) : Bool :=
  (ownParts cpu).all (fun part => change.spares part) &&
    (commonDemands cpu).all (fun demand => change.keeps demand.part demand.value)

def leavesAlone (cpu : UInt32) (changes : List Change) : Bool := changes.all (changeLeaves cpu)

theorem real_cases (cpu : UInt32) (real : cpu ∈ loaderCpus) :
    cpu = destCpuA53_0 ∨ cpu = destCpuA53_1 ∨ cpu = destCpuA53_2 ∨ cpu = destCpuA53_3 ∨ cpu = destCpuR5_0 ∨
      cpu = destCpuR5_1 ∨ cpu = destCpuR5_L := by
  simpa only [loaderCpus, List.mem_cons, List.not_mem_nil, or_false] using real

theorem a53_leaves_alone (qemu aa32 : Bool) (vector : UInt32) (address : UInt64) (bit : vector = 0 ∨ vector = 1)
    (cpu other : UInt32) (core : A53Core) (own : a53Core other = some core) (real : cpu ∈ loaderCpus) (apart : cpu ≠ other) :
    leavesAlone cpu (a53Program qemu core aa32 vector address).whole = true := by
  rcases a53_core_cases other core own with ⟨rfl, rfl⟩ | ⟨rfl, rfl⟩ | ⟨rfl, rfl⟩ | ⟨rfl, rfl⟩ <;>
    rcases real_cases cpu real with rfl | rfl | rfl | rfl | rfl | rfl | rfl <;>
      first
      | exact absurd rfl apart
      | (cases qemu <;> cases aa32 <;> rcases bit with rfl | rfl <;> rfl)

theorem r5_leaves_alone (qemu : Bool) (vector : UInt32) (bit : vector = 0 ∨ vector = 1) (cpu : UInt32)
    (real : cpu ∈ loaderCpus) :
    (sharesCore cpu destCpuR5_0 = false → leavesAlone cpu (r5_0Program qemu vector).whole = true) ∧
      (sharesCore cpu destCpuR5_1 = false → leavesAlone cpu (r5_1Program qemu vector).whole = true) ∧
      (sharesCore cpu destCpuR5_L = false → leavesAlone cpu (r5_LProgram qemu vector).whole = true) := by
  rcases real_cases cpu real with rfl | rfl | rfl | rfl | rfl | rfl | rfl <;>
    cases qemu <;> rcases bit with rfl | rfl <;> decide

theorem stray_leaves_alone (aa32 : Bool) (address : UInt64) (cpu : UInt32) (real : cpu ∈ loaderCpus) :
    leavesAlone cpu (strayProgram aa32 address).whole = true := by
  rcases real_cases cpu real with rfl | rfl | rfl | rfl | rfl | rfl | rfl <;> cases aa32 <;> rfl

theorem shares_own (cpu : UInt32) : sharesCore cpu cpu = true := by
  simp [sharesCore]

theorem program_leaves_alone (qemu : Bool) (vector : UInt32) (bit : vector = 0 ∨ vector = 1) (cpu : UInt32)
    (real : cpu ∈ loaderCpus) (entry : HandoffValues) (apart : sharesCore cpu (cpuOf entry) = false) :
    leavesAlone cpu (programOf qemu vector entry).whole = true := by
  obtain ⟨first, second, lockStep⟩ := r5_leaves_alone qemu vector bit cpu real
  unfold programOf
  cases own : a53Core (cpuOf entry) with
  | some core =>
      have different : cpu ≠ cpuOf entry := by
        rintro rfl
        exact absurd (shares_own _) (Bool.eq_false_iff.mp apart)
      exact a53_leaves_alone qemu _ vector _ bit cpu _ core own real different
  | none =>
      dsimp only
      split_ifs with r5_0 r5_1 r5_L
      · exact first (r5_0 ▸ apart)
      · exact second (r5_1 ▸ apart)
      · exact lockStep (r5_L ▸ apart)
      · exact stray_leaves_alone _ _ cpu real

structure Prepares (release : Release) (gated : BitField) (entry released : List Demand) : Prop where
  closed : spareAll gated release.prepare = true
  settles : entry.all (fun demand => establishes demand.part demand.value release.prepare) = true
  stays : entry.all (fun demand => keepAll demand release.release) = true
  released : released.all (fun demand => establishes demand.part demand.value release.whole) = true

theorem low_settles (address value : UInt32) (rest : List Change)
    (kept : keepAll ⟨⟨address, 0xFFFFFFFF⟩, value⟩ rest = true) :
    establishes ⟨address, 0xFFFFFFFF⟩ value (out32 address value :: rest) = true := by
  rw [establishes, out32_fixes, Bool.true_and]
  exact Bool.or_eq_true_iff.mpr (.inl kept)

theorem rvbar_settles (qemu : Bool) (vector : UInt32) (address : UInt64) (cpu : UInt32) (core : A53Core)
    (own : a53Core cpu = some core) :
    establishes ⟨core.rvbarLow, 0xFFFFFFFF⟩ address.toUInt32 (a53Program qemu core false vector address).prepare = true ∧
      establishes ⟨core.rvbarHigh, 0xFFFFFFFF⟩ (address >>> 32).toUInt32
        (a53Program qemu core false vector address).prepare = true := by
  rcases a53_core_cases cpu core own with ⟨_, rfl⟩ | ⟨_, rfl⟩ | ⟨_, rfl⟩ | ⟨_, rfl⟩ <;> cases qemu <;>
    exact ⟨low_settles _ _ _ rfl, establishes_append [_] _ _ _ (low_settles _ _ _ rfl)⟩

theorem clock_settles (qemu : Bool) (vector : UInt32) (address : UInt64) (cpu : UInt32) (core : A53Core)
    (own : a53Core cpu = some core) :
    establishes a53Clock.part a53Clock.value (a53Program qemu core false vector address).prepare = true := by
  rcases a53_core_cases cpu core own with ⟨_, rfl⟩ | ⟨_, rfl⟩ | ⟨_, rfl⟩ | ⟨_, rfl⟩ <;> cases qemu <;> rfl

theorem a53_prepares (qemu aa32 : Bool) (vector : UInt32) (bit : vector = 0 ∨ vector = 1) (address : UInt64)
    (cpu : UInt32) (core : A53Core) (own : a53Core cpu = some core) :
    Prepares (a53Program qemu core aa32 vector address) (gate cpu) (a53Demands core aa32 vector address)
      (releasedDemands cpu) := by
  cases aa32 with
  | false =>
      obtain ⟨low, high⟩ := rvbar_settles qemu vector address cpu core own
      have clock := clock_settles qemu vector address cpu core own
      have settles : (a53Demands core false vector address).all (fun demand =>
          establishes demand.part demand.value (a53Program qemu core false vector address).prepare) = true := by
        simp only [a53Demands, Bool.false_eq_true, if_false, List.all_cons, List.all_nil, clock, low, high, Bool.and_self]
      rcases a53_core_cases cpu core own with ⟨rfl, rfl⟩ | ⟨rfl, rfl⟩ | ⟨rfl, rfl⟩ | ⟨rfl, rfl⟩ <;> cases qemu <;>
        exact ⟨rfl, settles, rfl, rfl⟩
  | true =>
      rcases a53_core_cases cpu core own with ⟨rfl, rfl⟩ | ⟨rfl, rfl⟩ | ⟨rfl, rfl⟩ | ⟨rfl, rfl⟩ <;> cases qemu <;>
        rcases bit with rfl | rfl <;> exact ⟨rfl, rfl, rfl, rfl⟩

theorem r5_prepares (qemu : Bool) (vector : UInt32) (bit : vector = 0 ∨ vector = 1) :
    Prepares (r5_0Program qemu vector) (gate destCpuR5_0) [splitDemand, r5Clock, ⟨⟨rpu0Cfg, rpuVinithi⟩, vector <<< 2⟩]
        (releasedDemands destCpuR5_0) ∧
      Prepares (r5_1Program qemu vector) (gate destCpuR5_1) [splitDemand, r5Clock, ⟨⟨rpu1Cfg, rpuVinithi⟩, vector <<< 2⟩]
        (releasedDemands destCpuR5_1) ∧
      Prepares (r5_LProgram qemu vector) (gate destCpuR5_L) [safeDemand, r5Clock, ⟨⟨rpu0Cfg, rpuVinithi⟩, vector <<< 2⟩]
        (releasedDemands destCpuR5_L) := by
  cases qemu <;> rcases bit with rfl | rfl <;> exact ⟨⟨rfl, rfl, rfl, rfl⟩, ⟨rfl, rfl, rfl, rfl⟩, rfl, rfl, rfl, rfl⟩

theorem program_prepares (qemu : Bool) (vector : UInt32) (bit : vector = 0 ∨ vector = 1) (entry : HandoffValues)
    (real : cpuOf entry ∈ loaderCpus) :
    Prepares (programOf qemu vector entry) (gate (cpuOf entry)) (entryDemands vector entry)
      (releasedDemands (cpuOf entry)) := by
  obtain ⟨first, second, lockStep⟩ := r5_prepares qemu vector bit
  unfold programOf entryDemands
  cases own : a53Core (cpuOf entry) with
  | some core => exact a53_prepares qemu _ vector bit _ _ core own
  | none =>
      dsimp only
      split_ifs with r5_0 r5_1 r5_L
      · exact r5_0 ▸ first
      · exact r5_1 ▸ second
      · exact r5_L ▸ lockStep
      · rcases real_cases _ real with known | known | known | known | known | known | known <;> rw [known] at own <;>
          contradiction

end LilacUxB.Fsbl
