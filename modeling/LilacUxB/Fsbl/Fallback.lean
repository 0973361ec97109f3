import LilacUxB.Fsbl.FirstPartitions

set_option autoImplicit false

-- XFsbl_ErrorLockDown: what becomes of a boot that has failed, and the search through the images
-- that the soft resets amount to.
namespace LilacUxB.Fsbl

open Registers

def csuMultiBoot : UInt32 := 0xFFCA0010
def bootModeUser : UInt32 := 0xFF5E0200
def bootModeMask : UInt32 := 0xF
def rpllCtrl : UInt32 := 0xFF5E0030
def rpllBypassMask : UInt32 := 0x8
def resetCtrl : UInt32 := 0xFF5E0218
def softResetMask : UInt32 := 0x10

def qspi24BootMode : UInt32 := 0x1
def qspi32BootMode : UInt32 := 0x2
def sd0BootMode : UInt32 := 0x3
def nandBootMode : UInt32 := 0x4
def sd1BootMode : UInt32 := 0x5
def emmcBootMode : UInt32 := 0x6
def sd1LsBootMode : UInt32 := 0xE

def fallbackModes : List UInt32 :=
  [qspi24BootMode, qspi32BootMode, nandBootMode, sd0BootMode, emmcBootMode, sd1BootMode, sd1LsBootMode]

inductive Recovery where
  | softReset | hangs | waits
deriving DecidableEq, Repr

-- `firstSilicon` is XPS_VERSION_1. After an APU-only reset there is no soft reset to wait for.
def updateMultiBoot (firstSilicon : Bool) (ps : HandoffPs) (multiBootValue : UInt32) (registers : File) : Recovery × File :=
  let written := run [out32 csuMultiBoot multiBootValue] registers
  let bypassed := if firstSilicon then run [⟨rpllCtrl, 0, rpllBypassMask⟩] written else written
  if ps.fsbl.resetReason ≠ apuOnlyReset then (.softReset, run [⟨resetCtrl, 0, softResetMask⟩] bypassed)
  else (.hangs, bypassed)

def fallBack (firstSilicon : Bool) (build : Build) (ps : HandoffPs) (registers : File) : Recovery × File :=
  let stopped := run (stopWdt build ps) registers
  updateMultiBoot firstSilicon ps (stopped csuMultiBoot + 1) stopped

def errorLockDown (firstSilicon : Bool) (build : Build) (ps : HandoffPs) (errorStatus : UInt32) (registers : File) :
    Recovery × File :=
  let reported := run [out32 errorStatusRegister errorStatus] registers
  if reported bootModeUser &&& bootModeMask ∈ fallbackModes then fallBack firstSilicon build ps reported
  else (.waits, run exitChanges reported)

structure PowerOn where
  env : BootEnv
  ps : HandoffPs
  registers : File

-- `rom` is the boot ROM: which loader it enters, and how, for a value of the multiboot register.
structure Board where
  firstSilicon : Bool
  rom : UInt32 → PowerOn

structure System where
  image : UInt32
  main : MainState

inductive SystemEnd where
  | left (image : UInt32) (address : UInt64) (flags : UInt32) (registers : File)
  | stuck (image : UInt32) (recovery : Recovery) (registers : File)

def reset (board : Board) (multiBoot : UInt32) : System :=
  ⟨multiBoot, mainStart (board.rom multiBoot).ps (board.rom multiBoot).registers⟩

def afterMain (board : Board) (image : UInt32) (left : MainEnd) : System ⊕ SystemEnd :=
  match left.ending with
  | .exit address flags => .inr (.left image address flags left.registers)
  | .lockDown errorStatus =>
      let locked := errorLockDown board.firstSilicon (board.rom image).env.build left.ps errorStatus left.registers
      if locked.1 = .softReset then .inl (reset board (locked.2 csuMultiBoot)) else .inr (.stuck image locked.1 locked.2)

def systemStep (board : Board) (system : System) : System ⊕ SystemEnd :=
  match mainStep (board.rom system.image).env system.main with
  | .inl next => .inl { system with main := next }
  | .inr left => afterMain board system.image left

def releaseRegisters : List UInt32 := cpuRegisters ++ [reqPwrupIntEn, reqPwrupTrig, acpuCtrl, cpuR5Ctrl, 0]

def Foreign (address : UInt32) : Prop :=
  address ∉ ownRegisters ∧ address ∉ releaseRegisters ∧ address ≠ r5UsageStatusReg

theorem multi_boot_foreign : Foreign csuMultiBoot := ⟨by decide, by decide, by decide⟩

theorem boot_mode_foreign : Foreign bootModeUser := ⟨by decide, by decide, by decide⟩

theorem a53_program_registers (qemu aa32 : Bool) (vector : UInt32) (address : UInt64) (cpu : UInt32) (core : A53Core)
    (own : a53Core cpu = some core) :
    (a53Program qemu core aa32 vector address).whole.all (fun change => releaseRegisters.contains change.address) = true := by
  rcases a53_core_cases cpu core own with ⟨_, rfl⟩ | ⟨_, rfl⟩ | ⟨_, rfl⟩ | ⟨_, rfl⟩ <;> cases qemu <;> cases aa32 <;> rfl

theorem program_registers (qemu : Bool) (vector : UInt32) (entry : HandoffValues) :
    (programOf qemu vector entry).whole.all (fun change => releaseRegisters.contains change.address) = true := by
  unfold programOf
  cases own : a53Core (cpuOf entry) with
  | some core => exact a53_program_registers qemu _ vector _ _ core own
  | none =>
      dsimp only
      split_ifs
      · cases qemu <;> rfl
      · cases qemu <;> rfl
      · cases qemu <;> rfl
      · cases decide (execStateOf entry = execStAA32) <;> rfl

theorem handoff_foreign (map : MemoryMap) (build : Build) (platform : Platform) (outcomes : HandoffOutcomes)
    (registers : File) (ps : HandoffPs) (partitionNum : UInt32) (early : Bool) (index : UInt32) (address : UInt32)
    (foreign : Foreign address) (file : File) :
    run (handoff map build platform outcomes registers ps partitionNum early index).changes file address = file address := by
  obtain ⟨before, after, served, first, last, _, changes⟩ :=
    handoff_changes map build platform outcomes registers ps partitionNum early index
  rw [changes]
  apply run_untouched
  intro change member same
  rw [List.mem_append, List.mem_append] at member
  rcases member with (early | released) | late
  · exact foreign.1 (same ▸ first change early)
  · obtain ⟨entry, _, inside⟩ := List.mem_flatMap.mp released
    rw [release_program] at inside
    have known := List.all_eq_true.mp (program_registers platform.qemu (vectorOf ps partitionNum) entry) change inside
    exact foreign.2.1 (same ▸ List.contains_iff_mem.mp known)
  · exact foreign.1 (same ▸ last change late)

theorem marks_foreign (ps : HandoffPs) (partitionNum : UInt32) (address : UInt32) (foreign : Foreign address)
    (file : File) : run (markUsedRPUCores ps partitionNum) file address = file address := by
  have apart := foreign.2.2
  unfold markUsedRPUCores
  dsimp only
  split_ifs
  · exact run_other _ _ _ _ _ apart.symm
  · exact run_other _ _ _ _ _ apart.symm
  · exact run_other _ _ _ _ _ apart.symm
  · rfl

theorem hand_over_foreign (env : BootEnv) (state : Loading) (partitionNum : UInt32) (address : UInt32)
    (foreign : Foreign address) : (handOver env state partitionNum).registers address = state.registers address :=
  handoff_foreign env.map env.build env.platform (env.handoff 0) state.registers state.ps partitionNum false 0 address
    foreign state.registers

theorem loads_foreign (env : BootEnv) (ps : HandoffPs) (registers : File) (address : UInt32) (foreign : Foreign address) :
    (loadPartitions env ps registers).2.registers address = registers address := by
  have next (partitionNum : Nat) (state : Loading) (kept : state.registers address = registers address) :
      (loadNext env partitionNum state).2.registers address = registers address := by
    simp only [loadNext]
    split_ifs
    · exact (marks_foreign _ _ address foreign _).trans kept
    · exact kept
  exact Loops.iterate_always .success (loadNext env) (lastLoaded ps + 1)
    (fun _ state => state.registers address = registers address)
    (fun partitionNum state _ kept _ => next partitionNum state kept) (fun state => state.registers address = registers address)
    (fun _ _ _ kept => kept) (fun partitionNum state _ kept _ => next partitionNum state kept) (lastLoaded ps) 1
    ⟨ps, registers, []⟩ (Nat.add_comm 1 _) rfl

theorem boot_foreign (env : BootEnv) (registers : File) (address : UInt32) (foreign : Foreign address) :
    (straightBoot env registers).registers address = registers address := by
  have usage (clear set : UInt32) : run [⟨r5UsageStatusReg, clear, set⟩] registers address = registers address :=
    run_other _ _ _ _ _ foreign.2.2.symm
  by_cases failed : env.initialized.1 ≠ fsblSuccess
  · rw [straight_uninitialized env registers failed]
  · have done := not_not.mp failed
    by_cases broken : (env.bootDeviceInitAndValidate env.initialized.2).1 ≠ fsblSuccess ∧
        (env.bootDeviceInitAndValidate env.initialized.2).1 ≠ statusJtag
    · rw [straight_no_device env registers done broken]
    · by_cases jtag : (env.bootDeviceInitAndValidate env.initialized.2).1 = statusJtag
      · rw [straight_jtag env registers done jtag]
        exact (hand_over_foreign env _ 0 address foreign).trans (usage _ _)
      · have device : (env.bootDeviceInitAndValidate env.initialized.2).1 = fsblSuccess := by
          by_contra other
          exact broken ⟨other, jtag⟩
        have loaded : (deviceLoads env registers).2.registers address = registers address :=
          (loads_foreign env _ _ address foreign).trans (usage _ _)
        by_cases stopped : (deviceLoads env registers).1 ≠ .success
        · rw [straight_load_failed env registers done device stopped]
          exact loaded
        · rw [straight_loaded env registers done device (not_not.mp stopped)]
          exact (hand_over_foreign env _ _ address foreign).trans loaded

theorem reported_other (errorStatus : UInt32) (registers : File) (address : UInt32) (apart : errorStatusRegister ≠ address) :
    run [out32 errorStatusRegister errorStatus] registers address = registers address :=
  run_other _ _ _ _ _ apart

theorem watchdog_other (build : Build) (ps : HandoffPs) (registers : File) (address : UInt32)
    (apart : errorSrstDis1 ≠ address) : run (stopWdt build ps) registers address = registers address := by
  unfold stopWdt
  split
  · split_ifs
    · exact run_other _ _ _ _ _ apart
    · rfl
  · rfl

theorem lock_down_unsupported (firstSilicon : Bool) (build : Build) (ps : HandoffPs) (errorStatus : UInt32)
    (registers : File) (unsupported : registers bootModeUser &&& bootModeMask ∉ fallbackModes) :
    (errorLockDown firstSilicon build ps errorStatus registers).1 = .waits := by
  rw [errorLockDown, reported_other _ _ bootModeUser (by decide), if_neg unsupported]

theorem update_multi_boot (firstSilicon : Bool) (ps : HandoffPs) (value : UInt32) (registers : File) :
    (updateMultiBoot firstSilicon ps value registers).1 =
        (if ps.fsbl.resetReason ≠ apuOnlyReset then .softReset else .hangs) ∧
      (updateMultiBoot firstSilicon ps value registers).2 csuMultiBoot = value := by
  let written := run [out32 csuMultiBoot value] registers
  let bypassed := if firstSilicon then run [⟨rpllCtrl, 0, rpllBypassMask⟩] written else written
  have kept : bypassed csuMultiBoot = value := by
    cases firstSilicon with
    | false => exact run_written _ _ _
    | true => exact (run_other rpllCtrl _ _ csuMultiBoot written (by decide)).trans (run_written _ _ _)
  by_cases apuOnly : ps.fsbl.resetReason ≠ apuOnlyReset
  · have reset : updateMultiBoot firstSilicon ps value registers =
        (.softReset, run [⟨resetCtrl, 0, softResetMask⟩] bypassed) := if_pos apuOnly
    rw [reset, if_pos apuOnly]
    exact ⟨rfl, (run_other resetCtrl 0 softResetMask csuMultiBoot bypassed (by decide)).trans kept⟩
  · have hangs : updateMultiBoot firstSilicon ps value registers = (.hangs, bypassed) := if_neg apuOnly
    rw [hangs, if_neg apuOnly]
    exact ⟨rfl, kept⟩

theorem lock_down_supported (firstSilicon : Bool) (build : Build) (ps : HandoffPs) (errorStatus : UInt32)
    (registers : File) (supported : registers bootModeUser &&& bootModeMask ∈ fallbackModes) :
    (errorLockDown firstSilicon build ps errorStatus registers).1 =
        (if ps.fsbl.resetReason ≠ apuOnlyReset then .softReset else .hangs) ∧
      (errorLockDown firstSilicon build ps errorStatus registers).2 csuMultiBoot = registers csuMultiBoot + 1 := by
  rw [errorLockDown, reported_other _ _ bootModeUser (by decide), if_pos supported, fallBack,
    watchdog_other _ _ _ csuMultiBoot (by decide), reported_other _ _ csuMultiBoot (by decide)]
  exact update_multi_boot _ _ _ _

def bootOf (board : Board) (image : UInt32) : MainEnd := straightBoot (board.rom image).env (board.rom image).registers

def FallsBack (board : Board) (image : UInt32) : Prop :=
  (∃ errorStatus, (bootOf board image).ending = .lockDown errorStatus) ∧
    (board.rom image).registers bootModeUser &&& bootModeMask ∈ fallbackModes ∧
    (bootOf board image).ps.fsbl.resetReason ≠ apuOnlyReset

def conclusion (board : Board) (image : UInt32) : SystemEnd :=
  match (bootOf board image).ending with
  | .exit address flags => .left image address flags (bootOf board image).registers
  | .lockDown errorStatus =>
      let locked := errorLockDown board.firstSilicon (board.rom image).env.build (bootOf board image).ps errorStatus
        (bootOf board image).registers
      .stuck image locked.1 locked.2

theorem after_boot (board : Board) (image : UInt32) :
    (FallsBack board image →
        afterMain board image (bootOf board image) =
          .inl (reset board ((board.rom image).registers csuMultiBoot + 1))) ∧
      (¬ FallsBack board image → afterMain board image (bootOf board image) = .inr (conclusion board image)) := by
  have multiBoot : (bootOf board image).registers csuMultiBoot = (board.rom image).registers csuMultiBoot :=
    boot_foreign _ _ _ multi_boot_foreign
  have mode : (bootOf board image).registers bootModeUser = (board.rom image).registers bootModeUser :=
    boot_foreign _ _ _ boot_mode_foreign
  unfold FallsBack afterMain conclusion
  cases ending : (bootOf board image).ending with
  | exit address flags =>
      refine ⟨?_, fun _ => rfl⟩
      rintro ⟨⟨errorStatus, locked⟩, _⟩
      cases locked
  | lockDown errorStatus =>
      dsimp only
      by_cases supported : (board.rom image).registers bootModeUser &&& bootModeMask ∈ fallbackModes
      · obtain ⟨recovery, next⟩ := lock_down_supported board.firstSilicon (board.rom image).env.build
          (bootOf board image).ps errorStatus (bootOf board image).registers (by rwa [mode])
        by_cases apuOnly : (bootOf board image).ps.fsbl.resetReason ≠ apuOnlyReset
        · rw [if_pos apuOnly] at recovery
          refine ⟨fun _ => ?_, fun stays => absurd ⟨⟨errorStatus, rfl⟩, supported, apuOnly⟩ stays⟩
          rw [if_pos recovery, next, multiBoot]
        · rw [if_neg apuOnly] at recovery
          refine ⟨fun falls => absurd falls.2.2 apuOnly, fun _ => ?_⟩
          rw [if_neg (by rw [recovery]; decide)]
      · have waits := lock_down_unsupported board.firstSilicon (board.rom image).env.build (bootOf board image).ps
          errorStatus (bootOf board image).registers (by rwa [mode])
        refine ⟨fun falls => absurd falls.2.1 supported, fun _ => ?_⟩
        rw [if_neg (by rw [waits]; decide)]

def attempt (board : Board) (start : UInt32) : Nat → UInt32
  | 0 => start
  | count + 1 => (board.rom (attempt board start count)).registers csuMultiBoot + 1

theorem boot_leads (board : Board) (plain : ∀ image, (board.rom image).env.build.earlyHandoff = false) (image : UInt32) :
    Loops.Leads (systemStep board) (reset board image) (afterMain board image (bootOf board image)) := by
  have follows (state : MainState) : systemStep board ⟨image, state⟩ =
      Sum.elim (fun next => .inl ⟨image, next⟩) (afterMain board image) (mainStep (board.rom image).env state) := by
    unfold systemStep
    cases mainStep (board.rom image).env state <;> rfl
  exact Loops.nested_leads (mainStep (board.rom image).env) (systemStep board) (fun state => ⟨image, state⟩)
    (afterMain board image) follows _ _ _
    (straight_boot (board.rom image).env (plain image) (board.rom image).ps (board.rom image).registers 0)

theorem fallback_leads (board : Board) (plain : ∀ image, (board.rom image).env.build.earlyHandoff = false) (start : UInt32)
    (index : Nat) (falls : FallsBack board (attempt board start index)) :
    Loops.Leads (systemStep board) (reset board (attempt board start index))
      (.inl (reset board (attempt board start (index + 1)))) := by
  have leads := boot_leads board plain (attempt board start index)
  rwa [(after_boot board _).1 falls] at leads

theorem fallback_forever (board : Board) (plain : ∀ image, (board.rom image).env.build.earlyHandoff = false)
    (start : UInt32) (falls : ∀ index, FallsBack board (attempt board start index)) (fuel : Nat) :
    Loops.runUntil (systemStep board) fuel (reset board start) = none :=
  Loops.leads_forever (systemStep board) (fun index => reset board (attempt board start index))
    (fun index => fallback_leads board plain start index (falls index)) fuel 0

theorem fallback_finds_first (board : Board) (plain : ∀ image, (board.rom image).env.build.earlyHandoff = false)
    (start : UInt32) :
    (∀ count, (∀ index, index < count → FallsBack board (attempt board start index)) →
        ¬ FallsBack board (attempt board start count) →
        ∃ fuel, Loops.runUntil (systemStep board) fuel (reset board start) =
          some (conclusion board (attempt board start count))) ∧
      ((∀ index, FallsBack board (attempt board start index)) →
        ∀ fuel, Loops.runUntil (systemStep board) fuel (reset board start) = none) := by
  constructor
  · intro count falls stays
    have ends := boot_leads board plain (attempt board start count)
    rw [(after_boot board _).2 stays] at ends
    obtain ⟨used, _, _, reached⟩ := Loops.leads_found (systemStep board) (fun index => reset board (attempt board start index))
      count _ (fun index less => fallback_leads board plain start index (falls index less)) ends
    exact ⟨used + 0, reached 0⟩
  · exact fallback_forever board plain start

def secondImage : Board where
  firstSilicon := false
  rom multiBoot :=
    ⟨if multiBoot = 0 then { r5Boot with bootDeviceInitAndValidate := fun ps => (0x21, ps) } else r5Boot, twoCores,
      fun address => if address = csuMultiBoot then multiBoot else if address = bootModeUser then qspi32BootMode else 0⟩

theorem second_image_found :
    (bootOf secondImage 1).ending = .exit 0 noHandoffExit ∧
      ∃ fuel, Loops.runUntil (systemStep secondImage) fuel (reset secondImage 0) = some (conclusion secondImage 1) := by
  have plain (image : UInt32) : (secondImage.rom image).env.build.earlyHandoff = false := by
    by_cases first : image = 0 <;> simp [secondImage, first, r5Boot, unprotected]
  have ends : (bootOf secondImage 1).ending = .exit 0 noHandoffExit := by decide
  refine ⟨ends, (fallback_finds_first secondImage plain 0).1 1 ?_ ?_⟩
  · intro index less
    obtain rfl := Nat.lt_one_iff.mp less
    exact ⟨⟨0x21 + errorStage2, by decide⟩, by decide, by decide⟩
  · rintro ⟨⟨errorStatus, locked⟩, _⟩
    exact BootEnd.noConfusion (ends.symm.trans locked)

end LilacUxB.Fsbl
