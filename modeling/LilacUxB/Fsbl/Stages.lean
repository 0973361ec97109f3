import LilacUxB.Loops
import LilacUxB.Fsbl.Handoff

set_option autoImplicit false

-- xfsbl_main.c: the loop over the stages of the loader.
namespace LilacUxB.Fsbl

open Registers

def XFsblStatus.code : XFsblStatus → UInt32
  | .success => 0x0
  | .successNotPartitionOwner => 0x2
  | .statusSecondaryBootMode => 0x5
  | .failure => 0x3FFFFFFF
  | .errorIhtChecksum => 0x21
  | .errorPpd => 0xE
  | .errorNoOfPartitions => 0xD
  | .errorBhAuthIsNotallowed => 0x70
  | .errorImageHeaderAcoffset => 0x64
  | .errorPhChecksumFailed => 0x17
  | .errorXipAuthEncPresent => 0xF
  | .errorXipExecAddress => 0x10
  | .errorPartitionLength => 0x11
  | .errorAddress => 0x2E
  | .errorInvalidChecksumType => 0x12
  | .errorInvalidCpuType => 0x13
  | .errorLsCpuType => 0x14
  | .errorInvalidDestDevice => 0x15
  | .errorLoadAddress => 0x24
  | .errorTcmEccInit => 0x4D
  | .errorAesInitialize => 0x56
  | .errorHookBeforeBitstreamDownload => 0x25
  | .errorPartitionChecksumFailed => 0x4F
  | .errorBlockSizeSecBs => 0x63
  | .errorSha2NotSupported => 0x78
  | .errorDecryptionFail => 0x36
  | .errorBitstreamDecryptionFail => 0x3A
  | .errorHookAfterBitstreamDownload => 0x26
  | .errorPartRsaDecrypt => 0x31
  | .errorRsaInitialize => 0x59
  | .errorChunkHashComparison => 0x60
  | .errorProvidedBufHashStore => 0x61
  | .device code => code

def HandoffStatus.code : HandoffStatus → UInt32
  | .success => 0x0
  | .continuePartitionLoad => 0x3
  | .continueOtherHandoff => 0x4
  | .errorPmInit => 0x50
  | .errorProtectionCfg => 0x51
  | .errorHookBeforeHandoff => 0x27
  | .errorUnavailableCpu => 0x52
  | .errorHandoffCpuid => 0x23
  | .errorUnsupportedHandoff => 0x4E

def fsblSuccess : UInt32 := 0x0
def statusJtag : UInt32 := 0x1
def errorStage1 : UInt32 := 0x0000
def errorStage2 : UInt32 := 0x2000
def errorStage3 : UInt32 := 0x4000
def errorStage4 : UInt32 := 0x6000

def r5UsageStatusReg : UInt32 := 0xFFD80040
def r5_0StatusMask : UInt32 := 0x2
def r5_1StatusMask : UInt32 := 0x4

def destDeviceNone : UInt32 := 0x0
def destDevicePs : UInt32 := 0x10

inductive FsblStage where
  | stage1 | stage2 | stage3 | stage4 | err
deriving DecidableEq, Repr

-- What the initialization and the boot device leave behind, and how the loads and hand-offs go.
structure BootEnv where
  map : MemoryMap
  build : Build
  platform : Platform
  initialized : UInt32 × HandoffPs
  bootDeviceInitAndValidate : HandoffPs → UInt32 × HandoffPs
  load : UInt32 → Outcomes
  handoff : Nat → HandoffOutcomes

-- `loaded` lists the partitions that were loaded, successfully or not, and `handoffs` counts
-- the calls of XFsbl_Handoff.
structure MainState where
  stage : FsblStage
  fsblStatus : UInt32
  ps : HandoffPs
  partitionNum : UInt32
  earlyHandoff : Bool
  cpuIndexEarlyHandoff : UInt32
  registers : File
  loaded : List UInt32
  handoffs : Nat

inductive BootEnd where
  | exit (address : UInt64) (flags : UInt32)
  | lockDown (errorStatus : UInt32)
deriving DecidableEq, Repr

structure MainEnd where
  ending : BootEnd
  ps : HandoffPs
  registers : File
  loaded : List UInt32
  handoffs : Nat

def lastPartition (ps : HandoffPs) : UInt32 := ps.imageHeader.imageHeaderTable.noOfPartitions - 1

def headerAt (ps : HandoffPs) (partitionNum : UInt32) : PartitionHeader :=
  ps.imageHeader.partitionHeader partitionNum.toNat

def markUsedRPUCores (ps : HandoffPs) (partitionNum : UInt32) : List Change :=
  let destCpu := getDestinationCpu (headerAt ps partitionNum)
  if destCpu = destCpuR5_0 ∨ destCpu = destCpuR5_L then [⟨r5UsageStatusReg, 0, r5_0StatusMask⟩]
  else if destCpu = destCpuR5_1 then [⟨r5UsageStatusReg, 0, r5_1StatusMask⟩]
  else if destCpu = destCpuNone ∧ (ps.fsbl.processorID = destCpuR5_0 ∨ ps.fsbl.processorID = destCpuR5_L) then
    [⟨r5UsageStatusReg, 0, r5_0StatusMask⟩]
  else []

def applicationCpu (ps : HandoffPs) (partitionNum : UInt32) : UInt32 :=
  let header := headerAt ps partitionNum
  if getDestinationCpu header = destCpuNone ∧
      (getDestinationDevice header = destDevicePs ∨ getDestinationDevice header = destDeviceNone) then ps.fsbl.processorID
  else getDestinationCpu header

def checkEarlyHandoff (build : Build) (ps : HandoffPs) (partitionNum : UInt32) : Bool :=
  let destinationCpu := applicationCpu ps partitionNum
  let destinationCpuNxt := if partitionNum + 1 ≤ lastPartition ps then applicationCpu ps (partitionNum + 1) else 0
  build.earlyHandoff && checkEarlyHandoffCpu build destinationCpu && destinationCpu ≠ ps.fsbl.processorID &&
    destinationCpuNxt ≠ destinationCpu

def loadOne (env : BootEnv) (partitionNum : UInt32) (ps : HandoffPs) : XFsblStatus × HandoffPs :=
  let result := partitionLoad env.map (env.load partitionNum) ps.fsbl (headerAt ps partitionNum)
  (result.1, { ps with fsbl := result.2 })

def stage1 (env : BootEnv) (state : MainState) : MainState :=
  let state := { state with ps := env.initialized.2, fsblStatus := env.initialized.1 }
  if env.initialized.1 ≠ fsblSuccess then { state with fsblStatus := state.fsblStatus + errorStage1, stage := .err }
  else { state with stage := .stage2 }

def stage2 (env : BootEnv) (state : MainState) : MainState :=
  let result := env.bootDeviceInitAndValidate state.ps
  let state := { state with ps := result.2, fsblStatus := result.1 }
  if result.1 ≠ fsblSuccess ∧ result.1 ≠ statusJtag then
    { state with fsblStatus := state.fsblStatus + errorStage2, stage := .err }
  else if result.1 = statusJtag then
    { state with
      registers := run [⟨r5UsageStatusReg, 0, r5_0StatusMask ||| r5_1StatusMask⟩] state.registers
      stage := .stage4 }
  else
    { state with
      partitionNum := 1
      registers := run [⟨r5UsageStatusReg, r5_0StatusMask ||| r5_1StatusMask, 0⟩] state.registers
      stage := .stage3 }

def stage3 (env : BootEnv) (state : MainState) : MainState :=
  let result := loadOne env state.partitionNum state.ps
  let state := { state with ps := result.2, loaded := state.loaded ++ [state.partitionNum] }
  if result.1 ≠ .success then { state with fsblStatus := result.1.code + errorStage3, stage := .err }
  else
    let early := checkEarlyHandoff env.build state.ps state.partitionNum
    let state := { state with registers := run (markUsedRPUCores state.ps state.partitionNum) state.registers }
    if state.partitionNum < lastPartition state.ps then
      if early then { state with earlyHandoff := true, stage := .stage4 }
      else { state with partitionNum := state.partitionNum + 1 }
    else { state with earlyHandoff := early, stage := .stage4 }

-- A hand-off that returns success would be the default stage; none does.
def stage4 (env : BootEnv) (state : MainState) : MainState ⊕ MainEnd :=
  let result := handoff env.map env.build env.platform (env.handoff state.handoffs) state.registers state.ps
    state.partitionNum state.earlyHandoff state.cpuIndexEarlyHandoff
  let state := { state with
    registers := run result.changes state.registers
    cpuIndexEarlyHandoff := result.cpuIndexEarlyHandoff
    handoffs := state.handoffs + 1 }
  match result.ending with
  | .exit address flags => .inr ⟨.exit address flags, state.ps, state.registers, state.loaded, state.handoffs⟩
  | .returns .continuePartitionLoad => .inl { state with partitionNum := state.partitionNum + 1, stage := .stage3 }
  | .returns .continueOtherHandoff => .inl { state with earlyHandoff := false }
  | .returns .success =>
      let left := handoffExit env.map 0 noHandoffExit
      .inr ⟨.exit 0 noHandoffExit, state.ps, run left.1 state.registers, state.loaded, state.handoffs⟩
  | .returns status => .inl { state with fsblStatus := status.code + errorStage4, stage := .err }

def mainStep (env : BootEnv) (state : MainState) : MainState ⊕ MainEnd :=
  match state.stage with
  | .stage1 => .inl (stage1 env state)
  | .stage2 => .inl (stage2 env state)
  | .stage3 => .inl (stage3 env state)
  | .stage4 => stage4 env state
  | .err => .inr ⟨.lockDown state.fsblStatus, state.ps, state.registers, state.loaded, state.handoffs⟩

def mainStart (ps : HandoffPs) (registers : File) : MainState :=
  ⟨.stage1, fsblSuccess, ps, 0, false, 0, registers, [], 0⟩

end LilacUxB.Fsbl
