import LilacUxB.Fsbl.CpuSettings
import LilacUxB.Fsbl.HandoffTable
import LilacUxB.Fsbl.ImageHeader

set_option autoImplicit false

-- XFsbl_Handoff: one pass over the hand-off table, and how the loader ends.
namespace LilacUxB.Fsbl

open Registers

-- XFSBL_EARLY_HANDOFF, XFSBL_PROT_BYPASS and XFSBL_WDT_PRESENT with its mask.
structure Build where
  earlyHandoff : Bool
  protBypass : Bool
  wdtMask : Option UInt32

-- What the silicon says about itself: `info` is the platform, `procEng` the suffix of the part number.
structure Platform where
  info : UInt32
  qemu : Bool
  procEng : String

structure HandoffPs where
  fsbl : XFsblPs
  a53ExecState : UInt32
  primaryBootDevice : UInt32
  imageHeader : ImageHeader

structure HandoffOutcomes where
  pmInit : Bool
  psuProtection : Bool
  psuProtectionLock : Bool
  hookBeforeHandoff : Bool

def globGenStorage5 : UInt32 := 0xFFD80044
def errorStatusRegister : UInt32 := 0xFFD80060
def sdCdnCtrl : UInt32 := 0xFF18035C
def sysmonConfigReg1 : UInt32 := 0xFFA50904
def sysmonConfigReg3 : UInt32 := 0xFFA5090C
def errorSrstDis1 : UInt32 := 0xFFD80570

def jtagBootMode : UInt32 := 0x0
def fsblRunning : UInt32 := 0xFFFF
def runningOnA53 : UInt32 := 0x4
def stateProcInfoMask : UInt32 := 0x6
def execCompleted : UInt32 := 0x1
def fsblCompleted : UInt32 := 0x0

def noHandoffExit : UInt32 := 0x0
def handoffExitFlag : UInt32 := 0x1
def handoffExit32Flag : UInt32 := 0x2

inductive Ending where
  | exit (address : UInt64) (flags : UInt32)
  | returns (status : HandoffStatus)
deriving DecidableEq, Repr

structure HandoffResult where
  changes : List Change
  ending : Ending
  cpuIndexEarlyHandoff : UInt32

def checkSupportedCpu (platform : Platform) (cpuId : UInt32) : Bool :=
  ¬ (platform.procEng = "CG" ∧ (cpuId = destCpuA53_2 ∨ cpuId = destCpuA53_3))

def checkEarlyHandoffCpu (build : Build) (cpuId : UInt32) : Bool :=
  build.earlyHandoff && (cpuId = destCpuR5_0 || cpuId = destCpuR5_1 || cpuId = destCpuR5_L)

def getVectorLocation (header : PartitionHeader) : UInt32 := header.partitionAttributes &&& 0x800000

def protectionConfig (build : Build) (outcomes : HandoffOutcomes) (registers : File) : HandoffStatus × List Change :=
  let disabled : List Change := [⟨sysmonConfigReg1, 0, 0xF0E⟩, ⟨sysmonConfigReg3, 0, 0x3F⟩]
  if ¬ build.protBypass ∧ ¬ (outcomes.psuProtection ∧ outcomes.psuProtectionLock) then (.errorProtectionCfg, disabled)
  else
    (.success,
      disabled ++ [out32 sysmonConfigReg1 (registers sysmonConfigReg1), out32 sysmonConfigReg3 (registers sysmonConfigReg3)])

def exitChanges : List Change := [⟨globGenStorage5, execCompleted, execCompleted⟩]

def handoffExit (map : MemoryMap) (address : UInt64) (flags : UInt32) : List Change × Ending :=
  (exitChanges, .exit (ptrSize map address) flags)

structure Walk where
  changes : List Change
  running : Option (UInt64 × UInt32)
  cpuIndexEarlyHandoff : UInt32

def execStateOf (entry : HandoffValues) : UInt32 := entry.cpuSettings &&& a53ExecStMask

def releaseProgram (qemu : Bool) (vector : UInt32) (entry : HandoffValues) : List Change :=
  (setCpuPwrSettings qemu entry.cpuSettings cpuPowerUp).2 ++
    updateResetVector entry.handoffAddress entry.cpuSettings otherCpuHandoff vector ++
    (setCpuPwrSettings qemu entry.cpuSettings cpuSwrst).2

def serveOther (platform : Platform) (vector : UInt32) (entry : HandoffValues) (walk : Walk) : HandoffStatus × Walk :=
  if ¬ checkSupportedCpu platform (cpuOf entry) then (.errorUnavailableCpu, walk)
  else
    ((setCpuPwrSettings platform.qemu entry.cpuSettings cpuSwrst).1,
      { walk with changes := walk.changes ++ releaseProgram platform.qemu vector entry })

def serveRunning (ps : HandoffPs) (entry : HandoffValues) (walk : Walk) : HandoffStatus × Walk :=
  let found := { walk with running := some (entry.handoffAddress, execStateOf entry) }
  if (ps.a53ExecState = execStAA64 ∧ execStateOf entry = execStAA32) ∨
      (ps.a53ExecState = execStAA32 ∧ execStateOf entry = execStAA64) then (.errorUnsupportedHandoff, found)
  else (.success, found)

def serves (build : Build) (ps : HandoffPs) (early : Bool) (entry : HandoffValues) : Bool :=
  let needsEarly := checkEarlyHandoffCpu build (cpuOf entry)
  (needsEarly && early) || (!early && !needsEarly) || (!early && needsEarly && cpuOf entry = ps.fsbl.processorID)

def serve (build : Build) (platform : Platform) (ps : HandoffPs) (early : Bool) (vector : UInt32) (entry : HandoffValues)
    (walk : Walk) : HandoffStatus × Walk :=
  if serves build ps early entry then
    if cpuOf entry ≠ ps.fsbl.processorID then serveOther platform vector entry walk else serveRunning ps entry walk
  else (.success, walk)

-- The loop over the table. After one early hand-off it is left for the next partition, or for
-- the other hand-offs where this was the last partition.
def handoffLoop (build : Build) (platform : Platform) (ps : HandoffPs) (early : Bool) (vector partitionNum : UInt32) :
    List HandoffValues → Walk → HandoffStatus × Walk
  | [], walk => (.success, walk)
  | entry :: rest, walk =>
      let served := serve build platform ps early vector entry walk
      let counted := { served.2 with cpuIndexEarlyHandoff := served.2.cpuIndexEarlyHandoff + 1 }
      if served.1 ≠ .success then served
      else if early ∧ checkEarlyHandoffCpu build (cpuOf entry) then
        if partitionNum < ps.imageHeader.imageHeaderTable.noOfPartitions - 1 then (.continuePartitionLoad, counted)
        else (.continueOtherHandoff, served.2)
      else handoffLoop build platform ps early vector partitionNum rest counted

def runningStatus (ps : HandoffPs) : List Change :=
  let procType := if ps.fsbl.processorID = destCpuA53_0 then fsblRunning ||| runningOnA53 else fsblRunning
  [⟨globGenStorage5, stateProcInfoMask, procType⟩, out32 sdCdnCtrl 0]

-- Power management and protection, which an APU-only reset has left as they were.
def systemConfig (build : Build) (outcomes : HandoffOutcomes) (ps : HandoffPs) (registers : File) :
    HandoffStatus × List Change :=
  if ps.fsbl.resetReason = apuOnlyReset then (.success, [])
  else if ¬ outcomes.pmInit then (.errorPmInit, [])
  else protectionConfig build outcomes registers

def jtagExit (map : MemoryMap) (platform : Platform) : List Change × Ending :=
  if platform.info = 2 then
    ([out32 errorStatusRegister fsblCompleted, out32 0xFFFC0000 (if map.narrowPointer then 0xEAFFFFFE else 0x14000000)],
      .exit 0xFFFC0000 handoffExitFlag)
  else
    let left := handoffExit map 0 noHandoffExit
    (out32 errorStatusRegister fsblCompleted :: left.1, left.2)

def stopWdt (build : Build) (ps : HandoffPs) : List Change :=
  match build.wdtMask with
  | some mask => if ps.fsbl.resetReason ≠ apuOnlyReset then [⟨errorSrstDis1, 0, mask⟩] else []
  | none => []

def finalExit (map : MemoryMap) (build : Build) (ps : HandoffPs) (running : Option (UInt64 × UInt32)) :
    List Change × Ending :=
  let left :=
    match running with
    | some (address, execState) =>
        handoffExit map address (if execState = execStAA32 then handoffExit32Flag else handoffExitFlag)
    | none => handoffExit map 0 noHandoffExit
  (out32 errorStatusRegister fsblCompleted :: stopWdt build ps ++ left.1, left.2)

def vectorOf (ps : HandoffPs) (partitionNum : UInt32) : UInt32 :=
  getVectorLocation (ps.imageHeader.partitionHeader partitionNum.toNat) >>> 23

def handoffWalk (build : Build) (platform : Platform) (ps : HandoffPs) (partitionNum : UInt32) (early : Bool)
    (cpuIndexEarlyHandoff : UInt32) : HandoffStatus × Walk :=
  handoffLoop build platform ps early (vectorOf ps partitionNum) partitionNum
    ((table ps.fsbl).drop (if early then cpuIndexEarlyHandoff.toNat else 0)) ⟨[], none, cpuIndexEarlyHandoff⟩

def handoff (map : MemoryMap) (build : Build) (platform : Platform) (outcomes : HandoffOutcomes) (registers : File)
    (ps : HandoffPs) (partitionNum : UInt32) (early : Bool) (cpuIndexEarlyHandoff : UInt32) : HandoffResult :=
  let config := systemConfig build outcomes ps registers
  let prologue := runningStatus ps ++ config.2
  let walked := handoffWalk build platform ps partitionNum early cpuIndexEarlyHandoff
  if config.1 ≠ .success then ⟨prologue, .returns config.1, cpuIndexEarlyHandoff⟩
  else if ps.primaryBootDevice = jtagBootMode then
    ⟨prologue ++ (jtagExit map platform).1, (jtagExit map platform).2, cpuIndexEarlyHandoff⟩
  else if ¬ outcomes.hookBeforeHandoff then ⟨prologue, .returns .errorHookBeforeHandoff, cpuIndexEarlyHandoff⟩
  else if walked.1 ≠ .success then
    ⟨prologue ++ walked.2.changes, .returns walked.1, walked.2.cpuIndexEarlyHandoff⟩
  else
    ⟨prologue ++ walked.2.changes ++ (finalExit map build ps walked.2.running).1,
      (finalExit map build ps walked.2.running).2, walked.2.cpuIndexEarlyHandoff⟩

end LilacUxB.Fsbl
