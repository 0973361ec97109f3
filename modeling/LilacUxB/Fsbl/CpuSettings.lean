import LilacUxB.Registers
import LilacUxB.Fsbl.Headers

set_option autoImplicit false

-- xfsbl_handoff.c: the register accesses that give a CPU its reset vector and take it out of reset.
namespace LilacUxB.Fsbl

open Registers

inductive HandoffStatus where
  | success | continuePartitionLoad | continueOtherHandoff
  | errorPmInit | errorProtectionCfg | errorHookBeforeHandoff | errorUnavailableCpu | errorHandoffCpuid
  | errorUnsupportedHandoff
deriving DecidableEq, Repr

def apuConfig0 : UInt32 := 0xFD5C0020
def acpuCtrl : UInt32 := 0xFD1A0060
def rstFpdApu : UInt32 := 0xFD1A0104
def rpuGlblCntl : UInt32 := 0xFF9A0000
def rpu0Cfg : UInt32 := 0xFF9A0100
def rpu1Cfg : UInt32 := 0xFF9A0200
def cpuR5Ctrl : UInt32 := 0xFF5E0090
def rstLpdTop : UInt32 := 0xFF5E023C
def reqPwrupIntEn : UInt32 := 0xFFD80118
def reqPwrupTrig : UInt32 := 0xFFD80120

def pwrStateFp : UInt32 := 0x400000
def pwrStateL2Bank0 : UInt32 := 0x80
def pwrStateR5_0 : UInt32 := 0x400
def pwrStateR5_1 : UInt32 := 0x800

def apuL2Reset : UInt32 := 0x100
def rpuAmbaReset : UInt32 := 0x4
def slsplit : UInt32 := 0x8
def tcmComb : UInt32 := 0x40
def slclamp : UInt32 := 0x10
def nCpuHalt : UInt32 := 0x1
def rpuVinithi : UInt32 := 0x4

structure A53Core where
  pwrState : UInt32
  aa64n32 : UInt32
  vinithi : UInt32
  vinithiShift : UInt32
  reset : UInt32
  pwronReset : UInt32
  rvbarLow : UInt32
  rvbarHigh : UInt32

def a53_0 : A53Core := ⟨0x1, 0x1, 0x100, 8, 0x1, 0x400, 0xFD5C0040, 0xFD5C0044⟩
def a53_1 : A53Core := ⟨0x2, 0x2, 0x200, 9, 0x2, 0x800, 0xFD5C0048, 0xFD5C004C⟩
def a53_2 : A53Core := ⟨0x4, 0x4, 0x400, 10, 0x4, 0x1000, 0xFD5C0050, 0xFD5C0054⟩
def a53_3 : A53Core := ⟨0x8, 0x8, 0x800, 11, 0x8, 0x2000, 0xFD5C0058, 0xFD5C005C⟩

def a53Core (cpu : UInt32) : Option A53Core :=
  if cpu = destCpuA53_0 then some a53_0
  else if cpu = destCpuA53_1 then some a53_1
  else if cpu = destCpuA53_2 then some a53_2
  else if cpu = destCpuA53_3 then some a53_3
  else none

def execStAA32 : UInt32 := 0x8
def execStAA64 : UInt32 := 0x0

def is32BitCpu (cpuSettings : UInt32) : Bool :=
  cpuSettings &&& destCpuMask = destCpuR5_0 || cpuSettings &&& destCpuMask = destCpuR5_1 ||
    cpuSettings &&& destCpuMask = destCpuR5_L || cpuSettings &&& a53ExecStMask = execStAA32

-- The poll for the end of the power-up is left out: it changes nothing.
def powerUpIsland (qemu : Bool) (islands : UInt32) : List Change :=
  let requested := if islands &&& pwrStateR5_1 = pwrStateR5_1 then islands &&& ~~~pwrStateR5_1 ||| pwrStateR5_0 else islands
  if qemu then [] else [out32 reqPwrupIntEn requested, out32 reqPwrupTrig requested]

structure Release where
  prepare : List Change
  release : List Change

def a53Release (qemu : Bool) (core : A53Core) (execState : UInt32) : Release where
  prepare := powerUpIsland qemu (core.pwrState ||| pwrStateFp ||| pwrStateL2Bank0) ++
    (if execState = execStAA32 then [⟨apuConfig0, core.aa64n32, 0⟩] else []) ++ [⟨acpuCtrl, 0, 0x1000000 ||| 0x2000000⟩]
  release := [⟨rstFpdApu, core.reset ||| apuL2Reset ||| core.pwronReset, 0⟩]

def splitMode : Change := ⟨rpuGlblCntl, tcmComb ||| slclamp, slsplit⟩
def safeMode : Change := ⟨rpuGlblCntl, slsplit, tcmComb ||| slclamp⟩
def halted (cfg : UInt32) : Change := ⟨cfg, nCpuHalt, 0⟩
def running (cfg : UInt32) : Change := ⟨cfg, 0, nCpuHalt⟩

def r5Release (qemu : Bool) (island : UInt32) (mode : Change) (cfgs : List UInt32) (reset : UInt32) : Release where
  prepare := powerUpIsland qemu island ++ mode :: cfgs.map halted ++ [⟨cpuR5Ctrl, 0, 0x1000000⟩]
  release := ⟨rstLpdTop, reset ||| rpuAmbaReset, 0⟩ :: cfgs.map running

def cpuRelease (qemu : Bool) (cpuId execState : UInt32) : Option Release :=
  match a53Core cpuId with
  | some core => some (a53Release qemu core execState)
  | none =>
      if cpuId = destCpuR5_0 then some (r5Release qemu pwrStateR5_0 splitMode [rpu0Cfg] 0x1)
      else if cpuId = destCpuR5_1 then some (r5Release qemu pwrStateR5_1 splitMode [rpu1Cfg] 0x2)
      else if cpuId = destCpuR5_L then some (r5Release qemu pwrStateR5_0 safeMode [rpu0Cfg, rpu1Cfg] (0x1 ||| 0x2))
      else none

def cpuPowerUp : UInt32 := 0x1
def cpuSwrst : UInt32 := 0x2

def setCpuPwrSettings (qemu : Bool) (cpuSettings flags : UInt32) : HandoffStatus × List Change :=
  if flags &&& cpuSwrst ≠ 0 then
    match cpuRelease qemu (cpuSettings &&& destCpuMask) (cpuSettings &&& a53ExecStMask) with
    | some release => (.success, release.prepare ++ release.release)
    | none => (.errorHandoffCpuid, [])
  else (.success, [])

def otherCpuHandoff : UInt32 := 0x0
def a53_0_32HandoffToA53_0_64 : UInt32 := 0x2

-- R5-1 in lock step is not reached by the second branch of the source: R5-L has taken the first one.
def vectorLocation (cpuSettings vector : UInt32) : List Change :=
  let cpuId := cpuSettings &&& destCpuMask
  if cpuId = destCpuR5_0 ∨ cpuId = destCpuR5_L then [⟨rpu0Cfg, rpuVinithi, vector <<< 2⟩]
  else if cpuId = destCpuR5_1 ∨ cpuId = destCpuR5_L then [⟨rpu1Cfg, rpuVinithi, vector <<< 2⟩]
  else
    match a53Core cpuId with
    | some core =>
        if cpuSettings &&& a53ExecStMask = execStAA32 then [⟨apuConfig0, core.vinithi, vector <<< core.vinithiShift⟩]
        else []
    | none => []

-- Without a core of its own an address goes to register 0.
def rvbarAddress (handOffAddress : UInt64) (cpuId : UInt32) : List Change :=
  let low := handOffAddress.toUInt32
  let high := (handOffAddress >>> 32).toUInt32
  match a53Core cpuId with
  | some core => [out32 core.rvbarLow low, out32 core.rvbarHigh high]
  | none => [out32 0 low, out32 0 high]

def updateResetVector (handOffAddress : UInt64) (cpuSettings handoffType vector : UInt32) : List Change :=
  vectorLocation cpuSettings vector ++
    (if ¬ is32BitCpu cpuSettings ∧ handoffType ≠ a53_0_32HandoffToA53_0_64 then
      rvbarAddress handOffAddress (cpuSettings &&& destCpuMask)
    else [])

end LilacUxB.Fsbl
