import LilacUxB.Blocks
import LilacUxB.Fsbl.LoadRange

set_option autoImplicit false

-- xfsbl_usb.c and xfsbl_dfu_util.c: the requests of a host that downloads an image, and the copies
-- out of the memory that the image is kept in.
namespace LilacUxB.Fsbl

inductive DfuState where
  | appIdle | appDetach | dfuIdle | downloadSync | downloadBusy | downloadIdle | error
deriving DecidableEq, Repr

def DfuState.code : DfuState → UInt8
  | .appIdle => 0x00
  | .appDetach => 0x01
  | .dfuIdle => 0x02
  | .downloadSync => 0x03
  | .downloadBusy => 0x04
  | .downloadIdle => 0x05
  | .error => 0x0A

def dfuStatusOk : UInt8 := 0x00

structure DfuIf where
  currState : DfuState
  nextState : DfuState
  currStatus : UInt8
  currentInf : UInt32
  totalBytesDnloaded : UInt32
  dfuWaitForInterrupt : Bool
  runtimeToDfu : Bool

inductive UsbDeviceState where
  | standard | address | configured
deriving DecidableEq, Repr

inductive UsbAction where
  | stall (endpoint : UInt8) (inward : Bool)
  | dfuReply (status state : UInt8) (wLength : UInt16)
deriving DecidableEq, Repr

structure UsbState where
  dfu : DfuIf
  downloadDone : UInt32
  dfuVirtFlash : Nat → UInt8
  deviceState : UsbDeviceState
  actions : List UsbAction

structure SetupPacket where
  bRequestType : UInt8
  bRequest : UInt8
  wValue : UInt16
  wIndex : UInt16
  wLength : UInt16
deriving DecidableEq, Repr

def stall (endpoint : UInt8) (inward : Bool) (state : UsbState) : UsbState :=
  { state with actions := state.actions ++ [.stall endpoint inward] }

def stallDfu (state : UsbState) : UsbState :=
  stall 0 true { state with dfu := { state.dfu with currState := .error } }

-- The loop of XFsbl_DfuWaitForReset waits for a flag that has just been set, that is, not at all.
def dfuWaitForReset (dfu : DfuIf) : DfuIf := { dfu with dfuWaitForInterrupt := true }

def enterDfuIdle (dfu : DfuIf) : DfuIf := { dfu with currState := .dfuIdle, nextState := .downloadSync }

def enterAppIdle (dfu : DfuIf) : DfuIf :=
  { dfu with currState := .appIdle, nextState := .appDetach, currStatus := dfuStatusOk }

-- Leaving APP_IDLE falls through to DFU_IDLE.
def dfuSetState (dfuState : DfuState) (state : UsbState) : UsbState :=
  match dfuState with
  | .appIdle => { state with dfu := { enterAppIdle state.dfu with runtimeToDfu := false } }
  | .appDetach =>
      if state.dfu.currState = .appIdle then
        { state with dfu := enterDfuIdle { dfuWaitForReset state.dfu with runtimeToDfu := true } }
      else if state.dfu.currState = .dfuIdle then { state with dfu := enterAppIdle (dfuWaitForReset state.dfu) }
      else stallDfu state
  | .dfuIdle => { state with dfu := enterDfuIdle state.dfu }
  | .downloadSync => { state with dfu := { state.dfu with currState := .downloadSync } }
  | .downloadBusy | .downloadIdle | .error => stallDfu state

def dfuReset (state : UsbState) : UsbState := { state with dfu := { state.dfu with dfuWaitForInterrupt := false } }

def dfuAltSetting : UInt32 := 1

def dfuSetIntf (packet : SetupPacket) (state : UsbState) : UsbState :=
  let chosen := { state with dfu := { state.dfu with currentInf := packet.wValue.toUInt32 } }
  if packet.wValue.toUInt32 ≥ dfuAltSetting ∨ state.dfu.runtimeToDfu then
    dfuSetState .dfuIdle { chosen with dfu := { chosen.dfu with runtimeToDfu := false } }
  else dfuSetState .appIdle chosen

def dfuDetach : UInt8 := 0
def dfuDnload : UInt8 := 1
def dfuGetStatus : UInt8 := 3

def dnload (packet : SetupPacket) (data : Nat → UInt8) (state : UsbState) : UsbState :=
  let total := if packet.wValue = 0 then 0 else state.dfu.totalBytesDnloaded
  if packet.wLength > 0 then
    { state with
      dfuVirtFlash := Blocks.store state.dfuVirtFlash total.toNat packet.wLength.toNat data
      dfu := { state.dfu with totalBytesDnloaded := total + packet.wLength.toUInt32, currState := .downloadIdle } }
  else { state with dfu := { state.dfu with totalBytesDnloaded := total, currState := .dfuIdle } }

def getStatus (packet : SetupPacket) (state : UsbState) : UsbState :=
  let moved :=
    if state.dfu.currState = .dfuIdle then
      { state with dfu := { state.dfu with currState := .downloadSync }, downloadDone := state.downloadDone + 1 }
    else if state.dfu.currState = .downloadSync then { state with dfu := { state.dfu with currState := .downloadBusy } }
    else state
  { moved with actions := moved.actions ++ [.dfuReply moved.dfu.currStatus moved.dfu.currState.code packet.wLength] }

def dfuClassReq (packet : SetupPacket) (data : Nat → UInt8) (state : UsbState) : UsbState :=
  if packet.bRequest = dfuDetach then dfuSetState .appDetach state
  else if packet.bRequest = dfuDnload then dnload packet data state
  else if packet.bRequest = dfuGetStatus then getStatus packet state
  else stallDfu state

def reqReplyLen : UInt16 := 1024
def reqGetStatus : UInt8 := 0x00
def reqSetFeature : UInt8 := 0x03
def reqSetAddress : UInt8 := 0x05
def reqGetDescriptor : UInt8 := 0x06
def reqGetConfiguration : UInt8 := 0x08
def reqSetConfiguration : UInt8 := 0x09
def reqSetInterface : UInt8 := 0x0B
def reqSetSel : UInt8 := 0x30

def statusMask : UInt8 := 0x3
def statusDevice : UInt8 := 0x0
def statusEndpoint : UInt8 := 0x2
def endpointHalt : UInt16 := 0x00

-- The device, configuration, string, qualifier and BOS descriptors.
def descriptorTypes : List UInt16 := [0x01, 0x02, 0x03, 0x06, 0x0F]

def setConfiguration (state : UsbState) : Bool × UsbState :=
  match state.deviceState with
  | .standard => (false, state)
  | .address => (true, { state with deviceState := .configured })
  | .configured => (true, state)

def setFeature (packet : SetupPacket) (state : UsbState) : Bool × UsbState :=
  if packet.bRequestType &&& statusMask = statusEndpoint then
    if packet.wValue = endpointHalt then
      (true, stall (packet.wIndex &&& 0xF).toUInt8 (packet.wIndex &&& 0x80 ≠ 0) state)
    else (true, state)
  else if packet.bRequestType &&& statusMask = statusDevice then (true, state)
  else (false, state)

-- `sent` is how the controller takes a reply, an address or the bytes of SET_SEL.
def stdDevReq (packet : SetupPacket) (sent : Bool) (state : UsbState) : UsbState :=
  let result :=
    if packet.wLength > reqReplyLen then (true, state)
    else if packet.bRequest = reqGetStatus then (sent, state)
    else if packet.bRequest = reqSetAddress then (sent, state)
    else if packet.bRequest = reqGetDescriptor then
      if (packet.wValue >>> 8) &&& 0xFF ∈ descriptorTypes then (sent, state) else (false, state)
    else if packet.bRequest = reqSetConfiguration then
      if packet.wValue &&& 0xFF ≠ 1 then (false, state) else setConfiguration state
    else if packet.bRequest = reqGetConfiguration then (true, state)
    else if packet.bRequest = reqSetFeature then setFeature packet state
    else if packet.bRequest = reqSetInterface then (true, dfuSetIntf packet state)
    else if packet.bRequest = reqSetSel then (sent, state)
    else (false, state)
  if result.1 then result.2 else stall 0 false result.2

def reqTypeMask : UInt8 := 0x60
def cmdStdReq : UInt8 := 0x00
def cmdClassReq : UInt8 := 0x20

def ch9Handler (packet : SetupPacket) (data : Nat → UInt8) (sent : Bool) (state : UsbState) : UsbState :=
  if packet.bRequestType &&& reqTypeMask = cmdStdReq then stdDevReq packet sent state
  else if packet.bRequestType &&& reqTypeMask = cmdClassReq then dfuClassReq packet data state
  else stall 0 false state

-- What one call of XUsbPsu_IntrHandler may bring. The data of a request is taken to have arrived in
-- full, and the memory to reach as far as the download does: the code checks neither.
inductive UsbEvent where
  | reset
  | device (deviceState : UsbDeviceState)
  | setup (packet : SetupPacket) (data : Nat → UInt8) (sent : Bool)

def usbHandle (event : UsbEvent) (state : UsbState) : UsbState :=
  match event with
  | .reset => dfuReset state
  | .device deviceState => { state with deviceState := deviceState }
  | .setup packet data sent => ch9Handler packet data sent state

def downloadComplete : UInt32 := 2

def usbWaits (state : UsbState) : Bool :=
  state.downloadDone < downloadComplete && state.dfu.currStatus ≠ DfuState.error.code

-- `none` where the loop still waits after all events; else what is left, and whether it succeeds.
def usbLoop : List UsbEvent → UsbState → Option (List UsbEvent × UsbState × Bool)
  | events, state =>
      if usbWaits state then
        match events with
        | [] => none
        | event :: rest => usbLoop rest (usbHandle event state)
      else some (events, state, state.downloadDone = downloadComplete)

def clearedDfu : DfuIf := ⟨.appIdle, .appIdle, dfuStatusOk, 0, 0, false, false⟩

-- What XFsbl_UsbInit starts from: DownloadDone and the memory are not cleared.
def usbStart (memory : Nat → UInt8) : UsbState := ⟨clearedDfu, 0, memory, .standard, []⟩

def ddrTempBufferAddress : UInt64 := 0x4000000

def checkTempDfuMemory (map : MemoryMap) (offset : UInt32) : Bool :=
  match map.psDdrEnd with
  | some last => ptrSize map (ddrTempBufferAddress + offset.toUInt64) ≤ last
  | none => false

-- The bytes that arrive at the destination; the DMA counts words.
def usbCopy (map : MemoryMap) (state : UsbState) (srcAddress length : UInt32) : Option (List UInt8) :=
  if checkTempDfuMemory map (srcAddress + length) then
    some ((List.range ((length / 4).toNat * 4)).map (fun index => state.dfuVirtFlash (srcAddress.toNat + index)))
  else none

end LilacUxB.Fsbl
