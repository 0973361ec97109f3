import LilacUxB.DmaProxy.Channel
import LilacUxB.Ledger

set_option autoImplicit false

-- Probe and remove of the platform driver, with every kernel call that can fail.
namespace LilacUxB.DmaProxy

open Ledger

structure ChannelId where
  device : Nat
  index : Nat
deriving DecidableEq

inductive Pointer where
  | null | err | valid
deriving DecidableEq

inductive ClassPointer where
  | null | err
  | object (number : Nat)
deriving DecidableEq

inductive Resource where
  | dmaChannel (channel : ChannelId)
  | chrdevRegion (channel : ChannelId)
  | cdev (channel : ChannelId)
  | deviceClass (number : Nat)
  | deviceNode (channel : ChannelId) (owner : ClassPointer)
  | bufferTable (channel : ChannelId)
deriving DecidableEq

abbrev Calls := List (Entry Resource)

structure Module where
  localClassP : ClassPointer
  totalCount : Int
  classesCreated : Nat
  calls : Calls

structure ChannelRecord where
  channelP : Pointer
  classP : ClassPointer
  proxyDeviceP : Pointer
  bufferTableP : Pointer
  proxy : ProxyChannel

-- The kernel's answers in one probe, by channel. An int is zero when the call succeeds.
-- class_create is called at most once, since the pointer is not null afterwards.
structure Answers where
  proxyAllocated : Bool
  channelCount : Int
  namesAllocated : Bool
  namesRead : Int
  channelsAllocated : Bool
  memory : Nat → ChannelRecord
  dmaRequestSlaveChannel : Nat → Bool
  allocChrdevRegion : Nat → Int
  cdevAdd : Nat → Int
  classCreate : Bool
  deviceCreate : Nat → Bool
  dmamAllocCoherent : Nat → Option UInt64

def Module.acquire (module : Module) (resource : Resource) : Module :=
  { module with calls := .acquire resource :: module.calls }

def Module.release (module : Module) (resource : Resource) : Module :=
  { module with calls := .release resource :: module.calls }

@[simp] theorem acquire_local_class_p (module : Module) (resource : Resource) :
    (module.acquire resource).localClassP = module.localClassP := rfl

-- class_destroy does nothing for a null or an error pointer.
def Module.classDestroy (module : Module) : ClassPointer → Module
  | .object number => module.release (.deviceClass number)
  | _ => module

def errorCode : Int := -1
def enomem : Int := 12
def dmaMemToDev : UInt32 := 1

-- dma_device_p->class: a platform device belongs to a bus and has no class.
def pdevClass : ClassPointer := .null

def ClassPointer.isErr : ClassPointer → Bool
  | .err => true
  | _ => false

def ensureClass (answers : Answers) (module : Module) : Module :=
  match module.localClassP with
  | .null =>
      if answers.classCreate then
        { module.acquire (.deviceClass module.classesCreated) with
          localClassP := .object module.classesCreated
          classesCreated := module.classesCreated + 1 }
      else { module with localClassP := .err }
  | _ => module

-- device_create refuses a null or an error pointer for a class.
def nodeCreated (answers : Answers) (index : Nat) : ClassPointer → Bool
  | .object _ => answers.deviceCreate index
  | _ => false

def undoRegion (module : Module) (id : ChannelId) : Module := module.release (.chrdevRegion id)
def undoCdev (module : Module) (id : ChannelId) : Module := undoRegion (module.release (.cdev id)) id
def undoClass (module : Module) (id : ChannelId) (owner : ClassPointer) : Module :=
  undoCdev (module.classDestroy owner) id

def cdeviceInit (answers : Answers) (id : ChannelId) (record : ChannelRecord) (module : Module) :
    Int × ChannelRecord × Module :=
  if answers.allocChrdevRegion id.index ≠ 0 then (answers.allocChrdevRegion id.index, record, module)
  else
    let module := module.acquire (.chrdevRegion id)
    if answers.cdevAdd id.index ≠ 0 then (answers.cdevAdd id.index, record, undoRegion module id)
    else
      let created := module.localClassP = .null
      let module := ensureClass answers (module.acquire (.cdev id))
      if created ∧ pdevClass.isErr then (errorCode, record, undoCdev module id)
      else
        let record := { record with classP := module.localClassP }
        if nodeCreated answers id.index record.classP then
          (0, { record with proxyDeviceP := .valid }, module.acquire (.deviceNode id record.classP))
        -- rc is still the zero of cdev_add here.
        else (0, { record with proxyDeviceP := .err }, undoClass module id record.classP)

def bufferTablePointer (allocated : Option UInt64) : Pointer := if allocated.isSome then .valid else .null

def setUpProxy (proxy : ProxyChannel) (direction : UInt32) (allocated : Option UInt64) : ProxyChannel :=
  let address := allocated.getD proxy.bufferPhysAddr
  { proxy with
    direction := direction
    bufferPhysAddr := address
    bdtable := initHandles address proxy.bdtable
    bdindex := 0 }

def createChannel (answers : Answers) (id : ChannelId) (direction : UInt32) (module : Module) :
    Int × ChannelRecord × Module :=
  let record := answers.memory id.index
  if ¬ answers.dmaRequestSlaveChannel id.index then (errorCode, { record with channelP := .null }, module)
  else
    let (rc, record, module) :=
      cdeviceInit answers id { record with channelP := .valid } (module.acquire (.dmaChannel id))
    if rc ≠ 0 then (rc, record, module)
    else
      let allocated := answers.dmamAllocCoherent id.index
      let record := { record with
        bufferTableP := bufferTablePointer allocated
        proxy := setUpProxy record.proxy direction allocated }
      if record.bufferTableP = .null then (errorCode, record, module)
      else (0, record, module.acquire (.bufferTable id))

-- The loop of dma_proxy_probe from one channel on.
def createChannels (answers : Answers) (device : Nat) : Nat → Nat → Module → Int × List ChannelRecord × Module
  | 0, _, module => (0, [], module)
  | remaining + 1, index, module =>
      let (rc, record, module) := createChannel answers ⟨device, index⟩ dmaMemToDev module
      if rc ≠ 0 then (rc, [record], module)
      else
        let (rc, records, module) :=
          createChannels answers device remaining (index + 1) { module with totalCount := module.totalCount + 1 }
        (rc, record :: records, module)

def dmaProxyProbe (answers : Answers) (device : Nat) (module : Module) : Int × List ChannelRecord × Module :=
  if ¬ answers.proxyAllocated then (-enomem, [], module)
  else if answers.channelCount ≤ 0 then (0, [], module)
  else if ¬ answers.namesAllocated then (-enomem, [], module)
  else if answers.namesRead < 0 then (answers.namesRead, [], module)
  else if ¬ answers.channelsAllocated then (-enomem, [], module)
  else createChannels answers device answers.channelCount.toNat 0 module

def cdeviceExit (id : ChannelId) (record : ChannelRecord) (module : Module) : Module :=
  if record.proxyDeviceP ≠ .null then
    let module := module.release (.deviceNode id record.classP)
    let module := if module.totalCount = 1 then module.classDestroy record.classP else module
    undoCdev module id
  else module

-- The first loop of dma_proxy_remove.
def exitChannels (device : Nat) : Nat → List ChannelRecord → Module → Module
  | _, [], module => module
  | index, record :: records, module =>
      let module := if record.proxyDeviceP ≠ .null then cdeviceExit ⟨device, index⟩ record module else module
      exitChannels device (index + 1) records { module with totalCount := module.totalCount - 1 }

-- The second loop. The transfers are terminated first, which no resource of the ledger records.
def releaseChannels (device : Nat) : Nat → List ChannelRecord → Module → Module
  | _, [], module => module
  | index, record :: records, module =>
      releaseChannels device (index + 1) records
        (if record.channelP ≠ .null then module.release (.dmaChannel ⟨device, index⟩) else module)

def dmaProxyRemove (device : Nat) (records : List ChannelRecord) (module : Module) : Module :=
  releaseChannels device 0 records (exitChannels device 0 records module)

def ClassUsable (answers : Answers) : ClassPointer → Prop
  | .null => answers.classCreate = true
  | .err => False
  | .object _ => True

structure Registered (answers : Answers) (index : Nat) : Prop where
  dmaChannel : answers.dmaRequestSlaveChannel index = true
  chrdevRegion : answers.allocChrdevRegion index = 0
  cdev : answers.cdevAdd index = 0
  deviceNode : answers.deviceCreate index = true

structure Succeeds (answers : Answers) (index : Nat) : Prop extends Registered answers index where
  bufferTable : (answers.dmamAllocCoherent index).isSome = true

def claimed (id : ChannelId) (module : Module) : Module :=
  ((module.acquire (.dmaChannel id)).acquire (.chrdevRegion id)).acquire (.cdev id)

def channelMade (answers : Answers) (id : ChannelId) (module : Module) : Module :=
  ((ensureClass answers (claimed id module)).acquire
    (.deviceNode id (ensureClass answers (claimed id module)).localClassP)).acquire (.bufferTable id)

theorem ensure_class_usable (answers : Answers) (module : Module) (usable : ClassUsable answers module.localClassP) :
    ∃ number, (ensureClass answers module).localClassP = .object number := by
  unfold ensureClass
  cases static : module.localClassP with
  | null =>
      rw [static] at usable
      exact ⟨module.classesCreated, by simp only [show answers.classCreate = true from usable, if_true]⟩
  | err =>
      rw [static] at usable
      exact usable.elim
  | object number => exact ⟨number, static⟩

theorem create_channel_succeeds (answers : Answers) (id : ChannelId) (direction : UInt32) (module : Module)
    (answered : Succeeds answers id.index) (usable : ClassUsable answers module.localClassP) :
    createChannel answers id direction module =
      (0, { channelP := .valid
            classP := (channelMade answers id module).localClassP
            proxyDeviceP := .valid
            bufferTableP := .valid
            proxy := setUpProxy (answers.memory id.index).proxy direction (answers.dmamAllocCoherent id.index) },
        channelMade answers id module) := by
  obtain ⟨number, owner⟩ := ensure_class_usable answers (claimed id module) usable
  have made : nodeCreated answers id.index (.object number) = true := answered.deviceNode
  have device : pdevClass.isErr = false := rfl
  simp only [claimed] at owner
  simp only [createChannel, cdeviceInit, channelMade, claimed, answered.dmaChannel, answered.chrdevRegion, answered.cdev,
    answered.bufferTable, bufferTablePointer, owner, made, device, acquire_local_class_p, ne_eq, not_true_eq_false, if_true,
    if_false, Bool.false_eq_true, and_false, reduceCtorEq]

def loaded : Module := ⟨.null, 0, 0, []⟩

def oneChannel (region : Int) (node : Bool) : Answers where
  proxyAllocated := true
  channelCount := 1
  namesAllocated := true
  namesRead := 1
  channelsAllocated := true
  memory := fun _ => ⟨.null, .null, .null, .null, (newChannel 0).channel⟩
  dmaRequestSlaveChannel := fun _ => true
  allocChrdevRegion := fun _ => region
  cdevAdd := fun _ => 0
  classCreate := true
  deviceCreate := fun _ => node
  dmamAllocCoherent := fun _ => some 0x10000000

end LilacUxB.DmaProxy
