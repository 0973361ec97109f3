import LilacUxB.Transitions

set_option autoImplicit false

-- One channel of the driver, its ioctl calls cut at every point where the kernel's
-- completions, the DMA engine or the user's own stores can come in between.
namespace LilacUxB.DmaProxy

open Transitions

def bufferSize : Nat := 128 * 1024
def bufferCount : Int := 32

-- struct channel_buffer: buffer[], status and length, aligned to 1024 bytes, buffer[] first.
def channelBufferSize : Nat := (bufferSize + 4 + 4 + 1023) / 1024 * 1024
def bufferOffset : Nat := 0

-- _IOC(dir, type, nr, size), with an eight-byte pointer as the argument type.
def ioc (dir type nr size : UInt32) : UInt32 := dir <<< 30 ||| size <<< 16 ||| type <<< 8 ||| nr
def finishXfer : UInt32 := ioc 1 0x61 0x61 8
def startXfer : UInt32 := ioc 1 0x61 0x62 8
def xfer : UInt32 := ioc 2 0x61 0x63 8

inductive ProxyStatus where
  | proxyNoError | proxyBusy | proxyTimeout | proxyError
deriving DecidableEq

structure ChannelBuffer where
  status : ProxyStatus
  length : UInt32

structure SgEntry where
  dmaAddress : UInt64
  dmaLength : UInt32
deriving DecidableEq

structure ProxyBd where
  cmp : Nat
  cookie : Int
  dmaHandle : UInt64
  sglist : SgEntry

-- The two tables are total: an index outside them reads and writes the memory around them.
structure ProxyChannel where
  bufferTable : Int → ChannelBuffer
  bufferPhysAddr : UInt64
  bdtable : Int → ProxyBd
  direction : UInt32
  bdindex : Int

def InRange (index : Int) : Prop := 0 ≤ index ∧ index < bufferCount

instance (index : Int) : Decidable (InRange index) := inferInstanceAs (Decidable (_ ∧ _))

def initHandles (bufferPhysAddr : UInt64) (bdtable : Int → ProxyBd) (bd : Int) : ProxyBd :=
  if InRange bd then
    { bdtable bd with dmaHandle := bufferPhysAddr + UInt64.ofNat (channelBufferSize * bd.toNat + bufferOffset) }
  else bdtable bd

def ProxyChannel.updateBd (channel : ProxyChannel) (index : Int) (change : ProxyBd → ProxyBd) : ProxyChannel :=
  { channel with bdtable := Function.update channel.bdtable index (change (channel.bdtable index)) }

def ProxyChannel.storeStatus (channel : ProxyChannel) (index : Int) (status : ProxyStatus) : ProxyChannel :=
  { channel with
    bufferTable := Function.update channel.bufferTable index { channel.bufferTable index with status := status } }

def sgEntry (channel : ProxyChannel) : SgEntry :=
  ⟨(channel.bdtable channel.bdindex).dmaHandle, (channel.bufferTable channel.bdindex).length⟩

structure Transaction where
  cookie : Int
  bd : Int
deriving DecidableEq

-- The DMA engine: cookies count up from 1, `awaiting` are the transactions whose callback has not run.
structure Engine where
  lastCookie : Int
  finished : List Int
  awaiting : List Transaction

inductive DmaStatus where
  | dmaComplete | dmaInProgress | dmaPaused | dmaError
deriving DecidableEq

inductive Position where
  | userSpace
  | startTransfer (thenWait : Bool)
  | submit (thenWait : Bool)
  | waitForTransfer
  | waiting
  | woken (timedOut : Bool)
deriving DecidableEq

inductive Request where
  | never | asked | refused
  | submitted (cookie : Int)
deriving DecidableEq

-- No step reads `requests`, it only keeps the account.
structure DriverState where
  channel : ProxyChannel
  engine : Engine
  position : Position
  requests : Int → Request

inductive Event where
  | userStore (buffer : Int) (content : ChannelBuffer)
  | ioctl (cmd : UInt32) (arg : Int)
  | prepSlaveSg (obtained : Bool)
  | submit (error : Option Nat)
  | beginWait
  | endWait (timedOut : Bool)
  | txStatus (status : DmaStatus)
  | finish (cookie : Int)
  | callback (transaction : Transaction)

def ioctlEntry (cmd : UInt32) : Position :=
  if cmd = startXfer then .startTransfer false
  else if cmd = finishXfer then .waitForTransfer
  else if cmd = xfer then .startTransfer true
  else .userSpace

def Starts (cmd : UInt32) : Prop := cmd = startXfer ∨ cmd = xfer

instance (cmd : UInt32) : Decidable (Starts cmd) := inferInstanceAs (Decidable (_ ∨ _))

def afterStart (thenWait : Bool) : Position := if thenWait then .waitForTransfer else .userSpace

def ioctl (state : DriverState) (cmd : UInt32) (arg : Int) : DriverState :=
  { state with
    channel := { state.channel with bdindex := arg }
    position := ioctlEntry cmd
    requests := if Starts cmd then Function.update state.requests arg .asked else state.requests }

def fillSglist (channel : ProxyChannel) : ProxyChannel :=
  channel.updateBd channel.bdindex (fun bd => { bd with sglist := sgEntry channel })

def initCompletion (channel : ProxyChannel) : ProxyChannel :=
  channel.updateBd channel.bdindex (fun bd => { bd with cmp := 0 })

def storeCookie (channel : ProxyChannel) (cookie : Int) : ProxyChannel :=
  channel.updateBd channel.bdindex (fun bd => { bd with cookie := cookie })

def takeCount (channel : ProxyChannel) : ProxyChannel :=
  channel.updateBd channel.bdindex (fun bd => { bd with cmp := bd.cmp - 1 })

def complete (channel : ProxyChannel) (index : Int) : ProxyChannel :=
  channel.updateBd index (fun bd => { bd with cmp := bd.cmp + 1 })

-- start_transfer up to init_completion.
def prepareTransfer (state : DriverState) (thenWait obtained : Bool) : DriverState :=
  if obtained then
    { state with channel := initCompletion (fillSglist state.channel), position := .submit thenWait }
  else
    { state with
      channel := fillSglist state.channel
      position := afterStart thenWait
      requests := Function.update state.requests state.channel.bdindex .refused }

-- The rest of start_transfer. A refused submission returns a negative cookie.
def submitTransfer (state : DriverState) (thenWait : Bool) : Option Nat → DriverState
  | some code =>
      { state with
        channel := storeCookie state.channel (-(code : Int) - 1)
        position := afterStart thenWait
        requests := Function.update state.requests state.channel.bdindex .refused }
  | none =>
      { state with
        channel := storeCookie state.channel (state.engine.lastCookie + 1)
        engine :=
          { state.engine with
            lastCookie := state.engine.lastCookie + 1
            awaiting := ⟨state.engine.lastCookie + 1, state.channel.bdindex⟩ :: state.engine.awaiting }
        position := afterStart thenWait
        requests := Function.update state.requests state.channel.bdindex
          (.submitted (state.engine.lastCookie + 1)) }

def beginWait (state : DriverState) : DriverState :=
  { state with
    channel := state.channel.storeStatus state.channel.bdindex .proxyBusy
    position := .waiting }

def completionCount (state : DriverState) (index : Int) : Nat := (state.channel.bdtable index).cmp

-- wait_for_completion_timeout: zero is returned only when there was no count to take.
def endWait (state : DriverState) (timedOut : Bool) : DriverState :=
  { state with
    channel := takeCount state.channel
    position := .woken timedOut }

-- dma_async_is_tx_complete goes by the cookie: for one the engine has given out it says
-- complete exactly when that transaction is finished, for any other value nothing is known.
def Reports (engine : Engine) (cookie : Int) (status : DmaStatus) : Prop :=
  1 ≤ cookie → cookie ≤ engine.lastCookie → (status = .dmaComplete ↔ cookie ∈ engine.finished)

instance (engine : Engine) (cookie : Int) (status : DmaStatus) : Decidable (Reports engine cookie status) :=
  inferInstanceAs (Decidable (_ → _ → _))

def transferStatus (timedOut : Bool) (status : DmaStatus) : ProxyStatus :=
  if timedOut then .proxyTimeout
  else if status ≠ .dmaComplete then .proxyError
  else .proxyNoError

def finishWait (state : DriverState) (timedOut : Bool) (status : DmaStatus) : DriverState :=
  { state with
    channel := state.channel.storeStatus state.channel.bdindex (transferStatus timedOut status)
    position := .userSpace }

-- The engine marks the cookie before it runs the callback, each in its own time and in any order.
def engineFinish (state : DriverState) (cookie : Int) : DriverState :=
  { state with engine := { state.engine with finished := cookie :: state.engine.finished } }

def syncCallback (state : DriverState) (transaction : Transaction) : DriverState :=
  { state with
    channel := complete state.channel transaction.bd
    engine := { state.engine with awaiting := state.engine.awaiting.erase transaction } }

def driverStep (state : DriverState) : Event → Option DriverState
  | .userStore buffer content =>
      if InRange buffer then
        some { state with
          channel := { state.channel with bufferTable := Function.update state.channel.bufferTable buffer content } }
      else none
  | .ioctl cmd arg =>
      match state.position with
      | .userSpace => some (ioctl state cmd arg)
      | _ => none
  | .prepSlaveSg obtained =>
      match state.position with
      | .startTransfer thenWait => some (prepareTransfer state thenWait obtained)
      | _ => none
  | .submit error =>
      match state.position with
      | .submit thenWait => some (submitTransfer state thenWait error)
      | _ => none
  | .beginWait =>
      match state.position with
      | .waitForTransfer => some (beginWait state)
      | _ => none
  | .endWait timedOut =>
      match state.position with
      | .waiting =>
          if timedOut = decide (completionCount state state.channel.bdindex = 0) then some (endWait state timedOut)
          else none
      | _ => none
  | .txStatus status =>
      match state.position with
      | .woken timedOut =>
          if Reports state.engine (state.channel.bdtable state.channel.bdindex).cookie status then
            some (finishWait state timedOut status)
          else none
      | _ => none
  | .finish cookie =>
      if ∃ transaction ∈ state.engine.awaiting, transaction.cookie = cookie then some (engineFinish state cookie)
      else none
  | .callback transaction =>
      if transaction ∈ state.engine.awaiting ∧ transaction.cookie ∈ state.engine.finished then
        some (syncCallback state transaction)
      else none

-- A channel as create_channel leaves it: the buffers lie in one allocation that ends within
-- the address space, completions and cookies hold whatever the memory held.
structure Created (state : DriverState) : Prop where
  fits : state.channel.bufferPhysAddr.toNat + channelBufferSize * bufferCount.toNat ≤ 2 ^ 64
  handles : ∃ memory, state.channel.bdtable = initHandles state.channel.bufferPhysAddr memory
  bdindex : state.channel.bdindex = 0
  engine : state.engine = ⟨0, [], []⟩
  position : state.position = .userSpace
  requests : state.requests = fun _ => .never

def driver : System DriverState Event := ⟨Created, driverStep⟩

def newChannel (length : UInt32) : DriverState where
  channel :=
    { bufferTable := fun _ => ⟨.proxyNoError, length⟩
      bufferPhysAddr := 0x10000000
      bdtable := initHandles 0x10000000 (fun _ => ⟨0, 0, 0, ⟨0, 0⟩⟩)
      direction := 1
      bdindex := 0 }
  engine := ⟨0, [], []⟩
  position := .userSpace
  requests := fun _ => .never

theorem new_channel_created (length : UInt32) : Created (newChannel length) :=
  have fits : (0x10000000 : UInt64).toNat + channelBufferSize * bufferCount.toNat ≤ 2 ^ 64 := by decide
  ⟨fits, ⟨_, rfl⟩, rfl, rfl, rfl, rfl⟩

inductive Taken (state : DriverState) : Event → DriverState → Prop
  | userStore (buffer : Int) (content : ChannelBuffer) (mapped : InRange buffer) :
      Taken state (.userStore buffer content)
        { state with
          channel := { state.channel with bufferTable := Function.update state.channel.bufferTable buffer content } }
  | ioctl (cmd : UInt32) (arg : Int) (entered : state.position = .userSpace) :
      Taken state (.ioctl cmd arg) (ioctl state cmd arg)
  | prepSlaveSg (thenWait obtained : Bool) (entered : state.position = .startTransfer thenWait) :
      Taken state (.prepSlaveSg obtained) (prepareTransfer state thenWait obtained)
  | submit (thenWait : Bool) (error : Option Nat) (entered : state.position = .submit thenWait) :
      Taken state (.submit error) (submitTransfer state thenWait error)
  | beginWait (entered : state.position = .waitForTransfer) : Taken state .beginWait (beginWait state)
  | endWait (timedOut : Bool) (entered : state.position = .waiting)
      (count : timedOut = decide (completionCount state state.channel.bdindex = 0)) :
      Taken state (.endWait timedOut) (endWait state timedOut)
  | txStatus (timedOut : Bool) (status : DmaStatus) (entered : state.position = .woken timedOut)
      (reports : Reports state.engine (state.channel.bdtable state.channel.bdindex).cookie status) :
      Taken state (.txStatus status) (finishWait state timedOut status)
  | finish (cookie : Int) (started : ∃ transaction ∈ state.engine.awaiting, transaction.cookie = cookie) :
      Taken state (.finish cookie) (engineFinish state cookie)
  | callback (transaction : Transaction) (awaited : transaction ∈ state.engine.awaiting)
      (finished : transaction.cookie ∈ state.engine.finished) :
      Taken state (.callback transaction) (syncCallback state transaction)

theorem update_bd_keeps {Value : Type} (field : ProxyBd → Value) (channel : ProxyChannel) (index : Int)
    (change : ProxyBd → ProxyBd) (keeps : ∀ bd, field (change bd) = field bd) (bd : Int) :
    field ((channel.updateBd index change).bdtable bd) = field (channel.bdtable bd) := by
  by_cases same : bd = index
  · subst bd
    simp only [ProxyChannel.updateBd, Function.update_self, keeps]
  · simp only [ProxyChannel.updateBd, Function.update_of_ne same]

theorem update_bd_other (channel : ProxyChannel) (index : Int) (change : ProxyBd → ProxyBd) (bd : Int)
    (other : bd ≠ index) : (channel.updateBd index change).bdtable bd = channel.bdtable bd :=
  Function.update_of_ne other _ _

theorem update_bd_self (channel : ProxyChannel) (index : Int) (change : ProxyBd → ProxyBd) :
    (channel.updateBd index change).bdtable index = change (channel.bdtable index) :=
  Function.update_self _ _ _

@[simp] theorem fill_sglist_handle (channel : ProxyChannel) (bd : Int) :
    ((fillSglist channel).bdtable bd).dmaHandle = (channel.bdtable bd).dmaHandle := by
  refine update_bd_keeps ProxyBd.dmaHandle _ _ _ ?_ bd
  exact fun _ => rfl

@[simp] theorem fill_sglist_cookie (channel : ProxyChannel) (bd : Int) :
    ((fillSglist channel).bdtable bd).cookie = (channel.bdtable bd).cookie := by
  refine update_bd_keeps ProxyBd.cookie _ _ _ ?_ bd
  exact fun _ => rfl

@[simp] theorem init_completion_handle (channel : ProxyChannel) (bd : Int) :
    ((initCompletion channel).bdtable bd).dmaHandle = (channel.bdtable bd).dmaHandle := by
  refine update_bd_keeps ProxyBd.dmaHandle _ _ _ ?_ bd
  exact fun _ => rfl

@[simp] theorem init_completion_cookie (channel : ProxyChannel) (bd : Int) :
    ((initCompletion channel).bdtable bd).cookie = (channel.bdtable bd).cookie := by
  refine update_bd_keeps ProxyBd.cookie _ _ _ ?_ bd
  exact fun _ => rfl

@[simp] theorem store_cookie_handle (channel : ProxyChannel) (cookie : Int) (bd : Int) :
    ((storeCookie channel cookie).bdtable bd).dmaHandle = (channel.bdtable bd).dmaHandle := by
  refine update_bd_keeps ProxyBd.dmaHandle _ _ _ ?_ bd
  exact fun _ => rfl

@[simp] theorem take_count_handle (channel : ProxyChannel) (bd : Int) :
    ((takeCount channel).bdtable bd).dmaHandle = (channel.bdtable bd).dmaHandle := by
  refine update_bd_keeps ProxyBd.dmaHandle _ _ _ ?_ bd
  exact fun _ => rfl

@[simp] theorem take_count_cookie (channel : ProxyChannel) (bd : Int) :
    ((takeCount channel).bdtable bd).cookie = (channel.bdtable bd).cookie := by
  refine update_bd_keeps ProxyBd.cookie _ _ _ ?_ bd
  exact fun _ => rfl

@[simp] theorem complete_handle (channel : ProxyChannel) (index bd : Int) :
    ((complete channel index).bdtable bd).dmaHandle = (channel.bdtable bd).dmaHandle := by
  refine update_bd_keeps ProxyBd.dmaHandle _ _ _ ?_ bd
  exact fun _ => rfl

@[simp] theorem complete_cookie (channel : ProxyChannel) (index bd : Int) :
    ((complete channel index).bdtable bd).cookie = (channel.bdtable bd).cookie := by
  refine update_bd_keeps ProxyBd.cookie _ _ _ ?_ bd
  exact fun _ => rfl

theorem guarded_some {Value : Type} {guard : Prop} [Decidable guard] {value result : Value} :
    (if guard then some value else none) = some result ↔ guard ∧ value = result := by
  simp only [Option.ite_none_right_eq_some, Option.some.injEq]

theorem step_taken (state : DriverState) (event : Event) (after : DriverState)
    (taken : driverStep state event = some after) : Taken state event after := by
  cases event with
  | userStore buffer content =>
      obtain ⟨mapped, rfl⟩ := guarded_some.mp taken
      exact .userStore buffer content mapped
  | ioctl cmd arg =>
      cases entered : state.position <;> simp only [driverStep, entered, reduceCtorEq, Option.some.injEq] at taken
      exact taken ▸ .ioctl cmd arg entered
  | prepSlaveSg obtained =>
      cases entered : state.position <;> simp only [driverStep, entered, reduceCtorEq, Option.some.injEq] at taken
      exact taken ▸ .prepSlaveSg _ obtained entered
  | submit error =>
      cases entered : state.position <;> simp only [driverStep, entered, reduceCtorEq, Option.some.injEq] at taken
      exact taken ▸ .submit _ error entered
  | beginWait =>
      cases entered : state.position <;> simp only [driverStep, entered, reduceCtorEq, Option.some.injEq] at taken
      exact taken ▸ .beginWait entered
  | endWait timedOut =>
      cases entered : state.position <;> simp only [driverStep, entered, reduceCtorEq, guarded_some] at taken
      exact taken.2 ▸ .endWait timedOut entered taken.1
  | txStatus status =>
      cases entered : state.position <;> simp only [driverStep, entered, reduceCtorEq, guarded_some] at taken
      exact taken.2 ▸ .txStatus _ status entered taken.1
  | finish cookie =>
      obtain ⟨started, rfl⟩ := guarded_some.mp taken
      exact .finish cookie started
  | callback transaction =>
      obtain ⟨⟨awaited, finished⟩, rfl⟩ := guarded_some.mp taken
      exact .callback transaction awaited finished

end LilacUxB.DmaProxy
