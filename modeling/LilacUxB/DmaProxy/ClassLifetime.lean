import LilacUxB.DmaProxy.Probe

set_option autoImplicit false

namespace LilacUxB.DmaProxy

open Ledger Transitions

def LiveClass (calls : Calls) : ClassPointer → Prop
  | .object number => Held (.deviceClass number) calls
  | _ => False

def isNode : Resource → Bool
  | .deviceNode _ _ => true
  | _ => false

-- What the driver core asks of the calls on classes and device nodes. A class goes
-- with the last device node of any device.
def ClassUse (earlier : Calls) : Entry Resource → Prop
  | .acquire (.deviceNode _ owner) => LiveClass earlier owner
  | .release (.deviceNode _ owner) => LiveClass earlier owner
  | .release (.deviceClass number) => Held (.deviceClass number) earlier ∧ outstanding isNode earlier = 0
  | _ => True

def neutral : Resource → Bool
  | .deviceClass _ => false
  | .deviceNode _ _ => false
  | _ => true

structure Books (module : Module) (registered : Nat) : Prop where
  legal : Legal ClassUse module.calls
  total : module.totalCount = registered
  nodes : outstanding isNode module.calls = registered
  only : ∀ number, .acquire (.deviceClass number) ∈ module.calls → module.localClassP = .object number
  fresh : ∀ number, module.classesCreated ≤ number → .release (.deviceClass number) ∉ module.calls

def StaticClass (module : Module) (registered : Nat) : Prop :=
  match module.localClassP with
  | .null => registered = 0
  | .err => False
  | .object number =>
      number < module.classesCreated ∧
        if registered = 0 then .release (.deviceClass number) ∈ module.calls
        else Held (.deviceClass number) module.calls

structure Shared (module : Module) (registered : Nat) : Prop extends Books module registered where
  static : StaticClass module registered

structure Ensured (module : Module) (registered : Nat) (number : Nat) : Prop extends Books module registered where
  owner : module.localClassP = .object number
  below : number < module.classesCreated
  live : Held (.deviceClass number) module.calls

theorem books_neutral (module : Module) (registered : Nat) (resource : Resource) (call : Entry Resource)
    (about : call = .acquire resource ∨ call = .release resource) (plain : neutral resource = true)
    (books : Books module registered) : Books { module with calls := call :: module.calls } registered := by
  cases resource with
  | deviceClass number => cases plain
  | deviceNode id owner => cases plain
  | _ =>
      rcases about with rfl | rfl
      all_goals
        refine ⟨⟨trivial, books.legal⟩, books.total, ?_, ?_, ?_⟩
        · simpa [outstanding, isNode] using books.nodes
        · simpa using books.only
        · simpa using books.fresh

theorem static_kept (module after : Module) (registered : Nat) (pointer : after.localClassP = module.localClassP)
    (created : after.classesCreated = module.classesCreated)
    (same : ∀ number, (.acquire (.deviceClass number) ∈ after.calls ↔ .acquire (.deviceClass number) ∈ module.calls) ∧
      (.release (.deviceClass number) ∈ after.calls ↔ .release (.deviceClass number) ∈ module.calls))
    (static : StaticClass module registered) : StaticClass after registered := by
  unfold StaticClass at static ⊢
  rw [pointer, created]
  cases owner : module.localClassP with
  | object number => simpa only [owner, Held, (same number).1, (same number).2] using static
  | null => simpa only [owner] using static
  | err => simp only [owner] at static

theorem static_held (module : Module) (registered number : Nat) (pointer : module.localClassP = .object number)
    (occupied : registered ≠ 0) (static : StaticClass module registered) :
    number < module.classesCreated ∧ Held (.deviceClass number) module.calls := by
  simpa only [StaticClass, pointer, if_neg occupied] using static

theorem static_object (module : Module) (registered : Nat) (occupied : registered ≠ 0)
    (static : StaticClass module registered) : ∃ number, module.localClassP = .object number := by
  unfold StaticClass at static
  cases pointer : module.localClassP with
  | null =>
      simp only [pointer] at static
      exact absurd static occupied
  | err => simp only [pointer] at static
  | object number => exact ⟨number, rfl⟩

theorem shared_neutral (module : Module) (registered : Nat) (resource : Resource) (call : Entry Resource)
    (about : call = .acquire resource ∨ call = .release resource) (plain : neutral resource = true)
    (shared : Shared module registered) : Shared { module with calls := call :: module.calls } registered := by
  refine ⟨books_neutral module registered resource call about plain shared.toBooks, ?_⟩
  refine static_kept module _ registered rfl rfl (fun number => ?_) shared.static
  have different : .deviceClass number ≠ resource := by
    rintro rfl
    cases plain
  rcases about with rfl | rfl <;> simp [different]

theorem ensure_class_ensured (answers : Answers) (module : Module) (registered : Nat)
    (create : answers.classCreate = true) (available : module.localClassP = .null ∨ 0 < registered)
    (shared : Shared module registered) : ∃ number, Ensured (ensureClass answers module) registered number := by
  unfold ensureClass
  have static := shared.static
  unfold StaticClass at static
  cases pointer : module.localClassP with
  | err => simp only [pointer] at static
  | null =>
      simp only [create, if_true]
      have none : ∀ number, .acquire (.deviceClass number) ∉ module.calls := by
        intro number member
        rw [shared.only number member] at pointer
        cases pointer
      refine ⟨module.classesCreated, ⟨⟨trivial, shared.legal⟩, shared.total, ?_, ?_, ?_⟩, rfl, Nat.lt_succ_self _, ?_⟩
      · simpa [Module.acquire, outstanding, isNode] using shared.nodes
      · intro number member
        rcases List.mem_cons.mp member with same | earlier
        · cases same
          rfl
        · exact absurd earlier (none number)
      · intro number above member
        have earlier : .release (.deviceClass number) ∈ module.calls := by simpa [Module.acquire] using member
        exact shared.fresh number (Nat.le_of_succ_le above) earlier
      · exact held_acquire _ _ (shared.fresh _ (le_refl _))
  | object number =>
      have occupied : registered ≠ 0 := by
        rcases available with null | positive
        · rw [null] at pointer
          cases pointer
        · exact Nat.ne_of_gt positive
      obtain ⟨below, live⟩ := static_held module registered number pointer occupied shared.static
      exact ⟨number, shared.toBooks, pointer, below, live⟩

theorem claimed_shared (id : ChannelId) (module : Module) (registered : Nat) (shared : Shared module registered) :
    Shared (claimed id module) registered :=
  shared_neutral _ _ (.cdev id) _ (.inl rfl) rfl (shared_neutral _ _ (.chrdevRegion id) _ (.inl rfl) rfl
    (shared_neutral _ _ (.dmaChannel id) _ (.inl rfl) rfl shared))

theorem node_made_books (module : Module) (registered number : Nat) (id : ChannelId)
    (ensured : Ensured module registered number) :
    Books { module.acquire (.deviceNode id (.object number)) with totalCount := module.totalCount + 1 }
      (registered + 1) := by
  refine ⟨⟨ensured.live, ensured.legal⟩, ?_, ?_, ?_, ?_⟩
  · simp [ensured.total]
  · simp [Module.acquire, outstanding, isNode, ensured.nodes]
  · simpa [Module.acquire] using ensured.only
  · simpa [Module.acquire] using ensured.fresh

theorem channel_made_shared (answers : Answers) (id : ChannelId) (module : Module) (registered : Nat)
    (create : answers.classCreate = true) (available : module.localClassP = .null ∨ 0 < registered)
    (shared : Shared module registered) :
    Shared { channelMade answers id module with totalCount := (channelMade answers id module).totalCount + 1 }
      (registered + 1) := by
  obtain ⟨number, ensured⟩ := ensure_class_ensured answers (claimed id module) registered create available
    (claimed_shared id module registered shared)
  have table := books_neutral _ _ (.bufferTable id) (.acquire (.bufferTable id)) (.inl rfl) rfl
    (node_made_books _ registered number id ensured)
  have live := held_keep_acquire _ (.bufferTable id) _
    (held_keep_acquire _ (.deviceNode id (.object number)) _ ensured.live)
  simp only [channelMade, ensured.owner]
  refine ⟨table, ?_⟩
  simp only [StaticClass, acquire_local_class_p, ensured.owner, Nat.succ_ne_zero, if_false]
  exact ⟨ensured.below, live⟩

theorem channel_made_object (answers : Answers) (id : ChannelId) (module : Module) (number : Nat)
    (pointer : module.localClassP = .object number) :
    channelMade answers id module =
      ((claimed id module).acquire (.deviceNode id (.object number))).acquire (.bufferTable id) := by
  have same : (claimed id module).localClassP = .object number := pointer
  simp only [channelMade, ensureClass, same]

structure AllSucceed (answers : Answers) : Prop where
  proxy : answers.proxyAllocated = true
  names : answers.namesAllocated = true
  read : 0 ≤ answers.namesRead
  channels : answers.channelsAllocated = true
  create : answers.classCreate = true
  each : ∀ index, Succeeds answers index

def Registers (module : Module) (record : ChannelRecord) : Prop :=
  record.classP = module.localClassP ∧ record.proxyDeviceP = .valid

theorem shared_available (answers : Answers) (module : Module) (registered : Nat) (create : answers.classCreate = true)
    (shared : Shared module registered) : ClassUsable answers module.localClassP := by
  have static := shared.static
  unfold StaticClass at static
  cases pointer : module.localClassP with
  | null => exact create
  | err => simp only [pointer] at static
  | object number => trivial

structure ChannelsMade (registered remaining : Nat) (module : Module) (result : Int × List ChannelRecord × Module) :
    Prop where
  code : result.1 = 0
  length : result.2.1.length = remaining
  shared : Shared result.2.2 (registered + remaining)
  registers : ∀ record ∈ result.2.1, Registers result.2.2 record
  pointer : ∀ number, module.localClassP = .object number → result.2.2.localClassP = .object number

theorem create_channels_shared (answers : Answers) (succeed : AllSucceed answers) (device remaining index : Nat)
    (module : Module) (registered : Nat) (available : 0 < remaining → module.localClassP = .null ∨ 0 < registered)
    (shared : Shared module registered) :
    ChannelsMade registered remaining module (createChannels answers device remaining index module) := by
  induction remaining generalizing index module registered with
  | zero => exact ⟨rfl, rfl, shared, fun _ member => (List.not_mem_nil member).elim, fun _ => id⟩
  | succ remaining ih =>
      have free := available (Nat.succ_pos _)
      have made := create_channel_succeeds answers ⟨device, index⟩ dmaMemToDev module (succeed.each index)
        (shared_available answers module registered succeed.create shared)
      have next := channel_made_shared answers ⟨device, index⟩ module registered succeed.create free shared
      have rest := ih (index + 1) _ (registered + 1) (fun _ => .inr (Nat.succ_pos _)) next
      obtain ⟨number, pointed⟩ := static_object _ (registered + 1) (Nat.succ_ne_zero _) next.static
      have last := rest.pointer number pointed
      simp only [createChannels, made, ne_eq, not_true_eq_false, if_false]
      refine ⟨rest.code, by rw [List.length_cons, rest.length], ?_, ?_, ?_⟩
      · rw [show registered + (remaining + 1) = registered + 1 + remaining by omega]
        exact rest.shared
      · intro record member
        rcases List.mem_cons.mp member with rfl | later
        · exact ⟨pointed.trans last.symm, rfl⟩
        · exact rest.registers record later
      · intro before pointer
        have kept : (channelMade answers ⟨device, index⟩ module).localClassP = .object before := by
          rw [channel_made_object answers _ module before pointer]
          exact pointer
        exact rest.pointer before kept

theorem class_left_books (module : Module) (id : ChannelId) (number : Nat) (pointer : module.localClassP = .object number)
    (shared : Shared module 1) :
    Shared { (module.release (.deviceNode id (.object number))).release (.deviceClass number) with
      totalCount := module.totalCount - 1 } 0 := by
  have static := static_held module 1 number pointer Nat.one_ne_zero shared.static
  have live : Held (.deviceClass number) (module.release (.deviceNode id (.object number))).calls :=
    held_keep_release _ _ _ (by simp) static.2
  have none : outstanding isNode (module.release (.deviceNode id (.object number))).calls = 0 := by
    simp [Module.release, outstanding, isNode, shared.nodes]
  refine ⟨⟨⟨⟨live, none⟩, static.2, shared.legal⟩, ?_, ?_, ?_, ?_⟩, ?_⟩
  · simp [shared.total]
  · simpa [Module.release, outstanding, isNode] using none
  · simpa [Module.release] using shared.only
  · intro other above
    have different : other ≠ number := by
      have := static.1
      have : module.classesCreated ≤ other := above
      omega
    simpa [Module.release, different] using shared.fresh other above
  · simp [StaticClass, Module.release, pointer, static.1]

theorem node_left_shared (module : Module) (registered : Nat) (id : ChannelId) (number : Nat)
    (pointer : module.localClassP = .object number) (shared : Shared module (registered + 2)) :
    Shared { module.release (.deviceNode id (.object number)) with totalCount := module.totalCount - 1 }
      (registered + 1) := by
  have static := static_held module (registered + 2) number pointer (Nat.succ_ne_zero _) shared.static
  refine ⟨⟨⟨static.2, shared.legal⟩, ?_, ?_, ?_, ?_⟩, ?_⟩
  · simp only [shared.total]
    push_cast
    ring
  · simp only [Module.release, outstanding, isNode, shared.nodes, if_true]
    push_cast
    ring
  · simpa [Module.release] using shared.only
  · simpa [Module.release] using shared.fresh
  · simpa [StaticClass, Module.release, pointer, Held] using static

theorem cdevice_exit_shared (module : Module) (registered : Nat) (id : ChannelId) (record : ChannelRecord)
    (registers : Registers module record) (shared : Shared module (registered + 1)) :
    Shared { cdeviceExit id record module with totalCount := module.totalCount - 1 } registered := by
  obtain ⟨number, pointer⟩ := static_object module (registered + 1) (Nat.succ_ne_zero _) shared.static
  have owner : record.classP = .object number := registers.1.trans pointer
  have total := shared.total
  have undone := fun (after : Module) (left : Shared after registered) =>
    shared_neutral _ _ (.chrdevRegion id) (.release (.chrdevRegion id)) (.inr rfl) rfl
      (shared_neutral after registered (.cdev id) (.release (.cdev id)) (.inr rfl) rfl left)
  cases registered with
  | zero =>
      have last : module.totalCount = 1 := total
      have gone := undone _ (class_left_books module id number pointer shared)
      simpa [cdeviceExit, registers.2, owner, Module.release, last, Module.classDestroy, undoCdev, undoRegion]
        using gone
  | succ registered =>
      have more : module.totalCount ≠ 1 := by
        push_cast at total
        omega
      have gone := undone _ (node_left_shared module registered id number pointer shared)
      simpa [cdeviceExit, registers.2, owner, Module.release, more, undoCdev, undoRegion] using gone

theorem cdevice_exit_statics (id : ChannelId) (record : ChannelRecord) (module : Module) :
    (cdeviceExit id record module).localClassP = module.localClassP ∧
      (cdeviceExit id record module).totalCount = module.totalCount := by
  unfold cdeviceExit
  dsimp only
  split_ifs
  · cases record.classP <;> exact ⟨rfl, rfl⟩
  · exact ⟨rfl, rfl⟩
  · exact ⟨rfl, rfl⟩

theorem exit_channels_shared (device index : Nat) (records : List ChannelRecord) (module : Module) (registered : Nat)
    (registers : ∀ record ∈ records, Registers module record) (shared : Shared module (registered + records.length)) :
    Shared (exitChannels device index records module) registered ∧
      (exitChannels device index records module).localClassP = module.localClassP := by
  induction records generalizing index module with
  | nil => exact ⟨shared, rfl⟩
  | cons record records ih =>
      obtain ⟨first, others⟩ := List.forall_mem_cons.mp registers
      have exited := cdevice_exit_shared module (registered + records.length) ⟨device, index⟩ record first shared
      obtain ⟨pointer, total⟩ := cdevice_exit_statics ⟨device, index⟩ record module
      have present : record.proxyDeviceP ≠ .null := by simp [first.2]
      have rest := ih (index + 1)
        { cdeviceExit ⟨device, index⟩ record module with totalCount := module.totalCount - 1 }
        (fun other member => ⟨(others other member).1.trans pointer.symm, (others other member).2⟩) exited
      simp only [exitChannels, present, ne_eq, not_false_eq_true, if_true, total]
      exact ⟨rest.1, rest.2.trans pointer⟩

theorem release_channels_shared (device index : Nat) (records : List ChannelRecord) (module : Module)
    (registered : Nat) (shared : Shared module registered) :
    Shared (releaseChannels device index records module) registered ∧
      (releaseChannels device index records module).localClassP = module.localClassP := by
  induction records generalizing index module with
  | nil => exact ⟨shared, rfl⟩
  | cons record records ih =>
      by_cases requested : record.channelP ≠ .null
      · have released := shared_neutral module registered (.dmaChannel ⟨device, index⟩) _ (.inr rfl) rfl shared
        simp only [releaseChannels, if_pos requested]
        exact ih (index + 1) _ released
      · simp only [releaseChannels, if_neg requested]
        exact ih (index + 1) module shared

structure Bus where
  module : Module
  bound : List (Nat × List ChannelRecord)

inductive BusEvent where
  | probe (device : Nat) (answers : Answers)
  | remove (device : Nat)

def unbind (device : Nat) : List (Nat × List ChannelRecord) → Option (List ChannelRecord × List (Nat × List ChannelRecord))
  | [] => none
  | (other, records) :: rest =>
      if other = device then some (records, rest)
      else (unbind device rest).map (fun found => (found.1, (other, records) :: found.2))

-- The driver core probes a device that is not bound, binds it when the probe returns zero,
-- and removes bound devices only.
def busStep (bus : Bus) : BusEvent → Option Bus
  | .probe device answers =>
      if device ∈ bus.bound.map Prod.fst then none
      else
        let result := dmaProxyProbe answers device bus.module
        some ⟨result.2.2, if result.1 = 0 then (device, result.2.1) :: bus.bound else bus.bound⟩
  | .remove device =>
      (unbind device bus.bound).map (fun found => ⟨dmaProxyRemove device found.1 bus.module, found.2⟩)

def bus : System Bus BusEvent := ⟨fun state => state = ⟨loaded, []⟩, busStep⟩

def registeredChannels (state : Bus) : Nat := (state.bound.map (fun entry => entry.2.length)).sum

structure Sound (state : Bus) : Prop where
  legal : Legal ClassUse state.module.calls
  total : state.module.totalCount = registeredChannels state
  nodes : outstanding isNode state.module.calls = registeredChannels state
  exists_class : (∃ number, Held (.deviceClass number) state.module.calls) ↔ 0 < registeredChannels state

def EverySucceeds (event : BusEvent) : Prop := ∀ device answers, event = .probe device answers → AllSucceed answers

def ClassAvailable (state : Bus) (event : BusEvent) : Prop :=
  ∀ device answers, event = .probe device answers → 0 < answers.channelCount →
    state.module.localClassP = .null ∨ 0 < state.module.totalCount

def Orderly (state : Bus) (event : BusEvent) : Prop := EverySucceeds event ∧ ClassAvailable state event

structure Bound (state : Bus) : Prop where
  shared : Shared state.module (registeredChannels state)
  registers : ∀ entry ∈ state.bound, ∀ record ∈ entry.2, Registers state.module record

theorem bound_sound (state : Bus) (inv : Bound state) : Sound state := by
  refine ⟨inv.shared.legal, inv.shared.total, inv.shared.nodes, ?_⟩
  have static := inv.shared.static
  constructor
  · rintro ⟨number, held⟩
    by_contra none
    have zero : registeredChannels state = 0 := Nat.eq_zero_of_not_pos none
    simp only [StaticClass, inv.shared.only number held.1, zero, if_true] at static
    exact held.2 static.2
  · intro positive
    have occupied := Nat.ne_of_gt positive
    obtain ⟨number, pointer⟩ := static_object _ _ occupied static
    exact ⟨number, (static_held _ _ number pointer occupied static).2⟩

theorem unbind_perm (device : Nat) (entries rest : List (Nat × List ChannelRecord)) (records : List ChannelRecord)
    (found : unbind device entries = some (records, rest)) : entries.Perm ((device, records) :: rest) := by
  induction entries generalizing rest with
  | nil => cases found
  | cons entry entries ih =>
      obtain ⟨other, others⟩ := entry
      by_cases same : other = device
      · simp only [unbind, if_pos same, Option.some.injEq, Prod.mk.injEq] at found
        obtain ⟨rfl, rfl⟩ := found
        rw [same]
      · simp only [unbind, if_neg same, Option.map_eq_some_iff, Prod.mk.injEq] at found
        obtain ⟨⟨taken, left⟩, later, rfl, rfl⟩ := found
        exact ((ih left later).cons _).trans (List.Perm.swap _ _ _)

theorem all_succeed_probe (answers : Answers) (device : Nat) (module : Module) (succeed : AllSucceed answers) :
    dmaProxyProbe answers device module =
      if answers.channelCount ≤ 0 then (0, [], module)
      else createChannels answers device answers.channelCount.toNat 0 module := by
  simp only [dmaProxyProbe, succeed.proxy, succeed.names, succeed.channels, not_true_eq_false, if_false,
    if_neg (not_lt.mpr succeed.read)]

theorem registers_after (state : Bus) (module : Module) (inv : Bound state)
    (pointer : ∀ number, state.module.localClassP = .object number → module.localClassP = .object number) :
    ∀ entry ∈ state.bound, ∀ record ∈ entry.2, Registers module record := by
  intro entry member record recorded
  have registers := inv.registers entry member record recorded
  have positive : 0 < registeredChannels state := by
    have length : entry.2.length ≤ registeredChannels state :=
      List.single_le_sum (fun _ _ => Nat.zero_le _) _ (List.mem_map_of_mem member)
    exact Nat.lt_of_lt_of_le (List.length_pos_of_mem recorded) length
  obtain ⟨number, owner⟩ := static_object _ _ (Nat.ne_of_gt positive) inv.shared.static
  exact ⟨(registers.1.trans owner).trans (pointer number owner).symm, registers.2⟩

theorem probe_bound (state : Bus) (device : Nat) (answers : Answers) (succeed : AllSucceed answers) (inv : Bound state)
    (available : 0 < answers.channelCount → state.module.localClassP = .null ∨ 0 < state.module.totalCount) :
    (dmaProxyProbe answers device state.module).1 = 0 ∧
      Bound ⟨(dmaProxyProbe answers device state.module).2.2,
        (device, (dmaProxyProbe answers device state.module).2.1) :: state.bound⟩ := by
  rw [all_succeed_probe answers device state.module succeed]
  by_cases none : answers.channelCount ≤ 0
  · rw [if_pos none]
    refine ⟨rfl, ⟨by simpa [registeredChannels] using inv.shared, ?_⟩⟩
    exact List.forall_mem_cons.mpr ⟨fun _ member => (List.not_mem_nil member).elim, inv.registers⟩
  · rw [if_neg none]
    have free : 0 < answers.channelCount.toNat → state.module.localClassP = .null ∨ 0 < registeredChannels state := by
      intro _
      have total := inv.shared.total
      rcases available (not_le.mp none) with null | positive
      · exact .inl null
      · exact .inr (by omega)
    have made := create_channels_shared answers succeed device answers.channelCount.toNat 0 state.module
      (registeredChannels state) free inv.shared
    refine ⟨made.code, ⟨?_, List.forall_mem_cons.mpr ⟨made.registers, registers_after state _ inv made.pointer⟩⟩⟩
    have count : registeredChannels ⟨(createChannels answers device answers.channelCount.toNat 0 state.module).2.2,
        (device, (createChannels answers device answers.channelCount.toNat 0 state.module).2.1) :: state.bound⟩ =
          registeredChannels state + answers.channelCount.toNat := by
      simp [registeredChannels, made.length, Nat.add_comm]
    rw [count]
    exact made.shared

theorem remove_bound (state : Bus) (device : Nat) (records : List ChannelRecord)
    (rest : List (Nat × List ChannelRecord)) (found : unbind device state.bound = some (records, rest))
    (inv : Bound state) : Bound ⟨dmaProxyRemove device records state.module, rest⟩ := by
  have perm := unbind_perm device state.bound rest records found
  have count : registeredChannels state = registeredChannels ⟨state.module, rest⟩ + records.length := by
    have same := (perm.map (fun entry => entry.2.length)).sum_eq
    simp only [registeredChannels, same, List.map_cons, List.sum_cons, Nat.add_comm]
  have registers := fun entry member => inv.registers entry (perm.mem_iff.mpr member)
  have shared := inv.shared
  rw [count] at shared
  have exited := exit_channels_shared device 0 records state.module _ (registers _ List.mem_cons_self) shared
  have released := release_channels_shared device 0 records _ _ exited.1
  refine ⟨released.1, fun entry member record recorded => ?_⟩
  have before := registers entry (List.mem_cons_of_mem _ member) record recorded
  exact ⟨before.1.trans (released.2.trans exited.2).symm, before.2⟩

theorem create_channels_next (answers : Answers) (succeed : AllSucceed answers) (device remaining index : Nat)
    (module : Module) (number : Nat) (pointer : module.localClassP = .object number) :
    (createChannels answers device (remaining + 1) index module).2.2 =
      (createChannels answers device remaining (index + 1)
        { ((claimed ⟨device, index⟩ module).acquire (.deviceNode ⟨device, index⟩ (.object number))).acquire
            (.bufferTable ⟨device, index⟩) with totalCount := module.totalCount + 1 }).2.2 := by
  have usable : ClassUsable answers module.localClassP := by simp only [pointer, ClassUsable]
  have made := create_channel_succeeds answers ⟨device, index⟩ dmaMemToDev module (succeed.each index) usable
  have calls := channel_made_object answers ⟨device, index⟩ module number pointer
  simp only [createChannels, made, calls, ne_eq, not_true_eq_false, if_false]
  rfl

theorem create_channels_legal (answers : Answers) (succeed : AllSucceed answers) (device remaining index : Nat)
    (module : Module) (number : Nat) (pointer : module.localClassP = .object number)
    (legal : Legal ClassUse (createChannels answers device remaining index module).2.2.calls) :
    Legal ClassUse module.calls := by
  induction remaining generalizing index module with
  | zero => exact legal
  | succ remaining ih =>
      rw [create_channels_next answers succeed device remaining index module number pointer] at legal
      have before := ih (index + 1) _ (by exact pointer) legal
      exact before.2.2.2.2.2

theorem gone_class_used (answers : Answers) (succeed : AllSucceed answers) (device remaining : Nat) (module : Module)
    (number : Nat) (pointer : module.localClassP = .object number) (gone : .release (.deviceClass number) ∈ module.calls) :
    ¬ Legal ClassUse (createChannels answers device (remaining + 1) 0 module).2.2.calls := by
  intro legal
  rw [create_channels_next answers succeed device remaining 0 module number pointer] at legal
  have first := create_channels_legal answers succeed device remaining (0 + 1) _ number (by exact pointer) legal
  have live : Held (.deviceClass number) (claimed ⟨device, 0⟩ module).calls := first.2.1
  exact live.2 (by simpa [claimed, Module.acquire] using gone)

theorem unavailable_unsound (state : Bus) (device : Nat) (answers : Answers) (succeed : AllSucceed answers)
    (inv : Bound state) (channels : 0 < answers.channelCount) (made : state.module.localClassP ≠ .null)
    (none : ¬ 0 < state.module.totalCount) :
    ¬ Legal ClassUse (dmaProxyProbe answers device state.module).2.2.calls := by
  have zero : registeredChannels state = 0 := by
    have total := inv.shared.total
    omega
  have static := inv.shared.static
  obtain ⟨remaining, counted⟩ := Nat.exists_eq_succ_of_ne_zero (show answers.channelCount.toNat ≠ 0 by omega)
  rw [all_succeed_probe answers device state.module succeed, if_neg (not_le.mpr channels), counted]
  unfold StaticClass at static
  cases pointer : state.module.localClassP with
  | null => exact absurd pointer made
  | err => simp only [pointer] at static
  | object number =>
      simp only [pointer, zero, if_true] at static
      exact gone_class_used answers succeed device remaining state.module number pointer static.2

theorem bus_starts : bus.start ⟨loaded, []⟩ := rfl

theorem loaded_bound : Bound ⟨loaded, []⟩ := by
  refine ⟨⟨⟨trivial, rfl, rfl, ?_, ?_⟩, rfl⟩, fun entry member => (List.not_mem_nil member).elim⟩
  · exact fun _ member => (List.not_mem_nil member).elim
  · exact fun _ _ member => (List.not_mem_nil member).elim

theorem step_bound (state : Bus) (event : BusEvent) (after : Bus) (inv : Bound state) (succeeds : EverySucceeds event)
    (available : ClassAvailable state event) (taken : busStep state event = some after) : Bound after := by
  cases event with
  | probe device answers =>
      by_cases bound : device ∈ state.bound.map Prod.fst
      · simp only [busStep, if_pos bound, reduceCtorEq] at taken
      · obtain ⟨zero, next⟩ := probe_bound state device answers (succeeds device answers rfl) inv
          (available device answers rfl)
        simp only [busStep, if_neg bound, zero, if_true, Option.some.injEq] at taken
        exact taken ▸ next
  | remove device =>
      obtain ⟨⟨records, rest⟩, found, rfl⟩ := Option.map_eq_some_iff.mp taken
      exact remove_bound state device records rest found inv

theorem class_lifetime_exactly (events : List BusEvent) (state : Bus)
    (run : Run bus Orderly events state) :
    Sound state ∧ ∀ event after, EverySucceeds event → busStep state event = some after →
      (Sound after ↔ ClassAvailable state event) := by
  have inv : Bound state := by
    refine run.invariant Bound ?_ ?_
    · rintro state rfl
      exact loaded_bound
    · intro state event after inv rule taken
      exact step_bound state event after inv rule.1 rule.2 taken
  refine ⟨bound_sound state inv, ?_⟩
  intro event after succeeds taken
  constructor
  · rintro sound device answers rfl channels
    by_contra unavailable
    obtain ⟨made, none⟩ := not_or.mp unavailable
    have unsound := unavailable_unsound state device answers (succeeds device answers rfl) inv channels made none
    by_cases bound : device ∈ state.bound.map Prod.fst
    · simp only [busStep, if_pos bound, reduceCtorEq] at taken
    · simp only [busStep, if_neg bound, Option.some.injEq] at taken
      subst after
      exact unsound sound.legal
  · intro available
    exact bound_sound after (step_bound state event after inv succeeds available taken)

def oneGood : Answers := oneChannel 0 true

theorem one_good_succeeds : AllSucceed oneGood :=
  ⟨rfl, rfl, by decide, rfl, rfl, fun _ => ⟨⟨rfl, rfl, rfl, rfl⟩, rfl⟩⟩

def probeOne (device : Nat) : BusEvent := .probe device oneGood

theorem probe_one_succeeds (device : Nat) : EverySucceeds (probeOne device) := by
  rintro other answers same
  cases same
  exact one_good_succeeds

theorem remove_succeeds (device : Nat) : EverySucceeds (.remove device) := nofun

theorem two_devices_sound :
    ∃ state, busStep ⟨loaded, []⟩ (probeOne 0) = some state ∧ ∃ later, busStep state (probeOne 1) = some later ∧
      Sound later ∧ ∃ last, busStep later (.remove 0) = some last ∧ Sound last := by
  have first : ClassAvailable ⟨loaded, []⟩ (probeOne 0) := fun _ _ _ _ => .inl rfl
  have one : Run bus Orderly [probeOne 0] _ :=
    .next [] ⟨loaded, []⟩ (probeOne 0) _ (.start _ bus_starts) ⟨probe_one_succeeds 0, first⟩ rfl
  have next := (class_lifetime_exactly _ _ one).2 (probeOne 1) _ (probe_one_succeeds 1) rfl
  have second := next.mpr (fun _ _ _ _ => .inr (by decide))
  have two : Run bus Orderly [probeOne 1, probeOne 0] _ :=
    .next _ _ (probeOne 1) _ one ⟨probe_one_succeeds 1, next.mp second⟩ rfl
  have last := (class_lifetime_exactly _ _ two).2 (.remove 0) _ (remove_succeeds 0) rfl
  exact ⟨_, rfl, _, rfl, second, _, rfl, last.mpr nofun⟩

-- Probe, remove and probe again: the second probe finds the pointer to the destroyed class.
theorem destroyed_class_used :
    ∃ state, Run bus (fun _ event => EverySucceeds event) [probeOne 0, .remove 0, probeOne 0] state ∧
      ¬ Sound state := by
  have one : Run bus (fun _ event => EverySucceeds event) [probeOne 0] _ :=
    .next [] ⟨loaded, []⟩ (probeOne 0) _ (.start _ bus_starts) (probe_one_succeeds 0) rfl
  have two : Run bus (fun _ event => EverySucceeds event) [.remove 0, probeOne 0] _ :=
    .next _ _ (.remove 0) _ one (remove_succeeds 0) rfl
  refine ⟨_, .next _ _ (probeOne 0) _ two (probe_one_succeeds 0) rfl, fun sound => ?_⟩
  have live : LiveClass _ (.object 0) := sound.legal.2.1
  exact live.2 (by decide)

end LilacUxB.DmaProxy
