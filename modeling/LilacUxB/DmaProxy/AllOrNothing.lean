import LilacUxB.DmaProxy.Probe

set_option autoImplicit false

namespace LilacUxB.DmaProxy

open Ledger

def Acquired (calls : Calls) (id : ChannelId) : Prop :=
  .acquire (.dmaChannel id) ∈ calls ∧ .acquire (.cdev id) ∈ calls ∧
    (∃ owner, .acquire (.deviceNode id owner) ∈ calls) ∧ .acquire (.bufferTable id) ∈ calls

-- The node may stand under any class: a static that points to a class destroyed before counts as
-- usable here, what becomes of it is the subject of ClassLifetime.
def HasChannel (calls : Calls) (id : ChannelId) : Prop :=
  Held (.dmaChannel id) calls ∧ Held (.cdev id) calls ∧
    (∃ owner, Held (.deviceNode id owner) calls) ∧ Held (.bufferTable id) calls

-- The kernel itself releases device-managed memory after a failed probe.
def Managed : Resource → Prop
  | .bufferTable _ => True
  | _ => False

def AllOrNothing (answers : Answers) (device : Nat) (before : Module) : Prop :=
  let result := dmaProxyProbe answers device { before with calls := [] }
  let rc := result.1
  let after := result.2.2
  (rc = 0 → ∀ index : Nat, (index : Int) < answers.channelCount → HasChannel after.calls ⟨device, index⟩) ∧
    (rc ≠ 0 →
      (∀ resource, ¬ Managed resource → .acquire resource ∈ after.calls → ReleasedOnce resource after.calls) ∧
        after.totalCount = before.totalCount)

def StopsEarly (answers : Answers) : Prop :=
  answers.proxyAllocated = false ∨ answers.channelCount ≤ 0 ∨ answers.namesAllocated = false ∨
    answers.namesRead < 0 ∨ answers.channelsAllocated = false

def Justified (answers : Answers) (before : ClassPointer) : Entry Resource → Prop
  | .acquire (.deviceNode id _) => Registered answers id.index ∧ ClassUsable answers before
  | .acquire (.bufferTable id) => (answers.dmamAllocCoherent id.index).isSome = true
  | .release (.dmaChannel _) => False
  | _ => True

structure Probing (answers : Answers) (before : ClassPointer) (start : Calls) (module : Module) : Prop where
  justified : ∀ call ∈ module.calls, Justified answers before call
  kept : ∀ call ∈ start, call ∈ module.calls
  usable : ∀ number, module.localClassP = .object number → ClassUsable answers before
  untouched : module.localClassP = .null → before = .null

theorem probing_call (answers : Answers) (before : ClassPointer) (start : Calls) (module : Module)
    (call : Entry Resource) (justified : Justified answers before call) (probing : Probing answers before start module) :
    Probing answers before start { module with calls := call :: module.calls } :=
  ⟨List.forall_mem_cons.mpr ⟨justified, probing.justified⟩,
    fun other member => List.mem_cons_of_mem _ (probing.kept other member), probing.usable, probing.untouched⟩

theorem probing_undo (answers : Answers) (before : ClassPointer) (start : Calls) (module : Module) (id : ChannelId)
    (owner : ClassPointer) (probing : Probing answers before start module) :
    Probing answers before start (undoRegion module id) ∧ Probing answers before start (undoCdev module id) ∧
      Probing answers before start (undoClass module id owner) := by
  have region := fun module => probing_call answers before start module (.release (.chrdevRegion id)) trivial
  have cdev := fun module => probing_call answers before start module (.release (.cdev id)) trivial
  refine ⟨region _ probing, region _ (cdev _ probing), region _ (cdev _ ?_)⟩
  cases owner with
  | object number => exact probing_call answers before start module (.release (.deviceClass number)) trivial probing
  | _ => exact probing

theorem probing_ensure_class (answers : Answers) (before : ClassPointer) (start : Calls) (module : Module)
    (probing : Probing answers before start module) : Probing answers before start (ensureClass answers module) := by
  unfold ensureClass
  split
  · rename_i null
    have first := probing.untouched null
    split
    · rename_i created
      have acquired := probing_call answers before start module (.acquire (.deviceClass module.classesCreated)) trivial
        probing
      refine ⟨acquired.justified, acquired.kept, ?_, nofun⟩
      intro number same
      rw [first]
      exact created
    · exact ⟨probing.justified, probing.kept, nofun, nofun⟩
  · exact probing

theorem cdevice_init_probing (answers : Answers) (before : ClassPointer) (start : Calls) (id : ChannelId)
    (record : ChannelRecord) (module : Module) (requested : answers.dmaRequestSlaveChannel id.index = true)
    (probing : Probing answers before start module) :
    Probing answers before start (cdeviceInit answers id record module).2.2 := by
  unfold cdeviceInit
  dsimp only
  have region := probing_call answers before start module (.acquire (.chrdevRegion id)) trivial probing
  split_ifs with regionFails cdevFails classFails created
  · exact probing
  · exact (probing_undo answers before start _ id .null region).1
  · exact absurd classFails.2 (by decide)
  · have cdev := probing_call answers before start _ (.acquire (.cdev id)) trivial region
    have ensured := probing_ensure_class answers before start _ cdev
    refine probing_call answers before start _ _ ?_ ensured
    simp only [not_not] at regionFails cdevFails
    simp only [nodeCreated] at created
    split at created
    · rename_i number owner
      exact ⟨⟨requested, regionFails, cdevFails, created⟩, ensured.usable number owner⟩
    · cases created
  · have cdev := probing_call answers before start _ (.acquire (.cdev id)) trivial region
    have ensured := probing_ensure_class answers before start _ cdev
    exact (probing_undo answers before start _ id _ ensured).2.2

theorem create_channel_probing (answers : Answers) (before : ClassPointer) (start : Calls) (id : ChannelId)
    (direction : UInt32) (module : Module) (probing : Probing answers before start module) :
    Probing answers before start (createChannel answers id direction module).2.2 ∧
      (answers.dmaRequestSlaveChannel id.index = true →
        .acquire (.dmaChannel id) ∈ (createChannel answers id direction module).2.2.calls) := by
  unfold createChannel
  dsimp only
  cases requested : answers.dmaRequestSlaveChannel id.index with
  | false => exact ⟨probing, nofun⟩
  | true =>
      have acquired := probing_call answers before start module (.acquire (.dmaChannel id)) trivial probing
      -- Both the calls before this channel and its own request stay in the account.
      have init := cdevice_init_probing answers before (.acquire (.dmaChannel id) :: start) id
        { answers.memory id.index with channelP := .valid } (module.acquire (.dmaChannel id)) requested
        ⟨acquired.justified, List.forall_mem_cons.mpr ⟨List.mem_cons_self, acquired.kept⟩, acquired.usable,
          acquired.untouched⟩
      rw [if_neg (by simp)]
      generalize cdeviceInit answers id { answers.memory id.index with channelP := .valid }
        (module.acquire (.dmaChannel id)) = result at init ⊢
      have kept := List.forall_mem_cons.mp init.kept
      have outcome : Probing answers before start result.2.2 :=
        ⟨init.justified, kept.2, init.usable, init.untouched⟩
      split_ifs with failed unallocated
      · exact ⟨outcome, fun _ => kept.1⟩
      · exact ⟨outcome, fun _ => kept.1⟩
      · have allocated : (answers.dmamAllocCoherent id.index).isSome = true := by
          by_contra none
          exact unallocated (if_neg none)
        exact ⟨probing_call answers before start _ (.acquire (.bufferTable id)) allocated outcome,
          fun _ => List.mem_cons_of_mem _ kept.1⟩

theorem create_channels_probing (answers : Answers) (before : ClassPointer) (start : Calls) (device : Nat)
    (remaining index : Nat) (module : Module) (probing : Probing answers before start module) :
    Probing answers before start (createChannels answers device remaining index module).2.2 := by
  induction remaining generalizing index module with
  | zero => exact probing
  | succ remaining ih =>
      have outcome := (create_channel_probing answers before start ⟨device, index⟩ dmaMemToDev module probing).1
      unfold createChannels
      dsimp only
      split_ifs with failed
      · exact outcome
      · exact ih (index + 1) _ ⟨outcome.justified, outcome.kept, outcome.usable, outcome.untouched⟩

theorem first_request_kept (answers : Answers) (before : ClassPointer) (device remaining : Nat) (module : Module)
    (requested : answers.dmaRequestSlaveChannel 0 = true) (probing : Probing answers before [] module) :
    .acquire (.dmaChannel ⟨device, 0⟩) ∈ (createChannels answers device (remaining + 1) 0 module).2.2.calls := by
  obtain ⟨outcome, acquired⟩ := create_channel_probing answers before [] ⟨device, 0⟩ dmaMemToDev module probing
  have first := acquired requested
  unfold createChannels
  dsimp only
  split_ifs with failed
  · exact first
  · have rest := create_channels_probing answers before [.acquire (.dmaChannel ⟨device, 0⟩)] device remaining (0 + 1)
      { (createChannel answers ⟨device, 0⟩ dmaMemToDev module).2.2 with
        totalCount := (createChannel answers ⟨device, 0⟩ dmaMemToDev module).2.2.totalCount + 1 }
      ⟨outcome.justified, List.forall_mem_singleton.mpr first, outcome.usable, outcome.untouched⟩
    exact rest.kept _ List.mem_cons_self

theorem ensure_class_calls (answers : Answers) (module : Module) :
    (∀ call ∈ module.calls, call ∈ (ensureClass answers module).calls) ∧
      ∀ resource, .release resource ∈ (ensureClass answers module).calls → .release resource ∈ module.calls := by
  unfold ensureClass
  split
  · split
    · exact ⟨fun _ member => List.mem_cons_of_mem _ member, fun resource member => by simpa [Module.acquire] using member⟩
    · exact ⟨fun _ member => member, fun _ member => member⟩
  · exact ⟨fun _ member => member, fun _ member => member⟩

theorem channel_made_acquired (answers : Answers) (id : ChannelId) (module : Module) :
    Acquired (channelMade answers id module).calls id := by
  have kept := (ensure_class_calls answers (claimed id module)).1
  refine ⟨?_, ?_, ⟨_, List.mem_cons_of_mem _ List.mem_cons_self⟩, List.mem_cons_self⟩
  · exact List.mem_cons_of_mem _ (List.mem_cons_of_mem _ (kept _ (by simp [claimed, Module.acquire])))
  · exact List.mem_cons_of_mem _ (List.mem_cons_of_mem _ (kept _ List.mem_cons_self))

theorem channel_made_kept (answers : Answers) (id other : ChannelId) (module : Module)
    (acquired : Acquired module.calls other) : Acquired (channelMade answers id module).calls other := by
  have kept : ∀ call ∈ module.calls, call ∈ (channelMade answers id module).calls := by
    intro call member
    exact List.mem_cons_of_mem _ (List.mem_cons_of_mem _ ((ensure_class_calls answers _).1 call
      (List.mem_cons_of_mem _ (List.mem_cons_of_mem _ (List.mem_cons_of_mem _ member)))))
  obtain ⟨dmaChannel, cdev, ⟨owner, node⟩, table⟩ := acquired
  exact ⟨kept _ dmaChannel, kept _ cdev, ⟨owner, kept _ node⟩, kept _ table⟩

theorem channel_made_releases (answers : Answers) (id : ChannelId) (module : Module)
    (clean : ∀ resource, .release resource ∉ module.calls) :
    ∀ resource, .release resource ∉ (channelMade answers id module).calls := by
  intro resource member
  simp only [channelMade, Module.acquire, List.mem_cons, reduceCtorEq, false_or] at member
  have earlier := (ensure_class_calls answers _).2 resource member
  simp only [claimed, Module.acquire, List.mem_cons, reduceCtorEq, false_or] at earlier
  exact clean resource earlier

theorem create_channels_succeed (answers : Answers) (device remaining index : Nat) (module : Module)
    (answered : ∀ channel, index ≤ channel → channel < index + remaining → Succeeds answers channel)
    (usable : ClassUsable answers module.localClassP) (clean : ∀ resource, .release resource ∉ module.calls)
    (done : ∀ channel, channel < index → Acquired module.calls ⟨device, channel⟩) :
    (createChannels answers device remaining index module).1 = 0 ∧
      (∀ resource, .release resource ∉ (createChannels answers device remaining index module).2.2.calls) ∧
      ∀ channel, channel < index + remaining →
        Acquired (createChannels answers device remaining index module).2.2.calls ⟨device, channel⟩ := by
  induction remaining generalizing index module with
  | zero => exact ⟨rfl, clean, done⟩
  | succ remaining ih =>
      have succeeds := create_channel_succeeds answers ⟨device, index⟩ dmaMemToDev module
        (answered index (le_refl _) (by omega)) usable
      obtain ⟨number, owner⟩ := ensure_class_usable answers (claimed ⟨device, index⟩ module) usable
      have next := ih (index + 1)
        { channelMade answers ⟨device, index⟩ module with
          totalCount := (channelMade answers ⟨device, index⟩ module).totalCount + 1 }
        (fun channel least below => answered channel (by omega) (by omega))
        (by simp only [channelMade, acquire_local_class_p, owner, ClassUsable])
        (channel_made_releases answers _ module clean)
        (fun channel below => by
          rcases Nat.lt_succ_iff_lt_or_eq.mp below with earlier | rfl
          · exact channel_made_kept answers _ _ module (done channel earlier)
          · exact channel_made_acquired answers _ module)
      rw [show index + 1 + remaining = index + (remaining + 1) by omega] at next
      simpa only [createChannels, succeeds, ne_eq, not_true_eq_false, if_false] using next

theorem has_channel (calls : Calls) (id : ChannelId) (clean : ∀ resource, .release resource ∉ calls)
    (acquired : Acquired calls id) : HasChannel calls id := by
  obtain ⟨dmaChannel, cdev, ⟨owner, node⟩, table⟩ := acquired
  exact ⟨⟨dmaChannel, clean _⟩, ⟨cdev, clean _⟩, ⟨owner, node, clean _⟩, ⟨table, clean _⟩⟩

theorem probe_channels (answers : Answers) (device : Nat) (module : Module) (proceeds : ¬ StopsEarly answers) :
    dmaProxyProbe answers device module = createChannels answers device answers.channelCount.toNat 0 module := by
  simp only [StopsEarly, not_or, Bool.not_eq_false, not_le, not_lt] at proceeds
  obtain ⟨proxy, count, names, read, channels⟩ := proceeds
  simp only [dmaProxyProbe, proxy, names, channels, not_true_eq_false, if_false, if_neg (not_le.mpr count),
    if_neg (not_lt.mpr read)]

theorem probe_stops_early (answers : Answers) (device : Nat) (module : Module) (early : StopsEarly answers) :
    ∃ rc, dmaProxyProbe answers device module = (rc, [], module) ∧ (rc = 0 → answers.channelCount ≤ 0) := by
  have enomem_ne_zero : -enomem ≠ 0 := by decide
  by_cases proxy : answers.proxyAllocated = false
  · exact ⟨-enomem, by simp [dmaProxyProbe, proxy], fun zero => absurd zero enomem_ne_zero⟩
  by_cases count : answers.channelCount ≤ 0
  · exact ⟨0, by simp [dmaProxyProbe, proxy, count], fun _ => count⟩
  by_cases names : answers.namesAllocated = false
  · exact ⟨-enomem, by simp [dmaProxyProbe, proxy, count, names], fun zero => absurd zero enomem_ne_zero⟩
  by_cases read : answers.namesRead < 0
  · exact ⟨answers.namesRead, by simp [dmaProxyProbe, proxy, count, names, read],
      fun zero => absurd zero (ne_of_lt read)⟩
  · have channels : answers.channelsAllocated = false :=
      (((early.resolve_left proxy).resolve_left count).resolve_left names).resolve_left read
    exact ⟨-enomem, by simp [dmaProxyProbe, proxy, count, names, read, channels],
      fun zero => absurd zero enomem_ne_zero⟩

theorem early_all_or_nothing (answers : Answers) (device : Nat) (before : Module) (early : StopsEarly answers) :
    AllOrNothing answers device before := by
  obtain ⟨rc, stops, none⟩ := probe_stops_early answers device { before with calls := [] } early
  simp only [AllOrNothing, stops]
  constructor
  · intro zero index below
    have := none zero
    omega
  · exact fun _ => ⟨fun _ _ member => (List.not_mem_nil member).elim, trivial⟩

theorem proceeding_channels (answers : Answers) (proceeds : ¬ StopsEarly answers) :
    ∃ remaining, answers.channelCount.toNat = remaining + 1 := by
  simp only [StopsEarly, not_or] at proceeds
  exact Nat.exists_eq_succ_of_ne_zero (by omega)

theorem refused_all_or_nothing (answers : Answers) (device : Nat) (before : Module)
    (refused : answers.dmaRequestSlaveChannel 0 = false) : AllOrNothing answers device before := by
  by_cases early : StopsEarly answers
  · exact early_all_or_nothing answers device before early
  · obtain ⟨remaining, counted⟩ := proceeding_channels answers early
    simp only [AllOrNothing, probe_channels answers device _ early, counted, createChannels, createChannel, refused]
    simp [errorCode]

theorem probing_start (answers : Answers) (before : Module) :
    Probing answers before.localClassP [] { before with calls := [] } := by
  refine ⟨by simp, by simp, ?_, id⟩
  intro number static
  have : before.localClassP = .object number := static
  simp only [this, ClassUsable]

theorem requested_must_succeed (answers : Answers) (device : Nat) (before : Module) (proceeds : ¬ StopsEarly answers)
    (requested : answers.dmaRequestSlaveChannel 0 = true) (allOrNothing : AllOrNothing answers device before) :
    (createChannels answers device answers.channelCount.toNat 0 { before with calls := [] }).1 = 0 := by
  obtain ⟨remaining, counted⟩ := proceeding_channels answers proceeds
  have start := probing_start answers before
  have probing := create_channels_probing answers before.localClassP [] device (remaining + 1) 0 _ start
  have first := first_request_kept answers before.localClassP device remaining _ requested start
  simp only [AllOrNothing, probe_channels answers device _ proceeds, counted] at allOrNothing
  rw [counted]
  by_contra failed
  have kept := fun member => probing.justified (.release (.dmaChannel ⟨device, 0⟩)) member
  exact never_released _ _ kept ((allOrNothing.2 failed).1 (.dmaChannel ⟨device, 0⟩) id first)

theorem returning_zero_succeeds (answers : Answers) (device : Nat) (before : Module) (proceeds : ¬ StopsEarly answers)
    (zero : (createChannels answers device answers.channelCount.toNat 0 { before with calls := [] }).1 = 0)
    (allOrNothing : AllOrNothing answers device before) :
    ClassUsable answers before.localClassP ∧
      ∀ index : Nat, (index : Int) < answers.channelCount → Succeeds answers index := by
  have probing := create_channels_probing answers before.localClassP [] device answers.channelCount.toNat 0 _
    (probing_start answers before)
  simp only [AllOrNothing, probe_channels answers device _ proceeds] at allOrNothing
  have all := allOrNothing.1 zero
  have node (index : Nat) (below : (index : Int) < answers.channelCount) :
      Registered answers index ∧ ClassUsable answers before.localClassP := by
    obtain ⟨owner, held⟩ := (all index below).2.2.1
    exact probing.justified _ held.1
  obtain ⟨remaining, counted⟩ := proceeding_channels answers proceeds
  refine ⟨(node 0 (by omega)).2, fun index below => ?_⟩
  exact ⟨(node index below).1, probing.justified _ (all index below).2.2.2.1⟩

theorem succeeding_all_or_nothing (answers : Answers) (device : Nat) (before : Module)
    (usable : ClassUsable answers before.localClassP)
    (succeeds : ∀ index : Nat, (index : Int) < answers.channelCount → Succeeds answers index) :
    AllOrNothing answers device before := by
  by_cases early : StopsEarly answers
  · exact early_all_or_nothing answers device before early
  · obtain ⟨zero, clean, acquired⟩ := create_channels_succeed answers device answers.channelCount.toNat 0
      { before with calls := [] } (fun index _ below => succeeds index (by omega)) usable (by simp)
      (fun _ below => absurd below (Nat.not_lt_zero _))
    simp only [AllOrNothing, probe_channels answers device _ early, zero]
    refine ⟨fun _ index below => ?_, fun failed => absurd rfl failed⟩
    exact has_channel _ _ clean (acquired index (by omega))

theorem probe_all_or_nothing_exactly (answers : Answers) (device : Nat) (before : Module) :
    AllOrNothing answers device before ↔
      StopsEarly answers ∨ answers.dmaRequestSlaveChannel 0 = false ∨
        (ClassUsable answers before.localClassP ∧
          ∀ index : Nat, (index : Int) < answers.channelCount → Succeeds answers index) := by
  constructor
  · intro allOrNothing
    by_cases early : StopsEarly answers
    · exact .inl early
    cases requested : answers.dmaRequestSlaveChannel 0 with
    | false => exact .inr (.inl rfl)
    | true =>
        have zero := requested_must_succeed answers device before early requested allOrNothing
        exact .inr (.inr (returning_zero_succeeds answers device before early zero allOrNothing))
  · rintro (early | refused | ⟨usable, succeeds⟩)
    · exact early_all_or_nothing answers device before early
    · exact refused_all_or_nothing answers device before refused
    · exact succeeding_all_or_nothing answers device before usable succeeds

-- A refused device number leaves the DMA channel behind, a refused device node goes unreported.
theorem probe_leaves_or_lies :
    ¬ AllOrNothing (oneChannel (-16) true) 0 loaded ∧ ¬ AllOrNothing (oneChannel 0 false) 0 loaded := by
  constructor
  · intro allOrNothing
    have left := (allOrNothing.2 (by decide)).1 (.dmaChannel ⟨0, 0⟩) id (by decide)
    exact absurd left (by unfold ReleasedOnce; decide)
  · intro allOrNothing
    obtain ⟨owner, held⟩ := (allOrNothing.1 (by decide) 0 (by decide)).2.2.1
    have calls : (dmaProxyProbe (oneChannel 0 false) 0 { loaded with calls := [] }).2.2.calls =
        [.acquire (.bufferTable ⟨0, 0⟩), .release (.chrdevRegion ⟨0, 0⟩), .release (.cdev ⟨0, 0⟩),
          .release (.deviceClass 0), .acquire (.deviceClass 0), .acquire (.cdev ⟨0, 0⟩),
          .acquire (.chrdevRegion ⟨0, 0⟩), .acquire (.dmaChannel ⟨0, 0⟩)] := rfl
    have created := calls ▸ held.1
    simp at created

end LilacUxB.DmaProxy
