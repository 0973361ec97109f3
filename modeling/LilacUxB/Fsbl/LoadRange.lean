import LilacUxB.Fsbl.PartitionCopy

set_option autoImplicit false

namespace LilacUxB.Fsbl

open Regions

structure Window where
  region : Region
  remap : Nat
deriving DecidableEq, Repr

def Window.target (window : Window) : Region :=
  ⟨window.region.start + window.remap, window.region.finish + window.remap⟩

def cpuWindows (cpu : UInt32) : List Window :=
  if cpu = destCpuPmu then [⟨⟨0xFFDC0000, 0xFFDDFFFF⟩, 0⟩]
  else if cpu = destCpuR5_0 then [⟨⟨0, 0x10000⟩, 0xFFE00000⟩, ⟨⟨0x20000, 0x30000⟩, 0xFFE00000⟩]
  else if cpu = destCpuR5_1 then [⟨⟨0, 0x10000⟩, 0xFFE90000⟩, ⟨⟨0x20000, 0x30000⟩, 0xFFE90000⟩]
  else if cpu = destCpuR5_L then [⟨⟨0, 0x40000⟩, 0xFFE00000⟩]
  else []

def sharedWindows (map : MemoryMap) : List Window :=
  (map.psDdrEnd.map (fun finish => ⟨⟨0, finish.toNat + 1⟩, 0⟩)).toList ++
    (map.psHiDdr.map (fun range => ⟨⟨range.1.toNat, range.2.toNat + 1⟩, 0⟩)).toList ++
    [⟨⟨0xFFFEA000, 0xFFFFFFFF⟩, 0⟩]

def windows (map : MemoryMap) (cpu : UInt32) : List Window := cpuWindows cpu ++ sharedWindows map

def permittedRegions (map : MemoryMap) (cpu : UInt32) : List Region := (windows map cpu).map Window.target

-- The first window that holds an address is the one checkValidMemoryAddress finds it in.
def windowOf (map : MemoryMap) (cpu : UInt32) (address : Nat) : Option Window :=
  (windows map cpu).find? (fun window => window.region.Holds address)

def room (map : MemoryMap) (cpu : UInt32) (address : Nat) : Nat :=
  match windowOf map cpu address with
  | none => 0
  | some window => window.region.finish - address

theorem shared_apart (map : MemoryMap) : ((sharedWindows map).map Window.target).Pairwise Apart := by
  have low := map.psDdrLow
  have high := map.psHiDdrHigh
  cases psDdr : map.psDdrEnd <;> cases psHiDdr : map.psHiDdr <;>
    simp only [psDdr, psHiDdr, Option.mem_def, Option.some.injEq, forall_eq', reduceCtorEq, false_imp_iff,
      implies_true] at low high <;>
    simp [sharedWindows, psDdr, psHiDdr, Window.target, Apart] <;> omega

theorem shared_within (map : MemoryMap) (window : Window) (member : window ∈ sharedWindows map) :
    window.remap = 0 ∧ (window.region.finish ≤ 0x80000000 ∨ 0xFFFEA000 ≤ window.region.start) ∧
      (map.narrowPointer = true → window.region.finish ≤ 2 ^ 32) := by
  simp only [sharedWindows, List.mem_append, Option.mem_toList, Option.map_eq_some_iff,
    List.mem_singleton] at member
  rcases member with (⟨finish, psDdr, rfl⟩ | ⟨range, psHiDdr, rfl⟩) | rfl
  · have low := map.psDdrLow finish psDdr
    exact ⟨rfl, .inl low, fun _ => Nat.le_trans low (by decide)⟩
  · have high := (map.psHiDdrHigh range psHiDdr).1
    refine ⟨rfl, .inr (Nat.le_trans (by decide) high), ?_⟩
    intro narrow
    rw [map.psHiDdrWide narrow] at psHiDdr
    cases psHiDdr
  · exact ⟨rfl, .inr (Nat.le_refl _), fun _ => by decide⟩

theorem cpu_targets_within (cpu : UInt32) (window : Window) (member : window ∈ cpuWindows cpu) :
    0x80000000 ≤ window.target.start ∧ window.target.finish ≤ 0xFFFEA000 ∧ window.region.finish ≤ 2 ^ 32 := by
  unfold cpuWindows at member
  split_ifs at member <;> simp at member
  · obtain rfl := member
    decide
  · rcases member with rfl | rfl <;> decide
  · rcases member with rfl | rfl <;> decide
  · obtain rfl := member
    decide

theorem permitted_apart (map : MemoryMap) (cpu : UInt32) : (permittedRegions map cpu).Pairwise Apart := by
  rw [permittedRegions, windows, List.map_append, List.pairwise_append]
  refine ⟨?_, shared_apart map, ?_⟩
  · unfold cpuWindows
    split_ifs <;> simp [Window.target, Apart]
  · intro own ownMember shared sharedMember
    obtain ⟨ownWindow, ownWindowMember, rfl⟩ := List.mem_map.mp ownMember
    obtain ⟨sharedWindow, sharedWindowMember, rfl⟩ := List.mem_map.mp sharedMember
    obtain ⟨ownStart, ownFinish, _⟩ := cpu_targets_within cpu ownWindow ownWindowMember
    obtain ⟨unmoved, placed, _⟩ := shared_within map sharedWindow sharedWindowMember
    simp only [Apart, Window.target, unmoved, Nat.add_zero] at ownStart ownFinish ⊢
    cases placed with
    | inl below => exact .inr (Nat.le_trans below ownStart)
    | inr above => exact .inl (Nat.le_trans ownFinish above)

theorem tcm_bank_nat (address : UInt64) :
    inTcmBank address = true ↔
      address.toNat < 0x10000 ∨ 0x20000 ≤ address.toNat ∧ address.toNat < 0x30000 := by
  simp [inTcmBank, r5BtcmStartAddress, UInt64.lt_iff_toNat_lt, UInt64.le_iff_toNat_le]

theorem ps_ddr_window (map : MemoryMap) (address : UInt64) (inside : inPsDdr map address = true) :
    ∃ window ∈ sharedWindows map, window.region.Holds address.toNat := by
  cases psDdr : map.psDdrEnd with
  | none => simp [inPsDdr, psDdr] at inside
  | some finish =>
      have below : address.toNat ≤ finish.toNat := by
        simpa [inPsDdr, psDdr, UInt64.le_iff_toNat_le] using inside
      exact ⟨⟨⟨0, finish.toNat + 1⟩, 0⟩, by simp [sharedWindows, psDdr],
        ⟨Nat.zero_le _, Nat.lt_succ_of_le below⟩⟩

theorem ps_hi_ddr_window (map : MemoryMap) (address : UInt64) (inside : inPsHiDdr map address = true) :
    ∃ window ∈ sharedWindows map, window.region.Holds address.toNat := by
  cases psHiDdr : map.psHiDdr with
  | none => simp [inPsHiDdr, psHiDdr] at inside
  | some range =>
      have between : range.1.toNat ≤ address.toNat ∧ address.toNat ≤ range.2.toNat := by
        simpa [inPsHiDdr, psHiDdr, UInt64.le_iff_toNat_le] using inside
      exact ⟨⟨⟨range.1.toNat, range.2.toNat + 1⟩, 0⟩, by simp [sharedWindows, psHiDdr],
        ⟨between.1, Nat.lt_succ_of_le between.2⟩⟩

theorem tcm_window (atcm : Nat) (address : UInt64) (inside : inTcmBank address = true) :
    ∃ window ∈ [Window.mk ⟨0, 0x10000⟩ atcm, ⟨⟨0x20000, 0x30000⟩, atcm⟩], window.region.Holds address.toNat := by
  cases (tcm_bank_nat address).mp inside with
  | inl first => exact ⟨_, List.mem_cons_self, Nat.zero_le _, first⟩
  | inr second => exact ⟨_, List.mem_cons_of_mem _ (List.mem_singleton.mpr rfl), second⟩

theorem checked_window (map : MemoryMap) (cpu devId : UInt32) (address : UInt64) (notPl : devId ≠ destDevicePl)
    (valid : checkValidMemoryAddress map address cpu devId = .success) :
    ∃ window ∈ windows map cpu, window.region.Holds address.toNat := by
  simp only [windows, List.mem_append]
  unfold checkValidMemoryAddress at valid
  split_ifs at valid with pmu r5 r5L psDdr psHiDdr ocm pl
  · obtain ⟨rfl, above, below⟩ := pmu
    exact ⟨⟨⟨0xFFDC0000, 0xFFDDFFFF⟩, 0⟩, .inl (by decide), above, below⟩
  · obtain ⟨rfl | rfl, inside⟩ := r5
    · obtain ⟨window, member, holds⟩ := tcm_window 0xFFE00000 address inside
      exact ⟨window, .inl member, holds⟩
    · obtain ⟨window, member, holds⟩ := tcm_window 0xFFE90000 address inside
      exact ⟨window, .inl member, holds⟩
  · obtain ⟨rfl, below⟩ := r5L
    exact ⟨⟨⟨0, 0x40000⟩, 0xFFE00000⟩, .inl (by decide), Nat.zero_le _, below⟩
  · obtain ⟨window, member, holds⟩ := ps_ddr_window map address psDdr
    exact ⟨window, .inr member, holds⟩
  · obtain ⟨window, member, holds⟩ := ps_hi_ddr_window map address psHiDdr
    exact ⟨window, .inr member, holds⟩
  · exact ⟨⟨⟨0xFFFEA000, 0xFFFFFFFF⟩, 0⟩, .inr (by simp [sharedWindows]), ocm.1, ocm.2⟩
  · exact absurd pl.1 notPl

theorem window_found (map : MemoryMap) (cpu : UInt32) (address : Nat)
    (held : ∃ window ∈ windows map cpu, window.region.Holds address) : ∃ window, windowOf map cpu address = some window := by
  obtain ⟨window, member, holds⟩ := held
  have found : (windowOf map cpu address).isSome = true :=
    List.find?_isSome.mpr ⟨window, member, decide_eq_true holds⟩
  exact Option.isSome_iff_exists.mp found

theorem found_window (map : MemoryMap) (cpu : UInt32) (address : Nat) (window : Window)
    (found : windowOf map cpu address = some window) :
    window ∈ windows map cpu ∧ window.region.Holds address := by
  have holds := List.find?_some found
  exact ⟨List.mem_of_find?_eq_some found, of_decide_eq_true holds⟩

theorem own_window_first (map : MemoryMap) (cpu : UInt32) (address : Nat) (window : Window)
    (found : windowOf map cpu address = some window)
    (held : ∃ own ∈ cpuWindows cpu, own.region.Holds address) : window ∈ cpuWindows cpu := by
  obtain ⟨own, member, holds⟩ := held
  rw [windowOf, windows, List.find?_append] at found
  cases first : (cpuWindows cpu).find? (fun own => own.region.Holds address) with
  | none => exact absurd (decide_eq_true holds) (List.find?_eq_none.mp first own member)
  | some earlier =>
      rw [first, Option.some_or, Option.some.injEq] at found
      exact found ▸ List.mem_of_find?_eq_some first

def tcmRemap (cpu : UInt32) (address : UInt64) : Nat :=
  if cpu = destCpuR5_0 ∧ inTcmBank address then 0xFFE00000
  else if cpu = destCpuR5_1 ∧ inTcmBank address then 0xFFE90000
  else if cpu = destCpuR5_L ∧ address < 0x40000 then 0xFFE00000
  else 0

theorem bank_remap (atcm : Nat) (address : UInt64) (window : Window)
    (member : window ∈ [Window.mk ⟨0, 0x10000⟩ atcm, ⟨⟨0x20000, 0x30000⟩, atcm⟩])
    (holds : window.region.Holds address.toNat) : window.remap = atcm ∧ inTcmBank address = true := by
  rw [tcm_bank_nat]
  cases List.mem_pair.mp member with
  | inl first =>
      subst first
      exact ⟨rfl, .inl holds.2⟩
  | inr second =>
      subst second
      exact ⟨rfl, .inr holds⟩

theorem own_remap (cpu : UInt32) (address : UInt64) (window : Window) (member : window ∈ cpuWindows cpu)
    (holds : window.region.Holds address.toNat) : window.remap = tcmRemap cpu address := by
  unfold cpuWindows at member
  split_ifs at member with pmu r50 r51 r5L
  · obtain rfl := List.mem_singleton.mp member
    rw [pmu]
    rfl
  · obtain ⟨remap, inside⟩ := bank_remap _ address window member holds
    rw [tcmRemap, if_pos ⟨r50, inside⟩, remap]
  · obtain ⟨remap, inside⟩ := bank_remap _ address window member holds
    rw [tcmRemap, if_neg (fun other => r50 other.1), if_pos ⟨r51, inside⟩, remap]
  · obtain rfl := List.mem_singleton.mp member
    rw [tcmRemap, if_neg (fun other => r50 other.1), if_neg (fun other => r51 other.1), if_pos ⟨r5L, holds.2⟩]
  · cases member

theorem window_remap (map : MemoryMap) (cpu : UInt32) (address : UInt64) (window : Window)
    (found : windowOf map cpu address.toNat = some window) : window.remap = tcmRemap cpu address := by
  obtain ⟨member, holds⟩ := found_window map cpu _ window found
  by_cases own : window ∈ cpuWindows cpu
  · exact own_remap cpu address window own holds
  · have shared := (List.mem_append.mp member).resolve_left own
    have nowhere : ¬ ∃ other ∈ cpuWindows cpu, other.region.Holds address.toNat :=
      fun held => own (own_window_first map cpu _ window found held)
    rw [(shared_within map window shared).1]
    unfold tcmRemap
    split_ifs with r50 r51 r5L
    · obtain ⟨rfl, inside⟩ := r50
      exact absurd (tcm_window 0xFFE00000 address inside) nowhere
    · obtain ⟨rfl, inside⟩ := r51
      exact absurd (tcm_window 0xFFE90000 address inside) nowhere
    · obtain ⟨rfl, below⟩ := r5L
      exact absurd ⟨_, List.mem_singleton.mpr rfl, Nat.zero_le _, below⟩ nowhere
    · rfl

theorem ptr_size_fits (map : MemoryMap) (address : UInt64)
    (fits : map.narrowPointer = true → address.toNat < 2 ^ 32) : ptrSize map address = address := by
  unfold ptrSize
  split_ifs with narrow
  · apply UInt64.toNat_inj.mp
    simpa using Nat.mod_eq_of_lt (fits narrow)
  · rfl

theorem window_pointer (map : MemoryMap) (cpu : UInt32) (address : UInt64) (window : Window)
    (found : windowOf map cpu address.toNat = some window) : ptrSize map address = address := by
  obtain ⟨member, holds⟩ := found_window map cpu _ window found
  apply ptr_size_fits
  intro narrow
  cases List.mem_append.mp member with
  | inl own => exact Nat.lt_of_lt_of_le holds.2 (cpu_targets_within cpu window own).2.2
  | inr shared => exact Nat.lt_of_lt_of_le holds.2 ((shared_within map window shared).2.2 narrow)

theorem high_tcm_address (map : MemoryMap) (atcm address : UInt64) (high : atcm.toNat ≤ 0xFFE90000)
    (below : address.toNat < 0x40000) : (ptrSize map (atcm + address)).toNat = address.toNat + atcm.toNat := by
  have sum : (atcm + address).toNat = address.toNat + atcm.toNat := by
    rw [UInt64.toNat_add, Nat.mod_eq_of_lt (by omega), Nat.add_comm]
  rw [ptr_size_fits map _ (fun _ => by omega), sum]

theorem load_address_remapped (map : MemoryMap) (cpu length : UInt32) (address load : UInt64)
    (loaded : getLoadAddress map cpu address length = .ok load) : load.toNat = address.toNat + tcmRemap cpu address := by
  have bank_below : inTcmBank address = true → address.toNat < 0x40000 := by
    intro inside
    have bank := (tcm_bank_nat address).mp inside
    omega
  unfold getLoadAddress at loaded
  unfold tcmRemap
  split_ifs at loaded ⊢ with r50 tooLong r51 tooLong r5L tooLong
  · obtain rfl := Except.ok.inj loaded
    exact high_tcm_address map r50HighAtcmStartAddress address (by decide) (bank_below r50.2)
  · obtain rfl := Except.ok.inj loaded
    exact high_tcm_address map r51HighAtcmStartAddress address (by decide) (bank_below r51.2)
  · obtain rfl := Except.ok.inj loaded
    exact high_tcm_address map r50HighAtcmStartAddress address (by decide) r5L.2
  · obtain rfl := Except.ok.inj loaded
    rfl

theorem memory_call (map : MemoryMap) (outcomes : Outcomes) (fsbl : XFsblPs) (header : PartitionHeader)
    (cpu srcAddress : UInt32) (address load : UInt64) (calls : List DeviceCall) (source length : UInt32)
    (earlier : DeviceCall.mk source (.memory load) length ∉ calls)
    (reached : DeviceCall.mk source (.memory load) length ∈
      (copyToMemory map outcomes fsbl header cpu srcAddress address calls).calls) :
    length = copyLength header ∧ getLoadAddress map cpu address length = .ok load := by
  unfold copyToMemory at reached
  cases loaded : getLoadAddress map cpu address (copyLength header) with
  | error status =>
      simp only [loaded] at reached
      exact absurd reached earlier
  | ok final =>
      simp only [loaded] at reached
      split_ifs at reached with unconfigured
      · exact absurd reached earlier
      · have last := (List.mem_append.mp reached).resolve_left earlier
        injection List.mem_singleton.mp last with _ sameTarget sameLength
        injection sameTarget with sameLoad
        subst sameLength sameLoad
        exact ⟨rfl, loaded⟩

theorem final_copy (map : MemoryMap) (outcomes : Outcomes) (fsbl : XFsblPs) (header : PartitionHeader)
    (srcAddress length : UInt32) (load : UInt64) (notPl : getDestinationDevice header ≠ destDevicePl)
    (reached : DeviceCall.mk srcAddress (.memory load) length ∈ (partitionCopy map outcomes fsbl header).calls) :
    length = copyLength header ∧
      getLoadAddress map (destinationCpu fsbl.processorID header) (ptrSize map header.destinationLoadAddress) length =
        .ok load := by
  have noEarlier : ∀ source : UInt32, DeviceCall.mk srcAddress (.memory load) length ∉
      (if certified header then [DeviceCall.mk source .authBuffer authCertMinSize] else []) := by
    intro source
    split_ifs <;> simp
  by_cases xip : header.unEncryptedDataWordLength = 0
  · simp only [partitionCopy, if_pos xip, List.not_mem_nil] at reached
  · simp only [partitionCopy, if_neg xip, notPl, false_and, if_false, apply_ite CopyResult.calls] at reached
    by_cases failed : certified header = true ∧
        outcomes.deviceCopy ⟨fsbl.imageOffsetAddress + header.dataWordOffset * partitionWordLength + copyLength header,
          .authBuffer, authCertMinSize⟩ ≠ .success
    · rw [if_pos failed] at reached
      exact absurd reached (noEarlier _)
    · rw [if_neg failed] at reached
      exact memory_call map outcomes fsbl header _ _ _ load _ _ length (noEarlier _) reached

theorem loads_inside_exactly (map : MemoryMap) (outcomes : Outcomes) (fsbl : XFsblPs) (header : PartitionHeader)
    (srcAddress length : UInt32) (load : UInt64)
    (accepted : validatePartitionHeader map outcomes.encOnly header fsbl.processorID fsbl.resetReason = .success)
    (notPl : getDestinationDevice header ≠ destDevicePl)
    (reached : DeviceCall.mk srcAddress (.memory load) length ∈ (partitionCopy map outcomes fsbl header).calls) :
    InOneRegion (permittedRegions map (destinationCpu fsbl.processorID header)) load.toNat length.toNat ↔
      (copyLength header).toNat ≤
        room map (destinationCpu fsbl.processorID header) header.destinationLoadAddress.toNat := by
  obtain ⟨valid, _⟩ := accepted_header map _ header _ _ accepted
  obtain ⟨window, found⟩ := window_found map _ _ (checked_window map _ _ _ notPl valid)
  obtain ⟨member, holds⟩ := found_window map _ _ window found
  obtain ⟨rfl, loaded⟩ := final_copy map outcomes fsbl header srcAddress length load notPl reached
  rw [window_pointer map _ _ window found] at loaded
  have moved : load.toNat = header.destinationLoadAddress.toNat + window.remap := by
    rw [load_address_remapped map _ _ _ load loaded, window_remap map _ _ window found]
  have begins : window.target.Holds load.toNat := by
    rw [moved]
    exact ⟨Nat.add_le_add_right holds.1 _, Nat.add_lt_add_right holds.2 _⟩
  rw [in_one_region _ (permitted_apart map _) window.target _ _ (List.mem_map_of_mem member) begins]
  simp only [room, found, Window.target, moved, Nat.add_sub_add_right]

theorem whole_bank_loaded : InOneRegion (permittedRegions twoGigabytes destCpuR5_0) 0xFFE20000 0x10000 :=
  (loads_inside_exactly twoGigabytes allSucceed a53Loader (r5Partition 0x20000 0x4000) 0x4000 0x10000 0xFFE20000
    (by decide) (by decide) (by decide)).mpr (by decide)

theorem bank_overrun :
    validatePartitionHeader twoGigabytes false (r5Partition 0xFFFC 4) destCpuA53_0 0 = .success ∧
      getDestinationDevice (r5Partition 0xFFFC 4) ≠ destDevicePl ∧
      (r5Partition 0xFFFC 4).unEncryptedDataWordLength ≠ 0 ∧
      (partitionCopy twoGigabytes allSucceed a53Loader (r5Partition 0xFFFC 4)).calls =
        [⟨0x4000, .memory 0xFFE0FFFC, 16⟩] ∧
      ¬ InOneRegion (permittedRegions twoGigabytes destCpuR5_0) 0xFFE0FFFC 16 := by
  refine ⟨by decide, by decide, by decide, by decide, ?_⟩
  rintro ⟨region, member, inside⟩
  have first := inside 0 (by decide)
  have last := inside 15 (by decide)
  revert region
  decide

end LilacUxB.Fsbl
