import LilacUxB.FirstCome
import LilacUxB.Fsbl.PartitionLoad

set_option autoImplicit false

namespace LilacUxB.Fsbl

def cpuOf (entry : HandoffValues) : UInt32 := entry.cpuSettings &&& destCpuMask

def table (fsbl : XFsblPs) : List HandoffValues := (List.range fsbl.handoffCpuNo.toNat).map fsbl.handoffValues

def loaderCpus : List UInt32 :=
  [destCpuA53_0, destCpuA53_1, destCpuA53_2, destCpuA53_3, destCpuR5_0, destCpuR5_1, destCpuR5_L]

def cpuCodes : List UInt32 := loaderCpus ++ [destCpuPmu]

structure LoadCall where
  outcomes : Outcomes
  header : PartitionHeader

def loadAll (map : MemoryMap) (fsbl : XFsblPs) (calls : List LoadCall) : XFsblPs :=
  calls.foldl (fun state call => (partitionLoad map call.outcomes state call.header).2) fsbl

def Accepted (map : MemoryMap) (fsbl : XFsblPs) (call : LoadCall) : Prop :=
  partitionHeaderValidation map call.outcomes fsbl call.header = .success

def Xip (call : LoadCall) : Prop := call.header.unEncryptedDataWordLength = 0

def Completed (map : MemoryMap) (fsbl : XFsblPs) (call : LoadCall) : Prop :=
  let copied := partitionCopy map call.outcomes fsbl call.header
  copied.status = .success ∧ (partitionValidation map call.outcomes copied.fsbl call.header).1 = .success ∧
    getDestinationDevice call.header ≠ destDevicePl ∧ destinationCpu fsbl.processorID call.header ≠ destCpuPmu

def Qualifies (map : MemoryMap) (fsbl : XFsblPs) (call : LoadCall) : Prop :=
  Accepted map fsbl call ∧ (Xip call ∨ Completed map fsbl call)

instance (map : MemoryMap) (fsbl : XFsblPs) (call : LoadCall) : Decidable (Qualifies map fsbl call) :=
  inferInstanceAs (Decidable ((_ = _) ∧ ((_ = _) ∨ ((_ = _) ∧ (_ = _) ∧ (_ ≠ _) ∧ (_ ≠ _)))))

def offered (map : MemoryMap) (fsbl : XFsblPs) (call : LoadCall) : Option HandoffValues :=
  if Qualifies map fsbl call then some (handoffEntry (destinationCpu fsbl.processorID call.header) call.header) else none

def offers (map : MemoryMap) (fsbl : XFsblPs) : List LoadCall → List (Option HandoffValues)
  | [] => []
  | call :: rest => offered map fsbl call :: offers map (partitionLoad map call.outcomes fsbl call.header).2 rest

def SameHandoff (before after : XFsblPs) : Prop :=
  after.processorID = before.processorID ∧ after.handoffCpuNo = before.handoffCpuNo ∧
    after.handoffValues = before.handoffValues

theorem same_table (before after : XFsblPs) (same : SameHandoff before after) : table after = table before := by
  rw [table, table, same.2.1, same.2.2]

theorem tcm_ecc_init_same (outcomes : Outcomes) (cpu : UInt32) (fsbl : XFsblPs) :
    SameHandoff fsbl (tcmEccInit outcomes cpu fsbl).2 := by
  unfold tcmEccInit
  split_ifs <;> exact ⟨rfl, rfl, rfl⟩

theorem configure_memory_same (outcomes : Outcomes) (cpu : UInt32) (address : UInt64) (fsbl : XFsblPs) :
    SameHandoff fsbl (configureMemory outcomes cpu address fsbl).2 := by
  unfold configureMemory
  split_ifs with target powerFailed cleared
  · exact ⟨rfl, rfl, rfl⟩
  · exact ⟨rfl, rfl, rfl⟩
  · exact tcm_ecc_init_same outcomes cpu fsbl
  · exact ⟨rfl, rfl, rfl⟩

theorem copy_to_memory_same (map : MemoryMap) (outcomes : Outcomes) (fsbl : XFsblPs) (header : PartitionHeader)
    (cpu srcAddress : UInt32) (address : UInt64) (calls : List DeviceCall) :
    SameHandoff fsbl (copyToMemory map outcomes fsbl header cpu srcAddress address calls).fsbl := by
  unfold copyToMemory
  split
  · exact ⟨rfl, rfl, rfl⟩
  · dsimp only
    split_ifs
    · exact configure_memory_same outcomes cpu _ fsbl
    · exact configure_memory_same outcomes cpu _ fsbl

theorem copy_same (map : MemoryMap) (outcomes : Outcomes) (fsbl : XFsblPs) (header : PartitionHeader)
    (stored : header.unEncryptedDataWordLength ≠ 0) : SameHandoff fsbl (partitionCopy map outcomes fsbl header).fsbl := by
  simp only [partitionCopy, if_neg stored]
  split_ifs <;> first | exact ⟨rfl, rfl, rfl⟩ | exact copy_to_memory_same map outcomes fsbl header _ _ _ _

theorem check_handoff_cpu (fsbl : XFsblPs) (cpu : UInt32) :
    checkHandoffCpu fsbl cpu = .success ↔ cpu ∉ (table fsbl).map cpuOf := by
  unfold checkHandoffCpu
  split_ifs with found
  · simpa [table, cpuOf] using found
  · simpa [table, cpuOf] using found

theorem update_handoff_table (fsbl : XFsblPs) (cpu : UInt32) (header : PartitionHeader)
    (entry : cpuOf (handoffEntry cpu header) = cpu) (space : fsbl.handoffCpuNo.toNat < 2 ^ 32 - 1) :
    table (updateHandoff fsbl cpu header) = FirstCome.enter cpuOf (table fsbl) (handoffEntry cpu header) := by
  by_cases present : cpu ∈ (table fsbl).map cpuOf
  · have refused : checkHandoffCpu fsbl cpu ≠ .success := fun fresh => (check_handoff_cpu fsbl cpu).mp fresh present
    rw [updateHandoff, if_neg refused, FirstCome.enter, if_pos (by rwa [entry])]
  · have fresh := (check_handoff_cpu fsbl cpu).mpr present
    have count : (fsbl.handoffCpuNo + 1).toNat = fsbl.handoffCpuNo.toNat + 1 :=
      Words.add_exact fsbl.handoffCpuNo 1 (Nat.add_lt_of_lt_sub space)
    rw [updateHandoff, if_pos fresh, FirstCome.enter, if_neg (by rwa [entry]), table, count, List.range_succ,
      List.map_append]
    congr 1
    · apply List.map_congr_left
      intro index member
      exact if_neg (Nat.ne_of_lt (List.mem_range.mp member))
    · simp

theorem entry_fields (cpu : UInt32) (header : PartitionHeader) (masked : cpu &&& destCpuMask = cpu)
    (stateless : cpu &&& a53ExecStMask = 0) :
    cpuOf (handoffEntry cpu header) = cpu ∧
      (handoffEntry cpu header).cpuSettings &&& a53ExecStMask = getA53ExecState header := by
  have apart : a53ExecStMask &&& destCpuMask = 0 := by decide
  simp only [cpuOf, handoffEntry, getA53ExecState, Words.or_masked, masked, stateless, UInt32.and_assoc, apart,
    UInt32.and_self, UInt32.and_zero, UInt32.or_zero, UInt32.zero_or, and_self]

theorem destination_masked (runningCpu : UInt32) (header : PartitionHeader) (real : runningCpu ∈ loaderCpus) :
    destinationCpu runningCpu header &&& destCpuMask = destinationCpu runningCpu header ∧
      destinationCpu runningCpu header &&& a53ExecStMask = 0 ∧ destinationCpu runningCpu header ≠ destCpuNone := by
  unfold destinationCpu
  split_ifs with absent
  · simp only [loaderCpus, List.mem_cons, List.not_mem_nil, or_false] at real
    rcases real with rfl | rfl | rfl | rfl | rfl | rfl | rfl <;> decide
  · have apart : destCpuMask &&& a53ExecStMask = 0 := by decide
    refine ⟨?_, ?_, absent⟩
    · rw [getDestinationCpu, UInt32.and_assoc, UInt32.and_self]
    · rw [getDestinationCpu, UInt32.and_assoc, apart, UInt32.and_zero]

theorem field_known (field : Nat) (nonzero : field ≠ 0) (bounded : field ≤ 8) :
    UInt32.ofNat (field <<< 8) ∈ cpuCodes := by
  interval_cases field <;> first | contradiction | decide

theorem code_known (attributes : UInt32) (nonzero : attributes &&& destCpuMask ≠ destCpuNone)
    (bounded : attributes &&& destCpuMask ≤ destCpuPmu) : attributes &&& destCpuMask ∈ cpuCodes := by
  have moved : (attributes &&& destCpuMask).toNat = ((attributes.toNat >>> 8) &&& 0xF) <<< 8 := by
    rw [UInt32.toNat_and]
    exact Words.masked_field attributes.toNat 8 0xF
  have known : attributes &&& destCpuMask = UInt32.ofNat (((attributes.toNat >>> 8) &&& 0xF) <<< 8) := by
    rw [← moved, UInt32.ofNat_toNat]
  have below : (attributes.toNat >>> 8 &&& 0xF) <<< 8 ≤ 8 <<< 8 := by
    rw [← moved]
    exact bounded
  rw [known]
  apply field_known
  · intro zero
    rw [known, zero] at nonzero
    exact nonzero rfl
  · rw [Nat.shiftLeft_eq, Nat.shiftLeft_eq] at below
    exact Nat.le_of_mul_le_mul_right below (by decide)

theorem destination_known (map : MemoryMap) (fsbl : XFsblPs) (call : LoadCall) (real : fsbl.processorID ∈ loaderCpus)
    (accepted : Accepted map fsbl call) : destinationCpu fsbl.processorID call.header ∈ cpuCodes := by
  have valid : validatePartitionHeader map call.outcomes.encOnly call.header fsbl.processorID fsbl.resetReason =
      .success := by
    unfold Accepted partitionHeaderValidation at accepted
    obtain ⟨_, owned⟩ := passed_check _ _ _ accepted (by decide)
    exact (passed_check _ _ _ owned (by decide)).2
  have bounded := (accepted_header map _ call.header _ _ valid).2
  unfold destinationCpu at bounded ⊢
  split_ifs with absent
  · exact List.mem_append_left _ real
  · rw [if_neg absent] at bounded
    exact code_known call.header.partitionAttributes absent bounded

theorem own_entry (fsbl : XFsblPs) (header : PartitionHeader) (real : fsbl.processorID ∈ loaderCpus) :
    cpuOf (handoffEntry (destinationCpu fsbl.processorID header) header) = destinationCpu fsbl.processorID header := by
  obtain ⟨masked, stateless, _⟩ := destination_masked fsbl.processorID header real
  exact (entry_fields _ header masked stateless).1

theorem update_handoff_processor (fsbl : XFsblPs) (cpu : UInt32) (header : PartitionHeader) :
    (updateHandoff fsbl cpu header).processorID = fsbl.processorID := by
  unfold updateHandoff
  split_ifs <;> rfl

theorem update_handoff_count (fsbl : XFsblPs) (cpu : UInt32) (header : PartitionHeader) :
    (updateHandoff fsbl cpu header).handoffCpuNo.toNat ≤ fsbl.handoffCpuNo.toNat + 1 := by
  unfold updateHandoff
  split_ifs
  · exact (UInt32.toNat_add _ _).trans_le (Nat.mod_le _ _)
  · exact Nat.le_succ _

def Validated (map : MemoryMap) (outcomes : Outcomes) (fsbl : XFsblPs) (header : PartitionHeader) : Prop :=
  (partitionValidation map outcomes fsbl header).1 = .success ∧ getDestinationDevice header ≠ destDevicePl ∧
    destinationCpu fsbl.processorID header ≠ destCpuPmu

theorem validation_cases (map : MemoryMap) (outcomes : Outcomes) (fsbl : XFsblPs) (header : PartitionHeader) :
    Validated map outcomes fsbl header ∧ (partitionValidation map outcomes fsbl header).2 =
        updateHandoff fsbl (destinationCpu fsbl.processorID header) header ∨
      ¬ Validated map outcomes fsbl header ∧ (partitionValidation map outcomes fsbl header).2 = fsbl := by
  unfold Validated
  by_cases early : getDestinationDevice header = destDevicePl ∧ fsbl.resetReason = psOnlyReset
  · simp [partitionValidation, early]
  · by_cases failed : firstFailure (validationSteps map outcomes fsbl header) ≠ .success
    · simp [partitionValidation, early, failed]
    · by_cases named : getDestinationDevice header ≠ destDevicePl ∧ destinationCpu fsbl.processorID header ≠ destCpuPmu
      · simp [partitionValidation, failed, named]
      · refine .inr ⟨fun validated => named validated.2, ?_⟩
        simp only [partitionValidation, if_neg early, if_neg failed, if_neg named]

theorem rejected_load (map : MemoryMap) (fsbl : XFsblPs) (call : LoadCall) (rejected : ¬ Accepted map fsbl call) :
    (partitionLoad map call.outcomes fsbl call.header).2 = fsbl := by
  unfold partitionLoad
  split
  · rfl
  · contradiction
  · rfl

theorem accepted_load (map : MemoryMap) (fsbl : XFsblPs) (call : LoadCall) (accepted : Accepted map fsbl call) :
    (partitionLoad map call.outcomes fsbl call.header).2 =
      if (partitionCopy map call.outcomes fsbl call.header).status ≠ .success then
        (partitionCopy map call.outcomes fsbl call.header).fsbl
      else
        (partitionValidation map call.outcomes (partitionCopy map call.outcomes fsbl call.header).fsbl call.header).2 := by
  rw [Accepted] at accepted
  simp only [partitionLoad, accepted, apply_ite Prod.snd]

theorem xip_load_table (map : MemoryMap) (fsbl : XFsblPs) (call : LoadCall) (real : fsbl.processorID ∈ loaderCpus)
    (space : fsbl.handoffCpuNo.toNat < 2 ^ 32 - 2) (accepted : Accepted map fsbl call) (xip : Xip call) :
    table (partitionLoad map call.outcomes fsbl call.header).2 =
      FirstCome.enter cpuOf (table fsbl) (handoffEntry (destinationCpu fsbl.processorID call.header) call.header) := by
  have copied : partitionCopy map call.outcomes fsbl call.header =
      ⟨.success, updateHandoff fsbl (destinationCpu fsbl.processorID call.header) call.header, []⟩ := if_pos xip
  have processor := update_handoff_processor fsbl (destinationCpu fsbl.processorID call.header) call.header
  have count := update_handoff_count fsbl (destinationCpu fsbl.processorID call.header) call.header
  have first := update_handoff_table fsbl _ call.header (own_entry fsbl call.header real) (by omega)
  have stays : ¬ XFsblStatus.success ≠ .success := not_not.mpr rfl
  rw [accepted_load map fsbl call accepted, copied, if_neg stays]
  cases validation_cases map call.outcomes
      (updateHandoff fsbl (destinationCpu fsbl.processorID call.header) call.header) call.header with
  | inl named =>
      rw [named.2, processor, update_handoff_table _ _ call.header (own_entry fsbl call.header real) (by omega), first]
      exact FirstCome.enter_twice cpuOf _ _
  | inr unnamed => rw [unnamed.2, first]

theorem stored_load_table (map : MemoryMap) (fsbl : XFsblPs) (call : LoadCall) (real : fsbl.processorID ∈ loaderCpus)
    (space : fsbl.handoffCpuNo.toNat < 2 ^ 32 - 2) (accepted : Accepted map fsbl call) (stored : ¬ Xip call) :
    Completed map fsbl call ∧ table (partitionLoad map call.outcomes fsbl call.header).2 =
        FirstCome.enter cpuOf (table fsbl) (handoffEntry (destinationCpu fsbl.processorID call.header) call.header) ∨
      ¬ Completed map fsbl call ∧ table (partitionLoad map call.outcomes fsbl call.header).2 = table fsbl := by
  have same := copy_same map call.outcomes fsbl call.header stored
  rw [accepted_load map fsbl call accepted]
  by_cases failed : (partitionCopy map call.outcomes fsbl call.header).status ≠ .success
  · rw [if_pos failed]
    exact .inr ⟨fun completed => failed completed.1, same_table _ _ same⟩
  · rw [if_neg failed]
    have copied := not_not.mp failed
    cases validation_cases map call.outcomes (partitionCopy map call.outcomes fsbl call.header).fsbl call.header with
    | inl named =>
        obtain ⟨⟨valid, notPl, notPmu⟩, updated⟩ := named
        rw [same.1] at notPmu updated
        refine .inl ⟨⟨copied, valid, notPl, notPmu⟩, ?_⟩
        rw [updated, update_handoff_table _ _ call.header (own_entry fsbl call.header real) (by rw [same.2.1]; omega),
          same_table _ _ same]
    | inr unnamed =>
        refine .inr ⟨?_, ?_⟩
        · intro completed
          apply unnamed.1
          refine ⟨completed.2.1, completed.2.2.1, ?_⟩
          rw [same.1]
          exact completed.2.2.2
        · rw [unnamed.2, same_table _ _ same]

theorem load_table (map : MemoryMap) (fsbl : XFsblPs) (call : LoadCall) (real : fsbl.processorID ∈ loaderCpus)
    (space : fsbl.handoffCpuNo.toNat < 2 ^ 32 - 2) :
    table (partitionLoad map call.outcomes fsbl call.header).2 =
      FirstCome.enterOffer cpuOf (table fsbl) (offered map fsbl call) := by
  by_cases accepted : Accepted map fsbl call
  · by_cases xip : Xip call
    · rw [offered, if_pos ⟨accepted, .inl xip⟩]
      exact xip_load_table map fsbl call real space accepted xip
    · cases stored_load_table map fsbl call real space accepted xip with
      | inl completed =>
          rw [offered, if_pos ⟨accepted, .inr completed.1⟩]
          exact completed.2
      | inr refused =>
          rw [offered, if_neg (fun qualifies => qualifies.2.elim xip refused.1)]
          exact refused.2
  · rw [rejected_load map fsbl call accepted, offered, if_neg (fun qualifies => accepted qualifies.1)]
    rfl

theorem copy_keeps_processor (map : MemoryMap) (outcomes : Outcomes) (fsbl : XFsblPs) (header : PartitionHeader) :
    (partitionCopy map outcomes fsbl header).fsbl.processorID = fsbl.processorID := by
  by_cases xip : header.unEncryptedDataWordLength = 0
  · simp only [partitionCopy, if_pos xip, update_handoff_processor]
  · exact (copy_same map outcomes fsbl header xip).1

theorem load_keeps_processor (map : MemoryMap) (fsbl : XFsblPs) (call : LoadCall) :
    (partitionLoad map call.outcomes fsbl call.header).2.processorID = fsbl.processorID := by
  by_cases accepted : Accepted map fsbl call
  · rw [accepted_load map fsbl call accepted]
    split_ifs
    · exact copy_keeps_processor map call.outcomes fsbl call.header
    · cases validation_cases map call.outcomes (partitionCopy map call.outcomes fsbl call.header).fsbl call.header with
      | inl named => rw [named.2, update_handoff_processor, copy_keeps_processor]
      | inr unnamed => rw [unnamed.2, copy_keeps_processor]
  · rw [rejected_load map fsbl call accepted]

theorem offers_append (map : MemoryMap) (fsbl : XFsblPs) (calls later : List LoadCall) :
    offers map fsbl (calls ++ later) = offers map fsbl calls ++ offers map (loadAll map fsbl calls) later := by
  induction calls generalizing fsbl with
  | nil => rfl
  | cons call rest ih => exact congrArg (fun tail => offered map fsbl call :: tail) (ih _)

theorem offers_at (map : MemoryMap) (fsbl : XFsblPs) (calls : List LoadCall) (index : Nat) :
    (offers map fsbl calls)[index]? =
      (calls[index]?).map (fun call => offered map (loadAll map fsbl (calls.take index)) call) := by
  induction calls generalizing fsbl index with
  | nil => rfl
  | cons call rest ih =>
      cases index with
      | zero => rfl
      | succ before => exact ih _ before

theorem run_keeps_processor (map : MemoryMap) (fsbl : XFsblPs) (calls : List LoadCall) :
    (loadAll map fsbl calls).processorID = fsbl.processorID := by
  induction calls generalizing fsbl with
  | nil => rfl
  | cons call rest ih => exact (ih _).trans (load_keeps_processor map fsbl call)

theorem offer_fields (map : MemoryMap) (fsbl : XFsblPs) (call : LoadCall) (entry : HandoffValues)
    (offer : offered map fsbl call = some entry) :
    Qualifies map fsbl call ∧ entry = handoffEntry (destinationCpu fsbl.processorID call.header) call.header := by
  unfold offered at offer
  split_ifs at offer with qualifies
  exact ⟨qualifies, (Option.some.inj offer).symm⟩

theorem offers_known (map : MemoryMap) (fsbl : XFsblPs) (calls : List LoadCall) (entry : HandoffValues)
    (real : fsbl.processorID ∈ loaderCpus) (offer : some entry ∈ offers map fsbl calls) : cpuOf entry ∈ cpuCodes := by
  obtain ⟨index, at_index⟩ := List.mem_iff_getElem?.mp offer
  rw [offers_at] at at_index
  obtain ⟨call, _, made⟩ := Option.map_eq_some_iff.mp at_index
  obtain ⟨qualifies, rfl⟩ := offer_fields map _ call entry made
  rw [← run_keeps_processor map fsbl (calls.take index)] at real
  rw [own_entry _ call.header real]
  exact destination_known map _ call real qualifies.1

theorem settled_known (map : MemoryMap) (fsbl : XFsblPs) (calls : List LoadCall) (real : fsbl.processorID ∈ loaderCpus)
    (entry : HandoffValues) (settled : entry ∈ FirstCome.settle cpuOf (offers map fsbl calls)) :
    cpuOf entry ∈ cpuCodes := by
  obtain ⟨index, found, _⟩ := FirstCome.settled_first cpuOf _ entry settled
  exact offers_known map fsbl calls entry real (List.mem_of_getElem? found)

theorem table_length (fsbl : XFsblPs) : (table fsbl).length = fsbl.handoffCpuNo.toNat := by
  simp [table]

theorem run_table (map : MemoryMap) (fsbl : XFsblPs) (calls : List LoadCall) (empty : fsbl.handoffCpuNo = 0)
    (real : fsbl.processorID ∈ loaderCpus) :
    table (loadAll map fsbl calls) = FirstCome.settle cpuOf (offers map fsbl calls) := by
  induction calls using List.reverseRecOn with
  | nil => simp [loadAll, offers, FirstCome.settle, table, empty]
  | append_singleton before call ih =>
      have count : (loadAll map fsbl before).handoffCpuNo.toNat ≤ cpuCodes.length := by
        rw [← table_length, ih]
        exact FirstCome.settled_bound cpuOf _ cpuCodes (settled_known map fsbl before real)
      have space : (loadAll map fsbl before).handoffCpuNo.toNat < 2 ^ 32 - 2 := Nat.lt_of_le_of_lt count (by decide)
      have next := load_table map (loadAll map fsbl before) call (by rwa [run_keeps_processor]) space
      rw [loadAll, List.foldl_append, offers_append]
      exact next.trans (by rw [ih, offers, offers, FirstCome.settle_next])

def FirstQualified (map : MemoryMap) (fsbl : XFsblPs) (calls : List LoadCall) (entry : HandoffValues) : Prop :=
  ∃ (index : Nat) (call : LoadCall), calls[index]? = some call ∧
    Qualifies map (loadAll map fsbl (calls.take index)) call ∧
    cpuOf entry = destinationCpu fsbl.processorID call.header ∧
    entry.cpuSettings &&& 0x8 = call.header.partitionAttributes &&& 0x8 ∧
    entry.handoffAddress = call.header.destinationExecutionAddress ∧
    ∀ (earlier : Nat) (other : LoadCall), earlier < index → calls[earlier]? = some other →
      Qualifies map (loadAll map fsbl (calls.take earlier)) other →
      destinationCpu fsbl.processorID other.header ≠ cpuOf entry

theorem settled_qualified (map : MemoryMap) (fsbl : XFsblPs) (calls : List LoadCall) (real : fsbl.processorID ∈ loaderCpus)
    (entry : HandoffValues) (settled : entry ∈ FirstCome.settle cpuOf (offers map fsbl calls)) :
    FirstQualified map fsbl calls entry := by
  obtain ⟨index, found, first⟩ := FirstCome.settled_first cpuOf _ entry settled
  rw [offers_at] at found
  obtain ⟨call, at_index, made⟩ := Option.map_eq_some_iff.mp found
  obtain ⟨qualifies, rfl⟩ := offer_fields map _ call entry made
  rw [run_keeps_processor] at first ⊢
  obtain ⟨masked, stateless, _⟩ := destination_masked fsbl.processorID call.header real
  obtain ⟨cpu, state⟩ := entry_fields _ call.header masked stateless
  refine ⟨index, call, at_index, qualifies, cpu, state, rfl, ?_⟩
  intro earlier other sooner at_earlier otherQualifies
  have offer : (offers map fsbl calls)[earlier]? =
      some (some (handoffEntry (destinationCpu fsbl.processorID other.header) other.header)) := by
    rw [offers_at, at_earlier, Option.map_some, offered, if_pos otherQualifies, run_keeps_processor]
  have different := first earlier _ sooner offer
  rwa [own_entry fsbl other.header real] at different

theorem handoff_table_first_come (map : MemoryMap) (fsbl : XFsblPs) (calls : List LoadCall)
    (empty : fsbl.handoffCpuNo = 0) (real : fsbl.processorID ∈ loaderCpus) :
    (loadAll map fsbl calls).handoffCpuNo.toNat ≤ 8 ∧
      ((table (loadAll map fsbl calls)).map cpuOf).Nodup ∧
      (∀ entry ∈ table (loadAll map fsbl calls), cpuOf entry ≠ destCpuNone ∧ FirstQualified map fsbl calls entry) ∧
      ∀ count, table (loadAll map fsbl (calls.take count)) <+: table (loadAll map fsbl calls) := by
  have settled := run_table map fsbl calls empty real
  refine ⟨?_, ?_, ?_, ?_⟩
  · rw [← table_length, settled]
    exact FirstCome.settled_bound cpuOf _ cpuCodes (settled_known map fsbl calls real)
  · rw [settled]
    exact FirstCome.settled_distinct cpuOf _
  · intro entry member
    rw [settled] at member
    have known := settled_known map fsbl calls real entry member
    have unnamed : destCpuNone ∉ cpuCodes := by decide
    exact ⟨fun none => unnamed (none ▸ known), settled_qualified map fsbl calls real entry member⟩
  · intro count
    rw [settled, run_table map fsbl _ empty real]
    have split := offers_append map fsbl (calls.take count) (calls.drop count)
    rw [List.take_append_drop] at split
    rw [split]
    exact FirstCome.settled_extends cpuOf _ _

def withChecksum (header : PartitionHeader) : PartitionHeader :=
  { header with checksum := (header.words.take 15).foldl (fun sum word => sum + word) 0 ^^^ 0xFFFFFFFF }

def r5Calls : List LoadCall :=
  [⟨allSucceed, withChecksum (r5Partition 0x100 4)⟩, ⟨allSucceed, withChecksum (r5Partition 0x200 4)⟩]

theorem first_partition_kept :
    table (loadAll twoGigabytes a53Loader r5Calls) = [⟨destCpuR5_0, 0x100⟩] ∧
      ((table (loadAll twoGigabytes a53Loader r5Calls)).map cpuOf).Nodup :=
  ⟨by decide, (handoff_table_first_come twoGigabytes a53Loader r5Calls rfl (by decide)).2.1⟩

end LilacUxB.Fsbl
