import LilacUxB.Fsbl.HeaderSources

set_option autoImplicit false

namespace LilacUxB.Fsbl

open Words

def imageHeaders (source : HeaderSource) (tableOffset first : UInt32) (count : Nat) : List PartitionHeader :=
  (List.range count).map
    (fun index => partitionHeaderOf (readRecord source tableOffset (headerAddress source tableOffset first index)).2)

def handedToAtf (runningCpu : UInt32) (header : PartitionHeader) : Bool :=
  header.destinationExecutionAddress ≠ 0 && destCpuA53_0 ≤ destinationCpu runningCpu header &&
    destinationCpu runningCpu header ≤ destCpuA53_3

def atfPartitions (runningCpu : UInt32) (headers : List PartitionHeader) : List PartitionHeader :=
  (headers.drop 2).filter (handedToAtf runningCpu)

def a53Number (cpu : UInt32) : Nat := cpu.toNat / 2 ^ 8 - 1

def attributeFlags (attributes : UInt32) : Nat :=
  field attributes.toNat 3 1 + field attributes.toNat 18 1 * 2 + field attributes.toNat 0 1 * 2 ^ 2 +
    field attributes.toNat 1 2 * 2 ^ 3

def atfFlags (runningCpu : UInt32) (header : PartitionHeader) : Nat :=
  attributeFlags header.partitionAttributes + a53Number (destinationCpu runningCpu header) * 2 ^ 5

structure EntryFor (runningCpu : UInt32) (header : PartitionHeader) (entry : PartitionEntry) : Prop where
  entryPoint : entry.entryPoint = header.destinationExecutionAddress
  partitionFlags : entry.partitionFlags.toNat = atfFlags runningCpu header

structure AtfTable (runningCpu : UInt32) (partitions : List PartitionHeader) (params : ATFHandoffParams) : Prop where
  counted : params.numEntries.toNat = min 8 partitions.length
  entered : ∀ (index : Nat) (inside : index < partitions.length), index < params.numEntries.toNat →
    EntryFor runningCpu partitions[index] (params.entry index)

def flagCpu (attributes : UInt32) : Nat :=
  if attributes &&& destCpuMask = destCpuA53_0 then 0
  else if attributes &&& destCpuMask = destCpuA53_1 then 1
  else if attributes &&& destCpuMask = destCpuA53_2 then 2
  else 3

theorem disjoint_flags : ∀ state < 2, ∀ endian < 2, ∀ secure < 2, ∀ level < 4, ∀ cpu < 4,
    (state ||| endian * 2 ^ 1 ||| secure * 2 ^ 2 ||| level * 2 ^ 3) ||| cpu * 2 ^ 5 =
      state + endian * 2 ^ 1 + secure * 2 ^ 2 + level * 2 ^ 3 + cpu * 2 ^ 5 := by
  decide

theorem atf_flags_value (attributes : UInt32) :
    (atfPartitionFlags attributes).toNat = attributeFlags attributes + flagCpu attributes * 2 ^ 5 := by
  have state : ((attributes &&& a53ExecStMask) >>> 3).toNat = field attributes.toNat 3 1 :=
    (field_down attributes a53ExecStMask 3 3 1 (by decide) (by decide) (by decide)).trans (Nat.mul_one _)
  have endian : ((attributes &&& 0x40000) >>> 17).toNat = field attributes.toNat 18 1 * 2 ^ 1 :=
    field_down attributes 0x40000 17 18 1 (by decide) (by decide) (by decide)
  have secure : ((attributes &&& 0x1) <<< 2).toNat = field attributes.toNat 0 1 * 2 ^ 2 :=
    field_up attributes 0x1 2 0 1 (by decide) (by decide) (by decide)
  have level : ((attributes &&& 0x6) <<< 2).toNat = field attributes.toNat 1 2 * 2 ^ 3 :=
    field_up attributes 0x6 2 1 2 (by decide) (by decide) (by decide)
  have joined := disjoint_flags _ (field_below attributes.toNat 3 1) _ (field_below attributes.toNat 18 1) _
    (field_below attributes.toNat 0 1) _ (field_below attributes.toNat 1 2)
  unfold atfPartitionFlags flagCpu attributeFlags
  split_ifs <;> simp only [UInt32.toNat_or, state, endian, secure, level]
  · exact joined 0 (by decide)
  · exact joined 1 (by decide)
  · exact joined 2 (by decide)
  · exact joined 3 (by decide)

theorem flag_cpu_exactly (runningCpu : UInt32) (header : PartitionHeader)
    (first : destCpuA53_0 ≤ destinationCpu runningCpu header) (last : destinationCpu runningCpu header ≤ destCpuA53_3) :
    flagCpu header.partitionAttributes = a53Number (destinationCpu runningCpu header) ↔
      (getDestinationCpu header = destCpuNone → runningCpu = destCpuA53_3) := by
  have masked : (getDestinationCpu header).toNat = field header.partitionAttributes.toNat 8 4 * 2 ^ 8 :=
    masked_is_field header.partitionAttributes.toNat 8 4
  have flags : flagCpu header.partitionAttributes =
      if getDestinationCpu header = destCpuA53_0 then 0 else if getDestinationCpu header = destCpuA53_1 then 1
      else if getDestinationCpu header = destCpuA53_2 then 2 else 3 := rfl
  unfold destinationCpu at first last ⊢
  by_cases absent : getDestinationCpu header = destCpuNone
  · rw [if_pos absent] at first last ⊢
    have bound : runningCpu.toNat ≤ 0x400 := last
    have third : flagCpu header.partitionAttributes = 3 := by
      rw [flags, absent]
      rfl
    have running : runningCpu = destCpuA53_3 ↔ runningCpu.toNat = 0x400 := UInt32.toNat_inj.symm
    rw [third, a53Number]
    simp only [absent, true_imp_iff, running]
    omega
  · rw [if_neg absent] at first last ⊢
    have least : 0x100 ≤ (getDestinationCpu header).toNat := first
    have greatest : (getDestinationCpu header).toNat ≤ 0x400 := last
    have numbered : ∀ cpu : UInt32, (getDestinationCpu header).toNat = cpu.toNat → getDestinationCpu header = cpu :=
      fun cpu same => UInt32.toNat_inj.mp same
    refine iff_of_true ?_ (fun none => absurd none absent)
    obtain zeroth | one | two | three : field header.partitionAttributes.toNat 8 4 = 1 ∨
        field header.partitionAttributes.toNat 8 4 = 2 ∨ field header.partitionAttributes.toNat 8 4 = 3 ∨
        field header.partitionAttributes.toNat 8 4 = 4 := by omega
    · rw [flags, numbered destCpuA53_0 (by rw [masked, zeroth]; rfl)]
      rfl
    · rw [flags, numbered destCpuA53_1 (by rw [masked, one]; rfl)]
      rfl
    · rw [flags, numbered destCpuA53_2 (by rw [masked, two]; rfl)]
      rfl
    · rw [flags, numbered destCpuA53_3 (by rw [masked, three]; rfl)]
      rfl

theorem entry_for_exactly (runningCpu : UInt32) (header : PartitionHeader) (handed : handedToAtf runningCpu header = true) :
    EntryFor runningCpu header
        ⟨header.destinationExecutionAddress, (atfPartitionFlags header.partitionAttributes).toUInt64⟩ ↔
      (getDestinationCpu header = destCpuNone → runningCpu = destCpuA53_3) := by
  simp only [handedToAtf, Bool.and_eq_true, decide_eq_true_eq] at handed
  obtain ⟨⟨_, first⟩, last⟩ := handed
  have flags : (atfPartitionFlags header.partitionAttributes).toUInt64.toNat =
      attributeFlags header.partitionAttributes + flagCpu header.partitionAttributes * 2 ^ 5 :=
    (UInt32.toNat_toUInt64 _).trans (atf_flags_value _)
  rw [← flag_cpu_exactly runningCpu header first last]
  constructor
  · intro entry
    have same := entry.partitionFlags
    rw [flags, atfFlags] at same
    omega
  · intro number
    refine ⟨rfl, ?_⟩
    rw [flags, atfFlags, number]

def storeEntries : List PartitionHeader → UInt32 → ATFHandoffParams → ATFHandoffParams
  | [], _, params => params
  | header :: rest, entryCount, params => storeEntries rest (entryCount + 1) (setATFHandoffParameters header entryCount params)

theorem image_headers_next (source : HeaderSource) (tableOffset first : UInt32) (rest : Nat) :
    imageHeaders source tableOffset first (rest + 1) =
      partitionHeaderOf (readRecord source tableOffset first).2 ::
        imageHeaders source tableOffset (headerAddress source tableOffset first 1) rest := by
  have later : ∀ index, headerAddress source tableOffset first (index + 1) =
      headerAddress source tableOffset (headerAddress source tableOffset first 1) index :=
    header_address_next source tableOffset first
  rw [imageHeaders, List.range_succ_eq_map, List.map_cons, List.map_map]
  apply congrArg (List.cons _)
  apply List.map_congr_left
  intro index _
  rw [Function.comp_apply, Nat.succ_eq_add_one, later]

theorem atf_entry_when (runningCpu : UInt32) (index : Nat) (entryCount : UInt32) (header : PartitionHeader) :
    atfEntry runningCpu index entryCount header = true ↔
      1 < index ∧ entryCount.toNat < 8 ∧ handedToAtf runningCpu header = true := by
  have room : entryCount < maxEntriesForAtf ↔ entryCount.toNat < 8 := UInt32.lt_iff_toNat_lt
  simp only [atfEntry, handedToAtf, Bool.and_eq_true, decide_eq_true_eq, room, and_assoc]

theorem read_stores (source : HeaderSource) (runningCpu tableOffset : UInt32) (remaining index : Nat)
    (address entryCount : UInt32) (state : ReadState)
    (read : (readPartitionHeaders source runningCpu tableOffset remaining index address entryCount state).1 = .success) :
    (readPartitionHeaders source runningCpu tableOffset remaining index address entryCount state).2.atfHandoffParams =
      storeEntries ((((imageHeaders source tableOffset address remaining).drop (2 - index)).filter
        (handedToAtf runningCpu)).take (8 - entryCount.toNat)) entryCount state.atfHandoffParams := by
  induction remaining generalizing index address entryCount state with
  | zero => simp [readPartitionHeaders, imageHeaders, storeEntries]
  | succ rest ih =>
      rw [readPartitionHeaders] at read ⊢
      rw [image_headers_next]
      split_ifs at read ⊢ with failed taken
      · exact absurd read failed
      · obtain ⟨beyondTwo, room, handed⟩ := (atf_entry_when _ _ _ _).mp taken
        have bumped : (entryCount + 1).toNat = entryCount.toNat + 1 := add_exact entryCount 1 (by simp; omega)
        have left : 8 - entryCount.toNat = 8 - (entryCount.toNat + 1) + 1 := by omega
        have noneSkipped : 2 - index = 0 := by omega
        have noneSkippedNext : 2 - (index + 1) = 0 := by omega
        rw [ih _ _ _ _ read, noneSkipped, noneSkippedNext, List.drop_zero, List.drop_zero, List.filter_cons_of_pos handed,
          left, List.take_succ_cons, storeEntries, bumped]
        rfl
      · have passed := fun all => taken ((atf_entry_when _ _ _ _).mpr all)
        rw [ih _ _ _ _ read]
        by_cases beyondTwo : 1 < index
        · have noneSkipped : 2 - index = 0 := by omega
          have noneSkippedNext : 2 - (index + 1) = 0 := by omega
          rw [noneSkipped, noneSkippedNext, List.drop_zero, List.drop_zero]
          by_cases room : entryCount.toNat < 8
          · rw [List.filter_cons_of_neg (fun handed => passed ⟨beyondTwo, room, handed⟩)]
            rfl
          · have full : 8 - entryCount.toNat = 0 := by omega
            rw [full, List.take_zero, List.take_zero]
            rfl
        · have skipped : 2 - index = 2 - (index + 1) + 1 := by omega
          rw [skipped, List.drop_succ_cons]
          rfl

theorem entries_below (headers : List PartitionHeader) (entryCount : UInt32) (params : ATFHandoffParams)
    (fits : entryCount.toNat + headers.length < 2 ^ 32) (index : Nat) (below : index < entryCount.toNat) :
    (storeEntries headers entryCount params).entry index = params.entry index := by
  induction headers generalizing entryCount params with
  | nil => rfl
  | cons header rest ih =>
      rw [List.length_cons] at fits
      have bumped : (entryCount + 1).toNat = entryCount.toNat + 1 := add_exact entryCount 1 (by simp; omega)
      rw [storeEntries, ih _ _ (by omega) (by omega)]
      exact if_neg (Nat.ne_of_lt below)

theorem entries_stored (headers : List PartitionHeader) (entryCount : UInt32) (params : ATFHandoffParams)
    (fits : entryCount.toNat + headers.length < 2 ^ 32) (place : Nat) (inside : place < headers.length) :
    (storeEntries headers entryCount params).entry (entryCount.toNat + place) =
      ⟨headers[place].destinationExecutionAddress, (atfPartitionFlags headers[place].partitionAttributes).toUInt64⟩ := by
  induction headers generalizing entryCount params place with
  | nil => exact absurd inside (Nat.not_lt_zero _)
  | cons header rest ih =>
      rw [List.length_cons] at fits
      have bumped : (entryCount + 1).toNat = entryCount.toNat + 1 := add_exact entryCount 1 (by simp; omega)
      rw [storeEntries]
      cases place with
      | zero =>
          rw [entries_below _ _ _ (by omega) _ (by omega)]
          exact if_pos rfl
      | succ before =>
          have next := ih (entryCount + 1) (setATFHandoffParameters header entryCount params) (by omega) before
            (Nat.lt_of_succ_lt_succ inside)
          rw [bumped, Nat.add_assoc, Nat.add_comm 1] at next
          exact next

theorem entries_counted (headers : List PartitionHeader) (entryCount : UInt32) (params : ATFHandoffParams)
    (fits : entryCount.toNat + headers.length < 2 ^ 32) (nonempty : headers ≠ []) :
    (storeEntries headers entryCount params).numEntries.toNat = entryCount.toNat + headers.length := by
  induction headers generalizing entryCount params with
  | nil => exact absurd rfl nonempty
  | cons header rest ih =>
      rw [List.length_cons] at fits ⊢
      have bumped : (entryCount + 1).toNat = entryCount.toNat + 1 := add_exact entryCount 1 (by simp; omega)
      rw [storeEntries]
      cases rest with
      | nil => exact bumped
      | cons next later =>
          rw [ih _ _ (by omega) (List.cons_ne_nil _ _)]
          omega

def tableHeaders (source : HeaderSource) (tableOffset : UInt32) : List PartitionHeader :=
  imageHeaders source tableOffset (firstHeader source tableOffset) (tableOf source tableOffset).noOfPartitions.toNat

theorem image_header_stores (source : HeaderSource) (runningCpu tableOffset : UInt32) (state : ReadState)
    (accepted : validateImageHeaderTable (tableOf source tableOffset) = .success)
    (read : (readImageHeader source runningCpu tableOffset state).1 = .success) :
    (readImageHeader source runningCpu tableOffset state).2.atfHandoffParams =
      storeEntries ((atfPartitions runningCpu (tableHeaders source tableOffset)).take 8) 0 state.atfHandoffParams := by
  have valid : validateImageHeaderTable (imageHeaderTableOf (readRecord source tableOffset tableOffset).2) = .success := accepted
  simp only [readImageHeader, valid] at read ⊢
  split_ifs at read ⊢ with failed
  · exact absurd read failed
  · exact read_stores source runningCpu tableOffset _ 0 _ 0 _ read

theorem stored_table (runningCpu : UInt32) (partitions : List PartitionHeader) (params : ATFHandoffParams)
    (nonempty : partitions ≠ []) (handed : ∀ header ∈ partitions, handedToAtf runningCpu header = true) :
    AtfTable runningCpu partitions (storeEntries (partitions.take 8) 0 params) ↔
      ∀ header ∈ partitions.take 8, getDestinationCpu header = destCpuNone → runningCpu = destCpuA53_3 := by
  have length : (partitions.take 8).length = min 8 partitions.length := List.length_take
  have fits : (0 : UInt32).toNat + (partitions.take 8).length < 2 ^ 32 := by
    simp only [UInt32.toNat_zero]
    omega
  have counted : (storeEntries (partitions.take 8) 0 params).numEntries.toNat = min 8 partitions.length := by
    rw [entries_counted _ 0 params fits (by simpa using nonempty), length]
    exact Nat.zero_add _
  have stored : ∀ (index : Nat) (inside : index < (partitions.take 8).length),
      EntryFor runningCpu (partitions.take 8)[index] ((storeEntries (partitions.take 8) 0 params).entry index) ↔
        (getDestinationCpu (partitions.take 8)[index] = destCpuNone → runningCpu = destCpuA53_3) := by
    intro index inside
    have member := List.mem_of_mem_take (List.getElem_mem inside)
    have entry := entries_stored (partitions.take 8) 0 params fits index inside
    rw [UInt32.toNat_zero, Nat.zero_add] at entry
    rw [entry]
    exact entry_for_exactly runningCpu _ (handed _ member)
  constructor
  · intro table header member
    obtain ⟨index, inside, rfl⟩ := List.getElem_of_mem member
    rw [← stored index inside, List.getElem_take]
    exact table.entered index (by omega) (by rw [counted, ← length]; exact inside)
  · intro present
    refine ⟨counted, ?_⟩
    intro index inside filled
    rw [counted, ← length] at filled
    have entry := (stored index filled).mpr (present _ (List.getElem_mem filled))
    rwa [List.getElem_take] at entry

theorem atf_table_exactly (source : HeaderSource) (runningCpu tableOffset : UInt32) (state : ReadState)
    (accepted : validateImageHeaderTable (tableOf source tableOffset) = .success)
    (read : (readImageHeader source runningCpu tableOffset state).1 = .success)
    (nonempty : atfPartitions runningCpu (tableHeaders source tableOffset) ≠ []) :
    AtfTable runningCpu (atfPartitions runningCpu (tableHeaders source tableOffset))
        (readImageHeader source runningCpu tableOffset state).2.atfHandoffParams ↔
      ∀ header ∈ (atfPartitions runningCpu (tableHeaders source tableOffset)).take 8,
        getDestinationCpu header = destCpuNone → runningCpu = destCpuA53_3 := by
  rw [image_header_stores source runningCpu tableOffset state accepted read]
  exact stored_table runningCpu _ _ nonempty (fun header member => (List.mem_filter.mp member).2)

def threePartitions (cpu : UInt8) (address : UInt32) : UInt8 :=
  if address = 0x4 then 3
  else if address = 0x8 then 0x10
  else if address = 0x3C then 0xEC
  else if address = 0x3D ∨ address = 0x3E ∨ address = 0x3F then 0xFF
  else if address = 0x4C then 0x20
  else if address = 0x8C then 0x30
  else if address = 0xD1 then 0x10
  else if address = 0xE5 then cpu
  else 0

theorem named_core_entered :
    AtfTable destCpuA53_0 (atfPartitions destCpuA53_0 (tableHeaders (readyFlash (threePartitions 2) 0) 0))
      (readImageHeader (readyFlash (threePartitions 2) 0) destCpuA53_0 0 emptyHeaders).2.atfHandoffParams :=
  (atf_table_exactly (readyFlash (threePartitions 2) 0) destCpuA53_0 0 emptyHeaders (by decide) (by decide)
    (by decide)).mpr (by decide)

-- Loaded by A53-0, an application for the same core is handed over as one for A53-3.
theorem same_core_misplaced :
    validateImageHeaderTable (tableOf (readyFlash (threePartitions 0) 0) 0) = .success ∧
      (readImageHeader (readyFlash (threePartitions 0) 0) destCpuA53_0 0 emptyHeaders).1 = .success ∧
      (atfPartitions destCpuA53_0 (tableHeaders (readyFlash (threePartitions 0) 0) 0)).map (destinationCpu destCpuA53_0) =
        [destCpuA53_0] ∧
      ((readImageHeader (readyFlash (threePartitions 0) 0) destCpuA53_0 0 emptyHeaders).2.atfHandoffParams.entry 0) =
        ⟨0x1000, 0x60⟩ ∧
      ¬ AtfTable destCpuA53_0 (atfPartitions destCpuA53_0 (tableHeaders (readyFlash (threePartitions 0) 0) 0))
        (readImageHeader (readyFlash (threePartitions 0) 0) destCpuA53_0 0 emptyHeaders).2.atfHandoffParams := by
  refine ⟨by decide, by decide, by decide, by decide, ?_⟩
  intro table
  have flags := (table.entered 0 (by decide) (by decide)).partitionFlags
  revert flags
  decide

end LilacUxB.Fsbl
