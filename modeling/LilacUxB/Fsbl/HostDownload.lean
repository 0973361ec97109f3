import LilacUxB.Fsbl.DfuDownload

set_option autoImplicit false

namespace LilacUxB.Fsbl

def sendBlock (number : UInt16) (block : List UInt8) : UsbEvent :=
  .setup ⟨0x21, dfuDnload, number, 0, UInt16.ofNat block.length⟩ (fun index => block.getD index 0) true

def askStatus : UsbEvent := .setup ⟨0xA1, dfuGetStatus, 0, 0, 6⟩ (fun _ => 0) true

def chooseDfu : UsbEvent := .setup ⟨0x01, reqSetInterface, 1, 0, 0⟩ (fun _ => 0) true

def blockEvents (blocks : List (List UInt8)) : List UsbEvent :=
  blocks.zipIdx.flatMap (fun numbered => [sendBlock (UInt16.ofNat numbered.2) numbered.1, askStatus])

def hostOpening : List UsbEvent := [chooseDfu, askStatus]

def hostDownload (blocks : List (List UInt8)) : List UsbEvent :=
  hostOpening ++ blockEvents blocks ++ [sendBlock (UInt16.ofNat blocks.length) [], askStatus]

-- What is left of the blocks: the block number 0x10000 is sent as 0, and starts the image again.
def lastRound (blocks : List (List UInt8)) : List UInt8 :=
  (blocks.drop (0x10000 * ((blocks.length - 1) / 0x10000))).flatten

theorem block_events_snoc (blocks : List (List UInt8)) (block : List UInt8) :
    blockEvents (blocks ++ [block]) = blockEvents blocks ++ [sendBlock (UInt16.ofNat blocks.length) block, askStatus] := by
  simp [blockEvents, List.zipIdx_append]

theorem last_round_snoc (blocks : List (List UInt8)) (block : List UInt8) :
    lastRound (blocks ++ [block]) = (if UInt16.ofNat blocks.length = 0 then [] else lastRound blocks) ++ block := by
  have wraps : UInt16.ofNat blocks.length = 0 ↔ blocks.length % 0x10000 = 0 := by
    rw [← UInt16.toNat_inj, UInt16.toNat_ofNat']
    rfl
  have length : (blocks ++ [block]).length - 1 = blocks.length := by simp
  unfold lastRound
  rw [length]
  by_cases again : blocks.length % 0x10000 = 0
  · have whole : 0x10000 * (blocks.length / 0x10000) = blocks.length := by omega
    rw [if_pos (wraps.mpr again), whole, List.drop_left]
    simp
  · have same : (blocks.length - 1) / 0x10000 = blocks.length / 0x10000 := by omega
    have inside : 0x10000 * (blocks.length / 0x10000) ≤ blocks.length := by omega
    rw [if_neg (fun zero => again (wraps.mp zero)), same, List.drop_append_of_le_length inside]
    simp

theorem last_round_fits (blocks : List (List UInt8)) (small : ∀ block ∈ blocks, block.length ≤ 0xFFFF) :
    (lastRound blocks).length < 2 ^ 32 := by
  have count : (blocks.drop (0x10000 * ((blocks.length - 1) / 0x10000))).length ≤ 0x10000 := by
    rw [List.length_drop]
    omega
  have each : ∀ length ∈ (blocks.drop (0x10000 * ((blocks.length - 1) / 0x10000))).map List.length, length ≤ 0xFFFF := by
    intro length among
    obtain ⟨block, kept, rfl⟩ := List.mem_map.mp among
    exact small block (List.mem_of_mem_drop kept)
  have total := List.sum_le_card_nsmul _ 0xFFFF each
  rw [List.length_map, smul_eq_mul] at total
  unfold lastRound
  rw [List.length_flatten]
  omega

theorem data_of_block (number : UInt16) (block : List UInt8) (small : block.length ≤ 0xFFFF) :
    dataOf ⟨0x21, dfuDnload, number, 0, UInt16.ofNat block.length⟩ (fun index => block.getD index 0) = block := by
  have length : (UInt16.ofNat block.length).toNat = block.length := UInt16.toNat_ofNat_of_lt' (by
    have size : UInt16.size = 0x10000 := rfl
    omega)
  unfold dataOf
  dsimp only
  rw [length]
  apply List.ext_getElem
  · rw [List.length_map, List.length_range]
  · intro index _ inside
    rw [List.getElem_map, List.getElem_range, List.getD_eq_getElem _ _ inside]

theorem send_downloads (number : UInt16) (block : List UInt8) :
    ClassRequest ⟨0x21, dfuDnload, number, 0, UInt16.ofNat block.length⟩ dfuDnload := by
  have outward : (0x21 : UInt8) &&& reqTypeMask = cmdClassReq := by decide
  exact ⟨outward, rfl⟩

theorem block_received (number : UInt16) (block bytes : List UInt8) (small : block.length ≤ 0xFFFF) :
    received bytes (sendBlock number block) = (if number = 0 then [] else bytes) ++ block := by
  rw [sendBlock, received, if_pos (send_downloads number block), data_of_block number block small]

theorem ask_asks : ClassRequest ⟨0xA1, dfuGetStatus, 0, 0, 6⟩ dfuGetStatus := by decide

theorem ask_same (state : UsbState) : SameImage state (usbHandle askStatus state) := by
  rw [askStatus, status_handled _ _ _ _ ask_asks]
  exact get_status_same _ state

structure BlocksLoading (bytes : List UInt8) (state : UsbState) : Prop where
  kept : Kept bytes state
  busy : state.dfu.currState ≠ .dfuIdle

theorem sent_idle (number : UInt16) (block : List UInt8) (state : UsbState) (some_bytes : block ≠ [])
    (small : block.length ≤ 0xFFFF) : (usbHandle (sendBlock number block) state).dfu.currState = .downloadIdle := by
  have positive : UInt16.ofNat block.length > 0 := by
    have long : 0 < block.length := List.length_pos_iff.mpr some_bytes
    rw [gt_iff_lt, UInt16.lt_iff_toNat_lt, UInt16.toNat_ofNat']
    have zero : (0 : UInt16).toNat = 0 := rfl
    omega
  rw [sendBlock, download_handled _ _ _ _ (send_downloads number block)]
  unfold dnload
  dsimp only
  rw [if_pos positive]

theorem ask_busy (state : UsbState) (elsewhere : state.dfu.currState = .downloadIdle) :
    (usbHandle askStatus state).dfu.currState = .downloadIdle ∧ completion state askStatus = 0 := by
  have idle : state.dfu.currState ≠ .dfuIdle := by
    rw [elsewhere]
    decide
  have sync : state.dfu.currState ≠ .downloadSync := by
    rw [elsewhere]
    decide
  constructor
  · rw [askStatus, status_handled _ _ _ _ ask_asks]
    unfold getStatus
    dsimp only
    rw [if_neg idle, if_neg sync]
    exact elsewhere
  · exact if_neg (fun completes => idle completes.2)

theorem send_uncounted (number : UInt16) (block : List UInt8) (state : UsbState) :
    completion state (sendBlock number block) = 0 := by
  have other : ¬ ClassRequest ⟨0x21, dfuDnload, number, 0, UInt16.ofNat block.length⟩ dfuGetStatus := by
    intro asked
    exact absurd asked.2 (by
      dsimp only
      decide)
  exact if_neg (fun completes => other completes.1)

theorem run_snoc (events more : List UsbEvent) (state : UsbState) :
    usbRun (events ++ more) state = usbRun more (usbRun events state) := List.foldl_append

theorem completions_snoc (events more : List UsbEvent) (state : UsbState) :
    completions state (events ++ more) = completions state events + completions (usbRun events state) more := by
  induction events generalizing state with
  | nil =>
      rw [List.nil_append, completions, Nat.zero_add]
      rfl
  | cons event rest ih =>
      rw [List.cons_append, completions, completions, ih, Nat.add_assoc]
      rfl

theorem block_loaded (number : UInt16) (block bytes : List UInt8) (state : UsbState) (loading : BlocksLoading bytes state)
    (some_bytes : block ≠ []) (small : block.length ≤ 0xFFFF)
    (fits : ((if number = 0 then [] else bytes) ++ block).length < 2 ^ 32) :
    BlocksLoading ((if number = 0 then [] else bytes) ++ block) (usbRun [sendBlock number block, askStatus] state) ∧
      completions state [sendBlock number block, askStatus] = 0 := by
  have idle := sent_idle number block state some_bytes small
  obtain ⟨still, uncounted⟩ := ask_busy (usbHandle (sendBlock number block) state) idle
  have stored := handle_kept (sendBlock number block) bytes state loading.kept (by
    rw [block_received number block bytes small]
    exact fits)
  rw [block_received number block bytes small] at stored
  constructor
  · constructor
    · exact same_kept _ _ _ (ask_same _) stored
    · change (usbHandle askStatus (usbHandle (sendBlock number block) state)).dfu.currState ≠ .dfuIdle
      rw [still]
      decide
  · rw [completions, completions, completions, uncounted, send_uncounted]

theorem opening_loading (memory : Nat → UInt8) :
    BlocksLoading [] (usbRun hostOpening (usbStart memory)) ∧ completions (usbStart memory) hostOpening = 1 := by
  constructor
  · constructor
    · exact ⟨rfl, fun index inside => absurd inside (Nat.not_lt_zero index)⟩
    · intro idle
      cases idle
  · rfl

theorem blocks_loaded (memory : Nat → UInt8) (blocks : List (List UInt8)) (some_bytes : ∀ block ∈ blocks, block ≠ [])
    (small : ∀ block ∈ blocks, block.length ≤ 0xFFFF) :
    BlocksLoading (lastRound blocks) (usbRun (hostOpening ++ blockEvents blocks) (usbStart memory)) ∧
      completions (usbStart memory) (hostOpening ++ blockEvents blocks) = 1 := by
  induction blocks using List.reverseRecOn with
  | nil => exact opening_loading memory
  | append_singleton blocks block ih =>
      have last : block ∈ blocks ++ [block] := List.mem_append_right _ (List.mem_singleton_self block)
      obtain ⟨loading, once⟩ := ih (fun earlier among => some_bytes earlier (List.mem_append_left _ among))
        (fun earlier among => small earlier (List.mem_append_left _ among))
      have fits := last_round_fits (blocks ++ [block]) small
      rw [last_round_snoc] at fits ⊢
      obtain ⟨loaded, uncounted⟩ := block_loaded (UInt16.ofNat blocks.length) block (lastRound blocks) _ loading
        (some_bytes block last) (small block last) fits
      rw [block_events_snoc, ← List.append_assoc, run_snoc, completions_snoc]
      refine ⟨loaded, ?_⟩
      rw [once, uncounted]

theorem closing_idle (number : UInt16) (state : UsbState) :
    (usbHandle (sendBlock number []) state).dfu.currState = .dfuIdle ∧
      (usbHandle (sendBlock number []) state).dfuVirtFlash = state.dfuVirtFlash := by
  rw [sendBlock, download_handled _ _ _ _ (send_downloads number [])]
  exact ⟨rfl, rfl⟩

theorem download_ends (memory : Nat → UInt8) (blocks : List (List UInt8)) (more : List UsbEvent)
    (some_bytes : ∀ block ∈ blocks, block ≠ []) (small : ∀ block ∈ blocks, block.length ≤ 0xFFFF) :
    usbLoop (hostDownload blocks ++ more) (usbStart memory) =
        some (more, usbRun (hostDownload blocks) (usbStart memory), true) ∧
      Blocks.Holds (usbRun (hostDownload blocks) (usbStart memory)).dfuVirtFlash 0 (lastRound blocks) := by
  obtain ⟨loading, once⟩ := blocks_loaded memory blocks some_bytes small
  have split : hostDownload blocks =
      (hostOpening ++ blockEvents blocks ++ [sendBlock (UInt16.ofNat blocks.length) []]) ++ [askStatus] := by
    rw [hostDownload, List.append_assoc _ [_] [_]]
    rfl
  obtain ⟨idle, same⟩ := closing_idle (UInt16.ofNat blocks.length)
    (usbRun (hostOpening ++ blockEvents blocks) (usbStart memory))
  constructor
  · apply (loop_end_from _ (usbStart memory) Nat.two_pos rfl more _ true).mpr
    refine ⟨⟨hostOpening ++ blockEvents blocks ++ [sendBlock (UInt16.ofNat blocks.length) []], askStatus, ?_, ?_, ?_, ?_⟩, rfl⟩
    · rw [split, List.append_assoc _ [askStatus] more]
      rfl
    · rw [completions_snoc, once, completions, completions, send_uncounted]
      rfl
    · rw [run_snoc]
      exact ⟨ask_asks, idle⟩
    · rw [split]
  · rw [split, run_snoc, run_snoc]
    intro index inside
    have unchanged := (ask_same (usbHandle (sendBlock (UInt16.ofNat blocks.length) [])
      (usbRun (hostOpening ++ blockEvents blocks) (usbStart memory)))).2.trans same
    exact (congrFun unchanged _).trans (loading.kept.stored index inside)

theorem usb_copies (map : MemoryMap) (state : UsbState) (bytes : List UInt8) (srcAddress length : UInt32)
    (stored : Blocks.Holds state.dfuVirtFlash 0 bytes) (inside : srcAddress.toNat + length.toNat ≤ bytes.length)
    (words : length.toNat % 4 = 0) (room : checkTempDfuMemory map (srcAddress + length) = true) :
    usbCopy map state srcAddress length = some ((bytes.drop srcAddress.toNat).take length.toNat) := by
  have whole : (length / 4).toNat * 4 = length.toNat := by
    have four : (4 : UInt32).toNat = 4 := rfl
    rw [UInt32.toNat_div, four]
    omega
  have exactly : ((bytes.drop srcAddress.toNat).take length.toNat).length = length.toNat := by
    rw [List.length_take, List.length_drop]
    omega
  have skipped : (bytes.take srcAddress.toNat).length = srcAddress.toNat := by
    rw [List.length_take]
    omega
  rw [← List.take_append_drop srcAddress.toNat bytes] at stored
  have behind := ((Blocks.holds_append _ 0 _ _).mp stored).2
  rw [← List.take_append_drop length.toNat (bytes.drop srcAddress.toNat), skipped, Nat.zero_add] at behind
  have read := Blocks.holds_read _ _ _ ((Blocks.holds_append _ _ _ _).mp behind).1
  rw [exactly] at read
  rw [usbCopy, if_pos room, whole, read]

theorem last_round_shorter (blocks : List (List UInt8)) : (lastRound blocks).length ≤ blocks.flatten.length := by
  have whole := congrArg (fun parts => (List.flatten parts).length)
    (List.take_append_drop (0x10000 * ((blocks.length - 1) / 0x10000)) blocks)
  rw [List.flatten_append, List.length_append] at whole
  unfold lastRound
  omega

theorem dfu_memory_room (map : MemoryMap) (last : UInt64) (ddr : map.psDdrEnd = some last) (offset : UInt32)
    (inside : 0x4000000 + offset.toNat ≤ last.toNat) : checkTempDfuMemory map offset = true := by
  have low := map.psDdrLow last ddr
  have wide : offset.toUInt64.toNat = offset.toNat := UInt32.toNat_toUInt64 offset
  have start : ddrTempBufferAddress.toNat = 0x4000000 := rfl
  have address : (ddrTempBufferAddress + offset.toUInt64).toNat = 0x4000000 + offset.toNat := by
    rw [UInt64.toNat_add, wide, start]
    omega
  have kept := ptr_size_fits map (ddrTempBufferAddress + offset.toUInt64) (fun _ => by omega)
  have below : ptrSize map (ddrTempBufferAddress + offset.toUInt64) ≤ last := by
    rw [kept, UInt64.le_iff_toNat_le, address]
    exact inside
  rw [checkTempDfuMemory, ddr]
  exact decide_eq_true below

-- A host whose image fits the DDR finds it again, byte by byte, in what the loader copies; from the
-- block number 0x10000 on only the last round is left.
theorem usb_boot_copies (map : MemoryMap) (last : UInt64) (memory : Nat → UInt8) (blocks : List (List UInt8))
    (more : List UsbEvent) (ddr : map.psDdrEnd = some last) (room : 0x4000000 + blocks.flatten.length ≤ last.toNat)
    (some_bytes : ∀ block ∈ blocks, block ≠ []) (small : ∀ block ∈ blocks, block.length ≤ 0xFFFF) :
    ∃ final, usbLoop (hostDownload blocks ++ more) (usbStart memory) = some (more, final, true) ∧
      ∀ srcAddress length : UInt32,
        srcAddress.toNat + length.toNat ≤ (lastRound blocks).length → length.toNat % 4 = 0 →
          usbCopy map final srcAddress length = some (((lastRound blocks).drop srcAddress.toNat).take length.toNat) := by
  obtain ⟨ends, stored⟩ := download_ends memory blocks more some_bytes small
  refine ⟨usbRun (hostDownload blocks) (usbStart memory), ends, ?_⟩
  intro srcAddress length inside words
  have shorter := last_round_shorter blocks
  have fits := last_round_fits blocks small
  have behind : (srcAddress + length).toNat = srcAddress.toNat + length.toNat :=
    Words.add_exact srcAddress length (by omega)
  have passed := dfu_memory_room map last ddr (srcAddress + length) (by omega)
  exact usb_copies map _ (lastRound blocks) srcAddress length stored inside words passed

theorem two_blocks_copied :
    ∃ final, usbLoop (hostDownload [[1, 2, 3], [4, 5, 6]]) (usbStart (fun _ => 0)) = some ([], final, true) ∧
      usbCopy twoGigabytes final 1 4 = some [2, 3, 4, 5] := by
  obtain ⟨final, ends, copied⟩ := usb_boot_copies twoGigabytes 0x7FEFFFFF (fun _ => 0) [[1, 2, 3], [4, 5, 6]] []
    rfl (by decide) (by decide) (by decide)
  exact ⟨final, ends, copied 1 4 (by decide) (by decide)⟩

end LilacUxB.Fsbl
