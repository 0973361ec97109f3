import LilacUxB.Fsbl.ImageHeader

set_option autoImplicit false

namespace LilacUxB.Fsbl

open Bytes

def headerAddress (source : HeaderSource) (tableOffset first : UInt32) : Nat → UInt32
  | 0 => first
  | index + 1 =>
      (partitionHeaderOf (readRecord source tableOffset (headerAddress source tableOffset first index)).2).nextPartitionOffset * 4

def readyFlash (flash : UInt32 → UInt8) (imageOffset : UInt32) : HeaderSource :=
  .device flash imageOffset (fun _ => .success)

def tableOf (source : HeaderSource) (tableOffset : UInt32) : ImageHeaderTable :=
  imageHeaderTableOf (readRecord source tableOffset tableOffset).2

def firstHeader (source : HeaderSource) (tableOffset : UInt32) : UInt32 :=
  (tableOf source tableOffset).partitionHeaderAddress * 4

def RecordInside (tableOffset size offset : UInt32) : Prop :=
  (offset - tableOffset).toNat + 64 ≤ size.toNat

instance (tableOffset size offset : UInt32) : Decidable (RecordInside tableOffset size offset) :=
  inferInstanceAs (Decidable (_ ≤ _))

def ImageHdrHolds (imageHdr : Nat → UInt8) (flash : UInt32 → UInt8) (imageOffset tableOffset size : UInt32) : Prop :=
  Agree size.toNat imageHdr (flashBytes flash (imageOffset + tableOffset))

theorem table_congr (bytes other : Nat → UInt8) (agree : Agree 64 bytes other) :
    imageHeaderTableOf bytes = imageHeaderTableOf other := by
  have word : ∀ place, place + 4 ≤ 64 → word32 bytes place = word32 other place :=
    fun place => word32_congr 64 bytes other place agree
  have reserved : ∀ index : Fin 9, word32 bytes (0x18 + 4 * index.val) = word32 other (0x18 + 4 * index.val) :=
    fun index => word _ (by omega)
  simp [imageHeaderTableOf, word, reserved]

theorem header_congr (bytes other : Nat → UInt8) (agree : Agree 64 bytes other) :
    partitionHeaderOf bytes = partitionHeaderOf other := by
  have word : ∀ place, place + 4 ≤ 64 → word32 bytes place = word32 other place :=
    fun place => word32_congr 64 bytes other place agree
  have double : ∀ place, place + 8 ≤ 64 → word64 bytes place = word64 other place :=
    fun place => word64_congr 64 bytes other place agree
  simp [partitionHeaderOf, word, double]

theorem record_agrees (imageHdr : Nat → UInt8) (flash : UInt32 → UInt8) (imageOffset tableOffset size offset : UInt32)
    (holds : ImageHdrHolds imageHdr flash imageOffset tableOffset size) (inside : RecordInside tableOffset size offset) :
    Agree 64 (readRecord (.ocm imageHdr) tableOffset offset).2
      (readRecord (readyFlash flash imageOffset) tableOffset offset).2 := by
  intro index less
  have within : (offset - tableOffset).toNat + index < size.toNat := Nat.lt_of_lt_of_le (Nat.add_lt_add_left less _) inside
  have moved : imageOffset + tableOffset + UInt32.ofNat ((offset - tableOffset).toNat + index) =
      imageOffset + offset + UInt32.ofNat index := by
    rw [UInt32.ofNat_add, UInt32.ofNat_toNat, ← UInt32.add_assoc, UInt32.add_assoc imageOffset, UInt32.add_comm tableOffset,
      UInt32.sub_add_cancel]
  exact (holds _ within).trans (congrArg flash moved)

theorem header_address_next (source : HeaderSource) (tableOffset first : UInt32) (index : Nat) :
    headerAddress source tableOffset first (index + 1) =
      headerAddress source tableOffset (headerAddress source tableOffset first 1) index := by
  induction index with
  | zero => rfl
  | succ before ih =>
      rw [headerAddress, ih]
      rfl

theorem header_address_agrees (imageHdr : Nat → UInt8) (flash : UInt32 → UInt8)
    (imageOffset tableOffset size first : UInt32)
    (holds : ImageHdrHolds imageHdr flash imageOffset tableOffset size) (count : Nat)
    (inside : ∀ index, index < count →
      RecordInside tableOffset size (headerAddress (readyFlash flash imageOffset) tableOffset first index))
    (index : Nat) (less : index < count) :
    headerAddress (.ocm imageHdr) tableOffset first index =
      headerAddress (readyFlash flash imageOffset) tableOffset first index := by
  induction index with
  | zero => rfl
  | succ before ih =>
      have sooner : before < count := Nat.lt_of_succ_lt less
      have records := record_agrees imageHdr flash imageOffset tableOffset size _ holds (inside before sooner)
      rw [headerAddress, headerAddress, ih sooner, header_congr _ _ records]

theorem headers_agree (imageHdr : Nat → UInt8) (flash : UInt32 → UInt8)
    (imageOffset tableOffset size runningCpu : UInt32)
    (holds : ImageHdrHolds imageHdr flash imageOffset tableOffset size) (remaining index : Nat) (address entryCount : UInt32)
    (state : ReadState)
    (inside : ∀ place, place < remaining →
      RecordInside tableOffset size (headerAddress (readyFlash flash imageOffset) tableOffset address place)) :
    readPartitionHeaders (.ocm imageHdr) runningCpu tableOffset remaining index address entryCount state =
      readPartitionHeaders (readyFlash flash imageOffset) runningCpu tableOffset remaining index address entryCount state := by
  induction remaining generalizing index address entryCount state with
  | zero => rfl
  | succ rest ih =>
      have records := record_agrees imageHdr flash imageOffset tableOffset size address holds (inside 0 (Nat.succ_pos rest))
      have later : ∀ place, place < rest →
          RecordInside tableOffset size (headerAddress (readyFlash flash imageOffset) tableOffset
            (headerAddress (readyFlash flash imageOffset) tableOffset address 1) place) := by
        intro place less
        rw [← header_address_next]
        exact inside (place + 1) (Nat.succ_lt_succ less)
      have same := header_congr _ _ records
      have read : (readRecord (.ocm imageHdr) tableOffset address).1 = .success := rfl
      have copied : (readRecord (readyFlash flash imageOffset) tableOffset address).1 = .success := rfl
      rw [readPartitionHeaders, readPartitionHeaders]
      simp only [same, read, copied, ne_eq, not_true_eq_false, if_false]
      split
      · exact ih _ _ _ _ later
      · exact ih _ _ _ _ later

theorem headers_kept (source : HeaderSource) (runningCpu tableOffset : UInt32) (remaining index : Nat)
    (address entryCount : UInt32) (state : ReadState) (other : Nat) (earlier : other < index) :
    (readPartitionHeaders source runningCpu tableOffset remaining index address entryCount state).2.imageHeader.partitionHeader
      other = state.imageHeader.partitionHeader other := by
  induction remaining generalizing index address entryCount state with
  | zero => rfl
  | succ rest ih =>
      have different : other ≠ index := Nat.ne_of_lt earlier
      rw [readPartitionHeaders]
      split_ifs
      · rfl
      · rw [ih _ _ _ _ (Nat.lt_succ_of_lt earlier)]
        exact if_neg different
      · rw [ih _ _ _ _ (Nat.lt_succ_of_lt earlier)]
        exact if_neg different

theorem headers_stored (source : HeaderSource) (runningCpu tableOffset : UInt32)
    (read : ∀ offset, (readRecord source tableOffset offset).1 = .success) (remaining index : Nat)
    (address entryCount : UInt32) (state : ReadState) (place : Nat) (less : place < remaining) :
    (readPartitionHeaders source runningCpu tableOffset remaining index address entryCount state).2.imageHeader.partitionHeader
      (index + place) = partitionHeaderOf (readRecord source tableOffset (headerAddress source tableOffset address place)).2 := by
  induction remaining generalizing index address entryCount state place with
  | zero => exact absurd less (Nat.not_lt_zero _)
  | succ rest ih =>
      rw [readPartitionHeaders]
      simp only [read, ne_eq, not_true_eq_false, if_false]
      cases place with
      | zero =>
          split_ifs
          · exact (headers_kept _ _ _ _ _ _ _ _ index (Nat.lt_succ_self index)).trans (if_pos rfl)
          · exact (headers_kept _ _ _ _ _ _ _ _ index (Nat.lt_succ_self index)).trans (if_pos rfl)
      | succ before =>
          have sooner := Nat.lt_of_succ_lt_succ less
          rw [header_address_next, Nat.add_comm before, ← Nat.add_assoc]
          split_ifs
          · exact ih _ _ _ _ before sooner
          · exact ih _ _ _ _ before sooner

theorem accepted_read (source : HeaderSource) (runningCpu tableOffset : UInt32) (state : ReadState)
    (read : ∀ offset, (readRecord source tableOffset offset).1 = .success)
    (accepted : validateImageHeaderTable (tableOf source tableOffset) = .success) :
    readImageHeader source runningCpu tableOffset state =
      readPartitionHeaders source runningCpu tableOffset (tableOf source tableOffset).noOfPartitions.toNat 0
        (firstHeader source tableOffset) 0 { state with imageHeader.imageHeaderTable := tableOf source tableOffset } := by
  have valid : validateImageHeaderTable (imageHeaderTableOf (readRecord source tableOffset tableOffset).2) = .success := accepted
  simp only [readImageHeader, read, ne_eq, not_true_eq_false, if_false, valid]
  rfl

theorem sources_agree (imageHdr : Nat → UInt8) (flash : UInt32 → UInt8)
    (imageOffset tableOffset size runningCpu : UInt32) (state : ReadState)
    (holds : ImageHdrHolds imageHdr flash imageOffset tableOffset size)
    (accepted : validateImageHeaderTable (tableOf (readyFlash flash imageOffset) tableOffset) = .success)
    (tableInside : RecordInside tableOffset size tableOffset)
    (inside : ∀ index, index < (tableOf (readyFlash flash imageOffset) tableOffset).noOfPartitions.toNat →
      RecordInside tableOffset size
        (headerAddress (readyFlash flash imageOffset) tableOffset (firstHeader (readyFlash flash imageOffset) tableOffset) index)) :
    readImageHeader (.ocm imageHdr) runningCpu tableOffset state =
        readImageHeader (readyFlash flash imageOffset) runningCpu tableOffset state ∧
      ∀ index, index < (tableOf (.ocm imageHdr) tableOffset).noOfPartitions.toNat →
        RecordInside tableOffset size
            (headerAddress (.ocm imageHdr) tableOffset (firstHeader (.ocm imageHdr) tableOffset) index) ∧
          (readImageHeader (.ocm imageHdr) runningCpu tableOffset state).2.imageHeader.partitionHeader index =
            partitionHeaderOf (readRecord (.ocm imageHdr) tableOffset
              (headerAddress (.ocm imageHdr) tableOffset (firstHeader (.ocm imageHdr) tableOffset) index)).2 := by
  have records := record_agrees imageHdr flash imageOffset tableOffset size tableOffset holds tableInside
  have table : tableOf (.ocm imageHdr) tableOffset = tableOf (readyFlash flash imageOffset) tableOffset :=
    table_congr _ _ records
  have first : firstHeader (.ocm imageHdr) tableOffset = firstHeader (readyFlash flash imageOffset) tableOffset :=
    congrArg (fun read => read.partitionHeaderAddress * 4) table
  have ocm := accepted_read (.ocm imageHdr) runningCpu tableOffset state (fun _ => rfl) (table ▸ accepted)
  have device := accepted_read (readyFlash flash imageOffset) runningCpu tableOffset state (fun _ => rfl) accepted
  constructor
  · rw [ocm, device, table, first]
    exact headers_agree imageHdr flash imageOffset tableOffset size runningCpu holds _ 0 _ 0 _ inside
  · intro index less
    constructor
    · rw [table] at less
      rw [first, header_address_agrees imageHdr flash imageOffset tableOffset size _ holds _ inside index less]
      exact inside index less
    · have stored := headers_stored (.ocm imageHdr) runningCpu tableOffset (fun _ => rfl) _ 0
        (firstHeader (.ocm imageHdr) tableOffset) 0
        { state with imageHeader.imageHeaderTable := tableOf (.ocm imageHdr) tableOffset } index less
      rw [ocm]
      rwa [Nat.zero_add] at stored

def flashOf (bytes : List (UInt32 × UInt8)) (address : UInt32) : UInt8 := (bytes.lookup address).getD 0

def signedCopy (flash : UInt32 → UInt8) (address : UInt32) (size index : Nat) : UInt8 :=
  if index < size then flashBytes flash address index else 0xAA

theorem signed_copy_holds (flash : UInt32 → UInt8) (imageOffset tableOffset size : UInt32) :
    ImageHdrHolds (signedCopy flash (imageOffset + tableOffset) size.toNat) flash imageOffset tableOffset size := by
  intro index less
  exact if_pos less

-- An image at 0x10000 with its table at 0x8C0 and the certificate at 0x9C0. Its three headers are
-- chained from 0x900 over 0x980 to 0x940; the last one is an application for A53-0.
def reorderedImage : UInt32 → UInt8 :=
  flashOf [(0x108C4, 3), (0x108C8, 0x40), (0x108C9, 0x02), (0x108D0, 0x70), (0x108D1, 0x02), (0x108FC, 0x4C),
    (0x108FD, 0xFB), (0x108FE, 0xFF), (0x108FF, 0xFF), (0x1090C, 0x60), (0x1090D, 0x02), (0x1098C, 0x50), (0x1098D, 0x02),
    (0x10952, 0x10), (0x10965, 0x01)]

theorem chained_headers_agree :
    readImageHeader (.ocm (signedCopy reorderedImage 0x108C0 0x100)) destCpuA53_0 0x8C0 emptyHeaders =
      readImageHeader (readyFlash reorderedImage 0x10000) destCpuA53_0 0x8C0 emptyHeaders :=
  (sources_agree (signedCopy reorderedImage 0x108C0 0x100) reorderedImage 0x10000 0x8C0 0x100 destCpuA53_0 emptyHeaders
    (signed_copy_holds reorderedImage 0x10000 0x8C0 0x100) (by decide +kernel) (by decide) (by decide +kernel)).1

-- A table of two partitions at 0x40, the certificate at 0xC0, and the first header right behind the
-- table. The first header chains to offset 0 of the image, in front of the table.
def twoPartitions : UInt32 → UInt8 :=
  flashOf [(0x44, 2), (0x48, 0x20), (0x50, 0x30), (0x7C, 0xAD), (0x7D, 0xFF), (0x7E, 0xFF), (0x7F, 0xFF)]

theorem header_outside_copy :
    ImageHdrHolds (signedCopy twoPartitions 0x40 0x80) twoPartitions 0 0x40 0x80 ∧
      validateImageHeaderTable (tableOf (readyFlash twoPartitions 0) 0x40) = .success ∧
      (tableOf (readyFlash twoPartitions 0) 0x40).authCertificateOffset * 4 - 0x40 = 0x80 ∧
      ¬ RecordInside 0x40 0x80 (headerAddress (.ocm (signedCopy twoPartitions 0x40 0x80)) 0x40
        (firstHeader (.ocm (signedCopy twoPartitions 0x40 0x80)) 0x40) 1) ∧
      readImageHeader (.ocm (signedCopy twoPartitions 0x40 0x80)) destCpuA53_0 0x40 emptyHeaders ≠
        readImageHeader (readyFlash twoPartitions 0) destCpuA53_0 0x40 emptyHeaders := by
  refine ⟨signed_copy_holds twoPartitions 0 0x40 0x80, by decide +kernel, by decide +kernel, by decide +kernel, ?_⟩
  intro same
  have second := congrArg (fun read => (read.2.imageHeader.partitionHeader 1).iv) same
  revert second
  decide +kernel

end LilacUxB.Fsbl
