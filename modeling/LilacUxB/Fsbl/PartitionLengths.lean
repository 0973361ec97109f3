import LilacUxB.Fsbl.LoadRange

set_option autoImplicit false

namespace LilacUxB.Fsbl

inductive LengthUser where
  | getLoadAddress
  | authentication
  | aesDecrypt
  | plTotalLen
  | plUnEncryptLen
deriving DecidableEq, Repr

structure LengthUse where
  user : LengthUser
  length : UInt32
deriving DecidableEq, Repr

-- Every use of `Length` and `UnencryptedLength`, and the two of PlParams, where no earlier step fails.
def validationUses (header : PartitionHeader) : List LengthUse :=
  let length := header.totalDataWordLength * 4
  let unencryptedLength := header.unEncryptedDataWordLength * 4
  let bitstream : Bool := getDestinationDevice header = destDevicePl
  let checksummed : Bool := getChecksumType header ≠ noChecksum
  let signed := authenticated header
  let secret := encrypted header
  (if signed || secret || checksummed then [⟨.getLoadAddress, length⟩] else []) ++
    (if signed && !bitstream then [⟨.authentication, length⟩] else []) ++
    (if signed && bitstream then [⟨.plTotalLen, length⟩, ⟨.plUnEncryptLen, unencryptedLength⟩] else []) ++
    (if secret && !(bitstream && signed) then [⟨.aesDecrypt, unencryptedLength⟩] else [])

def LengthUser.words (header : PartitionHeader) : LengthUser → UInt32
  | .getLoadAddress | .authentication | .plTotalLen => header.totalDataWordLength
  | .aesDecrypt | .plUnEncryptLen => header.unEncryptedDataWordLength

def certificateSize (header : PartitionHeader) : Nat :=
  if certified header then authCertMinSize.toNat else 0

structure LengthsExact (header : PartitionHeader) : Prop where
  copied : (copyLength header).toNat + certificateSize header = 4 * header.totalDataWordLength.toNat
  holdsData : 4 * header.encryptedDataWordLength.toNat ≤ (copyLength header).toNat
  validated : ∀ use ∈ validationUses header, use.length.toNat = 4 * (use.user.words header).toNat

theorem scaled_exact (words : UInt32) : (words * 4).toNat = 4 * words.toNat ↔ words.toNat < 2 ^ 30 := by
  have below := Words.below (words * 4)
  constructor
  · intro scaled
    omega
  · intro fits
    rw [Words.mul_exact words 4 (by simp only [UInt32.toNat_ofNat]; omega), Nat.mul_comm]
    rfl

theorem accepted_lengths (map : MemoryMap) (encOnly : Bool) (header : PartitionHeader) (runningCpu resetType : UInt32)
    (accepted : validatePartitionHeader map encOnly header runningCpu resetType = .success) :
    header.unEncryptedDataWordLength.toNat ≤ header.encryptedDataWordLength.toNat ∧
      header.encryptedDataWordLength.toNat ≤ header.totalDataWordLength.toNat := by
  obtain ⟨_, encryptionAllowed⟩ := passed_check _ _ _ accepted (by decide)
  obtain ⟨_, owned⟩ := passed_check _ _ _ encryptionAllowed (by decide)
  obtain ⟨_, plainXip⟩ := passed_check _ _ _ owned (by decide)
  obtain ⟨_, xipAddress⟩ := passed_check _ _ _ plainXip (by decide)
  have agree := not_not.mp (passed_check _ _ _ xipAddress (by decide)).1
  unfold lengthsAgree at agree
  split at agree <;>
    simp only [Bool.and_eq_true, decide_eq_true_eq, UInt32.lt_iff_toNat_lt, ← UInt32.toNat_inj] at agree <;>
    omega

theorem memory_length (map : MemoryMap) (outcomes : Outcomes) (fsbl : XFsblPs) (header : PartitionHeader)
    (srcAddress length : UInt32) (load : UInt64)
    (reached : DeviceCall.mk srcAddress (.memory load) length ∈ (partitionCopy map outcomes fsbl header).calls) :
    length = copyLength header := by
  unfold partitionCopy at reached
  extract_lets cpu source certificate calls loadAddress bitstream at reached
  have noEarlier : DeviceCall.mk srcAddress (.memory load) length ∉ calls := by
    simp only [calls]
    split_ifs <;> simp [certificate]
  split_ifs at reached with xip failed psOnly dummy ddrLess
  · cases reached
  · exact absurd reached noEarlier
  · exact absurd reached noEarlier
  · exact absurd reached noEarlier
  · exact (memory_call map outcomes fsbl header cpu source _ load calls _ length noEarlier reached).1
  · exact (memory_call map outcomes fsbl header cpu source _ load calls _ length noEarlier reached).1

theorem use_length (header : PartitionHeader) (use : LengthUse) (used : use ∈ validationUses header) :
    use.length = use.user.words header * 4 := by
  have handed : ∀ (reached : Bool) (uses : List LengthUse), use ∈ (if reached then uses else []) → use ∈ uses := by
    intro reached uses member
    cases reached with
    | false => cases member
    | true => exact member
  simp only [validationUses, List.mem_append] at used
  rcases used with ((loading | signing) | bitstream) | decrypting
  · rw [List.mem_singleton.mp (handed _ _ loading)]
    rfl
  · rw [List.mem_singleton.mp (handed _ _ signing)]
    rfl
  · rcases List.mem_pair.mp (handed _ _ bitstream) with total | unEncrypt
    · rw [total]
      rfl
    · rw [unEncrypt]
      rfl
  · rw [List.mem_singleton.mp (handed _ _ decrypting)]
    rfl

theorem uses_exact (header : PartitionHeader) (total : header.totalDataWordLength.toNat < 2 ^ 30)
    (unEncrypted : header.unEncryptedDataWordLength.toNat ≤ header.totalDataWordLength.toNat) (use : LengthUse)
    (used : use ∈ validationUses header) : use.length.toNat = 4 * (use.user.words header).toNat := by
  rw [use_length header use used]
  apply (scaled_exact _).mpr
  cases use.user <;> simp only [LengthUser.words] <;> omega

theorem certified_use (header : PartitionHeader) (signed : certified header = true) :
    LengthUse.mk .authentication (header.totalDataWordLength * 4) ∈ validationUses header := by
  obtain ⟨signature, notPl⟩ := Bool.and_eq_true_iff.mp signed
  simp [validationUses, signature, of_decide_eq_true notPl]

theorem certified_length (header : PartitionHeader) (signed : certified header = true)
    (total : header.totalDataWordLength.toNat < 2 ^ 30) (room : 0x3B0 ≤ header.totalDataWordLength.toNat) :
    (copyLength header).toNat + 0xEC0 = 4 * header.totalDataWordLength.toNat := by
  have scaled : (header.totalDataWordLength * partitionWordLength).toNat = 4 * header.totalDataWordLength.toNat :=
    (scaled_exact _).mpr total
  have certificate : authCertMinSize.toNat = 0xEC0 := rfl
  rw [copyLength, if_pos signed, Words.sub_exact _ _ (by omega)]
  omega

theorem lengths_exact_exactly (map : MemoryMap) (encOnly : Bool) (header : PartitionHeader) (runningCpu resetType : UInt32)
    (accepted : validatePartitionHeader map encOnly header runningCpu resetType = .success) :
    (∀ (outcomes : Outcomes) (fsbl : XFsblPs) (srcAddress length : UInt32) (load : UInt64),
      DeviceCall.mk srcAddress (.memory load) length ∈ (partitionCopy map outcomes fsbl header).calls →
        length = copyLength header) ∧
      (LengthsExact header ↔
        header.totalDataWordLength.toNat < 2 ^ 30 ∧
          (certified header = true →
            header.encryptedDataWordLength.toNat + 0x3B0 ≤ header.totalDataWordLength.toNat)) := by
  obtain ⟨unEncryptedFits, encryptedFits⟩ := accepted_lengths map encOnly header runningCpu resetType accepted
  refine ⟨fun outcomes fsbl srcAddress length load => memory_length map outcomes fsbl header srcAddress length load, ?_⟩
  by_cases signed : certified header = true
  · have certificate : certificateSize header = 0xEC0 := if_pos signed
    constructor
    · intro lengths
      have authenticated := lengths.validated _ (certified_use header signed)
      have copied := lengths.copied
      have holdsData := lengths.holdsData
      exact ⟨(scaled_exact _).mp authenticated, fun _ => by omega⟩
    · rintro ⟨total, room⟩
      have copied := certified_length header signed total (Nat.le_trans (Nat.le_add_left _ _) (room signed))
      have spare := room signed
      refine ⟨by rw [certificate]; exact copied, by omega, uses_exact header total (Nat.le_trans unEncryptedFits encryptedFits)⟩
  · have certificate : certificateSize header = 0 := if_neg signed
    have plain : copyLength header = header.totalDataWordLength * 4 := if_neg signed
    constructor
    · intro lengths
      have copied := lengths.copied
      rw [certificate, plain, Nat.add_zero] at copied
      exact ⟨(scaled_exact _).mp copied, fun contrary => absurd contrary signed⟩
    · rintro ⟨total, _⟩
      have copied : (copyLength header).toNat = 4 * header.totalDataWordLength.toNat := by
        rw [plain]
        exact (scaled_exact _).mpr total
      refine ⟨by rw [certificate]; exact copied, by omega, uses_exact header total (Nat.le_trans unEncryptedFits encryptedFits)⟩

def signedR5Partition (load : UInt64) (words total : UInt32) : PartitionHeader :=
  ⟨words, words, total, 0, load, load, 0x1000, 0x8510, 1, 0, 0, 0, 0, 0⟩

theorem signed_lengths_exact : LengthsExact (signedR5Partition 0x100000 0x4000 0x43B0) :=
  (lengths_exact_exactly twoGigabytes false (signedR5Partition 0x100000 0x4000 0x43B0) destCpuA53_0 0 (by decide)).2.mpr
    (by decide)

-- A gigaword and one, of which four bytes are copied; and a signed partition that has no room for its certificate.
theorem lengths_wrap :
    (validatePartitionHeader twoGigabytes false (r5Partition 0x100000 0x40000001) destCpuA53_0 0 = .success ∧
        (r5Partition 0x100000 0x40000001).unEncryptedDataWordLength ≠ 0 ∧
        (partitionCopy twoGigabytes allSucceed a53Loader (r5Partition 0x100000 0x40000001)).calls =
          [⟨0x4000, .memory 0x100000, 4⟩] ∧
        ¬ LengthsExact (r5Partition 0x100000 0x40000001)) ∧
      (validatePartitionHeader twoGigabytes false (signedR5Partition 0x100000 1 2) destCpuA53_0 0 = .success ∧
        (signedR5Partition 0x100000 1 2).unEncryptedDataWordLength ≠ 0 ∧
        (partitionCopy twoGigabytes allSucceed a53Loader (signedR5Partition 0x100000 1 2)).calls =
          [⟨0x3148, .authBuffer, 0xEC0⟩, ⟨0x4000, .memory 0x100000, 0xFFFFF148⟩] ∧
        ¬ LengthsExact (signedR5Partition 0x100000 1 2)) := by
  refine ⟨⟨by decide, by decide, by decide, ?_⟩, by decide, by decide, by decide, ?_⟩
  · intro lengths
    exact absurd lengths.copied (by decide)
  · intro lengths
    exact absurd lengths.copied (by decide)

end LilacUxB.Fsbl
