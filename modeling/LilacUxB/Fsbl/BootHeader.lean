import LilacUxB.Blocks
import LilacUxB.Words
import LilacUxB.Fsbl.Authentication
import LilacUxB.Fsbl.ImageHeader

set_option autoImplicit false

-- XFsbl_ValidateHeader: the boot header, the certificate and the image header are copied from
-- the boot device before any of them is known to be authentic.
namespace LilacUxB.Fsbl

open Bytes
open Registers

inductive HeaderTarget where
  | readBuffer | acOffset | authBuffer | imageHdr
deriving DecidableEq, Repr

structure HeaderCopy where
  srcAddress : UInt32
  target : HeaderTarget
  length : UInt32
deriving DecidableEq, Repr

-- What the function finds. `memory` is what lies from ReadBuffer on, `ppk` is EfusePpkKey; these
-- two and AuthBuffer are objects of their own.
structure Boot where
  multiBootOffset : UInt32
  efuse : File
  processorID : UInt32
  primaryBootDevice : UInt32
  secondaryBootDevice : UInt32
  imageOffsetAddress : UInt32
  flash : UInt32 → UInt8
  memory : Nat → UInt8
  deviceCopy : HeaderCopy → XFsblStatus
  recordCopy : UInt32 → XFsblStatus
  engine : CsuEngine
  ppk : Nat → UInt8

def xihBhMaxSize : UInt32 := 0xEC0
def authCertSize : UInt32 := 0xEC0
def imageSearchOffset : UInt32 := 0x8000
def bhRsaMask : UInt32 := 0xC000

-- SD, eMMC and USB: the image starts at the beginning of its file.
def fileSystemMode (device : UInt32) : Bool :=
  device = 0x3 || device = 0x6 || device = 0x5 || device = 0xE || device = 0x7

def imageOffset (boot : Boot) : UInt32 :=
  let device := if boot.secondaryBootDevice = 0 then boot.primaryBootDevice else boot.secondaryBootDevice
  if fileSystemMode device then boot.imageOffsetAddress else boot.multiBootOffset * imageSearchOffset

def bootHdrAttrb (boot : Boot) : UInt32 := word32 (flashBytes boot.flash (imageOffset boot)) 0x44

def tableOffset (boot : Boot) : UInt32 := word32 (flashBytes boot.flash (imageOffset boot)) 0x98

def acOffset (boot : Boot) : UInt32 := word32 (flashBytes boot.flash (imageOffset boot + tableOffset boot + 0x10)) 0

def efuseRsa (boot : Boot) : Bool := efuseRsaEnabled boot.efuse

def headerRsa (boot : Boot) : Bool := bootHdrAttrb boot &&& bhRsaMask = bhRsaMask

def headerSize (boot : Boot) : UInt32 := acOffset boot * 4 - tableOffset boot

def bootHdr (boot : Boot) : Nat → UInt8 :=
  Blocks.store boot.memory 0 xihBhMaxSize.toNat (flashBytes boot.flash (imageOffset boot))

-- ImageHdr is ReadBuffer, where the boot header has been.
def imageHdr (boot : Boot) : Nat → UInt8 :=
  Blocks.store (bootHdr boot) 0 (headerSize boot).toNat (flashBytes boot.flash (imageOffset boot + tableOffset boot))

def authBuffer (boot : Boot) : Nat → UInt8 := flashBytes boot.flash (imageOffset boot + acOffset boot * 4)

def bootHdrAuthentication (boot : Boot) : AuthStatus × (Nat → UInt8) :=
  bhAuthentication boot.engine boot.efuse boot.ppk (bootHdrAttrb boot) (bootHdr boot) (authBuffer boot) (efuseRsa boot)

def imageHdrAuthentication (boot : Boot) : AuthStatus :=
  authentication boot.engine boot.efuse (bootHdrAuthentication boot).2 (imageHdr boot) (authBuffer boot) 0
    (headerSize boot + authCertSize)

inductive ValidateStatus where
  | fsbl (status : XFsblStatus)
  | auth (status : AuthStatus)
deriving DecidableEq, Repr

structure ValidateResult where
  status : ValidateStatus
  copies : List HeaderCopy
  state : ReadState

def bootHeaderCopy (boot : Boot) : HeaderCopy := ⟨imageOffset boot, .readBuffer, xihBhMaxSize⟩

def acOffsetCopy (boot : Boot) : HeaderCopy := ⟨imageOffset boot + tableOffset boot + 0x10, .acOffset, 4⟩

def certificateCopy (boot : Boot) : HeaderCopy := ⟨imageOffset boot + acOffset boot * 4, .authBuffer, authCertSize⟩

def imageHeaderCopy (boot : Boot) : HeaderCopy := ⟨imageOffset boot + tableOffset boot, .imageHdr, headerSize boot⟩

def earlyCopies (boot : Boot) : List HeaderCopy := [bootHeaderCopy boot, acOffsetCopy boot, certificateCopy boot]

def authenticateImageHeader (boot : Boot) (state : ReadState) : ValidateResult :=
  let copies := earlyCopies boot ++ [imageHeaderCopy boot]
  let read := readImageHeader (.ocm (imageHdr boot)) boot.processorID (tableOffset boot) state
  if boot.deviceCopy (imageHeaderCopy boot) ≠ .success then ⟨.fsbl (boot.deviceCopy (imageHeaderCopy boot)), copies, state⟩
  else if imageHdrAuthentication boot ≠ .success then ⟨.auth (imageHdrAuthentication boot), copies, state⟩
  else if acOffset boot ≠ word32 (imageHdr boot) 0x10 then ⟨.fsbl .errorImageHeaderAcoffset, copies, state⟩
  else ⟨.fsbl read.1, copies, read.2⟩

def authenticateHeaders (boot : Boot) (state : ReadState) : ValidateResult :=
  let copies := [bootHeaderCopy boot, acOffsetCopy boot]
  if boot.deviceCopy (acOffsetCopy boot) ≠ .success then ⟨.fsbl (boot.deviceCopy (acOffsetCopy boot)), copies, state⟩
  else if acOffset boot = 0 then ⟨.fsbl .errorImageHeaderAcoffset, copies, state⟩
  else if boot.deviceCopy (certificateCopy boot) ≠ .success then
    ⟨.fsbl (boot.deviceCopy (certificateCopy boot)), copies ++ [certificateCopy boot], state⟩
  else if (bootHdrAuthentication boot).1 ≠ .success then
    ⟨.auth (bootHdrAuthentication boot).1, copies ++ [certificateCopy boot], state⟩
  else authenticateImageHeader boot state

def validateHeader (boot : Boot) (state : ReadState) : ValidateResult :=
  let copies := [bootHeaderCopy boot]
  let source := HeaderSource.device boot.flash (imageOffset boot) boot.recordCopy
  let read := readImageHeader source boot.processorID (tableOffset boot) state
  if boot.deviceCopy (bootHeaderCopy boot) ≠ .success then ⟨.fsbl (boot.deviceCopy (bootHeaderCopy boot)), copies, state⟩
  else if efuseRsa boot ∧ headerRsa boot then ⟨.fsbl .errorBhAuthIsNotallowed, copies, state⟩
  else if efuseRsa boot ∨ headerRsa boot then authenticateHeaders boot state
  else ⟨.fsbl read.1, copies, read.2⟩

def capacity : HeaderTarget → Nat
  | .readBuffer => readBufferSize.toNat
  | .acOffset => 4
  | .authBuffer => authCertSize.toNat
  | .imageHdr => readBufferSize.toNat

def SizeExact (boot : Boot) : Prop :=
  (tableOffset boot).toNat ≤ 4 * (acOffset boot).toNat ∧ 4 * (acOffset boot).toNat < 2 ^ 32

def CopiesInside (boot : Boot) (state : ReadState) : Prop :=
  ∀ copy ∈ (validateHeader boot state).copies,
    copy.length.toNat ≤ capacity copy.target ∧ (copy.target = .imageHdr → SizeExact boot)

def HeadersAccepted (boot : Boot) : Prop :=
  boot.deviceCopy (bootHeaderCopy boot) = .success ∧ efuseRsa boot ≠ headerRsa boot ∧
    boot.deviceCopy (acOffsetCopy boot) = .success ∧ acOffset boot ≠ 0 ∧
    boot.deviceCopy (certificateCopy boot) = .success ∧ (bootHdrAuthentication boot).1 = .success

theorem image_header_copies (boot : Boot) (state : ReadState) :
    (authenticateImageHeader boot state).copies = earlyCopies boot ++ [imageHeaderCopy boot] := by
  unfold authenticateImageHeader
  split_ifs <;> rfl

theorem accepted_copies (boot : Boot) (state : ReadState) (accepted : HeadersAccepted boot) :
    (validateHeader boot state).copies = earlyCopies boot ++ [imageHeaderCopy boot] := by
  obtain ⟨copied, one, acCopied, present, certified, signed⟩ := accepted
  have notBoth : ¬ (efuseRsa boot = true ∧ headerRsa boot = true) := fun both => one (both.1.trans both.2.symm)
  have either : efuseRsa boot = true ∨ headerRsa boot = true := by
    cases efuse : efuseRsa boot with
    | true => exact .inl rfl
    | false => exact .inr (Bool.eq_true_of_not_eq_false (fun unset => one (efuse.trans unset.symm)))
  simp only [validateHeader, copied, notBoth, either, authenticateHeaders, acCopied, present, certified, signed, ne_eq,
    not_true_eq_false, if_false, if_true]
  exact image_header_copies boot state

theorem refused_headers (boot : Boot) (state : ReadState)
    (refused : ¬ (boot.deviceCopy (acOffsetCopy boot) = .success ∧ acOffset boot ≠ 0 ∧
      boot.deviceCopy (certificateCopy boot) = .success ∧ (bootHdrAuthentication boot).1 = .success)) :
    (authenticateHeaders boot state).copies ⊆ earlyCopies boot := by
  unfold authenticateHeaders
  dsimp only
  split_ifs with acFailed absent certificateFailed unsigned
  · exact List.subset_append_left _ [certificateCopy boot]
  · exact List.subset_append_left _ [certificateCopy boot]
  · exact List.Subset.refl _
  · exact List.Subset.refl _
  · exact absurd ⟨not_not.mp acFailed, absent, not_not.mp certificateFailed, not_not.mp unsigned⟩ refused

theorem refused_copies (boot : Boot) (state : ReadState) (refused : ¬ HeadersAccepted boot) :
    (validateHeader boot state).copies ⊆ earlyCopies boot := by
  unfold validateHeader
  dsimp only
  split_ifs with failed both either
  · exact List.subset_append_left [bootHeaderCopy boot] [acOffsetCopy boot, certificateCopy boot]
  · exact List.subset_append_left [bootHeaderCopy boot] [acOffsetCopy boot, certificateCopy boot]
  · apply refused_headers
    rintro ⟨acCopied, present, certified, signed⟩
    refine refused ⟨not_not.mp failed, ?_, acCopied, present, certified, signed⟩
    intro same
    cases either with
    | inl efuse => exact both ⟨efuse, same ▸ efuse⟩
    | inr header => exact both ⟨same ▸ header, header⟩
  · exact List.subset_append_left [bootHeaderCopy boot] [acOffsetCopy boot, certificateCopy boot]

theorem early_copies_fit (boot : Boot) (copy : HeaderCopy) (early : copy ∈ earlyCopies boot) :
    copy.length.toNat ≤ capacity copy.target ∧ copy.target ≠ .imageHdr := by
  have header : xihBhMaxSize.toNat ≤ capacity .readBuffer := by decide
  simp only [earlyCopies, List.mem_cons, List.not_mem_nil, or_false] at early
  rcases early with rfl | rfl | rfl
  · exact ⟨header, nofun⟩
  · exact ⟨Nat.le_refl 4, nofun⟩
  · exact ⟨Nat.le_refl _, nofun⟩

theorem header_size_exact (boot : Boot) (exact : SizeExact boot) :
    (headerSize boot).toNat = 4 * (acOffset boot).toNat - (tableOffset boot).toNat := by
  obtain ⟨ordered, fits⟩ := exact
  have product : (acOffset boot * 4).toNat = 4 * (acOffset boot).toNat := by
    rw [Words.mul_exact _ _ (by rwa [Nat.mul_comm]), Nat.mul_comm]
    rfl
  rw [headerSize, Words.sub_exact _ _ (by rwa [product]), product]

theorem copies_inside_exactly (boot : Boot) (state : ReadState) :
    CopiesInside boot state ↔
      (HeadersAccepted boot →
        (tableOffset boot).toNat ≤ 4 * (acOffset boot).toNat ∧ 4 * (acOffset boot).toNat < 2 ^ 32 ∧
          4 * (acOffset boot).toNat - (tableOffset boot).toNat ≤ 56 * 1024) := by
  have room : capacity .imageHdr = 56 * 1024 := by decide
  constructor
  · intro inside accepted
    have member : imageHeaderCopy boot ∈ (validateHeader boot state).copies := by
      rw [accepted_copies boot state accepted]
      exact List.mem_append_right _ (List.mem_singleton.mpr rfl)
    obtain ⟨fits, exact⟩ := inside _ member
    obtain ⟨ordered, below⟩ := exact rfl
    rw [imageHeaderCopy, header_size_exact boot ⟨ordered, below⟩, room] at fits
    exact ⟨ordered, below, fits⟩
  · intro sized copy member
    by_cases accepted : HeadersAccepted boot
    · obtain ⟨ordered, below, fits⟩ := sized accepted
      rw [accepted_copies boot state accepted] at member
      cases List.mem_append.mp member with
      | inl early =>
          obtain ⟨within, other⟩ := early_copies_fit boot copy early
          exact ⟨within, fun header => absurd header other⟩
      | inr last =>
          obtain rfl := List.mem_singleton.mp last
          refine ⟨?_, fun _ => ⟨ordered, below⟩⟩
          rw [imageHeaderCopy, header_size_exact boot ⟨ordered, below⟩, room]
          exact fits
    · obtain ⟨within, other⟩ := early_copies_fit boot copy (refused_copies boot state accepted member)
      exact ⟨within, fun header => absurd header other⟩

-- Boot header authentication on, the header table at 0x8C0, and a certificate offset of 0x40000 in it.
-- The certificate there is signed by whoever made the image: the eFUSEs name no key.
def farCertificate (address : UInt32) : UInt8 :=
  if address = 0x45 then 0xC0
  else if address = 0x98 then 0xC0
  else if address = 0x99 then 0x08
  else if address = 0x8D2 then 0x01
  else if address = 0x40002 then 0x04
  else if address = 0x408C0 then 0x05
  else if address = 0x40AC0 then 0x89
  else 0

def farBoot : Boot where
  multiBootOffset := 0
  efuse := fun _ => 0
  processorID := destCpuA53_0
  primaryBootDevice := 0x2
  secondaryBootDevice := 0
  imageOffsetAddress := 0
  flash := farCertificate
  memory := fun _ => 0
  deviceCopy := fun _ => .success
  recordCopy := fun _ => .success
  engine := sumEngine
  ppk := fun _ => 0

theorem far_certificate_accepted : (bootHdrAuthentication farBoot).1 = .success := by decide +kernel

theorem far_boot_accepted : HeadersAccepted farBoot :=
  ⟨rfl, by decide, rfl, by decide, rfl, far_certificate_accepted⟩

theorem header_overflows_buffer :
    (headerSize farBoot).toNat = 0x3F740 ∧ ¬ CopiesInside farBoot emptyHeaders := by
  refine ⟨by decide, ?_⟩
  intro inside
  have member : imageHeaderCopy farBoot ∈ (validateHeader farBoot emptyHeaders).copies := by
    rw [accepted_copies farBoot emptyHeaders far_boot_accepted]
    exact List.mem_append_right _ (List.mem_singleton.mpr rfl)
  have fits := (inside _ member).1
  revert fits
  decide

end LilacUxB.Fsbl
