import LilacUxB.Registers
import LilacUxB.Fsbl.PlBlock

set_option autoImplicit false

-- xfsbl_authentication.c: the keys and signatures of a secure boot, from the eFUSEs down to the
-- partitions.
namespace LilacUxB.Fsbl

open Bytes
open Registers

inductive AuthStatus where
  | success | errorCsuDmaInit | errorPadSelect | errorInvalidEfuseSelect | errorRsaInitialize | errorSpkRsaDecrypt
  | errorSpkSignature | errorSpkidVerification | errorUserEfuseIsRevoked | errorOutOfRangeUserEfuse
  | errorPartRsaDecrypt | errorPartSignature | errorPpkSelectIsRevoked | errorPpkVerification | errorBhRsaDecrypt
  | errorBhSignature
deriving DecidableEq, Repr

structure RsaKey where
  modular : List UInt8
  modularEx : List UInt8
  exponent : UInt32
deriving DecidableEq, Repr

abbrev Digest := Fin 48 → UInt8

-- The CSU DMA and the SHA-3 and RSA engines. A started hash is padded as NIST has it unless the
-- Keccak padding is selected.
structure CsuEngine where
  csuDmaInit : Bool
  sha3PadSelection : Bool
  sha3 : (keccak : Bool) → List UInt8 → Digest
  rsaInitialize : RsaKey → Bool
  rsaPublicEncrypt : RsaKey → List UInt8 → Option (List UInt8)
  rsaSignVerification : List UInt8 → Digest → Bool

def efuseSecCtrl : UInt32 := 0xFFCC1058
def efuseSecCtrlRsaEnMask : UInt32 := 0x03FFF800
def efuseSecCtrlPpk0RvkMask : UInt32 := 0x18000000
def efuseSecCtrlPpk1RvkMask : UInt32 := 0xC0000000
def efuseSpkId : UInt32 := 0xFFCC105C
def efusePpk0 : UInt32 := 0xFFCC10A0
def efusePpk1 : UInt32 := 0xFFCC10D0
def userEfuseAddr : UInt32 := 0xFFCC1020

def acPpkSelectMask : UInt32 := 0x30000
def acSpkIdFuseSelMask : UInt32 := 0xC0000
def acSpkIdFuseSelShift : UInt32 := 18
def spkIdEfuse : UInt32 := 1
def userEfuse : UInt32 := 2
def userEfuseMinValue : UInt32 := 1
def userEfuseMaxValue : UInt32 := 256

def ppkPlace : Nat := 0x40
def spkPlace : Nat := 0x480
def spkSignaturePlace : Nat := 0x8C0
def bhdrSignaturePlace : Nat := 0xAC0
def partitionSignaturePlace : Nat := 0xCC0
def keySize : Nat := 512 + 512 + 64
def signatureSize : Nat := 512

def bytesFrom (memory : Nat → UInt8) (start count : Nat) : List UInt8 := readBuffer (fun index => memory (start + index)) count

def keyAt (memory : Nat → UInt8) (start : Nat) : RsaKey :=
  ⟨bytesFrom memory start 512, bytesFrom memory (start + 512) 512, word32 memory (start + 1024)⟩

def efuseRsaEnabled (efuse : File) : Bool := efuse efuseSecCtrl &&& efuseSecCtrlRsaEnMask ≠ 0

def spkIdFuseSel (cert : Nat → UInt8) : UInt32 := (word32 cert 0 &&& acSpkIdFuseSelMask) >>> acSpkIdFuseSelShift

def spkIdOf (cert : Nat → UInt8) : UInt32 := word32 cert 4

-- The authentication header is signed together with the key.
def spkHash (engine : CsuEngine) (cert : Nat → UInt8) : Digest :=
  engine.sha3 (spkIdFuseSel cert = spkIdEfuse) (bytesFrom cert 0 8 ++ bytesFrom cert spkPlace keySize)

def signVer (engine : CsuEngine) (key : RsaKey) (signature : List UInt8) (hash : Digest) (decryptError signatureError : AuthStatus) :
    AuthStatus :=
  if ¬ engine.rsaInitialize key then .errorRsaInitialize
  else
    match engine.rsaPublicEncrypt key signature with
    | none => decryptError
    | some decrypted => if ¬ engine.rsaSignVerification decrypted hash then signatureError else .success

def userFuseRevoked (efuse : File) (spkId : UInt32) : Bool :=
  efuse (userEfuseAddr + (spkId - 1) / 32 * 4) &&& 1 <<< ((spkId - 1) % 32) ≠ 0

def spkRevocation (efuse : File) (cert : Nat → UInt8) : AuthStatus :=
  if spkIdFuseSel cert = spkIdEfuse then
    if efuse efuseSpkId ≠ spkIdOf cert then .errorSpkidVerification else .success
  else if spkIdFuseSel cert = userEfuse then
    if userEfuseMinValue ≤ spkIdOf cert ∧ spkIdOf cert ≤ userEfuseMaxValue then
      if userFuseRevoked efuse (spkIdOf cert) then .errorUserEfuseIsRevoked else .success
    else .errorOutOfRangeUserEfuse
  else .success

-- `ppk` is EfusePpkKey: the key of the last boot header, not the one in this certificate.
def spkVer (engine : CsuEngine) (efuse : File) (ppk cert : Nat → UInt8) : AuthStatus :=
  if ¬ engine.csuDmaInit then .errorCsuDmaInit
  else if spkIdFuseSel cert = spkIdEfuse ∧ ¬ engine.sha3PadSelection then .errorPadSelect
  else if spkIdFuseSel cert ≠ spkIdEfuse ∧ spkIdFuseSel cert ≠ userEfuse then .errorInvalidEfuseSelect
  else
    let verified := signVer engine (keyAt ppk 0) (bytesFrom cert spkSignaturePlace signatureSize) (spkHash engine cert)
      .errorSpkRsaDecrypt .errorSpkSignature
    if verified ≠ .success then verified
    else if efuseRsaEnabled efuse then spkRevocation efuse cert
    else .success

def signedHash (engine : CsuEngine) (memory cert : Nat → UInt8) (partitionOffset : UInt64) (partitionLen : UInt32) :
    Digest :=
  engine.sha3 false (bytesFrom memory partitionOffset.toNat (partitionLen - authCertMinSize).toNat ++
    bytesFrom cert 0 (authCertMinSize - fsblSigSize).toNat)

def partitionSignVer (engine : CsuEngine) (memory cert : Nat → UInt8) (partitionOffset : UInt64) (partitionLen : UInt32) :
    AuthStatus :=
  signVer engine (keyAt cert spkPlace) (bytesFrom cert partitionSignaturePlace signatureSize)
    (signedHash engine memory cert partitionOffset partitionLen) .errorPartRsaDecrypt .errorPartSignature

def authentication (engine : CsuEngine) (efuse : File) (ppk memory cert : Nat → UInt8) (partitionOffset : UInt64)
    (partitionLen : UInt32) : AuthStatus :=
  if spkVer engine efuse ppk cert ≠ .success then spkVer engine efuse ppk cert
  else partitionSignVer engine memory cert partitionOffset partitionLen

def ppkWord (efuse : File) (base : UInt32) (number : Nat) : UInt32 := efuse (base + UInt32.ofNat number * 4)

def readPpkHash (efuse : File) (base : UInt32) (index : Nat) : UInt8 :=
  UInt8.ofNat ((ppkWord efuse base (index / 4)).toNat / 2 ^ (8 * (index % 4)))

def ppkVer (engine : CsuEngine) (efuse : File) (cert : Nat → UInt8) : AuthStatus :=
  let second := word32 cert 0 &&& acPpkSelectMask ≠ 0
  let revoked := efuse efuseSecCtrl &&& (if second then efuseSecCtrlPpk1RvkMask else efuseSecCtrlPpk0RvkMask) ≠ 0
  let efusePpkHash := readPpkHash efuse (if second then efusePpk1 else efusePpk0)
  if revoked then .errorPpkSelectIsRevoked
  else if ¬ engine.sha3PadSelection then .errorPadSelect
  else if compareHashs (digestBytes (engine.sha3 true (bytesFrom cert ppkPlace keySize))) efusePpkHash
      hashTypeSha3.toUInt32 ≠ .success then .errorPpkVerification
  else .success

def pufBhMask : UInt32 := 0xC0
def bhMinSize : Nat := 0x8B8
def bhMaxSize : Nat := 0xEC0

def bootHeaderHash (engine : CsuEngine) (bootHdrAttributes : UInt32) (data : Nat → UInt8) : Digest :=
  engine.sha3 true (bytesFrom data 0 (if bootHdrAttributes &&& pufBhMask ≠ 0 then bhMaxSize else bhMinSize))

-- The key is taken over before anything is verified with it.
def bhAuthentication (engine : CsuEngine) (efuse : File) (ppk : Nat → UInt8) (bootHdrAttributes : UInt32)
    (data cert : Nat → UInt8) (isEfuseRsa : Bool) : AuthStatus × (Nat → UInt8) :=
  if ¬ engine.csuDmaInit then (.errorCsuDmaInit, ppk)
  else if isEfuseRsa ∧ ppkVer engine efuse cert ≠ .success then (ppkVer engine efuse cert, ppk)
  else
    let taken := Blocks.store ppk 0 keySize (fun index => cert (ppkPlace + index))
    if spkVer engine efuse taken cert ≠ .success then (spkVer engine efuse taken cert, taken)
    else if ¬ engine.sha3PadSelection then (.errorPadSelect, taken)
    else
      (signVer engine (keyAt cert spkPlace) (bytesFrom cert bhdrSignaturePlace signatureSize)
        (bootHeaderHash engine bootHdrAttributes data) .errorBhRsaDecrypt .errorBhSignature, taken)

def sumEngine : CsuEngine where
  csuDmaInit := true
  sha3PadSelection := true
  sha3 keccak text number :=
    if number.val = 0 then text.foldl (fun sum byte => sum + byte) (if keccak then 1 else 0) else 0
  rsaInitialize _ := true
  rsaPublicEncrypt _ signature := some signature
  rsaSignVerification decrypted hash := decrypted.headD 0 = hash ⟨0, by decide⟩

end LilacUxB.Fsbl
