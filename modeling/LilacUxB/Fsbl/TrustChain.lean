import LilacUxB.Fsbl.Authentication

set_option autoImplicit false

namespace LilacUxB.Fsbl

open Bytes
open Registers

def Verifies (engine : CsuEngine) (key : RsaKey) (signature : List UInt8) (hash : Digest) : Prop :=
  ∃ decrypted, engine.rsaPublicEncrypt key signature = some decrypted ∧ engine.rsaSignVerification decrypted hash = true

def Rooted (engine : CsuEngine) (efuse : File) (ppk : Nat → UInt8) : Prop :=
  ∃ root ∈ [(efusePpk0, efuseSecCtrlPpk0RvkMask), (efusePpk1, efuseSecCtrlPpk1RvkMask)],
    efuse efuseSecCtrl &&& root.2 = 0 ∧ ∀ number, number < 12 →
      word32 (digestBytes (engine.sha3 true (bytesFrom ppk 0 keySize))) (4 * number) = ppkWord efuse root.1 number

def Current (efuse : File) (cert : Nat → UInt8) : Prop :=
  (spkIdFuseSel cert = spkIdEfuse ∧ efuse efuseSpkId = spkIdOf cert) ∨
    (spkIdFuseSel cert = userEfuse ∧ userEfuseMinValue ≤ spkIdOf cert ∧ spkIdOf cert ≤ userEfuseMaxValue ∧
      userFuseRevoked efuse (spkIdOf cert) = false)

structure TrustedSpk (engine : CsuEngine) (efuse : File) (ppk cert : Nat → UInt8) : Prop where
  signed : Verifies engine (keyAt ppk 0) (bytesFrom cert spkSignaturePlace signatureSize) (spkHash engine cert)
  current : Current efuse cert

structure Working (engine : CsuEngine) : Prop where
  csuDma : engine.csuDmaInit = true
  padding : engine.sha3PadSelection = true
  rsa : ∀ key, engine.rsaInitialize key = true

inductive AuthCall where
  | bootHeader (bootHdrAttributes : UInt32) (data cert : Nat → UInt8)
  | partition (memory cert : Nat → UInt8) (partitionOffset : UInt64) (partitionLen : UInt32)

def AuthCall.cert : AuthCall → Nat → UInt8
  | .bootHeader _ _ cert => cert
  | .partition _ cert _ _ => cert

def AuthCall.signature : AuthCall → List UInt8
  | .bootHeader _ _ cert => bytesFrom cert bhdrSignaturePlace signatureSize
  | .partition _ cert _ _ => bytesFrom cert partitionSignaturePlace signatureSize

def AuthCall.hash (engine : CsuEngine) : AuthCall → Digest
  | .bootHeader bootHdrAttributes data _ => bootHeaderHash engine bootHdrAttributes data
  | .partition memory cert partitionOffset partitionLen => signedHash engine memory cert partitionOffset partitionLen

structure Trusted (engine : CsuEngine) (efuse : File) (ppk : Nat → UInt8) (call : AuthCall) : Prop where
  spk : TrustedSpk engine efuse ppk call.cert
  signed : Verifies engine (keyAt call.cert spkPlace) call.signature (call.hash engine)

-- XFsbl_ValidateHeader passes on whether the RSA bits of the eFUSE are set.
def authStep (engine : CsuEngine) (efuse : File) (ppk : Nat → UInt8) : AuthCall → AuthStatus × (Nat → UInt8)
  | .bootHeader bootHdrAttributes data cert =>
      bhAuthentication engine efuse ppk bootHdrAttributes data cert (efuseRsaEnabled efuse)
  | .partition memory cert partitionOffset partitionLen =>
      (authentication engine efuse ppk memory cert partitionOffset partitionLen, ppk)

structure AuthRecord where
  call : AuthCall
  status : AuthStatus
  ppk : Nat → UInt8

def authTrace (engine : CsuEngine) (efuse : File) : (Nat → UInt8) → List AuthCall → List AuthRecord
  | _, [] => []
  | ppk, call :: rest =>
      ⟨call, (authStep engine efuse ppk call).1, (authStep engine efuse ppk call).2⟩ ::
        authTrace engine efuse (authStep engine efuse ppk call).2 rest

theorem sign_ver_success (engine : CsuEngine) (key : RsaKey) (signature : List UInt8) (hash : Digest)
    (decryptError signatureError : AuthStatus) (decrypts : decryptError ≠ .success) (signs : signatureError ≠ .success) :
    signVer engine key signature hash decryptError signatureError = .success ↔
      engine.rsaInitialize key = true ∧ Verifies engine key signature hash := by
  unfold signVer Verifies
  by_cases ready : engine.rsaInitialize key = true
  · rw [if_neg (not_not.mpr ready)]
    cases decrypted : engine.rsaPublicEncrypt key signature with
    | none => simp [decrypts]
    | some text =>
        by_cases verified : engine.rsaSignVerification text hash = true
        · simp [ready, verified]
        · simp [ready, verified, signs]
  · simp [ready]

theorem revocation_success (efuse : File) (cert : Nat → UInt8)
    (selected : spkIdFuseSel cert = spkIdEfuse ∨ spkIdFuseSel cert = userEfuse) :
    spkRevocation efuse cert = .success ↔ Current efuse cert := by
  have apart : userEfuse ≠ spkIdEfuse := by decide
  unfold spkRevocation Current
  cases selected with
  | inl first =>
      rw [if_pos first]
      by_cases same : efuse efuseSpkId = spkIdOf cert <;> simp [first, same, apart.symm]
  | inr second =>
      rw [if_neg (by rw [second]; exact apart), if_pos second]
      by_cases inside : userEfuseMinValue ≤ spkIdOf cert ∧ spkIdOf cert ≤ userEfuseMaxValue
      · cases revoked : userFuseRevoked efuse (spkIdOf cert) <;> simp [second, inside, apart]
      · rw [if_neg inside]
        simp only [second, apart, false_and, false_or, true_and]
        refine iff_of_false AuthStatus.noConfusion ?_
        rintro ⟨low, high, _⟩
        exact inside ⟨low, high⟩

theorem spk_ver_trusts (engine : CsuEngine) (efuse : File) (fused : efuseRsaEnabled efuse = true) (ppk cert : Nat → UInt8)
    (accepted : spkVer engine efuse ppk cert = .success) : TrustedSpk engine efuse ppk cert := by
  simp only [spkVer, fused, if_true] at accepted
  split_ifs at accepted with _ _ unselected failed
  · exact absurd accepted failed
  · have verified := (sign_ver_success engine _ _ _ _ _ (by decide) (by decide)).mp (not_not.mp failed)
    have selected : spkIdFuseSel cert = spkIdEfuse ∨ spkIdFuseSel cert = userEfuse := by
      by_contra neither
      exact unselected (not_or.mp neither)
    exact ⟨verified.2, (revocation_success efuse cert selected).mp accepted⟩

theorem trusted_spk_accepted (engine : CsuEngine) (working : Working engine) (efuse : File) (ppk cert : Nat → UInt8)
    (trusted : TrustedSpk engine efuse ppk cert) : spkVer engine efuse ppk cert = .success := by
  have selected : spkIdFuseSel cert = spkIdEfuse ∨ spkIdFuseSel cert = userEfuse :=
    trusted.current.imp And.left And.left
  have verified := (sign_ver_success engine (keyAt ppk 0) (bytesFrom cert spkSignaturePlace signatureSize)
    (spkHash engine cert) .errorSpkRsaDecrypt .errorSpkSignature (by decide) (by decide)).mpr
    ⟨working.rsa _, trusted.signed⟩
  have known : ¬ (spkIdFuseSel cert ≠ spkIdEfuse ∧ spkIdFuseSel cert ≠ userEfuse) := by
    rintro ⟨first, second⟩
    exact selected.elim first second
  have padded : ¬ (spkIdFuseSel cert = spkIdEfuse ∧ ¬ engine.sha3PadSelection = true) :=
    fun unpadded => unpadded.2 working.padding
  rw [spkVer, if_neg (not_not.mpr working.csuDma), if_neg padded, if_neg known]
  simp only [verified, ne_eq, not_true_eq_false, if_false]
  split_ifs
  · exact (revocation_success efuse cert selected).mpr trusted.current
  · rfl

theorem read_ppk_word (efuse : File) (base : UInt32) (number : Nat) :
    word32 (readPpkHash efuse base) (4 * number) = ppkWord efuse base number := by
  have byte (index : Nat) (less : index < 4) : (readPpkHash efuse base (4 * number + index)).toNat =
      (ppkWord efuse base number).toNat / 2 ^ (8 * index) % 2 ^ 8 := by
    have word : (4 * number + index) / 4 = number := by omega
    have place : (4 * number + index) % 4 = index := by omega
    rw [readPpkHash, word, place, UInt8.toNat_ofNat']
  have below := UInt32.toNat_lt (ppkWord efuse base number)
  have first := byte 0 (by decide)
  have second := byte 1 (by decide)
  have third := byte 2 (by decide)
  have fourth := byte 3 (by decide)
  apply UInt32.toNat_inj.mp
  rw [word32_value]
  rw [Nat.add_zero] at first
  rw [first, second, third, fourth]
  omega

theorem compare_hashs (hash : Nat → UInt8) (efuse : File) (base : UInt32)
    (same : compareHashs hash (readPpkHash efuse base) hashTypeSha3.toUInt32 = .success) :
    ∀ number, number < 12 → word32 hash (4 * number) = ppkWord efuse base number := by
  have words : (hashTypeSha3.toUInt32 / 4).toNat = 12 := by decide
  unfold compareHashs at same
  rw [words] at same
  split_ifs at same with equal
  intro number less
  rw [← read_ppk_word]
  exact of_decide_eq_true (List.all_eq_true.mp equal number (List.mem_range.mpr less))

theorem taken_key (ppk cert : Nat → UInt8) :
    bytesFrom (Blocks.store ppk 0 keySize (fun index => cert (ppkPlace + index))) 0 keySize = bytesFrom cert ppkPlace keySize := by
  have each : ∀ index ∈ List.range keySize,
      Blocks.store ppk 0 keySize (fun index => cert (ppkPlace + index)) (0 + index) = cert (ppkPlace + index) :=
    fun index member => Blocks.store_inside ppk 0 keySize _ index (List.mem_range.mp member)
  rw [bytesFrom, bytesFrom, readBuffer, readBuffer]
  exact List.map_congr_left each

theorem ppk_ver_roots (engine : CsuEngine) (efuse : File) (ppk cert : Nat → UInt8)
    (accepted : ppkVer engine efuse cert = .success) :
    Rooted engine efuse (Blocks.store ppk 0 keySize (fun index => cert (ppkPlace + index))) := by
  unfold Rooted
  rw [taken_key]
  by_cases second : word32 cert 0 &&& acPpkSelectMask ≠ 0
  · simp only [ppkVer, if_pos second] at accepted
    split_ifs at accepted with revoked _ differs
    refine ⟨(efusePpk1, efuseSecCtrlPpk1RvkMask), by simp, ?_, ?_⟩
    · simpa using revoked
    · exact compare_hashs _ efuse _ (not_not.mp differs)
  · simp only [ppkVer, if_neg second] at accepted
    split_ifs at accepted with revoked _ differs
    refine ⟨(efusePpk0, efuseSecCtrlPpk0RvkMask), by simp, ?_, ?_⟩
    · simpa using revoked
    · exact compare_hashs _ efuse _ (not_not.mp differs)

theorem authentication_trusts (engine : CsuEngine) (efuse : File) (fused : efuseRsaEnabled efuse = true)
    (ppk memory cert : Nat → UInt8) (partitionOffset : UInt64) (partitionLen : UInt32)
    (accepted : authentication engine efuse ppk memory cert partitionOffset partitionLen = .success) :
    Trusted engine efuse ppk (.partition memory cert partitionOffset partitionLen) := by
  unfold authentication at accepted
  split_ifs at accepted with failed
  · exact absurd accepted failed
  · exact ⟨spk_ver_trusts engine efuse fused ppk cert (not_not.mp failed),
      ((sign_ver_success engine _ _ _ _ _ (by decide) (by decide)).mp accepted).2⟩

theorem trusted_accepted (engine : CsuEngine) (working : Working engine) (efuse : File) (ppk memory cert : Nat → UInt8)
    (partitionOffset : UInt64) (partitionLen : UInt32)
    (trusted : Trusted engine efuse ppk (.partition memory cert partitionOffset partitionLen)) :
    authentication engine efuse ppk memory cert partitionOffset partitionLen = .success := by
  have spk := trusted_spk_accepted engine working efuse ppk cert trusted.spk
  rw [authentication, if_neg (not_not.mpr spk)]
  exact (sign_ver_success engine _ _ _ _ _ (by decide) (by decide)).mpr ⟨working.rsa _, trusted.signed⟩

def takenKey (ppk cert : Nat → UInt8) : Nat → UInt8 := Blocks.store ppk 0 keySize (fun index => cert (ppkPlace + index))

theorem boot_header_key (engine : CsuEngine) (efuse : File) (fused : efuseRsaEnabled efuse = true)
    (ppk : Nat → UInt8) (bootHdrAttributes : UInt32) (data cert : Nat → UInt8) :
    let result := bhAuthentication engine efuse ppk bootHdrAttributes data cert true
    (result.2 = ppk ∨ Rooted engine efuse result.2) ∧
      (result.1 = .success → Rooted engine efuse result.2 ∧
        Trusted engine efuse result.2 (.bootHeader bootHdrAttributes data cert)) := by
  intro result
  by_cases idle : ¬ engine.csuDmaInit = true
  · have stopped : result = (.errorCsuDmaInit, ppk) := if_pos idle
    rw [stopped]
    exact ⟨.inl rfl, fun success => AuthStatus.noConfusion success⟩
  · by_cases unrooted : ppkVer engine efuse cert ≠ .success
    · have stopped : result = (ppkVer engine efuse cert, ppk) := (if_neg idle).trans (if_pos ⟨rfl, unrooted⟩)
      rw [stopped]
      exact ⟨.inl rfl, fun success => absurd success unrooted⟩
    · have rooted : Rooted engine efuse (takenKey ppk cert) := ppk_ver_roots engine efuse ppk cert (not_not.mp unrooted)
      have passed : result = if spkVer engine efuse (takenKey ppk cert) cert ≠ .success then
          (spkVer engine efuse (takenKey ppk cert) cert, takenKey ppk cert)
        else if ¬ engine.sha3PadSelection then (.errorPadSelect, takenKey ppk cert)
        else (signVer engine (keyAt cert spkPlace) (bytesFrom cert bhdrSignaturePlace signatureSize)
          (bootHeaderHash engine bootHdrAttributes data) .errorBhRsaDecrypt .errorBhSignature, takenKey ppk cert) :=
        (if_neg idle).trans (if_neg (fun failed => unrooted failed.2))
      by_cases failed : spkVer engine efuse (takenKey ppk cert) cert ≠ .success
      · rw [passed, if_pos failed]
        exact ⟨.inr rooted, fun success => absurd success failed⟩
      · by_cases unpadded : ¬ engine.sha3PadSelection = true
        · rw [passed, if_neg failed, if_pos unpadded]
          exact ⟨.inr rooted, fun success => AuthStatus.noConfusion success⟩
        · rw [passed, if_neg failed, if_neg unpadded]
          refine ⟨.inr rooted, fun success => ⟨rooted, ?_⟩⟩
          exact ⟨spk_ver_trusts engine efuse fused _ cert (not_not.mp failed),
            ((sign_ver_success engine _ _ _ _ _ (by decide) (by decide)).mp success).2⟩

def Vouched (engine : CsuEngine) (efuse : File) (record : AuthRecord) : Prop :=
  Rooted engine efuse record.ppk ∧ (record.status = .success → Trusted engine efuse record.ppk record.call) ∧
    ∀ memory cert partitionOffset partitionLen, record.call = .partition memory cert partitionOffset partitionLen →
      Working engine → Trusted engine efuse record.ppk record.call → record.status = .success

theorem step_vouches (engine : CsuEngine) (efuse : File) (fused : efuseRsaEnabled efuse = true) (ppk : Nat → UInt8)
    (rooted : Rooted engine efuse ppk) (call : AuthCall) :
    Vouched engine efuse ⟨call, (authStep engine efuse ppk call).1, (authStep engine efuse ppk call).2⟩ := by
  cases call with
  | bootHeader bootHdrAttributes data cert =>
      obtain ⟨key, accepted⟩ := boot_header_key engine efuse fused ppk bootHdrAttributes data cert
      rw [authStep, fused]
      refine ⟨?_, fun success => (accepted success).2, fun _ _ _ _ other => AuthCall.noConfusion other⟩
      cases key with
      | inl same => exact same.symm ▸ rooted
      | inr taken => exact taken
  | partition memory cert partitionOffset partitionLen =>
      refine ⟨rooted, authentication_trusts engine efuse fused ppk memory cert partitionOffset partitionLen, ?_⟩
      intro _ _ _ _ _ working trusted
      exact trusted_accepted engine working efuse ppk memory cert partitionOffset partitionLen trusted

theorem trace_trusts (engine : CsuEngine) (efuse : File) (fused : efuseRsaEnabled efuse = true) (calls : List AuthCall)
    (ppk : Nat → UInt8) (rooted : Rooted engine efuse ppk) :
    ∀ record ∈ authTrace engine efuse ppk calls, Vouched engine efuse record := by
  induction calls generalizing ppk with
  | nil => exact List.forall_mem_nil _
  | cons call rest ih =>
      have stepped := step_vouches engine efuse fused ppk rooted call
      exact List.forall_mem_cons.mpr ⟨stepped, ih _ stepped.1⟩

def KeyFrom (ppk cert : Nat → UInt8) : Prop := ∀ index, index < keySize → ppk index = cert (ppkPlace + index)

def checksKey (engine : CsuEngine) (efuse : File) : AuthCall → Bool
  | .bootHeader _ _ cert => engine.csuDmaInit && ppkVer engine efuse cert = .success
  | .partition _ _ _ _ => false

def checkedCert (engine : CsuEngine) (efuse : File) (cert : Nat → UInt8) (calls : List AuthCall) : Nat → UInt8 :=
  calls.foldl (fun latest call => if checksKey engine efuse call then call.cert else latest) cert

theorem boot_header_takes (engine : CsuEngine) (efuse : File) (fused : efuseRsaEnabled efuse = true) (ppk : Nat → UInt8)
    (bootHdrAttributes : UInt32) (data cert : Nat → UInt8)
    (checks : checksKey engine efuse (.bootHeader bootHdrAttributes data cert) = true) :
    KeyFrom (authStep engine efuse ppk (.bootHeader bootHdrAttributes data cert)).2 cert := by
  obtain ⟨ready, passed⟩ := Bool.and_eq_true_iff.mp checks
  have rooted : ppkVer engine efuse cert = .success := of_decide_eq_true passed
  have taken : KeyFrom (takenKey ppk cert) cert := by
    intro index less
    have stored := Blocks.store_inside ppk 0 keySize (fun place => cert (ppkPlace + place)) index less
    rwa [Nat.zero_add] at stored
  rw [authStep, fused, bhAuthentication]
  simp only [ready, rooted, not_true_eq_false, if_false, ne_eq, and_false]
  split_ifs
  · exact taken
  · exact taken
  · exact taken

theorem boot_header_leaves (engine : CsuEngine) (efuse : File) (fused : efuseRsaEnabled efuse = true) (ppk : Nat → UInt8)
    (bootHdrAttributes : UInt32) (data cert : Nat → UInt8)
    (unchecked : checksKey engine efuse (.bootHeader bootHdrAttributes data cert) = false) :
    (authStep engine efuse ppk (.bootHeader bootHdrAttributes data cert)).2 = ppk ∧
      (authStep engine efuse ppk (.bootHeader bootHdrAttributes data cert)).1 ≠ .success := by
  rw [authStep, fused, bhAuthentication]
  by_cases idle : engine.csuDmaInit = true
  · have unrooted : ppkVer engine efuse cert ≠ .success := by
      intro rooted
      rw [checksKey, idle, rooted] at unchecked
      cases unchecked
    rw [if_neg (not_not.mpr idle), if_pos ⟨rfl, unrooted⟩]
    exact ⟨rfl, unrooted⟩
  · rw [if_pos idle]
    exact ⟨rfl, AuthStatus.noConfusion⟩

theorem step_key (engine : CsuEngine) (efuse : File) (fused : efuseRsaEnabled efuse = true) (ppk cert : Nat → UInt8)
    (key : KeyFrom ppk cert) (call : AuthCall) :
    KeyFrom (authStep engine efuse ppk call).2 (if checksKey engine efuse call then call.cert else cert) := by
  cases call with
  | partition memory other partitionOffset partitionLen => exact key
  | bootHeader bootHdrAttributes data other =>
      cases checks : checksKey engine efuse (.bootHeader bootHdrAttributes data other) with
      | true => exact boot_header_takes engine efuse fused ppk bootHdrAttributes data other checks
      | false =>
          rw [(boot_header_leaves engine efuse fused ppk bootHdrAttributes data other checks).1]
          exact key

theorem trace_keys (engine : CsuEngine) (efuse : File) (fused : efuseRsaEnabled efuse = true) (calls : List AuthCall)
    (ppk cert : Nat → UInt8) (key : KeyFrom ppk cert) (count : Nat) (record : AuthRecord)
    (traced : (authTrace engine efuse ppk calls)[count]? = some record) :
    KeyFrom record.ppk (checkedCert engine efuse cert (calls.take (count + 1))) := by
  induction calls generalizing ppk cert count with
  | nil => cases traced
  | cons call rest ih =>
      have stepped := step_key engine efuse fused ppk cert key call
      cases count with
      | zero =>
          cases traced
          exact stepped
      | succ before => exact ih _ _ stepped before traced

theorem chain_of_trust (engine : CsuEngine) (efuse : File) (fused : efuseRsaEnabled efuse = true) (ppk : Nat → UInt8)
    (bootHdrAttributes : UInt32) (data cert : Nat → UInt8)
    (accepted : (authStep engine efuse ppk (.bootHeader bootHdrAttributes data cert)).1 = .success)
    (calls : List AuthCall) :
    (∀ record ∈ authTrace engine efuse ppk (.bootHeader bootHdrAttributes data cert :: calls),
      Vouched engine efuse record) ∧
    ∀ count record, (authTrace engine efuse ppk (.bootHeader bootHdrAttributes data cert :: calls))[count]? = some record →
      KeyFrom record.ppk (checkedCert engine efuse cert (calls.take count)) := by
  have key := (boot_header_key engine efuse fused ppk bootHdrAttributes data cert).2
  have same : authStep engine efuse ppk (.bootHeader bootHdrAttributes data cert) =
      bhAuthentication engine efuse ppk bootHdrAttributes data cert true :=
    congrArg (bhAuthentication engine efuse ppk bootHdrAttributes data cert) fused
  rw [← same] at key
  obtain ⟨rooted, trusted⟩ := key accepted
  refine ⟨List.forall_mem_cons.mpr ⟨⟨rooted, fun _ => trusted, fun _ _ _ _ other => AuthCall.noConfusion other⟩,
    trace_trusts engine efuse fused calls _ rooted⟩, ?_⟩
  have checks : checksKey engine efuse (.bootHeader bootHdrAttributes data cert) = true := by
    by_contra unchecked
    exact (boot_header_leaves engine efuse fused ppk bootHdrAttributes data cert (Bool.eq_false_of_not_eq_true unchecked)).2
      accepted
  have taken := boot_header_takes engine efuse fused ppk bootHdrAttributes data cert checks
  intro count record traced
  cases count with
  | zero =>
      cases traced
      exact taken
  | succ before => exact trace_keys engine efuse fused calls _ cert taken before record traced

def signedCert (index : Nat) : UInt8 :=
  if index = 2 then 0x04
  else if index = 4 then 17
  else if index = ppkPlace then 7
  else if index = spkPlace then 9
  else if index = spkSignaturePlace then 31
  else if index = bhdrSignaturePlace then 1
  else if index = partitionSignaturePlace then 74
  else 0

def blownFuses : File := fun address =>
  if address = efuseSecCtrl then efuseSecCtrlRsaEnMask else if address = efuseSpkId then 17
  else if address = efusePpk0 then 8 else 0

def oneByte (index : Nat) : UInt8 := if index = 0 then 5 else 0

def signedPartition : AuthCall := .partition oneByte signedCert 0 0xEC4

theorem signed_partition_trusted :
    Trusted sumEngine blownFuses (authStep sumEngine blownFuses (authStep sumEngine blownFuses (fun _ => 0)
      (.bootHeader 0 (fun _ => 0) signedCert)).2 signedPartition).2 signedPartition ∧
    KeyFrom (authStep sumEngine blownFuses (authStep sumEngine blownFuses (fun _ => 0)
      (.bootHeader 0 (fun _ => 0) signedCert)).2 signedPartition).2 signedCert := by
  obtain ⟨vouched, keys⟩ := chain_of_trust sumEngine blownFuses (by decide) (fun _ => 0) 0 (fun _ => 0) signedCert
    (by decide +kernel) [signedPartition]
  simp only [authTrace, List.forall_mem_cons, Vouched] at vouched
  have key := keys 1
  simp only [authTrace, List.getElem?_cons_succ, List.getElem?_cons_zero, Option.some.injEq, forall_eq'] at key
  have accepted : (authStep sumEngine blownFuses (authStep sumEngine blownFuses (fun _ => 0)
      (.bootHeader 0 (fun _ => 0) signedCert)).2 signedPartition).1 = .success := by decide +kernel
  exact ⟨vouched.2.1.2.1 accepted, key⟩

end LilacUxB.Fsbl
