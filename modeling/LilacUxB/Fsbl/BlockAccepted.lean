import LilacUxB.Fsbl.ReAuthentication

set_option autoImplicit false

namespace LilacUxB.Fsbl

open Bytes

structure Accepting (calls : BlockCalls) : Prop where
  copied : ∀ copy, (calls.copyData copy).status = .success
  steady : ∀ index srcAddress size,
    calls.copyData ⟨.reAuthentication, index, srcAddress, size⟩ = calls.copyData ⟨.signVer, index, srcAddress, size⟩
  spkVer : calls.spkVer = .success
  sha3Initialize : calls.sha3Initialize = .success
  rsaInitialize : calls.rsaInitialize = .success
  rsaPublicEncrypt : calls.rsaPublicEncrypt = .success
  rsaSignVerification : ∀ digest, calls.rsaSignVerification digest = .success
  decrptPlChunks : ∀ index, calls.decrptPlChunks index = .success

theorem compare_same (hash1 hash2 : Nat → UInt8) (agree : Agree 48 hash1 hash2) :
    compareHashs hash1 hash2 hashTypeSha3.toUInt32 = .success := by
  have count : (hashTypeSha3.toUInt32 / 4).toNat = 12 := by decide
  rw [compareHashs, count, if_pos]
  apply List.all_eq_true.mpr
  intro index member
  have less := List.mem_range.mp member
  exact decide_eq_true (word32_congr 48 hash1 hash2 (4 * index) agree (by omega))

theorem accepted_within (block : PlBlock) (accepted : (plBlockAuthentication block).status = .success) :
    noOfChunks block ≤ block.partition.noOfHashs := by
  rw [plBlockAuthentication] at accepted
  split_ifs at accepted with many
  · exact UInt32.not_lt.mp many
  · exact UInt32.not_lt.mp many
  · exact UInt32.not_lt.mp many

theorem steady_text (block : PlBlock) (accepting : Accepting block.calls) (count : Nat) :
    textUpTo block .reAuthentication count = textUpTo block .signVer count :=
  text_congr block _ _ count (fun index _ => by rw [chunkAt, chunkAt, accepting.steady])

section Steady

variable (block : PlBlock) (sha3 : block.partition.authType = hashTypeSha3) (accepting : Accepting block.calls)

include sha3 accepting

theorem sign_chunks_pass : (signChunks block).1 = .success := by
  refine Loops.iterate_passes XFsblStatus.success (signChunk block) _ (SignedUpTo block)
    (fun index state less signed done => sign_step block sha3 index state less signed done) ?_ _ 0 _ (Nat.zero_add _)
    (signed_at_start block sha3)
  intro index state less signed
  simp only [signChunk, accepting.copied, ne_eq, not_true_eq_false, if_false]

theorem sign_ver_passes : (plSignVer block).status = .success := by
  simp only [plSignVer, sign_chunks_pass block sha3 accepting, accepting.rsaInitialize, accepting.rsaPublicEncrypt,
    accepting.rsaSignVerification, ne_eq, not_true_eq_false, if_false]

theorem re_auth_chunk_passes (index : Nat) (state : ReAuthState) (less : index < (noOfChunks block).toNat)
    (matched : Matched block index state) :
    (reAuthChunk block (plSignVer block).hashsOfChunks index state).1 = .success := by
  have len := re_auth_len block index state less (matched.left less) (matched.size less)
  have signed := signed_whole block sha3 (sign_ver_passes block sha3 accepting)
  have text : state.text ++ (chunkAt block .reAuthentication index).bytes = textUpTo block .signVer (index + 1) := by
    rw [matched.text, ← text_next, steady_text block accepting]
  have same : compareHashs (fun place => (plSignVer block).hashsOfChunks (state.hashStored + place))
      (digestBytes (block.calls.readHash (textUpTo block .signVer (index + 1)))) block.partition.authType.toUInt32 =
        .success := by
    rw [sha3, matched.slot less]
    exact compare_same _ _ (signed.stored index less)
  rw [← text] at same
  simp only [reAuthChunk, len, accepting.copied, ne_eq, not_true_eq_false, if_false]
  refine (congrArg Prod.fst (if_neg (not_not.mpr same))).trans ?_
  rw [handStatus, accepting.decrptPlChunks, ite_self]

theorem re_authentication_passes :
    (reAuthenticationBlock block (plSignVer block).hashsOfChunks).status = .success := by
  rw [reAuthenticationBlock, if_neg (not_not.mpr accepting.sha3Initialize)]
  refine Loops.iterate_passes XFsblStatus.success (reAuthChunk block (plSignVer block).hashsOfChunks)
    (noOfChunks block).toNat (Matched block) ?_ (re_auth_chunk_passes block sha3 accepting) _ 0 (reAuthStart block)
    (Nat.zero_add _) (matched_at_start block)
  intro index state less matched passed
  cases re_auth_chunk_cases block _ index state less matched with
  | inl stopped => exact absurd passed stopped.1
  | inr checked =>
      obtain ⟨_, buffer, read, after⟩ := checked
      rw [after]
      exact matched_step block sha3 index state less matched buffer read (steady_text block accepting _)

theorem steady_block_accepted (room : noOfChunks block ≤ block.partition.noOfHashs) :
    (plBlockAuthentication block).status = .success := by
  rw [plBlockAuthentication, if_neg (UInt32.not_lt.mpr room), if_neg (not_not.mpr accepting.spkVer)]
  exact (congrArg BlockResult.status (if_neg (not_not.mpr (sign_ver_passes block sha3 accepting)))).trans
    (re_authentication_passes block sha3 accepting)

end Steady

end LilacUxB.Fsbl
