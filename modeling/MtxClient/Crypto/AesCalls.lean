import MtxClient.Crypto.KeyExport
import MtxClient.Crypto.RecoveryKeys
import MtxClient.Lib.Traced

/-!
# Calls of AES

OpenSSL reads 32 bytes of the key and 16 bytes of the counter block, however long the buffers are
that `AES_CTR_256_Encrypt` and `AES_CTR_256_Decrypt` hand over.  `callAes` keeps a record of these
buffers.

`key_from_passphrase` and `key_from_recoverykey` are written here a second time, with that record.
The theorems `result_tracedKeyFromPassphrase` and `result_tracedKeyFromRecoverykey` say that they
are the same functions otherwise.
-/

set_option autoImplicit false

namespace Mtx.Crypto

open Str

/-- The arguments of a call of `AES_CTR_256_Encrypt` or `AES_CTR_256_Decrypt`. -/
structure AesCall where
  text : Str
  aes256Key : Str
  iv : Str

/-- The buffers have the sizes that OpenSSL reads. -/
def AesCall.Fits (c : AesCall) : Prop := c.aes256Key.length = 32 ∧ c.iv.length = 16

variable (openssl : Openssl)

/-- `AES_CTR_256_Encrypt` and `AES_CTR_256_Decrypt`, recorded. -/
def callAes (text aes256Key iv : Str) : Traced AesCall Exn Str :=
  .call { text, aes256Key, iv } (aesCtr256 openssl text aes256Key iv)

/-- `checkKey`, recorded. -/
def tracedCheckKey (parameters : AesHmacSha2KeyDescription) (decryptionKey : Str) :
    Traced AesCall Exn Bool := do
  let testKeys ← hkdfSha256 openssl decryptionKey (List.replicate 32 0) []
  let encrypted ←
    callAes openssl (List.replicate 32 0) testKeys.aes (base642bin parameters.iv)
  return openssl.hmac testKeys.mac encrypted == base642bin parameters.mac

/-- `key_from_passphrase`, recorded. -/
def tracedKeyFromPassphrase (password : Str) (parameters : AesHmacSha2KeyDescription) :
    Traced AesCall Exn (Option Str) :=
  match parameters.passphrase with
  | none => .silent (.error (.invalidArgument "no passphrase to derive key from"))
  | some p => do
    throwIf (p.algorithm ≠ lit "m.pbkdf2") (.invalidArgument "invalid pbkdf algorithm")
    let decryptionKey := pbkdf2HmacSha512 openssl password p.salt p.iterations (p.bits / 8)
    if ← tracedCheckKey openssl parameters decryptionKey then return some decryptionKey
    else return none

/-- `key_from_recoverykey`, recorded. -/
def tracedKeyFromRecoverykey (recoverykey : Str) (parameters : AesHmacSha2KeyDescription) :
    Traced AesCall Exn (Option Str) := do
  let tempKey := base582bin recoverykey
  if tempKey.length < 3 ∨ tempKey.getD 0 0 ≠ 0x8b ∨ tempKey.getD 1 0 ≠ 0x01 then return none else
  let parity := tempKey.dropLast.foldl (· ^^^ ·) 0
  if parity ≠ tempKey.getLastD 0 then return none else
  let decryptionKey := tempKey.dropLast.drop 2
  -- verify key
  if ← tracedCheckKey openssl parameters decryptionKey then return some decryptionKey
  else return none

/-! ## The same results -/

theorem result_tracedCheckKey (parameters : AesHmacSha2KeyDescription) (key : Str) :
    (tracedCheckKey openssl parameters key).result = checkKey openssl parameters key := by
  rw [tracedCheckKey, Traced.result_bind]
  refine congrArg _ (funext fun testKeys ↦ ?_)
  rw [Traced.result_bind]
  rfl

theorem result_tracedKeyFromPassphrase (password : Str) (parameters : AesHmacSha2KeyDescription) :
    (tracedKeyFromPassphrase openssl password parameters).result =
      keyFromPassphrase openssl password parameters := by
  rw [tracedKeyFromPassphrase, keyFromPassphrase]
  cases parameters.passphrase with
  | none => rfl
  | some p =>
    dsimp only
    rw [Traced.result_bind]
    refine congrArg _ (funext fun _ ↦ ?_)
    rw [Traced.result_bind, result_tracedCheckKey]
    refine congrArg _ (funext fun ok ↦ ?_)
    cases ok <;> rfl

theorem result_tracedKeyFromRecoverykey (recoverykey : Str)
    (parameters : AesHmacSha2KeyDescription) :
    (tracedKeyFromRecoverykey openssl recoverykey parameters).result =
      keyFromRecoverykey openssl recoverykey parameters := by
  rw [tracedKeyFromRecoverykey, keyFromRecoverykey]
  dsimp only
  rw [ite_framed, ite_framed]
  split_ifs
  · rw [Traced.result_bind, result_tracedCheckKey]
    refine congrArg _ (funext fun ok ↦ ?_)
    cases ok <;> rfl
  · rfl

/-! ## The calls -/

variable {openssl} {P : AesCall → Prop}

theorem calls_tracedCheckKey_iff {parameters : AesHmacSha2KeyDescription} {key : Str} :
    (tracedCheckKey openssl parameters key).Calls P ↔
      ∀ testKeys, hkdfSha256 openssl key (List.replicate 32 0) [] = .ok testKeys →
        P ⟨List.replicate 32 0, testKeys.aes, base642bin parameters.iv⟩ := by
  rw [tracedCheckKey, Traced.calls_liftM_bind_iff]
  refine forall₂_congr fun testKeys _ ↦ ?_
  rw [Traced.calls_bind_iff, callAes, Traced.calls_call_iff]
  exact and_iff_left fun _ _ ↦ Traced.calls_pure _

/-- What comes after the check of a key makes no calls. -/
theorem calls_tracedCheckKey_bind_iff {parameters : AesHmacSha2KeyDescription} {key : Str} :
    Traced.Calls P (do
      if ← tracedCheckKey openssl parameters key then return some key else return none) ↔
      (tracedCheckKey openssl parameters key).Calls P := by
  rw [Traced.calls_bind_iff]
  refine and_iff_left fun ok _ ↦ ?_
  cases ok
  · exact Traced.calls_pure _
  · exact Traced.calls_pure _

theorem calls_tracedKeyFromPassphrase_iff {password : Str}
    {parameters : AesHmacSha2KeyDescription} :
    (tracedKeyFromPassphrase openssl password parameters).Calls P ↔
      ∀ p, parameters.passphrase = some p → p.algorithm = lit "m.pbkdf2" →
        (tracedCheckKey openssl parameters
          (pbkdf2HmacSha512 openssl password p.salt p.iterations (p.bits / 8))).Calls P := by
  rw [tracedKeyFromPassphrase]
  cases parameters.passphrase with
  | none =>
    refine iff_of_true (Traced.calls_liftM _) ?_
    intro p hp
    cases hp
  | some p =>
    dsimp only
    rw [Traced.calls_liftM_bind_iff]
    simp only [throwIf_eq_ok_iff, not_not, calls_tracedCheckKey_bind_iff]
    simp

theorem calls_tracedKeyFromRecoverykey_iff {recoverykey : Str}
    {parameters : AesHmacSha2KeyDescription} :
    (tracedKeyFromRecoverykey openssl recoverykey parameters).Calls P ↔
      (Framed (base582bin recoverykey) →
        (tracedCheckKey openssl parameters (framedKey (base582bin recoverykey))).Calls P) := by
  rw [tracedKeyFromRecoverykey]
  dsimp only
  rw [ite_framed, ← framedKey]
  split_ifs with hframed
  · rw [calls_tracedCheckKey_bind_iff]
    exact ⟨fun h _ ↦ h, fun h ↦ h hframed⟩
  · exact iff_of_true (Traced.calls_pure _) fun h ↦ absurd h hframed

end Mtx.Crypto
