import MtxClient.Crypto.Attachments
import MtxClient.Crypto.StoredSecrets

/-!
# The lengths of keys and counter blocks

OpenSSL reads 32 bytes of the key and 16 bytes of the counter block, whatever the sizes of the
buffers are.  Where a key is derived it has its 32 bytes.  Counter blocks, and the keys of
attachments, come from base64 texts in events and in account data, and are handed over as they are
decoded.

`aesLengths_iff` says when all calls of AES are in order: if no call is reached, or if the texts
decode to the right lengths.
-/

set_option autoImplicit false

namespace Mtx.Crypto

open Str Events

/-- The operations that run AES on data of other users or of the account, with their arguments. -/
inductive AesUser where
  | decryptFile (ciphertext : Str) (encryption_info : EncryptedFile)
  | decrypt (data : AesHmacSha2EncryptedData) (decryptionKey key_name : Str)
  | keyFromPassphrase (password : Str) (parameters : AesHmacSha2KeyDescription)
  | keyFromRecoverykey (recoverykey : Str) (parameters : AesHmacSha2KeyDescription)

variable (openssl : Openssl) (digest : Digest)

/-- The calls of AES the operation makes. -/
def AesUser.calls : AesUser → List AesCall
  | decryptFile ciphertext info => (Crypto.decryptFile openssl digest ciphertext info).calls
  | decrypt data key key_name => (Crypto.decrypt openssl data key key_name).calls
  | keyFromPassphrase password parameters =>
    (tracedKeyFromPassphrase openssl password parameters).calls
  | keyFromRecoverykey recoverykey parameters =>
    (tracedKeyFromRecoverykey openssl recoverykey parameters).calls

/-- The test keys of a key can be derived. -/
def HasTestKeys (key : Str) : Prop :=
  ∃ testKeys, hkdfSha256 openssl key (List.replicate 32 0) [] = .ok testKeys

/-- The checks succeed that the operation makes before it runs AES. -/
def AesUser.Passes : AesUser → Prop
  | decryptFile ciphertext info => HashFits digest ciphertext info
  | decrypt data key key_name => Authentic openssl data key key_name
  | keyFromPassphrase password parameters => ∃ p, parameters.passphrase = some p ∧
      p.algorithm = lit "m.pbkdf2" ∧ HasTestKeys openssl
        (pbkdf2HmacSha512 openssl password p.salt p.iterations (p.bits / 8))
  | keyFromRecoverykey recoverykey _ =>
    Framed (base582bin recoverykey) ∧ HasTestKeys openssl (framedKey (base582bin recoverykey))

/-- The texts that are decoded for AES have the right lengths. -/
def AesUser.Sized : AesUser → Prop
  | decryptFile _ info => (base642binUrlsafeUnpadded info.key.k).length = 32 ∧
      (base642binUnpadded info.iv).length = 16
  | decrypt data _ _ => (base642bin data.iv).length = 16
  | keyFromPassphrase _ parameters | keyFromRecoverykey _ parameters =>
    (base642bin parameters.iv).length = 16

variable {openssl digest}

/-- The check of a key calls AES with a key of the right length. -/
theorem fits_tracedCheckKey_iff {parameters : AesHmacSha2KeyDescription} {key : Str} :
    (tracedCheckKey openssl parameters key).Calls AesCall.Fits ↔
      (HasTestKeys openssl key → (base642bin parameters.iv).length = 16) := by
  rw [calls_tracedCheckKey_iff, HasTestKeys]
  constructor
  · rintro h ⟨testKeys, htest⟩
    exact (h testKeys htest).2
  · intro h testKeys htest
    exact ⟨length_of_hkdfSha256 htest, h ⟨testKeys, htest⟩⟩

/-- **All calls of AES have a key of 32 bytes and a counter block of 16 bytes exactly if the
operation does not come so far or what it decodes for them has these lengths.** -/
theorem aesLengths_iff (openssl : Openssl) (digest : Digest) (u : AesUser) :
    (∀ call ∈ u.calls openssl digest, call.aes256Key.length = 32 ∧ call.iv.length = 16) ↔
      (u.Passes openssl digest → u.Sized) := by
  cases u with
  | decryptFile ciphertext info =>
    exact calls_decryptFile_iff (P := AesCall.Fits)
  | decrypt data key key_name =>
    refine (calls_decrypt_iff (P := AesCall.Fits)).trans ⟨?_, ?_⟩
    · rintro h ⟨keys, hkeys, hmac⟩
      exact (h keys hkeys hmac).2
    · intro h keys hkeys hmac
      exact ⟨length_of_hkdfSha256 hkeys, h ⟨keys, hkeys, hmac⟩⟩
  | keyFromPassphrase password parameters =>
    refine (calls_tracedKeyFromPassphrase_iff (P := AesCall.Fits)).trans ⟨?_, ?_⟩
    · rintro h ⟨p, hp, halg, htest⟩
      exact fits_tracedCheckKey_iff.mp (h p hp halg) htest
    · intro h p hp halg
      exact fits_tracedCheckKey_iff.mpr fun htest ↦ h ⟨p, hp, halg, htest⟩
  | keyFromRecoverykey recoverykey parameters =>
    refine (calls_tracedKeyFromRecoverykey_iff (P := AesCall.Fits)).trans ⟨?_, ?_⟩
    · rintro h ⟨hframed, htest⟩
      exact fits_tracedCheckKey_iff.mp (h hframed) htest
    · intro h hframed
      exact fits_tracedCheckKey_iff.mpr fun htest ↦ h ⟨hframed, htest⟩

/-! ## An example -/

/-- What is said about the file `5b 6b`, with its hash but with an empty key and an empty counter
block. -/
def emptyInfo : EncryptedFile :=
  fileInfo [] [] (base642bin "bYZHN23wDGg72aGQM8Wu4LgpjnRHxY+rctLKt4s9MDY=")

/-- **Both are handed to AES**, which decrypts nothing without a key. -/
theorem emptyInfo_reaches_aes :
    ¬ (∀ call ∈ (AesUser.decryptFile [0x5b, 0x6b] emptyInfo).calls attachmentOpenssl
      attachmentDigest, call.aes256Key.length = 32 ∧ call.iv.length = 16) ∧
    (decryptFile attachmentOpenssl attachmentDigest [0x5b, 0x6b] emptyInfo).result = .ok [] := by
  have hhash : attachmentDigest [0x5b, 0x6b] =
      some (base642bin "bYZHN23wDGg72aGQM8Wu4LgpjnRHxY+rctLKt4s9MDY=") := by
    rw [attachmentDigest, if_pos rfl]
  have hcall : decryptFile attachmentOpenssl attachmentDigest [0x5b, 0x6b] emptyInfo =
      callAes attachmentOpenssl [0x5b, 0x6b] [] [] := by
    rw [emptyInfo, decryptFile_eq rfl rfl rfl hhash (find?_hashes_fileInfo _ _ _), if_pos rfl]
    rfl
  rw [AesUser.calls, hcall]
  refine ⟨fun h ↦ ?_, rfl⟩
  exact absurd (h _ (List.mem_singleton_self _)).1 (by decide)

end Mtx.Crypto
