import MtxClient.Crypto.Encoding
import MtxClient.Crypto.Random

/-!
# The functions of libolm

libolm is not part of the library.  `Libolm` lists the functions of it that the modelled code calls,
as functions of the bytes they are handed; `none` stands for `olm_error()`.  What the code relies on
is stated where it is used, as a structure of laws about these functions.
-/

set_option autoImplicit false

namespace Mtx.Crypto

open Str

/-- The functions of libolm the code calls. -/
structure Libolm where
  /-- `OlmAccount`, `OlmSession`, `OlmOutboundGroupSession` and `OlmSAS`, once they are created. -/
  Account : Type
  Session : Type
  OutboundGroupSession : Type
  Sas : Type
  /-- `OlmPkSigning`, once it has a key. -/
  PkSigning : Type
  /-- A curve25519 public key, as `OlmPkEncryption` holds it. -/
  PkKey : Type
  /-- A curve25519 key pair, as `OlmPkDecryption` holds it. -/
  PkKeyPair : Type
  /-- The lengths of the random arguments the constructors ask for. -/
  createAccountRandomLength : ℕ
  createOutboundSessionRandomLength : ℕ
  initOutboundGroupSessionRandomLength : ℕ
  createSasRandomLength : ℕ
  pkSigningSeedLength : ℕ
  pkEncryptRandomLength : ℕ
  /-- `olm_create_account`. -/
  createAccount (random : Str) : Option Account
  /-- `olm_create_outbound_session`. -/
  createOutboundSession (account : Account) (identity_key one_time_key random : Str) :
    Option Session
  /-- `olm_init_outbound_group_session`. -/
  initOutboundGroupSession (random : Str) : Option OutboundGroupSession
  /-- `olm_create_sas`. -/
  createSas (random : Str) : Option Sas
  /-- `olm_pk_signing_key_from_seed`, with the public key it writes. -/
  pkSigningKeyFromSeed (seed : Str) : Option (PkSigning × Str)
  /-- `olm_account_identity_keys`: a JSON text. -/
  accountIdentityKeys (account : Account) : Str
  accountIdentityKeysLength (account : Account) : ℕ
  /-- `olm_account_sign`. -/
  accountSign (account : Account) (message : Str) : Str
  accountSignatureLength (account : Account) : ℕ
  /-- `olm_pk_sign`. -/
  pkSign (signing : PkSigning) (message : Str) : Option Str
  /-- `olm_ed25519_verify(…) == 0`. -/
  ed25519Verify (key message signature : Str) : Bool
  /-- `olm_pk_key_length`. -/
  pkKeyLength : ℕ
  /-- The key of an `OlmPkEncryption` that none was set for. -/
  initialPkKey : PkKey
  /-- `olm_pk_encryption_set_recipient_key`: the key that is set. -/
  pkEncryptionSetRecipientKey (key : Str) : Option PkKey
  /-- `olm_pk_encrypt`: the ciphertext, the mac and the ephemeral key. -/
  pkEncrypt (recipient : PkKey) (plaintext random : Str) : Option (Str × Str × Str)
  /-- The lengths of private keys that `olm_pk_key_from_private` accepts. -/
  acceptsPrivateKeyLength (length : ℕ) : Bool
  /-- The key pair of an `OlmPkDecryption` that none was set for. -/
  initialPkKeyPair : PkKeyPair
  /-- `olm_pk_key_from_private`: the key pair that is set and the public key that is written. -/
  pkKeyFromPrivate (private_key : Str) : Option (PkKeyPair × Str)
  /-- `olm_pk_decrypt`. -/
  pkDecrypt (key : PkKeyPair) (ephemeral mac ciphertext : Str) : Option Str

/-- The identity keys of the account of `sampleOlm`. -/
def sampleIdentityKey : Str := "aY4D7GAOdFDaLSSsT2SjLg3OHYGwz0Lx4eVGTMxqpUM"

@[inherit_doc sampleIdentityKey]
def sampleFingerprint : Str := "gWBrMCjnGv0s2ZwVWmrnkbMNRTWvCzbhTzHuRtGIcyI"

/-- A stand-in for libolm that accepts and rejects what libolm does.  A private key is its own
public key here, and a signature is the public key before the message. -/
def sampleOlm : Libolm where
  Account := Unit
  Session := Unit
  OutboundGroupSession := Unit
  Sas := Unit
  PkSigning := Str
  PkKey := Str
  PkKeyPair := Str
  createAccountRandomLength := 64
  createOutboundSessionRandomLength := 64
  initOutboundGroupSessionRandomLength := 160
  createSasRandomLength := 32
  pkSigningSeedLength := 32
  pkEncryptRandomLength := 32
  createAccount random := if 64 ≤ random.length then some () else none
  createOutboundSession _ identity_key one_time_key random :=
    if 64 ≤ random.length ∧ 43 ≤ identity_key.length ∧ 43 ≤ one_time_key.length then some ()
    else none
  initOutboundGroupSession random := if 160 ≤ random.length then some () else none
  createSas random := if 32 ≤ random.length then some () else none
  pkSigningKeyFromSeed seed :=
    let key := bin2base64Unpadded (seed.take 32)
    if 32 ≤ seed.length then some (key, key) else none
  accountIdentityKeys _ :=
    lit "\x7b\"curve25519\":\"" ++ sampleIdentityKey ++ lit "\",\"ed25519\":\"" ++
      sampleFingerprint ++ lit "\"\x7d"
  accountIdentityKeysLength _ := 118
  accountSign _ message := sampleFingerprint ++ message
  accountSignatureLength _ := 86
  pkSign key message := some (key ++ message)
  ed25519Verify key message signature := decide (43 ≤ key.length) && signature == key ++ message
  pkKeyLength := 43
  initialPkKey := List.replicate 32 0
  pkEncryptionSetRecipientKey key :=
    if 43 ≤ key.length then some (base642binUnpadded (key.take 43)) else none
  pkEncrypt recipient plaintext random :=
    if 32 ≤ random.length then some (recipient ++ plaintext, [], random.take 32) else none
  acceptsPrivateKeyLength length := decide (32 ≤ length)
  initialPkKeyPair := List.replicate 32 0
  pkKeyFromPrivate private_key :=
    let key := private_key.take 32
    if 32 ≤ private_key.length then some (key, bin2base64Unpadded key) else none
  pkDecrypt key _ _ ciphertext :=
    if key.isPrefixOf ciphertext then some (ciphertext.drop key.length) else none

end Mtx.Crypto
