import MtxClient.Crypto.Olm
import MtxClient.Json.Text

/-!
# Online key backup

The three functions around `OlmPkEncryption` and `OlmPkDecryption`, and the backup of a session with
them.  Each first sets the key of a fresh libolm object and then uses the object.  The first call
can fail, and then leaves the object with the key it was created with, but only the second call is
checked.  So a key that libolm refuses means that everybody's key is used instead, and the theorems
say that nothing else goes wrong: `encryptsToKey_iff`, `decryptsWithKey_iff`, `publicKeyOf_iff` and,
for whole sessions, `keyBackup_iff`.
-/

set_option autoImplicit false

namespace Mtx.Crypto

open Str

/-! ## Encrypted messages -/

/-- `CURVE25519_AES_SHA2_Encrypted`. -/
structure Curve25519AesSha2Encrypted where
  ciphertext : Str
  mac : Str
  ephemeral : Str
  deriving DecidableEq

variable (olm : Libolm)

/-- `CURVE25519_public_key_from_private`. -/
def curve25519PublicKeyFromPrivate (privateKey : Str) : Str :=
  match olm.pkKeyFromPrivate privateKey with
  | some (_, pubkey) => pubkey
  -- the error is not noticed, and the buffer is returned as it was made
  | none => List.replicate olm.pkKeyLength 0

/-- `CURVE25519_AES_SHA2_Encrypt`. -/
def curve25519AesSha2Encrypt (plaintext base64_publicKey : Str) :
    OlmM Curve25519AesSha2Encrypted := do
  -- the error is not noticed
  let recipient := (olm.pkEncryptionSetRecipientKey base64_publicKey).getD olm.initialPkKey
  let randomBuf ← newBuffer olm.pkEncryptRandomLength
  handOver randomBuf
  let (ciphertext, mac, ephemeral) ← orOlmException "CURVE25519_AES_SHA2_Encrypt"
    (olm.pkEncrypt recipient plaintext randomBuf)
  return { ciphertext, mac, ephemeral }

/-- `CURVE25519_AES_SHA2_Decrypt`. -/
def curve25519AesSha2Decrypt (base64_ciphertext privateKey ephemeral mac : Str) : Except Exn Str :=
  -- the error is not noticed
  let key := ((olm.pkKeyFromPrivate privateKey).map Prod.fst).getD olm.initialPkKeyPair
  match olm.pkDecrypt key ephemeral mac base64_ciphertext with
  | some plaintext => .ok plaintext
  | none => .error (.olmException "CURVE25519_AES_SHA2_Decrypt")

/-! ## Sessions -/

/-- The data of a session in the backup. -/
structure SessionData where
  algorithm : Str
  forwarding_curve25519_key_chain : List Str
  sender_key : Str
  sender_claimed_keys : SortedMap Str Str
  session_key : Str

/-- `to_json(SessionData)`. -/
def SessionData.toJson (data : SessionData) : Json :=
  Json.ofMembers <| Json.noMembers
    |>.insert "algorithm" (.string data.algorithm)
    |>.insert "forwarding_curve25519_key_chain"
      (Json.ofArray .string data.forwarding_curve25519_key_chain)
    |>.insert "sender_key" (.string data.sender_key)
    |>.insert "sender_claimed_keys" (Json.ofMap .string data.sender_claimed_keys)
    |>.insert "session_key" (.string data.session_key)

/-- `from_json(SessionData)`. -/
def SessionData.fromJson (obj : Json) : Except Exn SessionData := do
  let algorithm ← (← obj.atKey "algorithm").getString
  let forwarding_curve25519_key_chain ←
    (← obj.atKey "forwarding_curve25519_key_chain").getArray Json.getString
  let sender_key ← (← obj.atKey "sender_key").getString
  -- required, but some clients don't send it
  let sender_claimed_keys ←
    obj.value "sender_claimed_keys" (Json.getMap Json.getString) SortedMap.empty
  let session_key ← (← obj.atKey "session_key").getString
  return { algorithm, forwarding_curve25519_key_chain, sender_key, sender_claimed_keys,
           session_key }

variable (json : JsonText)

/-- `encrypt_session`.  `EncryptedSessionData` has the same members as the encrypted message. -/
def encryptSession (data : SessionData) (publicKey : Str) : OlmM Curve25519AesSha2Encrypted := do
  let text ← json.dump data.toJson
  curve25519AesSha2Encrypt olm text publicKey

/-- `decrypt_session`. -/
def decryptSession (data : Curve25519AesSha2Encrypted) (privateKey : Str) :
    Except Exn SessionData := do
  let plaintext ← curve25519AesSha2Decrypt olm data.ciphertext privateKey data.ephemeral data.mac
  SessionData.fromJson (← json.parse plaintext)

/-! ## Using the given key -/

/-- The message is a plaintext encrypted to the key that `base64_publicKey` encodes. -/
def EncryptedTo (plaintext base64_publicKey : Str) (message : Curve25519AesSha2Encrypted) : Prop :=
  ∃ key random, olm.pkEncryptionSetRecipientKey base64_publicKey = some key ∧
    olm.pkEncrypt key plaintext random =
      some (message.ciphertext, message.mac, message.ephemeral)

/-- The plaintext is the message decrypted with the private key. -/
def DecryptedWith (privateKey : Str) (message : Curve25519AesSha2Encrypted) (plaintext : Str) :
    Prop :=
  ∃ key pubkey, olm.pkKeyFromPrivate privateKey = some (key, pubkey) ∧
    olm.pkDecrypt key message.ephemeral message.mac message.ciphertext = some plaintext

/-- `CURVE25519_AES_SHA2_Encrypt` throws or encrypts to the given key. -/
def EncryptsToKey (plaintext base64_publicKey : Str) (w : World) : Prop :=
  ∀ message w', curve25519AesSha2Encrypt olm plaintext base64_publicKey w = .ok (message, w') →
    EncryptedTo olm plaintext base64_publicKey message

/-- `CURVE25519_AES_SHA2_Decrypt` throws or decrypts with the given key. -/
def DecryptsWithKey (message : Curve25519AesSha2Encrypted) (privateKey : Str) : Prop :=
  ∀ plaintext, curve25519AesSha2Decrypt olm message.ciphertext privateKey message.ephemeral
      message.mac = .ok plaintext →
    DecryptedWith olm privateKey message plaintext

/-- `CURVE25519_public_key_from_private` answers the public key of the given private key. -/
def PublicKeyOf (privateKey : Str) : Prop :=
  ∃ key, olm.pkKeyFromPrivate privateKey =
    some (key, curve25519PublicKeyFromPrivate olm privateKey)

/-- `encrypt_session` throws or encrypts the session to the given key. -/
def EncryptsSessionToKey (data : SessionData) (publicKey : Str) (w : World) : Prop :=
  ∀ message w', encryptSession olm json data publicKey w = .ok (message, w') →
    ∃ text, json.dump data.toJson = .ok text ∧ EncryptedTo olm text publicKey message

/-- `decrypt_session` throws or answers the session decrypted with the given key. -/
def DecryptsSessionWithKey (message : Curve25519AesSha2Encrypted) (privateKey : Str) : Prop :=
  ∀ data, decryptSession olm json message privateKey = .ok data →
    ∃ text, DecryptedWith olm privateKey message text ∧
      (json.parse text >>= SessionData.fromJson) = .ok data

/-! ## When the given key is used -/

/-- What the functions rely on: libolm accepts public keys of at least `olm_pk_key_length()` bytes
and private keys of certain lengths, and encrypts whatever it is given. -/
structure PkLaws (olm : Libolm) : Prop where
  short : olm.pkEncryptRandomLength < 2 ^ 31
  recipient : ∀ key : Str,
    (olm.pkEncryptionSetRecipientKey key).isSome = decide (olm.pkKeyLength ≤ key.length)
  encrypt : ∀ (key : olm.PkKey) (plaintext random : Str),
    random.length = olm.pkEncryptRandomLength → (olm.pkEncrypt key plaintext random).isSome = true
  private_key : ∀ key : Str,
    (olm.pkKeyFromPrivate key).isSome = olm.acceptsPrivateKeyLength key.length

variable {olm}

/-- What a message was encrypted to: the given key, or the one nobody set. -/
theorem curve25519AesSha2Encrypt_eq_ok {plaintext base64_publicKey : Str} {w w' : World}
    {message : Curve25519AesSha2Encrypted}
    (h : curve25519AesSha2Encrypt olm plaintext base64_publicKey w = .ok (message, w')) :
    ∃ random, olm.pkEncrypt
      ((olm.pkEncryptionSetRecipientKey base64_publicKey).getD olm.initialPkKey) plaintext random =
        some (message.ciphertext, message.mac, message.ephemeral) := by
  simp only [curve25519AesSha2Encrypt, olmM_bind_eq_ok_iff, orOlmException_eq_ok_iff] at h
  obtain ⟨random, w₁, -, _, w₂, -, ⟨ciphertext, mac, ephemeral⟩, w₃, ⟨hm, -⟩, hret⟩ := h
  obtain ⟨rfl, -⟩ := Prod.mk.inj (Except.ok.inj hret)
  exact ⟨random, hm⟩

theorem curve25519AesSha2Encrypt_isOk (laws : PkLaws olm) (plaintext base64_publicKey : Str)
    (w : World) :
    ∃ message w', curve25519AesSha2Encrypt olm plaintext base64_publicKey w =
      .ok (message, w') := by
  obtain ⟨⟨ciphertext, mac, ephemeral⟩, hm⟩ := Option.isSome_iff_exists.mp (laws.encrypt
    ((olm.pkEncryptionSetRecipientKey base64_publicKey).getD olm.initialPkKey) plaintext
    (createBuffer olm.pkEncryptRandomLength w.rng).1 (length_createBuffer laws.short w.rng))
  refine ⟨⟨ciphertext, mac, ephemeral⟩, ⟨(createBuffer olm.pkEncryptRandomLength w.rng).2,
    w.handed ++ [(createBuffer olm.pkEncryptRandomLength w.rng).1]⟩, ?_⟩
  rw [curve25519AesSha2Encrypt, olmM_bind_of_ok (newBuffer_apply _ w),
    olmM_bind_of_ok (handOver_apply _ _),
    olmM_bind_of_ok (orOlmException_eq_ok_iff.mpr ⟨hm, rfl⟩)]
  rfl

theorem encryptsToKey_iff (laws : PkLaws olm) (plaintext base64_publicKey : Str) (w : World) :
    EncryptsToKey olm plaintext base64_publicKey w ↔
      olm.pkKeyLength ≤ base64_publicKey.length := by
  have hset : olm.pkKeyLength ≤ base64_publicKey.length ↔
      ∃ key, olm.pkEncryptionSetRecipientKey base64_publicKey = some key := by
    rw [← Option.isSome_iff_exists, laws.recipient, decide_eq_true_iff]
  rw [hset]
  constructor
  · intro h
    obtain ⟨message, w', hm⟩ := curve25519AesSha2Encrypt_isOk laws plaintext base64_publicKey w
    obtain ⟨key, random, hkey, -⟩ := h message w' hm
    exact ⟨key, hkey⟩
  · rintro ⟨key, hkey⟩ message w' hm
    obtain ⟨random, henc⟩ := curve25519AesSha2Encrypt_eq_ok hm
    rw [hkey] at henc
    exact ⟨key, random, hkey, henc⟩

theorem curve25519AesSha2Decrypt_eq_ok_iff {message : Curve25519AesSha2Encrypted}
    {privateKey plaintext : Str} :
    curve25519AesSha2Decrypt olm message.ciphertext privateKey message.ephemeral message.mac =
        .ok plaintext ↔
      olm.pkDecrypt (((olm.pkKeyFromPrivate privateKey).map Prod.fst).getD olm.initialPkKeyPair)
        message.ephemeral message.mac message.ciphertext = some plaintext := by
  rw [curve25519AesSha2Decrypt]
  split <;> simp_all

/-- A private key that is accepted decrypts as it should. -/
theorem decryptedWith_iff_of_accepted (laws : PkLaws olm) {privateKey : Str}
    (h : olm.acceptsPrivateKeyLength privateKey.length = true)
    (message : Curve25519AesSha2Encrypted) (plaintext : Str) :
    curve25519AesSha2Decrypt olm message.ciphertext privateKey message.ephemeral message.mac =
      .ok plaintext ↔ DecryptedWith olm privateKey message plaintext := by
  rw [← laws.private_key, Option.isSome_iff_exists] at h
  obtain ⟨⟨key, pubkey⟩, hkey⟩ := h
  rw [curve25519AesSha2Decrypt_eq_ok_iff, DecryptedWith, hkey]
  simp

/-- One that is refused decrypts with the key nobody set. -/
theorem decrypt_of_refused (laws : PkLaws olm) {privateKey : Str}
    (h : ¬ olm.acceptsPrivateKeyLength privateKey.length = true)
    (message : Curve25519AesSha2Encrypted) (plaintext : Str) :
    (curve25519AesSha2Decrypt olm message.ciphertext privateKey message.ephemeral message.mac =
        .ok plaintext ↔
      olm.pkDecrypt olm.initialPkKeyPair message.ephemeral message.mac message.ciphertext =
        some plaintext) ∧
      ¬ DecryptedWith olm privateKey message plaintext := by
  rw [← laws.private_key, Bool.not_eq_true, Option.isSome_eq_false_iff,
    Option.isNone_iff_eq_none] at h
  rw [curve25519AesSha2Decrypt_eq_ok_iff, DecryptedWith, h]
  simp

theorem decryptsWithKey_iff (laws : PkLaws olm) (message : Curve25519AesSha2Encrypted)
    (privateKey : Str) :
    DecryptsWithKey olm message privateKey ↔
      olm.acceptsPrivateKeyLength privateKey.length = true ∨
        olm.pkDecrypt olm.initialPkKeyPair message.ephemeral message.mac message.ciphertext =
          none := by
  by_cases h : olm.acceptsPrivateKeyLength privateKey.length = true
  · exact iff_of_true (fun plaintext ↦ (decryptedWith_iff_of_accepted laws h message plaintext).mp)
      (Or.inl h)
  · have hrefused := decrypt_of_refused laws h message
    rw [or_iff_right h, Option.eq_none_iff_forall_ne_some]
    exact forall_congr' fun plaintext ↦ by
      rw [(hrefused plaintext).1]
      exact imp_congr_right fun _ ↦ iff_of_false (hrefused plaintext).2 id

theorem publicKeyOf_iff (laws : PkLaws olm) (privateKey : Str) :
    PublicKeyOf olm privateKey ↔ olm.acceptsPrivateKeyLength privateKey.length = true := by
  rw [← laws.private_key, PublicKeyOf, curve25519PublicKeyFromPrivate]
  cases olm.pkKeyFromPrivate privateKey with
  | none => simp
  | some key => exact iff_of_true ⟨key.1, rfl⟩ rfl

/-! ## When the given key is used for a session -/

theorem encryptsSessionToKey_iff (laws : PkLaws olm) (data : SessionData) (publicKey : Str)
    (w : World) :
    EncryptsSessionToKey olm json data publicKey w ↔
      olm.pkKeyLength ≤ publicKey.length ∨ data.toJson.validUtf8 = false := by
  cases hutf8 : data.toJson.validUtf8 with
  | false =>
    refine iff_of_true (fun message w' hm ↦ ?_) (Or.inr rfl)
    simp only [encryptSession, olmM_bind_eq_ok_iff, olmM_liftM_eq_ok_iff,
      JsonText.dump_eq_ok_iff] at hm
    obtain ⟨text, w₁, ⟨⟨htrue, -⟩, -⟩, -⟩ := hm
    rw [hutf8] at htrue
    cases htrue
  | true =>
    have hdump := json.dump_of_validUtf8 hutf8
    rw [or_iff_left (by simp), ← encryptsToKey_iff laws (json.text data.toJson) publicKey w]
    have hrun : encryptSession olm json data publicKey w =
        curve25519AesSha2Encrypt olm (json.text data.toJson) publicKey w := by
      rw [encryptSession, olmM_bind_of_ok (olmM_liftM_eq_ok_iff.mpr ⟨hdump, rfl⟩)]
    rw [EncryptsSessionToKey, EncryptsToKey, hrun, hdump]
    simp

theorem decryptsSessionWithKey_iff (laws : PkLaws olm) (message : Curve25519AesSha2Encrypted)
    (privateKey : Str) :
    DecryptsSessionWithKey olm json message privateKey ↔
      olm.acceptsPrivateKeyLength privateKey.length = true ∨
        ∀ text, olm.pkDecrypt olm.initialPkKeyPair message.ephemeral message.mac
            message.ciphertext = some text →
          ∀ data, (json.parse text >>= SessionData.fromJson) ≠ .ok data := by
  have hok : ∀ data, decryptSession olm json message privateKey = .ok data ↔
      ∃ text, curve25519AesSha2Decrypt olm message.ciphertext privateKey message.ephemeral
        message.mac = .ok text ∧ (json.parse text >>= SessionData.fromJson) = .ok data :=
    fun data ↦ bind_eq_ok_iff
  simp only [DecryptsSessionWithKey, hok]
  by_cases h : olm.acceptsPrivateKeyLength privateKey.length = true
  · refine iff_of_true ?_ (Or.inl h)
    rintro data ⟨text, htext, hdata⟩
    exact ⟨text, (decryptedWith_iff_of_accepted laws h message text).mp htext, hdata⟩
  · have hrefused := decrypt_of_refused laws h message
    rw [or_iff_right h]
    constructor
    · intro hall text htext data hdata
      obtain ⟨text', hwith, -⟩ := hall data ⟨text, ((hrefused text).1).mpr htext, hdata⟩
      exact (hrefused text').2 hwith
    · rintro hnone data ⟨text, htext, hdata⟩
      exact absurd hdata (hnone text (((hrefused text).1).mp htext) data)

/-- **The key backup uses the given key and no other exactly if libolm accepts that key**, or if the
message is nothing that the key nobody set decrypts. -/
theorem keyBackup_iff (olm : Libolm) (json : JsonText) (laws : PkLaws olm) :
    (∀ plaintext publicKey w, EncryptsToKey olm plaintext publicKey w ↔
      olm.pkKeyLength ≤ publicKey.length) ∧
    (∀ data publicKey w, EncryptsSessionToKey olm json data publicKey w ↔
      olm.pkKeyLength ≤ publicKey.length ∨ data.toJson.validUtf8 = false) ∧
    (∀ message privateKey, DecryptsWithKey olm message privateKey ↔
      olm.acceptsPrivateKeyLength privateKey.length = true ∨
        olm.pkDecrypt olm.initialPkKeyPair message.ephemeral message.mac message.ciphertext =
          none) ∧
    (∀ message privateKey, DecryptsSessionWithKey olm json message privateKey ↔
      olm.acceptsPrivateKeyLength privateKey.length = true ∨
        ∀ text, olm.pkDecrypt olm.initialPkKeyPair message.ephemeral message.mac
            message.ciphertext = some text →
          ∀ data, (json.parse text >>= SessionData.fromJson) ≠ .ok data) ∧
    ∀ privateKey, PublicKeyOf olm privateKey ↔
      olm.acceptsPrivateKeyLength privateKey.length = true :=
  ⟨encryptsToKey_iff laws, encryptsSessionToKey_iff json laws, decryptsWithKey_iff laws,
    decryptsSessionWithKey_iff json laws, publicKeyOf_iff laws⟩

/-! ## Examples -/

theorem pkLaws_sampleOlm : PkLaws sampleOlm where
  short := by decide
  recipient key := by
    by_cases h : 43 ≤ key.length <;> simp [sampleOlm, h]
  encrypt key plaintext random h := by
    have hlength : 32 ≤ random.length := h.ge
    simp [sampleOlm, hlength]
  private_key key := by
    by_cases h : 32 ≤ key.length <;> simp [sampleOlm, h]

/-- A public key and a private key of the right length are used. -/
theorem keyBackup_sampleOlm :
    PkLaws sampleOlm ∧ EncryptsToKey sampleOlm "secret" sampleIdentityKey ones ∧
      PublicKeyOf sampleOlm (List.replicate 32 7) :=
  have h := keyBackup_iff sampleOlm (knownTexts []) pkLaws_sampleOlm
  ⟨pkLaws_sampleOlm, (h.1 _ _ _).mpr (by decide), (h.2.2.2.2 _).mpr (by decide)⟩

/-- **With keys that libolm refuses, messages are encrypted to and decrypted with the key that
nobody set**, and the public key is a row of zeros. -/
theorem refused_keys_not_used :
    (curve25519AesSha2Encrypt sampleOlm "secret" "short" ones).toOption.map (·.1.ciphertext) =
        some (List.replicate 32 0 ++ lit "secret") ∧
      ¬ EncryptsToKey sampleOlm "secret" "short" ones ∧
      curve25519AesSha2Decrypt sampleOlm (List.replicate 32 0 ++ lit "secret") [] [] [] =
        .ok "secret" ∧
      ¬ DecryptsWithKey sampleOlm ⟨List.replicate 32 0 ++ lit "secret", [], []⟩ [] ∧
      curve25519PublicKeyFromPrivate sampleOlm [] = List.replicate 43 0 ∧
      ¬ PublicKeyOf sampleOlm [] := by
  have hdecrypt : curve25519AesSha2Decrypt sampleOlm (List.replicate 32 0 ++ lit "secret") [] [] []
      = .ok "secret" := by rfl
  refine ⟨by rfl, fun h ↦ ?_, hdecrypt, fun h ↦ ?_, by rfl, ?_⟩
  · exact absurd ((encryptsToKey_iff pkLaws_sampleOlm _ _ _).mp h) (by decide)
  · exact (decrypt_of_refused pkLaws_sampleOlm (by decide) _ _).2 (h _ hdecrypt)
  · rw [publicKeyOf_iff pkLaws_sampleOlm]
    decide

end Mtx.Crypto
