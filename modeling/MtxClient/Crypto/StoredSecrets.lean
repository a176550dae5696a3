import MtxClient.Crypto.AesCalls

/-!
# Secrets in secret storage

`encrypt` encrypts a secret under two keys that are derived from the storage key and the name of the
secret, one for AES and one for the HMAC of the ciphertext.  `decrypt` derives the same keys, and
only decrypts if the HMAC is right; otherwise it returns an empty text.

The sizes that are handed to OpenSSL are cast to `int`, so that `storedSecret_iff` has the same
limit as `exports_iff` and `attachment_iff`.
-/

set_option autoImplicit false

namespace Mtx.Crypto

open Str

/-- `AesHmacSha2EncryptedData`. -/
structure AesHmacSha2EncryptedData where
  iv : Str
  ciphertext : Str
  mac : Str

/-- `to_json(AesHmacSha2EncryptedData)`. -/
def AesHmacSha2EncryptedData.toJson (data : AesHmacSha2EncryptedData) : Json :=
  Json.ofMembers <| Json.noMembers
    |>.insert "iv" (.string data.iv)
    |>.insert "ciphertext" (.string data.ciphertext)
    |>.insert "mac" (.string data.mac)

/-- `from_json(AesHmacSha2EncryptedData)`. -/
def AesHmacSha2EncryptedData.fromJson (obj : Json) : Except Exn AesHmacSha2EncryptedData := do
  let iv ← (← obj.atKey "iv").getString
  let ciphertext ← (← obj.atKey "ciphertext").getString
  let mac ← (← obj.atKey "mac").getString
  return { iv, ciphertext, mac }

theorem AesHmacSha2EncryptedData.fromJson_toJson (data : AesHmacSha2EncryptedData) :
    AesHmacSha2EncryptedData.fromJson data.toJson = .ok data := by
  simp [fromJson, toJson, Json.atKey_eq]

theorem AesHmacSha2EncryptedData.validUtf8_toJson {data : AesHmacSha2EncryptedData}
    (hiv : validUtf8 data.iv = true) (hciphertext : validUtf8 data.ciphertext = true)
    (hmac : validUtf8 data.mac = true) : data.toJson.validUtf8 = true :=
  Json.validUtf8_ofMembers (((SortedMap.All.empty.insert ⟨by decide, hiv⟩).insert
    ⟨by decide, hciphertext⟩).insert ⟨by decide, hmac⟩)

/-- The data after they have been written and read again. -/
def rereadSecret (json : JsonText) (data : AesHmacSha2EncryptedData) :
    Except Exn AesHmacSha2EncryptedData := do
  let text ← json.dump data.toJson
  AesHmacSha2EncryptedData.fromJson (← json.parse text)

variable (openssl : Openssl)

/-- `decrypt`. -/
def decrypt (data : AesHmacSha2EncryptedData) (decryptionKey key_name : Str) :
    Traced AesCall Exn Str := do
  let keys ← hkdfSha256 openssl decryptionKey (List.replicate 32 0) key_name
  let keyMac := openssl.hmac keys.mac (base642bin data.ciphertext)
  if keyMac ≠ base642bin data.mac then return [] else
  callAes openssl (base642bin data.ciphertext) keys.aes (base642bin data.iv)

/-- `encrypt`. -/
def encrypt (data decryptionKey key_name : Str) : OlmM AesHmacSha2EncryptedData := do
  let iv := compatibleIv (← newBuffer 16)
  let keys ← hkdfSha256 openssl decryptionKey (List.replicate 32 0) key_name
  let ciphertext ← aesCtr256Encrypt openssl data keys.aes iv
  return {
    iv := bin2base64 iv
    ciphertext := bin2base64 ciphertext
    mac := bin2base64 (openssl.hmac keys.mac ciphertext) }

/-! ## What is expected of them -/

/-- The decoded HMAC is that of the decoded ciphertext, under the key that is derived for it. -/
def Authentic (data : AesHmacSha2EncryptedData) (decryptionKey key_name : Str) : Prop :=
  ∃ keys, hkdfSha256 openssl decryptionKey (List.replicate 32 0) key_name = .ok keys ∧
    openssl.hmac keys.mac (base642bin data.ciphertext) = base642bin data.mac

/-- The secret is encrypted, and decrypted again, also when what was encrypted is written and read
in between. -/
def StoresSecret (json : JsonText) (secret decryptionKey key_name : Str) (w : World) : Prop :=
  ∃ data w', encrypt openssl secret decryptionKey key_name w = .ok (data, w') ∧
    (decrypt openssl data decryptionKey key_name).result = .ok secret ∧
    ∃ data', rereadSecret json data = .ok data' ∧
      (decrypt openssl data' decryptionKey key_name).result = .ok secret

variable {openssl}

/-! ## Decrypting -/

/-- AES is only called for what is authentic. -/
theorem calls_decrypt_iff {P : AesCall → Prop} {data : AesHmacSha2EncryptedData}
    {key key_name : Str} :
    (decrypt openssl data key key_name).Calls P ↔ ∀ keys,
      hkdfSha256 openssl key (List.replicate 32 0) key_name = .ok keys →
        openssl.hmac keys.mac (base642bin data.ciphertext) = base642bin data.mac →
          P ⟨base642bin data.ciphertext, keys.aes, base642bin data.iv⟩ := by
  rw [decrypt, Traced.calls_liftM_bind_iff]
  refine forall₂_congr fun keys _ ↦ ?_
  dsimp only
  split_ifs with h
  · exact iff_of_true (Traced.calls_pure _) fun hmac ↦ absurd hmac h
  · rw [callAes, Traced.calls_call_iff]
    exact ⟨fun hP _ ↦ hP, fun hP ↦ hP (not_not.mp h)⟩

/-- What `decrypt` does with the keys. -/
theorem result_decrypt {data : AesHmacSha2EncryptedData} {key key_name : Str} {keys : HkdfKeys}
    (hkeys : hkdfSha256 openssl key (List.replicate 32 0) key_name = .ok keys) :
    (decrypt openssl data key key_name).result =
      if openssl.hmac keys.mac (base642bin data.ciphertext) = base642bin data.mac then
        aesCtr256 openssl (base642bin data.ciphertext) keys.aes (base642bin data.iv)
      else .ok [] := by
  rw [decrypt, Traced.silent_bind_of_ok _ hkeys]
  dsimp only
  by_cases h : openssl.hmac keys.mac (base642bin data.ciphertext) = base642bin data.mac
  · rw [if_neg (not_not.mpr h), if_pos h]
    rfl
  · rw [if_pos h, if_neg h]
    rfl

/-- **Nothing is decrypted that is not authentic.** -/
theorem authentic_of_decrypt {data : AesHmacSha2EncryptedData} {key key_name secret : Str}
    (h : (decrypt openssl data key key_name).result = .ok secret) (hne : secret ≠ []) :
    Authentic openssl data key key_name := by
  rcases hkeys : hkdfSha256 openssl key (List.replicate 32 0) key_name with e | keys
  · rw [decrypt, Traced.silent_bind_of_error _ hkeys] at h
    cases h
  · rw [result_decrypt hkeys] at h
    split_ifs at h with hmac
    · exact ⟨keys, hkeys, hmac⟩
    · exact absurd (Except.ok.inj h).symm hne

/-! ## Round trip -/

/-- What `encrypt` does once it has the keys and a counter block. -/
theorem encrypt_eq (secret : Str) {key key_name : Str} {keys : HkdfKeys}
    (hkeys : hkdfSha256 openssl key (List.replicate 32 0) key_name = .ok keys) (w : World) :
    ∃ iv w', iv.length = 16 ∧ encrypt openssl secret key key_name w =
      (do
        let ciphertext ← aesCtr256Encrypt openssl secret keys.aes iv
        return {
          iv := bin2base64 iv
          ciphertext := bin2base64 ciphertext
          mac := bin2base64 (openssl.hmac keys.mac ciphertext) } :
            OlmM AesHmacSha2EncryptedData) w' := by
  obtain ⟨iv, w₁, hiv, hlength⟩ := newBuffer_spec (n := 16) (by decide) w
  refine ⟨compatibleIv iv, w₁, by rw [compatibleIv, List.length_modify, hlength], ?_⟩
  rw [encrypt, olmM_bind_of_ok hiv, olmM_bind_of_ok (olmM_liftM_eq_ok_iff.mpr ⟨hkeys, rfl⟩)]

/-- What was encrypted is decrypted. -/
theorem result_decrypt_encrypted (laws : openssl.Laws) {secret key key_name iv : Str}
    {keys : HkdfKeys}
    (hkeys : hkdfSha256 openssl key (List.replicate 32 0) key_name = .ok keys)
    (hiv : iv.length = 16) (hlength : secret.length < 2 ^ 31) :
    (decrypt openssl {
      iv := bin2base64 iv
      ciphertext := bin2base64 (openssl.aesCtr secret keys.aes iv)
      mac := bin2base64 (openssl.hmac keys.mac (openssl.aesCtr secret keys.aes iv)) }
        key key_name).result = .ok secret := by
  have haes := length_of_hkdfSha256 hkeys
  rw [result_decrypt hkeys]
  dsimp only
  rw [base642bin_bin2base64, base642bin_bin2base64, base642bin_bin2base64, if_pos rfl,
    aesCtr256_eq_ok haes.ge hiv.ge (by rwa [laws.length_aesCtr]),
    List.take_of_length_le haes.le, List.take_of_length_le hiv.le, laws.aesCtr_aesCtr]

/-- What is encrypted is the start of the secret, and that is what is decrypted again. -/
theorem exists_of_encrypt (laws : openssl.Laws) {secret key key_name : Str} {keys : HkdfKeys}
    (hkeys : hkdfSha256 openssl key (List.replicate 32 0) key_name = .ok keys)
    {data : AesHmacSha2EncryptedData} {w w' : World}
    (h : encrypt openssl secret key key_name w = .ok (data, w')) :
    ∃ part, part <+: secret ∧ part.length < 2 ^ 31 ∧
      (decrypt openssl data key key_name).result = .ok part := by
  obtain ⟨iv, w₁, hiv, hencrypt⟩ := encrypt_eq secret hkeys w
  rw [hencrypt] at h
  obtain ⟨_, w₂, hciphertext, hreturn⟩ := olmM_bind_eq_ok_iff.mp h
  obtain ⟨part, hpart, hshort, rfl⟩ :=
    exists_of_aesCtr256Encrypt (length_of_hkdfSha256 hkeys) hiv hciphertext
  obtain ⟨rfl, -⟩ := Prod.mk.inj (Except.ok.inj hreturn)
  exact ⟨part, hpart, hshort, result_decrypt_encrypted laws hkeys hiv hshort⟩

/-- **A secret that is too long is not read back.** -/
theorem length_lt_of_storesSecret {json : JsonText} (laws : openssl.Laws)
    {secret key key_name : Str} {keys : HkdfKeys} {w : World}
    (hkeys : hkdfSha256 openssl key (List.replicate 32 0) key_name = .ok keys)
    (h : StoresSecret openssl json secret key key_name w) : secret.length < 2 ^ 31 := by
  obtain ⟨data, w', hdata, hdecrypt, -⟩ := h
  obtain ⟨part, -, hshort, hpart⟩ := exists_of_encrypt laws hkeys hdata
  rwa [Except.ok.inj (hdecrypt.symm.trans hpart)]

/-- **Exactly the secrets of less than `2 ^ 31` bytes are stored so that they are read back**, and
whatever `decrypt` returns is authentic, unless it is empty. -/
theorem storedSecret_iff (openssl : Openssl) (json : JsonText) (laws : openssl.Laws)
    (hhkdf : ∀ key salt info, ∃ buf, openssl.hkdf key salt info = .ok buf ∧ buf.length = 64)
    (secret decryptionKey key_name : Str) (w : World)
    (hjson : ∀ data w', encrypt openssl secret decryptionKey key_name w = .ok (data, w') →
      json.Restores data.toJson) :
    (StoresSecret openssl json secret decryptionKey key_name w ↔ secret.length < 2 ^ 31) ∧
    ∀ data key name plaintext, (decrypt openssl data key name).result = .ok plaintext →
      plaintext ≠ [] → Authentic openssl data key name := by
  refine ⟨?_, fun data key name plaintext ↦ authentic_of_decrypt⟩
  obtain ⟨keys, hkeys⟩ := hkdfSha256_eq_ok hhkdf decryptionKey (List.replicate 32 0) key_name
  constructor
  · exact length_lt_of_storesSecret laws hkeys
  · intro hlength
    obtain ⟨iv, w₁, hiv, hencrypt⟩ := encrypt_eq secret hkeys w
    have haes := length_of_hkdfSha256 hkeys
    have hcipher : aesCtr256 openssl secret keys.aes iv =
        .ok (openssl.aesCtr secret (keys.aes.take 32) (iv.take 16)) :=
      aesCtr256_eq_ok haes.ge hiv.ge hlength
    rw [List.take_of_length_le haes.le, List.take_of_length_le hiv.le] at hcipher
    obtain ⟨w₂, hw₂⟩ := aesCtr256Encrypt_eq_ok hcipher w₁
    have hdata := hencrypt.trans (olmM_bind_of_ok hw₂)
    have hdecrypt := result_decrypt_encrypted laws hkeys hiv hlength
    refine ⟨_, w₂, hdata, hdecrypt, _, ?_, hdecrypt⟩
    rw [rereadSecret, json.dump_of_validUtf8 (AesHmacSha2EncryptedData.validUtf8_toJson
      (validUtf8_bin2base64 _) (validUtf8_bin2base64 _) (validUtf8_bin2base64 _)), ok_bind,
      hjson _ _ hdata, ok_bind, AesHmacSha2EncryptedData.fromJson_toJson]

/-! ## Examples -/

/-- The keys for the master key, under a storage key and with random numbers that are ones. -/
def masterKeys : Str := base642bin "+nhWvJ/7JrZ3zZlCi4rCDDbSU4PaKH0KzgQePt/a0fU=" ++
  base642bin "TTieHRsSUat8TRTznYc/GPiMu+n5w6ThV8G4bOlWBQ0="

theorem length_masterKeys : masterKeys.length = 64 := by decide +kernel

/-- The HMAC of the ciphertext `83 92` of `hi`. -/
def masterHmac : Str := base642bin "G0Ax1lg7hh3gCJqhH97RsNj6nqAfrf20erPtaULn9KM="

theorem length_masterHmac : masterHmac.length = 32 := by decide +kernel

theorem length_masterKey (_ _ : Str) (_ keylen : ℕ) :
    (List.replicate keylen (0 : UInt8)).length = keylen :=
  List.length_replicate

/-- What OpenSSL answers for them: the key stream starts with `eb fb`. -/
def masterOpenssl : Openssl where
  pbkdf2 _ _ _ keylen := List.replicate keylen 0
  length_pbkdf2 := length_masterKey
  hmac _ _ := masterHmac
  hkdf _ _ _ := .ok masterKeys
  aesCtr text _ _ := xorStream [0xeb, 0xfb] text

theorem laws_masterOpenssl : masterOpenssl.Laws :=
  laws_of_xorStream (fun _ _ ↦ [0xeb, 0xfb]) (fun _ _ _ ↦ rfl) fun _ _ ↦ by
    simp only [masterOpenssl, length_masterHmac]

theorem hkdf_masterOpenssl (key salt info : Str) :
    ∃ buf, masterOpenssl.hkdf key salt info = .ok buf ∧ buf.length = 64 :=
  ⟨masterKeys, rfl, length_masterKeys⟩

/-- What is written for `secret` under the key that consists of ones. -/
def masterData (secret : Str) : Json :=
  match encrypt masterOpenssl secret (List.replicate 32 1) "m.cross_signing.master" ones with
  | .ok (data, _) => data.toJson
  | .error _ => .null

theorem restores_masterData (secret : Str) (data : AesHmacSha2EncryptedData) (w' : World)
    (h : encrypt masterOpenssl secret (List.replicate 32 1) "m.cross_signing.master" ones =
      .ok (data, w')) : (knownTexts [masterData secret]).Restores data.toJson := by
  have hdata : masterData secret = data.toJson := by
    unfold masterData
    rw [h]
  rw [hdata]
  exact restores_knownTexts _

theorem storedSecret_hi :
    (StoresSecret masterOpenssl (knownTexts [masterData "hi"]) "hi" (List.replicate 32 1)
      "m.cross_signing.master" ones ↔ (lit "hi").length < 2 ^ 31) ∧
    ∀ data key name plaintext, (decrypt masterOpenssl data key name).result = .ok plaintext →
      plaintext ≠ [] → Authentic masterOpenssl data key name :=
  storedSecret_iff masterOpenssl (knownTexts [masterData "hi"]) laws_masterOpenssl
    hkdf_masterOpenssl "hi" (List.replicate 32 1) "m.cross_signing.master" ones
    (restores_masterData "hi")

/-- A secret of `2 ^ 31` bytes is not stored. -/
theorem long_secret_not_stored :
    ∃ secret, ¬ StoresSecret masterOpenssl (knownTexts [masterData secret]) secret
      (List.replicate 32 1) "m.cross_signing.master" ones := by
  have hlong : ∀ n, 2 ^ 31 ≤ n → ¬ StoresSecret masterOpenssl
      (knownTexts [masterData (List.replicate n 'a'.toUInt8)]) (List.replicate n 'a'.toUInt8)
      (List.replicate 32 1) "m.cross_signing.master" ones := by
    intro n hn h
    obtain ⟨keys, hkeys⟩ := hkdfSha256_eq_ok hkdf_masterOpenssl (List.replicate 32 1)
      (List.replicate 32 0) "m.cross_signing.master"
    have hlt := length_lt_of_storesSecret laws_masterOpenssl hkeys h
    rw [List.length_replicate] at hlt
    omega
  exact ⟨List.replicate (2 ^ 31) 'a'.toUInt8, hlong _ le_rfl⟩

end Mtx.Crypto
