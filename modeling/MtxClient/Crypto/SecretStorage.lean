import MtxClient.Crypto.Base58
import MtxClient.Crypto.Passphrase
import MtxClient.Json.ReadBack

/-!
# Keys for secret storage

`create_ssss_key` makes a key for secret storage, from a passphrase or at random, and a description
of it by which it can be recognised.  The key is unlocked by the passphrase (`key_from_passphrase`)
or by a recovery key, which is the key itself in base58 (`key_from_recoverykey`); both check the key
against the description.

All three do the derivation and the check on their own.  `unlocks` says that they agree.
-/

set_option autoImplicit false

namespace Mtx.Crypto

open Str

/-! ## Writing key descriptions -/

/-- `to_json(PBKDF2)`. -/
def PBKDF2.toJson (desc : PBKDF2) : Json :=
  Json.ofMembers <| Json.noMembers
    |>.insert "algorithm" (.string desc.algorithm)
    |>.insert "salt" (.string desc.salt)
    |>.insert "iterations" (.numberUnsigned desc.iterations.toUInt64)
    |>.insert "bits" (.numberUnsigned desc.bits.toUInt64)

/-- `to_json(AesHmacSha2KeyDescription)`. -/
def AesHmacSha2KeyDescription.toJson (desc : AesHmacSha2KeyDescription) : Json :=
  Json.ofMembers <| Json.noMembers
    |>.insert "name" (.string desc.name)
    |>.insert "algorithm" (.string desc.algorithm)
    |>.insertIf desc.passphrase.isSome "passphrase" (desc.passphrase.elim .null PBKDF2.toJson)
    |>.insertIf (!desc.iv.isEmpty) "iv" (.string desc.iv)
    |>.insertIf (!desc.mac.isEmpty) "mac" (.string desc.mac)
    |>.insertIf (!desc.signatures.entries.isEmpty) "signatures" (signaturesToJson desc.signatures)

theorem PBKDF2.fromJson_toJson (desc : PBKDF2) : PBKDF2.fromJson desc.toJson = .ok desc := by
  have hobject : desc.toJson.isObject = true :=
    Json.isObject_ofMembers (k := lit "bits") (by simp; rfl)
  have halg : desc.toJson.atKey "algorithm" = .ok (.string desc.algorithm) :=
    Json.atKey_ofMembers (by simp)
  have hsalt : desc.toJson.atKey "salt" = .ok (.string desc.salt) := Json.atKey_ofMembers (by simp)
  have hiter : desc.toJson.atKey "iterations" = .ok (.numberUnsigned desc.iterations.toUInt64) :=
    Json.atKey_ofMembers (by simp)
  have hbits : desc.toJson.optional "bits" Json.getUInt32 256 = .ok desc.bits :=
    (Json.optional_ofMembers (v := .numberUnsigned desc.bits.toUInt64) (by simp) _).trans
      (by simp [Json.getUInt32])
  rw [fromJson, halg, hsalt, hiter, Json.value_eq_optional hobject, hbits]
  simp [Json.getUInt32]

theorem AesHmacSha2KeyDescription.fromJson_toJson (desc : AesHmacSha2KeyDescription) :
    AesHmacSha2KeyDescription.fromJson desc.toJson = .ok desc := by
  have hobject : desc.toJson.isObject = true :=
    Json.isObject_ofMembers (k := lit "name") (v := .string desc.name) (by simp)
  have hname : desc.toJson.optional "name" Json.getString "" = .ok desc.name :=
    (Json.optional_ofMembers (v := .string desc.name) (by simp) _).trans rfl
  have halg : desc.toJson.atKey "algorithm" = .ok (.string desc.algorithm) :=
    Json.atKey_ofMembers (by simp)
  have hpassphrase : desc.toJson.optional "passphrase" (fun j ↦ some <$> PBKDF2.fromJson j) none =
      .ok desc.passphrase := by
    refine Json.optional_insertIf (c := desc.passphrase.isSome) (by simp; rfl) (fun h ↦ ?_)
      fun h ↦ (Option.isNone_iff_eq_none.mp (by simpa using h)).symm
    obtain ⟨p, hp⟩ := Option.isSome_iff_exists.mp h
    rw [hp, Option.elim_some, PBKDF2.fromJson_toJson]
    rfl
  have hiv : desc.toJson.optional "iv" Json.getString "" = .ok desc.iv :=
    Json.optional_insertIf (c := !desc.iv.isEmpty) (v := .string desc.iv) (by simp)
      (fun _ ↦ rfl) fun h ↦ (List.isEmpty_iff.mp (by simpa using h)).symm
  have hmac : desc.toJson.optional "mac" Json.getString "" = .ok desc.mac :=
    Json.optional_insertIf (c := !desc.mac.isEmpty) (v := .string desc.mac) (by simp)
      (fun _ ↦ rfl) fun h ↦ (List.isEmpty_iff.mp (by simpa using h)).symm
  have hget : ∀ m : SortedMap Str Str, (Json.ofMap .string m).getMap Json.getString = .ok m :=
    Json.getMap_ofMap fun _ ↦ rfl
  have hsignatures : desc.toJson.optional "signatures" (Json.getMap (Json.getMap Json.getString))
      SortedMap.empty = .ok desc.signatures :=
    Json.optional_insertIf (c := !desc.signatures.entries.isEmpty)
      (v := signaturesToJson desc.signatures) (by simp)
      (fun _ ↦ Json.getMap_ofMap hget desc.signatures) fun h ↦ by
        have hempty : desc.signatures.entries = [] := List.isEmpty_iff.mp (by simpa using h)
        ext k : 1
        rw [SortedMap.find?, SortedMap.find?, hempty]
        rfl
  rw [fromJson, Json.value_eq_optional hobject, Json.value_eq_optional hobject,
    Json.value_eq_optional hobject, hname, halg, hpassphrase, hiv, hmac, hsignatures]
  rfl

/-! ## Recovery keys -/

variable (openssl : Openssl)

/-- `key_to_recoverykey`. -/
def keyToRecoverykey (key : Str) : Str :=
  let parity := key.foldl (· ^^^ ·) (0x8b ^^^ 0x01)
  bin2base58 (0x8b :: 0x01 :: key ++ [parity])

/-- `key_from_recoverykey`. -/
def keyFromRecoverykey (recoverykey : Str) (parameters : AesHmacSha2KeyDescription) :
    Except Exn (Option Str) := do
  let tempKey := base582bin recoverykey
  if tempKey.length < 3 ∨ tempKey.getD 0 0 ≠ 0x8b ∨ tempKey.getD 1 0 ≠ 0x01 then return none else
  let parity := tempKey.dropLast.foldl (· ^^^ ·) 0
  if parity ≠ tempKey.getLastD 0 then return none else
  let decryptionKey := tempKey.dropLast.drop 2
  -- verify key
  if ← checkKey openssl parameters decryptionKey then return some decryptionKey else return none

/-! ## Making a key -/

/-- `compatible_iv`: set bit 63 to 0. -/
def compatibleIv (iv : Str) : Str := iv.modify 8 (· &&& 0x7f)

/-- `AES_CTR_256_Encrypt`, whose result is written over random bytes. -/
def aesCtr256Encrypt (plaintext aes256Key iv : Str) : OlmM Str := do
  let _ ← newBuffer (plaintext.length + 16)
  aesCtr256 openssl plaintext aes256Key iv

/-- `OlmClient::SSSSSetup`. -/
structure SSSSSetup where
  keyDescription : AesHmacSha2KeyDescription
  privateKey : Str

/-- The first half of `create_ssss_key`: the key, and how it is derived. -/
def deriveSsssKey (password : Str) : OlmM (Str × Option PBKDF2) := do
  if password.isEmpty then return (← newBuffer 32, none)
  else
    let pbkdf2 : PBKDF2 := {
      algorithm := "m.pbkdf2"
      iterations := 630000
      bits := 256
      salt := bin2base64 (← newBuffer 32) }
    let privateKey :=
      pbkdf2HmacSha512 openssl password pbkdf2.salt pbkdf2.iterations (pbkdf2.bits / 8)
    return (privateKey, some pbkdf2)

/-- The second half of `create_ssss_key`: the description of the key. -/
def describeSsssKey (privateKey : Str) (passphrase : Option PBKDF2) : OlmM SSSSSetup := do
  let name := bin2base58 (← newBuffer 16)
  let iv := bin2base64 (compatibleIv (← newBuffer 16))
  let testKeys ← hkdfSha256 openssl privateKey (List.replicate 32 0) []
  let encrypted ← aesCtr256Encrypt openssl (List.replicate 32 0) testKeys.aes (base642bin iv)
  let mac := bin2base64 (openssl.hmac testKeys.mac encrypted)
  return {
    privateKey
    keyDescription :=
      { name, algorithm := "m.secret_storage.v1.aes-hmac-sha2", passphrase, iv, mac } }

/-- `OlmClient::create_ssss_key`. -/
def createSsssKey (password : Str) : OlmM SSSSSetup := do
  let (privateKey, passphrase) ← deriveSsssKey openssl password
  describeSsssKey openssl privateKey passphrase

/-! ## Unlocking -/

variable {openssl}

/-- The parity is that of the prefix and the key. -/
theorem foldl_xor_prefix (key : Str) :
    (0x8b :: 0x01 :: key).foldl (· ^^^ ·) (0 : UInt8) = key.foldl (· ^^^ ·) (0x8b ^^^ 0x01) := by
  rw [List.foldl_cons, List.foldl_cons, show (0 : UInt8) ^^^ 0x8b = 0x8b from rfl]

/-- The key whose recovery key is read. -/
theorem keyFromRecoverykey_eq {key recovery : Str} {parameters : AesHmacSha2KeyDescription}
    (hrecovery : recovery.filter (· != ' '.toUInt8) = keyToRecoverykey key)
    (hcheck : checkKey openssl parameters key = .ok true) :
    keyFromRecoverykey openssl recovery parameters = .ok (some key) := by
  have htemp : base582bin recovery =
      0x8b :: 0x01 :: key ++ [key.foldl (· ^^^ ·) (0x8b ^^^ 0x01)] :=
    base582bin_bin2base58 (by simp) (by simp) hrecovery
  have hdropLast : (0x8b :: 0x01 :: key ++ [key.foldl (· ^^^ ·) (0x8b ^^^ 0x01)]).dropLast =
      0x8b :: 0x01 :: key := List.dropLast_concat
  rw [keyFromRecoverykey, htemp, hdropLast, foldl_xor_prefix, List.getLastD_concat,
    if_neg (by simp), if_neg (by simp), show (0x8b :: 0x01 :: key).drop 2 = key from rfl]
  dsimp only
  rw [hcheck]
  rfl

/-- The test keys have the length that AES asks for. -/
theorem length_of_hkdfSha256 {key salt info : Str} {keys : HkdfKeys}
    (h : hkdfSha256 openssl key salt info = .ok keys) : keys.aes.length = 32 := by
  rw [hkdfSha256] at h
  split at h
  · obtain ⟨_, hlength, h⟩ := bind_eq_ok_iff.mp h
    rw [throwIf_eq_ok_iff, not_not] at hlength
    rw [← Except.ok.inj h, List.length_take, hlength]
    rfl
  · cases h

theorem hkdfSha256_eq_ok
    (hhkdf : ∀ key salt info, ∃ buf, openssl.hkdf key salt info = .ok buf ∧ buf.length = 64)
    (key salt info : Str) : ∃ keys, hkdfSha256 openssl key salt info = .ok keys := by
  obtain ⟨buf, hbuf, hlength⟩ := hhkdf key salt info
  refine ⟨{ aes := buf.take 32, mac := buf.drop 32 }, ?_⟩
  rw [hkdfSha256, hbuf]
  dsimp only
  rw [throwIf_of_not (by simpa using hlength)]
  rfl

/-- With a key and a vector that are long enough, as much of the text is encrypted as the cast of
its length leaves. -/
theorem aesCtr256_eq_ok_iff {text key iv r : Str} (hkey : 32 ≤ key.length)
    (hiv : 16 ≤ iv.length) :
    aesCtr256 openssl text key iv = .ok r ↔ 0 ≤ castInt text.length ∧
      openssl.aesCtr (text.take (castInt text.length).toNat) (key.take 32) (iv.take 16) = r := by
  have hkey' : key ≠ [] := List.ne_nil_of_length_pos (by omega)
  have hiv' : iv ≠ [] := List.ne_nil_of_length_pos (by omega)
  rw [aesCtr256, throwIf_of_not (by omega), ok_bind, if_neg hkey', if_neg hiv', bind_eq_ok_iff]
  simp only [throwIf_eq_ok_iff, not_lt, exists_const]
  exact and_congr_right fun _ ↦ ⟨Except.ok.inj, congrArg Except.ok⟩

/-- The calls of OpenSSL report no errors to the caller. -/
theorem eq_undefinedBehaviour_of_aesCtr256 {text key iv : Str} {e : Exn}
    (h : aesCtr256 openssl text key iv = .error e) : e = .undefinedBehaviour := by
  simp only [aesCtr256, throwIf] at h
  split_ifs at h <;> cases h <;> rfl

theorem aesCtr256_eq_ok {text key iv : Str} (hkey : 32 ≤ key.length) (hiv : 16 ≤ iv.length)
    (htext : text.length < 2 ^ 31) :
    aesCtr256 openssl text key iv = .ok (openssl.aesCtr text (key.take 32) (iv.take 16)) := by
  rw [aesCtr256_eq_ok_iff hkey hiv, castInt_eq htext, Int.toNat_natCast, List.take_length]
  exact ⟨Int.natCast_nonneg _, rfl⟩

theorem aesCtr256Encrypt_eq_ok {text key iv r : Str} (h : aesCtr256 openssl text key iv = .ok r)
    (w : World) : ∃ w', aesCtr256Encrypt openssl text key iv w = .ok (r, w') := by
  refine ⟨{ w with rng := (createBuffer (text.length + 16) w.rng).2 }, ?_⟩
  rw [aesCtr256Encrypt, olmM_bind_of_ok (newBuffer_apply _ w)]
  exact olmM_liftM_eq_ok_iff.mpr ⟨h, rfl⟩

/-- **Whatever is encrypted is the start of the text, with less than `2 ^ 31` bytes.** -/
theorem exists_of_aesCtr256Encrypt {text key iv r : Str} {w w' : World} (hkey : key.length = 32)
    (hiv : iv.length = 16) (h : aesCtr256Encrypt openssl text key iv w = .ok (r, w')) :
    ∃ part, part <+: text ∧ part.length < 2 ^ 31 ∧ r = openssl.aesCtr part key iv := by
  obtain ⟨_, w₁, -, h⟩ := olmM_bind_eq_ok_iff.mp h
  obtain ⟨h, -⟩ := olmM_liftM_eq_ok_iff.mp h
  obtain ⟨hnonneg, h⟩ := (aesCtr256_eq_ok_iff hkey.ge hiv.ge).mp h
  rw [List.take_of_length_le hkey.le, List.take_of_length_le hiv.le] at h
  refine ⟨_, List.take_prefix _ _, ?_, h.symm⟩
  have hlt := castInt_lt text.length
  rw [List.length_take]
  omega

theorem newBuffer_spec {n : ℕ} (h : n < 2 ^ 31) (w : World) :
    ∃ buf w', newBuffer n w = .ok (buf, w') ∧ buf.length = n :=
  ⟨_, _, newBuffer_apply n w, length_createBuffer h w.rng⟩

/-- **The description that is made of a key fits that key.** -/
theorem describeSsssKey_spec
    (hhkdf : ∀ key salt info, ∃ buf, openssl.hkdf key salt info = .ok buf ∧ buf.length = 64)
    (privateKey : Str) (passphrase : Option PBKDF2) (w : World) :
    ∃ name iv mac w', describeSsssKey openssl privateKey passphrase w = .ok ({
        privateKey
        keyDescription := {
          name := bin2base58 name
          algorithm := "m.secret_storage.v1.aes-hmac-sha2"
          passphrase
          iv := bin2base64 iv
          mac := bin2base64 mac } }, w') ∧
      ∀ desc : AesHmacSha2KeyDescription, desc.iv = bin2base64 iv → desc.mac = bin2base64 mac →
        checkKey openssl desc privateKey = .ok true := by
  obtain ⟨testKeys, htest⟩ := hkdfSha256_eq_ok hhkdf privateKey (List.replicate 32 0) []
  obtain ⟨name, w₁, hname, -⟩ := newBuffer_spec (n := 16) (by decide) w
  obtain ⟨iv, w₂, hiv, hlength⟩ := newBuffer_spec (n := 16) (by decide) w₁
  have hlength : (compatibleIv iv).length = 16 := by rw [compatibleIv, List.length_modify, hlength]
  obtain ⟨encrypted, hencrypted⟩ : ∃ encrypted,
      aesCtr256 openssl (List.replicate 32 0) testKeys.aes (compatibleIv iv) = .ok encrypted :=
    ⟨_, aesCtr256_eq_ok (length_of_hkdfSha256 htest).ge hlength.ge (by decide)⟩
  obtain ⟨w₃, hencrypt⟩ := aesCtr256Encrypt_eq_ok hencrypted w₂
  refine ⟨name, compatibleIv iv, openssl.hmac testKeys.mac encrypted, w₃, ?_,
    fun desc hdesc hmac ↦ ?_⟩
  · rw [describeSsssKey, olmM_bind_of_ok hname, olmM_bind_of_ok hiv,
      olmM_bind_of_ok (olmM_liftM_eq_ok_iff.mpr ⟨htest, rfl⟩), base642bin_bin2base64,
      olmM_bind_of_ok hencrypt]
    rfl
  · rw [checkKey, htest, ok_bind, hdesc, base642bin_bin2base64, hencrypted, ok_bind, hmac,
      base642bin_bin2base64, beq_self_eq_true]
    rfl

/-- The key is derived from the passphrase as the description says. -/
theorem deriveSsssKey_spec (openssl : Openssl) (password : Str) (w : World) :
    ∃ key passphrase w', deriveSsssKey openssl password w = .ok ((key, passphrase), w') ∧
      (password ≠ [] → ∃ salt,
        key = pbkdf2HmacSha512 openssl password (bin2base64 salt) 630000 (256 / 8) ∧
        passphrase = some {
          algorithm := "m.pbkdf2", iterations := 630000, bits := 256, salt := bin2base64 salt }) ∧
      (password = [] → passphrase = none) := by
  obtain ⟨buf, w', hbuf, -⟩ := newBuffer_spec (n := 32) (by decide) w
  rcases password with - | ⟨b, password⟩
  · refine ⟨buf, none, w', ?_, fun h ↦ absurd rfl h, fun _ ↦ rfl⟩
    rw [deriveSsssKey, if_pos (by simp), olmM_bind_of_ok hbuf]
    rfl
  · refine ⟨_, _, w', ?_, fun _ ↦ ⟨buf, rfl, rfl⟩, fun h ↦ absurd h (List.cons_ne_nil _ _)⟩
    rw [deriveSsssKey, if_neg (by simp), olmM_bind_of_ok hbuf]
    rfl

/-! ## The description as text -/

theorem validUtf8_bin2base64 (bin : Str) : validUtf8 (bin2base64 bin) = true := by
  refine validUtf8_of_ascii fun b hb ↦ ?_
  rcases List.mem_append.mp hb with hb | hb
  · exact ascii_base64Letters b
      (mem_letters_of_mem_encodeGroups base64Alphabet bin b (List.mem_of_mem_take hb))
  · rw [List.eq_of_mem_replicate hb]
    decide

theorem PBKDF2.validUtf8_toJson {desc : PBKDF2} (halg : validUtf8 desc.algorithm = true)
    (hsalt : validUtf8 desc.salt = true) : desc.toJson.validUtf8 = true :=
  Json.validUtf8_ofMembers ((((SortedMap.All.empty.insert ⟨by decide, halg⟩).insert
    ⟨by decide, hsalt⟩).insert ⟨by decide, rfl⟩).insert ⟨by decide, rfl⟩)

theorem AesHmacSha2KeyDescription.validUtf8_toJson {desc : AesHmacSha2KeyDescription}
    (hname : validUtf8 desc.name = true) (halg : validUtf8 desc.algorithm = true)
    (hiv : validUtf8 desc.iv = true) (hmac : validUtf8 desc.mac = true)
    (hsignatures : desc.signatures = SortedMap.empty)
    (hpassphrase : ∀ p, desc.passphrase = some p →
      validUtf8 p.algorithm = true ∧ validUtf8 p.salt = true) :
    desc.toJson.validUtf8 = true := by
  refine Json.validUtf8_ofMembers ((((((SortedMap.All.empty.insert ⟨by decide, hname⟩).insert
    ⟨by decide, halg⟩).insertIf ⟨by decide, ?_⟩).insertIf ⟨by decide, hiv⟩).insertIf
    ⟨by decide, hmac⟩).insertIf ⟨by decide, by rw [hsignatures]; rfl⟩)
  rcases h : desc.passphrase with - | p
  · rfl
  · obtain ⟨hpalg, hsalt⟩ := hpassphrase p h
    exact PBKDF2.validUtf8_toJson hpalg hsalt

/-- The description after it has been written and read again. -/
def reread (json : JsonText) (desc : AesHmacSha2KeyDescription) :
    Except Exn AesHmacSha2KeyDescription := do
  let text ← json.dump desc.toJson
  AesHmacSha2KeyDescription.fromJson (← json.parse text)

theorem reread_eq_ok {json : JsonText} {desc : AesHmacSha2KeyDescription}
    (hutf8 : desc.toJson.validUtf8 = true) (hjson : json.Restores desc.toJson) :
    reread json desc = .ok desc := by
  rw [reread, json.dump_of_validUtf8 hutf8, ok_bind, hjson, ok_bind,
    AesHmacSha2KeyDescription.fromJson_toJson]

/-- **A new key is unlocked by its passphrase and by its recovery key.**  The description goes
through its JSON text, and the recovery key may have spaces anywhere. -/
theorem unlocks (openssl : Openssl) (json : JsonText)
    (hhkdf : ∀ key salt info, ∃ buf, openssl.hkdf key salt info = .ok buf ∧ buf.length = 64)
    (password : Str) (w : World)
    (hjson : ∀ s w', createSsssKey openssl password w = .ok (s, w') →
      json.Restores s.keyDescription.toJson) :
    ∃ s w' d, createSsssKey openssl password w = .ok (s, w') ∧
      reread json s.keyDescription = .ok d ∧
      (password ≠ [] → keyFromPassphrase openssl password d = .ok (some s.privateKey)) ∧
      ∀ recovery, recovery.filter (· != ' '.toUInt8) = keyToRecoverykey s.privateKey →
        keyFromRecoverykey openssl recovery d = .ok (some s.privateKey) := by
  obtain ⟨key, passphrase, w₁, hderive, hsome, hnone⟩ := deriveSsssKey_spec openssl password w
  obtain ⟨name, iv, mac, w₂, hdescribe, hcheck⟩ := describeSsssKey_spec hhkdf key passphrase w₁
  have hcreate : createSsssKey openssl password w = describeSsssKey openssl key passphrase w₁ := by
    rw [createSsssKey, olmM_bind_of_ok hderive]
  rw [hdescribe] at hcreate
  have halg : validUtf8 (lit "m.secret_storage.v1.aes-hmac-sha2") = true := by decide
  have hpalg : validUtf8 (lit "m.pbkdf2") = true := by decide
  refine ⟨_, w₂, _, hcreate, reread_eq_ok (AesHmacSha2KeyDescription.validUtf8_toJson
    (validUtf8_of_ascii (ascii_bin2base58 name)) halg (validUtf8_bin2base64 iv)
    (validUtf8_bin2base64 mac) rfl fun p hp ↦ ?_) (hjson _ _ hcreate), fun hne ↦ ?_,
    fun recovery hrecovery ↦ keyFromRecoverykey_eq hrecovery (hcheck _ rfl rfl)⟩
  · by_cases hne : password = []
    · cases (hnone hne).symm.trans hp
    · obtain ⟨salt, -, hsalt⟩ := hsome hne
      obtain rfl := Option.some.inj (hsalt.symm.trans hp)
      exact ⟨hpalg, validUtf8_bin2base64 salt⟩
  · obtain ⟨salt, hkey, hsalt⟩ := hsome hne
    exact keyFromPassphrase_eq_some_iff.mpr ⟨_, hsalt, rfl, hkey.symm, hcheck _ rfl rfl⟩

/-! ## An example -/

/-- The test keys of the key that is derived from the passphrase `secret` with random numbers that
are ones. -/
def onesTestKeys : Str := base642bin "D3XA7E+DKXmOhKJl5YEkLcD0tv3YqdkAgZN/qNvzao0=" ++
  base642bin "i6XDC9cAmTiFXnQ7izSEqyIoJ3JPpz1yB1t4XAdLms0="

theorem length_onesTestKeys : onesTestKeys.length = 64 := by decide +kernel

/-- What OpenSSL answers for that key. -/
def onesOpenssl : Openssl where
  pbkdf2 _ _ _ keylen := (base642bin "kfjkV/Np1Vmzm1p6eQwdFixz71fGbykp7Xyb+rkN/HA=").takeD keylen 0
  length_pbkdf2 _ _ _ keylen := List.takeD_length keylen _ 0
  hmac _ _ := base642bin "K6KjMWLjddL4sbYMiZk/qqzrD7NTOQSvz64GpuHEIGY="
  hkdf _ _ _ := .ok onesTestKeys
  aesCtr _ _ _ := base642bin "yNjMdgQIvqN+EC/Z8wjzIyHikrNVWiFnV9xhtXrh2vA="

/-- The description of the key that is made of them. -/
def onesDescription : Json :=
  match createSsssKey onesOpenssl "secret" ones with
  | .ok (s, _) => s.keyDescription.toJson
  | .error _ => .null

theorem restores_onesDescription (s : SSSSSetup) (w' : World)
    (h : createSsssKey onesOpenssl "secret" ones = .ok (s, w')) :
    (knownTexts [onesDescription]).Restores s.keyDescription.toJson := by
  have hdesc : onesDescription = s.keyDescription.toJson := by
    unfold onesDescription
    rw [h]
  rw [hdesc]
  exact restores_knownTexts _

theorem unlocks_secret :
    (∀ key salt info, ∃ buf, onesOpenssl.hkdf key salt info = .ok buf ∧ buf.length = 64) ∧
    ∃ s w' d, createSsssKey onesOpenssl "secret" ones = .ok (s, w') ∧
      reread (knownTexts [onesDescription]) s.keyDescription = .ok d ∧
      keyFromPassphrase onesOpenssl "secret" d = .ok (some s.privateKey) ∧
      ∀ recovery, recovery.filter (· != ' '.toUInt8) = keyToRecoverykey s.privateKey →
        keyFromRecoverykey onesOpenssl recovery d = .ok (some s.privateKey) := by
  have hhkdf : ∀ key salt info, ∃ buf,
      onesOpenssl.hkdf key salt info = .ok buf ∧ buf.length = 64 :=
    fun _ _ _ ↦ ⟨onesTestKeys, rfl, length_onesTestKeys⟩
  obtain ⟨s, w', d, hcreate, hreread, hpassphrase, hrecovery⟩ :=
    unlocks onesOpenssl (knownTexts [onesDescription]) hhkdf "secret" ones
      restores_onesDescription
  exact ⟨hhkdf, s, w', d, hcreate, hreread, hpassphrase (by decide), hrecovery⟩

end Mtx.Crypto
