import MtxClient.Crypto.DeviceKeys
import MtxClient.Crypto.KeyFile
import MtxClient.Crypto.Random
import MtxClient.Json.Undefined

/-!
# Keys derived from passphrases

`PBKDF2_HMAC_SHA_512` derives a key from a passphrase, and `decrypt_exported_sessions` and
`key_from_passphrase` check that it is the right one by the HMAC of something that was encrypted
with it.  The derivation fails if the number of rounds, which comes with the data, is not positive
as an `int`; nobody looks at that, and the key then consists of the zeros that the buffer was made
with.

So data that passes the check under zeros is accepted with every passphrase.  `derivedKeys_iff` says
that this is the only way in which a key is accepted that was not derived.
-/

set_option autoImplicit false

namespace Mtx.Crypto

open Str

/-! ## The functions of OpenSSL -/

/-- The functions of OpenSSL the code calls. -/
structure Openssl where
  /-- What `PKCS5_PBKDF2_HMAC` with SHA-512 writes if it succeeds. -/
  pbkdf2 (pass salt : Str) (iterations keylen : ℕ) : Str
  length_pbkdf2 : ∀ pass salt iterations keylen,
    (pbkdf2 pass salt iterations keylen).length = keylen
  /-- `HMAC` with SHA-256. -/
  hmac (key data : Str) : Str
  /-- The 64 bytes that HKDF with SHA-256 derives, or the step that fails. -/
  hkdf (key salt info : Str) : Except String Str
  /-- AES-256 in CTR mode, which encrypts and decrypts alike. -/
  aesCtr (text key iv : Str) : Str

variable (openssl : Openssl)

/-- `PKCS5_PBKDF2_HMAC`: the report, and the buffer `out` afterwards. -/
def pkcs5Pbkdf2Hmac (pass salt : Str) (iterations keylen : ℤ) (out : Str) : Bool × Str :=
  if iterations < 1 ∨ keylen < 1 then (false, out)
  else (true, openssl.pbkdf2 pass salt iterations.toNat keylen.toNat)

/-- `PBKDF2_HMAC_SHA_512`. -/
def pbkdf2HmacSha512 (pass salt : Str) (iterations keylen : UInt32) : Str :=
  let out := List.replicate keylen.toNat 0
  let (_, out) := pkcs5Pbkdf2Hmac openssl pass salt (castInt iterations.toNat)
    (castInt keylen.toNat) out
  out

/-- `HkdfKeys`. -/
structure HkdfKeys where
  aes : Str
  mac : Str

/-- `HKDF_SHA256`. -/
def hkdfSha256 (key salt info : Str) : Except Exn HkdfKeys :=
  match openssl.hkdf key salt info with
  | .ok buf => do
    throwIf (buf.length ≠ 64) (.runtimeError "Invalid HKDF size!")
    return { aes := buf.take 32, mac := buf.drop 32 }
  | .error step => .error (.runtimeError ("HKDF: failed " ++ step))

/-- `AES_CTR_256_Encrypt` and `AES_CTR_256_Decrypt`.  The data of an empty buffer is a null pointer:
without a key nothing is written, and without a vector the counter starts at zero.  A buffer that is
only too short is read beyond its end.  The length of the text is cast to `int`. -/
def aesCtr256 (text aes256Key iv : Str) : Except Exn Str := do
  throwIf (aes256Key ≠ [] ∧ aes256Key.length < 32 ∨ iv ≠ [] ∧ iv.length < 16) .undefinedBehaviour
  if aes256Key = [] then return [] else
  let inl := castInt text.length
  throwIf (inl < 0) .undefinedBehaviour
  return openssl.aesCtr (text.take inl.toNat) (aes256Key.take 32)
    (if iv = [] then List.replicate 16 0 else iv.take 16)

/-! ## Key files -/

variable (json : JsonText)

/-- The second half of `decrypt_exported_sessions`, with the derived key `buf`. -/
def openKeyFile (file : KeyFile) (buf : Str) : Except Exn ExportedSessionKeys := do
  let aes256 := buf.take 32
  let hmac256 := (buf.drop 32).take 32
  throwIf (openssl.hmac hmac256 file.signed ≠ file.hmac)
    (.cryptoException "decrypt_exported_sessions" "HMAC doesn't match")
  let plaintext ← aesCtr256 openssl file.json aes256 file.iv
  ExportedSessionKeys.fromJson (← json.parse plaintext)

/-- `decrypt_exported_sessions`. -/
def decryptExportedSessions (data pass : Str) : Except Exn ExportedSessionKeys := do
  let file ← readKeyFile data
  openKeyFile openssl json file (pbkdf2HmacSha512 openssl pass file.salt file.rounds 64)

/-! ## Key descriptions -/

/-- `PBKDF2`. -/
structure PBKDF2 where
  algorithm : Str
  salt : Str
  iterations : UInt32
  bits : UInt32 := 256

/-- `from_json(PBKDF2)`. -/
def PBKDF2.fromJson (obj : Json) : Except Exn PBKDF2 := do
  let algorithm ← (← obj.atKey "algorithm").getString
  let salt ← (← obj.atKey "salt").getString
  let iterations ← (← obj.atKey "iterations").getUInt32
  let bits ← obj.value "bits" Json.getUInt32 256
  return { algorithm, salt, iterations, bits }

/-- `AesHmacSha2KeyDescription`. -/
structure AesHmacSha2KeyDescription where
  name : Str
  algorithm : Str
  passphrase : Option PBKDF2
  iv : Str
  mac : Str
  signatures : Signatures := SortedMap.empty

/-- `from_json(AesHmacSha2KeyDescription)`. -/
def AesHmacSha2KeyDescription.fromJson (obj : Json) : Except Exn AesHmacSha2KeyDescription := do
  let name ← obj.value "name" Json.getString ""
  let algorithm ← (← obj.atKey "algorithm").getString
  let passphrase ← obj.optional "passphrase" (fun j ↦ some <$> PBKDF2.fromJson j) none
  let iv ← obj.value "iv" Json.getString ""
  let mac ← obj.value "mac" Json.getString ""
  let signatures ←
    obj.optional "signatures" (Json.getMap (Json.getMap Json.getString)) SortedMap.empty
  return { name, algorithm, passphrase, iv, mac, signatures }

/-- The check of `key_from_passphrase` that a key is the described one. -/
def checkKey (parameters : AesHmacSha2KeyDescription) (decryptionKey : Str) : Except Exn Bool := do
  let testKeys ← hkdfSha256 openssl decryptionKey (List.replicate 32 0) []
  let encrypted ← aesCtr256 openssl (List.replicate 32 0) testKeys.aes (base642bin parameters.iv)
  return openssl.hmac testKeys.mac encrypted == base642bin parameters.mac

/-- `key_from_passphrase`. -/
def keyFromPassphrase (password : Str) (parameters : AesHmacSha2KeyDescription) :
    Except Exn (Option Str) :=
  match parameters.passphrase with
  | none => .error (.invalidArgument "no passphrase to derive key from")
  | some p => do
    throwIf (p.algorithm ≠ lit "m.pbkdf2") (.invalidArgument "invalid pbkdf algorithm")
    let decryptionKey := pbkdf2HmacSha512 openssl password p.salt p.iterations (p.bits / 8)
    if ← checkKey openssl parameters decryptionKey then return some decryptionKey else return none

/-! ## Keys that were derived -/

/-- `PKCS5_PBKDF2_HMAC` succeeds, and writes `key` into the buffer of `PBKDF2_HMAC_SHA_512`. -/
def Derives (pass salt : Str) (iterations keylen : UInt32) (key : Str) : Prop :=
  pkcs5Pbkdf2Hmac openssl pass salt (castInt iterations.toNat) (castInt keylen.toNat)
    (List.replicate keylen.toNat 0) = (true, key)

/-- Sessions are only returned if the keys that open the file were derived from the passphrase.
Where the behaviour is undefined they may be returned. -/
def SessionsDerived (data pass : Str) : Prop :=
  (∀ sessions, decryptExportedSessions openssl json data pass = .ok sessions →
    ∃ file key, readKeyFile data = .ok file ∧ Derives openssl pass file.salt file.rounds 64 key ∧
      openKeyFile openssl json file key = .ok sessions) ∧
  (Undefined (decryptExportedSessions openssl json data pass) →
    ∃ file key, readKeyFile data = .ok file ∧ Derives openssl pass file.salt file.rounds 64 key)

/-- A key is only returned if it was derived from the passphrase.  Where the behaviour is undefined
one may be returned. -/
def KeyDerived (password : Str) (parameters : AesHmacSha2KeyDescription) : Prop :=
  (∀ key, keyFromPassphrase openssl password parameters = .ok (some key) →
    ∃ p, parameters.passphrase = some p ∧
      Derives openssl password p.salt p.iterations (p.bits / 8) key) ∧
  (Undefined (keyFromPassphrase openssl password parameters) →
    ∃ p key, parameters.passphrase = some p ∧
      Derives openssl password p.salt p.iterations (p.bits / 8) key)

variable {openssl json}

/-- The number is positive as an `int`. -/
def IsPositiveInt (n : UInt32) : Prop := 0 < n.toNat ∧ n.toNat < 2 ^ 31

theorem castInt_lt_one_iff (n : UInt32) : castInt n.toNat < 1 ↔ ¬ IsPositiveInt n := by
  have hn := n.toNat_lt
  rw [castInt, Int32.toInt_ofNat', IsPositiveInt, Int.bmod, Int32.size]
  split_ifs <;> omega

/-- When the derivation fails. -/
theorem fails_iff (iterations keylen : UInt32) :
    castInt iterations.toNat < 1 ∨ castInt keylen.toNat < 1 ↔
      ¬ (IsPositiveInt iterations ∧ IsPositiveInt keylen) := by
  rw [castInt_lt_one_iff, castInt_lt_one_iff, not_and_or]

/-- **A key is derived if the rounds and the length are positive**, and what `PBKDF2_HMAC_SHA_512`
returns is then the derived key. -/
theorem derives_iff {pass salt key : Str} {iterations keylen : UInt32} :
    Derives openssl pass salt iterations keylen key ↔
      (IsPositiveInt iterations ∧ IsPositiveInt keylen) ∧
        pbkdf2HmacSha512 openssl pass salt iterations keylen = key := by
  rw [Derives, pbkdf2HmacSha512, pkcs5Pbkdf2Hmac]
  by_cases h : IsPositiveInt iterations ∧ IsPositiveInt keylen
  · rw [if_neg fun hfails ↦ (fails_iff iterations keylen).mp hfails h]
    simp [h]
  · rw [if_pos ((fails_iff iterations keylen).mpr h)]
    simp [h]

/-- Otherwise it returns zeros. -/
theorem pbkdf2HmacSha512_of_fails (openssl : Openssl) (pass salt : Str) {iterations keylen : UInt32}
    (h : ¬ (IsPositiveInt iterations ∧ IsPositiveInt keylen)) :
    pbkdf2HmacSha512 openssl pass salt iterations keylen = List.replicate keylen.toNat 0 := by
  rw [pbkdf2HmacSha512, pkcs5Pbkdf2Hmac, if_pos ((fails_iff iterations keylen).mpr h)]

theorem isPositiveInt_div_eight (bits : UInt32) : IsPositiveInt (bits / 8) ↔ 8 ≤ bits.toNat := by
  have hn := bits.toNat_lt
  rw [IsPositiveInt, UInt32.toNat_div]
  simp only [UInt32.reduceToNat]
  omega

/-! ## When only derived keys are accepted -/

theorem not_undefined_readKeyFile (data : Str) : ¬ Undefined (readKeyFile data) := by
  rw [readKeyFile, Undefined]
  simp only [throwIf]
  split_ifs <;> intro h <;> cases h

/-- Sessions are derived unless zeros open the file and the derivation fails for its rounds. -/
theorem sessionsDerived_iff (data pass : Str) :
    SessionsDerived openssl json data pass ↔ ∀ file, readKeyFile data = .ok file →
      IsPositiveInt file.rounds ∨
        Throws (openKeyFile openssl json file (List.replicate 64 0)) := by
  have hlength : IsPositiveInt 64 := ⟨by decide, by decide⟩
  have hzeros : ∀ file : KeyFile, ¬ IsPositiveInt file.rounds →
      pbkdf2HmacSha512 openssl pass file.salt file.rounds 64 = List.replicate 64 0 :=
    fun file hrounds ↦ pbkdf2HmacSha512_of_fails openssl pass file.salt fun h ↦ hrounds h.1
  constructor
  · rintro ⟨hreturned, hundefined⟩ file hfile
    refine or_iff_not_imp_left.mpr fun hrounds ↦ ?_
    have hdecrypt : decryptExportedSessions openssl json data pass =
        openKeyFile openssl json file (List.replicate 64 0) := by
      rw [decryptExportedSessions, hfile, ok_bind, hzeros file hrounds]
    have hnone : ¬ ∃ file' key, readKeyFile data = .ok file' ∧
        Derives openssl pass file'.salt file'.rounds 64 key := by
      rintro ⟨file', key, hfile', hderives⟩
      obtain rfl := Except.ok.inj (hfile'.symm.trans hfile)
      exact hrounds (derives_iff.mp hderives).1.1
    by_contra hthrows
    rcases not_throws_iff.mp hthrows with ⟨sessions, hopen⟩ | hopen
    · obtain ⟨file', key, hfile', hderives, -⟩ := hreturned sessions (hdecrypt.trans hopen)
      exact hnone ⟨file', key, hfile', hderives⟩
    · exact hnone (hundefined (hdecrypt.trans hopen))
  · intro h
    have hderives : ∀ file, readKeyFile data = .ok file →
        ¬ Throws (decryptExportedSessions openssl json data pass) →
        Derives openssl pass file.salt file.rounds 64
          (pbkdf2HmacSha512 openssl pass file.salt file.rounds 64) := by
      intro file hfile hopen
      refine derives_iff.mpr ⟨⟨?_, hlength⟩, rfl⟩
      by_contra hrounds
      refine hopen ?_
      rw [decryptExportedSessions, hfile, ok_bind, hzeros file hrounds]
      exact (h file hfile).resolve_left hrounds
    constructor
    · intro sessions hsessions
      obtain ⟨file, hfile, hopen⟩ := bind_eq_ok_iff.mp hsessions
      refine ⟨file, _, hfile, hderives file hfile ?_, hopen⟩
      exact not_throws_iff.mpr (Or.inl ⟨sessions, hsessions⟩)
    · intro hundefined
      obtain ⟨file, hfile⟩ : ∃ file, readKeyFile data = .ok file := by
        rcases hread : readKeyFile data with e | file
        · rw [decryptExportedSessions, hread] at hundefined
          obtain rfl : e = .undefinedBehaviour := Except.error.inj hundefined
          exact absurd hread (not_undefined_readKeyFile data)
        · exact ⟨file, rfl⟩
      exact ⟨file, _, hfile, hderives file hfile (not_throws_iff.mpr (Or.inr hundefined))⟩

/-- What it takes that `key_from_passphrase` returns a key. -/
theorem keyFromPassphrase_eq_some_iff {password key : Str}
    {parameters : AesHmacSha2KeyDescription} :
    keyFromPassphrase openssl password parameters = .ok (some key) ↔
      ∃ p, parameters.passphrase = some p ∧ p.algorithm = lit "m.pbkdf2" ∧
        pbkdf2HmacSha512 openssl password p.salt p.iterations (p.bits / 8) = key ∧
        checkKey openssl parameters key = .ok true := by
  rw [keyFromPassphrase]
  cases parameters.passphrase with
  | none => simp
  | some p =>
    simp only [bind_eq_ok_iff, throwIf_eq_ok_iff, not_not, Option.some.injEq, exists_eq_left']
    constructor
    · rintro ⟨_, halg, ok, hcheck, h⟩
      split_ifs at h with hok
      · obtain rfl := Option.some.inj (Except.ok.inj h)
        exact ⟨halg, rfl, by rw [hcheck, hok]⟩
      · cases h
    · rintro ⟨halg, rfl, hcheck⟩
      exact ⟨(), halg, true, hcheck, rfl⟩

/-- What it takes that the behaviour of `key_from_passphrase` is undefined. -/
theorem undefined_keyFromPassphrase_iff {password : Str}
    {parameters : AesHmacSha2KeyDescription} :
    Undefined (keyFromPassphrase openssl password parameters) ↔
      ∃ p, parameters.passphrase = some p ∧ p.algorithm = lit "m.pbkdf2" ∧
        Undefined (checkKey openssl parameters
          (pbkdf2HmacSha512 openssl password p.salt p.iterations (p.bits / 8))) := by
  rw [keyFromPassphrase]
  cases parameters.passphrase with
  | none => simp [Undefined]
  | some p =>
    simp only [Option.some.injEq, exists_eq_left']
    by_cases halg : p.algorithm = lit "m.pbkdf2"
    · rw [throwIf_of_not (not_not.mpr halg), ok_bind, undefined_bind_iff_of_defined,
        and_iff_right halg]
      intro ok
      cases ok
      · exact not_undefined_pure _
      · exact not_undefined_pure _
    · rw [throwIf, if_pos halg]
      refine iff_of_false (fun h ↦ ?_) fun h ↦ halg h.1
      cases Except.error.inj h

/-- The check of a key passes, or its behaviour is undefined, unless it is refused. -/
theorem not_refused_iff {x : Except Exn Bool} :
    ¬ (x = .ok false ∨ Throws x) ↔ x = .ok true ∨ Undefined x := by
  rw [not_or, not_throws_iff]
  rcases x with e | ok
  · simp [Succeeds, Undefined]
  · cases ok <;> simp [Succeeds]

/-- A key is derived unless zeros pass the check and the derivation fails for the description. -/
theorem keyDerived_iff (password : Str) (parameters : AesHmacSha2KeyDescription) :
    KeyDerived openssl password parameters ↔ ∀ p, parameters.passphrase = some p →
      p.algorithm = lit "m.pbkdf2" → (IsPositiveInt p.iterations ∧ 8 ≤ p.bits.toNat) ∨
        (checkKey openssl parameters (List.replicate (p.bits / 8).toNat 0) = .ok false ∨
          Throws (checkKey openssl parameters (List.replicate (p.bits / 8).toNat 0))) := by
  constructor
  · rintro ⟨hreturned, hundefined⟩ p hp halg
    refine or_iff_not_imp_left.mpr fun hfails ↦ ?_
    rw [← isPositiveInt_div_eight] at hfails
    have hkey := pbkdf2HmacSha512_of_fails openssl password p.salt hfails
    have hnone : ∀ p' key, parameters.passphrase = some p' →
        ¬ Derives openssl password p'.salt p'.iterations (p'.bits / 8) key := by
      intro p' key hp' hderives
      obtain rfl := Option.some.inj (hp'.symm.trans hp)
      exact hfails (derives_iff.mp hderives).1
    by_contra hrefused
    rcases not_refused_iff.mp hrefused with hcheck | hcheck
    · obtain ⟨p', hp', hderives⟩ :=
        hreturned _ (keyFromPassphrase_eq_some_iff.mpr ⟨p, hp, halg, hkey, hcheck⟩)
      exact hnone p' _ hp' hderives
    · rw [← hkey] at hcheck
      obtain ⟨p', key, hp', hderives⟩ :=
        hundefined (undefined_keyFromPassphrase_iff.mpr ⟨p, hp, halg, hcheck⟩)
      exact hnone p' key hp' hderives
  · intro h
    have hderives : ∀ p, parameters.passphrase = some p → p.algorithm = lit "m.pbkdf2" →
        (checkKey openssl parameters
            (pbkdf2HmacSha512 openssl password p.salt p.iterations (p.bits / 8)) = .ok true ∨
          Undefined (checkKey openssl parameters
            (pbkdf2HmacSha512 openssl password p.salt p.iterations (p.bits / 8)))) →
        Derives openssl password p.salt p.iterations (p.bits / 8)
          (pbkdf2HmacSha512 openssl password p.salt p.iterations (p.bits / 8)) := by
      intro p hp halg hcheck
      refine derives_iff.mpr ⟨?_, rfl⟩
      by_contra hfails
      rw [pbkdf2HmacSha512_of_fails openssl password p.salt hfails] at hcheck
      rw [isPositiveInt_div_eight] at hfails
      exact not_refused_iff.mpr hcheck ((h p hp halg).resolve_left hfails)
    constructor
    · intro key hkey
      obtain ⟨p, hp, halg, rfl, hcheck⟩ := keyFromPassphrase_eq_some_iff.mp hkey
      exact ⟨p, hp, hderives p hp halg (Or.inl hcheck)⟩
    · intro hundefined
      obtain ⟨p, hp, halg, hcheck⟩ := undefined_keyFromPassphrase_iff.mp hundefined
      exact ⟨p, _, hp, hderives p hp halg (Or.inr hcheck)⟩

/-- **Only derived keys are accepted exactly if the derivation succeeds or zeros are refused**, both
for key files and for key descriptions. -/
theorem derivedKeys_iff (openssl : Openssl) (json : JsonText) :
    (∀ data pass, SessionsDerived openssl json data pass ↔ ∀ file, readKeyFile data = .ok file →
      IsPositiveInt file.rounds ∨
        Throws (openKeyFile openssl json file (List.replicate 64 0))) ∧
    ∀ password parameters, KeyDerived openssl password parameters ↔
      ∀ p, parameters.passphrase = some p → p.algorithm = lit "m.pbkdf2" →
        (IsPositiveInt p.iterations ∧ 8 ≤ p.bits.toNat) ∨
          (checkKey openssl parameters (List.replicate (p.bits / 8).toNat 0) = .ok false ∨
            Throws (checkKey openssl parameters (List.replicate (p.bits / 8).toNat 0))) :=
  ⟨sessionsDerived_iff, keyDerived_iff⟩

/-! ## Examples -/

/-- The key file and the key description below, with what OpenSSL answers for them.  The sessions
and the check were encrypted with zeros, by someone who does not know a passphrase. -/
def sampleOpenssl : Openssl where
  pbkdf2 _ _ _ keylen := List.replicate keylen 0xff
  length_pbkdf2 _ _ _ _ := List.length_replicate
  hmac key _ :=
    if key = List.replicate 32 0 then base642bin "Ekm3unVHbVAe5zw58kXLLKmoPeiG7M3ZCsOtIktgN0g="
    else base642bin "HwRM9acFfsmgx1IlMgQI2n1pdsF6jVbAq9RIGTiIosQ="
  hkdf _ _ _ := .ok (base642bin "33IEVG8b7ni4UySniYyhGbOH4BOG0a7wN3gdSooDau4=" ++
    base642bin "p7Zabn+HMGjdFHxWST5xKUrMiec7quLkqHB18Yc5tM0=")
  aesCtr text _ _ :=
    if text = base642bin "h8g=" then "[]"
    else base642bin "Ok2fW+Mvpo+0dyYhGHAL5fA0YyQ3SQmOmoRNoXCnw2A="

/-- A key file with 0 rounds and no sessions. -/
def forgedKeyFile : Str :=
  lit "-----BEGIN MEGOLM SESSION DATA-----\n" ++
  lit "AQAAAAAAAAAAAAAAAAAAAAAAAAAAAAAAAAAAAAAAAAAAAAAAAIfIEkm3unVHbVAe5zw58kXLLKmo\n" ++
  lit "PeiG7M3ZCsOtIktgN0g=\n-----END MEGOLM SESSION DATA-----\n"

/-- A key description with 0 iterations. -/
def forgedDescription : Json :=
  .object [(lit "algorithm", .string "m.secret_storage.v1.aes-hmac-sha2"),
    (lit "iv", .string "AAAAAAAAAAAAAAAAAAAAAA=="),
    (lit "mac", .string "HwRM9acFfsmgx1IlMgQI2n1pdsF6jVbAq9RIGTiIosQ="),
    (lit "passphrase", .object [(lit "algorithm", .string "m.pbkdf2"),
      (lit "iterations", .numberUnsigned 0), (lit "salt", .string "salt")])]

/-- What is read from it. -/
def forgedParameters : AesHmacSha2KeyDescription where
  name := ""
  algorithm := "m.secret_storage.v1.aes-hmac-sha2"
  passphrase := some { algorithm := "m.pbkdf2", salt := "salt", iterations := 0 }
  iv := "AAAAAAAAAAAAAAAAAAAAAA=="
  mac := "HwRM9acFfsmgx1IlMgQI2n1pdsF6jVbAq9RIGTiIosQ="

/-- The parts of the key file. -/
def forgedParts : KeyFile where
  salt := List.replicate 16 0
  iv := List.replicate 16 0
  rounds := 0
  json := base642bin "h8g="
  hmac := base642bin "Ekm3unVHbVAe5zw58kXLLKmoPeiG7M3ZCsOtIktgN0g="
  signed := 0x01 :: List.replicate 36 0 ++ base642bin "h8g="

theorem readKeyFile_forgedKeyFile : readKeyFile forgedKeyFile = .ok forgedParts := by
  decide +kernel

theorem openKeyFile_forgedParts : openKeyFile sampleOpenssl (knownTexts [.array []]) forgedParts
    (List.replicate 64 0) = .ok ⟨[]⟩ := by
  decide +kernel

theorem checkKey_forgedParameters :
    checkKey sampleOpenssl forgedParameters (List.replicate 32 0) = .ok true := by
  decide +kernel

/-- **Both are accepted with every passphrase.** -/
theorem forged_accepted :
    (∀ pass, decryptExportedSessions sampleOpenssl (knownTexts [.array []]) forgedKeyFile pass =
        .ok ⟨[]⟩ ∧
      ¬ SessionsDerived sampleOpenssl (knownTexts [.array []]) forgedKeyFile pass) ∧
    AesHmacSha2KeyDescription.fromJson forgedDescription = .ok forgedParameters ∧
    ∀ password, keyFromPassphrase sampleOpenssl password forgedParameters =
        .ok (some (List.replicate 32 0)) ∧
      ¬ KeyDerived sampleOpenssl password forgedParameters := by
  have hrounds : ∀ keylen, ¬ (IsPositiveInt 0 ∧ IsPositiveInt keylen) := fun _ h ↦
    absurd h.1.1 (by decide)
  have hdecrypt : ∀ pass, decryptExportedSessions sampleOpenssl (knownTexts [.array []])
      forgedKeyFile pass = .ok ⟨[]⟩ := by
    intro pass
    have hzeros : pbkdf2HmacSha512 sampleOpenssl pass forgedParts.salt forgedParts.rounds 64 =
        List.replicate 64 0 := pbkdf2HmacSha512_of_fails sampleOpenssl pass _ (hrounds 64)
    rw [decryptExportedSessions, readKeyFile_forgedKeyFile, ok_bind, hzeros]
    exact openKeyFile_forgedParts
  have hkey : ∀ password, keyFromPassphrase sampleOpenssl password forgedParameters =
      .ok (some (List.replicate 32 0)) := fun password ↦
    keyFromPassphrase_eq_some_iff.mpr ⟨_, rfl, rfl,
      pbkdf2HmacSha512_of_fails sampleOpenssl password _ (hrounds _), checkKey_forgedParameters⟩
  refine ⟨fun pass ↦ ⟨hdecrypt pass, fun h ↦ ?_⟩, by rfl,
    fun password ↦ ⟨hkey password, fun h ↦ ?_⟩⟩
  · obtain ⟨file, key, hfile, hderives, -⟩ := h.1 _ (hdecrypt pass)
    obtain rfl := Except.ok.inj (hfile.symm.trans readKeyFile_forgedKeyFile)
    exact hrounds _ (derives_iff.mp hderives).1
  · obtain ⟨p, hp, hderives⟩ := h.1 _ (hkey password)
    obtain rfl := Option.some.inj hp
    exact hrounds _ (derives_iff.mp hderives).1

end Mtx.Crypto
