import MtxClient.Crypto.AesCalls
import MtxClient.Events.Common

/-!
# Attachments

`encrypt_file` encrypts the bytes of an attachment under a new key, which it returns together with
the hash of what it encrypted.  `decrypt_file` only decrypts what has that hash.

As in key files, the sizes that are handed to OpenSSL are cast to `int`.  `attachment_iff` says that
this is the only limit: up to it every file is read back, also with what was returned about it
written as JSON and read again.
-/

set_option autoImplicit false

namespace Mtx.Crypto

open Str Events

/-- What OpenSSL computes as the SHA-256 of some data, if it does not fail. -/
abbrev Digest := Str → Option Str

variable (openssl : Openssl) (digest : Digest)

/-- `sha256`. -/
def sha256 (data : Str) : Except Exn Str :=
  match digest data with
  | some hash => .ok hash
  | none => .error (.runtimeError "sha256 failed!")

/-- `hashes.at(name)`. -/
def hashAt (hashes : SortedMap Str Str) (name : Str) : Except Exn Str :=
  match hashes.find? name with
  | some hash => .ok hash
  | none => .error (.outOfRange "map::at")

/-- The bytes of a text, one character each. -/
def latin1 (s : Str) : String := String.ofList (s.map fun b ↦ Char.ofNat b.toNat)

/-- The message about a wrong hash. -/
def hashMismatch (expected got : Str) : String :=
  "sha256 of encrypted file does not match the ciphertext, expected '" ++ latin1 expected ++
    "', got '" ++ latin1 got ++ "'"

/-- `decrypt_file`. -/
def decryptFile (ciphertext : Str) (encryption_info : EncryptedFile) : Traced AesCall Exn Str := do
  throwIf (encryption_info.v ≠ lit "v2") (.invalidArgument "Unsupported encrypted file version")
  throwIf (encryption_info.key.kty ≠ lit "oct") (.invalidArgument "Unsupported key type")
  throwIf (encryption_info.key.alg ≠ lit "A256CTR") (.invalidArgument "Unsupported algorithm")
  let expected := bin2base64Unpadded (← sha256 digest ciphertext)
  let got ← hashAt encryption_info.hashes "sha256"
  throwIf (expected ≠ got) (.invalidArgument (hashMismatch expected got))
  -- the key should be urlsafe and unpadded, the iv and sha only need to be unpadded
  callAes openssl ciphertext (base642binUrlsafeUnpadded encryption_info.key.k)
    (base642binUnpadded encryption_info.iv)

/-- The counter block of `encrypt_file`: bit 63 is cleared as in `compatible_iv`, and the second
half is zero. -/
def fileIv (iv : Str) : Str :=
  (compatibleIv iv).mapIdx fun i b ↦ if 8 ≤ i ∧ i < 16 then 0 else b

/-- `encrypt_file`. -/
def encryptFile (plaintext : Str) : OlmM (Str × EncryptedFile) := do
  let key ← newBuffer 32
  let iv := fileIv (← newBuffer 16)
  let cyphertext ← aesCtr256Encrypt openssl plaintext key iv
  let web_key : JWK := {
    ext := true
    kty := "oct"
    key_ops := ["encrypt", "decrypt"]
    alg := "A256CTR"
    k := bin2base64UrlsafeUnpadded key }
  return (cyphertext, {
    url := ""
    key := web_key
    iv := bin2base64Unpadded iv
    hashes := SortedMap.empty.insert "sha256" (bin2base64Unpadded (← sha256 digest cyphertext))
    v := "v2" })

/-- The information about a file after it has been written and read again. -/
def rereadFile (json : JsonText) (encryption_info : EncryptedFile) : Except Exn EncryptedFile := do
  let text ← json.dump encryption_info.toJson
  EncryptedFile.fromJson (← json.parse text)

/-! ## What is expected of it -/

/-- What belongs to the encrypted file `ciphertext` for `plaintext`. -/
structure Unlocks (plaintext ciphertext : Str) (encryption_info : EncryptedFile) : Prop where
  decrypts : (decryptFile openssl digest ciphertext encryption_info).result = .ok plaintext
  length_key : (base642binUrlsafeUnpadded encryption_info.key.k).length = 32
  length_iv : (base642binUnpadded encryption_info.iv).length = 16
  bit63 : (base642binUnpadded encryption_info.iv).getD 8 0 &&& 0x80 = 0
  counter : (base642binUnpadded encryption_info.iv).drop 8 = List.replicate 8 0
  /-- Another file is refused, and nothing is decrypted. -/
  refuses : ∀ other, sha256 digest other ≠ sha256 digest ciphertext →
    ∃ what, decryptFile openssl digest other encryption_info =
      .silent (.error (.invalidArgument what))

/-- The file is encrypted, and decrypted with what was returned about it, also when that was
written and read again. -/
def Attaches (json : JsonText) (plaintext : Str) (w : World) : Prop :=
  ∃ ciphertext encryption_info w',
    encryptFile openssl digest plaintext w = .ok ((ciphertext, encryption_info), w') ∧
    Unlocks openssl digest plaintext ciphertext encryption_info ∧
    ∃ info, rereadFile json encryption_info = .ok info ∧
      Unlocks openssl digest plaintext ciphertext info

/-! ## Decrypting -/

/-- The checks of `decrypt_file` succeed. -/
def HashFits (ciphertext : Str) (encryption_info : EncryptedFile) : Prop :=
  encryption_info.v = lit "v2" ∧ encryption_info.key.kty = lit "oct" ∧
    encryption_info.key.alg = lit "A256CTR" ∧ ∃ hash, digest ciphertext = some hash ∧
      encryption_info.hashes.find? "sha256" = some (bin2base64Unpadded hash)

variable {openssl digest}

theorem sha256_eq_ok_iff {data hash : Str} :
    sha256 digest data = .ok hash ↔ digest data = some hash := by
  rw [sha256]
  cases digest data <;> simp

theorem hashAt_eq_ok_iff {hashes : SortedMap Str Str} {name hash : Str} :
    hashAt hashes name = .ok hash ↔ hashes.find? name = some hash := by
  rw [hashAt]
  cases hashes.find? name <;> simp

/-- The only call is the last step, after all checks. -/
theorem calls_decryptFile_iff {P : AesCall → Prop} {ciphertext : Str} {info : EncryptedFile} :
    (decryptFile openssl digest ciphertext info).Calls P ↔ (HashFits digest ciphertext info →
      P ⟨ciphertext, base642binUrlsafeUnpadded info.key.k, base642binUnpadded info.iv⟩) := by
  rw [decryptFile]
  simp only [Traced.calls_liftM_bind_iff, throwIf_eq_ok_iff, sha256_eq_ok_iff, hashAt_eq_ok_iff,
    not_not, callAes, Traced.calls_call_iff, HashFits]
  constructor
  · rintro h ⟨hv, hkty, halg, hash, hhash, hgot⟩
    exact h () hv () hkty () halg hash hhash _ hgot () rfl
  · rintro h _ hv _ hkty _ halg hash hhash got hgot _ rfl
    exact h ⟨hv, hkty, halg, hash, hhash, hgot⟩

/-- What `decrypt_file` does with a file of the right version and type that comes with a hash. -/
theorem decryptFile_eq {ciphertext hash got : Str} {info : EncryptedFile}
    (hv : info.v = lit "v2") (hkty : info.key.kty = lit "oct") (halg : info.key.alg = lit "A256CTR")
    (hhash : digest ciphertext = some hash) (hgot : info.hashes.find? "sha256" = some got) :
    decryptFile openssl digest ciphertext info =
      if bin2base64Unpadded hash = got then
        callAes openssl ciphertext (base642binUrlsafeUnpadded info.key.k)
          (base642binUnpadded info.iv)
      else .silent (.error (.invalidArgument (hashMismatch (bin2base64Unpadded hash) got))) := by
  rw [decryptFile, Traced.silent_bind_of_ok _ (throwIf_of_not (not_not.mpr hv) _),
    Traced.silent_bind_of_ok _ (throwIf_of_not (not_not.mpr hkty) _),
    Traced.silent_bind_of_ok _ (throwIf_of_not (not_not.mpr halg) _),
    Traced.silent_bind_of_ok _ (sha256_eq_ok_iff.mpr hhash),
    Traced.silent_bind_of_ok _ (hashAt_eq_ok_iff.mpr hgot)]
  split_ifs with h
  · rw [Traced.silent_bind_of_ok _ (throwIf_of_not (not_not.mpr h) _)]
  · have hthrow : throwIf (bin2base64Unpadded hash ≠ got) _ =
        .error (.invalidArgument (hashMismatch (bin2base64Unpadded hash) got)) := if_pos h
    rw [Traced.silent_bind_of_error _ hthrow]
    rfl

theorem base642binUnpadded_bin2base64Unpadded (bin : Str) :
    base642binUnpadded (bin2base64Unpadded bin) = bin :=
  decodeBase64_encodeBase64 base64Alphabet false bin

theorem base642binUrlsafeUnpadded_bin2base64UrlsafeUnpadded (bin : Str) :
    base642binUrlsafeUnpadded (bin2base64UrlsafeUnpadded bin) = bin :=
  decodeBase64_encodeBase64 base64UrlsafeAlphabet false bin

/-! ## Round trip -/

/-- The information that `encrypt_file` returns. -/
def fileInfo (key iv hash : Str) : EncryptedFile where
  url := ""
  key := {
    ext := true
    kty := "oct"
    key_ops := ["encrypt", "decrypt"]
    alg := "A256CTR"
    k := bin2base64UrlsafeUnpadded key }
  iv := bin2base64Unpadded iv
  hashes := SortedMap.empty.insert "sha256" (bin2base64Unpadded hash)
  v := "v2"

theorem find?_hashes_fileInfo (key iv hash : Str) :
    (fileInfo key iv hash).hashes.find? "sha256" = some (bin2base64Unpadded hash) := by
  simp [fileInfo]

theorem length_fileIv (iv : Str) : (fileIv iv).length = iv.length := by
  rw [fileIv, List.length_mapIdx, compatibleIv, List.length_modify]

theorem drop_fileIv {iv : Str} (h : iv.length = 16) : (fileIv iv).drop 8 = List.replicate 8 0 := by
  have hlength : ((fileIv iv).drop 8).length = 8 := by rw [List.length_drop, length_fileIv, h]
  refine List.ext_getElem (by rw [hlength, List.length_replicate]) fun i hi _ ↦ ?_
  rw [hlength] at hi
  rw [List.getElem_drop, List.getElem_replicate]
  simp only [fileIv, List.getElem_mapIdx]
  exact if_pos ⟨by omega, by omega⟩

/-- What `encrypt_file` does once it has a key and a counter block. -/
theorem encryptFile_eq (openssl : Openssl) (digest : Digest) (plaintext : Str) (w : World) :
    ∃ key iv w', key.length = 32 ∧ iv.length = 16 ∧ iv.drop 8 = List.replicate 8 0 ∧
      encryptFile openssl digest plaintext w =
        (do
          let cyphertext ← aesCtr256Encrypt openssl plaintext key iv
          return (cyphertext, fileInfo key iv (← sha256 digest cyphertext)) :
            OlmM (Str × EncryptedFile)) w' := by
  obtain ⟨key, w₁, hkey, hklength⟩ := newBuffer_spec (n := 32) (by decide) w
  obtain ⟨iv, w₂, hiv, hilength⟩ := newBuffer_spec (n := 16) (by decide) w₁
  refine ⟨key, fileIv iv, w₂, hklength, by rw [length_fileIv, hilength], drop_fileIv hilength, ?_⟩
  rw [encryptFile, olmM_bind_of_ok hkey, olmM_bind_of_ok hiv]
  rfl

theorem unlocks_fileInfo (laws : openssl.Laws) (hdigest : ∀ data, ∃ hash, digest data = some hash)
    {plaintext key iv hash : Str} (hkey : key.length = 32) (hiv : iv.length = 16)
    (hcounter : iv.drop 8 = List.replicate 8 0) (hlength : plaintext.length < 2 ^ 31)
    (hhash : digest (openssl.aesCtr plaintext key iv) = some hash) :
    Unlocks openssl digest plaintext (openssl.aesCtr plaintext key iv) (fileInfo key iv hash) := by
  have hk := base642binUrlsafeUnpadded_bin2base64UrlsafeUnpadded key
  have hi := base642binUnpadded_bin2base64Unpadded iv
  have hgot := find?_hashes_fileInfo key iv hash
  have hdecrypt : ∀ c h, digest c = some h → decryptFile openssl digest c (fileInfo key iv hash) =
      if bin2base64Unpadded h = bin2base64Unpadded hash then
        callAes openssl c (base642binUrlsafeUnpadded (fileInfo key iv hash).key.k)
          (base642binUnpadded (fileInfo key iv hash).iv)
      else .silent (.error (.invalidArgument
        (hashMismatch (bin2base64Unpadded h) (bin2base64Unpadded hash)))) := by
    intro c h hc
    exact decryptFile_eq rfl rfl rfl hc hgot
  refine ⟨?_, by rwa [← hk] at hkey, by rwa [← hi] at hiv, ?_, by rwa [← hi] at hcounter,
    fun other hother ↦ ?_⟩
  · have htake : key.take 32 = key := List.take_of_length_le hkey.le
    have htakeiv : iv.take 16 = iv := List.take_of_length_le hiv.le
    rw [hdecrypt _ hash hhash, if_pos rfl, callAes, Traced.result_call]
    dsimp only [fileInfo]
    rw [hk, hi, aesCtr256_eq_ok hkey.ge hiv.ge (by rwa [laws.length_aesCtr]), htake, htakeiv,
      laws.aesCtr_aesCtr]
  · have h8 : (iv.drop 8)[0]? = some 0 := by
      rw [hcounter]
      rfl
    rw [List.getElem?_drop] at h8
    dsimp only [fileInfo]
    rw [hi, List.getD_eq_getElem?_getD, h8]
    rfl
  · obtain ⟨hash', hhash'⟩ := hdigest other
    rw [sha256_eq_ok_iff.mpr hhash', sha256_eq_ok_iff.mpr hhash] at hother
    rw [hdecrypt other hash' hhash', if_neg]
    · exact ⟨_, rfl⟩
    · intro heq
      have hdecode := congrArg base642binUnpadded heq
      rw [base642binUnpadded_bin2base64Unpadded, base642binUnpadded_bin2base64Unpadded] at hdecode
      exact hother (congrArg Except.ok hdecode)

/-! ## The information as text -/

theorem validUtf8_fileInfo (key iv hash : Str) :
    (fileInfo key iv hash).toJson.validUtf8 = true := by
  have hunpadded : ∀ bin, validUtf8 (bin2base64Unpadded bin) = true := fun bin ↦
    validUtf8_of_ascii fun b hb ↦
      ascii_base64Letters b (mem_letters_of_mem_encodeBase64 base64Alphabet hb)
  have hurlsafe : validUtf8 (bin2base64UrlsafeUnpadded key) = true :=
    validUtf8_of_ascii fun b hb ↦
      ascii_base64UrlsafeLetters b (mem_letters_of_mem_encodeBase64 base64UrlsafeAlphabet hb)
  have hops : (Json.ofArray .string [lit "encrypt", lit "decrypt"]).validUtf8 = true := by decide
  have hkty : validUtf8 (lit "oct") = true := by decide
  have halg : validUtf8 (lit "A256CTR") = true := by decide
  have hv : validUtf8 (lit "v2") = true := by decide
  have hkey : (fileInfo key iv hash).key.toJson.validUtf8 = true :=
    Json.validUtf8_ofMembers (((((SortedMap.All.empty.insert ⟨by decide, hkty⟩).insert
      ⟨by decide, hops⟩).insert ⟨by decide, halg⟩).insert ⟨by decide, hurlsafe⟩).insert
      ⟨by decide, rfl⟩)
  have hhashes : (Json.ofMap .string (fileInfo key iv hash).hashes).validUtf8 = true :=
    Json.validUtf8_ofMap (SortedMap.All.empty.insert ⟨by decide, hunpadded hash⟩)
  exact Json.validUtf8_ofMembers (((((SortedMap.All.empty.insert ⟨by decide, rfl⟩).insert
    ⟨by decide, hkey⟩).insert ⟨by decide, hunpadded iv⟩).insert ⟨by decide, hhashes⟩).insert
    ⟨by decide, hv⟩)

/-- **A file that is too long is not read back**: at most its start is encrypted. -/
theorem length_lt_of_attaches {json : JsonText} (laws : openssl.Laws)
    (hdigest : ∀ data, ∃ hash, digest data = some hash) {plaintext : Str} {w : World}
    (h : Attaches openssl digest json plaintext w) : plaintext.length < 2 ^ 31 := by
  obtain ⟨ciphertext, info, w', hfile, hunlocks, -⟩ := h
  obtain ⟨key, iv, w₁, hkey, hiv, hcounter, hencrypt⟩ := encryptFile_eq openssl digest plaintext w
  rw [hencrypt] at hfile
  obtain ⟨_, w₂, hciphertext, hfile⟩ := olmM_bind_eq_ok_iff.mp hfile
  obtain ⟨part, -, hshort, rfl⟩ := exists_of_aesCtr256Encrypt hkey hiv hciphertext
  obtain ⟨hash, w₃, hhash, hreturn⟩ := olmM_bind_eq_ok_iff.mp hfile
  obtain ⟨hhash, -⟩ := olmM_liftM_eq_ok_iff.mp hhash
  obtain ⟨hpair, -⟩ := Prod.mk.inj (Except.ok.inj hreturn)
  obtain ⟨rfl, rfl⟩ := Prod.mk.inj hpair
  have hpart := unlocks_fileInfo laws hdigest hkey hiv hcounter hshort (sha256_eq_ok_iff.mp hhash)
  rwa [Except.ok.inj (hunlocks.decrypts.symm.trans hpart.decrypts)]

/-- **Exactly the files of less than `2 ^ 31` bytes are encrypted so that they are read back**, and
then nothing else is. -/
theorem attachment_iff (openssl : Openssl) (digest : Digest) (json : JsonText)
    (laws : openssl.Laws) (hdigest : ∀ data, ∃ hash, digest data = some hash)
    (plaintext : Str) (w : World)
    (hjson : ∀ ciphertext info w',
      encryptFile openssl digest plaintext w = .ok ((ciphertext, info), w') →
        json.Restores info.toJson) :
    Attaches openssl digest json plaintext w ↔ plaintext.length < 2 ^ 31 := by
  constructor
  · exact length_lt_of_attaches laws hdigest
  · intro hlength
    obtain ⟨key, iv, w₁, hkey, hiv, hcounter, hencrypt⟩ :=
      encryptFile_eq openssl digest plaintext w
    have hcipher : aesCtr256 openssl plaintext key iv =
        .ok (openssl.aesCtr plaintext (key.take 32) (iv.take 16)) :=
      aesCtr256_eq_ok hkey.ge hiv.ge hlength
    rw [List.take_of_length_le hkey.le, List.take_of_length_le hiv.le] at hcipher
    obtain ⟨w₂, hw₂⟩ := aesCtr256Encrypt_eq_ok hcipher w₁
    obtain ⟨hash, hhash⟩ := hdigest (openssl.aesCtr plaintext key iv)
    have hfile : encryptFile openssl digest plaintext w =
        .ok ((openssl.aesCtr plaintext key iv, fileInfo key iv hash), w₂) := by
      rw [hencrypt, olmM_bind_of_ok hw₂,
        olmM_bind_of_ok (olmM_liftM_eq_ok_iff.mpr ⟨sha256_eq_ok_iff.mpr hhash, rfl⟩)]
      rfl
    have hunlocks := unlocks_fileInfo laws hdigest hkey hiv hcounter hlength hhash
    have hreread : rereadFile json (fileInfo key iv hash) = .ok (fileInfo key iv hash) := by
      rw [rereadFile, json.dump_of_validUtf8 (validUtf8_fileInfo key iv hash), ok_bind,
        hjson _ _ _ hfile, ok_bind, EncryptedFile.fromJson_toJson]
    exact ⟨_, _, w₂, hfile, hunlocks, _, hreread, hunlocks⟩

/-! ## Examples -/

/-- What OpenSSL answers for random numbers that are ones: the key stream starts with `33 02`. -/
def attachmentOpenssl : Openssl :=
  { secretOpenssl with aesCtr := fun text _ _ ↦ xorStream [0x33, 0x02] text }

theorem laws_attachmentOpenssl : attachmentOpenssl.Laws :=
  laws_of_xorStream (fun _ _ ↦ [0x33, 0x02]) (fun _ _ _ ↦ rfl) fun _ _ ↦ by
    simp only [attachmentOpenssl, secretOpenssl, length_secretHmac]

/-- The hash of the ciphertext of `hi`; nothing else has it. -/
def attachmentDigest : Digest := fun data ↦
  some (if data = [0x5b, 0x6b] then base642bin "bYZHN23wDGg72aGQM8Wu4LgpjnRHxY+rctLKt4s9MDY="
    else List.replicate 32 0)

/-- What is written about `plaintext`. -/
def attachmentInfo (plaintext : Str) : Json :=
  match encryptFile attachmentOpenssl attachmentDigest plaintext ones with
  | .ok ((_, info), _) => info.toJson
  | .error _ => .null

theorem restores_attachmentInfo (plaintext ciphertext : Str) (info : EncryptedFile) (w' : World)
    (h : encryptFile attachmentOpenssl attachmentDigest plaintext ones =
      .ok ((ciphertext, info), w')) :
    (knownTexts [attachmentInfo plaintext]).Restores info.toJson := by
  have hinfo : attachmentInfo plaintext = info.toJson := by
    unfold attachmentInfo
    rw [h]
  rw [hinfo]
  exact restores_knownTexts _

theorem attachment_hi :
    Attaches attachmentOpenssl attachmentDigest (knownTexts [attachmentInfo "hi"]) "hi" ones ↔
      (lit "hi").length < 2 ^ 31 :=
  attachment_iff attachmentOpenssl attachmentDigest (knownTexts [attachmentInfo "hi"])
    laws_attachmentOpenssl (fun _ ↦ ⟨_, rfl⟩) "hi" ones (restores_attachmentInfo "hi")

/-- A file of `2 ^ 31` bytes is not encrypted. -/
theorem long_attachment_not_encrypted :
    ∃ plaintext, ¬ Attaches attachmentOpenssl attachmentDigest
      (knownTexts [attachmentInfo plaintext]) plaintext ones := by
  have hlong : ∀ n, 2 ^ 31 ≤ n → ¬ Attaches attachmentOpenssl attachmentDigest
      (knownTexts [attachmentInfo (List.replicate n 'a'.toUInt8)]) (List.replicate n 'a'.toUInt8)
      ones := by
    intro n hn h
    have hlt := length_lt_of_attaches laws_attachmentOpenssl (fun _ ↦ ⟨_, rfl⟩) h
    rw [List.length_replicate] at hlt
    omega
  exact ⟨List.replicate (2 ^ 31) 'a'.toUInt8, hlong _ le_rfl⟩

end Mtx.Crypto
