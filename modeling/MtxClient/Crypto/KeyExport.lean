import MtxClient.Crypto.SecretStorage

/-!
# Exporting sessions

`encrypt_exported_sessions` writes the key files that `decrypt_exported_sessions` reads.  In between
the file is usually armoured: it is base64, broken into lines, between a header and a trailer line.

The sizes that are handed to OpenSSL are cast to `int`, so there is an upper limit on the text of
the sessions.  `exports_iff` says that up to this limit everything is read back that was exported,
and that files that are too short, of another version or not authentic are refused.
-/

set_option autoImplicit false

namespace Mtx.Crypto

open Str

variable (openssl : Openssl) (json : JsonText)

/-- `encrypt_exported_sessions`. -/
def encryptExportedSessions (keys : ExportedSessionKeys) (pass : Str) : OlmM Str := do
  let plaintext ← json.dump keys.toJson
  -- clears the same bit as `compatible_iv`
  let nonce := compatibleIv (← newBuffer 16)
  let salt ← newBuffer 16
  let _ ← newBuffer 64
  let iterations : UInt32 := 100000
  let buf := pbkdf2HmacSha512 openssl pass salt iterations 64
  let aes256 := buf.take 32
  let hmac256 := (buf.drop 32).take 32
  let ciphertext ← aesCtr256Encrypt openssl plaintext aes256 nonce
  let output := 0x01 :: salt ++ nonce ++ uint32ToUint8 iterations ++ ciphertext
  return output ++ openssl.hmac hmac256 output

/-! ## Armoured files -/

/-- `HEADER_LINE`. -/
def headerLine : Str := "-----BEGIN MEGOLM SESSION DATA-----"

/-- `TRAILER_LINE`. -/
def trailerLine : Str := "-----END MEGOLM SESSION DATA-----"

/-- A base64 text with line ends anywhere, with or without the header line before it and the trailer
line behind it. -/
def Armoured (b64 text : Str) : Prop :=
  ∃ before header body trailer after, text = before ++ header ++ body ++ trailer ++ after ∧
    (header = [] ∨ header = headerLine) ∧ (trailer = [] ∨ trailer = trailerLine) ∧
    body.filter (· != '\n'.toUInt8) = b64 ∧
    (∀ b ∈ before, b = '\n'.toUInt8) ∧ ∀ b ∈ after, b = '\n'.toUInt8

theorem not_mem_bin2base64 {b : UInt8} (hletters : b ∉ base64Alphabet.letters)
    (hpad : b ≠ '='.toUInt8) (bin : Str) : b ∉ bin2base64 bin := by
  intro h
  rcases List.mem_append.mp h with h | h
  · exact hletters
      (mem_letters_of_mem_encodeGroups base64Alphabet bin b (List.mem_of_mem_take h))
  · exact hpad (List.eq_of_mem_replicate h)

/-- There are no line ends in base64 texts. -/
theorem filter_bin2base64 (bin : Str) :
    (bin2base64 bin).filter (· != '\n'.toUInt8) = bin2base64 bin := by
  rw [List.filter_eq_self]
  intro b hb
  rw [bne_iff_ne]
  rintro rfl
  exact not_mem_bin2base64 (by decide) (by decide) bin hb

theorem armoured_self (bin : Str) : Armoured (bin2base64 bin) (bin2base64 bin) :=
  ⟨[], [], bin2base64 bin, [], [], by simp, Or.inl rfl, Or.inl rfl, filter_bin2base64 bin, nofun,
    nofun⟩

/-- The removals of `unpack_key_file` leave the base64 text. -/
theorem unpackKeyFile_armoured {bin text : Str} (h : Armoured (bin2base64 bin) text) :
    unpackKeyFile text = bin2base64 bin := by
  obtain ⟨before, header, body, trailer, after, rfl, hheader, htrailer, hbody, hbefore, hafter⟩ := h
  have hnl : ∀ s : Str, (∀ b ∈ s, b = '\n'.toUInt8) → '-'.toUInt8 ∉ s ∧ 'B'.toUInt8 ∉ s ∧
      s.filter (· != '\n'.toUInt8) = [] := fun s hs ↦
    ⟨fun h ↦ absurd (hs _ h) (by decide), fun h ↦ absurd (hs _ h) (by decide),
      List.filter_eq_nil_iff.mpr fun b hb ↦ by rw [hs b hb]; decide⟩
  obtain ⟨hbefore1, -, hbefore2⟩ := hnl before hbefore
  obtain ⟨hafter1, hafterB, hafter2⟩ := hnl after hafter
  have hdash : '-'.toUInt8 ∉ body := fun hmem ↦ by
    refine not_mem_bin2base64 (by decide) (by decide) bin (b := '-'.toUInt8) ?_
    rw [← hbody]
    exact List.mem_filter.mpr ⟨hmem, by decide⟩
  have hu : '-'.toUInt8 ∉ before ++ body := by
    rw [List.mem_append, not_or]
    exact ⟨hbefore1, hdash⟩
  obtain ⟨ht, htail⟩ : ∃ t, trailerLine = '-'.toUInt8 :: t := ⟨_, rfl⟩
  obtain ⟨hh, hhead⟩ : ∃ t, headerLine = '-'.toUInt8 :: t := ⟨_, rfl⟩
  -- there is no other header line
  have hnohead : indexOf? headerLine (before ++ body ++ (trailer ++ after)) = none := by
    rw [hhead, indexOf?_append hu, ← hhead]
    rcases hfind : indexOf? headerLine (trailer ++ after) with - | i
    · rfl
    · have hB := mem_of_indexOf? hfind 'B'.toUInt8 (by decide)
      rcases List.mem_append.mp hB with hB | hB
      · rcases htrailer with rfl | rfl
        · cases hB
        · exact absurd hB (by decide)
      · exact absurd hB hafterB
  have hremove : removeSubstrs (before ++ header ++ body ++ trailer ++ after) headerLine =
      before ++ body ++ (trailer ++ after) := by
    rcases hheader with rfl | rfl
    · rw [List.append_nil, List.append_assoc (before ++ body)]
      exact removeSubstrs_of_none hnohead
    · have hnone : indexOf? headerLine (body ++ (trailer ++ after)) = none := by
        rw [List.append_assoc before, hhead, indexOf?_append hbefore1, ← hhead] at hnohead
        exact Option.map_eq_none_iff.mp hnohead
      have := removeSubstrs_append hbefore1 (hhead ▸ hnone)
      rw [← hhead] at this
      simpa only [List.append_assoc] using this
  have hafterdash : ∀ u : Str, '-'.toUInt8 ∉ u → indexOf? trailerLine u = none := fun u hu ↦ by
    rcases hfind : indexOf? trailerLine u with - | i
    · rfl
    · exact absurd (mem_of_indexOf? hfind '-'.toUInt8 (by decide)) hu
  have htrail : removeSubstrs (before ++ body ++ (trailer ++ after)) trailerLine =
      before ++ body ++ after := by
    rcases htrailer with rfl | rfl
    · refine removeSubstrs_of_none (hafterdash _ ?_)
      rw [List.nil_append, List.mem_append, not_or]
      exact ⟨hu, hafter1⟩
    · have := removeSubstrs_append hu (htail ▸ hafterdash after hafter1)
      rwa [← htail] at this
  rw [unpackKeyFile, show lit "-----BEGIN MEGOLM SESSION DATA-----" = headerLine from rfl,
    show lit "-----END MEGOLM SESSION DATA-----" = trailerLine from rfl, hremove, htrail,
    show lit "\n" = ['\n'.toUInt8] from rfl, removeSubstrs_singleton, List.filter_append,
    List.filter_append, hbefore2, hafter2, hbody, List.nil_append, List.append_nil]

/-! ## The parts of a file -/

/-- What is written one after the other is read as these parts. -/
theorem readKeyFile_of_parts {data salt iv rounds json hmac : Str}
    (h : base642bin (unpackKeyFile data) = 0x01 :: salt ++ iv ++ rounds ++ json ++ hmac)
    (hsalt : salt.length = 16) (hiv : iv.length = 16) (hrounds : rounds.length = 4)
    (hjson : 2 ≤ json.length) (hhmac : hmac.length = 32) :
    readKeyFile data = .ok {
      salt, iv, rounds := uint8ToUint32 rounds, json, hmac
      signed := 0x01 :: salt ++ iv ++ rounds ++ json } := by
  have hsigned : (0x01 :: salt ++ iv ++ rounds ++ json).length = 37 + json.length := by
    simp only [List.length_append, List.length_cons, hsalt, hiv, hrounds]
  have hend : (0x01 :: salt ++ iv ++ rounds ++ json ++ hmac).length - 32 =
      (0x01 :: salt ++ iv ++ rounds ++ json).length := by
    rw [List.length_append, hhmac, Nat.add_sub_cancel]
  have h1 : ((0x01 :: salt ++ iv ++ rounds ++ json ++ hmac).drop 1).take 16 = salt := by
    rw [show (0x01 :: salt ++ iv ++ rounds ++ json ++ hmac).drop 1 =
      salt ++ (iv ++ rounds ++ json ++ hmac) by simp, ← hsalt, List.take_left]
  have h2 : ((0x01 :: salt ++ iv ++ rounds ++ json ++ hmac).drop 17).take 16 = iv := by
    rw [show (0x01 :: salt ++ iv ++ rounds ++ json ++ hmac) =
      (0x01 :: salt) ++ (iv ++ (rounds ++ json ++ hmac)) by simp,
      show 17 = (0x01 :: salt).length by rw [List.length_cons, hsalt], List.drop_left, ← hiv,
      List.take_left]
  have h3 : ((0x01 :: salt ++ iv ++ rounds ++ json ++ hmac).drop 33).take 4 = rounds := by
    rw [show (0x01 :: salt ++ iv ++ rounds ++ json ++ hmac) =
      (0x01 :: salt ++ iv) ++ (rounds ++ (json ++ hmac)) by simp,
      show 33 = (0x01 :: salt ++ iv).length by
        rw [List.length_append, List.length_cons, hsalt, hiv],
      List.drop_left, ← hrounds, List.take_left]
  have h4 : (0x01 :: salt ++ iv ++ rounds ++ json).drop 37 = json := by
    rw [show 37 = (0x01 :: salt ++ iv ++ rounds).length by
      simp only [List.length_append, List.length_cons, hsalt, hiv, hrounds], List.drop_left]
  rw [readKeyFile, h]
  dsimp only
  rw [throwIf_of_not (by rw [List.length_append, hsigned, hhmac]; omega), ok_bind,
    throwIf_of_not (by simp), ok_bind, hend, List.take_left, List.drop_left, h1, h2, h3, h4]
  rfl

/-- What is refused, in terms of the decoded bytes. -/
theorem refuses (data pass : Str) :
    let bytes := base642bin (unpackKeyFile data)
    let derived := pbkdf2HmacSha512 openssl pass ((bytes.drop 1).take 16)
      (uint8ToUint32 ((bytes.drop 33).take 4)) 64
    bytes.length < 71 ∨ bytes.head? ≠ some 0x01 ∨ bytes.drop (bytes.length - 32) ≠
        openssl.hmac ((derived.drop 32).take 32) (bytes.take (bytes.length - 32)) →
      ∃ what, decryptExportedSessions openssl json data pass =
        .error (.cryptoException "decrypt_exported_sessions" what) := by
  intro bytes derived h
  rw [decryptExportedSessions, readKeyFile]
  by_cases hlength : bytes.length < 71
  · exact ⟨"Invalid session file: too short", by rw [throwIf, if_pos hlength]; rfl⟩
  · rw [throwIf_of_not hlength, ok_bind]
    by_cases hhead : bytes.head? ≠ some 0x01
    · exact ⟨"Unsupported backup file format.", by rw [throwIf, if_pos hhead]; rfl⟩
    · rw [throwIf_of_not hhead]
      have hmac := (h.resolve_left hlength).resolve_left hhead
      refine ⟨"HMAC doesn't match", ?_⟩
      show openKeyFile openssl json _ derived = _
      rw [openKeyFile, throwIf, if_pos hmac.symm]
      rfl

/-! ## Round trip -/

/-- What is known about the functions of OpenSSL: decrypting inverts encrypting, the ciphertext is
as long as the text, and an HMAC has 32 bytes. -/
structure Openssl.Laws (openssl : Openssl) : Prop where
  aesCtr_aesCtr : ∀ text key iv, openssl.aesCtr (openssl.aesCtr text key iv) key iv = text
  length_aesCtr : ∀ text key iv, (openssl.aesCtr text key iv).length = text.length
  length_hmac : ∀ key data, (openssl.hmac key data).length = 32

/-- The sessions are exported, and however the file is armoured, what is read of it is what the JSON
of the sessions is read as. -/
def ExportsRoundTrip (keys : ExportedSessionKeys) (pass : Str) (w : World) : Prop :=
  ∃ file w', encryptExportedSessions openssl json keys pass w = .ok (file, w') ∧
    ∀ text, Armoured (bin2base64 file) text →
      ∃ keys', decryptExportedSessions openssl json text pass = .ok keys' ∧
        ExportedSessionKeys.fromJson keys.toJson = .ok keys'

variable {openssl json}

theorem length_pbkdf2HmacSha512 (pass salt : Str) (iterations : UInt32) :
    (pbkdf2HmacSha512 openssl pass salt iterations 64).length = 64 := by
  rw [pbkdf2HmacSha512, pkcs5Pbkdf2Hmac]
  split_ifs
  · exact List.length_replicate
  · exact openssl.length_pbkdf2 _ _ _ _

/-- The text of the sessions is that of an array. -/
theorem two_le_length_dumpText (keys : ExportedSessionKeys) : 2 ≤ keys.toJson.dumpText.length := by
  rw [ExportedSessionKeys.toJson, Json.ofArray, Json.dumpText, List.length_append,
    List.length_append]
  have hopen : (lit "[").length = 1 := by decide
  have hclose : (lit "]").length = 1 := by decide
  omega

/-- The file that is written. -/
theorem encryptExportedSessions_eq (openssl : Openssl) (json : JsonText)
    {keys : ExportedSessionKeys} (pass : Str) (w : World) (hutf8 : keys.toJson.validUtf8 = true) :
    ∃ nonce salt w', nonce.length = 16 ∧ salt.length = 16 ∧
      encryptExportedSessions openssl json keys pass w =
        (do
          let buf := pbkdf2HmacSha512 openssl pass salt 100000 64
          let ciphertext ← aesCtr256Encrypt openssl (json.text keys.toJson) (buf.take 32) nonce
          let output := 0x01 :: salt ++ nonce ++ uint32ToUint8 100000 ++ ciphertext
          return output ++ openssl.hmac ((buf.drop 32).take 32) output : OlmM Str) w' := by
  obtain ⟨nonce, w₁, hnonce, hnlength⟩ := newBuffer_spec (n := 16) (by decide) w
  obtain ⟨salt, w₂, hsalt, hslength⟩ := newBuffer_spec (n := 16) (by decide) w₁
  obtain ⟨buf, w₃, hbuf, -⟩ := newBuffer_spec (n := 64) (by decide) w₂
  refine ⟨compatibleIv nonce, salt, w₃, by rw [compatibleIv, List.length_modify, hnlength],
    hslength, ?_⟩
  rw [encryptExportedSessions,
    olmM_bind_of_ok (olmM_liftM_eq_ok_iff.mpr ⟨json.dump_of_validUtf8 hutf8, rfl⟩),
    olmM_bind_of_ok hnonce, olmM_bind_of_ok hsalt, olmM_bind_of_ok hbuf]

variable (json) in
/-- A file is opened again with the key it was closed with. -/
theorem openKeyFile_closed (laws : openssl.Laws) (salt rounds : Str) {buf iv text : Str}
    (hbuf : buf.length = 64) (hiv : iv.length = 16) (hlength : text.length < 2 ^ 31) :
    let ciphertext := openssl.aesCtr text (buf.take 32) iv
    let signed := 0x01 :: salt ++ iv ++ rounds ++ ciphertext
    openKeyFile openssl json {
      salt, iv, rounds := uint8ToUint32 rounds, json := ciphertext
      hmac := openssl.hmac ((buf.drop 32).take 32) signed, signed } buf =
    json.parse text >>= ExportedSessionKeys.fromJson := by
  intro ciphertext signed
  have hkey : (buf.take 32).length = 32 := by rw [List.length_take, hbuf]; rfl
  have htake : (buf.take 32).take 32 = buf.take 32 := by rw [List.take_take]; rfl
  have htakeiv : iv.take 16 = iv := List.take_of_length_le hiv.le
  have hplain : aesCtr256 openssl ciphertext (buf.take 32) iv = .ok text := by
    rw [aesCtr256_eq_ok hkey.ge hiv.ge (by rwa [laws.length_aesCtr]), htake, htakeiv,
      laws.aesCtr_aesCtr]
  rw [openKeyFile]
  dsimp only
  rw [throwIf_of_not (not_not.mpr rfl), ok_bind, hplain, ok_bind]

variable (json) in
/-- What is read of an armoured file with the text `part`. -/
theorem decryptExportedSessions_armoured (laws : openssl.Laws) {pass salt nonce part text : Str}
    (hsalt : salt.length = 16) (hnonce : nonce.length = 16) (hshort : part.length < 2 ^ 31)
    (hlong : 2 ≤ part.length) :
    let buf := pbkdf2HmacSha512 openssl pass salt 100000 64
    let output := 0x01 :: salt ++ nonce ++ uint32ToUint8 100000 ++
      openssl.aesCtr part (buf.take 32) nonce
    Armoured (bin2base64 (output ++ openssl.hmac ((buf.drop 32).take 32) output)) text →
      decryptExportedSessions openssl json text pass =
        json.parse part >>= ExportedSessionKeys.fromJson := by
  intro buf output harmoured
  have hbuf : buf.length = 64 := length_pbkdf2HmacSha512 pass salt 100000
  have hbytes := unpackKeyFile_armoured harmoured
  have hread := readKeyFile_of_parts (by rw [hbytes, base642bin_bin2base64]) hsalt hnonce rfl
    (by rwa [laws.length_aesCtr]) (laws.length_hmac _ _)
  have hopen := openKeyFile_closed json laws salt (uint32ToUint8 100000) hbuf hnonce
    hshort
  rw [show uint8ToUint32 (uint32ToUint8 100000) = 100000 by decide] at hread hopen
  rw [decryptExportedSessions, hread, ok_bind]
  exact hopen

/-- Sessions whose text is not too long are exported to a file that is read back. -/
theorem encryptExportedSessions_spec (laws : openssl.Laws) {keys : ExportedSessionKeys}
    (hutf8 : keys.toJson.validUtf8 = true) (htext : json.text keys.toJson = keys.toJson.dumpText)
    (hrestores : json.Restores keys.toJson) (hlength : keys.toJson.dumpText.length < 2 ^ 31)
    (pass : Str) (w : World) :
    ∃ file w', encryptExportedSessions openssl json keys pass w = .ok (file, w') ∧
      ∀ text, Armoured (bin2base64 file) text →
        decryptExportedSessions openssl json text pass =
          .ok ⟨keys.sessions.map ExportedSession.reread⟩ := by
  obtain ⟨nonce, salt, w₁, hnonce, hsalt, hencrypt⟩ :=
    encryptExportedSessions_eq openssl json pass w hutf8
  have haes : ((pbkdf2HmacSha512 openssl pass salt 100000 64).take 32).length = 32 := by
    rw [List.length_take, length_pbkdf2HmacSha512]
    rfl
  rw [← htext] at hlength
  have hcipher : aesCtr256 openssl (json.text keys.toJson) _ nonce = .ok _ :=
    aesCtr256_eq_ok haes.ge hnonce.ge hlength
  rw [List.take_of_length_le haes.le, List.take_of_length_le hnonce.le] at hcipher
  obtain ⟨w₂, hw₂⟩ := aesCtr256Encrypt_eq_ok hcipher w₁
  refine ⟨_, w₂, by rw [hencrypt, olmM_bind_of_ok hw₂]; rfl, fun text harmoured ↦ ?_⟩
  have hread := decryptExportedSessions_armoured json laws hsalt hnonce hlength
    (by rw [htext]; exact two_le_length_dumpText keys) harmoured
  rw [hread, hrestores, ok_bind, keys.fromJson_toJson]

theorem decryptExportedSessions_ne_ok_of_short {file : Str} (h : file.length < 71) (pass : Str)
    (keys : ExportedSessionKeys) :
    decryptExportedSessions openssl json (bin2base64 file) pass ≠ .ok keys := by
  have hbytes := unpackKeyFile_armoured (armoured_self file)
  obtain ⟨what, hrefused⟩ := refuses openssl json (bin2base64 file) pass
    (Or.inl (by rwa [hbytes, base642bin_bin2base64]))
  rw [hrefused]
  exact nofun

/-- **A text that is too long is not read back**: at most its start is encrypted, and that is not
parsed. -/
theorem length_lt_of_exportsRoundTrip (laws : openssl.Laws) {keys : ExportedSessionKeys}
    (hutf8 : keys.toJson.validUtf8 = true) {pass : Str} {w : World}
    (hprefixes : json.RefusesPrefixes (json.text keys.toJson))
    (h : ExportsRoundTrip openssl json keys pass w) : (json.text keys.toJson).length < 2 ^ 31 := by
  obtain ⟨file, w', hfile, hread⟩ := h
  obtain ⟨nonce, salt, w₁, hnonce, hsalt, hencrypt⟩ :=
    encryptExportedSessions_eq openssl json pass w hutf8
  have haes : ((pbkdf2HmacSha512 openssl pass salt 100000 64).take 32).length = 32 := by
    rw [List.length_take, length_pbkdf2HmacSha512]
    rfl
  rw [hencrypt] at hfile
  obtain ⟨ciphertext, w₂, hciphertext, hreturn⟩ := olmM_bind_eq_ok_iff.mp hfile
  obtain ⟨part, hpart, hshort, rfl⟩ := exists_of_aesCtr256Encrypt haes hnonce hciphertext
  obtain ⟨rfl, -⟩ := Prod.mk.inj (Except.ok.inj hreturn)
  obtain ⟨keys', hdecrypt, -⟩ := hread _ (armoured_self _)
  by_cases hwhole : part = json.text keys.toJson
  · rwa [← hwhole]
  · by_cases hlong : 2 ≤ part.length
    · obtain ⟨e, hparse⟩ := hprefixes part hpart hwhole
      rw [decryptExportedSessions_armoured json laws hsalt hnonce hshort hlong (armoured_self _),
        hparse] at hdecrypt
      cases hdecrypt
    · -- the version, the salt, the vector, the rounds and the HMAC take 69 bytes
      refine absurd hdecrypt (decryptExportedSessions_ne_ok_of_short ?_ pass _)
      simp only [List.length_append, List.length_cons, hsalt, hnonce, laws.length_aesCtr,
        laws.length_hmac, uint32ToUint8, List.length_nil]
      omega

/-- **Exported sessions are read back if their text is not too long**, and files that are too short,
of another version or not authentic are refused. -/
theorem exports_iff (openssl : Openssl) (json : JsonText) (laws : openssl.Laws)
    (keys : ExportedSessionKeys) (hutf8 : keys.toJson.validUtf8 = true)
    (htext : json.text keys.toJson = keys.toJson.dumpText) (hrestores : json.Restores keys.toJson)
    (hprefixes : json.RefusesPrefixes keys.toJson.dumpText) (pass : Str) (w : World) :
    (ExportsRoundTrip openssl json keys pass w ↔ keys.toJson.dumpText.length < 2 ^ 31) ∧
    ∀ data,
      let bytes := base642bin (unpackKeyFile data)
      let derived := pbkdf2HmacSha512 openssl pass ((bytes.drop 1).take 16)
        (uint8ToUint32 ((bytes.drop 33).take 4)) 64
      bytes.length < 71 ∨ bytes.head? ≠ some 0x01 ∨ bytes.drop (bytes.length - 32) ≠
          openssl.hmac ((derived.drop 32).take 32) (bytes.take (bytes.length - 32)) →
        ∃ what, decryptExportedSessions openssl json data pass =
          .error (.cryptoException "decrypt_exported_sessions" what) := by
  refine ⟨⟨fun h ↦ ?_, fun hlength ↦ ?_⟩, fun data ↦ refuses openssl json data pass⟩
  · rw [← htext] at hprefixes ⊢
    exact length_lt_of_exportsRoundTrip laws hutf8 hprefixes h
  · obtain ⟨file, w', hfile, hread⟩ :=
      encryptExportedSessions_spec laws hutf8 htext hrestores hlength pass w
    exact ⟨file, w', hfile, fun text harmoured ↦
      ⟨_, hread text harmoured, keys.fromJson_toJson⟩⟩

/-! ## Examples -/

/-- A text encrypted with a key stream that starts with `stream`. -/
def xorStream (stream text : Str) : Str := text.mapIdx fun i b ↦ b ^^^ stream.getD i 0

theorem laws_of_xorStream {openssl : Openssl} (stream : Str → Str → Str)
    (haes : ∀ text key iv, openssl.aesCtr text key iv = xorStream (stream key iv) text)
    (hhmac : ∀ key data, (openssl.hmac key data).length = 32) : openssl.Laws where
  aesCtr_aesCtr text key iv := by
    rw [haes, haes]
    refine List.ext_getElem (by simp [xorStream]) fun i _ _ ↦ ?_
    simp only [xorStream, List.getElem_mapIdx]
    rw [UInt8.xor_assoc, UInt8.xor_self, UInt8.xor_zero]
  length_aesCtr text key iv := by
    rw [haes]
    exact List.length_mapIdx
  length_hmac := hhmac

/-- The HMAC of `01`, 32 ones, the number of iterations and the ciphertext `35 63`. -/
def secretHmac : Str := base642bin "sOB7yPjio1uPbZulmm084P6BpoFYT8jvoYeMJ6TofOs="

theorem length_secretHmac : secretHmac.length = 32 := by decide +kernel

/-- What OpenSSL answers for the passphrase `secret`, random numbers that are ones and no sessions:
the key stream starts with `6e 3e`. -/
def secretOpenssl : Openssl where
  pbkdf2 _ _ _ keylen := (base642bin "TdXZ7XD+ut8lW3AfxAjkwNfvDBiIwKawZUBWgsvlAEE=" ++
    base642bin "4wuZty9dtkjkjIX+dPf4CjMNvJ/WNNsq99+zRR/afo0=").takeD keylen 0
  length_pbkdf2 _ _ _ keylen := List.takeD_length keylen _ 0
  hmac _ _ := secretHmac
  hkdf _ _ _ := .error "EVP_KDF_derive"
  aesCtr text _ _ := text.mapIdx fun i b ↦ b ^^^ [0x6e, 0x3e].getD i 0

theorem laws_secretOpenssl : secretOpenssl.Laws :=
  laws_of_xorStream (fun _ _ ↦ [0x6e, 0x3e]) (fun _ _ _ ↦ rfl) fun _ _ ↦ by
    simp only [secretOpenssl, length_secretHmac]

/-- A session that is exported. -/
def savedSession : ExportedSession where
  room_id := "!room:example.com"
  sender_key := "c2VuZGVy"
  session_id := "c2Vzc2lvbg"
  session_key := "a2V5"

/-- The text that is exported of it. -/
def savedSessionText : JsonText := knownTexts [ExportedSessionKeys.toJson ⟨[savedSession]⟩]

/-- The key stream for the passphrase `secret` and random numbers that are ones. -/
def secretStream : Str :=
  base642bin "bj5y0J4JChcpKVeLR+P7bIkNr34W+AVlv1DCekoH/DNs+PJFseMBt+0+dHZGRbr5VU+oX03WHSLr" ++
  base642bin "uCsu7RrGPOYgIf63mr7zcBucshSYNhRMszJKv20Tg4O8ST6Xt51Pq+skCsQwOMSKryK9NSvVjaVs" ++
  base642bin "KjBAsQi7fZ03ARXYmk/kr4hehKnFN3TOpal7OVcnnK8Ynr+3GxkGCbV6L1VMzM4bjw0bDqXLwffd" ++
  base642bin "5YU0Ti+OQ8/pd540DnM2//J1AgqPPTKsWAgzOyIo"

/-- The HMAC of the file that the session is exported to. -/
def sessionHmac : Str := base642bin "AoYWOrI3vCTCTuetLlYpWMP6goviHciBCVKE/fl2Ksg="

theorem length_sessionHmac : sessionHmac.length = 32 := by decide +kernel

/-- What OpenSSL answers for the session. -/
def sessionOpenssl : Openssl :=
  { secretOpenssl with
    hmac := fun _ _ ↦ sessionHmac
    aesCtr := fun text _ _ ↦ xorStream secretStream text }

theorem laws_sessionOpenssl : sessionOpenssl.Laws :=
  laws_of_xorStream (fun _ _ ↦ secretStream) (fun _ _ _ ↦ rfl) fun _ _ ↦ by
    simp only [sessionOpenssl, length_sessionHmac]

theorem exports_savedSession :
    ExportsRoundTrip sessionOpenssl savedSessionText ⟨[savedSession]⟩ "secret" ones ∧
    ∀ data,
      let bytes := base642bin (unpackKeyFile data)
      let derived := pbkdf2HmacSha512 sessionOpenssl "secret" ((bytes.drop 1).take 16)
        (uint8ToUint32 ((bytes.drop 33).take 4)) 64
      bytes.length < 71 ∨ bytes.head? ≠ some 0x01 ∨ bytes.drop (bytes.length - 32) ≠
          sessionOpenssl.hmac ((derived.drop 32).take 32) (bytes.take (bytes.length - 32)) →
        ∃ what, decryptExportedSessions sessionOpenssl savedSessionText data "secret" =
          .error (.cryptoException "decrypt_exported_sessions" what) :=
  (exports_iff sessionOpenssl savedSessionText laws_sessionOpenssl ⟨[savedSession]⟩
    (by decide +kernel) rfl (restores_knownTexts _) (refusesPrefixes_knownTexts _) "secret"
    ones).imp_left fun h ↦ h.mpr (by decide +kernel)

/-- A session whose key has `n` bytes. -/
def longSession (n : ℕ) : ExportedSession where
  room_id := "!room:example.com"
  sender_key := []
  session_id := []
  session_key := List.replicate n 'a'.toUInt8

/-- The text of a session is longer than its key. -/
theorem length_session_key_le (s : ExportedSession) :
    s.session_key.length ≤ (ExportedSessionKeys.toJson ⟨[s]⟩).dumpText.length := by
  have hfind : s.toJson.find? "session_key" = some (.string s.session_key) := by
    rw [ExportedSession.toJson, Json.find?_ofMembers, SortedMap.find?_insert, if_pos rfl]
  calc s.session_key.length ≤ (Json.string s.session_key).dumpText.length := by
        rw [Json.dumpText]
        exact Json.length_le_quote s.session_key
    _ ≤ s.toJson.dumpText.length := Json.length_dumpText_le_of_find? hfind
    _ ≤ (Json.dumpList [s.toJson]).length :=
        Json.length_dumpText_le_of_mem_list (List.mem_singleton_self _)
    _ ≤ (ExportedSessionKeys.toJson ⟨[s]⟩).dumpText.length := by
        rw [ExportedSessionKeys.toJson, Json.ofArray, Json.dumpText, List.length_append,
          List.length_append]
        exact Nat.le_add_right_of_le (Nat.le_add_left _ _)

theorem validUtf8_longSession (n : ℕ) :
    (ExportedSessionKeys.toJson ⟨[longSession n]⟩).validUtf8 = true := by
  have hkey : Str.validUtf8 (longSession n).session_key = true :=
    validUtf8_of_ascii fun b hb ↦ by rw [List.eq_of_mem_replicate hb]; decide
  rw [ExportedSessionKeys.toJson, Json.ofArray, Json.validUtf8, Json.validUtf8List_iff]
  intro j hj
  obtain ⟨s, hs, rfl⟩ := List.mem_map.mp hj
  obtain rfl := List.mem_singleton.mp hs
  exact Json.validUtf8_ofMembers (.insert (.insert (.insert (.insert (.insert (.insert (.insert
    .empty ⟨by decide, rfl⟩) ⟨by decide, rfl⟩) ⟨by decide, rfl⟩) ⟨by decide, rfl⟩) ⟨by decide, rfl⟩)
    ⟨by decide, rfl⟩) ⟨by decide, hkey⟩)

/-- A session key of `2 ^ 31` bytes cannot be exported. -/
theorem long_session_not_exported :
    ∃ keys : ExportedSessionKeys, keys.toJson.validUtf8 = true ∧
      ¬ ExportsRoundTrip secretOpenssl (knownTexts [keys.toJson]) keys "secret" ones := by
  have hlong : ∀ n, 2 ^ 31 ≤ n → ¬ ExportsRoundTrip secretOpenssl
      (knownTexts [ExportedSessionKeys.toJson ⟨[longSession n]⟩]) ⟨[longSession n]⟩ "secret"
      ones := by
    intro n hn h
    have hlt : (ExportedSessionKeys.toJson ⟨[longSession n]⟩).dumpText.length < 2 ^ 31 :=
      length_lt_of_exportsRoundTrip laws_secretOpenssl (validUtf8_longSession n)
        (refusesPrefixes_knownTexts _) h
    have hle := length_session_key_le (longSession n)
    have hlength : (longSession n).session_key.length = n := List.length_replicate
    omega
  exact ⟨⟨[longSession (2 ^ 31)]⟩, validUtf8_longSession _, hlong _ le_rfl⟩

end Mtx.Crypto
