import MtxClient.Crypto.Backups
import MtxClient.Crypto.BackupVersion
import MtxClient.Crypto.KeyExport
import MtxClient.Crypto.RecoveryKeys
import MtxClient.Http.Callback

/-!
# Exporting a key backup

The program `online_backup_exporter` downloads the online key backup of an account and writes its
sessions to a key file.  The key of the backup is a secret in secret storage: it is unlocked with
the passphrase or the recovery key of the account, whichever the user has, and the user is asked
again until it is right.  Sessions that cannot be decrypted are left out.

All of the library's cryptography is on the way from one session to the other.  `exports_sessions`
says that what was put into the backup is what is read from the file.
-/

set_option autoImplicit false

namespace Mtx.Programs

open Str Crypto

/-! ## The program -/

/-- The bodies that the server answers with, where `none` stands for a request that fails. -/
structure Answers where
  backup_version : Option Json
  roomKeys (version : Str) : Option Json
  secretStorageSecret (secret_id : Str) : Option Json
  secretStorageKey (key_id : Str) : Option Json

/-- What comes of a run of the program. -/
inductive Outcome where
  /-- It prints an error and ends. -/
  | failed (what : String)
  /-- It waits for more input. -/
  | waiting
  /-- It writes the file. -/
  | exported (file : Str)

/-- What the callback of a request is called with: nothing if the request fails, or if its answer
cannot be read. -/
def readAnswer {α : Type} (read : Json → Except Exn α) (body : Option Json) :
    Except Exn (Option α) :=
  match body with
  | none => .ok none
  | some obj =>
    match read obj with
    | .ok a => .ok (some a)
    | .error e => if Http.isStd e then .ok none else .error e

/-- `do … while (!temp)`: the first input that is accepted. -/
def askUntil (read : Str → Except Exn (Option Str)) : List Str → Except Exn (Option Str)
  | [] => .ok none
  | line :: input => do
    match ← read line with
    | some key => return some key
    | none => askUntil read input

/-- The session that is exported. -/
def exportSession (room_id session_id : Str) (session : SessionData) : ExportedSession where
  algorithm := session.algorithm
  sender_key := session.sender_key
  session_id
  room_id
  session_key := session.session_key
  sender_claimed_keys := session.sender_claimed_keys
  forwarding_curve25519_key_chain := session.forwarding_curve25519_key_chain

variable (openssl : Openssl) (olm : Libolm) (json : JsonText)

/-- One round of the inner loop of `export_backup`. -/
def addSession (sessionDecryptionKey room_id : Str) (exported_sessions : List ExportedSession)
    (entry : Str × SessionBackup) : Except Exn (List ExportedSession) :=
  match decryptSession olm json entry.2.session_data sessionDecryptionKey with
  | .ok session => .ok (exported_sessions ++ [exportSession room_id entry.1 session])
  | .error e => if Http.isStd e then .ok exported_sessions else .error e

/-- The loops of `export_backup`. -/
def collectSessions (sessionDecryptionKey : Str) (backup : KeysBackup) :
    Except Exn (List ExportedSession) :=
  backup.rooms.entries.foldlM (fun exported_sessions room ↦
    room.2.sessions.entries.foldlM (addSession olm json sessionDecryptionKey room.1)
      exported_sessions) []

/-- The key that `export_backup` makes of a line of input. -/
def unlock (keyDesc : AesHmacSha2KeyDescription) (line : Str) : Except Exn (Option Str) :=
  if keyDesc.passphrase.isSome then keyFromPassphrase openssl line keyDesc
  else keyFromRecoverykey openssl line keyDesc

/-- The file that is written. -/
def exportFile (encrypted_file : Str) : Str :=
  headerLine ++ lit "\n" ++ bin2base64 encrypted_file ++ lit "\n" ++ trailerLine

/-- `export_backup`. -/
def exportBackup (keyDesc : AesHmacSha2KeyDescription) (secretData : AesHmacSha2EncryptedData)
    (backup : KeysBackup) (input : List Str) (filePassword : Str) : OlmM Outcome := do
  match ← askUntil (unlock openssl keyDesc) input with
  | none => return .waiting
  | some decryptionKey =>
    let decryptedSecret ← (decrypt openssl secretData decryptionKey "m.megolm_backup.v1").result
    if decryptedSecret.isEmpty then return .failed "Failed to get backup key from secret" else
    let sessionDecryptionKey := base642bin decryptedSecret
    let exported_sessions ← collectSessions olm json sessionDecryptionKey backup
    let encrypted_file ← encryptExportedSessions openssl json ⟨exported_sessions⟩ filePassword
    return .exported (exportFile encrypted_file)

/-- The requests that `login_handler` makes one after the other. -/
def loginHandler (answers : Answers) (input : List Str) (filePassword : Str) : OlmM Outcome := do
  match ← readAnswer (BackupVersion.fromJson json) answers.backup_version with
  | none => return .failed "Error fetching the backup version: "
  | some backup_version =>
    if backup_version.algorithm ≠ lit "m.megolm_backup.v1.curve25519-aes-sha2" then
      return .failed "Incompatible backup algorithm: "
    else
    match ← readAnswer KeysBackup.fromJson (answers.roomKeys backup_version.version) with
    | none => return .failed "Error fetching the backup: "
    | some backup =>
      match ← readAnswer Secret.fromJson (answers.secretStorageSecret "m.megolm_backup.v1") with
      | none => return .failed "Error fetching the backup secret: "
      | some secret =>
        match secret.encrypted.entries with
        | [(key_id, secretData)] =>
          match ← readAnswer AesHmacSha2KeyDescription.fromJson
            (answers.secretStorageKey key_id) with
          | none => return .failed "Error fetching the backup key description: "
          | some keyDesc =>
            exportBackup openssl olm json keyDesc secretData backup input filePassword
        | _ => return .failed "Only one encryption key for backup supported. Aborting.\n"

/-! ## What is expected of it -/

/-- What the backup relies on: libolm decrypts what it encrypted to a public key with the private
key that belongs to it. -/
def PkRoundTrip (olm : Libolm) : Prop :=
  ∀ (privateKey : Str) (pair : olm.PkKeyPair) (publicKey : Str),
    olm.pkKeyFromPrivate privateKey = some (pair, publicKey) →
      ∃ key, olm.pkEncryptionSetRecipientKey publicKey = some key ∧
        ∀ plaintext random ciphertext mac ephemeral,
          olm.pkEncrypt key plaintext random = some (ciphertext, mac, ephemeral) →
            olm.pkDecrypt pair ephemeral mac ciphertext = some plaintext

/-- The data is the session, encrypted to the public key, or, where no session is given, something
that cannot be decrypted. -/
def Holds (publicKey privateKey : Str) (data : EncryptedSessionData) :
    Option SessionData → Prop
  | some session => json.Restores session.toJson ∧
    ∃ w w', encryptSession olm json session publicKey w = .ok (data, w')
  | none => ∃ e, decryptSession olm json data privateKey = .error e ∧ Http.isStd e = true

/-- An account with a key backup: its sessions are encrypted to the public key of the backup, whose
private key is a secret under the key that was made for the passphrase. -/
structure BackedUp (password : Str) (setup : SSSSSetup) (privateKey publicKey : Str)
    (backup : KeysBackup) (plain : Str → Str → Option SessionData) (answers : Answers) : Prop where
  created : ∃ w w', createSsssKey openssl password w = .ok (setup, w')
  public_key : ∃ pair, olm.pkKeyFromPrivate privateKey = some (pair, publicKey)
  private_key : privateKey.length = 32
  version : ∃ obj v, answers.backup_version = some obj ∧ BackupVersion.fromJson json obj = .ok v ∧
    v.algorithm = lit "m.megolm_backup.v1.curve25519-aes-sha2" ∧
    answers.roomKeys v.version = some backup.toJson.asParsed
  secret : ∃ key_id data w w',
    encrypt openssl (bin2base64 privateKey) setup.privateKey "m.megolm_backup.v1" w =
      .ok (data, w') ∧
    answers.secretStorageSecret "m.megolm_backup.v1" =
      some (Secret.toJson ⟨SortedMap.empty.insert key_id data⟩).asParsed ∧
    answers.secretStorageKey key_id = some setup.keyDescription.toJson.asParsed
  sessions : ∀ room_id r session_id s, backup.rooms.find? room_id = some r →
    r.sessions.find? session_id = some s →
      Holds olm json publicKey privateKey s.session_data (plain room_id session_id)
  utf8 : backup.toJson.validUtf8 = true

/-- The sessions of a backup in the order of its rooms. -/
def sessionsOf (plain : Str → Str → Option SessionData) (backup : KeysBackup) :
    ExportedSessionKeys where
  sessions := backup.rooms.entries.flatMap fun room ↦
    room.2.sessions.entries.filterMap fun entry ↦
      (plain room.1 entry.1).map (exportSession room.1 entry.1)

variable {openssl olm json}

/-! ## Unlocking -/

/-- A new key is unlocked by its passphrase, if it has one, and otherwise by its recovery key. -/
theorem unlock_created
    (hhkdf : ∀ key salt info, ∃ buf, openssl.hkdf key salt info = .ok buf ∧ buf.length = 64)
    {password : Str} {setup : SSSSSetup} {w w' : World}
    (h : createSsssKey openssl password w = .ok (setup, w')) {line : Str}
    (hline : if password = [] then
      line.filter (· != ' '.toUInt8) = keyToRecoverykey setup.privateKey else line = password) :
    unlock openssl setup.keyDescription line = .ok (some setup.privateKey) := by
  obtain ⟨key, passphrase, w₁, hderive, hsome, hnone⟩ := deriveSsssKey_spec openssl password w
  obtain ⟨name, iv, mac, w₂, hdescribe, hcheck⟩ := describeSsssKey_spec hhkdf key passphrase w₁
  rw [createSsssKey, olmM_bind_of_ok hderive] at h
  obtain ⟨rfl, -⟩ := Prod.mk.inj (Except.ok.inj (h.symm.trans hdescribe))
  by_cases hne : password = []
  · rw [if_pos hne] at hline
    rw [unlock, hnone hne, if_neg (by simp)]
    exact keyFromRecoverykey_eq hline (hcheck _ rfl rfl)
  · rw [if_neg hne] at hline
    obtain ⟨salt, hkey, rfl⟩ := hsome hne
    rw [unlock, if_pos (by rfl), hline]
    exact keyFromPassphrase_eq_some_iff.mpr ⟨_, rfl, rfl, hkey.symm, hcheck _ rfl rfl⟩

/-- The user is asked until the input is right. -/
theorem askUntil_append {read : Str → Except Exn (Option Str)} {wrong : List Str} {right key : Str}
    (hwrong : ∀ line ∈ wrong, read line = .ok none) (hright : read right = .ok (some key))
    (input : List Str) : askUntil read (wrong ++ right :: input) = .ok (some key) := by
  induction wrong with
  | nil => rw [List.nil_append, askUntil, hright]; rfl
  | cons line wrong ih =>
    rw [List.cons_append, askUntil, hwrong line List.mem_cons_self]
    exact ih fun line hline ↦ hwrong line (List.mem_cons_of_mem _ hline)

/-! ## Decrypting the sessions -/

/-- What is encrypted to the public key is decrypted with the private key. -/
theorem decryptSession_encryptSession (holm : PkRoundTrip olm) {privateKey publicKey : Str}
    {pair : olm.PkKeyPair} (hpair : olm.pkKeyFromPrivate privateKey = some (pair, publicKey))
    {session : SessionData} {data : EncryptedSessionData} {w w' : World}
    (hrestores : json.Restores session.toJson)
    (h : encryptSession olm json session publicKey w = .ok (data, w')) :
    decryptSession olm json data privateKey = SessionData.fromJson session.toJson := by
  obtain ⟨text, w₁, htext, h⟩ := olmM_bind_eq_ok_iff.mp h
  obtain ⟨-, rfl⟩ := JsonText.dump_eq_ok_iff.mp (olmM_liftM_eq_ok_iff.mp htext).1
  obtain ⟨random, hencrypt⟩ := curve25519AesSha2Encrypt_eq_ok h
  obtain ⟨key, hkey, hdecrypts⟩ := holm _ _ _ hpair
  rw [hkey, Option.getD_some] at hencrypt
  have hplain : curve25519AesSha2Decrypt olm data.ciphertext privateKey data.ephemeral data.mac =
      .ok (json.text session.toJson) := by
    rw [curve25519AesSha2Decrypt_eq_ok_iff, hpair]
    exact hdecrypts _ _ _ _ _ hencrypt
  rw [decryptSession, hplain, ok_bind, hrestores, ok_bind]

/-- A round of the inner loop adds the session that was put into the backup. -/
theorem addSession_of_holds (holm : PkRoundTrip olm) {privateKey publicKey : Str}
    {pair : olm.PkKeyPair} (hpair : olm.pkKeyFromPrivate privateKey = some (pair, publicKey))
    {entry : Str × SessionBackup} {session? : Option SessionData}
    (h : Holds olm json publicKey privateKey entry.2.session_data session?) (room_id : Str)
    (exported_sessions : List ExportedSession) :
    addSession olm json privateKey room_id exported_sessions entry =
      .ok (exported_sessions ++ (session?.map (exportSession room_id entry.1)).toList) := by
  cases session? with
  | some session =>
    obtain ⟨hrestores, w, w', hencrypt⟩ := h
    rw [addSession, decryptSession_encryptSession holm hpair hrestores hencrypt,
      SessionData.fromJson_toJson]
    rfl
  | none =>
    obtain ⟨e, herror, hstd⟩ := h
    rw [addSession, herror]
    dsimp only
    rw [if_pos hstd, Option.map_none, Option.toList_none, List.append_nil]

/-- A loop that appends in each round appends everything. -/
theorem foldlM_append {α β : Type} {f : List β → α → Except Exn (List β)} {g : α → List β}
    {xs : List α} (h : ∀ x ∈ xs, ∀ out, f out x = .ok (out ++ g x)) (out : List β) :
    xs.foldlM f out = .ok (out ++ xs.flatMap g) := by
  induction xs generalizing out with
  | nil => rw [List.foldlM_nil, List.flatMap_nil, List.append_nil]; rfl
  | cons x xs ih =>
    rw [List.foldlM_cons, h x List.mem_cons_self, ok_bind,
      ih fun y hy ↦ h y (List.mem_cons_of_mem _ hy), List.flatMap_cons, List.append_assoc]

/-- The loops collect the sessions that were put into the backup. -/
theorem collectSessions_eq (holm : PkRoundTrip olm) {privateKey publicKey : Str}
    {pair : olm.PkKeyPair} (hpair : olm.pkKeyFromPrivate privateKey = some (pair, publicKey))
    {backup : KeysBackup} {plain : Str → Str → Option SessionData}
    (h : ∀ room_id r session_id s, backup.rooms.find? room_id = some r →
      r.sessions.find? session_id = some s →
        Holds olm json publicKey privateKey s.session_data (plain room_id session_id)) :
    collectSessions olm json privateKey backup = .ok (sessionsOf plain backup).sessions := by
  have hinner : ∀ room ∈ backup.rooms.entries, ∀ out,
      room.2.sessions.entries.foldlM (addSession olm json privateKey room.1) out = .ok (out ++
        room.2.sessions.entries.filterMap fun entry ↦
          (plain room.1 entry.1).map (exportSession room.1 entry.1)) := by
    intro room hroom out
    rw [foldlM_append (g := fun entry ↦
      ((plain room.1 entry.1).map (exportSession room.1 entry.1)).toList),
      List.filterMap_eq_flatMap_toList]
    intro entry hentry out
    exact addSession_of_holds holm hpair (h _ _ _ _ (SortedMap.mem_entries_iff.mp hroom)
      (SortedMap.mem_entries_iff.mp hentry)) room.1 out
  rw [collectSessions, foldlM_append hinner, List.nil_append]
  rfl

/-! ## The file -/

theorem of_validUtf8_ofMap {α : Type} {put : α → Json} {m : SortedMap Str α} {k : Str} {a : α}
    (h : (Json.ofMap put m).validUtf8 = true) (hfind : m.find? k = some a) :
    validUtf8 k = true ∧ (put a).validUtf8 = true := by
  rw [Json.ofMap, Json.validUtf8, Json.validUtf8Members_iff] at h
  exact h _ (List.mem_map.mpr ⟨(k, a), SortedMap.mem_entries_iff.mpr hfind, rfl⟩)

/-- What is exported is UTF-8 if the ids and the session are. -/
theorem validUtf8_exportSession {room_id session_id : Str} {session : SessionData}
    (hroom : validUtf8 room_id = true) (hid : validUtf8 session_id = true)
    (h : session.toJson.validUtf8 = true) :
    (exportSession room_id session_id session).toJson.validUtf8 = true := by
  have halgorithm : (Json.string session.algorithm).validUtf8 = true :=
    Json.validUtf8_of_find? (k := lit "algorithm") h (by simp [SessionData.toJson])
  have hchain : (Json.ofArray .string session.forwarding_curve25519_key_chain).validUtf8 = true :=
    Json.validUtf8_of_find? (k := lit "forwarding_curve25519_key_chain") h
      (by simp [SessionData.toJson])
  have hsender : (Json.string session.sender_key).validUtf8 = true :=
    Json.validUtf8_of_find? (k := lit "sender_key") h (by simp [SessionData.toJson])
  have hclaimed : (Json.ofMap .string session.sender_claimed_keys).validUtf8 = true :=
    Json.validUtf8_of_find? (k := lit "sender_claimed_keys") h (by simp [SessionData.toJson])
  have hkey : (Json.string session.session_key).validUtf8 = true :=
    Json.validUtf8_of_find? (k := lit "session_key") h (by simp [SessionData.toJson])
  exact Json.validUtf8_ofMembers (.insert (.insert (.insert (.insert (.insert (.insert (.insert
    .empty ⟨by decide, hclaimed⟩) ⟨by decide, hchain⟩) ⟨by decide, halgorithm⟩) ⟨by decide, hroom⟩)
    ⟨by decide, hsender⟩) ⟨by decide, hid⟩) ⟨by decide, hkey⟩)

/-- The sessions of a backup that is UTF-8 are exported as UTF-8. -/
theorem validUtf8_sessionsOf {privateKey publicKey : Str} {backup : KeysBackup}
    {plain : Str → Str → Option SessionData} (hutf8 : backup.toJson.validUtf8 = true)
    (h : ∀ room_id r session_id s, backup.rooms.find? room_id = some r →
      r.sessions.find? session_id = some s →
        Holds olm json publicKey privateKey s.session_data (plain room_id session_id)) :
    (sessionsOf plain backup).toJson.validUtf8 = true := by
  have hrooms : (Json.ofMap RoomKeysBackup.toJson backup.rooms).validUtf8 = true :=
    Json.validUtf8_of_find? (k := lit "rooms") hutf8 (by simp [KeysBackup.toJson])
  rw [ExportedSessionKeys.toJson, Json.ofArray, Json.validUtf8, Json.validUtf8List_iff]
  intro j hj
  obtain ⟨s, hs, rfl⟩ := List.mem_map.mp hj
  obtain ⟨⟨room_id, r⟩, hroom, hs⟩ := List.mem_flatMap.mp hs
  obtain ⟨⟨session_id, s'⟩, hentry, hs⟩ := List.mem_filterMap.mp hs
  obtain ⟨session, hplain, rfl⟩ := Option.map_eq_some_iff.mp hs
  have hroom := SortedMap.mem_entries_iff.mp hroom
  have hentry := SortedMap.mem_entries_iff.mp hentry
  obtain ⟨hroomId, hr⟩ := of_validUtf8_ofMap hrooms hroom
  have hsessions : (Json.ofMap SessionBackup.toJson r.sessions).validUtf8 = true :=
    Json.validUtf8_of_find? (k := lit "sessions") hr (by simp [RoomKeysBackup.toJson])
  have hholds := h _ _ _ _ hroom hentry
  rw [hplain] at hholds
  obtain ⟨-, w, w', hencrypt⟩ := hholds
  obtain ⟨text, w₁, htext, -⟩ := olmM_bind_eq_ok_iff.mp hencrypt
  obtain ⟨hvalid, -⟩ := JsonText.dump_eq_ok_iff.mp (olmM_liftM_eq_ok_iff.mp htext).1
  exact validUtf8_exportSession hroomId (of_validUtf8_ofMap hsessions hentry).1 hvalid

/-- The file that the program writes is an armoured key file. -/
theorem armoured_exportFile (encrypted_file : Str) :
    Armoured (bin2base64 encrypted_file) (exportFile encrypted_file) := by
  refine ⟨[], headerLine, lit "\n" ++ bin2base64 encrypted_file ++ lit "\n", trailerLine, [], ?_,
    Or.inr rfl, Or.inr rfl, ?_, nofun, nofun⟩
  · simp only [exportFile, List.nil_append, List.append_nil, List.append_assoc]
  · rw [List.filter_append, List.filter_append, show (lit "\n").filter (· != '\n'.toUInt8) = [] from
      by decide, List.nil_append, List.append_nil, filter_bin2base64]

/-! ## From the backup to the file -/

theorem readAnswer_of_ok {α : Type} {read : Json → Except Exn α} {obj : Json} {a : α}
    (h : read obj = .ok a) : readAnswer read (some obj) = .ok (some a) := by
  rw [readAnswer, h]

/-- The secret is decrypted with the key it was encrypted with. -/
theorem result_decrypt_encrypt (laws : openssl.Laws)
    (hhkdf : ∀ key salt info, ∃ buf, openssl.hkdf key salt info = .ok buf ∧ buf.length = 64)
    {secret key key_name : Str} (hlength : secret.length < 2 ^ 31)
    {data : AesHmacSha2EncryptedData} {w w' : World}
    (h : encrypt openssl secret key key_name w = .ok (data, w')) :
    (decrypt openssl data key key_name).result = .ok secret := by
  obtain ⟨keys, hkeys⟩ := hkdfSha256_eq_ok hhkdf key (List.replicate 32 0) key_name
  obtain ⟨iv, w₁, hiv, hencrypt⟩ := encrypt_eq secret hkeys w
  rw [hencrypt] at h
  obtain ⟨ciphertext, w₂, hcipher, h⟩ := olmM_bind_eq_ok_iff.mp h
  have haes := length_of_hkdfSha256 hkeys
  have hwritten : aesCtr256 openssl secret keys.aes iv =
      .ok (openssl.aesCtr secret keys.aes iv) := by
    rw [aesCtr256_eq_ok haes.ge hiv.ge hlength, List.take_of_length_le haes.le,
      List.take_of_length_le hiv.le]
  obtain ⟨w₃, hw₃⟩ := aesCtr256Encrypt_eq_ok hwritten w₁
  obtain ⟨rfl, -⟩ := Prod.mk.inj (Except.ok.inj (hw₃.symm.trans hcipher))
  obtain ⟨rfl, -⟩ := Prod.mk.inj (Except.ok.inj h)
  exact result_decrypt_encrypted laws hkeys hiv hlength

theorem bin2base64_ne_nil {bin : Str} (h : bin ≠ []) : bin2base64 bin ≠ [] := fun hnil ↦ by
  have hbin := base642bin_bin2base64 bin
  rw [hnil] at hbin
  exact h (hbin.symm.trans (by decide))

/-- **What was put into the backup is what is read from the file**, whoever set the account up,
however often the user mistypes the passphrase or the recovery key, and whatever else is in the
backup.  Only the algorithm of a session is not read from the file, but reset to the usual one. -/
theorem exports_sessions (openssl : Openssl) (olm : Libolm) (json : JsonText)
    (laws : openssl.Laws)
    (hhkdf : ∀ key salt info, ∃ buf, openssl.hkdf key salt info = .ok buf ∧ buf.length = 64)
    (holm : PkRoundTrip olm) (password : Str) (setup : SSSSSetup) (privateKey publicKey : Str)
    (backup : KeysBackup) (plain : Str → Str → Option SessionData) (answers : Answers)
    (h : BackedUp openssl olm json password setup privateKey publicKey backup plain answers)
    (wrong : List Str) (right : Str) (input : List Str)
    (hwrong : ∀ line ∈ wrong, unlock openssl setup.keyDescription line = .ok none)
    (hright : if password = [] then
      right.filter (· != ' '.toUInt8) = keyToRecoverykey setup.privateKey else right = password)
    (htext : json.text (sessionsOf plain backup).toJson =
      (sessionsOf plain backup).toJson.dumpText)
    (hrestores : json.Restores (sessionsOf plain backup).toJson)
    (hlength : (sessionsOf plain backup).toJson.dumpText.length < 2 ^ 31)
    (filePassword : Str) (w : World) :
    ∃ file w', loginHandler openssl olm json answers (wrong ++ right :: input) filePassword w =
        .ok (.exported file, w') ∧
      decryptExportedSessions openssl json file filePassword =
        .ok ⟨(sessionsOf plain backup).sessions.map ExportedSession.reread⟩ := by
  obtain ⟨_, _, hcreated⟩ := h.created
  obtain ⟨pair, hpair⟩ := h.public_key
  obtain ⟨obj, v, hversion, hv, halgorithm, hkeys⟩ := h.version
  obtain ⟨key_id, data, _, _, hencrypt, hsecret, hkey⟩ := h.secret
  have hunlock := askUntil_append hwrong (unlock_created hhkdf hcreated hright) input
  have hne : privateKey ≠ [] := List.ne_nil_of_length_eq_add_one h.private_key
  have hshort : (bin2base64 privateKey).length < 2 ^ 31 := by
    rw [bin2base64, length_encodeBase64_padded, h.private_key]
    decide
  have hdecrypt := result_decrypt_encrypt laws hhkdf hshort hencrypt
  have hcollect := collectSessions_eq holm hpair h.sessions
  obtain ⟨file, w', hfile, hread⟩ := encryptExportedSessions_spec laws
    (validUtf8_sessionsOf h.utf8 h.sessions) htext hrestores hlength filePassword w
  have hexport : exportBackup openssl olm json setup.keyDescription data backup
      (wrong ++ right :: input) filePassword w = .ok (.exported (exportFile file), w') := by
    rw [exportBackup, olmM_bind_of_ok (olmM_liftM_eq_ok_iff.mpr ⟨hunlock, rfl⟩)]
    dsimp only
    rw [olmM_bind_of_ok (olmM_liftM_eq_ok_iff.mpr ⟨hdecrypt, rfl⟩),
      if_neg (by simpa using bin2base64_ne_nil hne), base642bin_bin2base64,
      olmM_bind_of_ok (olmM_liftM_eq_ok_iff.mpr ⟨hcollect, rfl⟩), olmM_bind_of_ok hfile]
    rfl
  refine ⟨exportFile file, w', ?_, hread _ (armoured_exportFile file)⟩
  rw [loginHandler, hversion,
    olmM_bind_of_ok (olmM_liftM_eq_ok_iff.mpr ⟨readAnswer_of_ok hv, rfl⟩)]
  dsimp only
  rw [if_neg (not_not.mpr halgorithm), hkeys, olmM_bind_of_ok (olmM_liftM_eq_ok_iff.mpr
    ⟨readAnswer_of_ok (KeysBackup.fromJson_asParsed backup), rfl⟩)]
  dsimp only
  rw [hsecret, olmM_bind_of_ok (olmM_liftM_eq_ok_iff.mpr
    ⟨readAnswer_of_ok (Secret.fromJson_asParsed _), rfl⟩)]
  dsimp only
  rw [show (SortedMap.empty.insert key_id data : SortedMap Str _).entries = [(key_id, data)] from
    rfl]
  dsimp only
  rw [hkey, olmM_bind_of_ok (olmM_liftM_eq_ok_iff.mpr
    ⟨readAnswer_of_ok (AesHmacSha2KeyDescription.fromJson_asParsed _), rfl⟩)]
  exact hexport

/-! ## An example -/

theorem createSsssKey_isOk
    (hhkdf : ∀ key salt info, ∃ buf, openssl.hkdf key salt info = .ok buf ∧ buf.length = 64)
    (password : Str) (w : World) :
    ∃ setup w', createSsssKey openssl password w = .ok (setup, w') := by
  obtain ⟨key, passphrase, w₁, hderive, -⟩ := deriveSsssKey_spec openssl password w
  obtain ⟨name, iv, mac, w₂, hdescribe, -⟩ := describeSsssKey_spec hhkdf key passphrase w₁
  exact ⟨_, w₂, by rw [createSsssKey, olmM_bind_of_ok hderive]; exact hdescribe⟩

theorem encrypt_isOk
    (hhkdf : ∀ key salt info, ∃ buf, openssl.hkdf key salt info = .ok buf ∧ buf.length = 64)
    {secret : Str} (hlength : secret.length < 2 ^ 31) (key key_name : Str) (w : World) :
    ∃ data w', encrypt openssl secret key key_name w = .ok (data, w') := by
  obtain ⟨keys, hkeys⟩ := hkdfSha256_eq_ok hhkdf key (List.replicate 32 0) key_name
  obtain ⟨iv, w₁, hiv, hencrypt⟩ := encrypt_eq secret hkeys w
  obtain ⟨w₂, hw₂⟩ := aesCtr256Encrypt_eq_ok
    (aesCtr256_eq_ok (length_of_hkdfSha256 hkeys).ge hiv.ge hlength) w₁
  exact ⟨_, w₂, hencrypt.trans (olmM_bind_of_ok hw₂)⟩

theorem pkRoundTrip_sampleOlm : PkRoundTrip sampleOlm := by
  intro privateKey pair publicKey h
  simp only [sampleOlm] at h
  split_ifs at h with hlength
  obtain ⟨rfl, rfl⟩ := Prod.mk.inj (Option.some.inj h)
  have hpublic : (bin2base64Unpadded (privateKey.take 32)).length = 43 := by
    rw [bin2base64Unpadded, length_encodeBase64_unpadded, List.length_take_of_le hlength]
  have hkey : base642binUnpadded (bin2base64Unpadded (privateKey.take 32)) = privateKey.take 32 :=
    decodeBase64_encodeBase64 base64Alphabet false _
  refine ⟨privateKey.take 32, ?_, fun plaintext random ciphertext mac ephemeral henc ↦ ?_⟩
  · simp only [sampleOlm]
    rw [if_pos hpublic.ge, List.take_of_length_le hpublic.le, hkey]
  · simp only [sampleOlm] at henc ⊢
    split_ifs at henc
    obtain ⟨rfl, -⟩ := Prod.mk.inj (Option.some.inj henc)
    rw [if_pos (List.isPrefixOf_iff_prefix.mpr (List.prefix_append _ _)), List.drop_left]

/-- A session of the backup. -/
def sampleSession : SessionData where
  algorithm := "m.megolm.v1.aes-sha2"
  forwarding_curve25519_key_chain := []
  sender_key := sampleIdentityKey
  sender_claimed_keys := SortedMap.empty.insert (lit "ed25519") sampleFingerprint
  session_key := "key"

/-- What it is encrypted to. -/
def sampleData : EncryptedSessionData where
  ciphertext := List.replicate 32 7 ++ sampleSession.toJson.dumpText
  mac := ""
  ephemeral := List.replicate 32 1

/-- Data in a backup. -/
def backupOf (session_data : EncryptedSessionData) : SessionBackup where
  first_message_index := 0
  forwarded_count := 0
  is_verified := false
  session_data

/-- The backup of this session and of one that was encrypted to another key. -/
def sampleBackup : KeysBackup where
  rooms := SortedMap.empty.insert (lit "!room:example.org") {
    sessions := (SortedMap.empty.insert (lit "session") (backupOf sampleData)).insert (lit "lost")
      (backupOf { ciphertext := "garbage", mac := "", ephemeral := "" }) }

/-- What is in the backup. -/
def samplePlain (_ session_id : Str) : Option SessionData :=
  if session_id = lit "session" then some sampleSession else none

/-- The texts that are parsed. -/
def sampleTexts : JsonText :=
  knownTexts [sampleSession.toJson, (sessionsOf samplePlain sampleBackup).toJson]

theorem restores_sampleTexts : sampleTexts.Restores sampleSession.toJson ∧
    sampleTexts.Restores (sessionsOf samplePlain sampleBackup).toJson :=
  restores_knownTexts_pair (by decide +kernel)

theorem encryptSession_sampleSession :
    ∃ w', encryptSession sampleOlm sampleTexts sampleSession
      (bin2base64Unpadded (List.replicate 32 7)) ones = .ok (sampleData, w') := by
  have hkey : sampleOlm.pkEncryptionSetRecipientKey (bin2base64Unpadded (List.replicate 32 7)) =
      some (List.replicate 32 (7 : UInt8)) := by
    simp only [sampleOlm]
    decide +kernel
  have hdump : sampleTexts.dump sampleSession.toJson = .ok sampleSession.toJson.dumpText :=
    sampleTexts.dump_of_validUtf8 (by decide +kernel)
  rw [encryptSession, olmM_bind_of_ok (olmM_liftM_eq_ok_iff.mpr ⟨hdump, rfl⟩),
    curve25519AesSha2Encrypt, hkey, olmM_bind_of_ok (newBuffer_apply _ _),
    olmM_bind_of_ok (handOver_apply _ _)]
  exact ⟨_, rfl⟩

/-- The account whose passphrase is `secret`. -/
def sampleAnswers (setup : SSSSSetup) (data : AesHmacSha2EncryptedData) : Answers where
  backup_version := some (.object [(lit "algorithm",
    .string "m.megolm_backup.v1.curve25519-aes-sha2"), (lit "auth_data", .object []),
    (lit "count", .numberUnsigned 2), (lit "etag", .string "1"), (lit "version", .string "1")])
  roomKeys _ := some sampleBackup.toJson.asParsed
  secretStorageSecret _ :=
    some (Secret.toJson ⟨SortedMap.empty.insert (lit "key") data⟩).asParsed
  secretStorageKey _ := some setup.keyDescription.toJson.asParsed

theorem holds_samplePlain (room_id : Str) (r : RoomKeysBackup) (session_id : Str)
    (s : SessionBackup) (hr : sampleBackup.rooms.find? room_id = some r)
    (hs : r.sessions.find? session_id = some s) :
    Holds sampleOlm sampleTexts (bin2base64Unpadded (List.replicate 32 7)) (List.replicate 32 7)
      s.session_data (samplePlain room_id session_id) := by
  rw [sampleBackup, SortedMap.find?_insert] at hr
  split_ifs at hr
  · obtain rfl := Option.some.inj hr
    rw [SortedMap.find?_insert, SortedMap.find?_insert] at hs
    split_ifs at hs with hlost hsession
    · obtain rfl := Option.some.inj hs
      rw [samplePlain, if_neg (by rw [hlost]; decide)]
      exact ⟨.olmException "CURVE25519_AES_SHA2_Decrypt", by rfl, rfl⟩
    · obtain rfl := Option.some.inj hs
      rw [samplePlain, if_pos hsession]
      obtain ⟨w', h⟩ := encryptSession_sampleSession
      exact ⟨restores_sampleTexts.1, ones, w', h⟩
    · cases hs
  · cases hr

/-- The file holds the session, and not the one that was lost. -/
theorem exports_sampleSession :
    ∃ answers file w', loginHandler masterOpenssl sampleOlm sampleTexts answers ["secret"] "export"
        ones = .ok (.exported file, w') ∧
      decryptExportedSessions masterOpenssl sampleTexts file "export" =
        .ok ⟨[exportSession "!room:example.org" "session" sampleSession]⟩ := by
  obtain ⟨setup, w₁, hcreated⟩ := createSsssKey_isOk hkdf_masterOpenssl "secret" ones
  have hlength : (bin2base64 (List.replicate 32 7)).length < 2 ^ 31 := by decide
  obtain ⟨data, w₂, hencrypt⟩ := encrypt_isOk hkdf_masterOpenssl hlength setup.privateKey
    "m.megolm_backup.v1" w₁
  obtain ⟨file, w', hrun, hread⟩ := exports_sessions masterOpenssl sampleOlm sampleTexts
    laws_masterOpenssl hkdf_masterOpenssl pkRoundTrip_sampleOlm "secret" setup
    (List.replicate 32 7) (bin2base64Unpadded (List.replicate 32 7)) sampleBackup samplePlain
    (sampleAnswers setup data)
    { created := ⟨ones, w₁, hcreated⟩
      public_key := ⟨_, by rfl⟩
      private_key := by decide
      version := ⟨_, _, rfl, by rfl, rfl, rfl⟩
      secret := ⟨_, data, w₁, w₂, hencrypt, rfl, rfl⟩
      sessions := holds_samplePlain
      utf8 := by decide +kernel }
    [] "secret" [] (fun _ h ↦ (List.not_mem_nil h).elim) (by rw [if_neg (by decide)]) rfl
    restores_sampleTexts.2
    (by decide +kernel) "export" ones
  exact ⟨_, file, w', hrun, hread⟩

end Mtx.Programs
