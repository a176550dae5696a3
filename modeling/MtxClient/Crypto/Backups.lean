import MtxClient.Crypto.KeyBackup
import MtxClient.Crypto.StoredSecrets
import MtxClient.Json.AsParsed

/-!
# Key backups and secrets as JSON

The sessions of a key backup, by room and session, and the secrets of secret storage, by the keys
they are encrypted with.  Both are uploaded by one session of the client and downloaded by another,
and go through a JSON text on the way: what arrives is `toJson.asParsed`.  Nothing gets lost.
-/

set_option autoImplicit false

namespace Mtx.Crypto

open Str

/-! ## Sessions in the backup -/

/-- `EncryptedSessionData`, which has the members of the encrypted message. -/
abbrev EncryptedSessionData := Curve25519AesSha2Encrypted

/-- `from_json(EncryptedSessionData)`. -/
def Curve25519AesSha2Encrypted.fromJson (obj : Json) : Except Exn EncryptedSessionData := do
  let ephemeral ← (← obj.atKey "ephemeral").getString
  let ciphertext ← (← obj.atKey "ciphertext").getString
  let mac ← (← obj.atKey "mac").getString
  return { ephemeral, ciphertext, mac }

/-- `to_json(EncryptedSessionData)`. -/
def Curve25519AesSha2Encrypted.toJson (response : EncryptedSessionData) : Json :=
  Json.ofMembers <| Json.noMembers
    |>.insert "ephemeral" (.string response.ephemeral)
    |>.insert "ciphertext" (.string response.ciphertext)
    |>.insert "mac" (.string response.mac)

/-- `SessionBackup`. -/
structure SessionBackup where
  /-- The index of the first message in the session that the key can decrypt. -/
  first_message_index : Int64
  /-- The number of times this key has been forwarded via key-sharing between devices. -/
  forwarded_count : Int64
  /-- Whether the device backing up the key verified the device that the key is from. -/
  is_verified : Bool
  session_data : EncryptedSessionData
  deriving DecidableEq

/-- `from_json(SessionBackup)`. -/
def SessionBackup.fromJson (obj : Json) : Except Exn SessionBackup := do
  let first_message_index ← (← obj.atKey "first_message_index").getInt64
  let forwarded_count ← (← obj.atKey "forwarded_count").getInt64
  let is_verified ← (← obj.atKey "is_verified").getBool
  let session_data ← Curve25519AesSha2Encrypted.fromJson (← obj.atKey "session_data")
  return { first_message_index, forwarded_count, is_verified, session_data }

/-- `to_json(SessionBackup)`. -/
def SessionBackup.toJson (response : SessionBackup) : Json :=
  Json.ofMembers <| Json.noMembers
    |>.insert "first_message_index" (.numberInteger response.first_message_index)
    |>.insert "forwarded_count" (.numberInteger response.forwarded_count)
    |>.insert "is_verified" (.boolean response.is_verified)
    |>.insert "session_data" response.session_data.toJson

/-- `RoomKeysBackup`: the sessions of a room. -/
structure RoomKeysBackup where
  sessions : SortedMap Str SessionBackup

/-- `from_json(RoomKeysBackup)`. -/
def RoomKeysBackup.fromJson (obj : Json) : Except Exn RoomKeysBackup := do
  let sessions ← (← obj.atKey "sessions").getMap SessionBackup.fromJson
  return { sessions }

/-- `to_json(RoomKeysBackup)`. -/
def RoomKeysBackup.toJson (response : RoomKeysBackup) : Json :=
  Json.ofMembers <| Json.noMembers
    |>.insert "sessions" (Json.ofMap SessionBackup.toJson response.sessions)

/-- `KeysBackup`: the sessions of all rooms. -/
structure KeysBackup where
  rooms : SortedMap Str RoomKeysBackup

/-- `from_json(KeysBackup)`. -/
def KeysBackup.fromJson (obj : Json) : Except Exn KeysBackup := do
  let rooms ← (← obj.atKey "rooms").getMap RoomKeysBackup.fromJson
  return { rooms }

/-- `to_json(KeysBackup)`. -/
def KeysBackup.toJson (response : KeysBackup) : Json :=
  Json.ofMembers <| Json.noMembers
    |>.insert "rooms" (Json.ofMap RoomKeysBackup.toJson response.rooms)

theorem SessionData.fromJson_toJson (session : SessionData) :
    SessionData.fromJson session.toJson = .ok session := by
  have hobject : session.toJson.isObject = true :=
    Json.isObject_ofMembers (k := lit "session_key") (by simp; rfl)
  have halgorithm : session.toJson.atKey "algorithm" = .ok (.string session.algorithm) :=
    Json.atKey_ofMembers (by simp)
  have hchain : session.toJson.atKey "forwarding_curve25519_key_chain" =
      .ok (Json.ofArray .string session.forwarding_curve25519_key_chain) :=
    Json.atKey_ofMembers (by simp)
  have hsender : session.toJson.atKey "sender_key" = .ok (.string session.sender_key) :=
    Json.atKey_ofMembers (by simp)
  have hclaimed : session.toJson.optional "sender_claimed_keys" (Json.getMap Json.getString)
      SortedMap.empty = .ok session.sender_claimed_keys :=
    (Json.optional_ofMembers (v := Json.ofMap .string session.sender_claimed_keys) (by simp)
      _).trans (Json.getMap_ofMap Json.getString_string _)
  have hkey : session.toJson.atKey "session_key" = .ok (.string session.session_key) :=
    Json.atKey_ofMembers (by simp)
  have hgetChain : (Json.ofArray .string session.forwarding_curve25519_key_chain).getArray
      Json.getString = .ok session.forwarding_curve25519_key_chain :=
    Json.getArray_ofArray Json.getString_string _
  rw [SessionData.fromJson, halgorithm, hchain, hsender, Json.value_eq_optional hobject, hclaimed,
    hkey]
  simp only [ok_bind, Json.getString_string, hgetChain]
  rfl

theorem Curve25519AesSha2Encrypted.fromJson_asParsed (d : EncryptedSessionData) :
    Curve25519AesSha2Encrypted.fromJson d.toJson.asParsed = .ok d := by
  simp [fromJson, toJson, Json.atKey_eq]

theorem SessionBackup.fromJson_asParsed (s : SessionBackup) :
    SessionBackup.fromJson s.toJson.asParsed = .ok s := by
  have hindex : s.toJson.asParsed.atKey "first_message_index" =
      .ok (Json.numberInteger s.first_message_index).asParsed := Json.atKey_asParsed (by simp)
  have hcount : s.toJson.asParsed.atKey "forwarded_count" =
      .ok (Json.numberInteger s.forwarded_count).asParsed := Json.atKey_asParsed (by simp)
  have hverified : s.toJson.asParsed.atKey "is_verified" =
      .ok (Json.boolean s.is_verified).asParsed := Json.atKey_asParsed (by simp)
  have hdata : s.toJson.asParsed.atKey "session_data" = .ok s.session_data.toJson.asParsed :=
    Json.atKey_asParsed (by simp)
  rw [fromJson, hindex, ok_bind, Json.getInt64_asParsed, hcount, ok_bind, ok_bind,
    Json.getInt64_asParsed, hverified, hdata, Json.asParsed_boolean]
  simp only [ok_bind, Curve25519AesSha2Encrypted.fromJson_asParsed]
  rfl

theorem RoomKeysBackup.fromJson_asParsed (r : RoomKeysBackup) :
    RoomKeysBackup.fromJson r.toJson.asParsed = .ok r := by
  have hsessions : r.toJson.asParsed.atKey "sessions" =
      .ok (Json.ofMap SessionBackup.toJson r.sessions).asParsed := Json.atKey_asParsed (by simp)
  rw [fromJson, hsessions, ok_bind, Json.getMap_asParsed SessionBackup.fromJson_asParsed]
  rfl

/-- **A backup is downloaded as it was uploaded.** -/
theorem KeysBackup.fromJson_asParsed (b : KeysBackup) :
    KeysBackup.fromJson b.toJson.asParsed = .ok b := by
  have hrooms : b.toJson.asParsed.atKey "rooms" =
      .ok (Json.ofMap RoomKeysBackup.toJson b.rooms).asParsed := Json.atKey_asParsed (by simp)
  rw [fromJson, hrooms, ok_bind, Json.getMap_asParsed RoomKeysBackup.fromJson_asParsed]
  rfl

/-! ## Secrets -/

/-- `Secret`: a secret, encrypted with one or more keys. -/
structure Secret where
  /-- The encrypted data, by the id of the key. -/
  encrypted : SortedMap Str AesHmacSha2EncryptedData

/-- `from_json(Secret)`. -/
def Secret.fromJson (obj : Json) : Except Exn Secret := do
  let encrypted ← (← obj.atKey "encrypted").getMap AesHmacSha2EncryptedData.fromJson
  return { encrypted }

/-- `to_json(Secret)`. -/
def Secret.toJson (secret : Secret) : Json :=
  Json.ofMembers <| Json.noMembers
    |>.insert "encrypted" (Json.ofMap AesHmacSha2EncryptedData.toJson secret.encrypted)

theorem AesHmacSha2EncryptedData.fromJson_asParsed (d : AesHmacSha2EncryptedData) :
    AesHmacSha2EncryptedData.fromJson d.toJson.asParsed = .ok d := by
  simp [fromJson, toJson, Json.atKey_eq]

theorem Secret.fromJson_asParsed (s : Secret) : Secret.fromJson s.toJson.asParsed = .ok s := by
  have hencrypted : s.toJson.asParsed.atKey "encrypted" =
      .ok (Json.ofMap AesHmacSha2EncryptedData.toJson s.encrypted).asParsed :=
    Json.atKey_asParsed (by simp)
  rw [fromJson, hencrypted, ok_bind,
    Json.getMap_asParsed AesHmacSha2EncryptedData.fromJson_asParsed]
  rfl

/-- The description of a key has no signed integers. -/
theorem AesHmacSha2KeyDescription.isParsed_toJson (d : AesHmacSha2KeyDescription) :
    d.toJson.IsParsed := by
  have hempty : Json.noMembers.All fun _ v ↦ v.IsParsed := .empty
  have hpbkdf2 : ∀ p : PBKDF2, p.toJson.IsParsed := fun p ↦
    Json.isParsed_ofMembers ((((hempty.insert (Json.isParsed_string _)).insert
      (Json.isParsed_string _)).insert (Json.isParsed_numberUnsigned _)).insert
        (Json.isParsed_numberUnsigned _))
  have hpassphrase : (d.passphrase.elim .null PBKDF2.toJson).IsParsed := by
    cases d.passphrase with
    | none => rfl
    | some p => exact hpbkdf2 p
  exact Json.isParsed_ofMembers ((((((hempty.insert (Json.isParsed_string _)).insert
    (Json.isParsed_string _)).insertIf hpassphrase).insertIf (Json.isParsed_string _)).insertIf
      (Json.isParsed_string _)).insertIf
        (Json.isParsed_ofMap (Json.isParsed_ofMap Json.isParsed_string) _))

theorem AesHmacSha2KeyDescription.fromJson_asParsed (d : AesHmacSha2KeyDescription) :
    AesHmacSha2KeyDescription.fromJson d.toJson.asParsed = .ok d := by
  rw [d.isParsed_toJson, AesHmacSha2KeyDescription.fromJson_toJson]

end Mtx.Crypto
