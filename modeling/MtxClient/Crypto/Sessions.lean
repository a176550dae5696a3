import MtxClient.Crypto.Signing

/-!
# Sessions

The part of `OlmClient` that messages go through.  An Olm session seals events for one device:
`create_olm_encrypted_content` writes into the event who sends it and whom it is for, and encrypts
its text.  The other device makes a session out of the message, which uses up a one-time key of its
account.  A group session encrypts what is sent to a room.

Accounts and sessions are stored as pickles.
-/

set_option autoImplicit false

namespace Mtx.Crypto

open Str

/-! ## libolm -/

/-- How the objects of a type are stored. -/
structure Pickling (α : Type) where
  pickle (object : α) (key : Str) : Option Str
  unpickle (pickled key : Str) : Option α

/-- libolm with the functions of accounts, `OlmSession` and both kinds of group sessions. -/
structure SessionOlm extends Libolm where
  InboundGroupSession : Type
  accounts : Pickling Account
  sessions : Pickling Session
  inboundGroupSessions : Pickling InboundGroupSession
  outboundGroupSessions : Pickling OutboundGroupSession
  accountGenerateOneTimeKeysRandomLength (account : Account) (number_of_keys : ℕ) : ℕ
  /-- `olm_account_generate_one_time_keys`. -/
  accountGenerateOneTimeKeys (account : Account) (number_of_keys : ℕ) (random : Str) :
    Option Account
  accountGenerateFallbackKeyRandomLength (account : Account) : ℕ
  /-- `olm_account_generate_fallback_key`. -/
  accountGenerateFallbackKey (account : Account) (random : Str) : Option Account
  accountOneTimeKeysLength (account : Account) : ℕ
  /-- `olm_account_one_time_keys`: a JSON text. -/
  accountOneTimeKeys (account : Account) : Option Str
  accountUnpublishedFallbackKeyLength (account : Account) : ℕ
  /-- `olm_account_unpublished_fallback_key`: a JSON text. -/
  accountUnpublishedFallbackKey (account : Account) : Option Str
  /-- `olm_account_mark_keys_as_published`. -/
  accountMarkKeysAsPublished (account : Account) : Account
  /-- `olm_encrypt_message_type`. -/
  encryptMessageType (session : Session) : UInt64
  encryptMessageLength (session : Session) (plaintext_length : ℕ) : ℕ
  encryptRandomLength (session : Session) : ℕ
  /-- `olm_encrypt`: the message, and the session as it is left. -/
  encrypt (session : Session) (plaintext random : Str) : Option (Str × Session)
  /-- `olm_create_inbound_session`. -/
  createInboundSession (account : Account) (one_time_key_message : Str) : Option Session
  /-- `olm_remove_one_time_keys`: the account without the key that the session used. -/
  removeOneTimeKeys (account : Account) (session : Session) : Option Account
  /-- `olm_matches_inbound_session_from`. -/
  matchesInboundSessionFrom (session : Session) (id_key one_time_key_message : Str) : Option Bool
  /-- `olm_decrypt_max_plaintext_length`. -/
  decryptMaxPlaintextLength (session : Session) (msgtype : UInt64) (message : Str) : Option ℕ
  /-- `olm_decrypt`. -/
  decrypt (session : Session) (msgtype : UInt64) (message : Str) : Option (Str × Session)
  outboundGroupSessionId (session : OutboundGroupSession) : Str
  outboundGroupSessionKey (session : OutboundGroupSession) : Str
  groupEncryptMessageLength (session : OutboundGroupSession) (plaintext_length : ℕ) : ℕ
  /-- `olm_group_encrypt`: the message, and the session as it is left. -/
  groupEncrypt (session : OutboundGroupSession) (plaintext : Str) :
    Option (Str × OutboundGroupSession)
  /-- `olm_init_inbound_group_session`. -/
  initInboundGroupSession (session_key : Str) : Option InboundGroupSession
  /-- `olm_group_decrypt_max_plaintext_length`. -/
  groupDecryptMaxPlaintextLength (session : InboundGroupSession) (message : Str) : Option ℕ
  /-- `olm_group_decrypt`: the plaintext and its index, and the session as it is left. -/
  groupDecrypt (session : InboundGroupSession) (message : Str) :
    Option ((Str × UInt32) × InboundGroupSession)

variable {olm : SessionOlm} (json : JsonText) (client : OlmClient olm.toLibolm)

/-! ## Storing -/

/-- `pickle`, which fills a buffer of the right length. -/
def Pickling.pickled {α : Type} (p : Pickling α) (object : α) (key : Str) : Except Exn Str :=
  match p.pickle object key with
  | some pickled => .ok pickled
  | none => .error (.olmException "pickle")

/-- `unpickle`. -/
def Pickling.unpickled {α : Type} (p : Pickling α) (pickled key : Str) : Except Exn α :=
  match p.unpickle pickled key with
  | some object => .ok object
  | none => .error (.olmException "unpickle")

/-- `OlmClient::save`. -/
def OlmClient.save (key : Str) : Except Exn Str :=
  match client.account_ with
  | none => .ok ""
  | some account => olm.accounts.pickled account key

/-- `OlmClient::load`. -/
def OlmClient.load (data key : Str) : Except Exn (OlmClient olm.toLibolm) := do
  let account ← olm.accounts.unpickled data key
  return { client with account_ := some account }

/-! ## The account -/

/-- `account_.get()` as the functions of libolm need it: a null pointer is undefined there. -/
def OlmClient.account : OlmM olm.Account :=
  match client.account_ with
  | some account => pure account
  | none => liftM (.error .undefinedBehaviour : Except Exn olm.Account)

/-- `OlmClient::generate_one_time_keys`. -/
def OlmClient.generateOneTimeKeys (number_of_keys : ℕ) (generate_fallback : Bool) :
    OlmM (OlmClient olm.toLibolm) := do
  let account ← client.account
  let buf ← newBuffer (olm.accountGenerateOneTimeKeysRandomLength account number_of_keys)
  handOver buf
  let account ← orOlmException "generate_one_time_keys"
    (olm.accountGenerateOneTimeKeys account number_of_keys buf)
  if !generate_fallback then return { client with account_ := some account }
  else
    let buf ← newBuffer (olm.accountGenerateFallbackKeyRandomLength account)
    handOver buf
    let account ← orOlmException "generate_fallback_keys"
      (olm.accountGenerateFallbackKey account buf)
    return { client with account_ := some account }

/-- `from_json(OneTimeKeys)`. -/
def OneTimeKeys.fromJson (obj : Json) : Except Exn OneTimeKeys := do
  return { curve25519 := ← (← obj.atKey "curve25519").getMap Json.getString }

/-- `OlmClient::one_time_keys`. -/
def OlmClient.oneTimeKeys : OlmM OneTimeKeys := do
  let account ← client.account
  let _ ← newBuffer (olm.accountOneTimeKeysLength account)
  let keys ← orOlmException "one_time_keys" (olm.accountOneTimeKeys account)
  OneTimeKeys.fromJson (← json.parse keys)

/-- `OlmClient::unpublished_fallback_keys`. -/
def OlmClient.unpublishedFallbackKeys : OlmM OneTimeKeys := do
  let account ← client.account
  let _ ← newBuffer (olm.accountUnpublishedFallbackKeyLength account)
  let keys ← orOlmException "unpublished_fallback_keys" (olm.accountUnpublishedFallbackKey account)
  OneTimeKeys.fromJson (← json.parse keys)

/-- `OlmClient::create_upload_keys_request`, for the keys of the account. -/
def OlmClient.createOwnUploadKeysRequest : OlmM UploadKeys := do
  let one_time_keys ← client.oneTimeKeys json
  let fallback_keys ← client.unpublishedFallbackKeys json
  client.createUploadKeysRequest json one_time_keys fallback_keys

/-- `OlmClient::mark_keys_as_published`. -/
def OlmClient.markKeysAsPublished : Except Exn (OlmClient olm.toLibolm) :=
  match client.account_ with
  | none => .error .undefinedBehaviour
  | some account => .ok { client with account_ := some (olm.accountMarkKeysAsPublished account) }

/-! ## Sealing an event -/

/-- `OlmClient::encrypt_message`, with the session as it is left. -/
def encryptMessage (session : olm.Session) (msg : Str) : OlmM (Str × olm.Session) := do
  let _ ← newBuffer (olm.encryptMessageLength session msg.length)
  let random_buf ← newBuffer (olm.encryptRandomLength session)
  handOver random_buf
  orOlmException "olm_encrypt" (olm.encrypt session msg random_buf)

/-- The event with its sender and its recipient, as `create_olm_encrypted_content` writes them. -/
def sealedEvent (ed25519 : Str) (event : Json) (recipient recipient_ed25519_key : Str) :
    Except Exn Json := do
  let event ← event.setPath ["keys", "ed25519"] (.string ed25519)
  let event ← event.set "sender" (.string client.user_id_)
  let event ← event.set "sender_device" (.string client.device_id_)
  let event ← event.set "recipient" (.string recipient)
  event.setPath ["recipient_keys", "ed25519"] (.string recipient_ed25519_key)

/-- The content of the event that is sent. -/
def olmContent (sender_key recipient_curve25519_key body : Str) (msg_type : UInt64) : Json :=
  Json.ofMembers <| Json.noMembers
    |>.insert "algorithm" (.string "m.olm.v1.curve25519-aes-sha2")
    |>.insert "sender_key" (.string sender_key)
    |>.insert "ciphertext" (Json.ofMembers (Json.noMembers.insert recipient_curve25519_key
      (Json.ofMembers (Json.noMembers
        |>.insert "body" (.string body)
        |>.insert "type" (.numberUnsigned msg_type)))))

/-- `OlmClient::create_olm_encrypted_content`, with the session as it is left. -/
def createOlmEncryptedContent (session : olm.Session) (event : Json)
    (recipient recipient_ed25519_key recipient_curve25519_key : Str) :
    OlmM (Json × olm.Session) := do
  let keys ← client.identityKeys json
  let event ← sealedEvent client keys.ed25519 event recipient recipient_ed25519_key
  let msg_type := olm.encryptMessageType session
  let (encrypted, session) ← encryptMessage session (← json.dump event)
  let keys ← client.identityKeys json
  return (olmContent keys.curve25519 recipient_curve25519_key encrypted msg_type, session)

/-! ## Opening a message -/

/-- `OlmClient::create_inbound_session`, with the client as it is left. -/
def OlmClient.createInboundSession (one_time_key_message : Str) :
    Except Exn (olm.Session × OlmClient olm.toLibolm) :=
  match client.account_ with
  | none => .error .undefinedBehaviour
  | some account =>
    match olm.createInboundSession account one_time_key_message with
    | none => .error (.olmException "create_inbound_session")
    | some session =>
      match olm.removeOneTimeKeys account session with
      | none => .error (.olmException "inbound_session_remove_one_time_keys")
      | some account => .ok (session, { client with account_ := some account })

/-- `matches_inbound_session_from`: `olm_error()` is true as a truth value. -/
def matchesInboundSessionFrom (session : olm.Session) (id_key one_time_key_message : Str) : Bool :=
  (olm.matchesInboundSessionFrom session id_key one_time_key_message).getD true

/-- `OlmClient::decrypt_message`, with the session as it is left.  A length that libolm does not
know makes the buffer too long. -/
def decryptMessage (session : olm.Session) (msgtype : UInt64) (message : Str) :
    Except Exn (Str × olm.Session) :=
  match olm.decryptMaxPlaintextLength session msgtype message with
  | none => .error (.runtimeError "length_error")
  | some _ =>
    match olm.decrypt session msgtype message with
    | none => .error (.olmException "olm_decrypt")
    | some decrypted => .ok decrypted

/-! ## Group sessions -/

/-- `OlmClient::init_inbound_group_session`. -/
def initInboundGroupSession (session_key : Str) : Except Exn olm.InboundGroupSession :=
  match olm.initInboundGroupSession session_key with
  | none => .error (.olmException "init_inbound_group_session")
  | some session => .ok session

/-- `OlmClient::encrypt_group_message`, with the session as it is left. -/
def encryptGroupMessage (session : olm.OutboundGroupSession) (plaintext : Str) :
    OlmM (Str × olm.OutboundGroupSession) := do
  let _ ← newBuffer (olm.groupEncryptMessageLength session plaintext.length)
  orOlmException "olm_group_encrypt" (olm.groupEncrypt session plaintext)

/-- `OlmClient::decrypt_group_message`, with the session as it is left. -/
def decryptGroupMessage (session : Option olm.InboundGroupSession) (message : Str) :
    Except Exn ((Str × UInt32) × olm.InboundGroupSession) :=
  match session with
  | none => .error (.olmException "decrypt_group_message")
  | some session =>
    match olm.groupDecryptMaxPlaintextLength session message with
    | none => .error (.olmException "olm_group_decrypt_max_plaintext_length: invalid ciphertext")
    | some _ =>
      match olm.groupDecrypt session message with
      | none => .error (.olmException "olm_group_decrypt")
      | some decrypted => .ok decrypted

theorem groupDecrypt_of_decryptGroupMessage {session : olm.InboundGroupSession} {message : Str}
    {decrypted : (Str × UInt32) × olm.InboundGroupSession}
    (h : decryptGroupMessage (some session) message = .ok decrypted) :
    olm.groupDecrypt session message = some decrypted := by
  rw [decryptGroupMessage] at h
  split at h
  · cases h
  · split at h
    · cases h
    · rename_i hdecrypt
      rwa [Except.ok.inj h] at hdecrypt

end Mtx.Crypto
