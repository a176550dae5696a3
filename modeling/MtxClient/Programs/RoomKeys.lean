import MtxClient.Crypto.Signing
import MtxClient.Events.Merging
import MtxClient.Programs.BotLife

/-!
# Room keys on their way

A room key is sealed for a device with `create_olm_encrypted_content` and sent as an event between
devices.  The bot that receives it opens the message and files the group session under the room, the
session and the key of the sender (`room_key_filed`).  From then on it understands what is encrypted
with that session, whenever it sees it (`bots_understand`).
-/

set_option autoImplicit false

namespace Mtx.Programs

open Str Http Responses Events Crypto Stateful

variable {olm : SessionOlm} {json : JsonText}

/-! ## Sealing -/

/-- The account opens what the session of another device seals, if that was made with one of its
one-time keys and has not been answered. -/
structure Opens (account : olm.Account) (sender_key : Str) (session : olm.Session) : Prop where
  type : olm.encryptMessageType session = 0
  opens : ∀ plaintext random message session',
    olm.encrypt session plaintext random = some (message, session') →
      validUtf8 message = true ∧
      ∃ inbound account' inbound' n, olm.createInboundSession account message = some inbound ∧
        olm.removeOneTimeKeys account inbound = some account' ∧
        olm.matchesInboundSessionFrom inbound sender_key message = some true ∧
        olm.decryptMaxPlaintextLength inbound 0 message = some n ∧
        olm.decrypt inbound 0 message = some (plaintext, inbound')

theorem accountKeys_of_identityKeys {client : OlmClient olm.toLibolm} {keys : IdentityKeys}
    {w w' : Crypto.World} (h : client.identityKeys json w = .ok (keys, w')) :
    ∃ account, client.account_ = some account ∧ accountKeys json account = .ok keys := by
  obtain ⟨account, w₁, haccount, h⟩ := olmM_bind_eq_ok_iff.mp h
  obtain ⟨_, w₂, -, h⟩ := olmM_bind_eq_ok_iff.mp h
  obtain ⟨j, w₃, hj, h⟩ := olmM_bind_eq_ok_iff.mp h
  refine ⟨account, (orOlmException_eq_ok_iff.mp haccount).1, ?_⟩
  rw [accountKeys, (olmM_liftM_eq_ok_iff.mp hj).1]
  exact (olmM_liftM_eq_ok_iff.mp h).1

/-- What is sealed, and how it is sent. -/
theorem createOlmEncryptedContent_eq_ok {client : OlmClient olm.toLibolm}
    {account : olm.Account} (haccount : client.account_ = some account) {keys : IdentityKeys}
    (hkeys : accountKeys json account = .ok keys) {session session' : olm.Session}
    {event content : Json} {recipient ed25519 curve25519 : Str} {w w' : Crypto.World}
    (h : createOlmEncryptedContent json client session event recipient ed25519 curve25519 w =
      .ok ((content, session'), w')) :
    ∃ obj body random, sealedEvent client keys.ed25519 event recipient ed25519 = .ok obj ∧
      olm.encrypt session (json.text obj) random = some (body, session') ∧
      content = olmContent keys.curve25519 curve25519 body (olm.encryptMessageType session) := by
  have hsame : ∀ {keys' : IdentityKeys} {w w' : Crypto.World},
      client.identityKeys json w = .ok (keys', w') → keys' = keys := fun hk ↦ by
    obtain ⟨account', haccount', hkeys'⟩ := accountKeys_of_identityKeys hk
    obtain rfl := Option.some.inj (haccount'.symm.trans haccount)
    exact Except.ok.inj (hkeys'.symm.trans hkeys)
  obtain ⟨keys₁, w₁, hkeys₁, h⟩ := olmM_bind_eq_ok_iff.mp h
  rw [hsame hkeys₁] at h
  obtain ⟨obj, w₂, hobj, h⟩ := olmM_bind_eq_ok_iff.mp h
  obtain ⟨text, w₃, htext, h⟩ := olmM_bind_eq_ok_iff.mp h
  obtain ⟨⟨body, session₁⟩, w₄, hencrypt, h⟩ := olmM_bind_eq_ok_iff.mp h
  obtain ⟨keys₂, w₅, hkeys₂, h⟩ := olmM_bind_eq_ok_iff.mp h
  rw [hsame hkeys₂] at h
  obtain ⟨hcontent, -⟩ := Prod.mk.inj (Except.ok.inj h)
  obtain ⟨rfl, rfl⟩ := Prod.mk.inj hcontent
  obtain ⟨-, rfl⟩ := JsonText.dump_eq_ok_iff.mp (olmM_liftM_eq_ok_iff.mp htext).1
  obtain ⟨_, w₆, -, hencrypt⟩ := olmM_bind_eq_ok_iff.mp hencrypt
  obtain ⟨random, w₇, -, hencrypt⟩ := olmM_bind_eq_ok_iff.mp hencrypt
  obtain ⟨_, w₈, -, hencrypt⟩ := olmM_bind_eq_ok_iff.mp hencrypt
  exact ⟨obj, body, random, (olmM_liftM_eq_ok_iff.mp hobj).1,
    (orOlmException_eq_ok_iff.mp hencrypt).1, rfl⟩

theorem find?_of_setPath_ne {j j' v : Json} {k k' : Str} {ks : List Str}
    (h : j.setPath (k :: ks) v = .ok j') (hne : k' ≠ k) : j'.find? k' = j.find? k' := by
  obtain ⟨hassignable, c, -, rfl⟩ := Json.setPath_cons_eq_ok_iff.mp h
  rw [Json.find?_put hassignable, if_neg hne]

theorem find?_of_set_ne {j j' v : Json} {k k' : Str} (h : j.set k v = .ok j') (hne : k' ≠ k) :
    j'.find? k' = j.find? k' := by
  obtain ⟨hassignable, rfl⟩ := Json.set_eq_ok_iff.mp h
  rw [Json.find?_put hassignable, if_neg hne]

/-- The content is sealed as it is. -/
theorem find?_content_sealedEvent {client : OlmClient olm.toLibolm} {event obj : Json}
    {own_ed25519 recipient ed25519 : Str}
    (h : sealedEvent client own_ed25519 event recipient ed25519 = .ok obj) :
    obj.find? "content" = event.find? "content" := by
  obtain ⟨j₁, h₁, h⟩ := bind_eq_ok_iff.mp h
  obtain ⟨j₂, h₂, h⟩ := bind_eq_ok_iff.mp h
  obtain ⟨j₃, h₃, h⟩ := bind_eq_ok_iff.mp h
  obtain ⟨j₄, h₄, h⟩ := bind_eq_ok_iff.mp h
  rw [find?_of_setPath_ne h (by decide), find?_of_set_ne h₄ (by decide),
    find?_of_set_ne h₃ (by decide), find?_of_set_ne h₂ (by decide),
    find?_of_setPath_ne h₁ (by decide)]

/-! ## Delivering -/

/-- An event between devices, as a homeserver delivers it. -/
def toDeviceEvent (sender : Str) (content : Json) : Json :=
  Json.ofMembers <| Json.noMembers
    |>.insert "content" content
    |>.insert "sender" (.string sender)
    |>.insert "type" (.string "m.room.encrypted")

/-- An Olm message with one ciphertext. -/
def olmEncrypted (sender_key curve25519 body : Str) : Msg.OlmEncrypted where
  algorithm := Msg.olmAlgo
  sender_key
  ciphertext := SortedMap.empty.insert curve25519 { body, type := 0 }

/-- The event that the receiver makes of it. -/
def olmEvent (sender sender_key curve25519 body : Str) : DeviceEvent Msg.OlmEncrypted where
  type := .roomEncrypted
  sender
  content := olmEncrypted sender_key curve25519 body

/-- The event among others. -/
def deliveredEvent (json : JsonText) (sender sender_key curve25519 body : Str) :
    DeviceEvents json where
  kind := .olmEncrypted
  event := olmEvent sender sender_key curve25519 body

variable {sender sender_key curve25519 body : Str}

/-- What is sent is the content that the receiver knows. -/
theorem olmContent_eq :
    olmContent sender_key curve25519 body 0 = (olmEncrypted sender_key curve25519 body).toJson :=
  rfl

theorem fromJson_olmEncrypted :
    Msg.OlmEncrypted.fromJson (olmEncrypted sender_key curve25519 body).toJson =
      .ok (olmEncrypted sender_key curve25519 body) := by
  have hsender : (olmEncrypted sender_key curve25519 body).toJson.atKey "sender_key" =
      .ok (.string sender_key) := Json.atKey_ofMembers (by simp [olmEncrypted])
  have hciphertext : (olmEncrypted sender_key curve25519 body).toJson.atKey "ciphertext" =
      .ok (Json.ofMap Msg.OlmCipherContent.toJson
        (olmEncrypted sender_key curve25519 body).ciphertext) := Json.atKey_ofMembers (by simp)
  rw [Msg.OlmEncrypted.fromJson, hsender, ok_bind, Json.getString_string, ok_bind, hciphertext,
    ok_bind, Json.getMap_ofMap Msg.OlmCipherContent.fromJson_toJson]
  rfl

theorem toJson_olmEvent : (olmEvent sender sender_key curve25519 body).toJson =
    toDeviceEvent sender (olmEncrypted sender_key curve25519 body).toJson := rfl

theorem fromJson_olmEvent (hne : sender ≠ []) (hlength : sender.length ≤ 255) :
    DeviceEvent.fromJson Msg.OlmEncrypted (olmEvent sender sender_key curve25519 body).toJson =
      .ok (olmEvent sender sender_key curve25519 body) := by
  have hcontent : readContent Msg.OlmEncrypted (olmEvent sender sender_key curve25519 body).toJson =
      .ok (olmEncrypted sender_key curve25519 body) := by
    have hold : (olmEncrypted sender_key curve25519 body).toJson.contains "m.new_content" = false :=
      Json.contains_eq_false_iff.mpr (by simp [Msg.OlmEncrypted.toJson])
    rw [readContent, toJson_olmEvent, toDeviceEvent, Json.atKey_ofMembers (by simp; rfl), ok_bind,
      hold]
    exact fromJson_olmEncrypted
  have henvelope : readEnvelope (olmEvent sender sender_key curve25519 body).toJson =
      .ok (.roomEncrypted, "m.room.encrypted", sender) := by
    have hfind : (olmEvent sender sender_key curve25519 body).toJson.find? "sender" =
        some (.string sender) := by simp [toJson_olmEvent, toDeviceEvent]
    have htype : (olmEvent sender sender_key curve25519 body).toJson.find? "type" =
        some (.string "m.room.encrypted") := by simp [toJson_olmEvent, toDeviceEvent]
    refine readEnvelope_iff.mpr ⟨htype, by decide, rfl, ?_, hlength⟩
    rw [Json.value_of_find? hfind, Json.getString_string]
  rw [DeviceEvent.fromJson, Event.fromJson, hcontent, ok_bind, henvelope, ok_bind]
  exact bind_eq_ok_iff.mpr ⟨_, rfl, bind_eq_ok_iff.mpr ⟨(), if_neg (by simpa using hne), rfl⟩⟩

theorem parse_toDeviceEvent (hne : sender ≠ []) (hlength : sender.length ≤ 255) :
    parseDeviceEvent json (toDeviceEvent sender (olmContent sender_key curve25519 body 0)) =
      .ok (some (deliveredEvent json sender sender_key curve25519 body)) := by
  have htype : getEventTypeOf (toDeviceEvent sender
      (olmEncrypted sender_key curve25519 body).toJson) = .ok .roomEncrypted := by
    have hfind : (toDeviceEvent sender (olmEncrypted sender_key curve25519 body).toJson).find?
        "type" = some (.string "m.room.encrypted") := by simp [toDeviceEvent]
    rw [getEventTypeOf, hfind]
    rfl
  have halgorithm : (olmEncrypted sender_key curve25519 body).toJson.atKey "algorithm" =
      .ok (.string Msg.olmAlgo) := Json.atKey_ofMembers (by simp [olmEncrypted])
  have hcontent : (toDeviceEvent sender (olmEncrypted sender_key curve25519 body).toJson).atKey
      "content" = .ok (olmEncrypted sender_key curve25519 body).toJson :=
    Json.atKey_ofMembers (by simp)
  rw [olmContent_eq, parseDeviceEvent, htype, ok_bind]
  dsimp only
  rw [hcontent, ok_bind, halgorithm, ok_bind, Json.getString_string, ok_bind,
    if_pos (show Msg.olmAlgo = "m.olm.v1.curve25519-aes-sha2" from rfl),
    readDevice, ← toJson_olmEvent]
  exact congrArg (Functor.map some ∘ Functor.map (DeviceEvents.mk .olmEncrypted))
    (fromJson_olmEvent hne hlength)

/-- The bot reads the message from the event that it writes again. -/
theorem olmMessage_olmEvent :
    OlmMessage.fromJson (olmEvent sender sender_key curve25519 body).toJson =
      .ok { sender_key, sender,
            ciphertext := SortedMap.empty.insert curve25519 { body, type := 0 } } := by
  have htype : (toDeviceEvent sender (olmEncrypted sender_key curve25519 body).toJson).atKey
      "type" = .ok (.string "m.room.encrypted") := Json.atKey_ofMembers (by simp)
  have hsender : (toDeviceEvent sender (olmEncrypted sender_key curve25519 body).toJson).atKey
      "sender" = .ok (.string sender) := Json.atKey_ofMembers (by simp)
  have hcontent : (toDeviceEvent sender (olmEncrypted sender_key curve25519 body).toJson).atKey
      "content" = .ok (olmEncrypted sender_key curve25519 body).toJson :=
    Json.atKey_ofMembers (by simp)
  have halgorithm : (olmEncrypted sender_key curve25519 body).toJson.atKey "algorithm" =
      .ok (.string Msg.olmAlgo) := Json.atKey_ofMembers (by simp [olmEncrypted])
  have hkey : (olmEncrypted sender_key curve25519 body).toJson.atKey "sender_key" =
      .ok (.string sender_key) := Json.atKey_ofMembers (by simp [olmEncrypted])
  have hciphertext : (olmEncrypted sender_key curve25519 body).toJson.atKey "ciphertext" =
      .ok (Json.ofMap Msg.OlmCipherContent.toJson
        (olmEncrypted sender_key curve25519 body).ciphertext) := Json.atKey_ofMembers (by simp)
  rw [toJson_olmEvent, OlmMessage.fromJson, htype, ok_bind, hcontent, ok_bind, hsender]
  simp only [ok_bind, halgorithm, hkey, hciphertext, Json.getString_string,
    Json.getMap_ofMap Msg.OlmCipherContent.fromJson_toJson]
  rfl

/-! ## Filing -/

/-- What is sealed is the content of a room key. -/
def Carries (obj : Json) (room_key : Msg.RoomKey) : Prop :=
  obj.find? "content" = some room_key.toJson

/-- The storage with the room key, unless there is one for the session. -/
def Storage.file (s : Storage olm) (sender_key : Str) (room_key : Msg.RoomKey)
    (inbound : olm.Session) (megolm_session : olm.InboundGroupSession) : Storage olm :=
  (s.emplaceOlmInboundSession sender_key inbound).setInboundGroupSession room_key.room_id
    room_key.session_id sender_key megolm_session

theorem roomKey_member {room_key : Msg.RoomKey} {k s : Str}
    (h : room_key.toJson.find? k = some (.string s)) :
    (do (← room_key.toJson.atKey k).getString : Except Exn Str) = .ok s := by
  rw [Json.atKey_of_find? h]
  rfl

/-- The bot with another account and another storage. -/
def CryptoBot.opened (b : CryptoBot olm) (account : olm.Account) (storage : Storage olm) :
    CryptoBot olm :=
  { b with olm_client := { b.olm_client with account_ := some account }, storage }

/-- A message that can be opened, with a room key in it that is new. -/
theorem openMessage_eq {b : CryptoBot olm} {account account' : olm.Account}
    (haccount : b.olm_client.account_ = some account) {inbound inbound' : olm.Session}
    (hcreate : olm.createInboundSession account body = some inbound)
    (hremove : olm.removeOneTimeKeys account inbound = some account')
    (hmatches : olm.matchesInboundSessionFrom inbound sender_key body = some true) {n : ℕ}
    (hlength : olm.decryptMaxPlaintextLength inbound 0 body = some n) {plaintext : Str}
    (hdecrypt : olm.decrypt inbound 0 body = some (plaintext, inbound')) {obj : Json}
    (hparse : json.parse plaintext = .ok obj) (hvalid : obj.validUtf8 = true)
    {room_key : Msg.RoomKey} (hcarries : Carries obj room_key)
    (hnew : b.storage.inboundGroupExists room_key.room_id room_key.session_id sender_key = false)
    {megolm_session : olm.InboundGroupSession}
    (hinit : olm.initInboundGroupSession room_key.session_key = some megolm_session) :
    openMessage json sender_key body b = (.ok (), b.opened account'
      (b.storage.file sender_key room_key inbound' megolm_session)) := by
  have hinbound : b.olm_client.createInboundSession body =
      .ok (inbound, { b.olm_client with account_ := some account' }) := by
    rw [OlmClient.createInboundSession, haccount]
    simp only [hcreate, hremove]
  have hok : matchesInboundSessionFrom inbound sender_key body = true := by
    rw [matchesInboundSessionFrom, hmatches, Option.getD_some]
  have hplaintext : decryptMessage inbound 0 body = .ok (plaintext, inbound') := by
    simp only [decryptMessage, hlength, hdecrypt]
  have hsession : initInboundGroupSession room_key.session_key = .ok megolm_session := by
    rw [initInboundGroupSession, hinit]
  have hroom : (do (← room_key.toJson.atKey "room_id").getString : Except Exn Str) =
      .ok room_key.room_id := roomKey_member (by simp [Msg.RoomKey.toJson])
  have hid : (do (← room_key.toJson.atKey "session_id").getString : Except Exn Str) =
      .ok room_key.session_id := roomKey_member (by simp [Msg.RoomKey.toJson])
  have hkey : (do (← room_key.toJson.atKey "session_key").getString : Except Exn Str) =
      .ok room_key.session_key := roomKey_member (by simp [Msg.RoomKey.toJson])
  simp only [openMessage, access_bind, lift_bind, hinbound, update_bind, hok, Bool.not_true,
    Bool.false_eq_true, if_false, hplaintext, hparse, json.dump_of_validUtf8 hvalid, store,
    Json.atKey_of_find? hcarries, hroom, hid, hkey]
  rw [if_neg (by rw [Storage.inboundGroupExists] at hnew ⊢; exact Bool.eq_false_iff.mp hnew),
    lift_bind, hsession]
  rfl

theorem validUtf8_of_accountKeys (laws : BotLaws olm json) {account : olm.Account}
    {keys : IdentityKeys} (h : accountKeys json account = .ok keys) :
    validUtf8 keys.curve25519 = true := by
  obtain ⟨j, hj, h⟩ := bind_eq_ok_iff.mp h
  obtain ⟨v, -, h⟩ := bind_eq_ok_iff.mp h
  obtain ⟨ed25519, -, h⟩ := bind_eq_ok_iff.mp h
  obtain ⟨v', hv', h⟩ := bind_eq_ok_iff.mp h
  obtain ⟨curve25519, hcurve, h⟩ := bind_eq_ok_iff.mp h
  rw [← Except.ok.inj h]
  exact validUtf8_of_getString (validUtf8_of_atKey (laws.parse _ j hj) hv') hcurve

theorem validUtf8_olmEvent (hsender : validUtf8 sender = true) (hkey : validUtf8 sender_key = true)
    (hcurve : validUtf8 curve25519 = true) (hbody : validUtf8 body = true) :
    (olmEvent sender sender_key curve25519 body).toJson.validUtf8 = true := by
  have hempty : Json.noMembers.All fun k v ↦ validUtf8 k = true ∧ v.validUtf8 = true := .empty
  have hcipher : (Msg.OlmCipherContent.toJson { body, type := 0 }).validUtf8 = true :=
    Json.validUtf8_ofMembers ((hempty.insert ⟨by decide, by exact hbody⟩).insert ⟨by decide, rfl⟩)
  have hciphertext : (Json.ofMap Msg.OlmCipherContent.toJson
      (olmEncrypted sender_key curve25519 body).ciphertext).validUtf8 = true :=
    Json.validUtf8_ofMap (SortedMap.All.insert .empty ⟨hcurve, hcipher⟩)
  have hcontent : (olmEncrypted sender_key curve25519 body).toJson.validUtf8 = true :=
    Json.validUtf8_ofMembers (((hempty.insert
      ⟨by decide, (by decide : (Json.string Msg.olmAlgo).validUtf8 = true)⟩).insert
        ⟨by decide, by exact hkey⟩).insert ⟨by decide, hciphertext⟩)
  rw [toJson_olmEvent, toDeviceEvent]
  exact Json.validUtf8_ofMembers (((hempty.insert ⟨by decide, hcontent⟩).insert
    ⟨by decide, by exact hsender⟩).insert ⟨by decide, by decide⟩)

/-- A message with one ciphertext, which is for the bot. -/
theorem decryptOlmMessage_eq {b b' : CryptoBot olm} {account : olm.Account}
    (haccount : b.olm_client.account_ = some account) {bot_keys : IdentityKeys}
    (hbot : accountKeys json account = .ok bot_keys)
    (hopen : ∀ world, openMessage json sender_key body { b with world } =
      (.ok (), { b' with world })) :
    ∃ world, decryptOlmMessage json
      { sender_key, sender,
        ciphertext := SortedMap.empty.insert bot_keys.curve25519 { body, type := 0 } } b =
      (.ok (), { b' with world }) := by
  obtain ⟨world, hworld⟩ := yields_identityKeys haccount hbot b.world
  have hidentity : withClient (OlmClient.identityKeys json) b =
      (.ok bot_keys, { b with world }) := by
    simp only [withClient, hworld]
  refine ⟨world, ?_⟩
  rw [decryptOlmMessage, bind_of_ok hidentity]
  show forEach _ [(bot_keys.curve25519, (⟨body, 0⟩ : Msg.OlmCipherContent))] _ = _
  rw [forEach, if_pos ⟨rfl, rfl⟩, bind_of_ok (hopen world)]
  rfl

/-- **A room key that is sealed for the bot is filed.**  Another device seals the key with a session
that the account of the bot opens, and the homeserver delivers what it sends: the bot reads it as an
event, writes it, reads the Olm message from there, opens it, and files the group session under the
room, the session, and the key of the device. -/
theorem room_key_filed (laws : BotLaws olm json) {client : OlmClient olm.toLibolm}
    {own account : olm.Account} (hown : client.account_ = some own) {keys bot_keys : IdentityKeys}
    (hkeys : accountKeys json own = .ok keys) {b : CryptoBot olm}
    (haccount : b.olm_client.account_ = some account)
    (hbot : accountKeys json account = .ok bot_keys) {session session' : olm.Session}
    (hopens : Opens account keys.curve25519 session) {event : DeviceEvent Msg.RoomKey}
    {recipient : Str} {content : Json} {w w' : Crypto.World}
    (hseal : createOlmEncryptedContent json client session event.toJson recipient bot_keys.ed25519
      bot_keys.curve25519 w = .ok ((content, session'), w'))
    (hrestores : ∀ obj, sealedEvent client keys.ed25519 event.toJson recipient bot_keys.ed25519 =
      .ok obj → json.Restores obj)
    (hne : sender ≠ []) (hlength : sender.length ≤ 255) (hsender : validUtf8 sender = true)
    (hnew : b.storage.inboundGroupExists event.content.room_id event.content.session_id
      keys.curve25519 = false) {megolm_session : olm.InboundGroupSession}
    (hinit : olm.initInboundGroupSession event.content.session_key = some megolm_session) :
    ∃ msg, parseDeviceEvent json (toDeviceEvent sender content) = .ok (some msg) ∧
      ∃ inbound b', handleToDeviceMsgs json [msg] b = (.ok (), b') ∧
        b'.storage = b.storage.file keys.curve25519 event.content inbound megolm_session := by
  obtain ⟨obj, body, random, hobj, hencrypt, rfl⟩ :=
    createOlmEncryptedContent_eq_ok hown hkeys hseal
  obtain ⟨hbody, inbound, account', inbound', n, hcreate, hremove, hmatches, hmax, hdecrypt⟩ :=
    hopens.opens _ _ _ _ hencrypt
  have hparse := hrestores obj hobj
  have hcontent : event.toJson.find? "content" = some event.content.toJson := by
    simp [DeviceEvent.toJson, Event.toJson, Event.members]
    rfl
  have hcarries : Carries obj event.content := (find?_content_sealedEvent hobj).trans hcontent
  rw [hopens.type]
  refine ⟨_, parse_toDeviceEvent hne hlength, inbound', ?_⟩
  have hopened : ∀ world, openMessage json keys.curve25519 body { b with world } =
      (.ok (), { b.opened account' (b.storage.file keys.curve25519 event.content inbound'
        megolm_session) with world }) := fun world ↦
    openMessage_eq (b := { b with world }) haccount hcreate hremove hmatches hmax hdecrypt hparse
      (laws.parse _ obj hparse) hcarries hnew hinit
  obtain ⟨world, hdecrypted⟩ : ∃ world, decryptOlmMessage json
      { sender_key := keys.curve25519, sender,
        ciphertext := SortedMap.empty.insert bot_keys.curve25519 { body, type := 0 } } b = _ :=
    decryptOlmMessage_eq haccount hbot hopened
  refine ⟨{ b.opened account' _ with world }, ?_, rfl⟩
  have hdump := json.dump_of_validUtf8 (validUtf8_olmEvent hsender
    (validUtf8_of_accountKeys laws hkeys) (validUtf8_of_accountKeys laws hbot) hbody)
  have htoJson : (deliveredEvent json sender keys.curve25519 bot_keys.curve25519 body).toJson =
      .ok (olmEvent sender keys.curve25519 bot_keys.curve25519 body).toJson := rfl
  simp only [handleToDeviceMsgs, forEach, bind_apply, lift, htoJson, hdump, catching,
    olmMessage_olmEvent, hdecrypted]
  rfl

/-! ### An example -/

/-- The room key that the other device sends. -/
def sampleRoomKey : DeviceEvent Msg.RoomKey where
  type := .roomKey
  sender := ""
  content := { algorithm := "m.megolm.v1.aes-sha2", room_id := "!r:b", session_id := "id",
               session_key := "key" }

/-- The other device. -/
def otherDevice : OlmClient sampleSessions.toLibolm where
  user_id_ := "@c:d"
  device_id_ := "E"
  account_ := some ()

/-- The keys of the account, of which there is only one. -/
def sampleKeys : IdentityKeys := ⟨sampleIdentityKey, sampleFingerprint⟩

/-- What is sealed. -/
def sampleSealed : Json :=
  (sealedEvent otherDevice sampleFingerprint sampleRoomKey.toJson (lit "@u:b")
    sampleFingerprint).toOption.getD .null

/-- What is parsed on the way. -/
def sealedValues : List Json := [sampleIdentityKeys, sampleSealed]

/-- The bot, as it is started, with an account. -/
def freshBot : CryptoBot sampleSessions where
  olm_client := { user_id_ := "@u:b", device_id_ := "D", account_ := some () }
  user_id := "@u:b"
  device_id := "D"
  world := zeroWorld

theorem opens_sampleSessions : @Opens sampleSessions () sampleIdentityKey () where
  type := rfl
  opens plaintext random message session' h := by
    dsimp only [sampleSessions] at h
    split_ifs at h with hvalid
    obtain ⟨rfl, -⟩ := Prod.mk.inj (Option.some.inj h)
    exact ⟨hvalid, (), (), (), plaintext.length, rfl, rfl, rfl, rfl, rfl⟩

theorem room_key_filed_fresh : ∃ content session' w',
    createOlmEncryptedContent (knownTexts sealedValues) otherDevice ()
      sampleRoomKey.toJson (lit "@u:b") sampleFingerprint sampleIdentityKey zeroWorld =
        .ok ((content, session'), w') ∧
    ∃ msg, parseDeviceEvent (knownTexts sealedValues) (toDeviceEvent (lit "@c:d") content) =
      .ok (some msg) ∧
    ∃ inbound b', handleToDeviceMsgs (knownTexts sealedValues) [msg] freshBot = (.ok (), b') ∧
      b'.storage = freshBot.storage.file sampleIdentityKey sampleRoomKey.content inbound () := by
  have hok : (createOlmEncryptedContent (knownTexts sealedValues)
      otherDevice () sampleRoomKey.toJson (lit "@u:b") sampleFingerprint sampleIdentityKey
      zeroWorld).isOk = true := by decide +kernel
  cases hseal : createOlmEncryptedContent (knownTexts sealedValues)
      otherDevice () sampleRoomKey.toJson (lit "@u:b") sampleFingerprint sampleIdentityKey
      zeroWorld with
  | error e =>
    rw [hseal] at hok
    cases hok
  | ok sealed =>
    have hkeys : @accountKeys sampleSessions.toLibolm (knownTexts sealedValues) () =
        .ok sampleKeys := rfl
    refine ⟨sealed.1.1, sealed.1.2, sealed.2, rfl, ?_⟩
    refine room_key_filed (botLaws_knownTexts (by decide +kernel)) rfl hkeys rfl hkeys
      opens_sampleSessions hseal (fun obj hobj ↦ ?_) (by decide) (by decide) (by decide) (by decide)
      rfl
    have hsealed : sampleSealed = obj := congrArg (fun x ↦ x.toOption.getD .null) hobj
    rw [← hsealed]
    exact restores_of_findIdx? (n := 1) (by decide +kernel) rfl

/-! ## Understanding what is sent -/

/-- The inbound session decrypts what the outbound session encrypts, whatever they encrypted and
decrypted before. -/
def Paired (sending : olm.OutboundGroupSession) (receiving : olm.InboundGroupSession) : Prop :=
  ∀ sending', Encrypts sending sending' → ∀ plaintext ciphertext next,
    olm.groupEncrypt sending' plaintext = some (ciphertext, next) →
    ∀ receiving', Decrypts receiving receiving' → ∃ n index receiving'',
      olm.groupDecryptMaxPlaintextLength receiving' ciphertext = some n ∧
      olm.groupDecrypt receiving' ciphertext = some ((plaintext, index), receiving'')

end Mtx.Programs
