import MtxClient.Programs.StorageSteps
import MtxClient.Programs.SyncLoop
import MtxClient.Responses.Keys

/-!
# The encrypting bot

The program `crypto_bot` joins the rooms that it is invited to, and answers the encrypted messages
that are sent there.  From Olm messages it takes the sessions of other devices, and it makes a
session for every room in which it answers.

This is the program in full, with the state that its callbacks share.  An exception ends a callback,
and what was stored before stays stored.
-/

set_option autoImplicit false

namespace Mtx.Programs

open Str Http Responses Events Crypto Stateful

/-! ## Olm messages -/

/-- An Olm message, as the bot reads it. -/
structure OlmMessage where
  sender_key : Str
  sender : Str
  ciphertext : SortedMap Str Msg.OlmCipherContent

/-- `from_json(OlmMessage)`. -/
def OlmMessage.fromJson (obj : Json) : Except Exn OlmMessage := do
  throwIf ((← obj.atKey "type").eqString "m.room.encrypted" = false)
    (.invalidArgument "invalid type for olm message")
  throwIf ((← (← obj.atKey "content").atKey "algorithm").eqString Msg.olmAlgo = false)
    (.invalidArgument "invalid algorithm for olm message")
  let sender ← (← obj.atKey "sender").getString
  let sender_key ← (← (← obj.atKey "content").atKey "sender_key").getString
  let ciphertext ←
    (← (← obj.atKey "content").atKey "ciphertext").getMap Msg.OlmCipherContent.fromJson
  return { sender_key, sender, ciphertext }

/-- What the handlers around an Olm message catch. -/
def isOlmMessageError : Exn → Bool
  | .invalidArgument _ => true
  | e => e.isJson

/-! ## The state -/

/-- The requests that have not been answered, with what their callbacks hold. -/
inductive BotRequest where
  | joinRoom (room_id : Str)
  | uploadKeys (keys : Crypto.UploadKeys)
  | queryKeys (user : Str)
  | claimKeys (member dev : Str) (megolm_payload : DeviceEvent Msg.RoomKey)
  | sendToDevice (body : Json)
  | sendRoomMessage (room_id : Str) (data : Msg.Encrypted)

/-- The bot, behind its login. -/
structure CryptoBot (olm : SessionOlm) where
  olm_client : OlmClient olm.toLibolm
  /-- The user and the device that the HTTP client is logged in as. -/
  user_id : Str
  device_id : Str
  storage : Storage olm := {}
  world : Crypto.World
  requests : List BotRequest := []

/-- A piece of a callback. -/
abbrev BotM (olm : SessionOlm) := Stateful Exn (CryptoBot olm)

variable {olm : SessionOlm}

/-- A request. -/
def send (request : BotRequest) : BotM olm Unit :=
  update fun b ↦ { b with requests := b.requests ++ [request] }

/-- Writing to the storage. -/
def store (f : Storage olm → Storage olm) : BotM olm Unit :=
  update fun b ↦ { b with storage := f b.storage }

/-- A function of `olm_client`.  What it drew from the generator before it threw is drawn again. -/
def withClient {α : Type} (f : OlmClient olm.toLibolm → OlmM α) : BotM olm α := fun b ↦
  match f b.olm_client b.world with
  | .ok (a, world) => (.ok a, { b with world })
  | .error e => (.error e, b)

/-! ## The storage -/

/-- `storage.devices[user_id]`. -/
def devicesOf (user_id : Str) : BotM olm (List Str) := do
  let storage ← access CryptoBot.storage
  match storage.devices.find? user_id with
  | some devices => return devices
  | none =>
    store (Storage.emplaceDevices user_id [])
    return []

/-- `storage.device_keys[dev]`. -/
def deviceKeysOf (dev : Str) : BotM olm DevKeys := do
  let storage ← access CryptoBot.storage
  match storage.device_keys.find? dev with
  | some keys => return keys
  | none =>
    store (Storage.setDeviceKeys dev {})
    return {}

/-! ## Answering in a room -/

variable (json : JsonText)

/-- What `send_group_message` encrypts. -/
def groupMessage (room_id msg : Str) : Json :=
  Json.ofMembers <| Json.noMembers
    |>.insert "type" (.string "m.room.message")
    |>.insert "content" (Json.ofMembers <| Json.noMembers
      |>.insert "type" (.string "m.text")
      |>.insert "body" (.string msg))
    |>.insert "room_id" (.string room_id)

/-- `send_group_message`.  The session works in place: `keep` is where it stands. -/
def sendGroupMessage (session : olm.OutboundGroupSession)
    (keep : olm.OutboundGroupSession → BotM olm Unit) (session_id room_id msg : Str) :
    BotM olm olm.OutboundGroupSession := do
  let text ← lift (json.dump (groupMessage room_id msg))
  let (ciphertext, session) ← withClient fun _ ↦ encryptGroupMessage session text
  keep session
  let keys ← withClient (OlmClient.identityKeys json)
  let device_id ← access CryptoBot.device_id
  send (.sendRoomMessage room_id
    { ciphertext, sender_key := keys.curve25519, session_id, device_id })
  return session

/-- The body of a message for a device, as it is written where there is a session with the device:
`member` is an entry of a map there, and so it becomes an array. -/
def bodyForMember (member : Str × Bool) (dev : Str) (device_msg : Json) : Json :=
  Json.ofMembers (Json.noMembers.insert "messages" (.array [.array [
    .array [.string member.1, .boolean member.2],
    Json.ofMembers (Json.noMembers.insert dev device_msg)]]))

/-- The body of a message for a device, as it is written once a one-time key was claimed. -/
def bodyForUser (member dev : Str) (device_msg : Json) : Json :=
  Json.ofMembers (Json.noMembers.insert "messages" (Json.ofMembers (Json.noMembers.insert member
    (Json.ofMembers (Json.noMembers.insert dev device_msg)))))

/-- One round of the inner loop of `create_outbound_megolm_session`. -/
def shareRoomKey (megolm_payload : DeviceEvent Msg.RoomKey) (member : Str × Bool) (dev : Str) :
    BotM olm Unit := do
  let device_keys ← deviceKeysOf dev
  let storage ← access CryptoBot.storage
  match storage.olm_outbound_sessions.find? device_keys.curve25519 with
  | some olm_session =>
    let (device_msg, olm_session) ← withClient fun client ↦
      createOlmEncryptedContent json client olm_session megolm_payload.toJson member.1
        device_keys.ed25519 device_keys.curve25519
    store (Storage.setOlmOutboundSession device_keys.curve25519 olm_session)
    send (.sendToDevice (bodyForMember member dev device_msg))
  | none => send (.claimKeys member.1 dev megolm_payload)

/-- `create_outbound_megolm_session`. -/
def createOutboundMegolmSession (room_id reply_msg : Str) : BotM olm Unit := do
  let outbound_session ← withClient fun _ ↦ initOutboundGroupSession olm.toLibolm
  let session_id := olm.outboundGroupSessionId outbound_session
  let session_key := olm.outboundGroupSessionKey outbound_session
  let megolm_payload : DeviceEvent Msg.RoomKey :=
    { type := .roomKey, sender := "",
      content := { algorithm := "m.megolm.v1.aes-sha2", room_id, session_id, session_key } }
  let storage ← access CryptoBot.storage
  match storage.members.find? room_id with
  | none => return
  | some members =>
    forEach (fun member ↦ do
      let devices ← devicesOf member.1
      forEach (shareRoomKey json megolm_payload member) devices) members.entries
    let session ← sendGroupMessage json outbound_session (fun _ ↦ pure ()) session_id room_id
      reply_msg
    store (Storage.setOutboundGroupSession room_id session { session_id, session_key })

/-- `send_encrypted_reply`. -/
def sendEncryptedReply (room_id reply_msg : Str) : BotM olm Unit := do
  let storage ← access CryptoBot.storage
  match storage.outbound_group_sessions.find? room_id,
    storage.outbound_group_session_data.find? room_id with
  | some session, some data => do
    let _ ← sendGroupMessage json session
      (fun session ↦ store (Storage.advanceOutbound room_id session)) data.session_id room_id
      reply_msg
  | _, _ => createOutboundMegolmSession json room_id reply_msg

/-- The JSON value of the first member: `obj.begin()->at("key")`. -/
def firstKey : Json → Except Exn Json
  | .object [] | .array [] => .error .undefinedBehaviour
  | .object ((_, value) :: _) => value.atKey "key"
  | .array (value :: _) => value.atKey "key"
  | .null => .error (.jsonTypeError 214)
  | j => j.atKey "key"

/-- The callback of `claim_keys`. -/
def claimed (member dev : Str) (megolm_payload : DeviceEvent Msg.RoomKey) (call : Call ClaimKeys) :
    BotM olm Unit :=
  match call.err with
  | some _ => pure ()
  | none => do
    let _ ← lift (json.dump megolm_payload.toJson)
    let retrieved_devices ← lift (mapAt call.response.one_time_keys member)
    forEach (fun rd ↦ do
      let _ ← lift (json.dump rd.2)
      let otk ← lift (firstKey rd.2)
      let device_keys ← deviceKeysOf dev
      let one_time_key ← lift otk.getString
      let session ← withClient fun client ↦ do
        createOutboundSession olm.toLibolm (← client.account) device_keys.curve25519 one_time_key
      let (device_msg, session) ← withClient fun client ↦
        createOlmEncryptedContent json client session megolm_payload.toJson member
          device_keys.ed25519 device_keys.curve25519
      store (Storage.setOlmOutboundSession device_keys.curve25519 session)
      send (.sendToDevice (bodyForUser member dev device_msg))) retrieved_devices.entries

/-! ## Receiving Olm messages -/

/-- The body of the loop of `decrypt_olm_message`, for a message that is meant for the bot. -/
def openMessage (sender_key msg_body : Str) : BotM olm Unit := do
  let client ← access CryptoBot.olm_client
  let (inbound_session, olm_client) ← lift (client.createInboundSession msg_body)
  update fun b ↦ { b with olm_client }
  if !matchesInboundSessionFrom inbound_session sender_key msg_body then return
  else
    let (output, inbound_session) ← lift (decryptMessage inbound_session 0 msg_body)
    let plaintext ← lift (json.parse output)
    let _ ← lift (json.dump plaintext)
    store (Storage.emplaceOlmInboundSession sender_key inbound_session)
    let content ← lift (plaintext.atKey "content")
    let room_id ← lift do (← content.atKey "room_id").getString
    let session_id ← lift do (← content.atKey "session_id").getString
    let session_key ← lift do (← content.atKey "session_key").getString
    let storage ← access CryptoBot.storage
    if storage.inboundGroupExists room_id session_id sender_key then return
    else
      let megolm_session ← lift (initInboundGroupSession session_key)
      store (Storage.setInboundGroupSession room_id session_id sender_key megolm_session)

/-- `decrypt_olm_message`. -/
def decryptOlmMessage (olm_msg : OlmMessage) : BotM olm Unit := do
  let keys ← withClient (OlmClient.identityKeys json)
  forEach (fun cipher ↦
    if cipher.1 = keys.curve25519 ∧ cipher.2.type = 0 then
      openMessage json olm_msg.sender_key cipher.2.body
    else pure ()) olm_msg.ciphertext.entries

/-- `handle_to_device_msgs`. -/
def handleToDeviceMsgs (msgs : List (DeviceEvents json)) : BotM olm Unit :=
  forEach (fun msg ↦ do
    let obj ← lift msg.toJson
    let _ ← lift (json.dump obj)
    catching isOlmMessageError do
      let olm_msg ← lift (OlmMessage.fromJson obj)
      decryptOlmMessage json olm_msg) msgs

/-! ## Keys of devices -/

/-- One round of the first loop of the callback of `query_keys`. -/
def checkDevice (user_id id : Str) (data : DeviceKeys) : Except Exn Unit :=
  let checked : Except Exn Unit := do
    let keys ← DeviceKeys.fromJson data.toJson
    let ok ← verifyIdentitySignature olm.toLibolm json keys id user_id
    if !ok then do let _ ← json.dump data.toJson
  match checked with
  | .error (.olmException _) => .ok ()
  | checked => checked

/-- `storage.device_keys[device_id] = …`, unless there are keys. -/
def saveKeys (key_struct : DeviceKeys) (curve25519 : Str) : BotM olm Unit := do
  let storage ← access CryptoBot.storage
  if (storage.device_keys.find? key_struct.device_id).isNone then do
    let ed25519 ← lift (mapAt key_struct.keys (lit "ed25519:" ++ key_struct.device_id))
    store (Storage.setDeviceKeys key_struct.device_id { ed25519, curve25519 })
  else pure ()

/-- The inner loop of `save_device_keys`, with the devices listed so far. -/
def saveDevices : List (Str × DeviceKeys) → List Str → BotM olm (List Str)
  | [], device_list => return device_list
  | (_, key_struct) :: devices, device_list =>
    match key_struct.keys.find? (lit "curve25519:" ++ key_struct.device_id) with
    | none => saveDevices devices device_list
    | some curve25519 => do
      saveKeys key_struct curve25519
      saveDevices devices (device_list ++ [key_struct.device_id])

/-- `save_device_keys`. -/
def saveDeviceKeys (res : QueryKeys) : BotM olm Unit :=
  forEach (fun entry ↦ do
    let device_list ← saveDevices entry.2.entries []
    store (Storage.emplaceDevices entry.1 device_list))
    res.device_keys.entries

/-- The callback of `query_keys`. -/
def keysQueried (call : Call QueryKeys) : BotM olm Unit :=
  match call.err with
  | some _ => pure ()
  | none => do
    forEach (fun user ↦ forEach (fun device ↦
      lift (@checkDevice olm json user.1 device.1 device.2)) user.2.entries)
      call.response.device_keys.entries
    saveDeviceKeys call.response

/-- `keys_uploaded_cb`. -/
def keysUploadedCb (call : Call Responses.UploadKeys) : BotM olm Unit :=
  match call.err with
  | some _ => pure ()
  | none => do
    let client ← access CryptoBot.olm_client
    let olm_client ← lift client.markKeysAsPublished
    update fun b ↦ { b with olm_client }

/-! ## Batches -/

/-- What `parse_messages` does with a member of a room. -/
def memberSeen (room_id state_key : Str) : BotM olm Unit := do
  send (.queryKeys state_key)
  store (Storage.addMember room_id state_key)

/-- `mark_encrypted_room`. -/
def markEncryptedRoom (room_id : Str) : BotM olm Unit :=
  store (Storage.setEncrypted room_id)

/-- What `parse_messages` does with an event of the state block. -/
def stateEventSeen (room_id : Str) : StateEvents json → BotM olm Unit
  | .known .encryption e => do
    markEncryptedRoom room_id
    let _ ← lift (json.dump e.toJson)
  | .known .member e => memberSeen room_id e.state_key
  | _ => pure ()

/-- What `parse_messages` does with an encrypted event. -/
def encryptedSeen (room_id : Str) (e : RoomEvent Msg.Encrypted) : BotM olm Unit := do
  let obj ← lift (TimelineEvents.toJson json (.room .encrypted e))
  let _ ← lift (json.dump obj)
  let storage ← access CryptoBot.storage
  let key := Storage.groupKey room_id e.content.session_id e.content.sender_key
  match storage.inbound_group_sessions.find? key with
  | none => return
  | some session =>
    let (res, session) ← lift (decryptGroupMessage (some session) e.content.ciphertext)
    store (Storage.advanceInbound key session)
    let body ← lift do
      (← (← (← json.parse res.1).atKey "content").atKey "body").getString
    let user_id ← access CryptoBot.user_id
    if e.sender ≠ user_id then
      sendEncryptedReply json room_id (e.sender ++ lit ": you said '" ++ body ++ lit "'")

/-- What `parse_messages` does with an event of a timeline. -/
def timelineEventSeen (room_id : Str) : TimelineEvents json → BotM olm Unit
  | .state .encryption e => do
    markEncryptedRoom room_id
    let _ ← lift (json.dump e.toJson)
  | .state .member e => memberSeen room_id e.state_key
  | .room .encrypted e => encryptedSeen json room_id e
  | _ => pure ()

/-- One round of the loop over the counts of one-time keys. -/
def refillKeys (count : UInt16) : BotM olm Unit :=
  if count < 50 then do
    let olm_client ← withClient fun client ↦ client.generateOneTimeKeys (50 - count.toNat) false
    update fun b ↦ { b with olm_client }
    let keys ← withClient (OlmClient.createOwnUploadKeysRequest json)
    send (.uploadKeys keys)
  else pure ()

/-- `parse_messages`. -/
def parseMessages (res : Sync json) : BotM olm Unit := do
  forEach (fun room ↦ send (.joinRoom room.1)) res.rooms.invite.entries
  handleToDeviceMsgs json res.to_device.events
  forEach (fun device ↦ refillKeys json device.2) res.device_one_time_keys_count.entries
  forEach (fun room ↦ do
    forEach (stateEventSeen json room.1) room.2.state.events
    forEach (timelineEventSeen json room.1) room.2.timeline.events) res.rooms.join.entries

/-- What `initial_sync_handler` does besides. -/
def firstMembers (res : Sync json) : BotM olm Unit :=
  forEach (fun room ↦ forEach (fun e ↦
    match e with
    | .known .member e => memberSeen room.1 e.state_key
    | _ => pure ()) room.2.state.events) res.rooms.join.entries

/-- The answer to one of the requests. -/
structure BotAnswer extends HttpAnswer where
  index : ℕ

/-- What an answer to a request does. -/
def CryptoBot.answered (what : Exn → Str) (answer : BotAnswer) (b : CryptoBot olm) :
    Except Exn (CryptoBot olm) :=
  match b.requests[answer.index]? with
  | none => .ok b
  | some request =>
    let b := { b with requests := b.requests.eraseIdx answer.index }
    match request with
    | .uploadKeys _ => complete json what (deserializeJson json UploadKeys.fromJson)
        keysUploadedCb answer.toHttpAnswer b
    | .queryKeys _ => complete json what (deserializeJson json (QueryKeys.fromJson json))
        (keysQueried json) answer.toHttpAnswer b
    | .claimKeys member dev megolm_payload =>
      complete json what (deserializeJson json (ClaimKeys.fromJson json))
        (claimed json member dev megolm_payload) answer.toHttpAnswer b
    | _ => .ok b

/-- The program. -/
def cryptoBot (olm : SessionOlm) (what : Exn → Str) : App json (CryptoBot olm) BotAnswer where
  first res := do
    parseMessages json res
    firstMembers json res
  next res := parseMessages json res
  other := CryptoBot.answered json what

/-! ## From the start to the end -/

/-- The files that the bot leaves behind: `account.json` and `db.json`.  A file that is empty is one
that is not there. -/
structure BotFiles where
  account : Str := ""
  db : Str := ""

/-- What is written to `account.json`. -/
def accountJson (pickled : Str) : Json :=
  Json.ofMembers (Json.noMembers.insert "account" (.string pickled))

/-- `shutdown_handler`. -/
def shutdownHandler (b : CryptoBot olm) : Except Exn BotFiles := do
  let db ← b.storage.save json
  let pickled ← b.olm_client.save storageKey
  let account ← json.dump (accountJson pickled)
  return { account, db }

/-- What `main` does with the account. -/
def startAccount (account : Str) : OlmM (OlmClient olm.toLibolm) := do
  let client : OlmClient olm.toLibolm := { user_id_ := "", device_id_ := "", account_ := none }
  if account.isEmpty then
    let account ← createNewAccount olm.toLibolm
    return { client with account_ := some account }
  else
    let data ← json.parse account
    let pickled ← (← data.atKey "account").getString
    client.load pickled storageKey

/-- `main`, up to the login. -/
def start (files : BotFiles) (world : Crypto.World) : Except Exn (CryptoBot olm) := do
  let (olm_client, world) ← startAccount json files.account world
  let storage ← Storage.load json files.db
  return { olm_client, user_id := "", device_id := "", storage, world }

/-- `login_cb`, for a login that did not fail. -/
def loginCb (user_id device_id : Str) : BotM olm Unit := do
  update fun b ↦ { b with user_id, device_id }
  let _ ← withClient (OlmClient.identityKeys json)
  let _ ← withClient (OlmClient.identityKeys json)
  update fun b ↦ { b with
    olm_client := { b.olm_client with user_id_ := user_id, device_id_ := device_id } }
  let olm_client ← withClient fun client ↦ client.generateOneTimeKeys 50 false
  update fun b ↦ { b with olm_client }
  let _ ← withClient (OlmClient.createOwnUploadKeysRequest json)

/-- What `login_cb` does when the keys are uploaded. -/
def firstKeysUploaded (call : Call Responses.UploadKeys) :
    Stateful Exn (Loop (CryptoBot olm)) Unit :=
  match call.err with
  | some _ => pure ()
  | none => fun l ↦
    match keysUploadedCb call l.app with
    | (.ok (), app) => (.ok (), { l with app }.sync { timeout := 0 } .initialSyncHandler)
    | (.error e, app) => (.error e, { l with app })

end Mtx.Programs
