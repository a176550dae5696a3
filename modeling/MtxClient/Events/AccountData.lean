import MtxClient.Events.StateContents

/-!
# Account data and ephemeral contents

The contents of the events that a user keeps for a room, and of those that are not part of its
history: typing notifications and read receipts.  Here is also the content of an event whose type
the library does not know, which is kept as the text of its JSON.
-/

set_option autoImplicit false

namespace Mtx.Events

open Str

/-! ## Unknown events -/

/-- Placeholder content for an event that is unsupported. -/
structure Unknown (json : JsonText) where
  /-- The original content. -/
  content : Str := ""
  /-- The original type. -/
  type : Str := ""

/-- `from_json(Unknown)`. -/
def Unknown.fromJson (json : JsonText) (obj : Json) : Except Exn (Unknown json) := do
  return { content := ← json.dump obj }

/-- `to_json(Unknown)`, which leaves the value as it is when the text cannot be parsed. -/
def Unknown.toJson {json : JsonText} (event : Unknown json) : Json :=
  match json.parse event.content with
  | .ok obj => obj
  | .error _ => .null

instance (json : JsonText) : EventContent (Unknown json) where
  fromJson := Unknown.fromJson json
  toJson := Unknown.toJson
  default := {}
  canEdit := false
  canEdit_of_isEncrypted := editable_of_encrypted
  setType type c := { c with type }
  ownType c := some c.type

/-! ## Account data -/

namespace AccountData

/-- Content of `m.direct`. -/
structure Direct where
  user_to_rooms : SortedMap Str (List Str) := SortedMap.empty

/-- `from_json(Direct)`. -/
def Direct.fromJson (obj : Json) : Except Exn Direct := do
  return { user_to_rooms := ← obj.getMap (Json.getArray Json.getString) }

/-- `to_json(Direct)`. -/
def Direct.toJson (content : Direct) : Json :=
  Json.ofMap (Json.ofArray .string) content.user_to_rooms

instance : EventContent Direct := .ofCodec Direct.fromJson Direct.toJson {}

/-- Content of `m.fully_read`. -/
structure FullyRead where
  event_id : Str := ""

/-- `from_json(FullyRead)`. -/
def FullyRead.fromJson (obj : Json) : Except Exn FullyRead := do
  return { event_id := ← (← obj.atKey "event_id").getString }

/-- `to_json(FullyRead)`. -/
def FullyRead.toJson (content : FullyRead) : Json :=
  Json.ofMembers <| Json.noMembers |>.insert "event_id" (.string content.event_id)

instance : EventContent FullyRead := .ofCodec FullyRead.fromJson FullyRead.toJson {}

/-- A user who is ignored. -/
structure IgnoredUser where
  id : Str

/-- Content of `m.ignored_user_list`. -/
structure IgnoredUsers where
  users : List IgnoredUser := []

/-- `from_json(IgnoredUsers)`. -/
def IgnoredUsers.fromJson (obj : Json) : Except Exn IgnoredUsers :=
  match obj.find? "ignored_users" with
  | some ignored => .ok { users := ignored.items.map fun e ↦ { id := e.1 } }
  | none => .ok {}

/-- `to_json(IgnoredUsers)`. -/
def IgnoredUsers.toJson (content : IgnoredUsers) : Json :=
  let map := content.users.foldl
    (fun m user ↦ m.insert user.id (Json.object [])) Json.noMembers
  Json.ofMembers <| Json.noMembers |>.insert "ignored_users" (.object map.entries)

instance : EventContent IgnoredUsers := .ofCodec IgnoredUsers.fromJson IgnoredUsers.toJson {}

/-- A tag of a room. -/
structure Tag where
  /-- The number that the room is sorted by, as it stands in the JSON. -/
  order : Option Json := none

/-- `from_json(Tag)`: some clients send the order as a string. -/
def Tag.fromJson (obj : Json) : Except Exn Tag :=
  match obj.find? "order" with
  | some o => .ok { order := if o.isNumber then some o else none }
  | none => .ok {}

/-- `to_json(Tag)`. -/
def Tag.toJson (content : Tag) : Json :=
  match content.order with
  | some order => .object [(lit "order", order)]
  | none => .object []

/-- Content of `m.tag`. -/
structure Tags where
  tags : SortedMap Str Tag := SortedMap.empty

/-- `from_json(Tags)`. -/
def Tags.fromJson (obj : Json) : Except Exn Tags := do
  return { tags := ← (← obj.atKey "tags").getMap Tag.fromJson }

/-- `to_json(Tags)`. -/
def Tags.toJson (content : Tags) : Json :=
  Json.ofMembers <| Json.noMembers |>.insert "tags" (Json.ofMap Tag.toJson content.tags)

instance : EventContent Tags := .ofCodec Tags.fromJson Tags.toJson {}

/-! ## Account data of Nheko -/

/-- Content of `im.nheko.hidden_events`. -/
structure HiddenEvents where
  hidden_event_types : Option (List EventType) := none

/-- One round of the loop of `from_json(HiddenEvents)`: a name that is no event type is skipped. -/
def addHiddenType (types : List EventType) (typeStr : Json) : Except Exn (List EventType) := do
  let type_ ← typeStr.getString
  if type_ = "" then return types ++ [.unsupported]
  else match getEventType type_ with
    | .ok type => return types ++ [type]
    | .error _ => return types

/-- `from_json(HiddenEvents)`. -/
def HiddenEvents.fromJson (obj : Json) : Except Exn HiddenEvents :=
  match obj.find? "hidden_event_types" with
  | some types => do
    return { hidden_event_types := some (← types.elements.foldlM addHiddenType []) }
  | none => .ok {}

/-- `to_json(HiddenEvents)`. -/
def HiddenEvents.toJson (content : HiddenEvents) : Json :=
  match content.hidden_event_types with
  | none | some [] => .null
  | some types => .object [(lit "hidden_event_types",
      Json.ofArray (fun type ↦ .string (EventType.toStr type)) types)]

instance : EventContent HiddenEvents := .ofCodec HiddenEvents.fromJson HiddenEvents.toJson {}

/-- Content of `im.nheko.event_expiry`. -/
structure EventExpiry where
  exclude_state_events : Bool := false
  expire_after_ms : UInt64 := 0
  protect_latest : UInt64 := 0
  keep_only_latest : UInt64 := 0

/-- `from_json(EventExpiry)`. -/
def EventExpiry.fromJson (obj : Json) : Except Exn EventExpiry := do
  let exclude_state_events ← obj.value "exclude_state_events" Json.getBool false
  let expire_after_ms ← obj.value "expire_after_ms" Json.getUInt64 0
  let protect_latest ← obj.value "protect_latest" Json.getUInt64 0
  let keep_only_latest ← obj.value "keep_only_latest" Json.getUInt64 0
  return { exclude_state_events, expire_after_ms, protect_latest, keep_only_latest }

/-- `to_json(EventExpiry)`. -/
def EventExpiry.toJson (content : EventExpiry) : Json :=
  Json.ofMembers <| Json.noMembers
    |>.insertIf content.exclude_state_events "exclude_state_events" (.boolean true)
    |>.insertIf (content.expire_after_ms != 0) "expire_after_ms"
      (.numberUnsigned content.expire_after_ms)
    |>.insertIf (content.protect_latest != 0) "protect_latest"
      (.numberUnsigned content.protect_latest)
    |>.insertIf (content.keep_only_latest != 0) "keep_only_latest"
      (.numberUnsigned content.keep_only_latest)

instance : EventContent EventExpiry := .ofCodec EventExpiry.fromJson EventExpiry.toJson {}

/-- Content of `im.nheko.invite_permissions`, with the JSON texts that stand in the lists. -/
structure InvitePermissions (json : JsonText) where
  default_ : Str := ""
  server_allow : SortedMap Str Str := SortedMap.empty
  server_deny : SortedMap Str Str := SortedMap.empty
  room_allow : SortedMap Str Str := SortedMap.empty
  room_deny : SortedMap Str Str := SortedMap.empty
  user_allow : SortedMap Str Str := SortedMap.empty
  user_deny : SortedMap Str Str := SortedMap.empty

section

variable (json : JsonText)

/-- A list of `parse_subset`: the texts of the values. -/
def dumpValues (m : SortedMap Str Json) : Except Exn (SortedMap Str Str) :=
  m.entries.foldlM (fun texts e ↦ do return texts.insert e.1 (← json.dump e.2)) SortedMap.empty

/-- `parse_subset`, with the two lists that it answers. -/
def parseSubset (key : Str) (obj : Json) :
    Except Exn (SortedMap Str Str × SortedMap Str Str) :=
  match obj.find? key with
  | some o => do
    let a ← o.value "allow" (Json.getMap pure) SortedMap.empty
    let d ← o.value "deny" (Json.getMap pure) SortedMap.empty
    return (← dumpValues json a, ← dumpValues json d)
  | none => .ok (SortedMap.empty, SortedMap.empty)

/-- `from_json(InvitePermissions)`. -/
def InvitePermissions.fromJson (obj : Json) : Except Exn (InvitePermissions json) := do
  let default_ ← obj.optional "default" Json.getString "allow"
  let server ← parseSubset json "server" obj
  let room ← parseSubset json "room" obj
  let user ← parseSubset json "user" obj
  return { default_, server_allow := server.1, server_deny := server.2, room_allow := room.1,
           room_deny := room.2, user_allow := user.1, user_deny := user.2 }

/-- `obj[key][list][k] = nlohmann::json::parse(v)`, for the members of a list. -/
def emitList (key list : Str) (obj : Json) (texts : SortedMap Str Str) : Except Exn Json :=
  texts.entries.foldlM (fun obj e ↦ do obj.setPath [key, list, e.1] (← json.parse e.2)) obj

/-- `emit_subset`. -/
def emitSubset (obj : Json) (key : Str) (allow deny : SortedMap Str Str) : Except Exn Json := do
  let obj ← emitList json key "allow" obj allow
  emitList json key "deny" obj deny

/-- `to_json(InvitePermissions)`. -/
def InvitePermissions.toJson {json : JsonText} (content : InvitePermissions json) :
    Except Exn Json := do
  let obj ← Json.null.set "default" (.string content.default_)
  let obj ← emitSubset json obj "server" content.server_allow content.server_deny
  let obj ← emitSubset json obj "room" content.room_allow content.room_deny
  emitSubset json obj "user" content.user_allow content.user_deny

instance : EventContent (InvitePermissions json) :=
  .ofCodec (InvitePermissions.fromJson json) (fun c ↦ (c.toJson).toOption.getD .null) {}

end

end AccountData

/-! ## Ephemeral contents -/

namespace Ephemeral

/-- Content of `m.typing`. -/
structure Typing where
  user_ids : List Str := []

/-- `from_json(Typing)`. -/
def Typing.fromJson (obj : Json) : Except Exn Typing := do
  return { user_ids := ← (← obj.atKey "user_ids").getArray Json.getString }

/-- `to_json(Typing)`. -/
def Typing.toJson (content : Typing) : Json :=
  Json.ofMembers <| Json.noMembers
    |>.insert "user_ids" (Json.ofArray .string content.user_ids)

instance : EventContent Typing := .ofCodec Typing.fromJson Typing.toJson {}

/-- The receipts for an event: for each kind, the time by user. -/
structure Receipts where
  read : SortedMap Str UInt64 := SortedMap.empty
  readPrivate : SortedMap Str UInt64 := SortedMap.empty

/-- Content of `m.receipt`. -/
structure Receipt where
  receipts : SortedMap Str Receipts := SortedMap.empty

/-- `content.receipts[event_id][t].users[user].ts = …`, for a user of a kind of receipts. -/
def addReceipt (assign : Receipts → Str → UInt64 → Receipts) (event_id : Str)
    (receipts : SortedMap Str Receipts) (user : Str × Json) :
    Except Exn (SortedMap Str Receipts) := do
  let ts ← user.2.value "ts" Json.getUInt64 0
  return receipts.insert event_id (assign ((receipts.find? event_id).getD {}) user.1 ts)

/-- The receipts of one kind for an event. -/
def addReceiptsByType (event_id : Str) (receipts : SortedMap Str Receipts) (byType : Str × Json) :
    Except Exn (SortedMap Str Receipts) :=
  if byType.1 = "m.read" then
    byType.2.items.foldlM (addReceipt (fun r user ts ↦ { r with read := r.read.insert user ts })
      event_id) receipts
  else if byType.1 = "m.read.private" ∨ byType.1 = "org.matrix.msc2285.read.private" then
    byType.2.items.foldlM (addReceipt
      (fun r user ts ↦ { r with readPrivate := r.readPrivate.insert user ts }) event_id) receipts
  else
    .ok receipts

/-- `from_json(Receipt)`. -/
def Receipt.fromJson (obj : Json) : Except Exn Receipt := do
  let receipts ← obj.items.foldlM
    (fun receipts e ↦ e.2.items.foldlM (addReceiptsByType e.1) receipts) SortedMap.empty
  return { receipts }

/-- The users and times of one kind of receipts. -/
def usersToJson (users : SortedMap Str UInt64) : Json :=
  Json.ofMap (fun ts ↦ .object [(lit "ts", .numberUnsigned ts)]) users

/-- `to_json(Receipt)`: an event or a kind without receipts is not written. -/
def Receipt.toJson (content : Receipt) : Json :=
  Json.ofMembers <| content.receipts.entries.foldl
    (fun m e ↦
      let byType := Json.noMembers
        |>.insertIf (!e.2.read.entries.isEmpty) "m.read" (usersToJson e.2.read)
        |>.insertIf (!e.2.readPrivate.entries.isEmpty) "m.read.private"
          (usersToJson e.2.readPrivate)
      m.insertIf (!byType.entries.isEmpty) e.1 (Json.ofMembers byType)) Json.noMembers

instance : EventContent Receipt := .ofCodec Receipt.fromJson Receipt.toJson {}

end Ephemeral

end Mtx.Events
