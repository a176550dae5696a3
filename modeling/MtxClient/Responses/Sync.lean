import MtxClient.Responses.Dispatch

/-!
# The sync response

`from_json` of the answer to `/sync` and of its parts.

The names of rooms and users are limited to 255 bytes here: longer ones are left out.
-/

set_option autoImplicit false

namespace Mtx.Events

open Str

/-! ## Presence -/

inductive PresenceState where
  | online
  | offline
  | unavailable
  deriving DecidableEq

/-- `to_string(PresenceState)`. -/
def PresenceState.toStr : PresenceState → Str
  | .offline => "offline"
  | .unavailable => "unavailable"
  | .online => "online"

/-- `from_string`, for which everything else is online. -/
def PresenceState.fromStr (str : Str) : PresenceState :=
  if str = "offline" then .offline
  else if str = "unavailable" then .unavailable
  else .online

/-- Presence event to indicate the presence state of a user. -/
structure Presence where
  avatar_url : Str := ""
  displayname : Str := ""
  last_active_ago : UInt64 := 0
  presence : PresenceState := .online
  currently_active : Bool := false
  status_msg : Str := ""

/-- `from_json(Presence)`, which ignores a status that is no string. -/
def Presence.fromJson (obj : Json) : Except Exn Presence := do
  let avatar_url ← obj.value "avatar_url" Json.getString ""
  let displayname ← obj.value "displayname" Json.getString ""
  let last_active_ago ← obj.value "last_active_ago" Json.getUInt64 0
  let presence ← obj.value "presence" Json.getString "online"
  let currently_active ← obj.value "currently_active" Json.getBool false
  let status_msg := match obj.find? "status_msg" with
    | some (.string s) => s
    | _ => ""
  return { avatar_url, displayname, last_active_ago, presence := .fromStr presence,
           currently_active, status_msg }

/-- `to_json(Presence)`. -/
def Presence.toJson (p : Presence) : Json :=
  Json.ofMembers <| Json.noMembers
    |>.insertIf (!p.avatar_url.isEmpty) "avatar_url" (.string p.avatar_url)
    |>.insertIf (!p.displayname.isEmpty) "displayname" (.string p.displayname)
    |>.insertIf (p.last_active_ago != 0) "last_active_ago" (.numberUnsigned p.last_active_ago)
    |>.insert "presence" (.string p.presence.toStr)
    |>.insertIf p.currently_active "currently_active" (.boolean true)
    |>.insertIf (!p.status_msg.isEmpty) "status_msg" (.string p.status_msg)

instance : EventContent Presence where
  fromJson := Presence.fromJson
  toJson := Presence.toJson
  default := {}
  canEdit := false
  canEdit_of_isEncrypted := editable_of_encrypted

end Mtx.Events

namespace Mtx.Responses

open Str Events

section

variable (json : JsonText)

/-! ## Lists of events -/

/-- The events of a block, which are read if they are an array. -/
def eventList {α : Type} (parse : Json → List α → Except Exn (List α)) (obj : Json) :
    Except Exn (List α) :=
  match obj.find? "events" with
  | some events => if events.isArray then parse events [] else return []
  | none => return []

/-- Room specific account data. -/
structure AccountData where
  events : List (RoomAccountDataEvents json) := []

/-- `from_json(AccountData)`. -/
def AccountData.fromJson (obj : Json) : Except Exn (AccountData json) := do
  return { events := ← eventList (parseRoomAccountDataEvents json) obj }

/-- State events. -/
structure State where
  events : List (StateEvents json) := []

/-- `from_json(State)`. -/
def State.fromJson (obj : Json) : Except Exn (State json) := do
  return { events := ← eventList (parseStateEvents json) obj }

/-- State and room events. -/
structure Timeline where
  events : List (TimelineEvents json) := []
  /-- A token for the events before these. -/
  prev_batch : Str := ""
  /-- Was the number of events limited by the filter? -/
  limited : Bool := false

/-- `from_json(Timeline)`. -/
def Timeline.fromJson (obj : Json) : Except Exn (Timeline json) := do
  let prev_batch ← obj.value "prev_batch" Json.getString ""
  let limited ← obj.value "limited" Json.getBool false
  let events ← parseTimelineEvents json (← obj.atKey "events") []
  return { events, prev_batch, limited }

/-- Counts of unread notifications for a room. -/
structure UnreadNotifications where
  highlight_count : UInt64 := 0
  notification_count : UInt64 := 0

/-- `from_json(UnreadNotifications)`. -/
def UnreadNotifications.fromJson (obj : Json) : Except Exn UnreadNotifications := do
  let highlight_count ← obj.optional "highlight_count" Json.getUInt64 0
  let notification_count ← obj.optional "notification_count" Json.getUInt64 0
  return { highlight_count, notification_count }

/-- Events that are not recorded in the timeline. -/
structure Ephemeral where
  events : List (EphemeralEvents json) := []

/-- `from_json(Ephemeral)`. -/
def Ephemeral.fromJson (obj : Json) : Except Exn (Ephemeral json) := do
  return { events := ← eventList (parseEphemeralEvents json) obj }

/-! ## Rooms -/

/-- A room that the user has joined. -/
structure JoinedRoom where
  state : State json := {}
  timeline : Timeline json := {}
  unread_notifications : UnreadNotifications := {}
  ephemeral : Ephemeral json := {}
  account_data : AccountData json := {}

/-- `from_json(JoinedRoom)`. -/
def JoinedRoom.fromJson (obj : Json) : Except Exn (JoinedRoom json) := do
  let state ← obj.optional "state" (State.fromJson json) {}
  let timeline ← obj.optional "timeline" (Timeline.fromJson json) {}
  let unread_notifications ← obj.optional "unread_notifications" UnreadNotifications.fromJson {}
  let ephemeral ← obj.optional "ephemeral" (Ephemeral.fromJson json) {}
  let account_data ← obj.optional "account_data" (AccountData.fromJson json) {}
  return { state, timeline, unread_notifications, ephemeral, account_data }

/-- A room that the user has left or been banned from. -/
structure LeftRoom where
  state : State json := {}
  timeline : Timeline json := {}

/-- `from_json(LeftRoom)`. -/
def LeftRoom.fromJson (obj : Json) : Except Exn (LeftRoom json) := do
  let state ← obj.optional "state" (State.fromJson json) {}
  let timeline ← obj.optional "timeline" (Timeline.fromJson json) {}
  return { state, timeline }

/-- The stripped events under a key of a room, which need not be an array. -/
def strippedList (key : Str) (obj : Json) : Except Exn (List (StrippedEvents json)) :=
  match obj.find? key with
  | some state =>
    match state.find? "events" with
    | some events => parseStrippedEvents json events []
    | none => return []
  | none => return []

/-- A room that the user has been invited to. -/
structure InvitedRoom where
  invite_state : List (StrippedEvents json) := []

/-- `from_json(InvitedRoom)`. -/
def InvitedRoom.fromJson (obj : Json) : Except Exn (InvitedRoom json) := do
  return { invite_state := ← strippedList json "invite_state" obj }

/-- A room that the user has knocked on. -/
structure KnockedRoom where
  knock_state : List (StrippedEvents json) := []

/-- `from_json(KnockedRoom)`. -/
def KnockedRoom.fromJson (obj : Json) : Except Exn (KnockedRoom json) := do
  return { knock_state := ← strippedList json "knock_state" obj }

/-- `std::map::emplace_hint`, which keeps a value that is there. -/
def emplace {α : Type} (rooms : SortedMap Str α) (key : Str) (room : α) : SortedMap Str α :=
  if (rooms.find? key).isSome then rooms else rooms.insert key room

/-- One round of the loops of `from_json(Rooms)`. -/
def addRoom {α : Type} (read : Json → Except Exn α) (rooms : SortedMap Str α) (r : Str × Json) :
    Except Exn (SortedMap Str α) :=
  if r.1.length < 256 then do return emplace rooms r.1 (← read r.2) else return rooms

/-- One of the loops of `from_json(Rooms)`. -/
def readRooms {α : Type} (read : Json → Except Exn α) (entries : Json) :
    Except Exn (SortedMap Str α) :=
  entries.items.foldlM (addRoom read) SortedMap.empty

/-- Room updates. -/
structure Rooms where
  join : SortedMap Str (JoinedRoom json) := SortedMap.empty
  leave : SortedMap Str (LeftRoom json) := SortedMap.empty
  invite : SortedMap Str (InvitedRoom json) := SortedMap.empty
  knock : SortedMap Str (KnockedRoom json) := SortedMap.empty

/-- `from_json(Rooms)`. -/
def Rooms.fromJson (obj : Json) : Except Exn (Rooms json) := do
  let join ← obj.optional "join" (readRooms (JoinedRoom.fromJson json)) SortedMap.empty
  let leave ← obj.optional "leave" (readRooms (LeftRoom.fromJson json)) SortedMap.empty
  let invite ← obj.optional "invite" (readRooms (InvitedRoom.fromJson json)) SortedMap.empty
  let knock ← obj.optional "knock" (readRooms (KnockedRoom.fromJson json)) SortedMap.empty
  return { join, leave, invite, knock }

/-! ## Devices -/

/-- Users whose devices changed and users who left. -/
structure DeviceLists where
  changed : List Str := []
  left : List Str := []

/-- A list of users without those whose id exceeds 255 bytes. -/
def readUsers (obj : Json) : Except Exn (List Str) := do
  return (← obj.getArray Json.getString).filter fun user ↦ !decide (user.length > 255)

/-- `from_json(DeviceLists)`. -/
def DeviceLists.fromJson (obj : Json) : Except Exn DeviceLists := do
  let changed ← obj.optional "changed" readUsers []
  let left ← obj.optional "left" readUsers []
  return { changed, left }

/-- Messages for the client's device. -/
structure ToDevice where
  events : List (DeviceEvents json) := []

/-- `from_json(ToDevice)`. -/
def ToDevice.fromJson (obj : Json) : Except Exn (ToDevice json) := do
  return { events := ← obj.optional "events" (fun events ↦ parseDeviceEvents json events []) [] }

/-! ## The response -/

/-- The body of the loop over presence events. -/
def parsePresenceEvent (e : Json) : Except Exn (Option (Event Presence)) :=
  some <$> Event.fromJson Presence e

/-- Response from the `/sync` endpoint. -/
structure Sync where
  /-- The token for the next request. -/
  next_batch : Str
  rooms : Rooms json := {}
  to_device : ToDevice json := {}
  presence : List (Event Presence) := []
  device_lists : DeviceLists := {}
  device_one_time_keys_count : SortedMap Str UInt16 := SortedMap.empty
  device_unused_fallback_key_types : Option (List Str) := none
  account_data : AccountData json := {}

/-- `from_json(Sync)`. -/
def Sync.fromJson (obj : Json) : Except Exn (Sync json) := do
  let rooms ← obj.optional "rooms" (Rooms.fromJson json) {}
  let device_lists ← obj.optional "device_lists" DeviceLists.fromJson {}
  let to_device ← obj.optional "to_device" (ToDevice.fromJson json) {}
  let device_one_time_keys_count ←
    obj.optional "device_one_time_keys_count" (Json.getMap Json.getUInt16) SortedMap.empty
  let device_unused_fallback_key_types ← obj.optional "device_unused_fallback_key_types"
    (fun types ↦ if types.isArray then some <$> types.getArray Json.getString else return none) none
  let presence ← obj.optional "presence" (fun presence ↦ presence.optional "events"
    (fun events ↦ parseEvents json parsePresenceEvent events []) []) []
  let account_data ← obj.optional "account_data" (AccountData.fromJson json) {}
  let next_batch ← (← obj.atKey "next_batch").getString
  return { next_batch, rooms, to_device, presence, device_lists, device_one_time_keys_count,
           device_unused_fallback_key_types, account_data }

end

end Mtx.Responses
