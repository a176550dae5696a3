import MtxClient.Json.Undefined
import MtxClient.Lib.Decimal
import MtxClient.Responses.Common

/-!
# Rooms and previews

The answers to requests that look something up: the room that an alias stands for, what a room looks
like from outside, and the preview of a page.
-/

set_option autoImplicit false

namespace Mtx.Responses

open Str Events

/-! ## Rooms -/

/-- The room of an alias. -/
structure RoomId where
  room_id : Str := ""

instance : Inhabited RoomId := ⟨{}⟩

/-- `from_json(RoomId)`. -/
def RoomId.fromJson (obj : Json) : Except Exn RoomId := do
  return { room_id := ← (← obj.atKey "room_id").getString }

section

variable (json : JsonText)

/-- A room as it is listed. -/
structure PublicRoomsChunk where
  /-- Aliases of the room. -/
  aliases : List Str := []
  /-- The canonical alias of the room, if any. -/
  canonical_alias : Str := ""
  name : Str := ""
  /-- The number of members joined to the room. -/
  num_joined_members : UInt64 := 0
  room_id : Str := ""
  topic : Str := ""
  /-- Whether the room may be viewed by guest users without joining. -/
  world_readable : Bool := false
  /-- Whether guest users may join the room. -/
  guest_can_join : Bool := false
  avatar_url : Str := ""
  join_rule : JoinRule := .public
  room_type : Str := ""
  /-- The version of this room, which not all servers return. -/
  room_version : Str := ""
  /-- The membership of the user, which is missing for a user who is not in the room. -/
  membership : Membership := .leave
  /-- The encryption algorithm, if any. -/
  encryption : Str := ""
  /-- The children of a space. -/
  children_state : List (StrippedEvents json) := []

/-- The rooms of a space. -/
structure HierarchyRooms where
  rooms : List (PublicRoomsChunk json) := []
  /-- Where to go on, unless these are all rooms. -/
  next_batch : Str := ""

instance : Inhabited (PublicRoomsChunk json) := ⟨{}⟩

instance : Inhabited (HierarchyRooms json) := ⟨{}⟩

/-- `from_json(PublicRoomsChunk)`. -/
def PublicRoomsChunk.fromJson (obj : Json) : Except Exn (PublicRoomsChunk json) := do
  let aliases ← obj.value "aliases" (Json.getArray Json.getString) []
  let canonical_alias ← obj.value "canonical_alias" Json.getString ""
  let name ← obj.value "name" Json.getString ""
  let num_joined_members ← (← obj.atKey "num_joined_members").getUInt64
  let room_id ← (← obj.atKey "room_id").getString
  let topic ← obj.value "topic" Json.getString ""
  let world_readable ← (← obj.atKey "world_readable").getBool
  let guest_can_join ← (← obj.atKey "guest_can_join").getBool
  let avatar_url ← obj.value "avatar_url" Json.getString ""
  let join_rule ← obj.value "join_rule" Json.getString "public"
  let room_type ← obj.value "room_type" Json.getString ""
  -- the default is read before the member that it is for
  let version ← obj.value "im.nheko.summary.version" Json.getString ""
  let room_version ← obj.value "im.nheko.summary.room_version" Json.getString version
  let summary ← obj.value "im.nheko.summary.membership" Json.getString "leave"
  let membership ← obj.value "membership" Json.getString summary
  let encryption ← obj.value "im.nheko.summary.encryption" Json.getString ""
  let children_state ← obj.optional "children_state" (parseStrippedEvents json · []) []
  return { aliases, canonical_alias, name, num_joined_members, room_id, topic, world_readable,
           guest_can_join, avatar_url, join_rule := stringToJoinRule join_rule, room_type,
           room_version, membership := stringToMembership membership, encryption, children_state }

/-- `from_json(HierarchyRooms)`. -/
def HierarchyRooms.fromJson (obj : Json) : Except Exn (HierarchyRooms json) := do
  let rooms ← (← obj.atKey "rooms").getArray (PublicRoomsChunk.fromJson json)
  let next_batch ← obj.optional "next_batch" Json.getString ""
  return { rooms, next_batch }

end

/-! ## Previews -/

/-- `std::stol`. -/
def stol (s : Str) : Except Exn Int64 :=
  match Decimal.parse s with
  | some (negative, n) =>
    let value : ℤ := if negative then -n else n
    if value < -2 ^ 63 ∨ 2 ^ 63 ≤ value then .error (.outOfRange "stol")
    else .ok (Int64.ofInt value)
  | none => .error (.invalidArgument "stol")

/-- `get<std::int32_t>()`, which also takes a boolean. -/
def getInt32 : Json → Except Exn Int32
  | .numberInteger i => .ok i.toInt32
  | .numberUnsigned u => .ok u.toUInt32.toInt32
  | .numberFloat bits => (Json.castFloat bits (-2 ^ 31) (2 ^ 31 - 1)).map Int32.ofInt
  | .boolean b => .ok (if b then 1 else 0)
  | _ => .error (.jsonTypeError 302)

/-- `extractOptionalAttribute` for a number, which may also be written as a string. -/
def extractNumber (j : Json) : Except Exn (Option Int32) :=
  match j with
  | .string s => do return some (← stol s).toInt32
  | j => some <$> getInt32 j

/-- `extractOptionalAttribute` for a string. -/
def extractString (j : Json) : Except Exn (Option Str) := some <$> j.getString

/-- The image of a preview. -/
structure OGImage where
  /-- MIME type of the media. -/
  type : Option Str := none
  width : Option Int32 := none
  height : Option Int32 := none
  /-- A description of the media. -/
  alt_ : Option Str := none
  url : Str := ""
  /-- Byte size of the image. -/
  size : UInt64 := 0

/-- The preview of a page. -/
structure URLPreview where
  title : Str := ""
  url : Str := ""
  image : OGImage := {}
  description : Option Str := none
  site_name : Option Str := none

instance : Inhabited URLPreview := ⟨{}⟩

/-- `from_json(URLPreview)`. -/
def URLPreview.fromJson (obj : Json) : Except Exn URLPreview := do
  let title ← (← obj.atKey "og:title").getString
  let url ← (← obj.atKey "og:url").getString
  let site_name ← obj.optional "og:site_name" extractString none
  let description ← obj.optional "og:description" extractString none
  let type ← obj.optional "og:image:type" extractString none
  let width ← obj.optional "og:image:width" extractNumber none
  let height ← obj.optional "og:image:height" extractNumber none
  let alt_ ← obj.optional "og:image:alt" extractString none
  let size ← (← obj.atKey "matrix:image:size").getUInt64
  let image ← (← obj.atKey "og:image").getString
  return { title, url, image := { type, width, height, alt_, url := image, size }, description,
           site_name }

end Mtx.Responses
