import MtxClient.Events.StateContents
import MtxClient.Json.Text

/-!
# Image packs

The content of `im.ponies.room_emotes` and `im.ponies.user_emotes`, an image pack, and that of
`im.ponies.emote_rooms`, the packs of other rooms that a user has enabled.
-/

set_option autoImplicit false

namespace Mtx.Events

open Str

/-- What the images of a pack are used for. -/
structure PackUsage where
  sticker : Bool := false
  emoji : Bool := false
  deriving DecidableEq

/-- `if (e == "sticker") … else if (e == "emoticon") …`. -/
def PackUsage.set (usage : PackUsage) (e : Json) : PackUsage :=
  if e.eqString "sticker" then { usage with sticker := true }
  else if e.eqString "emoticon" then { usage with emoji := true }
  else usage

/-- The loop over the usages. -/
def PackUsage.ofJson (j : Json) : PackUsage := j.elements.foldl PackUsage.set {}

/-- The usages as they are pushed back one by one. -/
def PackUsage.toJson (usage : PackUsage) : Json :=
  .array <| (if usage.sticker then [Json.string "sticker"] else []) ++
    if usage.emoji then [Json.string "emoticon"] else []

/-- Is there any usage to push back? -/
def PackUsage.any (usage : PackUsage) : Bool := usage.sticker || usage.emoji

theorem PackUsage.ofJson_toJson (usage : PackUsage) : PackUsage.ofJson usage.toJson = usage := by
  obtain ⟨sticker, emoji⟩ := usage
  cases sticker <;> cases emoji <;> decide

/-- An image of a pack. -/
structure PackImage where
  url : Str
  body : Str := ""
  info : Option ImageInfo := none
  usage : PackUsage := {}

/-- `from_json(PackImage)`. -/
def PackImage.fromJson (obj : Json) : Except Exn PackImage := do
  let url ← (← obj.atKey "url").getString
  let body ← safeGet obj "body" Json.getString ""
  let info ← obj.optional "info" (fun j ↦ some <$> ImageInfo.fromJson j) none
  let usage := match obj.find? "usage" with
    | some usage => PackUsage.ofJson usage
    | none => {}
  return { url, body, info, usage }

/-- `to_json(PackImage)`. -/
def PackImage.toJson (content : PackImage) : Json :=
  let m := Json.noMembers
    |>.insert "url" (.string content.url)
    |>.insertIf (!content.body.isEmpty) "body" (.string content.body)
    |>.insertIf content.usage.any "usage" content.usage.toJson
  Json.ofMembers <| match content.info with
    | some info => m.insert "info" info.toJson
    | none => m

/-- What is read back of an image. -/
def PackImage.reread (content : PackImage) : PackImage :=
  { content with info := content.info.map ImageInfo.reread }

theorem PackImage.fromJson_toJson (content : PackImage) :
    PackImage.fromJson content.toJson = .ok content.reread := by
  obtain ⟨url, body, info, usage⟩ := content
  have husage := PackUsage.ofJson_toJson usage
  have hany : usage.any = false → usage = {} := by
    obtain ⟨sticker, emoji⟩ := usage
    cases sticker <;> cases emoji <;> decide
  cases h : usage.any with
  | false =>
    obtain rfl := hany h
    cases body <;> cases info <;>
      simp [PackImage.fromJson, PackImage.toJson, Json.atKey_eq, safeGet_eq, Json.optional,
        ImageInfo.fromJson_toJson, PackImage.reread, lit_empty] <;>
      rfl
  | true =>
    cases body <;> cases info <;>
      simp [PackImage.fromJson, PackImage.toJson, Json.atKey_eq, safeGet_eq, Json.optional, h,
        husage, ImageInfo.fromJson_toJson, PackImage.reread, lit_empty]

/-- The description of a pack. -/
structure PackDescription where
  display_name : Str := ""
  avatar_url : Str := ""
  attribution : Str := ""
  usage : PackUsage := {}

/-- `from_json(ImagePack::PackDescription)`. -/
def PackDescription.fromJson (obj : Json) : Except Exn PackDescription := do
  let avatar_url ← safeGet obj "avatar_url" Json.getString ""
  let display_name ← safeGet obj "display_name" Json.getString ""
  let attribution ← safeGet obj "attribution" Json.getString ""
  let usage := match obj.find? "usage" with
    | some usage => if usage.isArray then PackUsage.ofJson usage else {}
    | none => {}
  return { display_name, avatar_url, attribution, usage }

/-- `to_json(ImagePack::PackDescription)`. -/
def PackDescription.toJson (content : PackDescription) : Json :=
  Json.ofMembers <| Json.noMembers
    |>.insertIf (!content.avatar_url.isEmpty) "avatar_url" (.string content.avatar_url)
    |>.insertIf (!content.display_name.isEmpty) "display_name" (.string content.display_name)
    |>.insertIf (!content.attribution.isEmpty) "attribution" (.string content.attribution)
    |>.insertIf content.usage.any "usage" content.usage.toJson

theorem PackDescription.fromJson_toJson (content : PackDescription) :
    PackDescription.fromJson content.toJson = .ok content := by
  have hstring : ∀ (k s : Str), (content.toJson.find? k =
      if (!s.isEmpty) = true then some (.string s) else none) →
      safeGet content.toJson k Json.getString "" = .ok s := fun k s hk ↦ by
    rw [safeGet_eq, hk]
    cases s <;> rfl
  have husage : content.toJson.find? "usage" =
      if content.usage.any = true then some content.usage.toJson else none := by
    simp [PackDescription.toJson]
  rw [PackDescription.fromJson,
    hstring "avatar_url" content.avatar_url (by simp [PackDescription.toJson]),
    hstring "display_name" content.display_name (by simp [PackDescription.toJson]),
    hstring "attribution" content.attribution (by simp [PackDescription.toJson]), husage]
  obtain ⟨display_name, avatar_url, attribution, usage⟩ := content
  obtain ⟨sticker, emoji⟩ := usage
  cases sticker <;> cases emoji <;> rfl

/-- Content of `im.ponies.room_emotes` and `im.ponies.user_emotes`. -/
structure ImagePack where
  images : SortedMap Str PackImage := SortedMap.empty
  pack : Option PackDescription := none

/-- `from_json(ImagePack)`. -/
def ImagePack.fromJson (obj : Json) : Except Exn ImagePack := do
  let pack ← obj.optional "pack" (fun j ↦ some <$> PackDescription.fromJson j) none
  let images ← obj.optional "images" (Json.getMap PackImage.fromJson) SortedMap.empty
  return { images, pack }

/-- `to_json(ImagePack)`. -/
def ImagePack.toJson (content : ImagePack) : Json :=
  let m := Json.noMembers.insert "images" (Json.ofMap PackImage.toJson content.images)
  Json.ofMembers <| match content.pack with
    | some pack => m.insert "pack" pack.toJson
    | none => m

instance : EventContent ImagePack := .ofCodec ImagePack.fromJson ImagePack.toJson {}

/-- What is read back of the images. -/
def ImagePack.reread (content : ImagePack) : ImagePack :=
  { content with images := content.images.map PackImage.reread }

theorem ImagePack.fromJson_toJson (content : ImagePack) :
    ImagePack.fromJson content.toJson = .ok content.reread := by
  obtain ⟨images, pack⟩ := content
  have himages := Json.getMap_ofMap_map PackImage.fromJson_toJson images
  cases pack <;>
    simp [ImagePack.fromJson, ImagePack.toJson, ImagePack.reread, Json.optional, himages,
      PackDescription.fromJson_toJson]

/-! ## im.ponies.emote_rooms -/

/-- Content of `im.ponies.emote_rooms`: the packs that are enabled, by room and by the state key of
the pack, with the JSON text that stands there. -/
structure ImagePackRooms (json : JsonText) where
  rooms : SortedMap Str (SortedMap Str Str) := SortedMap.empty

variable (json : JsonText)

/-- `content.rooms[roomid][packid] = body.dump();`. -/
def addPack (roomid : Str) (rooms : SortedMap Str (SortedMap Str Str)) (pack : Str × Json) :
    Except Exn (SortedMap Str (SortedMap Str Str)) := do
  let body ← json.dump pack.2
  return rooms.insert roomid (((rooms.find? roomid).getD SortedMap.empty).insert pack.1 body)

/-- `from_json(ImagePackRooms)`. -/
def ImagePackRooms.fromJson (obj : Json) : Except Exn (ImagePackRooms json) :=
  match obj.find? "rooms" with
  | some rooms => do
    let rooms ← rooms.items.foldlM
      (fun rooms room ↦ room.2.items.foldlM (addPack json room.1) rooms) SortedMap.empty
    return { rooms }
  | none => .ok {}

/-- The members of `obj["rooms"][roomid]`. -/
def packsToJson (packs : SortedMap Str Str) : Except Exn (SortedMap Str Json) :=
  packs.entries.foldlM (fun m pack ↦ do
    let body ← if pack.2.isEmpty then pure (Json.object []) else json.parse pack.2
    return m.insert pack.1 body) Json.noMembers

/-- `to_json(ImagePackRooms)`: a room without packs is left out. -/
def ImagePackRooms.toJson (content : ImagePackRooms json) : Except Exn Json := do
  let rooms ← content.rooms.entries.foldlM (fun m room ↦ do
    let packs ← packsToJson json room.2
    return m.insertIf (!packs.entries.isEmpty) room.1 (Json.ofMembers packs)) Json.noMembers
  return Json.ofMembers (Json.noMembers.insert "rooms" (.object rooms.entries))

instance : EventContent (ImagePackRooms json) :=
  .ofCodec (ImagePackRooms.fromJson json) (fun c ↦ c.toJson.toOption.getD .null) {}

end Mtx.Events
