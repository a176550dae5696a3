import MtxClient.Events.Common
import MtxClient.Events.State

/-!
# More state event contents

The contents of the other state events, without the image packs.  Like those of `Events.State`, they
have no relations.  With each goes what is read back of a content that was written.
-/

set_option autoImplicit false

namespace Mtx.Events

open Str

/-- The instance of a content without relations. -/
@[reducible] def EventContent.ofCodec {C : Type} (fromJson : Json → Except Exn C)
    (toJson : C → Json) (default : C) : EventContent C where
  fromJson
  toJson
  default
  canEdit := false
  canEdit_of_isEncrypted := editable_of_encrypted

/-! ## What is read back of creation, power levels, members and join rules -/

theorem PreviousRoom.fromJson_toJson (p : PreviousRoom) :
    PreviousRoom.fromJson p.toJson = .ok p := by
  obtain ⟨room_id, event_id⟩ := p
  cases event_id
  · simp [PreviousRoom.fromJson, PreviousRoom.toJson, Json.atKey_eq, Json.value_eq, lit_empty]
  · simp [PreviousRoom.fromJson, PreviousRoom.toJson, Json.atKey_eq, Json.value_eq]

/-- What is read back: an empty version is not written. -/
def Create.reread (c : Create) : Create :=
  { c with room_version := if c.room_version = [] then "1" else c.room_version }

theorem Create.fromJson_toJson (c : Create) : Create.fromJson c.toJson = .ok c.reread := by
  obtain ⟨type, federate, version, predecessor, creators⟩ := c
  cases type <;> cases version <;> cases predecessor <;> cases creators <;>
    simp [Create.fromJson, Create.toJson, Create.reread, Json.optional, Json.getBool,
      PreviousRoom.fromJson_toJson, Json.getArray_ofArray Json.getString_string]

theorem PowerLevels.fromJson_toJson (p : PowerLevels) : PowerLevels.fromJson p.toJson = .ok p := by
  have hmap : ∀ (k : Str) (m : SortedMap Str Int64),
      p.toJson.find? k = (if (!m.entries.isEmpty) = true then
        some (Json.ofMap .numberInteger m) else none) →
      p.toJson.optional k (Json.getMap Json.getInt64) SortedMap.empty = .ok m := fun k m h ↦ by
    rw [Json.optional, h]
    split_ifs with hm
    · exact Json.getMap_ofMap (fun i ↦ (rfl : (Json.numberInteger i).getInt64 = .ok i)) m
    · have hentries : m.entries = [] := by simpa using hm
      have hempty : m = SortedMap.empty := SortedMap.ext fun k ↦ by
        rw [SortedMap.find?, hentries]
        rfl
      rw [hempty]
  have hevents := hmap "events" p.events (by simp [PowerLevels.toJson])
  have husers := hmap "users" p.users (by simp [PowerLevels.toJson])
  have hnotifications := hmap "notifications" p.notifications (by simp [PowerLevels.toJson])
  rw [PowerLevels.fromJson, hevents, husers, hnotifications]
  simp [PowerLevels.toJson, Json.optional, Json.getInt64]

theorem Member.fromJson_toJson (m : Member) : Member.fromJson m.toJson = .ok m := by
  obtain ⟨membership, avatar_url, display_name, is_direct, reason, authorised⟩ := m
  cases membership <;> cases reason <;> cases authorised <;>
    simp [Member.fromJson, Member.toJson, nullableString, Json.atKey_eq, Json.optional,
      Json.getBool, stringToMembership, membershipToString, lit_empty]

/-- What is read back: only an allowance for the members of a room is written. -/
def JoinAllowance.reread (a : JoinAllowance) : JoinAllowance :=
  if a.type = .roomMembership then a else { type := .unknown, room_id := "" }

theorem JoinAllowance.fromJson_toJson (a : JoinAllowance) :
    JoinAllowance.fromJson a.toJson = .ok a.reread := by
  obtain ⟨type, room_id⟩ := a
  cases type <;>
    simp [JoinAllowance.fromJson, JoinAllowance.toJson, Json.value_eq, Json.isObject,
      JoinAllowance.reread]

/-- What is read back of the allowances. -/
def JoinRules.reread (j : JoinRules) : JoinRules :=
  { j with allow := j.allow.map JoinAllowance.reread }

theorem JoinRules.fromJson_toJson (j : JoinRules) : JoinRules.fromJson j.toJson = .ok j.reread := by
  obtain ⟨join_rule, allow⟩ := j
  have hallow := Json.getArray_ofArray_map JoinAllowance.fromJson_toJson allow
  cases join_rule <;> cases allow <;>
    simp_all [JoinRules.fromJson, JoinRules.toJson, JoinRules.reread, Json.value_eq, Json.optional,
      stringToJoinRule, joinRuleToString]

/-! ## m.room.aliases, m.room.avatar and m.room.canonical_alias -/

/-- Content of `m.room.aliases`. -/
structure Aliases where
  aliases : List Str := []

/-- `from_json(Aliases)`. -/
def Aliases.fromJson (obj : Json) : Except Exn Aliases := do
  let aliases ← obj.value "aliases" (Json.getArray Json.getString) []
  return { aliases }

/-- `to_json(Aliases)`. -/
def Aliases.toJson (content : Aliases) : Json :=
  Json.ofMembers <| Json.noMembers
    |>.insert "aliases" (Json.ofArray .string content.aliases)

instance : EventContent Aliases := .ofCodec Aliases.fromJson Aliases.toJson {}

theorem Aliases.fromJson_toJson (content : Aliases) :
    Aliases.fromJson content.toJson = .ok content := by
  simp [Aliases.fromJson, Aliases.toJson, Json.value_eq,
    Json.getArray_ofArray Json.getString_string]

/-- Content of `m.room.avatar`. -/
structure Avatar where
  image_info : ImageInfo := {}
  url : Str := ""

/-- `from_json(Avatar)`. -/
def Avatar.fromJson (obj : Json) : Except Exn Avatar := do
  let image_info ← obj.optional "info" ImageInfo.fromJson {}
  let url ← nullableString obj "url"
  return { image_info, url }

/-- `to_json(Avatar)`. -/
def Avatar.toJson (avatar : Avatar) : Json :=
  Json.ofMembers <| Json.noMembers
    |>.insert "info" avatar.image_info.toJson
    |>.insert "url" (.string avatar.url)

instance : EventContent Avatar := .ofCodec Avatar.fromJson Avatar.toJson {}

/-- What is read back of the image. -/
def Avatar.reread (avatar : Avatar) : Avatar :=
  { avatar with image_info := avatar.image_info.reread }

theorem Avatar.fromJson_toJson (avatar : Avatar) :
    Avatar.fromJson avatar.toJson = .ok avatar.reread := by
  simp [Avatar.fromJson, Avatar.toJson, Avatar.reread, Json.optional, nullableString,
    ImageInfo.fromJson_toJson]

/-- Content of `m.room.canonical_alias`. -/
structure CanonicalAlias where
  «alias» : Str := ""
  alt_aliases : List Str := []

/-- `from_json(CanonicalAlias)`. -/
def CanonicalAlias.fromJson (obj : Json) : Except Exn CanonicalAlias := do
  let «alias» ← nullableString obj "alias"
  let alt_aliases ← match obj.find? "alt_aliases" with
    | some v => if v.isArray then v.getArray Json.getString else pure []
    | none => pure []
  return { «alias», alt_aliases }

/-- `to_json(CanonicalAlias)`, which starts from an empty object. -/
def CanonicalAlias.toJson (canonical_alias : CanonicalAlias) : Json :=
  .object <| (Json.noMembers
    |>.insertIf (!canonical_alias.«alias».isEmpty) "alias" (.string canonical_alias.«alias»)
    |>.insertIf (!canonical_alias.alt_aliases.isEmpty) "alt_aliases"
      (Json.ofArray .string canonical_alias.alt_aliases)).entries

instance : EventContent CanonicalAlias := .ofCodec CanonicalAlias.fromJson CanonicalAlias.toJson {}

theorem CanonicalAlias.fromJson_toJson (c : CanonicalAlias) :
    CanonicalAlias.fromJson c.toJson = .ok c := by
  obtain ⟨name, alt_aliases⟩ := c
  cases name <;> cases alt_aliases <;>
    simp [CanonicalAlias.fromJson, CanonicalAlias.toJson, nullableString, lit_empty,
      Json.getArray_ofArray Json.getString_string]

/-! ## Encryption, guest access and history visibility -/

/-- Content of `m.room.encryption`. -/
structure Encryption where
  algorithm : Str := "m.megolm.v1.aes-sha2"
  rotation_period_ms : UInt64 := 604800000
  rotation_period_msgs : UInt64 := 100

/-- `from_json(Encryption)`. -/
def Encryption.fromJson (obj : Json) : Except Exn Encryption := do
  let algorithm ← (← obj.atKey "algorithm").getString
  let rotation_period_ms ← obj.optional "rotation_period_ms" Json.getUInt64 604800000
  let rotation_period_msgs ← obj.optional "rotation_period_msgs" Json.getUInt64 100
  return { algorithm, rotation_period_ms, rotation_period_msgs }

/-- `to_json(Encryption)`. -/
def Encryption.toJson (encryption : Encryption) : Json :=
  Json.ofMembers <| Json.noMembers
    |>.insert "algorithm" (.string encryption.algorithm)
    |>.insert "rotation_period_ms" (.numberUnsigned encryption.rotation_period_ms)
    |>.insert "rotation_period_msgs" (.numberUnsigned encryption.rotation_period_msgs)

instance : EventContent Encryption := .ofCodec Encryption.fromJson Encryption.toJson {}

theorem Encryption.fromJson_toJson (encryption : Encryption) :
    Encryption.fromJson encryption.toJson = .ok encryption := by
  simp [Encryption.fromJson, Encryption.toJson, Json.atKey_eq, Json.optional, Json.getUInt64]

/-- Whether guests can join. -/
inductive AccessState where
  | canJoin | forbidden
  deriving DecidableEq

/-- `accessStateToString`. -/
def accessStateToString : AccessState → Str
  | .canJoin => "can_join"
  | .forbidden => "forbidden"

/-- `stringToAccessState`. -/
def stringToAccessState (state : Str) : AccessState :=
  if state = "can_join" then .canJoin else .forbidden

/-- Content of `m.room.guest_access`. -/
structure GuestAccess where
  guest_access : AccessState := .forbidden

/-- `from_json(GuestAccess)`. -/
def GuestAccess.fromJson (obj : Json) : Except Exn GuestAccess := do
  let guest_access ← obj.value "guest_access" Json.getString ""
  return { guest_access := stringToAccessState guest_access }

/-- `to_json(GuestAccess)`. -/
def GuestAccess.toJson (content : GuestAccess) : Json :=
  Json.ofMembers <| Json.noMembers
    |>.insert "guest_access" (.string (accessStateToString content.guest_access))

instance : EventContent GuestAccess := .ofCodec GuestAccess.fromJson GuestAccess.toJson {}

theorem GuestAccess.fromJson_toJson (content : GuestAccess) :
    GuestAccess.fromJson content.toJson = .ok content := by
  obtain ⟨guest_access⟩ := content
  cases guest_access <;>
    simp [GuestAccess.fromJson, GuestAccess.toJson, Json.value_eq, accessStateToString,
      stringToAccessState]

/-- Who can see the history of a room. -/
inductive Visibility where
  | worldReadable | shared | invited | joined
  deriving DecidableEq

/-- `visibilityToString`. -/
def visibilityToString : Visibility → Str
  | .worldReadable => "world_readable"
  | .invited => "invited"
  | .shared => "shared"
  | .joined => "joined"

/-- `stringToVisibility`. -/
def stringToVisibility (rule : Str) : Visibility :=
  if rule = "world_readable" then .worldReadable
  else if rule = "invited" then .invited
  else if rule = "shared" then .shared
  else .joined

/-- Content of `m.room.history_visibility`.  A default constructed one is the first of the
enumeration. -/
structure HistoryVisibility where
  history_visibility : Visibility := .worldReadable

/-- `from_json(HistoryVisibility)`. -/
def HistoryVisibility.fromJson (obj : Json) : Except Exn HistoryVisibility := do
  let history_visibility ← obj.value "history_visibility" Json.getString ""
  return { history_visibility := stringToVisibility history_visibility }

/-- `to_json(HistoryVisibility)`. -/
def HistoryVisibility.toJson (event : HistoryVisibility) : Json :=
  Json.ofMembers <| Json.noMembers
    |>.insert "history_visibility" (.string (visibilityToString event.history_visibility))

instance : EventContent HistoryVisibility :=
  .ofCodec HistoryVisibility.fromJson HistoryVisibility.toJson {}

theorem HistoryVisibility.fromJson_toJson (event : HistoryVisibility) :
    HistoryVisibility.fromJson event.toJson = .ok event := by
  obtain ⟨history_visibility⟩ := event
  cases history_visibility <;>
    simp [HistoryVisibility.fromJson, HistoryVisibility.toJson, Json.value_eq, visibilityToString,
      stringToVisibility]

/-! ## Name, topic, pinned events, access list and tombstone -/

/-- Content of `m.room.name`. -/
structure Name where
  name : Str := ""

/-- `from_json(Name)`. -/
def Name.fromJson (obj : Json) : Except Exn Name := do
  return { name := ← nullableString obj "name" }

/-- `to_json(Name)`. -/
def Name.toJson (event : Name) : Json :=
  Json.ofMembers (Json.noMembers.insert "name" (.string event.name))

instance : EventContent Name := .ofCodec Name.fromJson Name.toJson {}

theorem Name.fromJson_toJson (event : Name) : Name.fromJson event.toJson = .ok event := by
  simp [Name.fromJson, Name.toJson, nullableString]

/-- Content of `m.room.topic`. -/
structure Topic where
  topic : Str := ""

/-- `from_json(Topic)`. -/
def Topic.fromJson (obj : Json) : Except Exn Topic := do
  return { topic := ← nullableString obj "topic" }

/-- `to_json(Topic)`. -/
def Topic.toJson (event : Topic) : Json :=
  Json.ofMembers (Json.noMembers.insert "topic" (.string event.topic))

instance : EventContent Topic := .ofCodec Topic.fromJson Topic.toJson {}

theorem Topic.fromJson_toJson (event : Topic) : Topic.fromJson event.toJson = .ok event := by
  simp [Topic.fromJson, Topic.toJson, nullableString]

/-- Content of `m.room.pinned_events`. -/
structure PinnedEvents where
  pinned : List Str := []

/-- `from_json(PinnedEvents)`. -/
def PinnedEvents.fromJson (obj : Json) : Except Exn PinnedEvents := do
  let pinned ← obj.value "pinned" (Json.getArray Json.getString) []
  return { pinned }

/-- `to_json(PinnedEvents)`. -/
def PinnedEvents.toJson (event : PinnedEvents) : Json :=
  Json.ofMembers (Json.noMembers.insert "pinned" (Json.ofArray .string event.pinned))

instance : EventContent PinnedEvents := .ofCodec PinnedEvents.fromJson PinnedEvents.toJson {}

theorem PinnedEvents.fromJson_toJson (event : PinnedEvents) :
    PinnedEvents.fromJson event.toJson = .ok event := by
  simp [PinnedEvents.fromJson, PinnedEvents.toJson, Json.value_eq,
    Json.getArray_ofArray Json.getString_string]

/-- Content of `m.room.server_acl`. -/
structure ServerAcl where
  allow : List Str := []
  deny : List Str := []
  allow_ip_literals : Bool := true

/-- `from_json(ServerAcl)`. -/
def ServerAcl.fromJson (obj : Json) : Except Exn ServerAcl := do
  let allow ← obj.value "allow" (Json.getArray Json.getString) []
  let deny ← obj.value "deny" (Json.getArray Json.getString) []
  let allow_ip_literals ← obj.value "allow_ip_literals" Json.getBool true
  return { allow, deny, allow_ip_literals }

/-- `to_json(ServerAcl)`. -/
def ServerAcl.toJson (content : ServerAcl) : Json :=
  Json.ofMembers <| Json.noMembers
    |>.insert "allow" (Json.ofArray .string content.allow)
    |>.insert "deny" (Json.ofArray .string content.deny)
    |>.insert "allow_ip_literals" (.boolean content.allow_ip_literals)

instance : EventContent ServerAcl := .ofCodec ServerAcl.fromJson ServerAcl.toJson {}

theorem ServerAcl.fromJson_toJson (content : ServerAcl) :
    ServerAcl.fromJson content.toJson = .ok content := by
  simp [ServerAcl.fromJson, ServerAcl.toJson, Json.value_eq, Json.getBool,
    Json.getArray_ofArray Json.getString_string]

/-- Content of `m.room.tombstone`. -/
structure Tombstone where
  body : Str := ""
  replacement_room : Str := ""

/-- `from_json(Tombstone)`. -/
def Tombstone.fromJson (obj : Json) : Except Exn Tombstone := do
  let body ← obj.value "body" Json.getString ""
  let replacement_room ← obj.value "replacement_room" Json.getString ""
  return { body, replacement_room }

/-- `to_json(Tombstone)`. -/
def Tombstone.toJson (content : Tombstone) : Json :=
  Json.ofMembers <| Json.noMembers
    |>.insert "body" (.string content.body)
    |>.insert "replacement_room" (.string content.replacement_room)

instance : EventContent Tombstone := .ofCodec Tombstone.fromJson Tombstone.toJson {}

theorem Tombstone.fromJson_toJson (content : Tombstone) :
    Tombstone.fromJson content.toJson = .ok content := by
  simp [Tombstone.fromJson, Tombstone.toJson, Json.value_eq]

/-! ## Widgets -/

/-- Content of `m.widget` and `im.vector.modular.widgets`. -/
structure Widget where
  type : Str := ""
  url : Str := ""
  name : Str := ""
  id : Str := ""
  data : SortedMap Str Str := SortedMap.empty
  waitForIframeLoad : Bool := true
  creatorUserId : Str := ""

/-- `from_json(Widget)`. -/
def Widget.fromJson (obj : Json) : Except Exn Widget := do
  let waitForIframeLoad ← obj.value "waitForIframeLoad" Json.getBool true
  let type ← obj.value "type" Json.getString ""
  let url ← obj.value "url" Json.getString ""
  let name ← obj.value "name" Json.getString ""
  let id ← obj.value "id" Json.getString ""
  let creatorUserId ← obj.value "creatorUserId" Json.getString ""
  let data ← obj.value "data" (Json.getMap Json.getString) SortedMap.empty
  return { type, url, name, id, data, waitForIframeLoad, creatorUserId }

/-- `to_json(Widget)`. -/
def Widget.toJson (create : Widget) : Json :=
  Json.ofMembers <| Json.noMembers
    |>.insertIf (!create.name.isEmpty) "name" (.string create.name)
    |>.insertIf (!create.data.entries.isEmpty) "data" (Json.ofMap .string create.data)
    |>.insert "type" (.string create.type)
    |>.insert "url" (.string create.url)
    |>.insert "id" (.string create.id)
    |>.insert "creatorUserId" (.string create.creatorUserId)
    |>.insert "waitForIframeLoad" (.boolean create.waitForIframeLoad)

instance : EventContent Widget := .ofCodec Widget.fromJson Widget.toJson {}

theorem Widget.fromJson_toJson (create : Widget) :
    Widget.fromJson create.toJson = .ok create := by
  have hdata := Json.getMap_ofMap Json.getString_string create.data
  obtain ⟨type, url, name, id, data, waitForIframeLoad, creatorUserId⟩ := create
  have hempty : data.entries = [] → data = SortedMap.empty := fun h ↦ SortedMap.ext fun k ↦ by
    rw [SortedMap.find?, h]
    rfl
  by_cases hentries : data.entries = []
  · obtain rfl := hempty hentries
    cases name <;>
      simp [Widget.fromJson, Widget.toJson, Json.value_eq, Json.getBool, lit_empty] <;> rfl
  · cases name <;>
      simp [Widget.fromJson, Widget.toJson, Json.value_eq, Json.getBool, hentries, hdata, lit_empty]

/-! ## Policy rules -/

namespace PolicyRule

/-- A moderation policy rule, about users, rooms or servers. -/
structure Rule where
  entity : Str := ""
  reason : Str := ""
  recommendation : Str := ""

/-- `from_json(Rule)`. -/
def Rule.fromJson (obj : Json) : Except Exn Rule := do
  let entity ← obj.value "entity" Json.getString ""
  let recommendation ← obj.value "recommendation" Json.getString ""
  let reason ← obj.value "reason" Json.getString ""
  return { entity, reason, recommendation }

/-- `to_json(Rule)`. -/
def Rule.toJson (rule : Rule) : Json :=
  Json.ofMembers <| Json.noMembers
    |>.insert "entity" (.string rule.entity)
    |>.insert "recommendation" (.string rule.recommendation)
    |>.insert "reason" (.string rule.reason)

theorem Rule.fromJson_toJson (rule : Rule) : Rule.fromJson rule.toJson = .ok rule := by
  simp [Rule.fromJson, Rule.toJson, Json.value_eq]

/-- Content of `m.policy.rule.user`. -/
structure UserRule extends Rule

/-- Content of `m.policy.rule.room`. -/
structure RoomRule extends Rule

/-- Content of `m.policy.rule.server`. -/
structure ServerRule extends Rule

instance : EventContent UserRule :=
  .ofCodec (fun obj ↦ UserRule.mk <$> Rule.fromJson obj) (fun rule ↦ rule.toRule.toJson) {}

instance : EventContent RoomRule :=
  .ofCodec (fun obj ↦ RoomRule.mk <$> Rule.fromJson obj) (fun rule ↦ rule.toRule.toJson) {}

instance : EventContent ServerRule :=
  .ofCodec (fun obj ↦ ServerRule.mk <$> Rule.fromJson obj) (fun rule ↦ rule.toRule.toJson) {}

end PolicyRule

/-! ## Spaces -/

namespace Space

/-- `if (obj.contains("via") && obj.at("via").is_array() && !obj.at("via").empty())
field = obj.at("via")…`. -/
def readVia (obj : Json) : Except Exn (Option (List Str)) :=
  match obj.find? "via" with
  | some (.array (x :: xs)) => some <$> (Json.array (x :: xs)).getArray Json.getString
  | _ => .ok none

/-- Content of `m.space.parent`. -/
structure Parent where
  via : Option (List Str) := none
  canonical : Bool := false

/-- `from_json(Parent)`. -/
def Parent.fromJson (obj : Json) : Except Exn Parent := do
  let canonical := match obj.find? "canonical" with
    | some (.boolean b) => b
    | _ => false
  return { via := ← readVia obj, canonical }

/-- `to_json(Parent)`: without `via` the event is invalid and nothing is written. -/
def Parent.toJson (parent : Parent) : Json :=
  match parent.via with
  | none | some [] => .object []
  | some via =>
    .object <| (Json.noMembers
      |>.insert "via" (Json.ofArray .string via)
      |>.insertIf parent.canonical "canonical" (.boolean true)).entries

instance : EventContent Parent := .ofCodec Parent.fromJson Parent.toJson {}

theorem readVia_ofArray {j : Json} {x : Str} {l : List Str}
    (h : j.find? "via" = some (Json.ofArray .string (x :: l))) :
    readVia j = .ok (some (x :: l)) := by
  rw [readVia, h]
  show some <$> (Json.ofArray .string (x :: l)).getArray Json.getString = _
  rw [Json.getArray_ofArray Json.getString_string]
  rfl

/-- What is read back: without `via` nothing is. -/
def Parent.reread (p : Parent) : Parent :=
  match p.via with
  | none | some [] => {}
  | some _ => p

theorem Parent.fromJson_toJson (p : Parent) : Parent.fromJson p.toJson = .ok p.reread := by
  obtain ⟨via, canonical⟩ := p
  rcases via with - | - | ⟨x, xs⟩
  · rfl
  · rfl
  · have hvia := readVia_ofArray (j := (Parent.toJson ⟨some (x :: xs), canonical⟩)) (x := x)
      (l := xs) (by simp [Parent.toJson])
    rw [Parent.fromJson, hvia]
    cases canonical <;> simp [Parent.toJson, Parent.reread]

/-- `is_valid_order_str`. -/
def isValidOrderStr (order : Str) : Bool :=
  decide (order.length ≤ 50) && order.all fun c ↦ decide (0x20 ≤ c) && decide (c ≤ 0x7E)

/-- Content of `m.space.child`. -/
structure Child where
  via : Option (List Str) := none
  order : Option Str := none
  suggested : Bool := false

/-- `from_json(Child)`. -/
def Child.fromJson (obj : Json) : Except Exn Child := do
  let via ← readVia obj
  let order := match obj.find? "order" with
    | some (.string order) => if isValidOrderStr order then some order else none
    | _ => none
  let suggested ← obj.value "suggested" Json.getBool false
  return { via, order, suggested }

/-- `to_json(Child)`: without `via` the event is invalid and nothing is written. -/
def Child.toJson (child : Child) : Json :=
  match child.via with
  | none | some [] => .object []
  | some via =>
    .object <| (Json.noMembers
      |>.insert "via" (Json.ofArray .string via)
      |>.insertIf (child.order.any isValidOrderStr) "order" (.string (child.order.getD ""))
      |>.insertIf child.suggested "suggested" (.boolean true)).entries

instance : EventContent Child := .ofCodec Child.fromJson Child.toJson {}

/-- What is read back: without `via` nothing is, and an order only if it is a valid one. -/
def Child.reread (c : Child) : Child :=
  match c.via with
  | none | some [] => {}
  | some _ => { c with order := c.order.filter isValidOrderStr }

theorem Child.fromJson_toJson (c : Child) : Child.fromJson c.toJson = .ok c.reread := by
  obtain ⟨via, order, suggested⟩ := c
  rcases via with - | - | ⟨x, xs⟩
  · rfl
  · rfl
  · have hvia := readVia_ofArray (j := (Child.toJson ⟨some (x :: xs), order, suggested⟩))
      (x := x) (l := xs) (by simp [Child.toJson])
    rw [Child.fromJson, hvia]
    rcases order with - | order
    · cases suggested <;>
        simp [Child.toJson, Child.reread, Json.value_eq, Json.isObject, Json.getBool]
    · by_cases horder : isValidOrderStr order <;> cases suggested <;>
        simp [Child.toJson, Child.reread, Json.value_eq, Json.isObject, Json.getBool, horder,
          Option.filter]

end Space

end Mtx.Events
