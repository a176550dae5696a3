import MtxClient.Events.EventType

/-!
# Events

The event templates of `events_impl.hpp`: the envelope around a content (`Event`, `StrippedEvent`,
`RoomEvent`, `StateEvent`, `RedactionEvent`), how each is read from JSON and how it is written.

The templates are generic in the content type.  What they need of it is the class `EventContent`:
its own `from_json` and `to_json`, its default value, and the answers to the three compile-time
questions the templates ask or define (`can_edit`, `is_same_v<Content, msg::Encrypted>`,
`is_same_v<Unknown, Content>`).

`readContent` is the first half of `from_json(Event<Content>)`, where the content is read from
`content` or, when that object has a member `m.new_content`, from there.  `readEnvelope` is the
second half.
-/

set_option autoImplicit false

namespace Mtx.Events

open Str

/-- Only `msg::Encrypted` has to have relations. -/
theorem editable_of_encrypted {canEdit : Bool} (h : false = true) : canEdit = true := by cases h

/-- What the event templates need of a content type. -/
class EventContent (C : Type) where
  /-- `from_json(json, Content)`, on a default constructed content. -/
  fromJson : Json → Except Exn C
  /-- `to_json(json, Content)`, on a `null` value. -/
  toJson : C → Json
  /-- The content of `event.content = {}`. -/
  default : C
  /-- `detail::can_edit<Content>`: is there a member `relations` of type `Relations`? -/
  canEdit : Bool
  /-- `std::is_same_v<Content, msg::Encrypted>`. -/
  isEncrypted : Bool := false
  /-- `msg::Encrypted` has relations. -/
  canEdit_of_isEncrypted : isEncrypted = true → canEdit = true
  /-- `if constexpr (std::is_same_v<Unknown, Content>) content.type = type`. -/
  setType : Str → C → C := fun _ c ↦ c
  /-- The type string `Unknown` carries itself, which is written in place of the event's. -/
  ownType : C → Option Str := fun _ ↦ none

/-! ## Event -/

/-- `Event<Content>`. -/
structure Event (C : Type) where
  /-- The type of the event. -/
  type : EventType
  /-- Who sent it. -/
  sender : Str
  /-- Its content. -/
  content : C

/-- The object `from_json(Event<Content>)` reads an edited content from: `m.new_content`, with the
relations of the outer content copied into it. -/
def mergeNewContent (content : Json) : Except Exn Json := do
  let newContent ← content.atKey "m.new_content"
  let merged ← Json.copyMember content newContent "m.relates_to"
  let merged ← match newContent.find? "m.relates_to" with
    | some r => merged.setPath ["m.new_content", "m.relates_to"] r
    | none => pure merged
  Json.copyMember content merged "im.nheko.relations.v1.relations"

/-- The content part of `from_json(Event<Content>)`. -/
def readContent (C : Type) [EventContent C] (obj : Json) : Except Exn C := do
  let content ← obj.atKey "content"
  if !EventContent.isEncrypted C && content.contains "m.new_content" then
    EventContent.fromJson (← mergeNewContent content)
  else if content.isObject then
    EventContent.fromJson content
  else
    return EventContent.default

/-- The type and the sender of `from_json(Event<Content>)`. -/
def readEnvelope (obj : Json) : Except Exn (EventType × Str × Str) := do
  let type ← (← obj.atKey "type").getString
  throwIf (type.length > 255) (.outOfRange "Type exceeds 255 bytes")
  let eventType ← getEventType type
  let sender ← obj.value "sender" Json.getString ""
  throwIf (sender.length > 255) (.outOfRange "Sender exceeds 255 bytes")
  return (eventType, type, sender)

/-- `from_json(Event<Content>)`. -/
def Event.fromJson (C : Type) [EventContent C] (obj : Json) : Except Exn (Event C) := do
  let content ← readContent C obj
  let (type, typeName, sender) ← readEnvelope obj
  return { type, sender, content := EventContent.setType typeName content }

/-- The members `to_json(Event<Content>)` assigns. -/
def Event.members {C : Type} [EventContent C] (e : Event C) : SortedMap Str Json :=
  Json.noMembers
    |>.insert "content" (EventContent.toJson e.content)
    |>.insert "sender" (.string e.sender)
    |>.insert "type" (.string ((EventContent.ownType e.content).getD e.type.toStr))

/-- `to_json(Event<Content>)`. -/
def Event.toJson {C : Type} [EventContent C] (e : Event C) : Json := Json.ofMembers e.members

/-! ## Stripped events -/

/-- `StrippedEvent<Content>`. -/
structure StrippedEvent (C : Type) extends Event C where
  /-- The state key. -/
  state_key : Str

/-- The state key of `from_json(StrippedEvent<Content>)` and `from_json(StateEvent<Content>)`. -/
def readStateKey (obj : Json) : Except Exn Str := do
  let state_key ← (← obj.atKey "state_key").getString
  throwIf (state_key.length > 255) (.outOfRange "State key exceeds 255 bytes")
  return state_key

/-- `from_json(StrippedEvent<Content>)`. -/
def StrippedEvent.fromJson (C : Type) [EventContent C] (obj : Json) :
    Except Exn (StrippedEvent C) := do
  let base ← Event.fromJson C obj
  let state_key ← readStateKey obj
  return { base with state_key }

/-! ## Room events -/

/-- Content of `m.room.redaction`. -/
structure Redaction where
  /-- The reason for the redaction, if any. -/
  reason : Str := ""

/-- `from_json(Redaction)`. -/
def Redaction.fromJson (obj : Json) : Except Exn Redaction :=
  match obj.find? "reason" with
  | none | some .null => .ok {}
  | some r => do return { reason := ← r.getString }

/-- `to_json(Redaction)`. -/
def Redaction.toJson (r : Redaction) : Json :=
  Json.ofMembers (Json.noMembers.insert "reason" (.string r.reason))

instance : EventContent Redaction where
  fromJson := Redaction.fromJson
  toJson := Redaction.toJson
  default := {}
  canEdit := false
  canEdit_of_isEncrypted := editable_of_encrypted

/-- Additional server provided data for an event. -/
structure UnsignedData where
  age : UInt64 := 0
  transaction_id : Str := ""
  prev_sender : Str := ""
  replaces_state : Str := ""
  redacted_by : Str := ""
  redacted_because : Option (Event Redaction) := none

/-- `from_json(UnsignedData)`. -/
def UnsignedData.fromJson (obj : Json) : Except Exn UnsignedData := do
  let age ← obj.optional "age" Json.getUInt64 0
  let transaction_id ← obj.optional "transaction_id" Json.getString ""
  let prev_sender ← obj.optional "prev_sender" Json.getString ""
  let replaces_state ← obj.optional "replaces_state" Json.getString ""
  let redacted_by ← obj.optional "redacted_by" Json.getString ""
  let redacted_because ←
    obj.optional "redacted_because" (fun j ↦ some <$> Event.fromJson Redaction j) none
  return { age, transaction_id, prev_sender, replaces_state, redacted_by, redacted_because }

/-- `to_json(UnsignedData)`. -/
def UnsignedData.toJson (u : UnsignedData) : Json :=
  let m := Json.noMembers
    |>.insertIf (!u.prev_sender.isEmpty) "prev_sender" (.string u.prev_sender)
    |>.insertIf (!u.transaction_id.isEmpty) "transaction_id" (.string u.transaction_id)
    |>.insertIf (!u.replaces_state.isEmpty) "replaces_state" (.string u.replaces_state)
    |>.insertIf (u.age != 0) "age" (.numberUnsigned u.age)
    |>.insertIf (!u.redacted_by.isEmpty) "redacted_by" (.string u.redacted_by)
  Json.ofMembers <| match u.redacted_because with
    | some e => m.insert "redacted_because" e.toJson
    | none => m

/-- `RoomEvent<Content>`. -/
structure RoomEvent (C : Type) extends Event C where
  event_id : Str
  room_id : Str
  origin_server_ts : UInt64
  unsigned_data : UnsignedData

/-- `from_json(RoomEvent<Content>)`. -/
def RoomEvent.fromJson (C : Type) [EventContent C] (obj : Json) :
    Except Exn (RoomEvent C) := do
  let base ← Event.fromJson C obj
  let event_id ← (← obj.atKey "event_id").getString
  throwIf (event_id.length > 255) (.outOfRange "Event id exceeds 255 bytes")
  let origin_server_ts ← (← obj.atKey "origin_server_ts").getUInt64
  -- not present in the state array returned by /sync
  let room_id ← obj.optional "room_id" Json.getString ""
  throwIf (room_id.length > 255) (.outOfRange "Room id exceeds 255 bytes")
  let unsigned_data ← obj.optional "unsigned" UnsignedData.fromJson {}
  return { base with event_id, room_id, origin_server_ts, unsigned_data }

/-- The members `to_json(RoomEvent<Content>)` assigns. -/
def RoomEvent.members {C : Type} [EventContent C] (e : RoomEvent C) : SortedMap Str Json :=
  e.toEvent.members
    |>.insertIf (!e.room_id.isEmpty) "room_id" (.string e.room_id)
    |>.insert "event_id" (.string e.event_id)
    |>.insert "unsigned" e.unsigned_data.toJson
    |>.insert "origin_server_ts" (.numberUnsigned e.origin_server_ts)

/-- `to_json(RoomEvent<Content>)`, and of the wrappers that add nothing to it. -/
def RoomEvent.toJson {C : Type} [EventContent C] (e : RoomEvent C) : Json :=
  Json.ofMembers e.members

/-- `StateEvent<Content>`. -/
structure StateEvent (C : Type) extends RoomEvent C where
  state_key : Str

/-- `from_json(StateEvent<Content>)`. -/
def StateEvent.fromJson (C : Type) [EventContent C] (obj : Json) :
    Except Exn (StateEvent C) := do
  let base ← RoomEvent.fromJson C obj
  let state_key ← readStateKey obj
  return { base with state_key }

/-- `to_json(StateEvent<Content>)`. -/
def StateEvent.toJson {C : Type} [EventContent C] (e : StateEvent C) : Json :=
  Json.ofMembers (e.toRoomEvent.members.insert "state_key" (.string e.state_key))

/-- `RedactionEvent<Content>`. -/
structure RedactionEvent (C : Type) extends RoomEvent C where
  redacts : Str

/-- `from_json(RedactionEvent<Content>)`. -/
def RedactionEvent.fromJson (C : Type) [EventContent C] (obj : Json) :
    Except Exn (RedactionEvent C) := do
  let base ← RoomEvent.fromJson C obj
  let redacts ← (← obj.atKey "redacts").getString
  return { base with redacts }

/-- `to_json(RedactionEvent<Content>)`. -/
def RedactionEvent.toJson {C : Type} [EventContent C] (e : RedactionEvent C) : Json :=
  Json.ofMembers (e.toRoomEvent.members.insert "redacts" (.string e.redacts))

/-! ## Events outside of a room's timeline -/

/-- `DeviceEvent<Content>`. -/
structure DeviceEvent (C : Type) extends Event C

/-- `from_json(DeviceEvent<Content>)`. -/
def DeviceEvent.fromJson (C : Type) [EventContent C] (obj : Json) :
    Except Exn (DeviceEvent C) := do
  let base ← Event.fromJson C obj
  throwIf base.sender.isEmpty (.outOfRange "Empty sender in to_device event.")
  return { base with }

/-- `to_json(DeviceEvent<Content>)`. -/
def DeviceEvent.toJson {C : Type} [EventContent C] (e : DeviceEvent C) : Json := e.toEvent.toJson

/-- `EphemeralEvent<Content>`, which is also `AccountDataEvent<Content>`. -/
structure EphemeralEvent (C : Type) where
  /-- Its content. -/
  content : C
  /-- The type of the event. -/
  type : EventType
  /-- The room the event was sent in. -/
  room_id : Str := ""

/-- `from_json(EphemeralEvent<Content>)`, which never reads an edited content. -/
def EphemeralEvent.fromJson (C : Type) [EventContent C] (obj : Json) :
    Except Exn (EphemeralEvent C) := do
  let content ← EventContent.fromJson (← obj.atKey "content")
  let typeName ← (← obj.atKey "type").getString
  let type ← getEventType typeName
  let room_id ← obj.optional "room_id" Json.getString ""
  throwIf (room_id.length > 255) (.outOfRange "Room id exceeds 255 bytes")
  return { content := EventContent.setType typeName content, type, room_id }

/-! ## What stands in a serialised event -/

theorem RoomEvent.find?_members {C : Type} [EventContent C] (e : RoomEvent C) :
    e.members.find? "" = none ∧ e.members.find? "sender" = some (.string e.sender) ∧
      e.members.find? "room_id" = if e.room_id.isEmpty then none else some (.string e.room_id) := by
  refine ⟨?_, ?_, ?_⟩
  · simp [RoomEvent.members, Event.members]
  · simp [RoomEvent.members, Event.members]
  · cases h : e.room_id.isEmpty <;> simp [RoomEvent.members, Event.members, h]

end Mtx.Events
