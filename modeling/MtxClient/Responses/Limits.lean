import MtxClient.Responses.Sync

/-!
# The limits of a sync response

The length of identifiers is limited in many places: the names of rooms and users are filtered by
the response, the other strings by the event templates, which throw.  `Sync.fits_of_accepted`
collects what this comes to.  In every response that is accepted no identifier is longer than 255
bytes, and each event was read from an element of the list it belongs to, with a type string of at
most 255 bytes.
-/

set_option autoImplicit false

namespace Mtx.Events

open Str

/-! ## Identifiers -/

/-- No identifier of the envelope exceeds 255 bytes. -/
structure Envelope.Short (env : Envelope) : Prop where
  sender : env.sender.length ≤ 255
  event_id : env.event_id.length ≤ 255
  room_id : env.room_id.length ≤ 255
  state_key : ∀ key, env.state_key = some key → key.length ≤ 255

/-- Who sent the event that is held. -/
def StrippedEvents.sender {json : JsonText} : StrippedEvents json → Str
  | .known _ e _ => e.sender
  | .unknown e => e.sender

/-- The state key of the event that is held. -/
def StrippedEvents.stateKey {json : JsonText} : StrippedEvents json → Str
  | .known _ e _ => e.state_key
  | .unknown e => e.state_key

end Mtx.Events

namespace Mtx.Responses

open Str Events

/-! ## Where the events come from -/

/-- The value at the end of a path of keys. -/
def follow (obj : Json) : List Str → Option Json
  | [] => some obj
  | key :: path => (obj.find? key).bind fun v ↦ follow v path

/-- The elements of the list at the end of a path. -/
def elementsAt (obj : Json) (path : List Str) : List Json :=
  ((follow obj path).map Json.elements).getD []

/-- The members of the object at the end of a path. -/
def itemsAt (obj : Json) (path : List Str) : List (Str × Json) :=
  ((follow obj path).map Json.items).getD []

/-- The type string of an event has at most 255 bytes. -/
def ShortType (e : Json) : Prop :=
  ∃ type : Str, e.find? "type" = some (.string type) ∧ type.length ≤ 255

/-- All events are read from elements with a short type string, and have a property. -/
def AllRead {α : Type} (body : Json → Except Exn (Option α)) (Good : α → Prop) (es : List Json)
    (xs : List α) : Prop :=
  ∀ x ∈ xs, (∃ e ∈ es, body e = .ok (some x) ∧ ShortType e) ∧ Good x

/-! ## The limits -/

variable {json : JsonText}

/-- The sender and the state key of a stripped event. -/
def FitsStripped (x : StrippedEvents json) : Prop :=
  x.sender.length ≤ 255 ∧ x.stateKey.length ≤ 255

/-- The events of a joined room. -/
structure JoinedRoom.Fits (obj : Json) (room : JoinedRoom json) : Prop where
  state : AllRead (parseStateEvent json) (fun x ↦ x.envelope.Short)
    (elementsAt obj ["state", "events"]) room.state.events
  timeline : AllRead (parseTimelineEvent json) (fun x ↦ x.envelope.Short)
    (elementsAt obj ["timeline", "events"]) room.timeline.events

/-- The events of a room that was left. -/
structure LeftRoom.Fits (obj : Json) (room : LeftRoom json) : Prop where
  state : AllRead (parseStateEvent json) (fun x ↦ x.envelope.Short)
    (elementsAt obj ["state", "events"]) room.state.events
  timeline : AllRead (parseTimelineEvent json) (fun x ↦ x.envelope.Short)
    (elementsAt obj ["timeline", "events"]) room.timeline.events

/-- The events of an invitation. -/
def InvitedRoom.Fits (obj : Json) (room : InvitedRoom json) : Prop :=
  AllRead (parseStrippedEvent json) FitsStripped (elementsAt obj ["invite_state", "events"])
    room.invite_state

/-- The events of a room that was knocked on. -/
def KnockedRoom.Fits (obj : Json) (room : KnockedRoom json) : Prop :=
  AllRead (parseStrippedEvent json) FitsStripped (elementsAt obj ["knock_state", "events"])
    room.knock_state

/-- The rooms have short ids, and each fits what it is read from. -/
def RoomsFit {α : Type} (Fits : Json → α → Prop) (entries : List (Str × Json))
    (rooms : SortedMap Str α) : Prop :=
  rooms.All fun id room ↦ id.length ≤ 255 ∧ ∃ r, (id, r) ∈ entries ∧ Fits r room

/-- **No identifier of a response exceeds 255 bytes**, and no type string that an event was read
from. -/
structure Sync.Fits (obj : Json) (response : Sync json) : Prop where
  join : RoomsFit JoinedRoom.Fits (itemsAt obj ["rooms", "join"]) response.rooms.join
  leave : RoomsFit LeftRoom.Fits (itemsAt obj ["rooms", "leave"]) response.rooms.leave
  invite : RoomsFit InvitedRoom.Fits (itemsAt obj ["rooms", "invite"]) response.rooms.invite
  knock : RoomsFit KnockedRoom.Fits (itemsAt obj ["rooms", "knock"]) response.rooms.knock
  changed : ∀ user ∈ response.device_lists.changed, user.length ≤ 255
  left : ∀ user ∈ response.device_lists.left, user.length ≤ 255
  to_device : AllRead (parseDeviceEvent json)
    (fun x ↦ x.event.sender ≠ [] ∧ x.event.sender.length ≤ 255)
    (elementsAt obj ["to_device", "events"]) response.to_device.events
  presence : AllRead parsePresenceEvent (fun x ↦ x.sender.length ≤ 255)
    (elementsAt obj ["presence", "events"]) response.presence

/-! ## Single events -/

section

variable {C : Type} [EventContent C] {e : Json}

theorem shortType_of_readEnvelope {type : EventType} {typeName sender : Str}
    (h : readEnvelope e = .ok (type, typeName, sender)) : ShortType e := by
  obtain ⟨ht, hlen, -⟩ := readEnvelope_iff.mp h
  exact ⟨typeName, ht, hlen⟩

theorem shortType_of_event {ev : Event C} (h : Event.fromJson C e = .ok ev) : ShortType e := by
  obtain ⟨content, -, h⟩ := bind_eq_ok_iff.mp h
  obtain ⟨⟨type, typeName, sender⟩, henv, -⟩ := bind_eq_ok_iff.mp h
  exact shortType_of_readEnvelope henv

theorem short_of_roomEvent {ev : RoomEvent C} (h : RoomEvent.fromJson C e = .ok ev) :
    ShortType e ∧ ev.envelope.Short := by
  obtain ⟨content, typeName, env, -, henv, rfl⟩ := RoomEvent.fromJson_eq_ok_iff.mp h
  have hfits := Envelope.fits_of_read henv
  refine ⟨shortType_of_readEnvelope (readRoomEnvelope_iff.mp henv).1, hfits.sender, hfits.event_id,
    hfits.room_id, fun key hkey ↦ ?_⟩
  cases hkey

theorem length_of_readStateKey {state_key : Str} (h : readStateKey e = .ok state_key) :
    state_key.length ≤ 255 := by
  obtain ⟨v, -, h⟩ := bind_eq_ok_iff.mp h
  obtain ⟨s, -, h⟩ := bind_eq_ok_iff.mp h
  obtain ⟨_, hlen, h⟩ := bind_eq_ok_iff.mp h
  cases Except.ok.inj h
  exact Nat.le_of_not_lt (throwIf_eq_ok_iff.mp hlen)

theorem short_of_stateEvent {ev : StateEvent C} (h : StateEvent.fromJson C e = .ok ev) :
    ShortType e ∧ ev.envelope.Short := by
  obtain ⟨hroom, hkey⟩ := StateEvent.fromJson_eq_ok_iff.mp h
  obtain ⟨htype, hshort⟩ := short_of_roomEvent hroom
  refine ⟨htype, hshort.sender, hshort.event_id, hshort.room_id, fun key hkey' ↦ ?_⟩
  cases hkey'
  exact length_of_readStateKey hkey

theorem short_of_strippedEvent {ev : StrippedEvent C} (h : StrippedEvent.fromJson C e = .ok ev) :
    ShortType e ∧ ev.sender.length ≤ 255 ∧ ev.state_key.length ≤ 255 := by
  obtain ⟨base, hbase, h⟩ := bind_eq_ok_iff.mp h
  obtain ⟨state_key, hkey, h⟩ := bind_eq_ok_iff.mp h
  cases Except.ok.inj h
  exact ⟨shortType_of_event hbase, Event.sender_length hbase, length_of_readStateKey hkey⟩

theorem short_of_deviceEvent {ev : DeviceEvent C} (h : DeviceEvent.fromJson C e = .ok ev) :
    ShortType e ∧ ev.sender ≠ [] ∧ ev.sender.length ≤ 255 := by
  obtain ⟨base, hbase, h⟩ := bind_eq_ok_iff.mp h
  obtain ⟨_, hsender, h⟩ := bind_eq_ok_iff.mp h
  cases Except.ok.inj h
  refine ⟨shortType_of_event hbase, fun hnil ↦ ?_, Event.sender_length hbase⟩
  exact throwIf_eq_ok_iff.mp hsender (List.isEmpty_iff.mpr hnil)

end

/-! ## Lists of events -/

section

variable {e : Json}

theorem short_of_parseTimelineEvent {x : TimelineEvents json}
    (h : parseTimelineEvent json e = .ok (some x)) : ShortType e ∧ x.envelope.Short := by
  obtain ⟨a, -, hread⟩ := (parseTimelineEvent_eq_some_iff json).mp h
  rcases a with k | k | -
  · obtain ⟨ev, hev, rfl⟩ := map_eq_ok_iff.mp hread
    exact short_of_stateEvent hev
  · obtain ⟨ev, hev, rfl⟩ := map_eq_ok_iff.mp hread
    exact short_of_roomEvent hev
  · obtain ⟨ev, hev, rfl⟩ := map_eq_ok_iff.mp hread
    obtain ⟨htype, hshort⟩ := short_of_roomEvent (RedactionEvent.fromJson_eq_ok_iff.mp hev).1
    exact ⟨htype, hshort.sender, hshort.event_id, hshort.room_id, hshort.state_key⟩

theorem short_of_parseStateEvent {x : StateEvents json}
    (h : parseStateEvent json e = .ok (some x)) : ShortType e ∧ x.envelope.Short := by
  have hknown : ∀ k, some <$> readKnownState json k e = .ok (some x) →
      ShortType e ∧ x.envelope.Short := fun k hk ↦ by
    obtain ⟨s, hs, heq⟩ := map_eq_ok_iff.mp hk
    obtain ⟨ev, hev, rfl⟩ := map_eq_ok_iff.mp hs
    cases heq
    exact short_of_stateEvent hev
  obtain ⟨type, -, h⟩ := bind_eq_ok_iff.mp h
  split_ifs at h with hredacted
  · exact hknown _ h
  · cases type
    case unsupported =>
      obtain ⟨ev, hev, heq⟩ := bind_eq_ok_iff.mp h
      cases Except.ok.inj heq
      exact short_of_stateEvent hev
    all_goals first | exact hknown _ h | cases h

theorem short_of_parseStrippedEvent {x : StrippedEvents json}
    (h : parseStrippedEvent json e = .ok (some x)) : ShortType e ∧ FitsStripped x := by
  have hknown : ∀ k hk, some <$> readStripped json k hk e = .ok (some x) →
      ShortType e ∧ FitsStripped x := fun k hk hread ↦ by
    obtain ⟨s, hs, heq⟩ := map_eq_ok_iff.mp hread
    obtain ⟨ev, hev, rfl⟩ := map_eq_ok_iff.mp hs
    cases heq
    exact short_of_strippedEvent hev
  obtain ⟨type, -, h⟩ := bind_eq_ok_iff.mp h
  cases type
  case unsupported =>
    obtain ⟨ev, hev, heq⟩ := bind_eq_ok_iff.mp h
    cases Except.ok.inj heq
    exact short_of_strippedEvent hev
  all_goals first | exact hknown _ _ h | cases h

theorem short_of_parseDeviceEvent {x : DeviceEvents json}
    (h : parseDeviceEvent json e = .ok (some x)) :
    ShortType e ∧ x.event.sender ≠ [] ∧ x.event.sender.length ≤ 255 := by
  have hread : ∀ k, some <$> readDevice json k e = .ok (some x) →
      ShortType e ∧ x.event.sender ≠ [] ∧ x.event.sender.length ≤ 255 := fun k hk ↦ by
    obtain ⟨s, hs, heq⟩ := map_eq_ok_iff.mp hk
    obtain ⟨ev, hev, rfl⟩ := map_eq_ok_iff.mp hs
    cases heq
    exact short_of_deviceEvent hev
  obtain ⟨type, -, h⟩ := bind_eq_ok_iff.mp h
  cases type
  case roomEncrypted =>
    obtain ⟨content, -, h⟩ := bind_eq_ok_iff.mp h
    obtain ⟨v, -, h⟩ := bind_eq_ok_iff.mp h
    obtain ⟨algo, -, h⟩ := bind_eq_ok_iff.mp h
    split_ifs at h
    · exact hread _ h
    · exact hread _ h
    · obtain ⟨-, -, h⟩ := bind_eq_ok_iff.mp h
      cases h
  all_goals first | exact hread _ h | cases h

theorem short_of_parsePresenceEvent {x : Event Presence}
    (h : parsePresenceEvent e = .ok (some x)) : ShortType e ∧ x.sender.length ≤ 255 := by
  obtain ⟨ev, hev, heq⟩ := map_eq_ok_iff.mp h
  cases heq
  exact ⟨shortType_of_event hev, Event.sender_length hev⟩

end

/-! ## Lists -/

section

variable {α : Type} {body : Json → Except Exn (Option α)} {Good : α → Prop} {xs : List α}

theorem allRead_nil {es : List Json} : AllRead body Good es [] :=
  fun _ hx ↦ absurd hx List.not_mem_nil

/-- One round of a loop adds only what it reads. -/
theorem mem_appendEvent {container : List α} {e : Json}
    (h : appendEvent json body container e = .ok xs) {x : α} (hx : x ∈ xs) :
    x ∈ container ∨ body e = .ok (some x) := by
  rw [appendEvent] at h
  rcases hbody : body e with err | event
  · rw [hbody] at h
    obtain ⟨_, -, h⟩ := bind_eq_ok_iff.mp h
    cases Except.ok.inj h
    exact Or.inl hx
  · rw [hbody] at h
    cases Except.ok.inj h
    rcases List.mem_append.mp hx with hx | hx
    · exact Or.inl hx
    · rw [Option.mem_toList] at hx
      exact Or.inr (congrArg _ hx)

theorem mem_foldlM_appendEvent {es : List Json} {container : List α}
    (h : es.foldlM (appendEvent json body) container = .ok xs) {x : α} (hx : x ∈ xs) :
    x ∈ container ∨ ∃ e ∈ es, body e = .ok (some x) := by
  induction es generalizing container with
  | nil =>
    cases Except.ok.inj h
    exact Or.inl hx
  | cons e es ih =>
    obtain ⟨container', hstep, h⟩ := bind_eq_ok_iff.mp h
    rcases ih h with hmem | ⟨e', he', hread⟩
    · rcases mem_appendEvent hstep hmem with hmem | hread
      · exact Or.inl hmem
      · exact Or.inr ⟨e, List.mem_cons_self, hread⟩
    · exact Or.inr ⟨e', List.mem_cons_of_mem e he', hread⟩

variable (hbody : ∀ e x, body e = .ok (some x) → ShortType e ∧ Good x)

include hbody

/-- What the body of a loop reads, the loop reads. -/
theorem allRead_parseEvents {events : Json} {container : List α}
    (h : parseEvents json body events container = .ok xs) :
    AllRead body Good events.elements xs := fun x hx ↦ by
  rcases mem_foldlM_appendEvent h hx with hnil | ⟨e, he, hread⟩
  · exact absurd hnil List.not_mem_nil
  · obtain ⟨htype, hgood⟩ := hbody e x hread
    exact ⟨⟨e, he, hread, htype⟩, hgood⟩

theorem allRead_eventList {obj : Json}
    (h : eventList (parseEvents json body) obj = .ok xs) :
    AllRead body Good (elementsAt obj ["events"]) xs := by
  rw [eventList] at h
  obtain hv | ⟨v, hv⟩ := Option.eq_none_or_eq_some (obj.find? "events")
  · rw [hv] at h
    cases Except.ok.inj h
    exact allRead_nil
  · rw [hv] at h
    dsimp only at h
    split_ifs at h
    · have hat : elementsAt obj ["events"] = v.elements := by simp [elementsAt, follow, hv]
      rw [hat]
      exact allRead_parseEvents hbody h
    · cases Except.ok.inj h
      exact allRead_nil

end

/-! ## Blocks -/

theorem optional_eq_ok {α : Type} {obj : Json} {key : Str} {read : Json → Except Exn α} {d a : α}
    (h : obj.optional key read d = .ok a) :
    (obj.find? key = none ∧ a = d) ∨ ∃ v, obj.find? key = some v ∧ read v = .ok a := by
  rw [Json.optional] at h
  obtain hv | ⟨v, hv⟩ := Option.eq_none_or_eq_some (obj.find? key)
  · rw [hv] at h
    exact Or.inl ⟨hv, (Except.ok.inj h).symm⟩
  · rw [hv] at h
    exact Or.inr ⟨v, hv, h⟩

theorem elementsAt_cons {obj v : Json} {key : Str} (h : obj.find? key = some v)
    (path : List Str) : elementsAt obj (key :: path) = elementsAt v path := by
  simp [elementsAt, follow, h]

theorem itemsAt_cons {obj v : Json} {key : Str} (h : obj.find? key = some v) (path : List Str) :
    itemsAt obj (key :: path) = itemsAt v path := by
  simp [itemsAt, follow, h]

section

variable {obj : Json}

theorem State.allRead {state : State json}
    (h : obj.optional "state" (State.fromJson json) {} = .ok state) :
    AllRead (parseStateEvent json) (fun x ↦ x.envelope.Short) (elementsAt obj ["state", "events"])
      state.events := by
  rcases optional_eq_ok h with ⟨-, rfl⟩ | ⟨v, hv, h⟩
  · exact allRead_nil
  · obtain ⟨events, hevents, h⟩ := bind_eq_ok_iff.mp h
    cases Except.ok.inj h
    rw [elementsAt_cons hv]
    exact allRead_eventList (fun e x ↦ short_of_parseStateEvent) hevents

theorem Timeline.allRead {timeline : Timeline json}
    (h : obj.optional "timeline" (Timeline.fromJson json) {} = .ok timeline) :
    AllRead (parseTimelineEvent json) (fun x ↦ x.envelope.Short)
      (elementsAt obj ["timeline", "events"]) timeline.events := by
  rcases optional_eq_ok h with ⟨-, rfl⟩ | ⟨v, hv, h⟩
  · exact allRead_nil
  · obtain ⟨prev_batch, -, h⟩ := bind_eq_ok_iff.mp h
    obtain ⟨limited, -, h⟩ := bind_eq_ok_iff.mp h
    obtain ⟨list, hlist, h⟩ := bind_eq_ok_iff.mp h
    obtain ⟨events, hevents, h⟩ := bind_eq_ok_iff.mp h
    cases Except.ok.inj h
    rw [elementsAt_cons hv, elementsAt_cons (Json.atKey_eq_ok_iff.mp hlist)]
    exact allRead_parseEvents (fun e x ↦ short_of_parseTimelineEvent) hevents

theorem allRead_strippedList {key : Str} {events : List (StrippedEvents json)}
    (h : strippedList json key obj = .ok events) :
    AllRead (parseStrippedEvent json) FitsStripped (elementsAt obj [key, "events"]) events := by
  rw [strippedList] at h
  obtain hv | ⟨v, hv⟩ := Option.eq_none_or_eq_some (obj.find? key)
  · rw [hv] at h
    cases Except.ok.inj h
    exact allRead_nil
  · rw [hv] at h
    dsimp only at h
    rw [elementsAt_cons hv]
    obtain hlist | ⟨list, hlist⟩ := Option.eq_none_or_eq_some (v.find? "events")
    · rw [hlist] at h
      cases Except.ok.inj h
      exact allRead_nil
    · rw [hlist] at h
      rw [elementsAt_cons hlist]
      exact allRead_parseEvents (fun e x ↦ short_of_parseStrippedEvent) h

theorem JoinedRoom.fits_of_read {room : JoinedRoom json}
    (h : JoinedRoom.fromJson json obj = .ok room) : room.Fits obj := by
  obtain ⟨state, hstate, h⟩ := bind_eq_ok_iff.mp h
  obtain ⟨timeline, htimeline, h⟩ := bind_eq_ok_iff.mp h
  obtain ⟨unread, -, h⟩ := bind_eq_ok_iff.mp h
  obtain ⟨ephemeral, -, h⟩ := bind_eq_ok_iff.mp h
  obtain ⟨account_data, -, h⟩ := bind_eq_ok_iff.mp h
  cases Except.ok.inj h
  exact ⟨State.allRead hstate, Timeline.allRead htimeline⟩

theorem LeftRoom.fits_of_read {room : LeftRoom json} (h : LeftRoom.fromJson json obj = .ok room) :
    room.Fits obj := by
  obtain ⟨state, hstate, h⟩ := bind_eq_ok_iff.mp h
  obtain ⟨timeline, htimeline, h⟩ := bind_eq_ok_iff.mp h
  cases Except.ok.inj h
  exact ⟨State.allRead hstate, Timeline.allRead htimeline⟩

theorem InvitedRoom.fits_of_read {room : InvitedRoom json}
    (h : InvitedRoom.fromJson json obj = .ok room) : room.Fits obj := by
  obtain ⟨events, hevents, h⟩ := bind_eq_ok_iff.mp h
  cases Except.ok.inj h
  exact allRead_strippedList hevents

theorem KnockedRoom.fits_of_read {room : KnockedRoom json}
    (h : KnockedRoom.fromJson json obj = .ok room) : room.Fits obj := by
  obtain ⟨events, hevents, h⟩ := bind_eq_ok_iff.mp h
  cases Except.ok.inj h
  exact allRead_strippedList hevents

end

/-! ## The whole response -/

section

variable {α : Type} {read : Json → Except Exn α}

/-- What holds of every room that is read holds of every room that is added. -/
theorem all_foldlM_addRoom {P : Str → α → Prop} {entries : List (Str × Json)}
    {rooms rooms' : SortedMap Str α} (h : entries.foldlM (addRoom read) rooms = .ok rooms')
    (hread : ∀ r ∈ entries, r.1.length < 256 → ∀ room, read r.2 = .ok room → P r.1 room)
    (hrooms : rooms.All P) : rooms'.All P := by
  induction entries generalizing rooms with
  | nil =>
    cases Except.ok.inj h
    exact hrooms
  | cons r entries ih =>
    obtain ⟨next, hnext, h⟩ := bind_eq_ok_iff.mp h
    refine ih h (fun r' hr' ↦ hread r' (List.mem_cons_of_mem r hr')) ?_
    rw [addRoom] at hnext
    split_ifs at hnext with hlen
    · obtain ⟨room, hroom, hnext⟩ := bind_eq_ok_iff.mp hnext
      rw [← Except.ok.inj hnext, emplace]
      split_ifs
      · exact hrooms
      · exact hrooms.insert (hread r List.mem_cons_self hlen room hroom)
    · rw [← Except.ok.inj hnext]
      exact hrooms

theorem roomsFit_of_read {Fits : Json → α → Prop} {obj : Json} {key : Str}
    {rooms : SortedMap Str α} (hfits : ∀ r room, read r = .ok room → Fits r room)
    (h : obj.optional key (readRooms read) SortedMap.empty = .ok rooms) :
    RoomsFit Fits (itemsAt obj [key]) rooms := by
  rcases optional_eq_ok h with ⟨-, rfl⟩ | ⟨v, hv, h⟩
  · exact SortedMap.All.empty
  · rw [itemsAt_cons hv]
    exact all_foldlM_addRoom h (fun r hr hlen room hroom ↦
      ⟨Nat.le_of_lt_succ hlen, r.2, hr, hfits r.2 room hroom⟩) SortedMap.All.empty

end

section

variable {obj : Json}

theorem length_of_readUsers {key : Str} {users : List Str}
    (h : obj.optional key readUsers [] = .ok users) : ∀ user ∈ users, user.length ≤ 255 := by
  rcases optional_eq_ok h with ⟨-, rfl⟩ | ⟨v, -, h⟩
  · exact fun user hmem ↦ absurd hmem List.not_mem_nil
  · obtain ⟨all, -, h⟩ := bind_eq_ok_iff.mp h
    cases Except.ok.inj h
    intro user hmem
    simpa using (List.mem_filter.mp hmem).2

theorem DeviceLists.length_of_read {lists : DeviceLists}
    (h : obj.optional "device_lists" DeviceLists.fromJson {} = .ok lists) :
    (∀ user ∈ lists.changed, user.length ≤ 255) ∧ ∀ user ∈ lists.left, user.length ≤ 255 := by
  rcases optional_eq_ok h with ⟨-, rfl⟩ | ⟨v, -, h⟩
  · exact ⟨fun user hmem ↦ absurd hmem List.not_mem_nil,
      fun user hmem ↦ absurd hmem List.not_mem_nil⟩
  · obtain ⟨changed, hchanged, h⟩ := bind_eq_ok_iff.mp h
    obtain ⟨left, hleft, h⟩ := bind_eq_ok_iff.mp h
    cases Except.ok.inj h
    exact ⟨length_of_readUsers hchanged, length_of_readUsers hleft⟩

theorem Rooms.fits_of_read {rooms : Rooms json}
    (h : obj.optional "rooms" (Rooms.fromJson json) {} = .ok rooms) :
    RoomsFit JoinedRoom.Fits (itemsAt obj ["rooms", "join"]) rooms.join ∧
      RoomsFit LeftRoom.Fits (itemsAt obj ["rooms", "leave"]) rooms.leave ∧
      RoomsFit InvitedRoom.Fits (itemsAt obj ["rooms", "invite"]) rooms.invite ∧
      RoomsFit KnockedRoom.Fits (itemsAt obj ["rooms", "knock"]) rooms.knock := by
  rcases optional_eq_ok h with ⟨-, rfl⟩ | ⟨v, hv, h⟩
  · exact ⟨SortedMap.All.empty, SortedMap.All.empty, SortedMap.All.empty, SortedMap.All.empty⟩
  · obtain ⟨join, hjoin, h⟩ := bind_eq_ok_iff.mp h
    obtain ⟨leave, hleave, h⟩ := bind_eq_ok_iff.mp h
    obtain ⟨invite, hinvite, h⟩ := bind_eq_ok_iff.mp h
    obtain ⟨knock, hknock, h⟩ := bind_eq_ok_iff.mp h
    cases Except.ok.inj h
    simp only [itemsAt_cons hv]
    exact ⟨roomsFit_of_read (fun r room ↦ JoinedRoom.fits_of_read) hjoin,
      roomsFit_of_read (fun r room ↦ LeftRoom.fits_of_read) hleave,
      roomsFit_of_read (fun r room ↦ InvitedRoom.fits_of_read) hinvite,
      roomsFit_of_read (fun r room ↦ KnockedRoom.fits_of_read) hknock⟩

theorem ToDevice.allRead {to_device : ToDevice json}
    (h : obj.optional "to_device" (ToDevice.fromJson json) {} = .ok to_device) :
    AllRead (parseDeviceEvent json) (fun x ↦ x.event.sender ≠ [] ∧ x.event.sender.length ≤ 255)
      (elementsAt obj ["to_device", "events"]) to_device.events := by
  rcases optional_eq_ok h with ⟨-, rfl⟩ | ⟨v, hv, h⟩
  · exact allRead_nil
  · obtain ⟨events, hevents, h⟩ := bind_eq_ok_iff.mp h
    cases Except.ok.inj h
    rw [elementsAt_cons hv]
    rcases optional_eq_ok hevents with ⟨-, rfl⟩ | ⟨list, hlist, hevents⟩
    · exact allRead_nil
    · rw [elementsAt_cons hlist]
      exact allRead_parseEvents (fun e x ↦ short_of_parseDeviceEvent) hevents

theorem allRead_presence {events : List (Event Presence)}
    (h : obj.optional "presence" (fun presence ↦ presence.optional "events"
      (fun list ↦ parseEvents json parsePresenceEvent list []) []) [] = .ok events) :
    AllRead parsePresenceEvent (fun x ↦ x.sender.length ≤ 255)
      (elementsAt obj ["presence", "events"]) events := by
  rcases optional_eq_ok h with ⟨-, rfl⟩ | ⟨v, hv, h⟩
  · exact allRead_nil
  · rw [elementsAt_cons hv]
    rcases optional_eq_ok h with ⟨-, rfl⟩ | ⟨list, hlist, h⟩
    · exact allRead_nil
    · rw [elementsAt_cons hlist]
      exact allRead_parseEvents (fun e x ↦ short_of_parsePresenceEvent) h

/-- **Every response that is accepted keeps to the limits.** -/
theorem Sync.fits_of_accepted {response : Sync json}
    (h : Sync.fromJson json obj = .ok response) : response.Fits obj := by
  obtain ⟨rooms, hrooms, h⟩ := bind_eq_ok_iff.mp h
  obtain ⟨device_lists, hlists, h⟩ := bind_eq_ok_iff.mp h
  obtain ⟨to_device, hdevice, h⟩ := bind_eq_ok_iff.mp h
  obtain ⟨counts, -, h⟩ := bind_eq_ok_iff.mp h
  obtain ⟨types, -, h⟩ := bind_eq_ok_iff.mp h
  obtain ⟨presence, hpresence, h⟩ := bind_eq_ok_iff.mp h
  obtain ⟨account_data, -, h⟩ := bind_eq_ok_iff.mp h
  obtain ⟨v, -, h⟩ := bind_eq_ok_iff.mp h
  obtain ⟨next_batch, -, h⟩ := bind_eq_ok_iff.mp h
  cases Except.ok.inj h
  obtain ⟨hjoin, hleave, hinvite, hknock⟩ := Rooms.fits_of_read hrooms
  obtain ⟨hchanged, hleft⟩ := DeviceLists.length_of_read hlists
  exact ⟨hjoin, hleave, hinvite, hknock, hchanged, hleft, ToDevice.allRead hdevice,
    allRead_presence hpresence⟩

end

/-- A response with a joined room, a topic in its timeline, and a user whose devices changed. -/
def exampleResponse : Json :=
  .object [
    ("device_lists", .object [("changed", .array [.string "@a:b"])]),
    ("next_batch", .string "s1"),
    ("rooms", .object [("join", .object [("!r:b", .object [("timeline", .object [
      ("events", .array [.object [
        ("content", .object [("topic", .string "t")]),
        ("event_id", .string "$e"),
        ("origin_server_ts", .numberUnsigned 1),
        ("sender", .string "@a:b"),
        ("state_key", .string ""),
        ("type", .string "m.room.topic")]])])])])])]

/-- It is accepted, with the event, and keeps to the limits. -/
theorem Sync.fits_exampleResponse : ∃ response,
    Sync.fromJson (knownTexts []) exampleResponse = .ok response ∧
      response.device_lists.changed = ["@a:b"] ∧
      (response.rooms.join.find? "!r:b").map (fun room ↦ room.timeline.events.length) = some 1 ∧
      response.Fits exampleResponse :=
  ⟨_, rfl, rfl, rfl, Sync.fits_of_accepted rfl⟩

end Mtx.Responses
