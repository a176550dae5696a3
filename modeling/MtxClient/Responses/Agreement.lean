import MtxClient.Responses.Common

/-!
# Readers of the same event

An event of a timeline has two readers besides `parse_timeline_events`: `from_json(TimelineEvents)`
for a single event and `from_json(Notification)`.  A state event also stands in the state block,
which `parse_state_events` reads.  The dispatch on the type of the event is written out in each.

`timeline_readers_agree` says that the readers of timeline events agree.  The state block and the
timeline agree on every type that the library knows and on redacted events; an unknown state event
of a timeline loses its state key, for which the variant has no alternative.
-/

set_option autoImplicit false

namespace Mtx.Responses

open Str Events

/-! ## Notifications -/

/-- A notification. -/
structure Notification (json : JsonText) where
  actions : List PushRules.Action
  event : TimelineEvents json
  read : Bool := false
  profile_tag : Str := ""
  room_id : Str := ""
  ts : UInt64

/-- `from_json(Notification)`, of the profile tag, which may be `null`. -/
def readProfileTag (obj : Json) (profile_tag : Str) : Except Exn Str :=
  match obj.find? "profile_tag" with
  | none | some .null => .ok profile_tag
  | some v => v.getString

/-- `from_json(Notification)`, into a notification that holds `res`. -/
def Notification.fromJson (json : JsonText) (obj : Json) (res : Notification json) :
    Except Exn (Notification json) := do
  let actions ← (← obj.atKey "actions").getArray PushRules.Action.fromJson
  let read ← (← obj.atKey "read").getBool
  let room_id ← (← obj.atKey "room_id").getString
  let ts ← (← obj.atKey "ts").getUInt64
  let profile_tag ← readProfileTag obj res.profile_tag
  let arr := Json.array [← obj.atKey "event"]
  let tmp ← parseTimelineEvents json arr []
  return { actions, event := tmp.head?.getD res.event, read, profile_tag, room_id, ts }

/-- The members of `obj` other than the event can be read, as those of `n`. -/
structure Notification.OthersRead {json : JsonText} (n : Notification json) (obj : Json)
    (res : Notification json) : Prop where
  actions : ∃ v, obj.find? "actions" = some v ∧
    v.getArray PushRules.Action.fromJson = .ok n.actions
  read : ∃ v, obj.find? "read" = some v ∧ v.getBool = .ok n.read
  room_id : ∃ v, obj.find? "room_id" = some v ∧ v.getString = .ok n.room_id
  ts : ∃ v, obj.find? "ts" = some v ∧ v.getUInt64 = .ok n.ts
  profile_tag : readProfileTag obj res.profile_tag = .ok n.profile_tag

section

variable {json : JsonText} {α : Type} {body : Json → Except Exn (Option α)}

/-- A list with one element has an event when the body of the loop answers one. -/
theorem parseEvents_singleton_iff {e : Json} {container : List α} {x : α} :
    parseEvents json body (.array [e]) container = .ok [x] ↔ body e = .ok (some x) := by
  rw [parseEvents, Json.elements, List.foldlM_cons, appendEvent, clear]
  rcases body e with err | event
  · refine iff_of_false (fun h ↦ ?_) (by rintro ⟨⟩)
    obtain ⟨container', h', hnil⟩ := bind_eq_ok_iff.mp h
    obtain ⟨-, -, hpure⟩ := bind_eq_ok_iff.mp h'
    rw [← Except.ok.inj hpure] at hnil
    cases Except.ok.inj hnil
  · rcases event with - | a
    · refine iff_of_false ?_ ?_ <;> rintro ⟨⟩
    · simp [pure, Except.pure]

end

section

variable (json : JsonText) {e : Json} {x : TimelineEvents json}

/-- What `parse_timeline_events` appends is what `from_json(TimelineEvents)` assigns. -/
theorem assignTimelineEvent_of_parse (h : parseTimelineEvent json e = .ok (some x)) :
    ∃ type, getEventTypeOf e = .ok type ∧ assignTimelineEvent json type e = .ok (some x) := by
  obtain ⟨type, htype, h⟩ := bind_eq_ok_iff.mp h
  refine ⟨type, htype, ?_⟩
  unfold assignTimelineEvent
  split_ifs at h ⊢
  · exact h
  · exact h
  · cases type
    -- the two tables differ in the request for a verification only
    case keyVerificationRequest => cases h
    all_goals exact h

/-- **The readers of timeline events agree.**  What `parse_timeline_events` answers for an event is
what `from_json(TimelineEvents)` reads, and what `from_json(Notification)` does where the other
members of the notification can be read. -/
theorem timeline_readers_agree {container : List (TimelineEvents json)}
    (h : parseTimelineEvents json (.array [e]) container = .ok [x]) :
    (∀ old, TimelineEvents.fromJson json e old = .ok x) ∧
      ∀ obj res, obj.find? "event" = some e →
        (∀ n : Notification json, n.OthersRead obj res →
          Notification.fromJson json obj res = .ok { n with event := x }) ∧
        ∀ n, Notification.fromJson json obj res = .ok n → n.OthersRead obj res ∧ n.event = x := by
  have hbody : parseTimelineEvent json e = .ok (some x) := parseEvents_singleton_iff.mp h
  have htmp : parseTimelineEvents json (.array [e]) [] = .ok [x] :=
    parseEvents_singleton_iff.mpr hbody
  refine ⟨fun old ↦ ?_, fun obj res hevent ↦ ⟨fun n hn ↦ ?_, fun n hn ↦ ?_⟩⟩
  · obtain ⟨type, htype, hassign⟩ := assignTimelineEvent_of_parse json hbody
    rw [TimelineEvents.fromJson, htype, ok_bind, hassign]
    rfl
  · obtain ⟨⟨_, hactions, hactions'⟩, ⟨_, hread, hread'⟩, ⟨_, hroom, hroom'⟩, ⟨_, hts, hts'⟩,
      htag⟩ := hn
    rw [Notification.fromJson, Json.atKey_of_find? hactions, ok_bind, hactions', ok_bind,
      Json.atKey_of_find? hread, ok_bind, hread', ok_bind, Json.atKey_of_find? hroom, ok_bind,
      hroom', ok_bind, Json.atKey_of_find? hts, ok_bind, hts', ok_bind, htag, ok_bind,
      Json.atKey_of_find? hevent, ok_bind]
    dsimp only
    rw [htmp]
    rfl
  · simp only [Notification.fromJson, Json.atKey_of_find? hevent, htmp, bind_eq_ok_iff,
      ok_bind, Json.atKey_eq_ok_iff] at hn
    obtain ⟨_, hactions, _, hactions', _, hread, _, hread', _, hroom, _, hroom', _, hts, _, hts', _,
      htag, hn⟩ := hn
    rw [← Except.ok.inj hn]
    exact ⟨⟨⟨_, hactions, hactions'⟩, ⟨_, hread, hread'⟩, ⟨_, hroom, hroom'⟩, ⟨_, hts, hts'⟩, htag⟩,
      rfl⟩

/-- A text message. -/
def textMessage : Json := .object [
  (lit "content", .object [(lit "body", .string "hello"), (lit "msgtype", .string "m.text")]),
  (lit "event_id", .string "$1"), (lit "origin_server_ts", .numberUnsigned 1),
  (lit "sender", .string "@alice:example.org"), (lit "type", .string "m.room.message")]

/-- The event that is read from it. -/
def textEvent {json : JsonText} : TimelineEvents json :=
  .room .text {
    type := .roomMessage, sender := "@alice:example.org"
    content := { body := "hello", msgtype := "m.text" }
    event_id := "$1", room_id := "", origin_server_ts := 1, unsigned_data := {} }

/-- A notification of it. -/
def textNotification : Json := .object [
  (lit "actions", .array [.string "notify"]), (lit "event", textMessage),
  (lit "read", .boolean false), (lit "room_id", .string "!room:example.org"),
  (lit "ts", .numberUnsigned 2)]

theorem timeline_readers_agree_textMessage :
    (∀ old, TimelineEvents.fromJson (knownTexts []) textMessage old = .ok textEvent) ∧
      ∀ res, Notification.fromJson (knownTexts []) textNotification res = .ok {
        actions := [.notify], event := textEvent, read := false, profile_tag := res.profile_tag
        room_id := "!room:example.org", ts := 2 } := by
  obtain ⟨hevent, hnotification⟩ :=
    @timeline_readers_agree (knownTexts []) textMessage textEvent [] rfl
  exact ⟨hevent, fun res ↦ (hnotification textNotification res rfl).1
    { actions := [.notify], event := res.event, read := false, profile_tag := res.profile_tag
      room_id := "!room:example.org", ts := 2 }
    ⟨⟨_, rfl, rfl⟩, ⟨_, rfl, rfl⟩, ⟨_, rfl, rfl⟩, ⟨_, rfl, rfl⟩, rfl⟩⟩

/-! ## The state block and the timeline -/

/-- A state event of the state block as it stands in a timeline, which has no alternative for a
state event of unknown type. -/
def inTimeline {json : JsonText} : StateEvents json → TimelineEvents json
  | .known k e => .state k e
  | .unknown e => .room .unknown e.toRoomEvent

/-- The two blocks read the known contents alike. -/
theorem readState_of_readKnownState {k : StateKind} {s : StateEvents json}
    (h : some <$> readKnownState json k e = .ok (some s)) :
    some <$> readState json k e = .ok (some (inTimeline s)) := by
  rw [readKnownState] at h
  rw [readState]
  generalize StateEvent.fromJson k.Content e = r at h ⊢
  rcases r with err | ev
  · cases h
  · cases h
    rfl

/-- A state event has a state key. -/
theorem contains_state_key {k : StateKind} {s : StateEvents json}
    (h : some <$> readKnownState json k e = .ok (some s)) : e.contains "state_key" = true := by
  obtain ⟨s', hs', -⟩ := map_eq_ok_iff.mp h
  obtain ⟨ev, hev, -⟩ := map_eq_ok_iff.mp hs'
  obtain ⟨v, hv, -⟩ := bind_eq_ok_iff.mp (StateEvent.fromJson_eq_ok_iff.mp hev).2
  exact Json.contains_eq_true_iff.mpr ⟨v, Json.atKey_eq_ok_iff.mp hv⟩

/-- What `parse_state_events` and `parse_timeline_events` make of a state event. -/
theorem parseTimelineEvent_of_parseStateEvent {s : StateEvents json}
    (h : parseStateEvent json e = .ok (some s)) :
    parseTimelineEvent json e = .ok (some (inTimeline s)) := by
  obtain ⟨type, htype, h⟩ := bind_eq_ok_iff.mp h
  rw [parseTimelineEvent, htype, ok_bind]
  split_ifs at h ⊢ with hredacted hkey
  · exact readState_of_readKnownState json h
  · exact absurd (contains_state_key json h) hkey
  · cases type
    case unsupported =>
      obtain ⟨ev, hev, hs⟩ := bind_eq_ok_iff.mp h
      cases Except.ok.inj hs
      have hroom : RoomEvent.fromJson (RoomKind.unknown.Content json) e = .ok ev.toRoomEvent :=
        (StateEvent.fromJson_eq_ok_iff.mp hev).1
      show some <$> readRoom json .unknown e = _
      rw [readRoom, hroom]
      rfl
    all_goals first | exact readState_of_readKnownState json h | cases h

/-- An event that is no redacted one is of unknown type in the state block only if its type is not
supported. -/
theorem unsupported_of_unknown {ev : StateEvent (Unknown json)}
    (h : parseStateEvent json e = .ok (some (.unknown ev))) :
    isRedacted e = false ∧ getEventTypeOf e = .ok .unsupported := by
  have hknown : ∀ k, some <$> readKnownState json k e ≠ .ok (some (.unknown ev)) := fun k hk ↦ by
    obtain ⟨s, hs, heq⟩ := map_eq_ok_iff.mp hk
    obtain ⟨_, _, rfl⟩ := map_eq_ok_iff.mp hs
    cases heq
  obtain ⟨type, htype, h⟩ := bind_eq_ok_iff.mp h
  split_ifs at h with hredacted
  · exact absurd h (hknown _)
  · refine ⟨by simpa using hredacted, ?_⟩
    cases type
    case unsupported => exact htype
    all_goals first | exact absurd h (hknown _) | cases h

/-- **The state block and the timeline read a state event alike**, with the exception of the state
key of an event whose type the library does not know. -/
theorem state_blocks_agree {s : StateEvents json} {container : List (StateEvents json)}
    (h : parseStateEvents json (.array [e]) container = .ok [s]) :
    ∀ timeline, ∃ x, parseTimelineEvents json (.array [e]) timeline = .ok [x] ∧
      ((∃ k ev, s = .known k ev ∧ x = .state k ev) ∨
        (isRedacted e = false ∧ getEventTypeOf e = .ok .unsupported ∧
          ∃ ev, s = .unknown ev ∧ x = .room .unknown ev.toRoomEvent)) := by
  have hbody : parseStateEvent json e = .ok (some s) := parseEvents_singleton_iff.mp h
  refine fun timeline ↦ ⟨inTimeline s, parseEvents_singleton_iff.mpr
    (parseTimelineEvent_of_parseStateEvent json hbody), ?_⟩
  rcases s with ⟨k, ev⟩ | ev
  · exact Or.inl ⟨k, ev, rfl, rfl⟩
  · obtain ⟨hredacted, htype⟩ := unsupported_of_unknown json hbody
    exact Or.inr ⟨hredacted, htype, ev, rfl, rfl⟩

end

/-- The topic of a room. -/
def topicEvent : Json := .object [
  (lit "content", .object [(lit "topic", .string "talk")]), (lit "event_id", .string "$1"),
  (lit "origin_server_ts", .numberUnsigned 1), (lit "sender", .string "@alice:example.org"),
  (lit "state_key", .string ""), (lit "type", .string "m.room.topic")]

theorem state_blocks_agree_topicEvent :
    ∃ s : StateEvents (knownTexts []), ∀ timeline, ∃ x,
      parseTimelineEvents (knownTexts []) (.array [topicEvent]) timeline = .ok [x] ∧
      ((∃ k ev, s = .known k ev ∧ x = .state k ev) ∨
        (isRedacted topicEvent = false ∧ getEventTypeOf topicEvent = .ok .unsupported ∧
          ∃ ev, s = .unknown ev ∧ x = .room .unknown ev.toRoomEvent)) :=
  ⟨.known .topic {
    type := .roomTopic, sender := "@alice:example.org", content := { topic := "talk" }
    event_id := "$1", room_id := "", origin_server_ts := 1, unsigned_data := {}, state_key := "" },
    @state_blocks_agree (knownTexts []) _ _ [] rfl⟩

/-- A state event of a type that the library does not know. -/
def customState : Json := .object [
  (lit "content", .object []), (lit "event_id", .string "$1"),
  (lit "origin_server_ts", .numberUnsigned 1), (lit "sender", .string "@alice:example.org"),
  (lit "state_key", .string "key"), (lit "type", .string "org.example.custom")]

/-- Its state key is missing in the timeline. -/
theorem state_key_lost_in_timeline :
    ∃ (s : StateEvents (knownTexts [])) (x : TimelineEvents (knownTexts [])),
      parseStateEvents (knownTexts []) (.array [customState]) [] = .ok [s] ∧
      parseTimelineEvents (knownTexts []) (.array [customState]) [] = .ok [x] ∧
      s.envelope.state_key = some (lit "key") ∧ x.envelope.state_key ≠ s.envelope.state_key := by
  let ev : StateEvent (Unknown (knownTexts [])) := {
    type := .unsupported, sender := "@alice:example.org"
    content := { content := (Json.object []).dumpText, type := "org.example.custom" }
    event_id := "$1", room_id := "", origin_server_ts := 1, unsigned_data := {}
    state_key := "key" }
  exact ⟨.unknown ev, .room .unknown ev.toRoomEvent, rfl, rfl, rfl, nofun⟩

end Mtx.Responses
