import MtxClient.Events.EmptyRelations
import MtxClient.Responses.Dispatch

/-!
# Malformed relations in a timeline

`parse_relations` is wrapped in a handler that should answer the empty relations when the data is
malformed.  The handler is for `nlohmann::json &`, the type of the values, and nothing throws these:
an exception leaves the function, and `parse_timeline_events` drops the event.

`malformed_relations` says which contents and which events of a timeline this concerns.
-/

set_option autoImplicit false

namespace Mtx.Responses

open Str Events

/-! ## Contents -/

/-- The relation data that a content of the kind is read with can be read. -/
def ReadableFor (k : RoomKind) (content : Json) : Prop :=
  match k with
  | .encrypted => ReadableRelations content
  | .keyVerificationRequest => True
  | _ => ∀ r, effectiveContent content = .ok r → ReadableRelations r

/-- The kinds of contents that have relations and do not keep their text, and the request of a
verification. -/
def isRelated : RoomKind → Bool
  | .encrypted | .sticker | .reaction | .audio | .elementEffect | .emote | .file | .image
  | .location | .notice | .text | .video | .keyVerificationRequest | .keyVerificationStart
  | .keyVerificationReady | .keyVerificationDone | .keyVerificationAccept | .keyVerificationCancel
  | .keyVerificationKey | .keyVerificationMac => true
  | _ => false

theorem defectsAreRelations_map {C D : Type} {fromJson : Json → Except Exn C} (g : C → D)
    (h : DefectsAreRelations fromJson) : DefectsAreRelations fun r ↦ g <$> fromJson r :=
  fun depth r hr ↦ succeeds_map_iff.trans (h depth r (succeeds_map_iff.mp hr))

/-- A content that can be read without relation data has no other defect. -/
theorem succeeds_content_iff {json : JsonText} {k : RoomKind} {content : Json}
    (hk : isRelated k = true)
    (h : Succeeds (contentFrom (k.Content json) (emptyRelations 3 content))) :
    Succeeds (contentFrom (k.Content json) content) ↔ ReadableFor k content := by
  cases k
  case encrypted => exact succeeds_contentFrom_encrypted_iff h
  case keyVerificationRequest => exact iff_of_true (succeeds_contentFrom_request h) trivial
  case sticker => exact succeeds_contentFrom_iff rfl Msg.StickerImage.defectsAreRelations h
  case reaction => exact succeeds_contentFrom_iff rfl Msg.Reaction.defectsAreRelations h
  case audio => exact succeeds_contentFrom_iff rfl Msg.Audio.defectsAreRelations h
  case file => exact succeeds_contentFrom_iff rfl Msg.File.defectsAreRelations h
  case image => exact succeeds_contentFrom_iff rfl Msg.Image.defectsAreRelations h
  case location => exact succeeds_contentFrom_iff rfl Msg.Location.defectsAreRelations h
  case video => exact succeeds_contentFrom_iff rfl Msg.Video.defectsAreRelations h
  case elementEffect | emote | notice | text =>
    exact succeeds_contentFrom_iff rfl
      (defectsAreRelations_map _ Msg.Formatted.defectsAreRelations) h
  case keyVerificationStart =>
    exact succeeds_contentFrom_iff rfl Msg.KeyVerificationStart.defectsAreRelations h
  case keyVerificationReady =>
    exact succeeds_contentFrom_iff rfl Msg.KeyVerificationReady.defectsAreRelations h
  case keyVerificationDone =>
    exact succeeds_contentFrom_iff rfl Msg.KeyVerificationDone.defectsAreRelations h
  case keyVerificationAccept =>
    exact succeeds_contentFrom_iff rfl Msg.KeyVerificationAccept.defectsAreRelations h
  case keyVerificationCancel =>
    exact succeeds_contentFrom_iff rfl Msg.KeyVerificationCancel.defectsAreRelations h
  case keyVerificationKey =>
    exact succeeds_contentFrom_iff rfl Msg.KeyVerificationKey.defectsAreRelations h
  case keyVerificationMac =>
    exact succeeds_contentFrom_iff rfl Msg.KeyVerificationMac.defectsAreRelations h
  all_goals cases hk

/-! ## Events -/

/-- The event with nothing in the relation data of its content. -/
def withEmptyRelations (e : Json) : Json :=
  mapMembers (fun k v ↦ if k = "content" then emptyRelations 3 v else v) e

section

variable (e : Json)

theorem find?_withEmptyRelations {k : Str} (hk : k ≠ "content") :
    (withEmptyRelations e).find? k = e.find? k := by
  rw [withEmptyRelations, find?_mapMembers]
  simp [hk]

theorem atKey_content_withEmptyRelations :
    (withEmptyRelations e).atKey "content" = emptyRelations 3 <$> e.atKey "content" :=
  atKey_mapMembers e _

theorem isObject_withEmptyRelations : (withEmptyRelations e).isObject = e.isObject :=
  isObject_mapMembers e

theorem getMessageTypeOf_emptyRelations (content : Json) :
    getMessageTypeOf (emptyRelations 3 content) = getMessageTypeOf content := by
  have hnull : (emptyRelations 3 content).isNull = content.isNull := isNull_mapMembers content
  rw [getMessageTypeOf, getMessageTypeOf, hnull, find?_emptyRelations (by decide)]

/-- The relation data has no part in the dispatch. -/
theorem timelineAlternative_withEmptyRelations :
    timelineAlternative (withEmptyRelations e) = timelineAlternative e := by
  have hfind := fun k ↦ find?_withEmptyRelations e (k := k)
  rw [timelineAlternative, timelineAlternative, getEventTypeOf, getEventTypeOf, isRedacted,
    isRedacted, Json.contains, Json.contains, hfind _ (by simp), hfind _ (by simp),
    hfind _ (by simp), atKey_content_withEmptyRelations]
  rcases e.atKey "content" with err | content
  · rfl
  · simp only [Except.map_ok, ok_bind, getMessageTypeOf_emptyRelations]

/-- Nor in the envelope. -/
theorem readRoomEnvelope_withEmptyRelations :
    readRoomEnvelope (withEmptyRelations e) = readRoomEnvelope e := by
  have hobj := isObject_withEmptyRelations e
  have hfind := fun k ↦ find?_withEmptyRelations e (k := k)
  rw [readRoomEnvelope, readRoomEnvelope, readEnvelope, readEnvelope,
    Json.atKey_congr hobj (hfind "type" (by simp)),
    Json.value_congr hobj (hfind "sender" (by simp)),
    Json.atKey_congr hobj (hfind "event_id" (by simp)),
    Json.atKey_congr hobj (hfind "origin_server_ts" (by simp)),
    Json.optional_congr (hfind "room_id" (by simp)),
    Json.optional_congr (hfind "unsigned" (by simp))]

end

variable (json : JsonText)

/-- The event is delivered, with the alternative of the kind. -/
def Delivered (k : RoomKind) (e : Json) : Prop :=
  ∃ x, parseTimelineEvents json (.array [e]) [] = .ok [x] ∧ x.alternative = .room k

theorem delivered_iff {k : RoomKind} {e : Json} : Delivered json k e ↔
    timelineAlternative e = .ok (some (.room k)) ∧ Succeeds (readContent (k.Content json) e) ∧
      Succeeds (readRoomEnvelope e) := by
  rw [← RoomEvent.succeeds_fromJson_iff]
  constructor
  · rintro ⟨x, hx, hk⟩
    obtain ⟨a, ha, hread⟩ :=
      (parseTimelineEvent_eq_some_iff json).mp (parseEvents_singleton_iff.mp hx)
    obtain rfl := (alternative_of_read json hread).symm.trans hk
    exact ⟨ha, succeeds_map_iff.mp ⟨x, hread⟩⟩
  · rintro ⟨ha, ev, hev⟩
    refine ⟨.room k ev, parseEvents_singleton_iff.mpr
      ((parseTimelineEvent_eq_some_iff json).mpr ⟨_, ha, ?_⟩), rfl⟩
    rw [readAlternative, readRoom, hev]
    rfl

/-- The content's relations are read, and read as empty ones when they are malformed. -/
def AbsorbsDefects (content : Json) : Prop :=
  ∃ rels, parseRelations content = .ok rels ∧ (¬ WellFormedRelations content → rels = {})

/-- Malformed data is not read as no relations: an exception leaves the function, or relations are
made up. -/
theorem absorbsDefects_iff (content : Json) :
    AbsorbsDefects content ↔ WellFormedRelations content := by
  constructor
  · rintro ⟨rels, hrels, hempty⟩
    by_contra hmalformed
    rw [hempty hmalformed] at hrels
    exact hmalformed (parseRelations_eq_empty hrels)
  · intro h
    obtain ⟨rels, hrels⟩ := (succeeds_parseRelations_iff content).mpr h.readable
    exact ⟨rels, hrels, absurd h⟩

/-- An event with no other defect. -/
theorem delivered_iff_readable {k : RoomKind} {e : Json} (hk : isRelated k = true)
    (h : Delivered json k (withEmptyRelations e)) : Delivered json k e ↔
      ∀ content, e.find? "content" = some content → ReadableFor k content := by
  rw [delivered_iff, timelineAlternative_withEmptyRelations, readRoomEnvelope_withEmptyRelations,
    readContent_eq, atKey_content_withEmptyRelations] at h
  obtain ⟨halternative, hread, henvelope⟩ := h
  obtain ⟨_, hempty, hread⟩ := succeeds_bind_iff.mp hread
  obtain ⟨content, hcontent, rfl⟩ := map_eq_ok_iff.mp hempty
  rw [delivered_iff, readContent_eq, hcontent, ok_bind, succeeds_content_iff hk hread,
    Json.atKey_eq_ok_iff.mp hcontent]
  exact ⟨fun h _ hc ↦ Option.some.inj hc ▸ h.2.1, fun h ↦ ⟨halternative, h content rfl, henvelope⟩⟩

/-- **Malformed relations lose the event.**  Malformed data is never absorbed, and an event without
other defects is delivered exactly when its relation data can be read. -/
theorem malformed_relations :
    (∀ content, AbsorbsDefects content ↔ WellFormedRelations content) ∧
      ∀ (k : RoomKind) (e : Json), isRelated k = true →
        Delivered json k (withEmptyRelations e) →
        (Delivered json k e ↔
          ∀ content, e.find? "content" = some content → ReadableFor k content) :=
  ⟨absorbsDefects_iff, fun _ _ hk h ↦ delivered_iff_readable json hk h⟩

/-- A reply, whose `m.in_reply_to` has the value as event. -/
def replyTo (event_id : Json) : Json := .object [
  (lit "content", .object [(lit "body", .string "hello"),
    (lit "m.relates_to", .object [(lit "m.in_reply_to", .object [(lit "event_id", event_id)])]),
    (lit "msgtype", .string "m.text")]),
  (lit "event_id", .string "$2"), (lit "origin_server_ts", .numberUnsigned 1),
  (lit "sender", .string "@alice:example.org"), (lit "type", .string "m.room.message")]

theorem malformed_relations_replyTo : Delivered (knownTexts []) .text (replyTo (.string "$1")) ↔
    ∀ content, (replyTo (.string "$1")).find? "content" = some content →
      ReadableFor .text content :=
  (malformed_relations (knownTexts [])).2 .text (replyTo (.string "$1")) rfl ⟨_, rfl, rfl⟩

/-- **A text is lost because the event that it replies to is a number**, and a relation is made up
where there is none. -/
theorem text_lost :
    (∀ content, (replyTo (.numberUnsigned 1)).find? "content" = some content →
      ¬ AbsorbsDefects content) ∧
      Delivered (knownTexts []) .text (withEmptyRelations (replyTo (.numberUnsigned 1))) ∧
      parseTimelineEvents (knownTexts []) (.array [replyTo (.numberUnsigned 1)]) [] = .ok [] ∧
      ¬ AbsorbsDefects (.object [(lit "m.relates_to", .string "oops")]) := by
  refine ⟨fun content hcontent ↦ ?_, ⟨_, rfl, rfl⟩, rfl, ?_⟩
  · cases hcontent
    rintro ⟨rels, hrels, -⟩
    cases hrels
  · rintro ⟨rels, hrels, hempty⟩
    obtain rfl : rels = { relations := [{}], synthesized := true } := (Except.ok.inj hrels).symm
    have hmalformed : ¬ WellFormedRelations (.object [(lit "m.relates_to", .string "oops")]) := by
      intro hwell
      rcases (hwell _ rfl).1.relation with ⟨⟨_, htype⟩, -, -, -⟩ | ⟨hreply, -, -⟩
      · cases htype
      · cases hreply
    cases hempty hmalformed

end Mtx.Responses
