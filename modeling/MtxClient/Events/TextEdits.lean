import MtxClient.Events.Envelope
import MtxClient.Events.ExplicitRelations
import MtxClient.Events.Messages

/-!
# Edited texts

An edited text is written twice: with a star in front of it for clients that know no edits, and
below `m.new_content` as it is.  `from_json(Event<Content>)` reads it from there, with the relations
of the outer content copied into it, so that the star is never seen again.

The relations are read from the list that this library writes beside the standard members, which the
merged content has from the outer one (`find?_list_effectiveContent`).  So texts, notices and emotes
are read again as they were, edited or not.  What can go wrong is not theirs:
`textEvent_rereads_iff` says that such an event is read again unless its `unsigned` data has a
`redacted_because` of a type that the library does not know, which is written without its name.
-/

set_option autoImplicit false

namespace Mtx.Events

open Str

/-! ## The list of relations -/

/-- The merged content has the list of the outer one. -/
theorem find?_list_effectiveContent {content r list : Json}
    (h : effectiveContent content = .ok r)
    (hlist : content.find? "im.nheko.relations.v1.relations" = some list) :
    r.find? "im.nheko.relations.v1.relations" = some list := by
  rw [effectiveContent] at h
  split_ifs at h with hnew
  · obtain ⟨merged, hmerged⟩ : ∃ merged,
        Json.copyMember content merged "im.nheko.relations.v1.relations" = .ok r := by
      simp only [mergeNewContent, bind_eq_ok_iff] at h
      obtain ⟨newContent, -, copied, -, h⟩ := h
      rcases hsecond : newContent.find? "m.relates_to" with - | second
      all_goals rw [hsecond] at h
      · exact ⟨copied, h⟩
      · obtain ⟨merged, -, h⟩ := bind_eq_ok_iff.mp h
        exact ⟨merged, h⟩
    rw [Json.copyMember, hlist] at hmerged
    obtain ⟨hshape, rfl⟩ := Json.set_eq_ok_iff.mp hmerged
    rw [Json.find?_put hshape, if_pos rfl]
  · obtain rfl := Except.ok.inj h
    exact hlist

variable {base : Json}

/-- What is written with supported relations is read from an object that lists them. -/
theorem applyRelations_list (hplain : Plain base) (hobj : base.isObject = true)
    {relations : List Relation} (hne : relations ≠ [])
    (hsupported : ∀ r ∈ relations, r.rel_type ≠ .unsupported) :
    ∃ j r, applyRelations base { relations } = .ok j ∧ Rewritten base j r ∧
      r.find? "im.nheko.relations.v1.relations" =
        some (Json.ofArray Relation.toJson relations) := by
  obtain ⟨j, r, hj, hrewritten⟩ := applyRelations_spec hplain { relations }
  refine ⟨j, r, hj, hrewritten, find?_list_effectiveContent hrewritten.effective ?_⟩
  obtain ⟨written, hwritten, hlist⟩ := addRelations_list hobj (hplain.noRelation _ (by decide))
    (hplain.noRelation _ (by decide)) (hplain.noRelation _ (by decide)) hne hsupported
  rw [applyRelations, hwritten, ok_bind] at hj
  split_ifs at hj with hedit
  · obtain rfl := Except.ok.inj hj
    exact hlist
  · obtain ⟨written', hwritten', hadded, -⟩ := addRelations_spec hplain { relations }
    obtain rfl := Except.ok.inj (hwritten.symm.trans hwritten')
    obtain ⟨j', hj', hcopied⟩ := hadded.copied hplain (Json.isObject_of_find? hlist)
    obtain rfl := Except.ok.inj (hj'.symm.trans hj)
    rw [hcopied.list, hlist]

/-- Without relations a plain content is written and read as it is. -/
theorem applyRelations_nil (hplain : Plain base) : applyRelations base {} = .ok base ∧
    Rewritten base base base ∧ parseRelations base = .ok {} := by
  refine ⟨rfl, hplain.added.rewritten (hplain.noRelation _ (by decide)), ?_⟩
  rw [parseRelations, hplain.noRelation _ (by decide), hplain.noRelation _ (by decide)]

/-- **Supported relations are read again as they were written**, through an edit or not. -/
theorem applyRelations_rereads (hplain : Plain base) (hobj : base.isObject = true)
    {relations : List Relation} (hsupported : ∀ r ∈ relations, r.rel_type ≠ .unsupported) :
    ∃ j r, applyRelations base { relations } = .ok j ∧ Rewritten base j r ∧
      parseRelations r = .ok { relations } := by
  by_cases hne : relations = []
  · rw [hne]
    exact ⟨base, base, applyRelations_nil hplain⟩
  · obtain ⟨j, r, hj, hrewritten, hlist⟩ := applyRelations_list hplain hobj hne hsupported
    exact ⟨j, r, hj, hrewritten, parseRelations_of_list hlist⟩

/-! ## Texts, notices and emotes -/

namespace Msg

/-- The same texts, mentions and relations. -/
structure Formatted.Agrees (content content' : Formatted) : Prop where
  body : content'.body = content.body
  formatted_body : content'.formatted_body = content.formatted_body
  mentions : content'.mentions = content.mentions
  relations : content'.relations = content.relations

/-- The relations of a content are supported ones, that do not come from `m.relates_to`. -/
structure Formatted.Explicit (content : Formatted) : Prop where
  supported : ∀ r ∈ content.relations.relations, r.rel_type ≠ .unsupported
  synthesized : content.relations.synthesized = false

/-- What a content is written to is read from an object with its members. -/
theorem Formatted.fromJson_of_sameMembers {content : Formatted} {msgtype : Str} {r : Json}
    (h : SameMembers (Json.ofMembers (content.members msgtype)) r)
    (hrels : parseRelations r = .ok content.relations) :
    ∃ content', Formatted.fromJson r = .ok content' ∧ content.Agrees content' := by
  have hmentions := h.parseMentions (m := content.mentions) (by simp [Formatted.members])
  rw [Formatted.fromJson, hrels, hmentions]
  by_cases hempty : content.formatted_body = []
  · refine ⟨⟨content.body, msgtype, [], [], content.relations, content.mentions⟩, ?_, rfl,
      hempty.symm, rfl, rfl⟩
    simp (disch := decide) [Json.atKey_eq, Json.optional, h.find?, Formatted.members, hempty,
      lit_empty]
  · refine ⟨⟨content.body, msgtype, formatMsgType, content.formatted_body, content.relations,
      content.mentions⟩, ?_, rfl, rfl, rfl, rfl⟩
    simp (disch := decide) [Json.atKey_eq, Json.optional, h.find?, Formatted.members, hempty]

/-- **A content is read again with the same texts, mentions and relations.** -/
theorem Formatted.effective (content : Formatted) (h : content.Explicit) (msgtype : Str) :
    ∃ j r content', content.toJson msgtype = .ok j ∧ j.isObject = true ∧
      effectiveContent j = .ok r ∧ Formatted.fromJson r = .ok content' ∧
      content.Agrees content' := by
  obtain ⟨relations, hrelations⟩ : ∃ relations, content.relations = { relations } :=
    ⟨content.relations.relations, by rw [← h.synthesized]⟩
  have hsupported := h.supported
  have hobj : (Json.ofMembers (content.members msgtype)).isObject = true :=
    Json.isObject_of_find? (k := "msgtype") (v := .string msgtype) (by simp [Formatted.members])
  rw [hrelations] at hsupported
  obtain ⟨j, r, hj, hrewritten, hrels⟩ :=
    applyRelations_rereads (content.plain msgtype) hobj hsupported
  rw [← hrelations] at hj hrels
  obtain ⟨content', hread, hagrees⟩ := Formatted.fromJson_of_sameMembers
    ⟨hrewritten.isObject_effective, hrewritten.inner, hrewritten.relations⟩ hrels
  exact ⟨j, r, content', hj, hrewritten.isObject hobj, hrewritten.effective, hread, hagrees⟩

/-- `C` is a content type with the members of a text and no others, written with `msgtype`. -/
structure IsFormatted (C : Type) [EventContent C] (mk : Formatted → C) (get : C → Formatted)
    (msgtype : Str) : Prop where
  isEncrypted : EventContent.isEncrypted C = false
  fromJson : ∀ r, EventContent.fromJson (C := C) r = mk <$> Formatted.fromJson r
  get_mk : ∀ content, get (mk content) = content
  toJson : ∀ c : C, EventContent.toJson c = ((get c).toJson msgtype).toOption.getD .null
  setType : ∀ s (c : C), EventContent.setType s c = c
  ownType : ∀ c : C, EventContent.ownType c = none

theorem isFormatted_text : IsFormatted Text Text.mk Text.toFormatted "m.text" :=
  ⟨rfl, fun _ ↦ rfl, fun _ ↦ rfl, fun _ ↦ rfl, fun _ _ ↦ rfl, fun _ ↦ rfl⟩

theorem isFormatted_notice : IsFormatted Notice Notice.mk Notice.toFormatted "m.notice" :=
  ⟨rfl, fun _ ↦ rfl, fun _ ↦ rfl, fun _ ↦ rfl, fun _ _ ↦ rfl, fun _ ↦ rfl⟩

theorem isFormatted_emote : IsFormatted Emote Emote.mk Emote.toFormatted "m.emote" :=
  ⟨rfl, fun _ ↦ rfl, fun _ ↦ rfl, fun _ ↦ rfl, fun _ _ ↦ rfl, fun _ ↦ rfl⟩

end Msg

/-! ## Events -/

/-- An envelope with an explanation of a redaction whose type has no name is not read. -/
theorem RoomEvent.namesRedaction_of_read {C : Type} [EventContent C] {e : RoomEvent C}
    (h : Succeeds (readRoomEnvelope e.toJson)) : e.envelope.NamesRedaction := by
  intro r hr htype
  obtain ⟨⟨typeName, env⟩, henv⟩ := h
  obtain ⟨-, -, -, -, -, -, hunsigned, -⟩ := readRoomEnvelope_iff.mp henv
  rw [Json.optional_of_find? (v := e.unsigned_data.toJson)
    (by simp [RoomEvent.toJson, RoomEvent.members])] at hunsigned
  exact UnsignedData.not_succeeds hr htype ⟨env.unsigned_data, hunsigned⟩

section

variable {C : Type} [EventContent C] {mk : Msg.Formatted → C} {get : C → Msg.Formatted}
  {msgtype : Str}

/-- The content of a written event is read again. -/
theorem Msg.IsFormatted.readContent (hC : IsFormatted C mk get msgtype) (e : RoomEvent C)
    (h : (get e.content).Explicit) :
    ∃ content', readContent C e.toJson = .ok (mk content') ∧
      (get e.content).Agrees content' := by
  obtain ⟨j, r, content', hj, hobj, heffective, hread, hagrees⟩ :=
    (get e.content).effective h msgtype
  refine ⟨content', ?_, hagrees⟩
  have hfind : e.toJson.find? "content" = some j := by
    have hto : EventContent.toJson e.content = j := by
      rw [hC.toJson, hj]
      rfl
    simp [RoomEvent.toJson, RoomEvent.members, Event.members, hto]
  rw [readContent_eq, Json.atKey_of_find? hfind, ok_bind,
    contentFrom_of_effective hC.isEncrypted hobj heffective, hC.fromJson, hread]
  rfl

/-- A written event is read again exactly when it names the type of the event that explains its
redaction. -/
theorem Msg.IsFormatted.rereads_iff (hC : IsFormatted C mk get msgtype) (e : RoomEvent C)
    (htype : e.type = .roomMessage) (hfits : e.envelope.Fits) (h : (get e.content).Explicit) :
    (∃ e', RoomEvent.fromJson C e.toJson = .ok e' ∧
      (get e.content).Agrees (get e'.content)) ↔ e.envelope.NamesRedaction := by
  constructor
  · rintro ⟨e', he', -⟩
    exact RoomEvent.namesRedaction_of_read (RoomEvent.succeeds_fromJson_iff.mp ⟨e', he'⟩).2
  · intro hnames
    obtain ⟨content', hcontent, hagrees⟩ := hC.readContent e h
    have hwritten : writtenType e.toEvent = EventType.roomMessage.toStr := by
      rw [writtenType, hC.ownType, htype]
      rfl
    have henv := e.written_toJson.readRoomEnvelope hfits
      (by rw [hwritten, htype]; exact getEventType_toStr _ (by decide))
      (by rw [hwritten]; exact length_toStr _) hnames
    refine ⟨_, RoomEvent.fromJson_eq_ok_iff.mpr ⟨_, _, _, hcontent, henv, rfl⟩, ?_⟩
    rw [hC.setType]
    show (get e.content).Agrees (get (mk content'))
    rw [hC.get_mk]
    exact hagrees

end

/-- A room event with a text, a notice or an emote. -/
inductive TextEvent where
  | text (e : RoomEvent Msg.Text)
  | notice (e : RoomEvent Msg.Notice)
  | emote (e : RoomEvent Msg.Emote)

namespace TextEvent

/-- The members of the content. -/
def content : TextEvent → Msg.Formatted
  | text e => e.content.toFormatted
  | notice e => e.content.toFormatted
  | emote e => e.content.toFormatted

/-- What the event has beside its content. -/
def envelope : TextEvent → Envelope
  | text e => e.envelope
  | notice e => e.envelope
  | emote e => e.envelope

/-- `to_json(RoomEvent<Content>)` followed by `from_json(RoomEvent<Content>)`. -/
def reread : TextEvent → Except Exn TextEvent
  | text e => text <$> RoomEvent.fromJson Msg.Text e.toJson
  | notice e => notice <$> RoomEvent.fromJson Msg.Notice e.toJson
  | emote e => emote <$> RoomEvent.fromJson Msg.Emote e.toJson

/-- An `m.room.message` with identifiers of at most 255 bytes and a list of supported relations. -/
structure Sendable (e : TextEvent) : Prop where
  type : e.envelope.type = .roomMessage
  fits : e.envelope.Fits
  explicit : e.content.Explicit

/-- The event is read again, with the same texts, mentions and relations. -/
def Rereads (e : TextEvent) : Prop := ∃ e', e.reread = .ok e' ∧ e.content.Agrees e'.content

end TextEvent

/-- **Texts, notices and emotes are read again as they were written, edited or not**, unless the
event explains a redaction by an event of an unknown type. -/
theorem textEvent_rereads_iff (e : TextEvent) (h : e.Sendable) :
    e.Rereads ↔ e.envelope.NamesRedaction := by
  obtain ⟨htype, hfits, hexplicit⟩ := h
  cases e with
  | text e =>
    rw [TextEvent.Rereads, TextEvent.reread, exists_map_eq_ok_iff]
    exact Msg.isFormatted_text.rereads_iff e htype hfits hexplicit
  | notice e =>
    rw [TextEvent.Rereads, TextEvent.reread, exists_map_eq_ok_iff]
    exact Msg.isFormatted_notice.rereads_iff e htype hfits hexplicit
  | emote e =>
    rw [TextEvent.Rereads, TextEvent.reread, exists_map_eq_ok_iff]
    exact Msg.isFormatted_emote.rereads_iff e htype hfits hexplicit

/-- A text that replaces the message `$1`, of an event with the given explanation of its
redaction. -/
def starredEdit (redacted_because : Option (Event Redaction)) : TextEvent :=
  .text {
    type := .roomMessage
    sender := "@a:b"
    content := { body := "* b", relations := { relations := [⟨.replace, "$1", none, false⟩] } }
    event_id := "$2"
    room_id := "!r:b"
    origin_server_ts := 1
    unsigned_data := { redacted_because } }

/-- A text that starts with a star itself is read again. -/
theorem starredEdit_rereads : (starredEdit none).Sendable ∧ (starredEdit none).Rereads := by
  have hsendable : (starredEdit none).Sendable := by
    refine ⟨rfl, ⟨by decide, by decide, by decide, ?_⟩, ⟨by decide, rfl⟩⟩
    intro r hr
    cases hr
  refine ⟨hsendable, (textEvent_rereads_iff _ hsendable).mpr ?_⟩
  intro r hr
  cases hr

/-- An event that explains a redaction, of a type that the library does not know. -/
def unknownRedaction : Event Redaction := ⟨.unsupported, "@a:b", {}⟩

/-- **The same edit is lost when its redaction is explained by an event of an unknown type**, which
a server can send. -/
theorem starredEdit_not_rereads :
    Event.fromJson Redaction (.object [(lit "content", .object []),
        (lit "sender", .string "@a:b"), (lit "type", .string "a.b")]) = .ok unknownRedaction ∧
      (starredEdit (some unknownRedaction)).Sendable ∧
      ¬ (starredEdit (some unknownRedaction)).Rereads := by
  refine ⟨rfl, ⟨rfl, ⟨by decide, by decide, by decide, ?_⟩, ⟨by decide, rfl⟩⟩, ?_⟩
  · intro r hr
    obtain rfl := Option.some.inj hr
    decide
  · rintro ⟨e', he', -⟩
    obtain ⟨e, he, -⟩ := map_eq_ok_iff.mp he'
    exact RoomEvent.namesRedaction_of_read (RoomEvent.succeeds_fromJson_iff.mp ⟨e, he⟩).2
      unknownRedaction rfl rfl

end Mtx.Events
