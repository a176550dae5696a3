import MtxClient.Events.StoredContents
import MtxClient.Responses.Dispatch

/-!
# Storing timeline events

An event of a timeline is written with `to_json(TimelineEvents)` and read again with
`parse_timeline_events`.  Whether it is then the same alternative with the same envelope depends on
the event that was received (`persists_iff`).

What is lost is what the writer does not know any more: the name of a type that only `Unknown`
keeps, an empty `redacted_by`, and the `msgtype` that chose the alternative when the content was
read from `m.new_content`.
-/

set_option autoImplicit false

namespace Mtx.Responses

open Str Events

section

variable (json : JsonText)

/-- The event is written, and the same event is read from there: one of the same alternative with
the same envelope. -/
def Persists (x : TimelineEvents json) : Prop :=
  ∃ j, TimelineEvents.toJson json x = .ok j ∧ ∀ container, ∃ x',
    parseTimelineEvents json (.array [j]) container = .ok [x'] ∧
      x'.alternative = x.alternative ∧ x'.envelope = x.envelope

end

/-- A member of the unsigned data. -/
def unsignedMember (e : Json) (k : Str) : Option Json := (e.find? "unsigned").bind (·.find? k)

/-- The content of a message can be written, and chooses the same alternative again. -/
def MessagePersists (content : Json) : Prop :=
  ∀ r, effectiveContent content = .ok r →
    match getMessageTypeOf content with
    | .elementEffect => getMessageTypeOf r = .elementEffect
    | .keyVerificationRequest => r.contains "msgtype" = true
    | .unknown => getMessageTypeOf r = .unknown ∧
        ∀ rels, parseRelations r = .ok rels → Rewritable r rels.slots
    | _ => True

/-- The content of an event of the type can be written, and is read as the same alternative. -/
def ContentPersists (content : Json) : EventType → Prop
  | .unsupported => ∀ r n, effectiveContent content = .ok r →
      r.find? "m.new_content" = some n → Mergeable r n
  | .roomMessage => MessagePersists content
  | _ => True

/-- An event that can be stored. -/
structure Persistable (e : Json) : Prop where
  type : isRedacted e = true → getEventTypeOf e ≠ .ok .unsupported
  redacted_by : unsignedMember e "redacted_by" ≠ some (.string "")
  redacted_because : ∀ r, unsignedMember e "redacted_because" = some r →
    getEventTypeOf r ≠ .ok .unsupported
  content : isRedacted e = false → ∀ type content, getEventTypeOf e = .ok type →
    e.find? "content" = some content → ContentPersists content type

variable {json : JsonText} {e j : Json}

/-! ## The unsigned data -/

theorem isRedacted_eq (e : Json) :
    isRedacted e = (unsignedMember e "redacted_by").isSome := by
  rw [isRedacted, unsignedMember]
  rcases e.find? "unsigned" with - | u
  · rfl
  · rfl

theorem getEventTypeOf_of_readEnvelope {type : EventType} {typeName sender : Str}
    (h : readEnvelope e = .ok (type, typeName, sender)) : getEventTypeOf e = .ok type := by
  obtain ⟨hfind, -, hname, -⟩ := readEnvelope_iff.mp h
  rw [getEventTypeOf, hfind]
  dsimp only
  rw [Json.getString_string, ok_bind, hname]

/-- What was read from the unsigned data. -/
theorem unsigned_of_read {obj : Json} {u : UnsignedData}
    (h : UnsignedData.fromJson obj = .ok u) :
    obj.optional "redacted_by" Json.getString "" = .ok u.redacted_by ∧
      obj.optional "redacted_because" (fun j ↦ some <$> Event.fromJson Redaction j) none =
        .ok u.redacted_because := by
  simp only [UnsignedData.fromJson, bind_eq_ok_iff] at h
  obtain ⟨age, -, transaction_id, -, prev_sender, -, replaces_state, -, redacted_by, hby, because,
    hbecause, h⟩ := h
  rw [← Except.ok.inj h]
  exact ⟨hby, hbecause⟩

section

variable {typeName : Str} {env : Envelope} (h : readRoomEnvelope e = .ok (typeName, env))

include h

theorem redacted_by_eq_nil_iff : env.unsigned_data.redacted_by = [] ↔
    isRedacted e = false ∨ unsignedMember e "redacted_by" = some (.string "") := by
  obtain ⟨-, -, -, -, -, -, hunsigned, -⟩ := readRoomEnvelope_iff.mp h
  rw [isRedacted_eq, unsignedMember]
  rw [Json.optional] at hunsigned
  obtain hu | ⟨u, hu⟩ := Option.eq_none_or_eq_some (e.find? "unsigned")
  · rw [hu] at hunsigned ⊢
    rw [← Except.ok.inj hunsigned]
    exact iff_of_true rfl (Or.inl rfl)
  · rw [hu] at hunsigned ⊢
    obtain ⟨hby, -⟩ := unsigned_of_read hunsigned
    rw [Option.bind_some]
    rw [Json.optional] at hby
    obtain hv | ⟨v, hv⟩ := Option.eq_none_or_eq_some (u.find? "redacted_by")
    · rw [hv] at hby ⊢
      exact iff_of_true (Except.ok.inj hby).symm (Or.inl rfl)
    · rw [hv] at hby ⊢
      obtain rfl := Json.getString_eq_ok_iff.mp hby
      simp [lit_empty]

theorem namesRedaction_iff : env.NamesRedaction ↔
    ∀ r, unsignedMember e "redacted_because" = some r → getEventTypeOf r ≠ .ok .unsupported := by
  obtain ⟨-, -, -, -, -, -, hunsigned, -⟩ := readRoomEnvelope_iff.mp h
  rw [Envelope.NamesRedaction, unsignedMember]
  rw [Json.optional] at hunsigned
  obtain hu | ⟨u, hu⟩ := Option.eq_none_or_eq_some (e.find? "unsigned")
  · rw [hu] at hunsigned ⊢
    rw [← Except.ok.inj hunsigned]
    refine iff_of_true (fun r hr ↦ ?_) fun r hr ↦ ?_ <;> cases hr
  · rw [hu] at hunsigned ⊢
    obtain ⟨-, hbecause⟩ := unsigned_of_read hunsigned
    rw [Option.bind_some]
    rw [Json.optional] at hbecause
    obtain hv | ⟨v, hv⟩ := Option.eq_none_or_eq_some (u.find? "redacted_because")
    · rw [hv] at hbecause ⊢
      rw [← Except.ok.inj hbecause]
      refine iff_of_true (fun r hr ↦ ?_) fun r hr ↦ ?_ <;> cases hr
    · rw [hv] at hbecause ⊢
      obtain ⟨r, hr, hsome⟩ := map_eq_ok_iff.mp hbecause
      rw [← hsome]
      rw [Event.fromJson] at hr
      obtain ⟨content, -, hr⟩ := bind_eq_ok_iff.mp hr
      obtain ⟨⟨type, typeName', sender⟩, henv, hr⟩ := bind_eq_ok_iff.mp hr
      rw [← Except.ok.inj hr]
      simp only [Option.some.injEq, forall_eq']
      rw [getEventTypeOf_of_readEnvelope henv, ne_eq, ne_eq, Except.ok.injEq]

end

/-! ## The alternative of an event that was written -/

section

variable {C : Type} [EventContent C] {ev : RoomEvent C} (h : ev.Written j)

include h

theorem getEventTypeOf_written : getEventTypeOf j = getEventType (writtenType ev.toEvent) := by
  have hfind : j.find? "type" = some (.string (writtenType ev.toEvent)) := by
    rw [h.find? _ (by simp) (by simp)]
    simp [RoomEvent.members, Event.members, writtenType]
  rw [getEventTypeOf, hfind]
  dsimp only
  rw [Json.getString_string, ok_bind]

theorem atKey_content_written : j.atKey "content" = .ok (EventContent.toJson ev.content) := by
  refine Json.atKey_of_find? ?_
  rw [h.find? _ (by simp) (by simp)]
  simp [RoomEvent.members, Event.members]

theorem isRedacted_written : isRedacted j = true ↔ ev.unsigned_data.redacted_by ≠ [] := by
  have hfind : j.find? "unsigned" = some ev.unsigned_data.toJson := by
    rw [h.find? _ (by simp) (by simp)]
    simp [RoomEvent.members]
  rw [isRedacted, hfind]
  dsimp only
  rw [Json.contains, UnsignedData.find?_toJson, if_neg (by simp)]
  by_cases hby : ev.unsigned_data.redacted_by = []
  · simp [hby]
  · simp [hby]

/-- An event that was written is redacted if it names who redacted it. -/
theorem timelineAlternative_redacted (hby : ev.unsigned_data.redacted_by ≠ []) :
    timelineAlternative j = (fun _ ↦ some (if j.contains "state_key" then .state .redacted
      else .room .redacted)) <$> getEventType (writtenType ev.toEvent) := by
  rw [timelineAlternative, getEventTypeOf_written h]
  rcases getEventType (writtenType ev.toEvent) with err | type
  · rfl
  · rw [ok_bind, if_pos ((isRedacted_written h).mpr hby)]
    rfl

/-- Otherwise its type decides, and for a message the content that was written. -/
theorem timelineAlternative_not_redacted (hby : ev.unsigned_data.redacted_by = []) :
    timelineAlternative j = (fun type ↦ if type = .roomMessage
      then messageAlternative (getMessageTypeOf (EventContent.toJson ev.content))
      else typeAlternative type) <$> getEventType (writtenType ev.toEvent) := by
  rw [timelineAlternative, getEventTypeOf_written h]
  rcases getEventType (writtenType ev.toEvent) with err | type
  · rfl
  · rw [ok_bind, if_neg (by rw [isRedacted_written h]; exact not_not.mpr hby),
      atKey_content_written h]
    by_cases htype : type = .roomMessage
    · rw [if_pos htype]
      show _ = Except.ok (if type = .roomMessage then _ else _)
      rw [if_pos htype]
      rfl
    · rw [if_neg htype]
      show _ = Except.ok (if type = .roomMessage then _ else _)
      rw [if_neg htype]
      rfl

end

/-! ## The alternative of the event that was received -/

theorem messageAlternative_ne_redacted (type : MessageType) :
    messageAlternative type ≠ some (.state .redacted) ∧
      messageAlternative type ≠ some (.room .redacted) := by
  cases type <;> exact ⟨by decide, by decide⟩

theorem typeAlternative_ne_redacted (type : EventType) :
    typeAlternative type ≠ some (.state .redacted) ∧
      typeAlternative type ≠ some (.room .redacted) := by
  cases type <;> exact ⟨by decide, by decide⟩

/-- How the alternative of an event was chosen. -/
theorem timelineAlternative_eq_ok_iff {a : Alternative} :
    timelineAlternative e = .ok (some a) ↔ ∃ type, getEventTypeOf e = .ok type ∧
      (isRedacted e = true →
        a = if e.contains "state_key" then .state .redacted else .room .redacted) ∧
      (isRedacted e = false →
        if type = .roomMessage then ∃ content, e.find? "content" = some content ∧
          messageAlternative (getMessageTypeOf content) = some a
        else typeAlternative type = some a) := by
  rw [timelineAlternative]
  rcases getEventTypeOf e with err | type
  · refine iff_of_false (fun h ↦ ?_) ?_
    · cases h
    · rintro ⟨type, htype, -⟩
      cases htype
  · simp only [ok_bind, Except.ok.injEq, exists_eq_left']
    by_cases hredacted : isRedacted e = true
    · rw [if_pos hredacted]
      show Except.ok (some _) = Except.ok (some a) ↔ _
      rw [Except.ok.injEq, Option.some.injEq, eq_comm]
      simp [hredacted]
    · rw [if_neg hredacted]
      by_cases htype : type = .roomMessage
      · rw [if_pos htype]
        simp [hredacted, htype, bind_eq_ok_iff, Json.atKey_eq_ok_iff, pure, Except.pure]
      · rw [if_neg htype]
        simp [hredacted, htype, pure, Except.pure]

/-! ## What is read again -/

/-- An event persists if what is written chooses its alternative and is read with its envelope. -/
theorem persists_iff_read {x : TimelineEvents json} {a : Alternative} (ha : x.alternative = a) :
    Persists json x ↔ ∃ j, TimelineEvents.toJson json x = .ok j ∧
      timelineAlternative j = .ok (some a) ∧
      ∃ x', readAlternative json j a = .ok x' ∧ x'.envelope = x.envelope := by
  rw [Persists]
  refine exists_congr fun j ↦ and_congr_right fun _ ↦ ?_
  constructor
  · intro hread
    obtain ⟨x', hx', halternative, henv⟩ := hread []
    obtain ⟨a', ha', hread'⟩ := (parseTimelineEvent_eq_some_iff json).mp
      (parseEvents_singleton_iff.mp hx')
    obtain rfl : a' = a := by
      rw [← ha, ← halternative, alternative_of_read json hread']
    exact ⟨ha', x', hread', henv⟩
  · rintro ⟨ha', x', hread, henv⟩ container
    refine ⟨x', parseEvents_singleton_iff.mpr
      ((parseTimelineEvent_eq_some_iff json).mpr ⟨a, ha', hread⟩), ?_, henv⟩
    rw [alternative_of_read json hread, ha]

theorem persists_state_iff {k : StateKind} {ev : StateEvent k.Content}
    (hread : StateEvent.fromJson k.Content e = .ok ev) :
    Persists json (.state k ev) ↔ timelineAlternative ev.toJson = .ok (some (.state k)) ∧
      ev.type ≠ .unsupported ∧ ev.envelope.NamesRedaction := by
  have hroom := (StateEvent.fromJson_eq_ok_iff.mp hread).1
  have hrereads := (StateEvent.rereads_iff hread).trans
    (RoomEvent.rereads_iff k.ownType hroom ev.written_toJson)
  rw [and_iff_right ⟨_, k.contentFrom_toJson ev.content⟩] at hrereads
  rw [persists_iff_read (a := .state k) rfl]
  constructor
  · rintro ⟨j, hj, ha, x', hx', henv⟩
    obtain rfl := Except.ok.inj hj
    obtain ⟨ev', hev', rfl⟩ := map_eq_ok_iff.mp hx'
    exact ⟨ha, hrereads.mp ⟨ev', hev', henv⟩⟩
  · rintro ⟨ha, hnames⟩
    obtain ⟨ev', hev', henv⟩ := hrereads.mpr hnames
    exact ⟨ev.toJson, rfl, ha, .state k ev', map_eq_ok_iff.mpr ⟨ev', hev', rfl⟩, henv⟩

theorem persists_redaction_iff {ev : RedactionEvent Redaction}
    (hread : RedactionEvent.fromJson Redaction e = .ok ev) :
    Persists json (.redaction ev) ↔ timelineAlternative ev.toJson = .ok (some .redaction) ∧
      ev.type ≠ .unsupported ∧ ev.envelope.NamesRedaction := by
  have hroom := (RedactionEvent.fromJson_eq_ok_iff.mp hread).1
  have hcontent : Succeeds (contentFrom Redaction (EventContent.toJson ev.content)) :=
    succeeds_contentFrom (by simp [EventContent.toJson, Redaction.toJson])
      ⟨ev.content, by simp [EventContent.fromJson, EventContent.toJson, Redaction.fromJson,
        Redaction.toJson]⟩
  have hrereads := (RedactionEvent.rereads_iff ev).trans
    (RoomEvent.rereads_iff (fun _ ↦ rfl) hroom ev.written_toJson)
  rw [and_iff_right hcontent] at hrereads
  rw [persists_iff_read (a := .redaction) rfl]
  constructor
  · rintro ⟨j, hj, ha, x', hx', henv⟩
    obtain rfl := Except.ok.inj hj
    obtain ⟨ev', hev', rfl⟩ := map_eq_ok_iff.mp hx'
    exact ⟨ha, hrereads.mp ⟨ev', hev', henv⟩⟩
  · rintro ⟨ha, hnames⟩
    obtain ⟨ev', hev', henv⟩ := hrereads.mpr hnames
    exact ⟨ev.toJson, rfl, ha, .redaction ev', map_eq_ok_iff.mpr ⟨ev', hev', rfl⟩, henv⟩

/-- A room event persists if its content can be written at all. -/
theorem persists_room_iff {k : RoomKind} {ev : RoomEvent (k.Content json)} :
    Persists json (.room k ev) ↔ Succeeds (k.write json ev.content) ∧
      timelineAlternative ev.toJson = .ok (some (.room k)) ∧
      ∃ ev', RoomEvent.fromJson (k.Content json) ev.toJson = .ok ev' ∧
        ev'.envelope = ev.envelope := by
  rw [persists_iff_read (a := .room k) rfl]
  constructor
  · rintro ⟨j, hj, ha, x', hx', henv⟩
    obtain ⟨c, hc, hj⟩ := bind_eq_ok_iff.mp hj
    obtain rfl := Except.ok.inj hj
    obtain ⟨ev', hev', rfl⟩ := map_eq_ok_iff.mp hx'
    exact ⟨⟨c, hc⟩, ha, ev', hev', henv⟩
  · rintro ⟨⟨c, hc⟩, ha, ev', hev', henv⟩
    refine ⟨ev.toJson, ?_, ha, .room k ev', map_eq_ok_iff.mpr ⟨ev', hev', rfl⟩, henv⟩
    rw [TimelineEvents.toJson, hc]
    rfl

theorem persists_named_iff {k : RoomKind} (hk : k ≠ .unknown) {ev : RoomEvent (k.Content json)}
    (hread : RoomEvent.fromJson (k.Content json) e = .ok ev) :
    Persists json (.room k ev) ↔
      (∃ c, k.write json ev.content = .ok c ∧ Succeeds (contentFrom (k.Content json) c)) ∧
        timelineAlternative ev.toJson = .ok (some (.room k)) ∧ ev.type ≠ .unsupported ∧
        ev.envelope.NamesRedaction := by
  rw [persists_room_iff, RoomEvent.rereads_iff (RoomKind.ownType hk) hread ev.written_toJson]
  constructor
  · rintro ⟨⟨c, hc⟩, ha, hcontent, hnames⟩
    rw [RoomKind.toJson_of_write json hc] at hcontent
    exact ⟨⟨c, hc, hcontent⟩, ha, hnames⟩
  · rintro ⟨⟨c, hc, hcontent⟩, ha, hnames⟩
    refine ⟨⟨c, hc⟩, ha, ?_, hnames⟩
    rwa [RoomKind.toJson_of_write json hc]

theorem persists_unknown_iff {ev : RoomEvent (Unknown json)}
    (hread : RoomEvent.fromJson (Unknown json) e = .ok ev) :
    Persists json (.room .unknown ev) ↔
      Succeeds (contentFrom (Unknown json) (Unknown.toJson ev.content)) ∧
        timelineAlternative ev.toJson = .ok (some (.room .unknown)) ∧
        ev.envelope.NamesRedaction := by
  obtain ⟨-, hrereads⟩ := Unknown.of_read hread ev.written_toJson
  rw [persists_room_iff, hrereads]
  exact (and_iff_right (succeeds_ok _)).trans and_left_comm

/-! ## Messages -/

theorem getMessageTypeOf_of_find? {content : Json} {s : Str}
    (h : content.find? "msgtype" = some (.string s)) :
    getMessageTypeOf content = getMessageType s := by
  have hobj := Json.isObject_of_find? h
  rw [getMessageTypeOf, h]
  rcases content with - | b | i | u | f | s | xs | ms
  case object => rfl
  all_goals cases hobj

/-- A content that chooses a kind of message is an object. -/
theorem isObject_of_messageAlternative {content : Json} {k : RoomKind} (hk : k ≠ .unknown)
    (ha : messageAlternative (getMessageTypeOf content) = some (.room k)) :
    content.isObject = true := by
  rw [getMessageTypeOf] at ha
  split_ifs at ha with hnull
  · exact absurd (Alternative.room.inj (Option.some.inj ha)).symm hk
  · obtain hm | ⟨v, hm⟩ := Option.eq_none_or_eq_some (content.find? "msgtype")
    · rw [hm] at ha
      cases ha
    · exact Json.isObject_of_find? hm

theorem RoomKind.setType {k : RoomKind} (hk : k ≠ .unknown) (typeName : Str)
    (c : k.Content json) : EventContent.setType typeName c = c := by
  cases k
  case unknown => exact absurd rfl hk
  all_goals rfl

/-- The content of a message can be written, chooses the same kind, and is read again. -/
def Rewrites (k : RoomKind) (c : k.Content json) : Prop :=
  ∃ j, k.write json c = .ok j ∧ messageAlternative (getMessageTypeOf j) = some (.room k) ∧
    Succeeds (contentFrom (k.Content json) j)

/-- Most messages are written with the `msgtype` of their kind. -/
theorem rewrites_of_msgtype {k : RoomKind} {s : Str} (hk : k.msgtype = some s)
    (ha : messageAlternative (getMessageType s) = some (.room k)) (c : k.Content json) :
    Rewrites k c := by
  have hunknown : k ≠ .unknown := by
    rintro rfl
    cases hk
  have hmessage : k ≠ .unknownMessage := by
    rintro rfl
    cases hk
  obtain ⟨j, hj⟩ := RoomKind.rereads hunknown hmessage c
  refine ⟨j, hj.written, ?_, hj.read⟩
  rw [getMessageTypeOf_of_find? (hj.msgtype s hk), ha]

/-- An effect is written with the `msgtype` that was read. -/
theorem rewrites_elementEffect_iff {r : Json} {c : Msg.ElementEffect}
    (hread : EventContent.fromJson r = .ok c) :
    @Rewrites json .elementEffect c ↔ getMessageTypeOf r = .elementEffect := by
  obtain ⟨formatted, hformatted, rfl⟩ := map_eq_ok_iff.mp hread
  have hmsgtype : r.find? "msgtype" = some (.string formatted.msgtype) := by
    rw [Msg.Formatted.fromJson] at hformatted
    simp only [bind_eq_ok_iff, Json.atKey_eq_ok_iff, Json.getString_eq_ok_iff] at hformatted
    obtain ⟨_, -, body, rfl, _, hm, msgtype, rfl, format, -, formatted_body, -, rels, -, mentions,
      -, h⟩ := hformatted
    rw [← Except.ok.inj h]
    exact hm
  obtain ⟨j, hj, hwritten, hcontent⟩ := Msg.ElementEffect.rereads (.mk formatted)
  have hiff : messageAlternative (getMessageType formatted.msgtype) =
      some (.room .elementEffect) ↔ getMessageType formatted.msgtype = .elementEffect := by
    generalize getMessageType formatted.msgtype = type
    cases type <;> decide
  rw [getMessageTypeOf_of_find? hmsgtype, ← hiff, ← getMessageTypeOf_of_find? hwritten]
  constructor
  · rintro ⟨j', hj', ha, -⟩
    obtain rfl := Except.ok.inj (hj.symm.trans hj')
    exact ha
  · exact fun ha ↦ ⟨j, hj, ha, hcontent⟩

/-- A request for a verification is written with a `msgtype` if it was read with one. -/
theorem rewrites_keyVerificationRequest_iff {r : Json} {c : Msg.KeyVerificationRequest}
    (hread : EventContent.fromJson r = .ok c) :
    @Rewrites json .keyVerificationRequest c ↔ r.contains "msgtype" = true := by
  have hmsgtype : r.contains "msgtype" = c.msgtype.isSome := by
    replace hread : Msg.KeyVerificationRequest.fromJson r = .ok c := hread
    simp only [Msg.KeyVerificationRequest.fromJson, bind_eq_ok_iff] at hread
    obtain ⟨body, -, _, -, from_device, -, _, -, methods, -, timestamp, -, msgtype, hm, «to», -,
      transaction_id, -, h⟩ := hread
    rw [← Except.ok.inj h]
    rw [Msg.optionalString, Json.optional] at hm
    rw [Json.contains]
    obtain hv | ⟨v, hv⟩ := Option.eq_none_or_eq_some (r.find? "msgtype")
    · rw [hv] at hm ⊢
      rw [← Except.ok.inj hm]
      rfl
    · rw [hv] at hm ⊢
      obtain ⟨s, -, hsome⟩ := map_eq_ok_iff.mp hm
      rw [← hsome]
      rfl
  have hobj : c.toJson.isObject = true := Json.isObject_of_find? (k := "from_device")
    (v := .string c.from_device) (by simp [Msg.KeyVerificationRequest.toJson,
      Msg.KeyVerificationRequest.members])
  have hfind : c.toJson.find? "msgtype" =
      if c.msgtype.isSome then some (.string "m.key.verification.request") else none := by
    rcases h : c.msgtype with - | s
    · simp [Msg.KeyVerificationRequest.toJson, Msg.KeyVerificationRequest.members, h]
    · simp [Msg.KeyVerificationRequest.toJson, Msg.KeyVerificationRequest.members, h]
  rw [hmsgtype]
  constructor
  · rintro ⟨j, hj, ha, -⟩
    obtain rfl := Except.ok.inj hj
    by_contra hnone
    rw [if_neg hnone] at hfind
    -- without a `msgtype` it is invalid
    have hinvalid : getMessageTypeOf c.toJson = .invalid := by
      rw [getMessageTypeOf, hfind]
      generalize c.toJson = j at hobj
      rcases j with - | b | i | u | f | s | xs | ms
      case object => rfl
      all_goals cases hobj
    rw [hinvalid] at ha
    cases ha
  · intro hsome
    rw [if_pos hsome] at hfind
    refine ⟨c.toJson, rfl, ?_, Msg.KeyVerificationRequest.rereads c⟩
    rw [getMessageTypeOf_of_find? hfind]
    rfl

/-- A message of an unknown type is written over its content. -/
theorem rewrites_unknownMessage_iff {r : Json} {u : Msg.Unknown json}
    (hread : Msg.Unknown.fromJson json r = .ok u) (hsorted : r.sorted = true)
    (hempty : ∀ j, json.parse [] ≠ .ok j) (hrestores : json.Restores r) :
    Rewrites .unknownMessage u ↔ getMessageTypeOf r = .unknown ∧
      ∀ rels, parseRelations r = .ok rels → Rewritable r rels.slots := by
  obtain ⟨-, -, -, hmsgtype, hrels, -⟩ := Msg.Unknown.fromJson_eq_ok_iff.mp hread
  have hiff : messageAlternative (getMessageType u.msgtype) = some (.room .unknownMessage) ↔
      getMessageType u.msgtype = .unknown := by
    generalize getMessageType u.msgtype = type
    cases type <;> decide
  have hrewritable : (∀ rels, parseRelations r = .ok rels → Rewritable r rels.slots) ↔
      Rewritable r u.relations.slots := by
    simp [hrels]
  rw [hrewritable, ← stored_unknown_iff hread hsorted hempty hrestores,
    getMessageTypeOf_of_find? hmsgtype, ← hiff]
  constructor
  · rintro ⟨j, hj, ha, hcontent⟩
    rw [getMessageTypeOf_of_find? (find?_msgtype_of_toJson hread hempty hrestores hj)] at ha
    exact ⟨ha, j, hj, hcontent⟩
  · rintro ⟨ha, j, hj, hcontent⟩
    refine ⟨j, hj, ?_, hcontent⟩
    rw [getMessageTypeOf_of_find? (find?_msgtype_of_toJson hread hempty hrestores hj), ha]

/-- **A message that was read can be written and read again** as the condition on its content
says. -/
theorem rewrites_iff {content : Json} {k : RoomKind} {c : k.Content json} (hk : k ≠ .unknown)
    (ha : messageAlternative (getMessageTypeOf content) = some (.room k))
    (hread : contentFrom (k.Content json) content = .ok c) (hsorted : content.sorted = true)
    (hempty : ∀ j, json.parse [] ≠ .ok j)
    (hrestores : ∀ r, effectiveContent content = .ok r → json.Restores r) :
    Rewrites k c ↔ MessagePersists content := by
  have hencrypted : EventContent.isEncrypted (k.Content json) = false := by
    cases k
    case encrypted =>
      generalize getMessageTypeOf content = type at ha
      cases type <;> cases ha
    all_goals rfl
  rw [contentFrom_eq hencrypted (isObject_of_messageAlternative hk ha)] at hread
  obtain ⟨r, hr, hread⟩ := bind_eq_ok_iff.mp hread
  rw [MessagePersists]
  simp only [hr, Except.ok.injEq, forall_eq']
  generalize getMessageTypeOf content = type at ha ⊢
  cases type <;> cases ha
  case elementEffect => exact rewrites_elementEffect_iff hread
  case keyVerificationRequest => exact rewrites_keyVerificationRequest_iff hread
  case unknown =>
    exact rewrites_unknownMessage_iff hread (sorted_effectiveContent hsorted hr) hempty
      (hrestores r hr)
  case redacted => exact absurd rfl hk
  all_goals exact iff_of_true (rewrites_of_msgtype rfl rfl c) trivial

/-! ## The events that persist -/

section

variable {typeName : Str} {env : Envelope} (henv : readRoomEnvelope e = .ok (typeName, env))

include henv

theorem persistable_iff_of_redacted (hredacted : isRedacted e = true) : Persistable e ↔
    env.type ≠ .unsupported ∧ env.unsigned_data.redacted_by ≠ [] ∧ env.NamesRedaction := by
  have htype := getEventTypeOf_of_readEnvelope (readRoomEnvelope_iff.mp henv).1
  have hby : env.unsigned_data.redacted_by ≠ [] ↔
      unsignedMember e "redacted_by" ≠ some (.string "") :=
    not_congr ((redacted_by_eq_nil_iff henv).trans (or_iff_right (by simp [hredacted])))
  rw [namesRedaction_iff henv, hby]
  constructor
  · intro h
    refine ⟨fun hunsupported ↦ h.type hredacted ?_, h.redacted_by, h.redacted_because⟩
    rw [htype, hunsupported]
  · rintro ⟨hunsupported, hby, hbecause⟩
    refine ⟨fun _ h ↦ ?_, hby, hbecause, fun h ↦ ?_⟩
    · rw [htype] at h
      exact hunsupported (Except.ok.inj h)
    · rw [hredacted] at h
      cases h

theorem persistable_iff_of_not_redacted (hredacted : isRedacted e = false) : Persistable e ↔
    env.NamesRedaction ∧
      ∀ content, e.find? "content" = some content → ContentPersists content env.type := by
  have htype := getEventTypeOf_of_readEnvelope (readRoomEnvelope_iff.mp henv).1
  have hby : unsignedMember e "redacted_by" = none := by
    rw [isRedacted_eq] at hredacted
    simpa using hredacted
  rw [namesRedaction_iff henv]
  constructor
  · exact fun h ↦ ⟨h.redacted_because, fun content ↦ h.content hredacted _ content htype⟩
  · rintro ⟨hbecause, hcontent⟩
    refine ⟨fun h ↦ ?_, ?_, hbecause, fun _ type content htype' ↦ ?_⟩
    · rw [hredacted] at h
      cases h
    · rw [hby]
      exact nofun
    · obtain rfl := Except.ok.inj (htype.symm.trans htype')
      exact hcontent content

end

variable {x : TimelineEvents json}

theorem typeAlternative_unknown_iff {type : EventType} :
    typeAlternative type = some (.room .unknown) ↔ type = .unsupported := by
  cases type <;> decide

theorem typeAlternative_ne_message {type : EventType} {k : RoomKind}
    (h : typeAlternative type = some (.room k)) : k ≠ .unknownMessage := by
  rintro rfl
  cases type <;> cases h

/-- Only the contents of messages and of events of unknown type can be lost. -/
theorem contentPersists_of_known {type : EventType} (hmessage : type ≠ .roomMessage)
    (hunsupported : type ≠ .unsupported) (content : Json) : ContentPersists content type := by
  cases type
  case roomMessage => exact absurd rfl hmessage
  case unsupported => exact absurd rfl hunsupported
  all_goals trivial

/-- The alternative that is chosen for an event that was written, if its type has a name. -/
theorem timelineAlternative_written_iff {C : Type} [EventContent C] {ev : RoomEvent C}
    (h : ev.Written j) (hnamed : ev.toEvent.Named) {a : Alternative} :
    timelineAlternative j = .ok (some a) ↔
      if ev.unsigned_data.redacted_by = [] then
        if ev.type = .roomMessage then
          messageAlternative (getMessageTypeOf (EventContent.toJson ev.content)) = some a
        else typeAlternative ev.type = some a
      else (if j.contains "state_key" then .state .redacted else .room .redacted) = a := by
  rw [Event.Named] at hnamed
  by_cases hby : ev.unsigned_data.redacted_by = []
  · rw [timelineAlternative_not_redacted h hby, hnamed, if_pos hby]
    show Except.ok (if ev.type = .roomMessage then _ else _) = _ ↔ _
    rw [Except.ok.injEq]
    split_ifs <;> rfl
  · rw [timelineAlternative_redacted h hby, hnamed, if_neg hby]
    show Except.ok (some _) = _ ↔ _
    rw [Except.ok.injEq, Option.some.injEq]

/-- A redacted event is one again if it names who redacted it. -/
theorem timelineAlternative_redacted_iff {C : Type} [EventContent C] {ev : RoomEvent C}
    (h : ev.Written j) (hnamed : ev.toEvent.Named) :
    timelineAlternative j =
        .ok (some (if j.contains "state_key" then .state .redacted else .room .redacted)) ↔
      ev.unsigned_data.redacted_by ≠ [] := by
  rw [timelineAlternative_written_iff h hnamed]
  by_cases hby : ev.unsigned_data.redacted_by = []
  · rw [if_pos hby]
    refine iff_of_false ?_ (not_not.mpr hby)
    split_ifs
    · exact (messageAlternative_ne_redacted _).1
    · exact (messageAlternative_ne_redacted _).2
    · exact (typeAlternative_ne_redacted _).1
    · exact (typeAlternative_ne_redacted _).2
  · rw [if_neg hby]
    exact iff_of_true rfl hby

theorem contains_state_key_toJson {C : Type} [EventContent C] (ev : StateEvent C) :
    ev.toJson.contains "state_key" = true := by
  rw [Json.contains, StateEvent.toJson, Json.find?_ofMembers, SortedMap.find?_insert, if_pos rfl]
  rfl

theorem not_contains_state_key_toJson {C : Type} [EventContent C] (ev : RoomEvent C) :
    ev.toJson.contains "state_key" = false := by
  rw [Json.contains, RoomEvent.toJson, Json.find?_ofMembers]
  simp [RoomEvent.members, Event.members]

/-- A redacted event persists as the condition says. -/
theorem persists_iff_of_redacted {a : Alternative} (hredacted : isRedacted e = true)
    (ha : timelineAlternative e = .ok (some a)) (hx : readAlternative json e a = .ok x) :
    Persists json x ↔ Persistable e := by
  obtain ⟨-, -, ha, -⟩ := timelineAlternative_eq_ok_iff.mp ha
  obtain rfl := ha hredacted
  by_cases hkey : e.contains "state_key" = true
  · rw [if_pos hkey] at hx
    obtain ⟨ev, hev, rfl⟩ := map_eq_ok_iff.mp hx
    obtain ⟨_, _, -, henv, -⟩ := RoomEvent.of_read (StateEvent.fromJson_eq_ok_iff.mp hev).1
    rw [persists_state_iff hev, persistable_iff_of_redacted henv hredacted, and_left_comm]
    refine and_congr_right fun htype ↦ and_congr_left fun _ ↦ ?_
    have hagain := timelineAlternative_redacted_iff ev.written_toJson
      ((Event.named_iff rfl).mpr htype)
    rw [contains_state_key_toJson] at hagain
    exact hagain
  · rw [if_neg hkey] at hx
    obtain ⟨ev, hev, rfl⟩ := map_eq_ok_iff.mp hx
    obtain ⟨_, _, -, henv, -⟩ := RoomEvent.of_read hev
    obtain ⟨c, hc⟩ := RoomKind.rereads (by decide) (by decide) ev.content
    rw [persists_named_iff (by decide) hev, and_iff_right ⟨c, hc.written, hc.read⟩,
      persistable_iff_of_redacted henv hredacted, and_left_comm]
    refine and_congr_right fun htype ↦ and_congr_left fun _ ↦ ?_
    have hagain := timelineAlternative_redacted_iff ev.written_toJson
      ((Event.named_iff rfl).mpr htype)
    rw [not_contains_state_key_toJson] at hagain
    exact hagain

/-- Of an event that is not redacted the alternative is chosen again by its type and content. -/
theorem timelineAlternative_type_iff {C : Type} [EventContent C] {ev : RoomEvent C}
    (h : ev.Written j) (hnamed : ev.toEvent.Named) (hby : ev.unsigned_data.redacted_by = [])
    (htype : ev.type ≠ .roomMessage) {a : Alternative} :
    timelineAlternative j = .ok (some a) ↔ typeAlternative ev.type = some a := by
  rw [timelineAlternative_written_iff h hnamed, if_pos hby, if_neg htype]

theorem timelineAlternative_message_iff {C : Type} [EventContent C] {ev : RoomEvent C}
    (h : ev.Written j) (hnamed : ev.toEvent.Named) (hby : ev.unsigned_data.redacted_by = [])
    (htype : ev.type = .roomMessage) {a : Alternative} :
    timelineAlternative j = .ok (some a) ↔
      messageAlternative (getMessageTypeOf (EventContent.toJson ev.content)) = some a := by
  rw [timelineAlternative_written_iff h hnamed, if_pos hby, if_pos htype]

theorem messageAlternative_eq_room {type : MessageType} {a : Alternative}
    (h : messageAlternative type = some a) : ∃ k, a = .room k := by
  cases type <;> cases h
  all_goals exact ⟨_, rfl⟩

theorem messageAlternative_unknown_iff {type : MessageType} :
    messageAlternative type = some (.room .unknown) ↔ type = .redacted := by
  cases type <;> decide

/-- Only a content that is `null` is that of a redacted message. -/
theorem getMessageTypeOf_eq_redacted_iff {content : Json} :
    getMessageTypeOf content = .redacted ↔ content = .null := by
  constructor
  · intro h
    rw [getMessageTypeOf] at h
    split_ifs at h with hnull
    · rcases content with - | b | i | u | f | s | xs | ms
      case null => rfl
      all_goals cases hnull
    · obtain hm | ⟨v, hm⟩ := Option.eq_none_or_eq_some (content.find? "msgtype")
      · rw [hm] at h
        cases h
      · rw [hm] at h
        cases v
        case string s =>
          dsimp only at h
          rw [getMessageType] at h
          rcases hfind : messageTypeNames.find? fun e ↦ lit e.1 == s with - | ⟨name, type⟩
          · rw [hfind] at h
            cases h
          · rw [hfind] at h
            have hmem := List.mem_of_find?_eq_some hfind
            obtain rfl : type = .redacted := h
            have hnamed : MessageType.redacted ∈ messageTypeNames.map Prod.snd :=
              List.mem_map_of_mem hmem
            exact absurd hnamed (by decide)
        all_goals cases h
  · rintro rfl
    rfl

/-- The content that an event was read with. -/
theorem content_of_read {C : Type} [EventContent C] {ev : RoomEvent C}
    (hread : RoomEvent.fromJson C e = .ok ev) : ∃ content c typeName,
      e.find? "content" = some content ∧ contentFrom C content = .ok c ∧
        ev.content = EventContent.setType typeName c := by
  obtain ⟨c, typeName, hcontent, -, hev⟩ := RoomEvent.of_read hread
  rw [readContent_eq] at hcontent
  obtain ⟨content, hfind, hcontent⟩ := bind_eq_ok_iff.mp hcontent
  exact ⟨content, c, typeName, Json.atKey_eq_ok_iff.mp hfind, hcontent, hev⟩

section

variable (hredacted : isRedacted e = false)

include hredacted

/-- The type of an event of a known type chooses its alternative again. -/
theorem alternative_again {C : Type} [EventContent C] {ev : RoomEvent C} (h : ev.Written j)
    (hread : RoomEvent.fromJson C e = .ok ev) (hnamed : ev.toEvent.Named)
    (htype : ev.type ≠ .roomMessage) {a : Alternative} :
    timelineAlternative j = .ok (some a) ↔ typeAlternative ev.type = some a := by
  obtain ⟨_, _, -, henv, -⟩ := RoomEvent.of_read hread
  have hby : ev.unsigned_data.redacted_by = [] :=
    (redacted_by_eq_nil_iff henv).mpr (Or.inl hredacted)
  exact timelineAlternative_type_iff h hnamed hby htype

/-- An event that is not redacted was chosen by its type, unless it is a message. -/
theorem chosen_of_not_redacted {a : Alternative} {type : EventType}
    (ha : timelineAlternative e = .ok (some a)) (htype : getEventTypeOf e = .ok type) :
    (type = .roomMessage ∧ ∃ content, e.find? "content" = some content ∧
        messageAlternative (getMessageTypeOf content) = some a) ∨
      type ≠ .roomMessage ∧ typeAlternative type = some a := by
  obtain ⟨type', htype', -, ha⟩ := timelineAlternative_eq_ok_iff.mp ha
  obtain rfl := Except.ok.inj (htype.symm.trans htype')
  have ha := ha hredacted
  split_ifs at ha with hmessage
  · exact Or.inl ⟨hmessage, ha⟩
  · exact Or.inr ⟨hmessage, ha⟩

end

/-- An event that is neither a message nor of unknown type persists unless the type in what explains
a redaction has no name. -/
theorem persistable_of_known {typeName : Str} {env : Envelope}
    (henv : readRoomEnvelope e = .ok (typeName, env)) (hredacted : isRedacted e = false)
    (hmessage : env.type ≠ .roomMessage) (hunsupported : env.type ≠ .unsupported) :
    Persistable e ↔ env.NamesRedaction := by
  rw [persistable_iff_of_not_redacted henv hredacted]
  exact and_iff_left fun content _ ↦ contentPersists_of_known hmessage hunsupported content

/-- An event that is no message is known by its type, which is written again. -/
theorem known_of_type {type : EventType} {a : Alternative} (h : typeAlternative type = some a)
    (ha : a ≠ .room .unknown) : type ≠ .roomMessage ∧ type ≠ .unsupported := by
  constructor
  · rintro rfl
    cases h
  · rintro rfl
    exact ha (Option.some.inj h).symm

/-- A state event. -/
theorem persists_iff_of_state {k : StateKind} {ev : StateEvent k.Content}
    (hredacted : isRedacted e = false) (ha : timelineAlternative e = .ok (some (.state k)))
    (hev : StateEvent.fromJson k.Content e = .ok ev) :
    Persists json (.state k ev) ↔ Persistable e := by
  have hroom := (StateEvent.fromJson_eq_ok_iff.mp hev).1
  obtain ⟨_, _, -, henv, -⟩ := RoomEvent.of_read hroom
  have htype := getEventTypeOf_of_readEnvelope (readRoomEnvelope_iff.mp henv).1
  have hchosen : typeAlternative ev.type = some (.state k) := by
    rcases chosen_of_not_redacted hredacted ha htype with ⟨-, _, -, h⟩ | ⟨-, h⟩
    · obtain ⟨k', hk'⟩ := messageAlternative_eq_room h
      cases hk'
    · exact h
  obtain ⟨hmessage, hunsupported⟩ := known_of_type hchosen nofun
  have hagain := (alternative_again hredacted ev.written_toJson hroom
    ((Event.named_iff (k.ownType _)).mpr hunsupported) hmessage).mpr hchosen
  rw [persists_state_iff hev, and_iff_right hagain, and_iff_right hunsupported,
    persistable_of_known henv hredacted hmessage hunsupported]
  rfl

/-- A redaction. -/
theorem persists_iff_of_redaction {ev : RedactionEvent Redaction}
    (hredacted : isRedacted e = false) (ha : timelineAlternative e = .ok (some .redaction))
    (hev : RedactionEvent.fromJson Redaction e = .ok ev) :
    Persists json (.redaction ev) ↔ Persistable e := by
  have hroom := (RedactionEvent.fromJson_eq_ok_iff.mp hev).1
  obtain ⟨_, _, -, henv, -⟩ := RoomEvent.of_read hroom
  have htype := getEventTypeOf_of_readEnvelope (readRoomEnvelope_iff.mp henv).1
  have hchosen : typeAlternative ev.type = some .redaction := by
    rcases chosen_of_not_redacted hredacted ha htype with ⟨-, _, -, h⟩ | ⟨-, h⟩
    · obtain ⟨k', hk'⟩ := messageAlternative_eq_room h
      cases hk'
    · exact h
  obtain ⟨hmessage, hunsupported⟩ := known_of_type hchosen nofun
  have hagain := (alternative_again hredacted ev.written_toJson hroom
    ((Event.named_iff rfl).mpr hunsupported) hmessage).mpr hchosen
  rw [persists_redaction_iff hev, and_iff_right hagain, and_iff_right hunsupported,
    persistable_of_known henv hredacted hmessage hunsupported]
  rfl

/-- What the two halves of storing a message have to do with each other. -/
theorem rewrites_iff_and {k : RoomKind} {c : k.Content json} : Rewrites k c ↔
    (∃ j, k.write json c = .ok j ∧ Succeeds (contentFrom (k.Content json) j)) ∧
      messageAlternative (getMessageTypeOf (EventContent.toJson c)) = some (.room k) := by
  constructor
  · rintro ⟨j, hj, ha, hcontent⟩
    rw [RoomKind.toJson_of_write json hj]
    exact ⟨⟨j, hj, hcontent⟩, ha⟩
  · rintro ⟨⟨j, hj, hcontent⟩, ha⟩
    rw [RoomKind.toJson_of_write json hj] at ha
    exact ⟨j, hj, ha, hcontent⟩

section

variable (hsorted : e.sorted = true) (hempty : ∀ j, json.parse [] ≠ .ok j)
  (hrestores : ∀ content r, e.find? "content" = some content →
    effectiveContent content = .ok r → json.Restores r)

include hsorted hempty hrestores

/-- A room event of a known type. -/
theorem persists_iff_of_room {k : RoomKind} (hk : k ≠ .unknown) {ev : RoomEvent (k.Content json)}
    (hredacted : isRedacted e = false) (ha : timelineAlternative e = .ok (some (.room k)))
    (hev : RoomEvent.fromJson (k.Content json) e = .ok ev) :
    Persists json (.room k ev) ↔ Persistable e := by
  obtain ⟨_, _, -, henv, -⟩ := RoomEvent.of_read hev
  have htype := getEventTypeOf_of_readEnvelope (readRoomEnvelope_iff.mp henv).1
  rw [persists_named_iff hk hev]
  rcases chosen_of_not_redacted hredacted ha htype with
    ⟨hmessage, content, hfind, hchosen⟩ | ⟨hmessage, hchosen⟩
  · obtain ⟨content', c, typeName, hfind', hread, hcontent⟩ := content_of_read hev
    obtain rfl := Option.some.inj (hfind.symm.trans hfind')
    rw [RoomKind.setType hk] at hcontent
    replace hmessage : ev.type = .roomMessage := hmessage
    have hunsupported : ev.type ≠ .unsupported := by
      rw [hmessage]
      decide
    have hby : ev.unsigned_data.redacted_by = [] :=
      (redacted_by_eq_nil_iff henv).mpr (Or.inl hredacted)
    rw [timelineAlternative_message_iff ev.written_toJson
        ((Event.named_iff (RoomKind.ownType hk _)).mpr hunsupported) hby hmessage,
      and_iff_right hunsupported, ← and_assoc, ← rewrites_iff_and, hcontent,
      rewrites_iff hk hchosen hread (Json.sorted_of_find? hsorted hfind) hempty
        fun r ↦ hrestores content r hfind,
      persistable_iff_of_not_redacted henv hredacted, and_comm]
    refine and_congr_right fun _ ↦ ?_
    show _ ↔ ∀ content, e.find? "content" = some content → ContentPersists content ev.type
    rw [hmessage, hfind]
    simp only [Option.some.injEq, forall_eq']
    rfl
  · obtain ⟨-, hunsupported⟩ :=
      known_of_type hchosen (fun h ↦ hk (Alternative.room.inj h))
    obtain ⟨j, hj⟩ := RoomKind.rereads hk (typeAlternative_ne_message hchosen) ev.content
    have hagain := (alternative_again hredacted ev.written_toJson hev
      ((Event.named_iff (RoomKind.ownType hk _)).mpr hunsupported) hmessage).mpr hchosen
    rw [and_iff_right ⟨j, hj.written, hj.read⟩, and_iff_right hagain,
      persistable_of_known henv hredacted hmessage hunsupported]
    exact and_iff_right hunsupported

/-- An event of unknown type, or a message without a content. -/
theorem persists_iff_of_unknown {ev : RoomEvent (Unknown json)}
    (hredacted : isRedacted e = false) (ha : timelineAlternative e = .ok (some (.room .unknown)))
    (hev : RoomEvent.fromJson (Unknown json) e = .ok ev) :
    Persists json (.room .unknown ev) ↔ Persistable e := by
  obtain ⟨_, _, -, henv, -⟩ := RoomEvent.of_read hev
  obtain ⟨content, c, typeName, hfind, hread, hcontent⟩ := content_of_read hev
  obtain ⟨hnamed, -⟩ := Unknown.of_read hev ev.written_toJson
  have htype := getEventTypeOf_of_readEnvelope (readRoomEnvelope_iff.mp henv).1
  have hby : ev.unsigned_data.redacted_by = [] :=
    (redacted_by_eq_nil_iff henv).mpr (Or.inl hredacted)
  have hrereads := Unknown.rereads_iff hread (Json.sorted_of_find? hsorted hfind) hempty
    (fun r ↦ hrestores content r hfind) typeName
  rw [persists_unknown_iff hev, hcontent, hrereads,
    persistable_iff_of_not_redacted henv hredacted]
  rcases chosen_of_not_redacted hredacted ha htype with
    ⟨hmessage, content', hfind', hchosen⟩ | ⟨hmessage, hchosen⟩
  · obtain rfl := Option.some.inj (hfind.symm.trans hfind')
    replace hmessage : ev.type = .roomMessage := hmessage
    -- the content is `null`
    obtain rfl := getMessageTypeOf_eq_redacted_iff.mp (messageAlternative_unknown_iff.mp hchosen)
    have hnull : EventContent.toJson ev.content = .null := by
      rw [hcontent]
      exact Unknown.toJson_of_not_object hread (by decide) hempty typeName
    rw [timelineAlternative_message_iff ev.written_toJson hnamed hby hmessage, hnull]
    show _ ↔ _ ∧ ∀ content, e.find? "content" = some content → ContentPersists content ev.type
    rw [hmessage, hfind]
    simp only [Option.some.injEq, forall_eq']
    have hcontent : ContentPersists .null .roomMessage := fun r _ ↦ trivial
    refine ⟨fun h ↦ ⟨h.2.2, hcontent⟩, fun h ↦ ⟨?_, rfl, h.1⟩⟩
    intro r n hr hn
    rw [← Except.ok.inj hr] at hn
    cases hn
  · have hunsupported : ev.type = .unsupported := typeAlternative_unknown_iff.mp hchosen
    rw [and_iff_right ((alternative_again hredacted ev.written_toJson hev hnamed hmessage).mpr
      hchosen), and_comm]
    refine and_congr_right fun _ ↦ ?_
    show _ ↔ ∀ content, e.find? "content" = some content → ContentPersists content ev.type
    rw [hunsupported, hfind]
    simp only [Option.some.injEq, forall_eq']
    rfl

end

/-- **The events of a timeline that persist**: what is read from one of them is read again as the
same alternative with the same envelope after it was written, and what is read from any other event
is not. -/
theorem persists_iff {container : List (TimelineEvents json)} (hsorted : e.sorted = true)
    (hempty : ∀ j, json.parse [] ≠ .ok j)
    (hrestores : ∀ content r, e.find? "content" = some content →
      effectiveContent content = .ok r → json.Restores r)
    (h : parseTimelineEvents json (.array [e]) container = .ok [x]) :
    Persists json x ↔ Persistable e := by
  obtain ⟨a, ha, hx⟩ := (parseTimelineEvent_eq_some_iff json).mp (parseEvents_singleton_iff.mp h)
  by_cases hredacted : isRedacted e = true
  · exact persists_iff_of_redacted hredacted ha hx
  · replace hredacted : isRedacted e = false := Bool.eq_false_iff.mpr hredacted
    rcases a with k | k | -
    · obtain ⟨ev, hev, rfl⟩ := map_eq_ok_iff.mp hx
      exact persists_iff_of_state hredacted ha hev
    · obtain ⟨ev, hev, rfl⟩ := map_eq_ok_iff.mp hx
      by_cases hk : k = .unknown
      · subst hk
        exact persists_iff_of_unknown hsorted hempty hrestores hredacted ha hev
      · exact persists_iff_of_room hsorted hempty hrestores hk hredacted ha hev
    · obtain ⟨ev, hev, rfl⟩ := map_eq_ok_iff.mp hx
      exact persists_iff_of_redaction hredacted ha hev

/-- The event of an unknown type in a timeline. -/
def customEvent : TimelineEvents (knownTexts [.object []]) :=
  .room .unknown {
    type := .unsupported, sender := "@alice:example.org"
    content := { content := (Json.object []).dumpText, type := "org.example.custom" }
    event_id := "$1", room_id := "", origin_server_ts := 1, unsigned_data := {} }

theorem persists_customEvent : Persists (knownTexts [.object []]) customEvent := by
  refine (@persists_iff _ customState _ [] (by decide) ?_ ?_ rfl).mpr ?_
  · intro j hj
    cases hj
  · intro content r hcontent hr
    obtain rfl := Option.some.inj hcontent
    obtain rfl := Except.ok.inj hr
    exact restores_knownTexts (.object [])
  · refine ⟨nofun, nofun, nofun, fun _ type content htype hcontent ↦ ?_⟩
    obtain rfl := Except.ok.inj htype
    obtain rfl := Option.some.inj hcontent
    intro r n hr hn
    rw [← Except.ok.inj hr] at hn
    cases hn

/-- An event of a type that the library does not know, after it was redacted. -/
def redactedCustom : Json := .object [
  (lit "content", .object []), (lit "event_id", .string "$1"),
  (lit "origin_server_ts", .numberUnsigned 1), (lit "sender", .string "@alice:example.org"),
  (lit "type", .string "org.example.custom"),
  (lit "unsigned", .object [(lit "redacted_by", .string "$2")])]

/-- **It is written with an empty type, and dropped when it is read again.** -/
theorem redactedCustom_lost : ∃ x, x.envelope.type = .unsupported ∧
    parseTimelineEvents (knownTexts []) (.array [redactedCustom]) [] = .ok [x] ∧
      ¬ Persists (knownTexts []) x := by
  let ev : RoomEvent Msg.Redacted := {
    type := .unsupported, sender := "@alice:example.org", content := {}
    event_id := "$1", room_id := "", origin_server_ts := 1
    unsigned_data := { redacted_by := "$2" } }
  refine ⟨.room .redacted ev, rfl, rfl, ?_⟩
  rintro ⟨j, hj, hread⟩
  obtain rfl := Except.ok.inj hj
  obtain ⟨x', hx', -⟩ := hread []
  have hdropped : parseTimelineEvents (knownTexts []) (.array [ev.toJson]) [] = .ok [] := rfl
  cases Except.ok.inj (hdropped.symm.trans hx')

end Mtx.Responses
