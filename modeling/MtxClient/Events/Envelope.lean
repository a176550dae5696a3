import MtxClient.Events.Rereading

/-!
# Envelopes

What an event has beside its content, how it is read (`readRoomEnvelope`) and what is read again of
an event that was written.

Most of an envelope is read again as it was.  What can be lost is the name of a type that the
library does not know: of such an event only `Unknown` keeps the name, and the event that explains a
redaction is no `Unknown`.
-/

set_option autoImplicit false

namespace Mtx.Events

open Str

/-- What an event has beside its content. -/
structure Envelope where
  type : EventType
  sender : Str
  event_id : Str
  room_id : Str
  origin_server_ts : UInt64
  unsigned_data : UnsignedData
  state_key : Option Str := none
  redacts : Option Str := none

/-- The envelope of a room event. -/
def RoomEvent.envelope {C : Type} (e : RoomEvent C) : Envelope where
  type := e.type
  sender := e.sender
  event_id := e.event_id
  room_id := e.room_id
  origin_server_ts := e.origin_server_ts
  unsigned_data := e.unsigned_data

/-- The envelope of a state event. -/
def StateEvent.envelope {C : Type} (e : StateEvent C) : Envelope :=
  { e.toRoomEvent.envelope with state_key := some e.state_key }

/-- The envelope of a redaction. -/
def RedactionEvent.envelope {C : Type} (e : RedactionEvent C) : Envelope :=
  { e.toRoomEvent.envelope with redacts := some e.redacts }

/-! ## Reading -/

/-- The part of `from_json(RoomEvent<Content>)` that does not depend on the content, with the type
string. -/
def readRoomEnvelope (obj : Json) : Except Exn (Str × Envelope) := do
  let (type, typeName, sender) ← readEnvelope obj
  let event_id ← (← obj.atKey "event_id").getString
  throwIf (event_id.length > 255) (.outOfRange "Event id exceeds 255 bytes")
  let origin_server_ts ← (← obj.atKey "origin_server_ts").getUInt64
  let room_id ← obj.optional "room_id" Json.getString ""
  throwIf (room_id.length > 255) (.outOfRange "Room id exceeds 255 bytes")
  let unsigned_data ← obj.optional "unsigned" UnsignedData.fromJson {}
  return (typeName, { type, sender, event_id, room_id, origin_server_ts, unsigned_data })

variable {C : Type} [EventContent C]

/-- A room event with a content and an envelope. -/
def RoomEvent.ofEnvelope (content : C) (env : Envelope) : RoomEvent C where
  type := env.type
  sender := env.sender
  content
  event_id := env.event_id
  room_id := env.room_id
  origin_server_ts := env.origin_server_ts
  unsigned_data := env.unsigned_data

theorem RoomEvent.fromJson_eq (obj : Json) : RoomEvent.fromJson C obj = (do
    let content ← readContent C obj
    let (typeName, env) ← readRoomEnvelope obj
    return RoomEvent.ofEnvelope (EventContent.setType typeName content) env) := by
  rw [RoomEvent.fromJson, Event.fromJson, readRoomEnvelope]
  simp only [bind_assoc, pure_bind]
  rfl

theorem RoomEvent.fromJson_eq_ok_iff {obj : Json} {e : RoomEvent C} :
    RoomEvent.fromJson C obj = .ok e ↔ ∃ content typeName env, readContent C obj = .ok content ∧
      readRoomEnvelope obj = .ok (typeName, env) ∧
      e = RoomEvent.ofEnvelope (EventContent.setType typeName content) env := by
  rw [RoomEvent.fromJson_eq]
  constructor
  · intro h
    obtain ⟨content, hcontent, h⟩ := bind_eq_ok_iff.mp h
    obtain ⟨⟨typeName, env⟩, henv, h⟩ := bind_eq_ok_iff.mp h
    exact ⟨content, typeName, env, hcontent, henv, (Except.ok.inj h).symm⟩
  · rintro ⟨content, typeName, env, hcontent, henv, rfl⟩
    rw [hcontent, ok_bind, henv]
    rfl

theorem RoomEvent.succeeds_fromJson_iff {obj : Json} : Succeeds (RoomEvent.fromJson C obj) ↔
    Succeeds (readContent C obj) ∧ Succeeds (readRoomEnvelope obj) := by
  rw [RoomEvent.fromJson_eq]
  exact succeeds_bind_iff_and fun _ ↦ (succeeds_bind_iff_and fun _ ↦
    iff_of_true (succeeds_pure _) trivial).trans (and_iff_left trivial)

theorem StateEvent.fromJson_eq_ok_iff {obj : Json} {e : StateEvent C} :
    StateEvent.fromJson C obj = .ok e ↔
      RoomEvent.fromJson C obj = .ok e.toRoomEvent ∧ readStateKey obj = .ok e.state_key := by
  rw [StateEvent.fromJson]
  constructor
  · intro h
    obtain ⟨base, hbase, h⟩ := bind_eq_ok_iff.mp h
    obtain ⟨state_key, hkey, h⟩ := bind_eq_ok_iff.mp h
    rw [← Except.ok.inj h]
    exact ⟨hbase, hkey⟩
  · rintro ⟨hbase, hkey⟩
    rw [hbase, ok_bind, hkey]
    rfl

theorem RedactionEvent.fromJson_eq_ok_iff {obj : Json} {e : RedactionEvent C} :
    RedactionEvent.fromJson C obj = .ok e ↔ RoomEvent.fromJson C obj = .ok e.toRoomEvent ∧
      obj.find? "redacts" = some (.string e.redacts) := by
  rw [RedactionEvent.fromJson]
  constructor
  · intro h
    obtain ⟨base, hbase, h⟩ := bind_eq_ok_iff.mp h
    obtain ⟨v, hv, h⟩ := bind_eq_ok_iff.mp h
    obtain ⟨redacts, hredacts, h⟩ := bind_eq_ok_iff.mp h
    rw [Json.getString_eq_ok_iff.mp hredacts] at hv
    rw [← Except.ok.inj h]
    exact ⟨hbase, Json.atKey_eq_ok_iff.mp hv⟩
  · rintro ⟨hbase, hredacts⟩
    rw [hbase, ok_bind, Json.atKey_of_find? hredacts]
    rfl

/-! ## What an envelope is read from -/

theorem readEnvelope_iff {obj : Json} {type : EventType} {typeName sender : Str} :
    readEnvelope obj = .ok (type, typeName, sender) ↔
      obj.find? "type" = some (.string typeName) ∧ typeName.length ≤ 255 ∧
        getEventType typeName = .ok type ∧ obj.value "sender" Json.getString "" = .ok sender ∧
        sender.length ≤ 255 := by
  rw [readEnvelope]
  constructor
  · intro h
    simp only [bind_eq_ok_iff, throwIf_eq_ok_iff, Json.atKey_eq_ok_iff,
      Json.getString_eq_ok_iff] at h
    obtain ⟨_, ht, t, rfl, -, hlen, ty, hty, s, hs, -, hslen, h⟩ := h
    cases Except.ok.inj h
    exact ⟨ht, by omega, hty, hs, by omega⟩
  · rintro ⟨ht, hlen, hty, hs, hslen⟩
    rw [Json.atKey_of_find? ht, ok_bind, Json.getString_string, ok_bind,
      throwIf_of_not (by omega), ok_bind, hty, ok_bind, hs, ok_bind, throwIf_of_not (by omega)]
    rfl

theorem readRoomEnvelope_iff {obj : Json} {typeName : Str} {env : Envelope} :
    readRoomEnvelope obj = .ok (typeName, env) ↔
      readEnvelope obj = .ok (env.type, typeName, env.sender) ∧
        obj.find? "event_id" = some (.string env.event_id) ∧ env.event_id.length ≤ 255 ∧
        (∃ ts, obj.find? "origin_server_ts" = some ts ∧ ts.getUInt64 = .ok env.origin_server_ts) ∧
        obj.optional "room_id" Json.getString "" = .ok env.room_id ∧ env.room_id.length ≤ 255 ∧
        obj.optional "unsigned" UnsignedData.fromJson {} = .ok env.unsigned_data ∧
        env.state_key = none ∧ env.redacts = none := by
  rw [readRoomEnvelope]
  constructor
  · intro h
    simp only [bind_eq_ok_iff, throwIf_eq_ok_iff, Json.atKey_eq_ok_iff,
      Json.getString_eq_ok_iff] at h
    obtain ⟨⟨type, t, sender⟩, henv, _, hid, id, rfl, -, hidlen, ts, hts, n, hn, room, hroom, -,
      hroomlen, u, hu, h⟩ := h
    cases Except.ok.inj h
    exact ⟨henv, hid, Nat.le_of_not_lt hidlen, ⟨ts, hts, hn⟩, hroom, Nat.le_of_not_lt hroomlen,
      hu, rfl, rfl⟩
  · rintro ⟨henv, hid, hidlen, ⟨ts, hts, hn⟩, hroom, hroomlen, hu, hkey, hredacts⟩
    rw [henv, ok_bind]
    dsimp only
    rw [Json.atKey_of_find? hid, ok_bind, Json.getString_string, ok_bind,
      throwIf_of_not (by omega), ok_bind, Json.atKey_of_find? hts, ok_bind, hn, ok_bind, hroom,
      ok_bind, throwIf_of_not (by omega), ok_bind, hu, ok_bind]
    obtain ⟨type, sender, event_id, room_id, origin_server_ts, unsigned_data, state_key, redacts⟩ :=
      env
    cases hkey
    cases hredacts
    rfl

/-- The identifiers of an envelope are as long as those that are read. -/
structure Envelope.Fits (env : Envelope) : Prop where
  sender : env.sender.length ≤ 255
  event_id : env.event_id.length ≤ 255
  room_id : env.room_id.length ≤ 255
  redacted_because : ∀ r, env.unsigned_data.redacted_because = some r → r.sender.length ≤ 255

theorem Event.sender_length {obj : Json} {e : Event C} (h : Event.fromJson C obj = .ok e) :
    e.sender.length ≤ 255 := by
  rw [Event.fromJson] at h
  obtain ⟨content, -, h⟩ := bind_eq_ok_iff.mp h
  obtain ⟨⟨type, t, sender⟩, henv, h⟩ := bind_eq_ok_iff.mp h
  cases Except.ok.inj h
  exact (readEnvelope_iff.mp henv).2.2.2.2

theorem UnsignedData.sender_length {obj : Json} {u : UnsignedData}
    (h : UnsignedData.fromJson obj = .ok u) {r : Event Redaction}
    (hr : u.redacted_because = some r) : r.sender.length ≤ 255 := by
  simp only [UnsignedData.fromJson, bind_eq_ok_iff] at h
  obtain ⟨age, -, transaction_id, -, prev_sender, -, replaces_state, -, redacted_by, -, because,
    hbecause, h⟩ := h
  cases Except.ok.inj h
  rw [Json.optional] at hbecause
  obtain hv | ⟨v, hv⟩ := Option.eq_none_or_eq_some (obj.find? "redacted_because")
  · rw [hv] at hbecause
    cases (Except.ok.inj hbecause).trans hr
  · rw [hv] at hbecause
    obtain ⟨r', hr', hsome⟩ := map_eq_ok_iff.mp hbecause
    cases hsome.trans hr
    exact Event.sender_length hr'

theorem Envelope.fits_of_read {obj : Json} {typeName : Str} {env : Envelope}
    (h : readRoomEnvelope obj = .ok (typeName, env)) : env.Fits := by
  obtain ⟨henv, -, hid, -, -, hroom, hu, -⟩ := readRoomEnvelope_iff.mp h
  refine ⟨(readEnvelope_iff.mp henv).2.2.2.2, hid, hroom, fun r hr ↦ ?_⟩
  rw [Json.optional] at hu
  obtain hv | ⟨v, hv⟩ := Option.eq_none_or_eq_some (obj.find? "unsigned")
  · rw [hv] at hu
    rw [← Except.ok.inj hu] at hr
    cases hr
  · rw [hv] at hu
    exact UnsignedData.sender_length hu hr

/-! ## What is read again -/

theorem toStr_unsupported : EventType.toStr .unsupported = [] := rfl

theorem length_toStr (type : EventType) : type.toStr.length ≤ 255 := by
  have hnames : ∀ e ∈ eventTypeNames, (lit e.1).length ≤ 255 := by decide
  rw [EventType.toStr]
  split
  next e hfind => exact hnames e (List.mem_of_find?_eq_some hfind)
  next => exact Nat.zero_le _

/-- The event that explains a redaction is read again if its type has a name. -/
theorem Event.fromJson_toJson_redaction {r : Event Redaction} (htype : r.type ≠ .unsupported)
    (hsender : r.sender.length ≤ 255) : Event.fromJson Redaction r.toJson = .ok r := by
  have hcontent : readContent Redaction r.toJson = .ok r.content := by
    have hfind : r.toJson.find? "content" = some r.content.toJson := by
      simp [Event.toJson, Event.members, EventContent.toJson]
    rw [readContent_eq, Json.atKey_of_find? hfind, ok_bind, contentFrom]
    simp [Redaction.toJson, Redaction.fromJson, Json.contains, EventContent.fromJson]
  have henv : readEnvelope r.toJson = .ok (r.type, r.type.toStr, r.sender) :=
    readEnvelope_iff.mpr ⟨by simp [Event.toJson, Event.members, EventContent.ownType],
      length_toStr r.type, getEventType_toStr r.type htype,
      by simp [Event.toJson, Event.members, Json.value_eq], hsender⟩
  rw [Event.fromJson, hcontent, ok_bind, henv]
  rfl

/-- Without a name of its type it is not read at all. -/
theorem Event.not_succeeds_redaction {r : Event Redaction} (htype : r.type = .unsupported) :
    ¬ Succeeds (Event.fromJson Redaction r.toJson) := by
  rintro ⟨e, h⟩
  rw [Event.fromJson] at h
  obtain ⟨content, -, h⟩ := bind_eq_ok_iff.mp h
  obtain ⟨⟨type, t, sender⟩, henv, -⟩ := bind_eq_ok_iff.mp h
  obtain ⟨ht, -, hty, -⟩ := readEnvelope_iff.mp henv
  have hname : r.toJson.find? "type" = some (.string []) := by
    simp [Event.toJson, Event.members, EventContent.ownType, htype, toStr_unsupported]
  rw [hname] at ht
  cases ht
  cases hty

theorem UnsignedData.find?_toJson (u : UnsignedData) (k : Str) : u.toJson.find? k =
    if k = "redacted_because" then u.redacted_because.map Event.toJson
    else if k = "redacted_by" ∧ u.redacted_by ≠ [] then some (.string u.redacted_by)
    else if k = "age" ∧ u.age ≠ 0 then some (.numberUnsigned u.age)
    else if k = "replaces_state" ∧ u.replaces_state ≠ [] then some (.string u.replaces_state)
    else if k = "transaction_id" ∧ u.transaction_id ≠ [] then some (.string u.transaction_id)
    else if k = "prev_sender" ∧ u.prev_sender ≠ [] then some (.string u.prev_sender)
    else none := by
  rcases h : u.redacted_because with - | r
  · by_cases hk : k = "redacted_because"
    · simp [UnsignedData.toJson, h, hk]
    · simp [UnsignedData.toJson, h, hk, and_comm]
  · by_cases hk : k = "redacted_because"
    · simp [UnsignedData.toJson, h, hk]
    · simp [UnsignedData.toJson, h, hk, and_comm]

/-- The data for an event is read again if the event that explains its redaction is. -/
theorem UnsignedData.fromJson_toJson {u : UnsignedData}
    (h : ∀ r, u.redacted_because = some r → r.type ≠ .unsupported ∧ r.sender.length ≤ 255) :
    UnsignedData.fromJson u.toJson = .ok u := by
  have hstring : ∀ (k s : Str), (u.toJson.find? k = if s ≠ [] then some (.string s) else none) →
      u.toJson.optional k Json.getString "" = .ok s := fun k s hk ↦ by
    rw [Json.optional, hk]
    by_cases hs : s = []
    · rw [if_neg (not_not.mpr hs), hs]
      rfl
    · rw [if_pos hs]
      rfl
  have hage : u.toJson.optional "age" Json.getUInt64 0 = .ok u.age := by
    rw [Json.optional, UnsignedData.find?_toJson]
    by_cases hu : u.age = 0 <;> simp [hu, Json.getUInt64]
  have hbecause : u.toJson.optional "redacted_because"
      (fun j ↦ some <$> Event.fromJson Redaction j) none = .ok u.redacted_because := by
    rw [Json.optional, UnsignedData.find?_toJson, if_pos rfl]
    rcases hr : u.redacted_because with - | r
    · rfl
    · obtain ⟨htype, hsender⟩ := h r hr
      simp [Event.fromJson_toJson_redaction htype hsender]
  rw [UnsignedData.fromJson, hage,
    hstring "transaction_id" u.transaction_id (by rw [UnsignedData.find?_toJson]; simp),
    hstring "prev_sender" u.prev_sender (by rw [UnsignedData.find?_toJson]; simp),
    hstring "replaces_state" u.replaces_state (by rw [UnsignedData.find?_toJson]; simp),
    hstring "redacted_by" u.redacted_by (by rw [UnsignedData.find?_toJson]; simp), hbecause]
  rfl

/-- A type without a name in the event that explains a redaction makes the data unreadable. -/
theorem UnsignedData.not_succeeds {u : UnsignedData} {r : Event Redaction}
    (hr : u.redacted_because = some r) (htype : r.type = .unsupported) :
    ¬ Succeeds (UnsignedData.fromJson u.toJson) := by
  rintro ⟨u', h⟩
  simp only [UnsignedData.fromJson, bind_eq_ok_iff] at h
  obtain ⟨age, -, transaction_id, -, prev_sender, -, replaces_state, -, redacted_by, -, because,
    hbecause, -⟩ := h
  rw [Json.optional, UnsignedData.find?_toJson, if_pos rfl, hr] at hbecause
  obtain ⟨e, he, -⟩ := map_eq_ok_iff.mp hbecause
  exact Event.not_succeeds_redaction htype ⟨e, he⟩

/-! ## The envelope of an event that was written -/

/-- The type string that is written. -/
def writtenType (e : Event C) : Str := (EventContent.ownType e.content).getD e.type.toStr

/-- What `to_json(RoomEvent<Content>)` and the writers that build on it make of an event. -/
structure RoomEvent.Written (e : RoomEvent C) (j : Json) : Prop where
  isObject : j.isObject = true
  find? : ∀ k : Str, k ≠ "state_key" → k ≠ "redacts" → j.find? k = e.members.find? k

theorem RoomEvent.written_toJson (e : RoomEvent C) : e.Written e.toJson where
  isObject := Json.isObject_of_find? (k := "event_id") (v := .string e.event_id)
    (by simp [RoomEvent.toJson, RoomEvent.members])
  find? k _ _ := by rw [RoomEvent.toJson, Json.find?_ofMembers]

theorem StateEvent.written_toJson (e : StateEvent C) : e.toRoomEvent.Written e.toJson where
  isObject := Json.isObject_of_find? (k := "state_key") (v := .string e.state_key)
    (by simp [StateEvent.toJson])
  find? k hk _ := by
    rw [StateEvent.toJson, Json.find?_ofMembers, SortedMap.find?_insert, if_neg hk]

theorem RedactionEvent.written_toJson (e : RedactionEvent C) : e.toRoomEvent.Written e.toJson where
  isObject := Json.isObject_of_find? (k := "redacts") (v := .string e.redacts)
    (by simp [RedactionEvent.toJson])
  find? k _ hk := by
    rw [RedactionEvent.toJson, Json.find?_ofMembers, SortedMap.find?_insert, if_neg hk]

variable {e : RoomEvent C} {j : Json}

/-- The event that explains the redaction has a type with a name. -/
def Envelope.NamesRedaction (env : Envelope) : Prop :=
  ∀ r, env.unsigned_data.redacted_because = some r → r.type ≠ .unsupported

/-- **An envelope is read again as it was**, if the type strings that are written name the types. -/
theorem RoomEvent.Written.readRoomEnvelope (h : e.Written j) (hfits : e.envelope.Fits)
    (htype : getEventType (writtenType e.toEvent) = .ok e.type)
    (hlength : (writtenType e.toEvent).length ≤ 255) (hnames : e.envelope.NamesRedaction) :
    readRoomEnvelope j = .ok (writtenType e.toEvent, e.envelope) := by
  have hfind := h.find?
  refine readRoomEnvelope_iff.mpr ⟨readEnvelope_iff.mpr ⟨?_, hlength, htype, ?_, hfits.sender⟩, ?_,
    hfits.event_id, ⟨.numberUnsigned e.origin_server_ts, ?_, rfl⟩, ?_, hfits.room_id, ?_, rfl, rfl⟩
  · rw [hfind _ (by simp) (by simp)]
    simp [RoomEvent.members, Event.members, writtenType]
  · rw [Json.value_eq, hfind _ (by simp) (by simp)]
    simp [RoomEvent.members, Event.members, RoomEvent.envelope]
  · rw [hfind _ (by simp) (by simp)]
    simp [RoomEvent.members, RoomEvent.envelope]
  · rw [hfind _ (by simp) (by simp)]
    simp [RoomEvent.members]
  · rw [Json.optional, hfind _ (by simp) (by simp)]
    by_cases hroom : e.room_id = []
    · simp [RoomEvent.members, Event.members, RoomEvent.envelope, hroom, lit_empty]
    · simp [RoomEvent.members, Event.members, RoomEvent.envelope, hroom]
  · rw [Json.optional, hfind _ (by simp) (by simp)]
    simp [RoomEvent.members]
    exact UnsignedData.fromJson_toJson fun r hr ↦ ⟨hnames r hr, hfits.redacted_because r hr⟩

/-- The type string that is written is read as the type of the event. -/
def Event.Named (e : Event C) : Prop := getEventType (writtenType e) = .ok e.type

/-- Most contents have no type string of their own, so that the name of the type is written. -/
theorem Event.named_iff {e : Event C} (hown : EventContent.ownType e.content = none) :
    e.Named ↔ e.type ≠ .unsupported := by
  rw [Event.Named, writtenType, hown, Option.getD_none]
  refine ⟨fun h htype ↦ ?_, getEventType_toStr e.type⟩
  rw [htype] at h
  cases h

theorem Event.named_of_getEventType {e : Event C} (hown : EventContent.ownType e.content = none)
    {type : EventType} (h : getEventType (writtenType e) = .ok type) : e.Named := by
  rw [Event.named_iff hown]
  intro htype
  rw [writtenType, hown, htype] at h
  cases h

/-- **An envelope is read again as it was or not at all.** -/
theorem RoomEvent.Written.readRoomEnvelope_eq_ok_iff (h : e.Written j) (hfits : e.envelope.Fits)
    (hnamed : ∀ type, getEventType (writtenType e.toEvent) = .ok type → e.toEvent.Named)
    (hlength : (writtenType e.toEvent).length ≤ 255) {typeName : Str} {env : Envelope} :
    Events.readRoomEnvelope j = .ok (typeName, env) ↔
      e.toEvent.Named ∧ e.envelope.NamesRedaction ∧ typeName = writtenType e.toEvent ∧
        env = e.envelope := by
  constructor
  · intro hread
    obtain ⟨henv, -, -, -, -, -, hunsigned, -⟩ := readRoomEnvelope_iff.mp hread
    obtain ⟨htype, -, hname, -⟩ := readEnvelope_iff.mp henv
    rw [h.find? _ (by simp) (by simp)] at htype
    have hwritten : typeName = writtenType e.toEvent := by
      simpa [RoomEvent.members, Event.members, writtenType] using htype.symm
    rw [hwritten] at hname
    have hnames : e.envelope.NamesRedaction := by
      intro r hr hunsupported
      rw [Json.optional, h.find? _ (by simp) (by simp)] at hunsigned
      simp only [RoomEvent.members, SortedMap.find?_insert] at hunsigned
      exact UnsignedData.not_succeeds (u := e.unsigned_data) hr hunsupported
        ⟨_, by simpa using hunsigned⟩
    have hsame := h.readRoomEnvelope hfits (hnamed _ hname) hlength hnames
    rw [hread] at hsame
    obtain ⟨-, henv⟩ := Prod.mk.inj (Except.ok.inj hsame)
    exact ⟨hnamed _ hname, hnames, hwritten, henv⟩
  · rintro ⟨htype, hnames, rfl, rfl⟩
    exact h.readRoomEnvelope hfits htype hlength hnames

/-! ## An event that was read, written and read again -/

/-- What an event that was read has. -/
theorem RoomEvent.of_read {obj : Json} (h : RoomEvent.fromJson C obj = .ok e) :
    ∃ content typeName, readContent C obj = .ok content ∧
      Events.readRoomEnvelope obj = .ok (typeName, e.envelope) ∧
      e.content = EventContent.setType typeName content := by
  obtain ⟨content, typeName, env, hcontent, henv, rfl⟩ := RoomEvent.fromJson_eq_ok_iff.mp h
  obtain ⟨-, -, -, -, -, -, -, hkey, hredacts⟩ := readRoomEnvelope_iff.mp henv
  refine ⟨content, typeName, hcontent, ?_, rfl⟩
  rw [henv]
  obtain ⟨type, sender, event_id, room_id, ts, unsigned_data, state_key, redacts⟩ := env
  cases hkey
  cases hredacts
  rfl

/-- An event that was written is read again with its envelope if its content can be read and the
types have names. -/
theorem RoomEvent.Written.fromJson_iff (h : e.Written j) (hfits : e.envelope.Fits)
    (hnamed : ∀ type, getEventType (writtenType e.toEvent) = .ok type → e.toEvent.Named)
    (hlength : (writtenType e.toEvent).length ≤ 255) :
    (∃ e', RoomEvent.fromJson C j = .ok e' ∧ e'.envelope = e.envelope) ↔
      Succeeds (contentFrom C (EventContent.toJson e.content)) ∧ e.toEvent.Named ∧
        e.envelope.NamesRedaction := by
  have hcontent : readContent C j = contentFrom C (EventContent.toJson e.content) := by
    have hfind : j.find? "content" = some (EventContent.toJson e.content) := by
      rw [h.find? _ (by simp) (by simp)]
      simp [RoomEvent.members, Event.members]
    rw [readContent_eq, Json.atKey_of_find? hfind, ok_bind]
  constructor
  · rintro ⟨e', he', -⟩
    obtain ⟨content, typeName, hread, henv, -⟩ := RoomEvent.of_read he'
    obtain ⟨htype, hnames, -⟩ := (h.readRoomEnvelope_eq_ok_iff hfits hnamed hlength).mp henv
    exact ⟨⟨content, hcontent ▸ hread⟩, htype, hnames⟩
  · rintro ⟨⟨content, hread⟩, htype, hnames⟩
    have henv := (h.readRoomEnvelope_eq_ok_iff hfits hnamed hlength).mpr ⟨htype, hnames, rfl, rfl⟩
    exact ⟨_, RoomEvent.fromJson_eq_ok_iff.mpr ⟨content, _, _, hcontent.trans hread, henv, rfl⟩,
      rfl⟩

/-- **An event whose content has no type of its own is read again** if its content is and the types
have names. -/
theorem RoomEvent.rereads_iff (hown : ∀ c : C, EventContent.ownType c = none) {obj : Json}
    (hread : RoomEvent.fromJson C obj = .ok e) (h : e.Written j) :
    (∃ e', RoomEvent.fromJson C j = .ok e' ∧ e'.envelope = e.envelope) ↔
      Succeeds (contentFrom C (EventContent.toJson e.content)) ∧ e.type ≠ .unsupported ∧
        e.envelope.NamesRedaction := by
  obtain ⟨-, typeName, -, henv, -⟩ := RoomEvent.of_read hread
  have hlength : (writtenType e.toEvent).length ≤ 255 := by
    rw [writtenType, hown]
    exact length_toStr e.type
  rw [h.fromJson_iff (Envelope.fits_of_read henv)
    (fun _ ↦ Event.named_of_getEventType (hown _)) hlength, Event.named_iff (hown _)]

/-- The state key that was read is read again. -/
theorem StateEvent.readStateKey_toJson {obj : Json} {e : StateEvent C}
    (h : readStateKey obj = .ok e.state_key) : readStateKey e.toJson = .ok e.state_key := by
  obtain ⟨v, -, h⟩ := bind_eq_ok_iff.mp h
  obtain ⟨state_key, -, h⟩ := bind_eq_ok_iff.mp h
  obtain ⟨_, hlength, h⟩ := bind_eq_ok_iff.mp h
  have hfind : e.toJson.find? "state_key" = some (.string e.state_key) := by
    rw [StateEvent.toJson, Json.find?_ofMembers, SortedMap.find?_insert, if_pos rfl]
  rw [readStateKey, Json.atKey_of_find? hfind, ok_bind, Json.getString_string, ok_bind,
    ← Except.ok.inj h, hlength]
  rfl

/-- A state event is read again with its state key. -/
theorem StateEvent.rereads_iff {obj : Json} {e : StateEvent C}
    (hread : StateEvent.fromJson C obj = .ok e) :
    (∃ e', StateEvent.fromJson C e.toJson = .ok e' ∧ e'.envelope = e.envelope) ↔
      ∃ e', RoomEvent.fromJson C e.toJson = .ok e' ∧ e'.envelope = e.toRoomEvent.envelope := by
  constructor
  · rintro ⟨e', he', henv⟩
    refine ⟨e'.toRoomEvent, (StateEvent.fromJson_eq_ok_iff.mp he').1, ?_⟩
    have hkey := congrArg (fun env : Envelope ↦ { env with state_key := none }) henv
    exact hkey
  · rintro ⟨e', he', henv⟩
    have hkey := StateEvent.readStateKey_toJson (StateEvent.fromJson_eq_ok_iff.mp hread).2
    refine ⟨{ e' with state_key := e.state_key }, StateEvent.fromJson_eq_ok_iff.mpr ⟨he', hkey⟩, ?_⟩
    rw [StateEvent.envelope, StateEvent.envelope, ← henv]

/-- A redaction is read again with what it redacts. -/
theorem RedactionEvent.rereads_iff (e : RedactionEvent C) :
    (∃ e', RedactionEvent.fromJson C e.toJson = .ok e' ∧ e'.envelope = e.envelope) ↔
      ∃ e', RoomEvent.fromJson C e.toJson = .ok e' ∧ e'.envelope = e.toRoomEvent.envelope := by
  constructor
  · rintro ⟨e', he', henv⟩
    refine ⟨e'.toRoomEvent, (RedactionEvent.fromJson_eq_ok_iff.mp he').1, ?_⟩
    have hredacts := congrArg (fun env : Envelope ↦ { env with redacts := none }) henv
    exact hredacts
  · rintro ⟨e', he', henv⟩
    have hfind : e.toJson.find? "redacts" = some (.string e.redacts) := by
      rw [RedactionEvent.toJson, Json.find?_ofMembers, SortedMap.find?_insert, if_pos rfl]
    refine ⟨{ e' with redacts := e.redacts },
      RedactionEvent.fromJson_eq_ok_iff.mpr ⟨he', hfind⟩, ?_⟩
    rw [RedactionEvent.envelope, RedactionEvent.envelope, ← henv]

end Mtx.Events
