import MtxClient.Responses.Agreement
import MtxClient.Responses.Persisting

/-!
# Storing the state of a room

A state event is written with its `to_json` and read again with `parse_state_events`.  Other than
for the events of a timeline, the question here is whether it is the same event with all that is in
its content.  `StateKind.reread` says what a content becomes, and `state_kept_iff` when nothing is
lost.
-/

set_option autoImplicit false

namespace Mtx.Events

open Str

/-! ## Contents that are kept -/

/-- The thumbnail of an image has a URL, or there is nothing else to know about it. -/
def ImageInfo.Kept (info : ImageInfo) : Prop := info.thumbnail_url = [] → info.thumbnail_info = {}

/-- The contents of state events of which nothing is lost. -/
def StateKind.Kept : (k : StateKind) → k.Content → Prop
  | .avatar, (c : Avatar) => c.image_info.Kept
  | .create, (c : Create) => c.room_version ≠ []
  | .joinRules, (c : JoinRules) => ∀ a ∈ c.allow, a.type = .unknown → a.room_id = []
  | .spaceChild, (c : Space.Child) =>
    c.via ≠ some [] ∧ (c.via = none → c.order = none ∧ c.suggested = false) ∧
      ∀ order, c.order = some order → Space.isValidOrderStr order = true
  | .spaceParent, (c : Space.Parent) => c.via ≠ some [] ∧ (c.via = none → c.canonical = false)
  | .imagePack, (c : ImagePack) =>
    ∀ id image, c.images.find? id = some image → ∀ info, image.info = some info → info.Kept
  | _, _ => True

theorem ImageInfo.reread_eq_iff (info : ImageInfo) : info.reread = info ↔ info.Kept := by
  obtain ⟨h, w, size, thumbnail_info, thumbnail_url, mimetype, thumbnail_file, blurhash⟩ := info
  rw [ImageInfo.reread, ImageInfo.Kept, ImageInfo.mk.injEq]
  cases thumbnail_url <;> simp [eq_comm]

theorem JoinAllowance.reread_eq_iff (a : JoinAllowance) :
    a.reread = a ↔ (a.type = .unknown → a.room_id = []) := by
  obtain ⟨type, room_id⟩ := a
  cases type <;> simp [JoinAllowance.reread, eq_comm, lit_empty]

theorem Space.Child.reread_eq_iff (c : Child) : c.reread = c ↔
    c.via ≠ some [] ∧ (c.via = none → c.order = none ∧ c.suggested = false) ∧
      ∀ order, c.order = some order → isValidOrderStr order = true := by
  obtain ⟨via, order, suggested⟩ := c
  rcases via with - | - | ⟨x, xs⟩
  · cases order <;> cases suggested <;> simp [reread]
  · simp [reread]
  · cases order <;> simp [reread, Option.filter]

theorem Space.Parent.reread_eq_iff (p : Parent) : p.reread = p ↔
    p.via ≠ some [] ∧ (p.via = none → p.canonical = false) := by
  obtain ⟨via, canonical⟩ := p
  rcases via with - | - | ⟨x, xs⟩
  · cases canonical <;> simp [reread]
  · simp [reread]
  · simp [reread]

theorem PackImage.reread_eq_iff (image : PackImage) :
    image.reread = image ↔ ∀ info, image.info = some info → info.Kept := by
  obtain ⟨url, body, info, usage⟩ := image
  cases info with
  | none => simp [reread]
  | some info => simp [reread, ImageInfo.reread_eq_iff]

theorem ImagePack.reread_eq_iff (content : ImagePack) : content.reread = content ↔
    ∀ id image, content.images.find? id = some image → ∀ info, image.info = some info →
      info.Kept := by
  obtain ⟨images, pack⟩ := content
  rw [reread, ImagePack.mk.injEq, and_iff_left rfl]
  constructor
  · intro h id image hid
    have hsame := congrArg (·.find? id) h
    simp only [SortedMap.find?_map, hid, Option.map_some, Option.some.injEq] at hsame
    exact (PackImage.reread_eq_iff image).mp hsame
  · refine fun h ↦ SortedMap.ext fun id ↦ ?_
    rw [SortedMap.find?_map]
    cases hid : images.find? id with
    | none => rfl
    | some image => exact congrArg some ((PackImage.reread_eq_iff image).mpr (h id image hid))

theorem Avatar.reread_eq_iff (avatar : Avatar) :
    avatar.reread = avatar ↔ avatar.image_info.Kept := by
  rw [← ImageInfo.reread_eq_iff, Avatar.reread]
  exact ⟨congrArg Avatar.image_info, fun h ↦ by rw [h]⟩

theorem Create.reread_eq_iff (c : Create) : c.reread = c ↔ c.room_version ≠ [] := by
  obtain ⟨type, federate, version, predecessor, creators⟩ := c
  cases version with
  | nil => exact iff_of_false (fun h ↦ by cases congrArg Create.room_version h) (· rfl)
  | cons b bs => exact iff_of_true rfl (List.cons_ne_nil b bs)

theorem JoinRules.reread_eq_iff (j : JoinRules) :
    j.reread = j ↔ ∀ a ∈ j.allow, a.type = .unknown → a.room_id = [] := by
  have hmap := List.map_inj_left (f := JoinAllowance.reread) (g := id) (l := j.allow)
  rw [List.map_id] at hmap
  have hallow : j.reread = j ↔ j.allow.map JoinAllowance.reread = j.allow :=
    ⟨congrArg JoinRules.allow, fun h ↦ by rw [JoinRules.reread, h]⟩
  exact (hallow.trans hmap).trans (forall₂_congr fun a _ ↦ JoinAllowance.reread_eq_iff a)

theorem StateKind.reread_eq_iff (k : StateKind) (c : k.Content) : k.reread c = c ↔ k.Kept c := by
  cases k with
  | avatar => exact Avatar.reread_eq_iff c
  | create => exact Create.reread_eq_iff c
  | joinRules => exact JoinRules.reread_eq_iff c
  | spaceChild => exact Space.Child.reread_eq_iff c
  | spaceParent => exact Space.Parent.reread_eq_iff c
  | imagePack => exact ImagePack.reread_eq_iff c
  | _ => exact iff_of_true rfl trivial

/-- The type string says nothing about the content of a state event. -/
theorem StateKind.setType_eq (k : StateKind) (typeName : Str) (c : k.Content) :
    EventContent.setType typeName c = c := by
  cases k <;> rfl

end Mtx.Events

namespace Mtx.Responses

open Str Events

variable {json : JsonText}

/-! ## The alternatives of the state block -/

theorem readKnownState_eq_ok_iff {e : Json} {k k' : StateKind} {ev : StateEvent k.Content} :
    some <$> readKnownState json k' e = .ok (some (.known k ev)) ↔
      k' = k ∧ StateEvent.fromJson k.Content e = .ok ev := by
  rw [readKnownState]
  constructor
  · intro h
    obtain ⟨s, hs, hsome⟩ := map_eq_ok_iff.mp h
    obtain ⟨ev', hev', rfl⟩ := map_eq_ok_iff.mp hs
    cases hsome
    exact ⟨rfl, hev'⟩
  · rintro ⟨rfl, hev⟩
    rw [hev]
    rfl

/-- Which events of the state block are read as a known content. -/
theorem parseStateEvent_eq_known_iff {e : Json} {k : StateKind} {ev : StateEvent k.Content} :
    parseStateEvent json e = .ok (some (.known k ev)) ↔ ∃ type, getEventTypeOf e = .ok type ∧
      (if isRedacted e = true then k = .redacted else typeAlternative type = some (.state k)) ∧
      StateEvent.fromJson k.Content e = .ok ev := by
  rw [parseStateEvent]
  rcases getEventTypeOf e with err | type
  · refine iff_of_false (fun h ↦ by cases h) ?_
    rintro ⟨type, htype, -⟩
    cases htype
  · simp only [ok_bind, Except.ok.injEq, exists_eq_left']
    by_cases hredacted : isRedacted e = true
    · rw [if_pos hredacted, if_pos hredacted, readKnownState_eq_ok_iff, eq_comm]
    · rw [if_neg hredacted, if_neg hredacted]
      cases type
      case unsupported =>
        refine iff_of_false (fun h ↦ ?_) (fun h ↦ by cases h.1)
        obtain ⟨_, -, hs⟩ := bind_eq_ok_iff.mp h
        cases hs
      all_goals first
        | exact iff_of_false (fun h ↦ by cases h) (fun h ↦ by cases h.1)
        | simp only [readKnownState_eq_ok_iff, typeAlternative, Option.some.injEq,
            Alternative.state.injEq]

/-! ## What is kept -/

/-- **A state event is read again as it was** if its types have names and its content is kept. -/
theorem fromJson_toJson_eq_ok_iff {e : Json} {k : StateKind} {ev : StateEvent k.Content}
    (hread : StateEvent.fromJson k.Content e = .ok ev) :
    StateEvent.fromJson k.Content ev.toJson = .ok ev ↔
      ev.type ≠ .unsupported ∧ ev.envelope.NamesRedaction ∧ k.Kept ev.content := by
  obtain ⟨hroom, hkey⟩ := StateEvent.fromJson_eq_ok_iff.mp hread
  obtain ⟨-, typeName, -, henv, -⟩ := RoomEvent.of_read hroom
  have hwritten := StateEvent.written_toJson ev
  have hown := k.ownType ev.content
  have hlength : (writtenType ev.toEvent).length ≤ 255 := by
    rw [writtenType, hown]
    exact length_toStr ev.type
  have hkey' : readStateKey ev.toJson = .ok ev.state_key := StateEvent.readStateKey_toJson hkey
  have hcontent : readContent k.Content ev.toJson = .ok (k.reread ev.content) := by
    rw [readContent_eq, atKey_content_written hwritten, ok_bind, k.contentFrom_toJson]
  have henvelope : ∀ {typeName env}, readRoomEnvelope ev.toJson = .ok (typeName, env) ↔ _ :=
    hwritten.readRoomEnvelope_eq_ok_iff (Envelope.fits_of_read henv)
      (fun _ ↦ Event.named_of_getEventType hown) hlength
  rw [StateEvent.fromJson_eq_ok_iff, and_iff_left hkey', RoomEvent.fromJson_eq_ok_iff, hcontent,
    ← k.reread_eq_iff, ← Event.named_iff hown]
  constructor
  · rintro ⟨content, typeName', env, hsame, henv', hev⟩
    obtain ⟨hnamed, hnames, -, rfl⟩ := henvelope.mp henv'
    refine ⟨hnamed, hnames, ?_⟩
    rw [Except.ok.inj hsame, ← k.setType_eq typeName' content]
    exact (congrArg (fun e : RoomEvent k.Content ↦ e.content) hev).symm
  · rintro ⟨hnamed, hnames, hkept⟩
    refine ⟨ev.content, _, _, by rw [hkept], henvelope.mpr ⟨hnamed, hnames, rfl, rfl⟩, ?_⟩
    rw [k.setType_eq]
    rfl

/-- **When a state event survives being stored.**  Its own JSON gives the same event, with the whole
content, unless its type or that of its redaction has no name, the user who redacted it is the empty
string, or its content has something that is not written or not read. -/
theorem state_kept_iff {e : Json} {k : StateKind} {ev : StateEvent k.Content}
    {container : List (StateEvents json)}
    (h : parseStateEvents json (.array [e]) container = .ok [.known k ev]) :
    (∀ container', parseStateEvents json (.array [ev.toJson]) container' = .ok [.known k ev]) ↔
      (isRedacted e = true → getEventTypeOf e ≠ .ok .unsupported) ∧
      unsignedMember e "redacted_by" ≠ some (.string "") ∧
      (∀ r, unsignedMember e "redacted_because" = some r →
        getEventTypeOf r ≠ .ok .unsupported) ∧ k.Kept ev.content := by
  obtain ⟨type, htype, hkind, hread⟩ :=
    parseStateEvent_eq_known_iff.mp (parseEvents_singleton_iff.mp h)
  obtain ⟨-, typeName, -, henv, -⟩ := RoomEvent.of_read (StateEvent.fromJson_eq_ok_iff.mp hread).1
  have hev : getEventTypeOf e = .ok ev.type :=
    getEventTypeOf_of_readEnvelope (readRoomEnvelope_iff.mp henv).1
  obtain rfl := Except.ok.inj (hev.symm.trans htype)
  have hown := k.ownType ev.content
  have hwritten := StateEvent.written_toJson ev
  have hredacted : isRedacted ev.toJson = true ↔
      ¬ (isRedacted e = false ∨ unsignedMember e "redacted_by" = some (.string "")) :=
    (isRedacted_written hwritten).trans (not_congr (redacted_by_eq_nil_iff henv))
  have hempty : unsignedMember e "redacted_by" = some (.string "") → isRedacted e = true :=
    fun hby ↦ by rw [isRedacted_eq, hby, Option.isSome_some]
  simp only [parseStateEvents, parseEvents_singleton_iff, forall_const]
  rw [parseStateEvent_eq_known_iff, ← namesRedaction_iff henv, hev, ne_eq (Except.ok ev.type),
    Except.ok.injEq]
  constructor
  · rintro ⟨type, htype', hkind', hread'⟩
    obtain ⟨hnamed, hnames, hkept⟩ := (fromJson_toJson_eq_ok_iff hread).mp hread'
    refine ⟨fun _ ↦ hnamed, fun hby ↦ ?_, hnames, hkept⟩
    -- the event is read as a redacted one, but what is written is none
    rw [if_pos (hempty hby)] at hkind
    rw [if_neg (fun h ↦ hredacted.mp h (.inr hby)), hkind] at hkind'
    exact (typeAlternative_ne_redacted type).1 hkind'
  · rintro ⟨hnamed, hby, hnames, hkept⟩
    have hsame : isRedacted ev.toJson = isRedacted e := by
      rw [Bool.eq_iff_iff, hredacted, not_or, and_iff_left hby, Bool.not_eq_false]
    have hsupported : ev.type ≠ .unsupported := by
      by_cases hred : isRedacted e = true
      · exact hnamed hred
      · rw [if_neg hred] at hkind
        rintro htype
        rw [htype] at hkind
        cases hkind
    refine ⟨ev.type, ?_, hsame ▸ hkind,
      (fromJson_toJson_eq_ok_iff hread).mpr ⟨hsupported, hnames, hkept⟩⟩
    rw [getEventTypeOf_written hwritten]
    exact (Event.named_iff hown).mpr hsupported

/-- What is read of the topic of a room. -/
def storedTopic : StateEvent Topic where
  type := .roomTopic
  sender := "@alice:example.org"
  content := { topic := "talk" }
  event_id := "$1"
  room_id := ""
  origin_server_ts := 1
  unsigned_data := {}
  state_key := ""

theorem state_kept_iff_topicEvent :
    parseStateEvents (knownTexts []) (.array [topicEvent]) [] = .ok [.known .topic storedTopic] ∧
    ∀ container, parseStateEvents (knownTexts []) (.array [storedTopic.toJson]) container =
      .ok [.known .topic storedTopic] := by
  have hnone : ∀ k, unsignedMember topicEvent k = none := fun _ ↦ rfl
  refine ⟨rfl, (@state_kept_iff (knownTexts []) topicEvent .topic storedTopic [] rfl).mpr
    ⟨fun h ↦ absurd h (by decide), ?_, fun r hr ↦ ?_, trivial⟩⟩
  · rw [hnone]
    exact (Option.some_ne_none _).symm
  · rw [hnone] at hr
    cases hr

end Mtx.Responses
