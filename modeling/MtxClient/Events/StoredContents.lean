import MtxClient.Events.Collections
import MtxClient.Events.RewrittenMessages

/-!
# Contents of stored events

What the contents of the alternatives of `TimelineEvents` are written to, and whether they are read
from there.  Most can always be read; the exceptions are the two that keep the text of their
content, `Unknown` and `msg::Unknown`.
-/

set_option autoImplicit false

namespace Mtx.Events

open Str

/-! ## State events -/

/-- What is read back of the content of a state event. -/
def StateKind.reread : (k : StateKind) → k.Content → k.Content
  | .avatar, c => Avatar.reread c
  | .create, c => Create.reread c
  | .joinRules, c => JoinRules.reread c
  | .spaceChild, c => Space.Child.reread c
  | .spaceParent, c => Space.Parent.reread c
  | .imagePack, c => ImagePack.reread c
  | _, c => c

/-- The members that are written depend on what is in the content. -/
theorem contentFrom_create (c : Create) :
    contentFrom Create (EventContent.toJson c) = .ok c.reread := by
  refine contentFrom_of_fromJson ?_ ?_ (Create.fromJson_toJson c)
  · rcases hp : c.predecessor with - | p <;> rcases ht : c.type with - | t
    all_goals simp [EventContent.toJson, Create.toJson, hp, ht]
  · refine Json.isObject_of_find? (k := "m.federate") (v := .boolean c.federate) ?_
    rcases hp : c.predecessor with - | p <;> rcases ht : c.type with - | t
    all_goals simp [EventContent.toJson, Create.toJson, hp, ht]

theorem contentFrom_spaceChild (c : Space.Child) :
    contentFrom Space.Child (EventContent.toJson c) = .ok c.reread := by
  obtain ⟨via, order, suggested⟩ := c
  refine contentFrom_of_fromJson ?_ ?_ (Space.Child.fromJson_toJson _)
  · rcases via with - | - | ⟨x, xs⟩
    · rfl
    · rfl
    · simp [EventContent.toJson, Space.Child.toJson]
  · rcases via with - | - | ⟨x, xs⟩ <;> rfl

theorem contentFrom_spaceParent (c : Space.Parent) :
    contentFrom Space.Parent (EventContent.toJson c) = .ok c.reread := by
  obtain ⟨via, canonical⟩ := c
  refine contentFrom_of_fromJson ?_ ?_ (Space.Parent.fromJson_toJson _)
  · rcases via with - | - | ⟨x, xs⟩
    · rfl
    · rfl
    · simp [EventContent.toJson, Space.Parent.toJson]
  · rcases via with - | - | ⟨x, xs⟩ <;> rfl

theorem contentFrom_imagePack (c : ImagePack) :
    contentFrom ImagePack (EventContent.toJson c) = .ok c.reread := by
  refine contentFrom_of_fromJson ?_ ?_ (ImagePack.fromJson_toJson c)
  · rcases hp : c.pack with - | pack <;> simp [EventContent.toJson, ImagePack.toJson, hp]
  · refine Json.isObject_of_find? (k := "images") (v := Json.ofMap PackImage.toJson c.images) ?_
    rcases hp : c.pack with - | pack <;> simp [EventContent.toJson, ImagePack.toJson, hp]

/-- **What a content of a state event becomes.** -/
theorem StateKind.contentFrom_toJson (k : StateKind) (c : k.Content) :
    contentFrom k.Content (EventContent.toJson c) = .ok (k.reread c) := by
  cases k with
  | aliases =>
    exact contentFrom_of_fromJson (C := Aliases) (by simp [EventContent.toJson, Aliases.toJson])
      rfl (Aliases.fromJson_toJson c)
  | avatar =>
    exact contentFrom_of_fromJson (C := Avatar) (by simp [EventContent.toJson, Avatar.toJson])
      rfl (Avatar.fromJson_toJson c)
  | canonicalAlias =>
    exact contentFrom_of_fromJson (C := CanonicalAlias)
      (by simp [EventContent.toJson, CanonicalAlias.toJson]) rfl (CanonicalAlias.fromJson_toJson c)
  | create => exact contentFrom_create c
  | encryption =>
    exact contentFrom_of_fromJson (C := Encryption)
      (by simp [EventContent.toJson, Encryption.toJson]) rfl (Encryption.fromJson_toJson c)
  | guestAccess =>
    exact contentFrom_of_fromJson (C := GuestAccess)
      (by simp [EventContent.toJson, GuestAccess.toJson]) rfl (GuestAccess.fromJson_toJson c)
  | historyVisibility =>
    exact contentFrom_of_fromJson (C := HistoryVisibility)
      (by simp [EventContent.toJson, HistoryVisibility.toJson]) rfl
      (HistoryVisibility.fromJson_toJson c)
  | joinRules =>
    refine contentFrom_of_fromJson (C := JoinRules)
      (by simp [EventContent.toJson, JoinRules.toJson]) ?_ (JoinRules.fromJson_toJson c)
    exact Json.isObject_of_find? (k := "join_rule") (v := .string (joinRuleToString c.join_rule))
      (by simp [EventContent.toJson, JoinRules.toJson])
  | member =>
    refine contentFrom_of_fromJson (C := Member) (by simp [EventContent.toJson, Member.toJson]) ?_
      (Member.fromJson_toJson c)
    exact Json.isObject_of_find? (k := "is_direct") (v := .boolean c.is_direct)
      (by simp [EventContent.toJson, Member.toJson])
  | name =>
    exact contentFrom_of_fromJson (C := Name) (by simp [EventContent.toJson, Name.toJson]) rfl
      (Name.fromJson_toJson c)
  | pinnedEvents =>
    exact contentFrom_of_fromJson (C := PinnedEvents)
      (by simp [EventContent.toJson, PinnedEvents.toJson]) rfl (PinnedEvents.fromJson_toJson c)
  | powerLevels =>
    refine contentFrom_of_fromJson (C := PowerLevels)
      (by simp [EventContent.toJson, PowerLevels.toJson]) ?_ (PowerLevels.fromJson_toJson c)
    exact Json.isObject_of_find? (k := "ban") (v := .numberInteger c.ban)
      (by simp [EventContent.toJson, PowerLevels.toJson])
  | userRule | roomRule | serverRule =>
    refine contentFrom_of_fromJson (by simp [EventContent.toJson, PolicyRule.Rule.toJson]) rfl ?_
    exact map_eq_ok_iff.mpr ⟨_, PolicyRule.Rule.fromJson_toJson c.toRule, rfl⟩
  | spaceChild => exact contentFrom_spaceChild c
  | spaceParent => exact contentFrom_spaceParent c
  | tombstone =>
    exact contentFrom_of_fromJson (C := Tombstone)
      (by simp [EventContent.toJson, Tombstone.toJson]) rfl (Tombstone.fromJson_toJson c)
  | serverAcl =>
    exact contentFrom_of_fromJson (C := ServerAcl)
      (by simp [EventContent.toJson, ServerAcl.toJson]) rfl (ServerAcl.fromJson_toJson c)
  | topic =>
    exact contentFrom_of_fromJson (C := Topic) (by simp [EventContent.toJson, Topic.toJson]) rfl
      (Topic.fromJson_toJson c)
  | widget =>
    refine contentFrom_of_fromJson (C := Widget) (by simp [EventContent.toJson, Widget.toJson]) ?_
      (Widget.fromJson_toJson c)
    exact Json.isObject_of_find? (k := "type") (v := .string c.type)
      (by simp [EventContent.toJson, Widget.toJson])
  | imagePack => exact contentFrom_imagePack c
  | redacted => rfl

/-! ## Room events -/

variable {json : JsonText}

/-- The `msgtype` that every message of the kind is written with. -/
def RoomKind.msgtype : RoomKind → Option Str
  | .audio => some "m.audio"
  | .emote => some "m.emote"
  | .file => some "m.file"
  | .image => some "m.image"
  | .location => some "m.location"
  | .notice => some "m.notice"
  | .text => some "m.text"
  | .video => some "m.video"
  | _ => none

/-- A content is written to `j`, with the `msgtype` of its kind, and read from there. -/
structure RoomKind.Rereads (k : RoomKind) (c : k.Content json) (j : Json) : Prop where
  written : k.write json c = .ok j
  msgtype : ∀ s, k.msgtype = some s → j.find? "msgtype" = some (.string s)
  read : Succeeds (contentFrom (k.Content json) j)

/-- The contents that are no message. -/
theorem RoomKind.rereads_of_no_message {k : RoomKind} {c : k.Content json}
    (hk : k.msgtype = none)
    (h : ∃ j, k.write json c = .ok j ∧ Succeeds (contentFrom (k.Content json) j)) :
    ∃ j, k.Rereads c j := by
  obtain ⟨j, hj, hread⟩ := h
  refine ⟨j, hj, fun s hs ↦ ?_, hread⟩
  rw [hk] at hs
  cases hs

theorem RoomKind.rereads_of_message {k : RoomKind} {c : k.Content json} {s : Str}
    (hk : k.msgtype = some s)
    (h : ∃ j, k.write json c = .ok j ∧ j.find? "msgtype" = some (.string s) ∧
      Succeeds (contentFrom (k.Content json) j)) : ∃ j, k.Rereads c j := by
  obtain ⟨j, hj, hmsgtype, hread⟩ := h
  refine ⟨j, hj, fun s' hs ↦ ?_, hread⟩
  rw [hmsgtype, Option.some.inj (hk.symm.trans hs)]

/-- **The content of a room event is read again**, unless it keeps its text. -/
theorem RoomKind.rereads {k : RoomKind} (hunknown : k ≠ .unknown) (hmessage : k ≠ .unknownMessage)
    (c : k.Content json) : ∃ j, k.Rereads c j := by
  cases k with
  | encrypted => exact rereads_of_no_message rfl (Msg.Encrypted.rereads c)
  | sticker => exact rereads_of_no_message rfl (Msg.StickerImage.rereads c)
  | reaction => exact rereads_of_no_message rfl (Msg.Reaction.rereads c)
  | redacted =>
    exact rereads_of_no_message rfl
      ⟨.null, rfl, succeeds_contentFrom_of_not_object (C := Msg.Redacted) rfl⟩
  | audio => exact rereads_of_message rfl (Msg.Audio.rereads c)
  | elementEffect =>
    obtain ⟨j, hj, -, hread⟩ := Msg.ElementEffect.rereads c
    exact rereads_of_no_message rfl ⟨j, hj, hread⟩
  | emote => exact rereads_of_message rfl (Msg.Emote.rereads c)
  | file => exact rereads_of_message rfl (Msg.File.rereads c)
  | image => exact rereads_of_message rfl (Msg.Image.rereads c)
  | location => exact rereads_of_message rfl (Msg.Location.rereads c)
  | notice => exact rereads_of_message rfl (Msg.Notice.rereads c)
  | text => exact rereads_of_message rfl (Msg.Text.rereads c)
  | unknownMessage => exact absurd rfl hmessage
  | video => exact rereads_of_message rfl (Msg.Video.rereads c)
  | keyVerificationRequest =>
    exact rereads_of_no_message rfl ⟨_, rfl, Msg.KeyVerificationRequest.rereads c⟩
  | keyVerificationStart => exact rereads_of_no_message rfl (Msg.KeyVerificationStart.rereads c)
  | keyVerificationReady => exact rereads_of_no_message rfl (Msg.KeyVerificationReady.rereads c)
  | keyVerificationDone => exact rereads_of_no_message rfl (Msg.KeyVerificationDone.rereads c)
  | keyVerificationAccept => exact rereads_of_no_message rfl (Msg.KeyVerificationAccept.rereads c)
  | keyVerificationCancel => exact rereads_of_no_message rfl (Msg.KeyVerificationCancel.rereads c)
  | keyVerificationKey => exact rereads_of_no_message rfl (Msg.KeyVerificationKey.rereads c)
  | keyVerificationMac => exact rereads_of_no_message rfl (Msg.KeyVerificationMac.rereads c)
  | callCandidates => exact rereads_of_no_message rfl ⟨_, rfl, Voip.CallCandidates.rereads c⟩
  | callInvite => exact rereads_of_no_message rfl ⟨_, rfl, Voip.CallInvite.rereads c⟩
  | callAnswer => exact rereads_of_no_message rfl ⟨_, rfl, Voip.CallAnswer.rereads c⟩
  | callHangUp => exact rereads_of_no_message rfl ⟨_, rfl, Voip.CallHangUp.rereads c⟩
  | callSelectAnswer => exact rereads_of_no_message rfl ⟨_, rfl, Voip.CallSelectAnswer.rereads c⟩
  | callReject => exact rereads_of_no_message rfl ⟨_, rfl, Voip.CallReject.rereads c⟩
  | callNegotiate => exact rereads_of_no_message rfl ⟨_, rfl, Voip.CallNegotiate.rereads c⟩
  | unknown => exact absurd rfl hunknown

/-! ## Types -/

theorem StateKind.ownType (k : StateKind) (c : k.Content) : EventContent.ownType c = none := by
  cases k <;> rfl

/-- Only an event of unknown type keeps the name of its type. -/
theorem RoomKind.ownType {k : RoomKind} (hk : k ≠ .unknown) (c : k.Content json) :
    EventContent.ownType c = none := by
  cases k
  case unknown => exact absurd rfl hk
  all_goals rfl

/-- What an event of unknown type was read from. -/
theorem Unknown.of_read {obj j : Json} {e : RoomEvent (Unknown json)}
    (hread : RoomEvent.fromJson (Unknown json) obj = .ok e) (h : e.Written j) :
    e.toEvent.Named ∧ ((∃ e', RoomEvent.fromJson (Unknown json) j = .ok e' ∧
      e'.envelope = e.envelope) ↔
        Succeeds (contentFrom (Unknown json) (Unknown.toJson e.content)) ∧
          e.envelope.NamesRedaction) := by
  obtain ⟨content, typeName, -, henv, hcontent⟩ := RoomEvent.of_read hread
  obtain ⟨-, hlength, hname, -⟩ := readEnvelope_iff.mp (readRoomEnvelope_iff.mp henv).1
  have hwritten : writtenType e.toEvent = typeName := by
    rw [writtenType, hcontent]
    rfl
  have hnamed : e.toEvent.Named := by
    rw [Event.Named, hwritten]
    exact hname
  refine ⟨hnamed, (h.fromJson_iff (Envelope.fits_of_read henv) (fun _ _ ↦ hnamed)
    (hwritten ▸ hlength)).trans ?_⟩
  rw [and_iff_right hnamed]
  rfl

theorem effectiveContent_of_not_object {content : Json} (hobj : ¬ content.isObject = true) :
    effectiveContent content = .ok content ∧ content.find? "m.new_content" = none := by
  have hnew : content.find? "m.new_content" = none := by
    obtain h | ⟨n, h⟩ := Option.eq_none_or_eq_some (content.find? "m.new_content")
    · exact h
    · exact absurd (Json.isObject_of_find? h) hobj
  rw [effectiveContent, Json.contains, hnew]
  exact ⟨rfl, rfl⟩

theorem sorted_effectiveContent {content r : Json} (h : content.sorted = true)
    (hr : effectiveContent content = .ok r) : r.sorted = true := by
  rw [effectiveContent] at hr
  split_ifs at hr
  · exact sorted_mergeNewContent h hr
  · rwa [← Except.ok.inj hr]

/-- A content of unknown type fails to be read only if it cannot be merged. -/
theorem Unknown.succeeds_contentFrom_iff {r : Json} (hwf : r.wf = true) :
    Succeeds (contentFrom (Unknown json) r) ↔
      ∀ n, r.find? "m.new_content" = some n → Mergeable r n := by
  by_cases hobj : r.isObject = true
  · have hdump : ∀ m : Json, m.wf = true → Succeeds (Unknown.fromJson json m) := fun m hm ↦ by
      rw [Unknown.fromJson, json.dump_of_validUtf8 (Json.validUtf8_of_wf hm)]
      exact succeeds_ok _
    rw [contentFrom_eq rfl hobj, effectiveContent]
    obtain hn | ⟨n, hn⟩ := Option.eq_none_or_eq_some (r.find? "m.new_content")
    · rw [if_neg (by simp [Json.contains, hn]), hn, ok_bind]
      refine iff_of_true (hdump r hwf) fun n hn' ↦ ?_
      cases hn'
    · rw [if_pos (by simp [Json.contains, hn]), succeeds_bind_iff]
      constructor
      · rintro ⟨m, hm, -⟩ n' hn'
        obtain rfl := Option.some.inj (hn.symm.trans hn')
        exact ((mergeNewContent_eq_ok_iff hn).mp hm).1
      · intro hmerge
        have hm := (mergeNewContent_eq_ok_iff hn).mpr ⟨hmerge n hn, rfl⟩
        exact ⟨_, hm, hdump _ (wf_mergeNewContent hwf hm)⟩
  · obtain ⟨-, hnew⟩ := effectiveContent_of_not_object hobj
    refine iff_of_true (succeeds_contentFrom_of_not_object (by simpa using hobj)) fun n hn ↦ ?_
    rw [hnew] at hn
    cases hn

theorem Unknown.toJson_of_parse {u : Unknown json} {j : Json} (h : json.parse u.content = .ok j) :
    u.toJson = j := by
  rw [Unknown.toJson, h]

theorem Unknown.toJson_of_not_parse {u : Unknown json} (h : ∀ j, json.parse u.content ≠ .ok j) :
    u.toJson = .null := by
  rw [Unknown.toJson]
  rcases hp : json.parse u.content with err | obj
  · rfl
  · exact absurd hp (h obj)

/-- Of something that is no object no text is kept. -/
theorem Unknown.toJson_of_not_object {content : Json} {u : Unknown json}
    (hread : contentFrom (Unknown json) content = .ok u) (hobj : ¬ content.isObject = true)
    (hempty : ∀ j, json.parse [] ≠ .ok j) (typeName : Str) :
    Unknown.toJson (EventContent.setType typeName u) = .null := by
  obtain ⟨-, hnew⟩ := effectiveContent_of_not_object hobj
  have hcontains : content.contains "m.new_content" = false :=
    Json.contains_eq_false_iff.mpr hnew
  rw [contentFrom, hcontains, Bool.and_false, Bool.eq_false_iff.mpr hobj] at hread
  rw [← Except.ok.inj hread]
  exact Unknown.toJson_of_not_parse hempty

/-- The content of an event of unknown type is read again if it can be merged again. -/
theorem Unknown.rereads_iff {content : Json} {u : Unknown json}
    (hread : contentFrom (Unknown json) content = .ok u) (hsorted : content.sorted = true)
    (hempty : ∀ j, json.parse [] ≠ .ok j)
    (hrestores : ∀ r, effectiveContent content = .ok r → json.Restores r) (typeName : Str) :
    Succeeds (contentFrom (Unknown json) (Unknown.toJson (EventContent.setType typeName u))) ↔
      ∀ r n, effectiveContent content = .ok r → r.find? "m.new_content" = some n →
        Mergeable r n := by
  by_cases hobj : content.isObject = true
  · rw [contentFrom_eq rfl hobj] at hread
    obtain ⟨r, hr, hread⟩ := bind_eq_ok_iff.mp hread
    obtain ⟨text, htext, hu⟩ := bind_eq_ok_iff.mp hread
    obtain ⟨hvalid, htext⟩ := JsonText.dump_eq_ok_iff.mp htext
    have hwritten : Unknown.toJson (EventContent.setType typeName u) = r := by
      rw [← Except.ok.inj hu, ← htext]
      exact Unknown.toJson_of_parse (hrestores r hr)
    rw [hwritten, Unknown.succeeds_contentFrom_iff
      (Bool.and_eq_true_iff.mpr ⟨sorted_effectiveContent hsorted hr, hvalid⟩)]
    constructor
    · intro h r' n hr'
      obtain rfl := Except.ok.inj (hr.symm.trans hr')
      exact h n
    · exact fun h n ↦ h r n hr
  · obtain ⟨heffective, hnew⟩ := effectiveContent_of_not_object hobj
    rw [Unknown.toJson_of_not_object hread hobj hempty]
    refine iff_of_true (succeeds_contentFrom_of_not_object rfl) fun r n hr hn ↦ ?_
    rw [heffective] at hr
    rw [← Except.ok.inj hr, hnew] at hn
    cases hn

end Mtx.Events
