import MtxClient.Events.State

/-!
# Edited contents

`from_json(Event<Content>)` reads the content of an event from `content.m.new_content` whenever that
member is there.  `detail::can_edit` tells the contents that can be edited, those with relations,
from the others, but the template does not ask it: the only content it leaves alone is
`msg::Encrypted`.  So `m.new_content` also replaces the content of a state event, whose power
levels or membership the server reads from the outer object.

`IgnoresNewContent e` says that this makes no difference for the event `e`, whatever content type
without relations it is read as, and `ignoresNewContent_iff` says when that is so: the event must
be unreadable anyway, have no `m.new_content`, or only repeat its own content there.
-/

set_option autoImplicit false

namespace Mtx.Events

open Str

/-- The event with the member `m.new_content` of its content removed. -/
def dropNewContent (e : Json) : Json :=
  match e.find? "content" with
  | some content => e.put "content" (content.without "m.new_content")
  | none => e

/-- Whatever content type without relations the event is read as, and into whatever wrapper,
`m.new_content` does not change the content. -/
def IgnoresNewContent (e : Json) : Prop :=
  ∀ (C : Type) [EventContent C], EventContent.canEdit C = false →
    (Event.fromJson C e).toOption.map (fun ev ↦ ev.content) =
        (Event.fromJson C (dropNewContent e)).toOption.map (fun ev ↦ ev.content) ∧
      (StrippedEvent.fromJson C e).toOption.map (fun ev ↦ ev.content) =
        (StrippedEvent.fromJson C (dropNewContent e)).toOption.map (fun ev ↦ ev.content) ∧
      (StateEvent.fromJson C e).toOption.map (fun ev ↦ ev.content) =
        (StateEvent.fromJson C (dropNewContent e)).toOption.map (fun ev ↦ ev.content)

/-- The member `m.new_content` repeats the content it stands in: it has the same members, except
that the relations, which are copied into it, are missing or may be anything. -/
structure Repeats (newContent content : Json) : Prop where
  /-- It is an object, or `null` that the copied relations turn into one. -/
  shape : newContent.isObject = true ∨ newContent = .null ∧
    (content.contains "m.relates_to" = true ∨
      content.contains "im.nheko.relations.v1.relations" = true)
  /-- It has no relation of its own. -/
  noRelation : newContent.find? "m.relates_to" = none
  /-- It agrees with the content on every other member that is not copied. -/
  same : ∀ k : Str, k ≠ "m.relates_to" →
    k = "im.nheko.relations.v1.relations" ∧ content.contains k = true ∨
      newContent.find? k = (content.without "m.new_content").find? k

/-! ## Where the content is read from -/

theorem find?_dropNewContent {e : Json} {k : Str} (hk : k ≠ "content") :
    (dropNewContent e).find? k = e.find? k := by
  rw [dropNewContent]
  split
  · next c h => rw [Json.find?_put (Or.inr (Json.isObject_of_find? h)), if_neg hk]
  · rfl

theorem isObject_dropNewContent (e : Json) : (dropNewContent e).isObject = e.isObject := by
  rw [dropNewContent]
  split
  · next c h =>
    rw [Json.isObject_put (Or.inr (Json.isObject_of_find? h)), Json.isObject_of_find? h]
  · rfl

theorem find?_content_dropNewContent (e : Json) :
    (dropNewContent e).find? "content" =
      (e.find? "content").map fun c ↦ c.without "m.new_content" := by
  rw [dropNewContent]
  split
  · next c h => rw [Json.find?_put (Or.inr (Json.isObject_of_find? h)), if_pos rfl, h]; rfl
  · next h => rw [h]; rfl

theorem readContent_of_newContent {C : Type} [EventContent C] (hC : EventContent.canEdit C = false)
    {e content : Json} (hc : e.find? "content" = some content)
    (hn : content.contains "m.new_content" = true) :
    readContent C e = mergeNewContent content >>= EventContent.fromJson := by
  have henc : EventContent.isEncrypted C = false := by
    cases h : EventContent.isEncrypted C with
    | false => rfl
    | true => rw [EventContent.canEdit_of_isEncrypted h] at hC; cases hC
  rw [readContent, Json.atKey_of_find? hc, ok_bind, henc, hn]
  rfl

theorem readContent_of_not_newContent {C : Type} [EventContent C] {e content : Json}
    (hc : e.find? "content" = some content) (hn : content.contains "m.new_content" = false) :
    readContent C e =
      if content.isObject then EventContent.fromJson content else .ok EventContent.default := by
  rw [readContent, Json.atKey_of_find? hc, ok_bind, hn, Bool.and_false]
  rfl

theorem readContent_dropNewContent {C : Type} [EventContent C] {e content : Json}
    (hc : e.find? "content" = some content) :
    readContent C (dropNewContent e) =
      if content.isObject then EventContent.fromJson (content.without "m.new_content")
      else .ok EventContent.default := by
  have h : (dropNewContent e).find? "content" = some (content.without "m.new_content") := by
    rw [find?_content_dropNewContent, hc]; rfl
  rw [readContent_of_not_newContent h (by simp [Json.contains]), Json.isObject_without]

/-! ## The rest of the event -/

theorem readEnvelope_dropNewContent (e : Json) :
    readEnvelope (dropNewContent e) = readEnvelope e := by
  have ht := find?_dropNewContent (e := e) (k := "type") (by simp)
  have hs := find?_dropNewContent (e := e) (k := "sender") (by simp)
  rw [readEnvelope, readEnvelope, Json.atKey_congr (isObject_dropNewContent e) ht,
    Json.value_congr (isObject_dropNewContent e) hs]

theorem readStateKey_dropNewContent (e : Json) :
    readStateKey (dropNewContent e) = readStateKey e := by
  have h := find?_dropNewContent (e := e) (k := "state_key") (by simp)
  rw [readStateKey, readStateKey, Json.atKey_congr (isObject_dropNewContent e) h]

variable {C : Type} [EventContent C] {e : Json}

theorem event_dropNewContent (h : readContent C (dropNewContent e) = readContent C e) :
    Event.fromJson C (dropNewContent e) = Event.fromJson C e := by
  rw [Event.fromJson, Event.fromJson, h, readEnvelope_dropNewContent]

theorem strippedEvent_dropNewContent (h : readContent C (dropNewContent e) = readContent C e) :
    StrippedEvent.fromJson C (dropNewContent e) = StrippedEvent.fromJson C e := by
  rw [StrippedEvent.fromJson, StrippedEvent.fromJson, event_dropNewContent h,
    readStateKey_dropNewContent]

theorem roomEvent_dropNewContent (h : readContent C (dropNewContent e) = readContent C e) :
    RoomEvent.fromJson C (dropNewContent e) = RoomEvent.fromJson C e := by
  have hid := find?_dropNewContent (e := e) (k := "event_id") (by simp)
  have hts := find?_dropNewContent (e := e) (k := "origin_server_ts") (by simp)
  have hroom := find?_dropNewContent (e := e) (k := "room_id") (by simp)
  have huns := find?_dropNewContent (e := e) (k := "unsigned") (by simp)
  rw [RoomEvent.fromJson, RoomEvent.fromJson, event_dropNewContent h,
    Json.atKey_congr (isObject_dropNewContent e) hid,
    Json.atKey_congr (isObject_dropNewContent e) hts, Json.optional_congr hroom,
    Json.optional_congr huns]

theorem stateEvent_dropNewContent (h : readContent C (dropNewContent e) = readContent C e) :
    StateEvent.fromJson C (dropNewContent e) = StateEvent.fromJson C e := by
  rw [StateEvent.fromJson, StateEvent.fromJson, roomEvent_dropNewContent h,
    readStateKey_dropNewContent]

/-! ## What the merge gives

`copied src dst k` is what `copyMember` makes of a destination that is `null` or an object. -/

/-- The destination of `copyMember`, with the member copied. -/
def copied (src dst : Json) (k : Str) : Json :=
  match src.find? k with
  | some v => dst.put k v
  | none => dst

section

variable {src dst : Json} {k : Str}

theorem copyMember_eq_ok (h : dst = .null ∨ dst.isObject = true) :
    Json.copyMember src dst k = .ok (copied src dst k) := by
  rw [Json.copyMember, copied]
  cases src.find? k with
  | some v => exact Json.set_eq_ok h k v
  | none => rfl

theorem find?_copied (h : dst = .null ∨ dst.isObject = true) (k' : Str) :
    (copied src dst k).find? k' =
      if k' = k ∧ src.contains k = true then src.find? k else dst.find? k' := by
  rw [copied]
  split
  · next v hv => rw [Json.find?_put h]; simp [Json.contains, hv]
  · next hv => simp [Json.contains, hv]

theorem isObject_copied (h : dst = .null ∨ dst.isObject = true) :
    (copied src dst k).isObject = (dst.isObject || src.contains k) := by
  rw [copied]
  split
  · next v hv => rw [Json.isObject_put h]; simp [Json.contains, hv]
  · next hv => simp [Json.contains, hv]

theorem copied_shape (h : dst = .null ∨ dst.isObject = true) :
    copied src dst k = .null ∨ (copied src dst k).isObject = true := by
  rw [copied]
  split
  · exact Or.inr (Json.isObject_put h _ _)
  · exact h

theorem sortedKeys_copied (h : dst.SortedKeys) : (copied src dst k).SortedKeys := by
  rw [copied]
  split
  · exact h.put _ _
  · exact h

/-- Copying into something else than `null` or an object fails, or does nothing. -/
theorem copyMember_of_not_object {m : Json} (h : ¬(dst = .null ∨ dst.isObject = true))
    (hm : Json.copyMember src dst k = .ok m) : m = dst := by
  rw [Json.copyMember] at hm
  split at hm
  · cases dst <;> simp_all [Json.set, Json.isObject]
  · exact (Except.ok.inj hm).symm

end

variable {content newContent : Json}

/-- Without a relation of its own, `m.new_content` gets the two relation members of the content and
stays as it is otherwise. -/
theorem mergeNewContent_of_noRelation
    (hn : content.find? "m.new_content" = some newContent)
    (hr : newContent.find? "m.relates_to" = none)
    (h : newContent = .null ∨ newContent.isObject = true) :
    mergeNewContent content = .ok (copied content (copied content newContent "m.relates_to")
      "im.nheko.relations.v1.relations") := by
  rw [mergeNewContent, Json.atKey_of_find? hn, ok_bind, copyMember_eq_ok h, ok_bind, hr]
  exact copyMember_eq_ok (copied_shape h)

/-- A relation of its own ends up below `m.new_content` of the merged content. -/
theorem find?_mergeNewContent_of_relation {r merged : Json}
    (hn : content.find? "m.new_content" = some newContent)
    (hr : newContent.find? "m.relates_to" = some r)
    (hm : mergeNewContent content = .ok merged) : merged.find? "m.new_content" ≠ none := by
  have h : newContent = .null ∨ newContent.isObject = true := Or.inr (Json.isObject_of_find? hr)
  rw [mergeNewContent, Json.atKey_of_find? hn, ok_bind, copyMember_eq_ok h, ok_bind, hr] at hm
  obtain ⟨withPath, hpath, hm⟩ := bind_eq_ok_iff.mp hm
  have hobj : (copied content newContent "m.relates_to").isObject = true := by
    rw [isObject_copied h, Json.isObject_of_find? hr, Bool.true_or]
  obtain ⟨child, hput⟩ : ∃ child, withPath =
      (copied content newContent "m.relates_to").put "m.new_content" child := by
    cases hc : copied content newContent "m.relates_to" with
    | object ms =>
      rw [hc, Json.setPath] at hpath
      obtain ⟨child, -, hpath⟩ := bind_eq_ok_iff.mp hpath
      exact ⟨child, (Except.ok.inj hpath).symm⟩
    | _ => rw [hc] at hobj; cases hobj
  have hpathObj : withPath = .null ∨ withPath.isObject = true :=
    Or.inr (by rw [hput]; exact Json.isObject_put (Or.inr hobj) _ _)
  have hm : Json.copyMember content withPath "im.nheko.relations.v1.relations" = .ok merged := hm
  rw [copyMember_eq_ok hpathObj, Except.ok.injEq] at hm
  rw [← hm, find?_copied hpathObj, if_neg (by simp), hput, Json.find?_put (Or.inr hobj), if_pos rfl]
  simp

/-- **The merged content is the content without `m.new_content` exactly when `m.new_content`
repeats it.** -/
theorem mergeNewContent_eq_without_iff (hs : content.SortedKeys) (hs' : newContent.SortedKeys)
    (hn : content.find? "m.new_content" = some newContent) :
    mergeNewContent content = .ok (content.without "m.new_content") ↔
      Repeats newContent content := by
  have hobj : (content.without "m.new_content").isObject = true := by
    rw [Json.isObject_without, Json.isObject_of_find? hn]
  constructor
  · intro hm
    have hr : newContent.find? "m.relates_to" = none := by
      cases hr : newContent.find? "m.relates_to" with
      | none => rfl
      | some r => exact absurd (by simp) (find?_mergeNewContent_of_relation hn hr hm)
    have hshape : newContent = .null ∨ newContent.isObject = true := by
      by_contra hno
      rw [mergeNewContent, Json.atKey_of_find? hn, ok_bind] at hm
      obtain ⟨m, h1, hm⟩ := bind_eq_ok_iff.mp hm
      rw [hr, copyMember_of_not_object hno h1] at hm
      obtain ⟨m', h2, hm⟩ := bind_eq_ok_iff.mp hm
      cases h2
      rw [copyMember_of_not_object hno hm] at hobj
      exact hno (Or.inr hobj)
    rw [mergeNewContent_of_noRelation hn hr hshape, Except.ok.injEq] at hm
    refine ⟨?_, hr, fun k hk ↦ ?_⟩
    · rw [← hm, isObject_copied (copied_shape hshape), isObject_copied hshape] at hobj
      rcases hshape with rfl | hshape
      · exact Or.inr ⟨rfl, by simpa [Json.isObject] using hobj⟩
      · exact Or.inl hshape
    · rw [← hm, find?_copied (copied_shape hshape), find?_copied hshape]
      by_cases hrel : k = "im.nheko.relations.v1.relations" ∧
          content.contains "im.nheko.relations.v1.relations" = true
      · exact Or.inl ⟨hrel.1, by rw [hrel.1]; exact hrel.2⟩
      · exact Or.inr (by rw [if_neg hrel, if_neg (fun h ↦ hk h.1)])
  · intro hrep
    have hshape : newContent = .null ∨ newContent.isObject = true :=
      hrep.shape.symm.imp_left And.left
    rw [mergeNewContent_of_noRelation hn hrep.noRelation hshape, Except.ok.injEq]
    refine Json.SortedKeys.ext (sortedKeys_copied (sortedKeys_copied hs')) (hs.without _) ?_ hobj
      fun k ↦ ?_
    · rw [isObject_copied (copied_shape hshape), isObject_copied hshape]
      rcases hrep.shape with h | ⟨rfl, h⟩
      · rw [h]; rfl
      · simpa [Json.isObject] using h
    · rw [find?_copied (copied_shape hshape), find?_copied hshape]
      by_cases hrel : k = "m.relates_to"
      · have hne : k ≠ "im.nheko.relations.v1.relations" := by rw [hrel]; simp
        have hne' : k ≠ "m.new_content" := by rw [hrel]; simp
        rw [if_neg (fun h ↦ hne h.1), hrel, hrep.noRelation, Json.find?_without, ← hrel,
          if_neg hne']
        split
        · rfl
        · next h => exact (Json.contains_eq_false_iff.mp (by simpa using h)).symm
      · rw [if_neg (fun h : k = _ ∧ _ ↦ hrel h.1)]
        rcases hrep.same k hrel with ⟨rfl, hc⟩ | hsame
        · rw [if_pos ⟨rfl, hc⟩, Json.find?_without, if_neg (by simp)]
        · rw [hsame, Json.find?_without]
          split
          · next h => rw [h.1, if_neg (by simp)]
          · rfl

/-! ## When it makes no difference -/

/-- The type and the sender of the event are such that it can be read. -/
structure HasEnvelope (e : Json) : Prop where
  /-- The type is a string of 1 to 255 bytes. -/
  type : ∃ t : Str, e.find? "type" = some (.string t) ∧ t ≠ "" ∧ t.length ≤ 255
  /-- The sender is missing or a string of at most 255 bytes. -/
  sender : e.find? "sender" = none ∨
    ∃ s : Str, e.find? "sender" = some (.string s) ∧ s.length ≤ 255

theorem getEventType_eq_error_iff (t : Str) :
    (∃ x, getEventType t = .error x) ↔ t = "" := by
  rw [getEventType]
  constructor
  · rintro ⟨x, h⟩
    split at h
    · cases h
    · split_ifs at h with ht
      exact ht
  · rintro rfl
    exact ⟨_, rfl⟩

theorem readEnvelope_eq_ok_iff (e : Json) : (∃ r, readEnvelope e = .ok r) ↔ HasEnvelope e := by
  constructor
  · rintro ⟨r, h⟩
    simp only [readEnvelope, bind_eq_ok_iff, throwIf_eq_ok_iff, Json.atKey_eq_ok_iff,
      Json.getString_eq_ok_iff] at h
    obtain ⟨_, htj, t, rfl, _, hlen, ty, hty, s, hs, _, hslen, -⟩ := h
    have hne : t ≠ "" := fun h0 ↦ by
      obtain ⟨x, hx⟩ := (getEventType_eq_error_iff t).mpr h0
      rw [hx] at hty
      cases hty
    refine ⟨⟨t, htj, hne, by omega⟩, ?_⟩
    cases hsender : e.find? "sender" with
    | none => exact Or.inl rfl
    | some v =>
      rw [Json.value_of_find? hsender, Json.getString_eq_ok_iff] at hs
      subst hs
      exact Or.inr ⟨s, rfl, by omega⟩
  · rintro ⟨⟨t, ht, hne, htlen⟩, hsender⟩
    obtain ⟨ty, hty⟩ : ∃ ty, getEventType t = .ok ty := by
      cases h : getEventType t with
      | error x => exact absurd ((getEventType_eq_error_iff t).mp ⟨x, h⟩) hne
      | ok ty => exact ⟨ty, rfl⟩
    obtain ⟨s, hs, hslen⟩ : ∃ s, e.value "sender" Json.getString "" = .ok s ∧ s.length ≤ 255 := by
      rcases hsender with h | ⟨s, h, hslen⟩
      · exact ⟨"", Json.value_of_find?_none (Json.isObject_of_find? ht) h _ _, by decide⟩
      · exact ⟨s, by rw [Json.value_of_find? h]; rfl, hslen⟩
    refine ⟨(ty, t, s), ?_⟩
    rw [readEnvelope, Json.atKey_of_find? ht, ok_bind, Json.getString_string, ok_bind,
      throwIf_of_not (by omega), ok_bind, hty, ok_bind, hs, ok_bind, throwIf_of_not (by omega)]
    rfl

theorem hasEnvelope_dropNewContent : HasEnvelope (dropNewContent e) ↔ HasEnvelope e := by
  rw [← readEnvelope_eq_ok_iff, readEnvelope_dropNewContent, readEnvelope_eq_ok_iff]

/-- If `m.new_content` is missing or repeats the content, nothing that is read changes. -/
theorem readContent_dropNewContent_eq (hC : EventContent.canEdit C = false) (d : Document)
    (h : ∀ content newContent, d.json.find? "content" = some content →
      content.find? "m.new_content" = some newContent → Repeats newContent content) :
    readContent C (dropNewContent d.json) = readContent C d.json := by
  have hsorted : d.json.sorted = true := (Bool.and_eq_true_iff.mp d.wf).1
  cases hc : d.json.find? "content" with
  | none => rw [dropNewContent, hc]
  | some content =>
    have hcs := Json.sorted_of_find? hsorted hc
    rw [readContent_dropNewContent hc]
    cases hn : content.find? "m.new_content" with
    | none =>
      rw [readContent_of_not_newContent hc (Json.contains_eq_false_iff.mpr hn),
        Json.without_of_find?_none hn]
    | some newContent =>
      have hmerge := (mergeNewContent_eq_without_iff (Json.sortedKeys_of_sorted hcs)
        (Json.sortedKeys_of_sorted (Json.sorted_of_find? hcs hn)) hn).mpr (h _ _ hc hn)
      rw [readContent_of_newContent hC hc (Json.contains_eq_true_iff.mpr ⟨_, hn⟩), hmerge,
        Json.isObject_of_find? hn]
      rfl

/-- A content type that keeps the whole object, as `Unknown` does. -/
@[reducible] def wholeContent : EventContent Json where
  fromJson := .ok
  toJson := id
  default := .null
  canEdit := false
  canEdit_of_isEncrypted := editable_of_encrypted

/-- The content of an event whose envelope can be read is whatever `readContent` answers. -/
theorem content_fromJson (henv : HasEnvelope e) :
    (Event.fromJson C e).toOption.map (fun ev ↦ ev.content) =
      (readContent C e).toOption.map (fun c ↦
        EventContent.setType ((readEnvelope e).toOption.map (fun r ↦ r.2.1) |>.getD "") c) := by
  obtain ⟨r, hr⟩ := (readEnvelope_eq_ok_iff e).mpr henv
  rw [Event.fromJson, hr]
  cases readContent C e <;> rfl

theorem content_fromJson_of_not_hasEnvelope (henv : ¬ HasEnvelope e) :
    (Event.fromJson C e).toOption.map (fun ev ↦ ev.content) = none ∧
      (StrippedEvent.fromJson C e).toOption.map (fun ev ↦ ev.content) = none ∧
      (StateEvent.fromJson C e).toOption.map (fun ev ↦ ev.content) = none := by
  have henvelope : ∃ x, readEnvelope e = .error x := by
    cases h : readEnvelope e with
    | error x => exact ⟨x, rfl⟩
    | ok r => exact absurd ((readEnvelope_eq_ok_iff e).mp ⟨r, h⟩) henv
  obtain ⟨x, hx⟩ := henvelope
  obtain ⟨y, hy⟩ : ∃ y, Event.fromJson C e = .error y := by
    rw [Event.fromJson, hx]
    cases readContent C e with
    | error z => exact ⟨z, rfl⟩
    | ok c => exact ⟨x, rfl⟩
  rw [StrippedEvent.fromJson, StateEvent.fromJson, RoomEvent.fromJson, hy]
  exact ⟨rfl, rfl, rfl⟩

/-- **`m.new_content` makes no difference to contents without relations exactly for the events that
cannot be read, have no `m.new_content`, or only repeat their content there.** -/
theorem ignoresNewContent_iff (d : Document) :
    IgnoresNewContent d.json ↔
      (HasEnvelope d.json → ∀ content newContent, d.json.find? "content" = some content →
        content.find? "m.new_content" = some newContent → Repeats newContent content) := by
  have hsorted : d.json.sorted = true := (Bool.and_eq_true_iff.mp d.wf).1
  constructor
  · intro h henv content newContent hc hn
    have hcs := Json.sorted_of_find? hsorted hc
    have henv' := hasEnvelope_dropNewContent.mpr henv
    have heq := (@h Json wholeContent rfl).1
    rw [@content_fromJson Json wholeContent _ henv, @content_fromJson Json wholeContent _ henv',
      @readContent_of_newContent Json wholeContent rfl _ _ hc
        (Json.contains_eq_true_iff.mpr ⟨_, hn⟩),
      @readContent_dropNewContent Json wholeContent _ _ hc, Json.isObject_of_find? hn] at heq
    refine (mergeNewContent_eq_without_iff (Json.sortedKeys_of_sorted hcs)
      (Json.sortedKeys_of_sorted (Json.sorted_of_find? hcs hn)) hn).mp ?_
    cases hm : mergeNewContent content with
    | error x => rw [hm] at heq; cases heq
    | ok m => rw [hm] at heq; exact congrArg _ (Option.some.inj heq)
  · intro h C _ hC
    by_cases henv : HasEnvelope d.json
    · have hread := readContent_dropNewContent_eq hC d (h henv)
      rw [event_dropNewContent hread, strippedEvent_dropNewContent hread,
        stateEvent_dropNewContent hread]
      exact ⟨rfl, rfl, rfl⟩
    · have hnone := content_fromJson_of_not_hasEnvelope (C := C) henv
      have hnone' := content_fromJson_of_not_hasEnvelope (C := C)
        (mt hasEnvelope_dropNewContent.mp henv)
      exact ⟨hnone.1.trans hnone'.1.symm, hnone.2.1.trans hnone'.2.1.symm,
        hnone.2.2.trans hnone'.2.2.symm⟩

/-- A power level event whose content gives nobody any level, with an edit that gives everybody
the level of an administrator. -/
def promotion : Json :=
  .object [
    (lit "content", .object [
      (lit "m.new_content", .object [(lit "users_default", .numberUnsigned 100)]),
      (lit "users_default", .numberUnsigned 0)]),
    (lit "event_id", .string "$e:example.org"),
    (lit "origin_server_ts", .numberUnsigned 1),
    (lit "sender", .string "@alice:example.org"),
    (lit "state_key", .string ""),
    (lit "type", .string "m.room.power_levels")]

/-- **An edit of the power levels is taken for the power levels.** -/
theorem promotion_not_ignored :
    promotion.wf = true ∧
      (StateEvent.fromJson PowerLevels promotion).toOption.map (fun ev ↦ ev.content.users_default) =
        some 100 ∧
      (StateEvent.fromJson PowerLevels (dropNewContent promotion)).toOption.map
        (fun ev ↦ ev.content.users_default) = some 0 ∧
      ¬ IgnoresNewContent promotion := by
  have hread : (StateEvent.fromJson PowerLevels promotion).toOption.map
      (fun ev ↦ ev.content.users_default) = some 100 := by rfl
  have hdrop : (StateEvent.fromJson PowerLevels (dropNewContent promotion)).toOption.map
      (fun ev ↦ ev.content.users_default) = some 0 := by rfl
  refine ⟨by decide, hread, hdrop, fun h ↦ ?_⟩
  have heq := congrArg (Option.map fun c : PowerLevels ↦ c.users_default) (h PowerLevels rfl).2.2
  rw [Option.map_map, Option.map_map] at heq
  exact absurd (hread.symm.trans (heq.trans hdrop)) (by decide)

end Mtx.Events
