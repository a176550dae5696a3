import MtxClient.Events.Merging
import MtxClient.Events.Reapplying

/-!
# What is known of relations that were read

The strings of relations that are read from a well-formed value are UTF-8, and relations that are
read from an `m.relates_to` can be written over it: `Synthesized` says what stands there.
-/

set_option autoImplicit false

namespace Mtx.Events

open Str

/-! ## Well-formed values -/

/-- The strings of the relation are UTF-8. -/
structure Relation.Utf8 (r : Relation) : Prop where
  event_id : validUtf8 r.event_id = true
  key : ∀ k ∈ r.key, validUtf8 k = true

theorem Relation.Utf8.wf_toJson {r : Relation} (h : r.Utf8) : r.toJson.wf = true := by
  have htype : validUtf8 r.rel_type.toStr = true := by
    cases r.rel_type <;> decide
  refine Json.wf_ofMembers (.insertIf (.insertIf (.insert (.insert .empty ?_) ?_) ?_) ?_)
  · exact ⟨by decide, htype⟩
  · exact ⟨by decide, h.event_id⟩
  · refine ⟨by decide, ?_⟩
    rcases hkey : r.key with - | k
    · rfl
    · exact h.key k hkey
  · exact ⟨by decide, rfl⟩

theorem Relation.utf8_of_fromJson {obj : Json} (h : obj.wf = true) {r : Relation}
    (hr : Relation.fromJson obj = .ok r) : r.Utf8 := by
  simp only [Relation.fromJson, bind_eq_ok_iff] at hr
  obtain ⟨rel_type, -, event_id, hid, key, hkey, is_fallback, -, hr⟩ := hr
  rw [← Except.ok.inj hr]
  refine ⟨validUtf8_of_optional (Json.validUtf8_of_wf h) hid, fun k hk ↦ ?_⟩
  rw [Json.optional] at hkey
  rcases hv : obj.find? "key" with - | v
  · rw [hv] at hkey
    cases (Except.ok.inj hkey).trans hk
  · rw [hv] at hkey
    obtain ⟨s, hs, hsome⟩ := map_eq_ok_iff.mp hkey
    obtain rfl := Json.getString_eq_ok_iff.mp hs
    obtain rfl := Option.some.inj (hsome.trans hk)
    exact Json.wf_of_find? h hv

theorem utf8_of_parseEdited {content : Json} (h : content.wf = true) {rs : List Relation}
    (hrs : parseEdited content = .ok rs) : ∀ r ∈ rs, r.Utf8 := by
  intro r hr
  rw [parseEdited] at hrs
  rcases hn : content.find? "m.new_content" with - | n
  · rw [hn] at hrs
    rw [← Except.ok.inj hrs] at hr
    cases hr
  · rcases hs : n.find? "m.relates_to" with - | second
    · rw [hn, Option.bind_some, hs] at hrs
      rw [← Except.ok.inj hrs] at hr
      cases hr
    · rw [hn, Option.bind_some, hs] at hrs
      have hsecond := Json.wf_of_find? (Json.wf_of_find? h hn) hs
      dsimp only at hrs
      split_ifs at hrs
      · simp only [bind_eq_ok_iff] at hrs
        obtain ⟨-, -, -, -, -, -, hrs⟩ := hrs
        rw [← Except.ok.inj hrs] at hr
        rw [List.mem_singleton.mp hr]
        exact ⟨rfl, fun k hk ↦ by cases hk⟩
      · obtain ⟨r', hr', hrs⟩ := bind_eq_ok_iff.mp hrs
        rw [← Except.ok.inj hrs] at hr
        rw [List.mem_singleton.mp hr]
        exact Relation.utf8_of_fromJson hsecond hr'

theorem utf8_of_parseReply {relates_to : Json} (h : relates_to.wf = true) {rels : Relations}
    (hrels : parseReply relates_to = .ok rels) : ∀ r ∈ rels.relations, r.Utf8 := by
  intro r hr
  simp only [parseReply, bind_eq_ok_iff, Json.atKey_eq_ok_iff, Json.getString_eq_ok_iff] at hrels
  obtain ⟨reply, hreply, _, hid, id, rfl, hrels⟩ := hrels
  have hid : validUtf8 id = true := Json.wf_of_find? (Json.wf_of_find? h hreply) hid
  split_ifs at hrels
  · simp only [bind_eq_ok_iff] at hrels
    obtain ⟨is_fallback, -, thread, hthread, hrels⟩ := hrels
    rw [← Except.ok.inj hrels] at hr
    rcases List.mem_cons.mp hr with rfl | hr
    · exact Relation.utf8_of_fromJson h hthread
    · rw [List.mem_singleton.mp hr]
      exact ⟨hid, fun k hk ↦ by cases hk⟩
  · rw [← Except.ok.inj hrels] at hr
    rw [List.mem_singleton.mp hr]
    exact ⟨hid, fun k hk ↦ by cases hk⟩

/-- What is read from well-formed values can be written to them. -/
theorem utf8_of_parseRelations {content : Json} (h : content.wf = true) {rels : Relations}
    (hrels : parseRelations content = .ok rels) : ∀ r ∈ rels.relations, r.Utf8 := by
  rw [parseRelations] at hrels
  rcases hlist : content.find? "im.nheko.relations.v1.relations" with - | list
  · rcases hrelates : content.find? "m.relates_to" with - | relates_to
    · rw [hlist, hrelates] at hrels
      rw [← Except.ok.inj hrels]
      exact fun r hr ↦ by cases hr
    · rw [hlist, hrelates] at hrels
      have hwf := Json.wf_of_find? h hrelates
      dsimp only at hrels
      split_ifs at hrels
      · exact utf8_of_parseReply hwf hrels
      · obtain ⟨r, hr, hrels⟩ := bind_eq_ok_iff.mp hrels
        split_ifs at hrels
        · obtain ⟨edited, hedited, hrels⟩ := bind_eq_ok_iff.mp hrels
          rw [← Except.ok.inj hrels]
          exact List.forall_mem_cons.mpr ⟨Relation.utf8_of_fromJson hwf hr,
            utf8_of_parseEdited h hedited⟩
        · rw [← Except.ok.inj hrels]
          exact List.forall_mem_singleton.mpr (Relation.utf8_of_fromJson hwf hr)
  · rw [hlist] at hrels
    obtain ⟨rs, hrs, hrels⟩ := bind_eq_ok_iff.mp hrels
    rw [← Except.ok.inj hrels]
    have hwf := Json.wf_of_find? h hlist
    intro r hr
    rcases list with - | b | i | u | f | s | xs | ms
    case array =>
      obtain ⟨x, hx, hread⟩ := (mem_of_mapM_eq_ok hrs).1 r hr
      exact Relation.utf8_of_fromJson (Json.wf_array_iff.mp hwf x hx) hread
    all_goals cases hrs

/-! ## Relations without a list of them -/

/-- The relations that `add_relations` tells apart. -/
def Relations.slots (rels : Relations) : Slots := rels.relations.foldl Slots.assign {}

/-- What is known of relations that were read from an `m.relates_to`. -/
structure Synthesized (content relates_to : Json) (s : Slots) : Prop where
  /-- There is one. -/
  relation : s.edit = none → s.not_edit = none → s.reply ≠ none
  reply : s.reply ≠ none → s.not_edit = none →
    relates_to.isObject = true ∧ (relates_to.member "m.in_reply_to").Assignable
  replied : s.edit = none → s.not_edit = none → ∀ event_id c,
    ReadableRelatesTo c (replied relates_to event_id)
  edited : s.edit ≠ none → ReadableEdited content

theorem readableRelatesTo_replied {relates_to c : Json} (h : relates_to.isObject = true)
    (hreply : (relates_to.member "m.in_reply_to").Assignable) (event_id : Str)
    (hthread : relates_to.find? "rel_type" = some (.string "m.thread") →
      relates_to.contains "event_id" = false) :
    ReadableRelatesTo c (replied relates_to event_id) := by
  have hfind := find?_replied h event_id
  rw [ReadableRelatesTo, hfind, if_pos rfl]
  refine ⟨⟨event_id, (Json.find?_put hreply _ _ _).trans (if_pos rfl)⟩, fun htype hid ↦ ?_⟩
  rw [hfind, if_neg (by simp)] at htype
  rw [Json.contains, hfind, if_neg (by simp)] at hid
  rw [Json.contains] at hthread
  rw [hthread htype] at hid
  cases hid

/-- Relations that replace an event have an edit among them. -/
theorem slots_edit_ne_none {rels : Relations} {r : Relation} (hr : r ∈ rels.relations)
    (htype : r.rel_type = .replace) : rels.slots.edit ≠ none := by
  rw [ne_eq, Relations.slots, edit_eq_none_iff, replaces_eq_none_iff]
  intro h
  exact h r hr htype

theorem Relation.rel_type_of_fromJson {obj : Json} {r : Relation}
    (h : Relation.fromJson obj = .ok r) :
    obj.find? "rel_type" = none ∧ r.rel_type = .unsupported ∨
      ∃ s, obj.find? "rel_type" = some (.string s) ∧ r.rel_type = .ofStr s := by
  simp only [Relation.fromJson, bind_eq_ok_iff] at h
  obtain ⟨rel_type, htype, _, -, _, -, _, -, h⟩ := h
  rw [← Except.ok.inj h]
  rw [Json.optional] at htype
  rcases hv : obj.find? "rel_type" with - | v
  · rw [hv] at htype
    exact Or.inl ⟨rfl, (Except.ok.inj htype).symm⟩
  · rw [hv] at htype
    obtain ⟨s, hs, heq⟩ := map_eq_ok_iff.mp htype
    obtain rfl := Json.getString_eq_ok_iff.mp hs
    exact Or.inr ⟨s, rfl, heq.symm⟩

theorem synthesized_of_parseReply {content relates_to reply : Json}
    (hreply : relates_to.find? "m.in_reply_to" = some reply) {rels : Relations}
    (h : parseReply relates_to = .ok rels) :
    rels.synthesized = true ∧ Synthesized content relates_to rels.slots := by
  simp only [parseReply, bind_eq_ok_iff, Json.atKey_eq_ok_iff, Json.getString_eq_ok_iff] at h
  obtain ⟨_, hreply', _, hid, id, rfl, h⟩ := h
  obtain rfl := Option.some.inj (hreply.symm.trans hreply')
  have hobj := Json.isObject_of_find? hreply
  split_ifs at h with hthread
  · -- the thread is the relation that is no edit
    simp only [bind_eq_ok_iff] at h
    obtain ⟨is_fallback, -, thread, hread, h⟩ := h
    have htype : thread.rel_type = .thread := by
      rcases Relation.rel_type_of_fromJson hread with ⟨hnone, -⟩ | ⟨s, hs, htype⟩
      · rw [hnone] at hthread
        cases hthread
      · rw [hs] at hthread
        obtain rfl := Json.string.inj (eqString_iff.mp (Bool.and_eq_true_iff.mp hthread).1)
        exact htype
    have hslots : rels.slots =
        ⟨none, some thread, some { rel_type := .inReplyTo, event_id := id, is_fallback }⟩ := by
      rw [← Except.ok.inj h]
      simp [Relations.slots, Slots.assign, htype]
    rw [hslots]
    refine ⟨by rw [← Except.ok.inj h], fun _ ↦ ?_, fun _ ↦ ?_, fun _ ↦ ?_, fun h ↦ absurd rfl h⟩
    all_goals
      intro h
      cases h
  · have hslots : rels.slots =
        ⟨none, none, some { rel_type := .inReplyTo, event_id := id }⟩ := by
      rw [← Except.ok.inj h]
      rfl
    have hassign : (relates_to.member "m.in_reply_to").Assignable := by
      rw [Json.member_of_find? hreply]
      exact Or.inr (Json.isObject_of_find? hid)
    rw [hslots]
    refine ⟨by rw [← Except.ok.inj h], fun _ _ h ↦ ?_, fun _ _ ↦ ⟨hobj, hassign⟩,
      fun _ _ event_id c ↦ readableRelatesTo_replied hobj hassign event_id fun htype ↦ ?_,
      fun h ↦ absurd rfl h⟩
    · cases h
    · rw [htype] at hthread
      simpa [eqString_iff] using hthread

/-- **What is read from `m.relates_to`.** -/
theorem synthesized_of_parseRelations {content relates_to : Json}
    (hlist : content.find? "im.nheko.relations.v1.relations" = none)
    (hrelates : content.find? "m.relates_to" = some relates_to) {rels : Relations}
    (h : parseRelations content = .ok rels) :
    rels.synthesized = true ∧ Synthesized content relates_to rels.slots := by
  have hwell : ReadableRelatesTo content relates_to := by
    have hwell := (succeeds_parseRelations_iff content).mp ⟨rels, h⟩
    rw [ReadableRelations, hlist] at hwell
    exact hwell relates_to hrelates
  rw [parseRelations, hlist, hrelates] at h
  dsimp only at h
  rcases hreply : relates_to.find? "m.in_reply_to" with - | reply
  · rw [Json.contains, hreply] at h
    obtain ⟨r, hr, h⟩ := bind_eq_ok_iff.mp h
    have htype := Relation.rel_type_of_fromJson hr
    rw [ReadableRelatesTo, hreply] at hwell
    have hassign : (relates_to.member "m.in_reply_to").Assignable := by
      rw [Json.member_of_find?_none hreply]
      exact Or.inl rfl
    split_ifs at h with hreplace
    · -- an edit, perhaps with a relation of the edited content behind it
      obtain ⟨edited, hedited, h⟩ := bind_eq_ok_iff.mp h
      have hedit : rels.slots.edit ≠ none :=
        slots_edit_ne_none (r := r) (by rw [← Except.ok.inj h]; exact List.mem_cons_self) hreplace
      obtain ⟨s, hs, hof⟩ := htype.resolve_left fun h ↦ by
        rw [h.2] at hreplace
        cases hreplace
      refine ⟨by rw [← Except.ok.inj h], fun h ↦ absurd h hedit,
        fun _ _ ↦ ⟨Json.isObject_of_find? hs, hassign⟩, fun h ↦ absurd h hedit, fun _ ↦ ?_⟩
      rw [(ofStr_eq_replace_iff s).mp (hof.symm.trans hreplace)] at hs
      exact hwell.2 hs
    · have hslots : rels.slots = Slots.assign {} r := by
        rw [← Except.ok.inj h]
        rfl
      refine ⟨by rw [← Except.ok.inj h], ?_⟩
      by_cases hinReplyTo : r.rel_type = .inReplyTo
      · rw [hslots, Slots.assign, hinReplyTo]
        obtain ⟨s, hs, hof⟩ := htype.resolve_left fun h ↦ by
          rw [h.2] at hinReplyTo
          cases hinReplyTo
        have hobj := Json.isObject_of_find? hs
        refine ⟨fun _ _ h ↦ ?_, fun _ _ ↦ ⟨hobj, hassign⟩,
          fun _ _ event_id c ↦ readableRelatesTo_replied hobj hassign event_id fun hthread ↦ ?_,
          fun h ↦ absurd rfl h⟩
        · cases h
        · rw [hthread] at hs
          rw [← Json.string.inj (Option.some.inj hs), hinReplyTo] at hof
          cases hof
      · have hassigned : Slots.assign {} r = ⟨none, some r, none⟩ := by
          rw [Slots.assign]
          split
          · exact absurd ‹_› hreplace
          · exact absurd ‹_› hinReplyTo
          · rfl
        rw [hslots, hassigned]
        refine ⟨fun _ h ↦ ?_, fun h ↦ absurd rfl h, fun _ h ↦ ?_, fun h ↦ absurd rfl h⟩
        all_goals cases h
  · rw [Json.contains, hreply] at h
    exact synthesized_of_parseReply hreply h

end Mtx.Events
