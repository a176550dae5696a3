import MtxClient.Events.Rewriting
import MtxClient.Events.UnknownMessages

/-!
# Messages that are kept as their text

A message with an unknown `msgtype` keeps the text of the content that it was read from, and is
written over it.  `Rewritable` says for which contents that can be read again; it fails only for
contents that have something else than an edited content in `m.new_content`, or something else than
a relation in `m.relates_to`, where the code does not look when it reads.
-/

set_option autoImplicit false

namespace Mtx.Events

open Str

/-! ## Contents that can be written back -/

/-- What stands in `m.new_content` although the content is no edit is read the next time. -/
structure InnerReads (content newContent : Json) : Prop where
  body : ∃ s, newContent.find? "body" = some (.string s)
  msgtype : ∃ s, newContent.find? "msgtype" = some (.string s)
  mentions : Succeeds (parseMentions newContent)
  nested : newContent.contains "m.relates_to" = true →
    (newContent.member "m.new_content").Assignable
  list : content.find? "im.nheko.relations.v1.relations" = none → WellFormedList newContent
  relates_to : content.find? "im.nheko.relations.v1.relations" = none →
    newContent.find? "im.nheko.relations.v1.relations" = none →
    content.find? "m.relates_to" = none →
    ∀ v, newContent.find? "m.relates_to" = some v → ReadableRelatesTo .null v

/-- An edit is copied over what stands in `m.new_content`, and read from there. -/
structure EditReads (content newContent : Json) (s : Slots) : Prop where
  mentions : content.find? "m.mentions" = none → Succeeds (parseMentions newContent)
  nested : s.not_edit ≠ none ∨ newContent.contains "m.relates_to" = true →
    (newContent.member "m.new_content").Assignable
  list : content.find? "im.nheko.relations.v1.relations" = none → WellFormedList newContent
  edited : content.find? "im.nheko.relations.v1.relations" = none →
    newContent.find? "im.nheko.relations.v1.relations" = none → s.not_edit = none →
    newContent.find? "m.relates_to" = none → ReadableEdited newContent

/-- The relations can be written over the content, and it can be read again. -/
structure Rewritable (content : Json) (s : Slots) : Prop where
  reply : ReplyFits content s
  edit : EditFits content s
  editReads : s.edit ≠ none → EditReads content (content.member "m.new_content") s
  innerReads : s.edit = none → ∀ n, content.find? "m.new_content" = some n → InnerReads content n

/-- Mentions only matter if there are any, and most other members do not at all. -/
theorem Rewritable.of_members {content base : Json} {s : Slots} (H : Rewritable base s)
    (h : ∀ k : Str, k ≠ "m.mentions" → base.find? k = content.find? k)
    (hmentions : content.find? "m.mentions" = none → base.find? "m.mentions" = none) :
    Rewritable content s := by
  have hnew := h "m.new_content" (by simp)
  have hrelates := h "m.relates_to" (by simp)
  have hlist := h "im.nheko.relations.v1.relations" (by simp)
  have hformatted := h "formatted_body" (by simp)
  have hmember : ∀ k : Str, k ≠ "m.mentions" → base.member k = content.member k := fun k hk ↦ by
    rw [Json.member, h k hk, Json.member]
  refine ⟨?_, ?_, fun hedit ↦ ?_, fun hedit n hn ↦ ?_⟩
  · rw [ReplyFits, ← hmember _ (by simp)]
    exact H.reply
  · rw [EditFits, ← hmember _ (by simp), StringOrAbsent, ← hformatted]
    exact H.edit
  · rw [← hmember _ (by simp)]
    have hreads := H.editReads hedit
    exact ⟨fun h ↦ hreads.mentions (hmentions h), hreads.nested,
      fun h ↦ hreads.list (hlist.trans h), fun h ↦ hreads.edited (hlist.trans h)⟩
  · have hreads := H.innerReads hedit n (hnew.trans hn)
    exact ⟨hreads.body, hreads.msgtype, hreads.mentions, hreads.nested,
      fun h ↦ hreads.list (hlist.trans h),
      fun h h' h'' ↦ hreads.relates_to (hlist.trans h) h' (hrelates.trans h'')⟩

theorem rewritable_congr {content base : Json} (s : Slots)
    (h : ∀ k : Str, k ≠ "m.mentions" → base.find? k = content.find? k)
    (hmentions : base.find? "m.mentions" = none ↔ content.find? "m.mentions" = none) :
    Rewritable base s ↔ Rewritable content s :=
  ⟨fun H ↦ H.of_members h hmentions.mpr,
    fun H ↦ H.of_members (fun k hk ↦ (h k hk).symm) hmentions.mp⟩

/-! ## Reading a message from its members -/

variable {json : JsonText} {content base j : Json}

theorem succeeds_unknown_fromJson_iff : Succeeds (Msg.Unknown.fromJson json content) ↔
    content.validUtf8 = true ∧ (∃ s, content.find? "body" = some (.string s)) ∧
      (∃ s, content.find? "msgtype" = some (.string s)) ∧ ReadableRelations content ∧
      Succeeds (parseMentions content) := by
  have hstring : ∀ k : Str, (∃ v, content.atKey k = .ok v ∧ ∃ s, v.getString = .ok s) ↔
      ∃ s, content.find? k = some (.string s) := fun k ↦ by
    simp only [Json.atKey_eq_ok_iff, Json.getString_eq_ok_iff]
    constructor
    · rintro ⟨_, hv, s, rfl⟩
      exact ⟨s, hv⟩
    · rintro ⟨s, hs⟩
      exact ⟨_, hs, s, rfl⟩
  rw [← succeeds_parseRelations_iff, ← hstring, ← hstring]
  constructor
  · rintro ⟨c, hc⟩
    simp only [Msg.Unknown.fromJson, bind_eq_ok_iff] at hc
    obtain ⟨text, htext, v, hv, body, hbody, v', hv', msgtype, hmsgtype, rels, hrels, mentions,
      hmentions, -⟩ := hc
    exact ⟨(JsonText.dump_eq_ok_iff.mp htext).1, ⟨v, hv, body, hbody⟩, ⟨v', hv', msgtype, hmsgtype⟩,
      ⟨rels, hrels⟩, mentions, hmentions⟩
  · rintro ⟨hvalid, ⟨v, hv, body, hbody⟩, ⟨v', hv', msgtype, hmsgtype⟩, ⟨rels, hrels⟩, mentions,
      hmentions⟩
    rw [Msg.Unknown.fromJson, json.dump_of_validUtf8 hvalid, ok_bind, hv, ok_bind, hbody, ok_bind,
      hv', ok_bind, hmsgtype, ok_bind, hrels, ok_bind, hmentions]
    exact succeeds_ok _

/-- Without `m.new_content` a message is read from its content. -/
theorem succeeds_contentFrom_unknown_iff (hj : j.wf = true) (hobj : j.isObject = true)
    (hn : j.find? "m.new_content" = none) : Succeeds (contentFrom (Msg.Unknown json) j) ↔
      (∃ s, j.find? "body" = some (.string s)) ∧ (∃ s, j.find? "msgtype" = some (.string s)) ∧
        ReadableRelations j ∧ Succeeds (parseMentions j) := by
  rw [contentFrom_eq rfl hobj, effectiveContent, if_neg (by simp [Json.contains, hn]), ok_bind]
  exact succeeds_unknown_fromJson_iff.trans (and_iff_right (Json.validUtf8_of_wf hj))

/-- With it, from the merged content. -/
theorem succeeds_contentFrom_unknown_iff_of_new_content {n : Json} (hj : j.wf = true)
    (hn : j.find? "m.new_content" = some n) : Succeeds (contentFrom (Msg.Unknown json) j) ↔
      Mergeable j n ∧ (∃ s, n.find? "body" = some (.string s)) ∧
        (∃ s, n.find? "msgtype" = some (.string s)) ∧ ReadableRelations (merged j n) ∧
        Succeeds (parseMentions n) := by
  rw [contentFrom_eq rfl (Json.isObject_of_find? hn), effectiveContent,
    if_pos (by simp [Json.contains, hn]), succeeds_bind_iff]
  have hread : Mergeable j n → (Succeeds (Msg.Unknown.fromJson json (merged j n)) ↔
      (∃ s, n.find? "body" = some (.string s)) ∧
        (∃ s, n.find? "msgtype" = some (.string s)) ∧ ReadableRelations (merged j n) ∧
        Succeeds (parseMentions n)) := fun h ↦ by
    have hwf := wf_mergeNewContent hj ((mergeNewContent_eq_ok_iff hn).mpr ⟨h, rfl⟩)
    rw [succeeds_unknown_fromJson_iff, and_iff_right (Json.validUtf8_of_wf hwf),
      h.find?_ordinary (by decide), h.find?_ordinary (by decide), parseMentions,
      Json.optional_congr (h.find?_ordinary (by decide)), ← parseMentions]
  constructor
  · rintro ⟨m, hm, hreads⟩
    obtain ⟨hmergeable, rfl⟩ := (mergeNewContent_eq_ok_iff hn).mp hm
    exact ⟨hmergeable, (hread hmergeable).mp hreads⟩
  · rintro ⟨hmergeable, hreads⟩
    exact ⟨_, (mergeNewContent_eq_ok_iff hn).mpr ⟨hmergeable, rfl⟩, (hread hmergeable).mpr hreads⟩

/-! ## What was written, read again -/

theorem rel_type_toStr_ne_replace {type : RelationType} (h : type ≠ .replace) :
    type.toStr ≠ "m.replace" := by
  intro htype
  cases type
  case replace => exact h rfl
  all_goals exact absurd htype (by decide)

/-- Without a relation there are none. -/
theorem relations_eq_of_no_data {content : Json} {rels : Relations}
    (hrels : parseRelations content = .ok rels)
    (hlist : content.find? "im.nheko.relations.v1.relations" = none)
    (hrelates : content.find? "m.relates_to" = none) : rels.slots = {} := by
  rw [parseRelations, hlist, hrelates] at hrels
  rw [← Except.ok.inj hrels]
  rfl

/-- A content without a list and a relation, or with a relation that was read from it. -/
theorem synthesized_or {content : Json} {rels : Relations}
    (hrels : parseRelations content = .ok rels)
    (hlist : content.find? "im.nheko.relations.v1.relations" = none) :
    (content.find? "m.relates_to" = none ∧ rels.slots = {}) ∨
      ∃ relates_to, content.find? "m.relates_to" = some relates_to ∧
        Synthesized content relates_to rels.slots := by
  obtain hrelates | ⟨relates_to, hrelates⟩ :=
    Option.eq_none_or_eq_some (content.find? "m.relates_to")
  · exact Or.inl ⟨hrelates, relations_eq_of_no_data hrels hlist hrelates⟩
  · exact Or.inr ⟨relates_to, hrelates, (synthesized_of_parseRelations hlist hrelates hrels).2⟩

section

variable {rels : Relations} (hrels : parseRelations base = .ok rels)
  (hlist : base.find? "im.nheko.relations.v1.relations" = none)

include hrels hlist

/-- Relations without an edit leave something that can be read in every content, or nothing
where nothing was. -/
theorem AddedOver.relates_to_cases (hedit : rels.slots.edit = none)
    (h : AddedOver base j rels.slots) :
    (base.find? "m.relates_to" = none ∧ j.find? "m.relates_to" = none) ∨
      base.find? "m.relates_to" ≠ none ∧
        ∃ v, j.find? "m.relates_to" = some v ∧ ∀ c, ReadableRelatesTo c v := by
  obtain ⟨d, hrelated, hd⟩ := h.relates_to hedit
  rcases synthesized_or hrels hlist with ⟨hrelates, hslots⟩ | ⟨relates_to, hrelates, hread⟩
  · refine Or.inl ⟨hrelates, ?_⟩
    rw [hslots] at hrelated
    rw [hd, hrelated.kept rfl rfl, hrelates]
  · refine Or.inr ⟨by rw [hrelates]; exact Option.some_ne_none _, ?_⟩
    obtain hnot | ⟨a, hnot⟩ := Option.eq_none_or_eq_some rels.slots.not_edit
    · obtain ⟨r, hr⟩ := Option.ne_none_iff_exists'.mp (hread.relation hedit hnot)
      refine ⟨_, hd.trans (hrelated.replied r hnot hr), ?_⟩
      rw [Json.member_of_find? hrelates]
      exact hread.replied hedit hnot r.event_id
    · obtain ⟨v, hv, hwritten, htype⟩ := hrelated.written a hnot
      refine ⟨v, hd.trans hv, ?_⟩
      intro c
      rw [ReadableRelatesTo]
      obtain hreply | ⟨reply, hreply⟩ := Option.eq_none_or_eq_some (v.find? "m.in_reply_to")
      · rw [hreply]
        refine ⟨hwritten.relation, ?_⟩
        intro hreplace
        rw [htype] at hreplace
        exact absurd (Json.string.inj (Option.some.inj hreplace))
          (rel_type_toStr_ne_replace ((slots_from rels).not_edit a hnot).2)
      · rw [hreply]
        exact ⟨hwritten.reply reply hreply, fun _ _ ↦ ⟨hwritten.relation, hwritten.is_falling_back⟩⟩

/-- An edit was read together with the relation of what it edits. -/
theorem readableEdited_of_edit (hedit : rels.slots.edit ≠ none) : ReadableEdited base := by
  rcases synthesized_or hrels hlist with ⟨-, hslots⟩ | ⟨relates_to, -, hread⟩
  · rw [hslots] at hedit
    exact absurd rfl hedit
  · exact hread.edited hedit

end

/-- The relation of an edited content is moved one level down. -/
theorem readableEdited_merged {c n v : Json} (h : Mergeable c n)
    (hv : n.find? "m.relates_to" = some v) : ReadableEdited (merged c n) ↔
      match v.find? "m.in_reply_to" with
      | some reply => NamesEvent reply
      | none => ReadableRelation v := by
  have hsecond : ((merged c n).find? "m.new_content").bind (·.find? "m.relates_to") = some v := by
    have hassign := h.nested (by rw [Json.contains, hv]; rfl)
    rw [h.find?_new_content, hv]
    exact (Json.find?_put hassign _ _ _).trans (if_pos rfl)
  refine ⟨fun hread ↦ hread v hsecond, fun hread second hsome ↦ ?_⟩
  obtain rfl := Option.some.inj (hsecond.symm.trans hsome)
  exact hread

/-- There it is its own edit. -/
theorem readableRelatesTo_merged {c n v : Json} (h : Mergeable c n)
    (hv : n.find? "m.relates_to" = some v) :
    ReadableRelatesTo (merged c n) v ↔ ReadableRelatesTo .null v := by
  rw [ReadableRelatesTo, ReadableRelatesTo, readableEdited_merged h hv]
  obtain hreply | ⟨reply, hreply⟩ := Option.eq_none_or_eq_some (v.find? "m.in_reply_to")
  · rw [hreply]
    refine and_congr_right fun hwell ↦ imp_congr_right fun _ ↦ iff_of_true hwell ?_
    intro second h'
    cases h'
  · rw [hreply]

theorem readableRelations_of_list {c : Json} {xs : List Json}
    (hlist : c.find? "im.nheko.relations.v1.relations" = some (.array xs))
    (hxs : ∀ x ∈ xs, ReadableRelation x) : ReadableRelations c := by
  rw [ReadableRelations, hlist]
  exact ⟨xs, rfl, hxs⟩

theorem readableRelations_iff_of_list {c l : Json}
    (hlist : c.find? "im.nheko.relations.v1.relations" = some l) :
    ReadableRelations c ↔ ∃ xs, l = .array xs ∧ ∀ x ∈ xs, ReadableRelation x := by
  rw [ReadableRelations, hlist]

theorem readableRelations_iff_of_relates_to {c v : Json}
    (hlist : c.find? "im.nheko.relations.v1.relations" = none)
    (hrelates : c.find? "m.relates_to" = some v) :
    ReadableRelations c ↔ ReadableRelatesTo c v := by
  rw [ReadableRelations, hlist]
  exact ⟨fun h ↦ h v hrelates, fun h w hw ↦ Option.some.inj (hrelates.symm.trans hw) ▸ h⟩

/-- An edit can be read if what it edits can. -/
theorem readableRelations_iff_of_edit {c : Json} {e : Relation}
    (hlist : c.find? "im.nheko.relations.v1.relations" = none)
    (hrelates : c.find? "m.relates_to" = some e.toJson) (htype : e.rel_type = .replace) :
    ReadableRelations c ↔ ReadableEdited c := by
  have hreplace : e.toJson.find? "rel_type" = some (.string "m.replace") := by
    simp [Relation.toJson, htype, RelationType.toStr]
  rw [readableRelations_iff_of_relates_to hlist hrelates, ReadableRelatesTo,
    find?_toJson_in_reply_to]
  exact ⟨fun hwell ↦ hwell.2 hreplace, fun hwell ↦ ⟨readableRelation_toJson e, fun _ ↦ hwell⟩⟩

theorem readableRelations_of_nothing {c : Json}
    (hlist : c.find? "im.nheko.relations.v1.relations" = none)
    (hrelates : c.find? "m.relates_to" = none) : ReadableRelations c := by
  rw [ReadableRelations, hlist]
  intro v hv
  rw [hrelates] at hv
  cases hv

section

variable {rels : Relations} (hrels : parseRelations base = .ok rels)

include hrels

/-- Without an edit the relations themselves are always read again. -/
theorem AddedOver.readableRelations (hedit : rels.slots.edit = none)
    (h : AddedOver base j rels.slots) : ReadableRelations j := by
  by_cases hlist : base.find? "im.nheko.relations.v1.relations" = none
  · have hlist' := h.list_none hlist
    rcases h.relates_to_cases hrels hlist hedit with ⟨-, hnone⟩ | ⟨-, v, hv, hwell⟩
    · exact readableRelations_of_nothing hlist' hnone
    · exact (readableRelations_iff_of_relates_to hlist' hv).mpr (hwell j)
  · obtain ⟨xs, hxs, hwell⟩ := h.list hlist
    exact readableRelations_of_list hxs hwell

/-- What stands in `m.new_content` is merged with the relations that were written. -/
theorem AddedOver.readableRelations_merged_iff (hedit : rels.slots.edit = none)
    (h : AddedOver base j rels.slots) {n : Json} (hmerge : Mergeable j n) :
    ReadableRelations (merged j n) ↔
      (base.find? "im.nheko.relations.v1.relations" = none → WellFormedList n) ∧
        (base.find? "im.nheko.relations.v1.relations" = none →
          n.find? "im.nheko.relations.v1.relations" = none → base.find? "m.relates_to" = none →
          ∀ v, n.find? "m.relates_to" = some v → ReadableRelatesTo .null v) := by
  by_cases hlist : base.find? "im.nheko.relations.v1.relations" = none
  · have hlist' := h.list_none hlist
    obtain hn | ⟨l, hn⟩ :=
      Option.eq_none_or_eq_some (n.find? "im.nheko.relations.v1.relations")
    · have hnone : (merged j n).find? "im.nheko.relations.v1.relations" = none := by
        rw [hmerge.find?_list, hlist', hn]
        rfl
      have hwell : WellFormedList n := fun l hl ↦ by
        rw [hn] at hl
        cases hl
      rw [and_iff_right fun _ ↦ hwell]
      simp only [hlist, hn, true_implies]
      rcases h.relates_to_cases hrels hlist hedit with ⟨hbase, hj⟩ | ⟨hbase, v, hv, hwell⟩
      · obtain hrelates | ⟨v, hrelates⟩ := Option.eq_none_or_eq_some (n.find? "m.relates_to")
        · refine iff_of_true (readableRelations_of_nothing hnone ?_) fun _ v hv ↦ ?_
          · rw [hmerge.find?_relates_to, hj, hrelates]
            rfl
          · rw [hrelates] at hv
            cases hv
        · have hfind : (merged j n).find? "m.relates_to" = some v := by
            rw [hmerge.find?_relates_to, hj, hrelates]
            rfl
          rw [readableRelations_iff_of_relates_to hnone hfind,
            readableRelatesTo_merged hmerge hrelates]
          exact ⟨fun hv _ w hw ↦ Option.some.inj (hrelates.symm.trans hw) ▸ hv,
            fun hall ↦ hall hbase v hrelates⟩
      · have hfind : (merged j n).find? "m.relates_to" = some v := by
          rw [hmerge.find?_relates_to, hv]
          rfl
        refine iff_of_true ((readableRelations_iff_of_relates_to hnone hfind).mpr (hwell _)) ?_
        intro hnone
        exact absurd hnone hbase
    · have hfind : (merged j n).find? "im.nheko.relations.v1.relations" = some l := by
        rw [hmerge.find?_list, hlist', hn]
        rfl
      rw [readableRelations_iff_of_list hfind]
      constructor
      · intro hwell
        refine ⟨fun _ l' hl' ↦ Option.some.inj (hn.symm.trans hl') ▸ hwell, fun _ hnone ↦ ?_⟩
        rw [hn] at hnone
        cases hnone
      · rintro ⟨hwell, -⟩
        exact hwell hlist l hn
  · obtain ⟨xs, hxs, hwell⟩ := h.list hlist
    refine iff_of_true (readableRelations_of_list ?_ hwell)
      ⟨fun hnone ↦ absurd hnone hlist, fun hnone ↦ absurd hnone hlist⟩
    rw [hmerge.find?_list, hxs]
    rfl

/-- The relation of the edited content, or what stands where it is looked for. -/
theorem EditedOver.readableEdited_merged_iff (hedit : rels.slots.edit ≠ none)
    (h : EditedOver base j rels.slots) {n : Json} (hn : j.find? "m.new_content" = some n)
    (hmerge : Mergeable j n)
    (hlist : base.find? "im.nheko.relations.v1.relations" = none) :
    ReadableEdited (merged j n) ↔ (rels.slots.not_edit = none →
      (base.member "m.new_content").find? "m.relates_to" = none →
      ReadableEdited (base.member "m.new_content")) := by
  obtain ⟨n', hn', -, -, hother, hkept, hwritten⟩ := h.new_content
  obtain rfl := Option.some.inj (hn.symm.trans hn')
  have hnewn := hother "m.new_content" (by decide) (by simp)
  by_cases hnot : rels.slots.not_edit = none
  · have hrelates := hkept hnot
    obtain hq | ⟨q, hq⟩ :=
      Option.eq_none_or_eq_some ((base.member "m.new_content").find? "m.relates_to")
    · -- there is no relation, so that an edited content is looked for
      rw [ReadableEdited, hmerge.find?_new_content, hrelates, hq]
      simp only [hnewn, hnot, true_implies, ReadableEdited]
    · rw [readableEdited_merged hmerge (hrelates.trans hq)]
      refine iff_of_true ?_ fun _ hnone ↦ ?_
      · refine readableEdited_of_edit hrels hlist hedit q ?_
        obtain hbasen | ⟨m, hbasen⟩ := Option.eq_none_or_eq_some (base.find? "m.new_content")
        · rw [Json.member_of_find?_none hbasen] at hq
          cases hq
        · rw [Json.member_of_find? hbasen] at hq
          rw [hbasen, Option.bind_some, hq]
      · rw [hq] at hnone
        cases hnone
  · obtain ⟨v, hv, hwell⟩ := hwritten hnot
    rw [readableEdited_merged hmerge hv]
    refine iff_of_true ?_ fun hnone ↦ absurd hnone hnot
    obtain hreply | ⟨reply, hreply⟩ := Option.eq_none_or_eq_some (v.find? "m.in_reply_to")
    · rw [hreply]
      exact hwell.relation
    · rw [hreply]
      exact hwell.reply reply hreply

/-- An edit is read together with what it edits. -/
theorem EditedOver.readableRelations_merged_iff (hedit : rels.slots.edit ≠ none)
    (h : EditedOver base j rels.slots) {n : Json} (hn : j.find? "m.new_content" = some n)
    (hmerge : Mergeable j n) :
    ReadableRelations (merged j n) ↔
      (base.find? "im.nheko.relations.v1.relations" = none →
        WellFormedList (base.member "m.new_content")) ∧
        (base.find? "im.nheko.relations.v1.relations" = none →
          (base.member "m.new_content").find? "im.nheko.relations.v1.relations" = none →
          rels.slots.not_edit = none →
          (base.member "m.new_content").find? "m.relates_to" = none →
          ReadableEdited (base.member "m.new_content")) := by
  by_cases hlist : base.find? "im.nheko.relations.v1.relations" = none
  · have hfindList : (merged j n).find? "im.nheko.relations.v1.relations" =
        (base.member "m.new_content").find? "im.nheko.relations.v1.relations" := by
      obtain ⟨n', hn', -, -, hother, -⟩ := h.new_content
      obtain rfl := Option.some.inj (hn.symm.trans hn')
      rw [hmerge.find?_list, h.list_none hlist,
        hother "im.nheko.relations.v1.relations" (by decide) (by simp)]
      rfl
    simp only [hlist, true_implies]
    obtain hl | ⟨l, hl⟩ := Option.eq_none_or_eq_some
      ((base.member "m.new_content").find? "im.nheko.relations.v1.relations")
    · have hwell : WellFormedList (base.member "m.new_content") := fun l hl' ↦ by
        rw [hl] at hl'
        cases hl'
      obtain ⟨e, htype, he⟩ := h.edit
      have hfind : (merged j n).find? "m.relates_to" = some e.toJson := by
        rw [hmerge.find?_relates_to, he]
        rfl
      rw [and_iff_right hwell, readableRelations_iff_of_edit (hfindList.trans hl) hfind htype,
        h.readableEdited_merged_iff hrels hedit hn hmerge hlist]
      simp only [hl, true_implies]
    · rw [readableRelations_iff_of_list (hfindList.trans hl)]
      constructor
      · intro hwell
        refine ⟨fun l' hl' ↦ Option.some.inj (hl.symm.trans hl') ▸ hwell, fun hnone ↦ ?_⟩
        rw [hl] at hnone
        cases hnone
      · rintro ⟨hwell, -⟩
        exact hwell l hl
  · obtain ⟨xs, hxs, hwell⟩ := h.list hlist
    refine iff_of_true (readableRelations_of_list ?_ hwell)
      ⟨fun hnone ↦ absurd hnone hlist, fun hnone ↦ absurd hnone hlist⟩
    rw [hmerge.find?_list, hxs]
    rfl

/-- A message without an edit is read from its content, or from what stands in `m.new_content`. -/
theorem AddedOver.succeeds_contentFrom_iff (hedit : rels.slots.edit = none)
    (h : AddedOver base j rels.slots) (hj : j.wf = true)
    (hbody : ∃ s, base.find? "body" = some (.string s))
    (hmsgtype : ∃ s, base.find? "msgtype" = some (.string s))
    (hmentions : Succeeds (parseMentions base)) :
    Succeeds (contentFrom (Msg.Unknown json) j) ↔
      ∀ n, base.find? "m.new_content" = some n → InnerReads base n := by
  have hnew := h.new_content (Or.inl hedit)
  obtain hn | ⟨n, hn⟩ := Option.eq_none_or_eq_some (base.find? "m.new_content")
  · rw [succeeds_contentFrom_unknown_iff hj h.isObject (hnew.trans hn), h.ordinary _ (by decide),
      h.ordinary _ (by decide), parseMentions, Json.optional_congr (h.ordinary _ (by decide)),
      ← parseMentions]
    refine iff_of_true ⟨hbody, hmsgtype, h.readableRelations hrels hedit, hmentions⟩
      fun n hn' ↦ ?_
    rw [hn] at hn'
    cases hn'
  · rw [succeeds_contentFrom_unknown_iff_of_new_content hj (hnew.trans hn), hn]
    simp only [Option.some.injEq, forall_eq']
    constructor
    · rintro ⟨hmerge, hbody', hmsgtype', hwell, hmentions'⟩
      obtain ⟨hlist, hrelates⟩ := (h.readableRelations_merged_iff hrels hedit hmerge).mp hwell
      exact ⟨hbody', hmsgtype', hmentions', hmerge.nested, hlist, hrelates⟩
    · intro hreads
      obtain ⟨s, hs⟩ := hreads.body
      have hassign : n.Assignable := Or.inr (Json.isObject_of_find? hs)
      have hmerge : Mergeable j n := ⟨fun _ ↦ hassign, fun _ ↦ hassign, hreads.nested⟩
      exact ⟨hmerge, hreads.body, hreads.msgtype, (h.readableRelations_merged_iff hrels hedit
        hmerge).mpr ⟨hreads.list, hreads.relates_to⟩, hreads.mentions⟩

/-- An edit is read from the members that were copied over what stood in `m.new_content`. -/
theorem EditedOver.succeeds_contentFrom_iff (hedit : rels.slots.edit ≠ none)
    (h : EditedOver base j rels.slots) (hj : j.wf = true)
    (hbody : ∃ s, base.find? "body" = some (.string s))
    (hmsgtype : ∃ s, base.find? "msgtype" = some (.string s))
    (hmentions : Succeeds (parseMentions base)) :
    Succeeds (contentFrom (Msg.Unknown json) j) ↔
      EditReads base (base.member "m.new_content") rels.slots := by
  obtain ⟨n, hn, hobj, hordinary, hother, hkept, hwritten⟩ := h.new_content
  have hstring : ∀ k : Str, isRelationKey k = false → (∃ s, base.find? k = some (.string s)) →
      ∃ s, n.find? k = some (.string s) := by
    rintro k hk ⟨s, hs⟩
    rw [hordinary k hk, hs]
    exact ⟨s, rfl⟩
  have hmentionsn : Succeeds (parseMentions n) ↔ (base.find? "m.mentions" = none →
      Succeeds (parseMentions (base.member "m.new_content"))) := by
    have hfind := hordinary "m.mentions" (by decide)
    obtain hm | ⟨m, hm⟩ := Option.eq_none_or_eq_some (base.find? "m.mentions")
    · rw [hm, Option.none_or] at hfind
      rw [parseMentions, Json.optional_congr hfind, ← parseMentions]
      simp only [hm, true_implies]
    · rw [hm, Option.some_or] at hfind
      have hsame : parseMentions n = parseMentions base := by
        rw [parseMentions, Json.optional_congr (hfind.trans hm.symm), ← parseMentions]
      rw [hsame]
      refine iff_of_true hmentions fun hnone ↦ ?_
      rw [hm] at hnone
      cases hnone
  have hnested : (n.contains "m.relates_to" = true → (n.member "m.new_content").Assignable) ↔
      (rels.slots.not_edit ≠ none ∨
        (base.member "m.new_content").contains "m.relates_to" = true →
          ((base.member "m.new_content").member "m.new_content").Assignable) := by
    have hmember : n.member "m.new_content" =
        (base.member "m.new_content").member "m.new_content" := by
      rw [Json.member, hother _ (by decide) (by simp), ← Json.member]
    have hcontains : n.contains "m.relates_to" = true ↔ rels.slots.not_edit ≠ none ∨
        (base.member "m.new_content").contains "m.relates_to" = true := by
      by_cases hnot : rels.slots.not_edit = none
      · rw [Json.contains, hkept hnot, ← Json.contains, hnot]
        exact (or_iff_right (fun h ↦ h rfl)).symm
      · obtain ⟨v, hv, -⟩ := hwritten hnot
        exact iff_of_true (Json.contains_eq_true_iff.mpr ⟨v, hv⟩) (Or.inl hnot)
    rw [hmember, hcontains]
  rw [succeeds_contentFrom_unknown_iff_of_new_content hj hn]
  constructor
  · rintro ⟨hmerge, -, -, hwell, hmentions'⟩
    obtain ⟨hlist, hedited⟩ := (h.readableRelations_merged_iff hrels hedit hn hmerge).mp hwell
    exact ⟨hmentionsn.mp hmentions', hnested.mp hmerge.nested, hlist, hedited⟩
  · intro hreads
    have hmerge : Mergeable j n :=
      ⟨fun _ ↦ Or.inr hobj, fun _ ↦ Or.inr hobj, hnested.mpr hreads.nested⟩
    exact ⟨hmerge, hstring _ (by decide) hbody, hstring _ (by decide) hmsgtype,
      (h.readableRelations_merged_iff hrels hedit hn hmerge).mpr ⟨hreads.list, hreads.edited⟩,
      hmentionsn.mpr hreads.mentions⟩

/-- **A message that keeps its content can be written over it and read again** exactly when the
content is rewritable. -/
theorem rewritable_iff (hbase : base.wf = true)
    (hbody : ∃ s, base.find? "body" = some (.string s))
    (hmsgtype : ∃ s, base.find? "msgtype" = some (.string s))
    (hmentions : Succeeds (parseMentions base)) :
    (∃ j, applyRelations base rels = .ok j ∧ Succeeds (contentFrom (Msg.Unknown json) j)) ↔
      Rewritable base rels.slots := by
  obtain ⟨body, hbody'⟩ := hbody
  rcases applyRelations_or hbase hbody' hrels with
    ⟨⟨hreply, hfits⟩, j, hj, hwf, hadded, hedited⟩ | ⟨hfits, hfails⟩
  · have hread : (∃ j, applyRelations base rels = .ok j ∧
        Succeeds (contentFrom (Msg.Unknown json) j)) ↔
          Succeeds (contentFrom (Msg.Unknown json) j) := by
      constructor
      · rintro ⟨j', hj', hread⟩
        exact Except.ok.inj (hj'.symm.trans hj) ▸ hread
      · exact fun hread ↦ ⟨j, hj, hread⟩
    rw [hread]
    by_cases hedit : rels.slots.edit = none
    · rw [(hadded hedit).succeeds_contentFrom_iff hrels hedit hwf ⟨body, hbody'⟩ hmsgtype hmentions]
      constructor
      · exact fun hinner ↦ ⟨hreply, hfits, fun h ↦ absurd hedit h, fun _ ↦ hinner⟩
      · exact fun h ↦ h.innerReads hedit
    · rw [(hedited hedit).succeeds_contentFrom_iff hrels hedit hwf ⟨body, hbody'⟩ hmsgtype
        hmentions]
      constructor
      · exact fun hreads ↦ ⟨hreply, hfits, fun _ ↦ hreads, fun h ↦ absurd h hedit⟩
      · exact fun h ↦ h.editReads hedit
  · refine iff_of_false ?_ fun h ↦ hfits ⟨h.reply, h.edit⟩
    rintro ⟨j, hj, -⟩
    exact hfails ⟨j, hj⟩

end

/-! ## Storing a message -/

variable {u : Msg.Unknown json}

/-- A message of an unknown type keeps its type. -/
theorem find?_msgtype_of_toJson (h : Msg.Unknown.fromJson json content = .ok u)
    (hempty : ∀ j, json.parse [] ≠ .ok j) (hrestores : json.Restores content)
    (hj : Msg.Unknown.toJson json u = .ok j) :
    j.find? "msgtype" = some (.string u.msgtype) := by
  obtain ⟨base, htoJson, -, -, hfind, -⟩ := Msg.Unknown.toJson_eq h hempty hrestores
  obtain ⟨-, -, -, hmsgtype, -⟩ := Msg.Unknown.fromJson_eq_ok_iff.mp h
  obtain ⟨j₁, hadd, hother, -⟩ := find?_of_applyRelations (htoJson.symm.trans hj)
  rw [hother _ (by simp) (by simp) (by simp), (find?_of_addRelations hadd).1 _ (by decide),
    hfind _ (by simp), hmsgtype]

/-- **A message of an unknown type can be stored and read again** exactly when its content is
rewritable. -/
theorem stored_unknown_iff (h : Msg.Unknown.fromJson json content = .ok u)
    (hsorted : content.sorted = true) (hempty : ∀ j, json.parse [] ≠ .ok j)
    (hrestores : json.Restores content) :
    (∃ j, Msg.Unknown.toJson json u = .ok j ∧ Succeeds (contentFrom (Msg.Unknown json) j)) ↔
      Rewritable content u.relations.slots := by
  obtain ⟨base, htoJson, -, hvalid, hfind, hmentions, hsorted'⟩ :=
    Msg.Unknown.toJson_eq h hempty hrestores
  obtain ⟨-, -, hbody, hmsgtype, hrels, hread⟩ := Msg.Unknown.fromJson_eq_ok_iff.mp h
  have hrels' : parseRelations base = .ok u.relations :=
    (parseRelations_congr fun k hk ↦ hfind k (isRelationKey_ne (by decide) hk).symm).trans hrels
  have hnone : base.find? "m.mentions" = none ↔ content.find? "m.mentions" = none := by
    rw [hmentions, Option.map_eq_none_iff]
    rw [parseMentions, Json.optional] at hread
    rcases hm : content.find? "m.mentions" with - | v
    · rw [hm] at hread
      exact iff_of_true (Except.ok.inj hread).symm rfl
    · rw [hm] at hread
      obtain ⟨mentions, -, hsome⟩ := map_eq_ok_iff.mp hread
      rw [← hsome]
      exact iff_of_false (Option.some_ne_none _) (Option.some_ne_none _)
  rw [← rewritable_congr u.relations.slots hfind hnone]
  refine Iff.trans ?_ (@rewritable_iff json _ _ hrels'
    (Bool.and_eq_true_iff.mpr ⟨hsorted' hsorted, hvalid⟩) ⟨_, (hfind _ (by simp)).trans hbody⟩
    ⟨_, (hfind _ (by simp)).trans hmsgtype⟩ ⟨_, parseMentions_of_find? hmentions⟩)
  rw [htoJson]

end Mtx.Events
