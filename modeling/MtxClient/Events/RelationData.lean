import MtxClient.Events.Relations
import MtxClient.Json.ReadBack

/-!
# Relation data

`WellFormedRelations` says what the data about the relations of a content looks like.
`parse_relations` is meant to answer the empty relations when the data is malformed, but its handler
catches nothing, and it only looks at some of the members: `ReadableRelations` says for which
contents no exception escapes (`succeeds_parseRelations_iff`), and `parseRelations_eq_empty` that
malformed data that can be read is never taken for no data at all.
-/

set_option autoImplicit false

namespace Mtx.Events

open Str

/-- The member `k`, if there is one, is a string. -/
def StringOrAbsent (obj : Json) (k : Str) : Prop :=
  ∀ v, obj.find? k = some v → ∃ s, v = .string s

/-- The member `k`, if there is one, is a Boolean. -/
def BoolOrAbsent (obj : Json) (k : Str) : Prop :=
  ∀ v, obj.find? k = some v → ∃ b, v = .boolean b

/-! ## Well-formed data -/

/-- A relation: its type and the event it is to, perhaps with a key and as a fallback. -/
structure WellFormedRelation (obj : Json) : Prop where
  rel_type : ∃ s, obj.find? "rel_type" = some (.string s)
  event_id : ∃ s, obj.find? "event_id" = some (.string s)
  key : StringOrAbsent obj "key"
  is_fallback : BoolOrAbsent obj "im.nheko.relations.v1.is_fallback"

/-- What stands in `m.in_reply_to` names an event. -/
def NamesEvent (reply : Json) : Prop := ∃ id, reply.find? "event_id" = some (.string id)

/-- What stands in `m.relates_to`: a relation, a reply, or both at once. -/
structure WellFormedRelatesTo (relates_to : Json) : Prop where
  reply : ∀ reply, relates_to.find? "m.in_reply_to" = some reply → NamesEvent reply
  relation : WellFormedRelation relates_to ∨ relates_to.contains "m.in_reply_to" = true ∧
    relates_to.find? "rel_type" = none ∧ relates_to.find? "event_id" = none
  is_falling_back : BoolOrAbsent relates_to "is_falling_back"

/-- The relation data of a content is well formed: the list of this library, or else what stands in
`m.relates_to` and, for an edit, in that of the edited content. -/
def WellFormedRelations (content : Json) : Prop :=
  match content.find? "im.nheko.relations.v1.relations" with
  | some list => ∃ xs, list = .array xs ∧ ∀ x ∈ xs, WellFormedRelation x
  | none => ∀ relates_to, content.find? "m.relates_to" = some relates_to →
      WellFormedRelatesTo relates_to ∧
        (relates_to.find? "rel_type" = some (.string "m.replace") → ∀ second,
          (content.find? "m.new_content").bind (·.find? "m.relates_to") = some second →
            WellFormedRelatesTo second)

/-! ## Data that can be read -/

/-- The members of a relation that are there have the right types.  What is no object has none. -/
structure ReadableRelation (obj : Json) : Prop where
  rel_type : StringOrAbsent obj "rel_type"
  event_id : StringOrAbsent obj "event_id"
  key : StringOrAbsent obj "key"
  is_fallback : BoolOrAbsent obj "im.nheko.relations.v1.is_fallback"

/-- The relation that an edited content has itself. -/
def ReadableEdited (content : Json) : Prop :=
  ∀ second, (content.find? "m.new_content").bind (·.find? "m.relates_to") = some second →
    match second.find? "m.in_reply_to" with
    | some reply => NamesEvent reply
    | none => ReadableRelation second

/-- What `parse_relations` looks at in `m.relates_to`. -/
def ReadableRelatesTo (content relates_to : Json) : Prop :=
  match relates_to.find? "m.in_reply_to" with
  | some reply =>
    NamesEvent reply ∧
      (relates_to.find? "rel_type" = some (.string "m.thread") →
        relates_to.contains "event_id" = true →
          ReadableRelation relates_to ∧ BoolOrAbsent relates_to "is_falling_back")
  | none =>
    ReadableRelation relates_to ∧
      (relates_to.find? "rel_type" = some (.string "m.replace") → ReadableEdited content)

/-- The relation data of a content can be read. -/
def ReadableRelations (content : Json) : Prop :=
  match content.find? "im.nheko.relations.v1.relations" with
  | some list => ∃ xs, list = .array xs ∧ ∀ x ∈ xs, ReadableRelation x
  | none => ∀ relates_to, content.find? "m.relates_to" = some relates_to →
      ReadableRelatesTo content relates_to

theorem succeeds_optional_string_iff {obj : Json} {k : Str} {d : Str} :
    Succeeds (obj.optional k Json.getString d) ↔ StringOrAbsent obj k :=
  Json.succeeds_optional_iff.trans
    (forall_congr' fun _ ↦ imp_congr_right fun _ ↦ Json.succeeds_getString_iff)

theorem succeeds_optional_bool_iff {obj : Json} {k : Str} {d : Bool} :
    Succeeds (obj.optional k Json.getBool d) ↔ BoolOrAbsent obj k :=
  Json.succeeds_optional_iff.trans
    (forall_congr' fun _ ↦ imp_congr_right fun _ ↦ Json.succeeds_getBool_iff)

theorem succeeds_relation_iff {obj : Json} :
    Succeeds (Relation.fromJson obj) ↔ ReadableRelation obj := by
  have htype : Succeeds (obj.optional "rel_type" RelationType.fromJson .unsupported) ↔
      StringOrAbsent obj "rel_type" := by
    simp only [Json.succeeds_optional_iff, RelationType.fromJson, succeeds_map_iff,
      Json.succeeds_getString_iff, StringOrAbsent]
  have hkey : Succeeds (obj.optional "key" (fun j ↦ some <$> j.getString) none) ↔
      StringOrAbsent obj "key" := by
    simp only [Json.succeeds_optional_iff, succeeds_map_iff, Json.succeeds_getString_iff,
      StringOrAbsent]
  simp only [Relation.fromJson, succeeds_bind_iff, succeeds_pure, and_true, exists_and_right,
    exists_eq_ok_iff, htype, hkey, succeeds_optional_string_iff, succeeds_optional_bool_iff]
  constructor
  · rintro ⟨htype, hevent, hkey, hfallback⟩
    exact ⟨htype, hevent, hkey, hfallback⟩
  · rintro ⟨htype, hevent, hkey, hfallback⟩
    exact ⟨htype, hevent, hkey, hfallback⟩

/-- Reading the event that is replied to. -/
theorem succeeds_reply_bind_iff {α : Type} {obj reply : Json} {f : Str → Except Exn α} {p : Prop}
    (h : obj.find? "m.in_reply_to" = some reply) (hf : ∀ id, Succeeds (f id) ↔ p) :
    Succeeds (do
      let reply ← obj.atKey "m.in_reply_to"
      let id ← reply.atKey "event_id"
      let event_id ← id.getString
      f event_id) ↔ NamesEvent reply ∧ p := by
  rw [Json.atKey_of_find? h, ok_bind, succeeds_bind_iff, NamesEvent]
  constructor
  · rintro ⟨v, hv, hs⟩
    obtain ⟨s, hv', hs⟩ := succeeds_bind_iff.mp hs
    obtain rfl := Json.getString_eq_ok_iff.mp hv'
    exact ⟨⟨s, Json.atKey_eq_ok_iff.mp hv⟩, (hf s).mp hs⟩
  · rintro ⟨⟨s, hs⟩, hp⟩
    exact ⟨_, Json.atKey_of_find? hs, (hf s).mpr hp⟩

theorem eqString_iff {j : Json} {s : Str} : j.eqString s = true ↔ j = .string s := by
  cases j <;> simp [Json.eqString]

theorem succeeds_value_bool_iff {obj : Json} (hobj : obj.isObject = true) {k : Str} {d : Bool} :
    Succeeds (obj.value k Json.getBool d) ↔ BoolOrAbsent obj k := by
  rw [Json.value_eq_optional hobj, succeeds_optional_bool_iff]

/-- A reply is read unless it names no event or its thread is malformed. -/
theorem succeeds_parseReply_iff {content relates_to reply : Json}
    (h : relates_to.find? "m.in_reply_to" = some reply) :
    Succeeds (parseReply relates_to) ↔ ReadableRelatesTo content relates_to := by
  rw [ReadableRelatesTo, h]
  refine succeeds_reply_bind_iff h fun id ↦ ?_
  obtain ht | ⟨t, ht⟩ := Option.eq_none_or_eq_some (relates_to.find? "rel_type")
  · simp [ht]
  · by_cases hthread : t = .string "m.thread" ∧ relates_to.contains "event_id" = true
    · simp only [ht, hthread.1, hthread.2, eqString_iff.mpr rfl, Bool.and_self, if_true,
        succeeds_bind_iff, succeeds_pure, and_true, exists_and_right, exists_eq_ok_iff,
        succeeds_relation_iff, succeeds_value_bool_iff (Json.isObject_of_find? h), forall_const]
      exact and_comm
    · have hno : ¬((t.eqString "m.thread" && relates_to.contains "event_id") = true) := by
        rwa [Bool.and_eq_true, eqString_iff]
      simp only [ht, hno, Bool.false_eq_true, if_false, succeeds_pure, true_iff,
        Option.some.injEq]
      exact fun ht hc ↦ absurd ⟨ht, hc⟩ hthread

/-- The relation of an edited content. -/
theorem succeeds_parseEdited_iff {content : Json} :
    Succeeds (parseEdited content) ↔ ReadableEdited content := by
  rw [parseEdited, ReadableEdited]
  rcases (content.find? "m.new_content").bind (·.find? "m.relates_to") with - | second
  · simp
  · obtain hr | ⟨reply, hr⟩ := Option.eq_none_or_eq_some (second.find? "m.in_reply_to")
    · simp [Json.contains, hr, succeeds_relation_iff]
    · simp only [Option.some.injEq, forall_eq', Json.contains, hr, Option.isSome_some, if_true]
      exact (succeeds_reply_bind_iff hr fun _ ↦ iff_of_true (succeeds_pure _) trivial).trans
        (by rw [and_true])

theorem ofStr_eq_replace_iff (s : Str) : RelationType.ofStr s = .replace ↔ s = "m.replace" := by
  rw [RelationType.ofStr]
  split_ifs with h1 h2 h3 h4 h5 <;> simp_all

theorem rel_type_eq_replace_iff {obj : Json} {r : Relation} (h : Relation.fromJson obj = .ok r) :
    r.rel_type = .replace ↔ obj.find? "rel_type" = some (.string "m.replace") := by
  obtain ⟨rel_type, ht, h⟩ := bind_eq_ok_iff.mp h
  obtain ⟨event_id, -, h⟩ := bind_eq_ok_iff.mp h
  obtain ⟨key, -, h⟩ := bind_eq_ok_iff.mp h
  obtain ⟨is_fallback, -, h⟩ := bind_eq_ok_iff.mp h
  obtain rfl := Except.ok.inj h
  show rel_type = .replace ↔ _
  obtain hj | ⟨j, hj⟩ := Option.eq_none_or_eq_some (obj.find? "rel_type")
  · obtain rfl := Except.ok.inj ((Json.optional_of_find?_none hj _).symm.trans ht)
    simp [hj]
  · rw [Json.optional_of_find? hj] at ht
    rcases j with - | b | i | u | f | s | xs | ms
    case string =>
      obtain rfl := Except.ok.inj ht
      simp [hj, ofStr_eq_replace_iff]
    all_goals cases ht

/-- **The relations are read exactly when the data about them can be.** -/
theorem succeeds_parseRelations_iff (content : Json) :
    Succeeds (parseRelations content) ↔ ReadableRelations content := by
  rw [parseRelations, ReadableRelations]
  rcases content.find? "im.nheko.relations.v1.relations" with - | list
  · rcases content.find? "m.relates_to" with - | relates_to
    · simp
    · simp only [Option.some.injEq, forall_eq']
      obtain hr | ⟨reply, hr⟩ := Option.eq_none_or_eq_some (relates_to.find? "m.in_reply_to")
      · simp only [Json.contains, hr, Option.isSome_none, Bool.false_eq_true, if_false,
          ReadableRelatesTo, ← succeeds_relation_iff, ← succeeds_parseEdited_iff]
        rw [succeeds_bind_iff]
        constructor
        · rintro ⟨r, hread, hrest⟩
          refine ⟨⟨r, hread⟩, fun hreplace ↦ ?_⟩
          rw [if_pos ((rel_type_eq_replace_iff hread).mpr hreplace)] at hrest
          obtain ⟨edited, hedited, -⟩ := succeeds_bind_iff.mp hrest
          exact ⟨edited, hedited⟩
        · rintro ⟨⟨r, hread⟩, hedited⟩
          refine ⟨r, hread, ?_⟩
          split_ifs with htype
          · obtain ⟨edited, hedited⟩ := hedited ((rel_type_eq_replace_iff hread).mp htype)
            rw [hedited]
            exact succeeds_pure _
          · exact succeeds_pure _
      · simpa [Json.contains, hr] using succeeds_parseReply_iff hr
  · simp only [succeeds_bind_iff, succeeds_pure, and_true, exists_eq_ok_iff,
      Json.succeeds_getArray_iff, succeeds_relation_iff]

/-! ## Malformed data -/

theorem stringOrAbsent_of_exists {obj : Json} {k : Str}
    (h : ∃ s, obj.find? k = some (.string s)) : StringOrAbsent obj k := by
  obtain ⟨s, hs⟩ := h
  rintro v hv
  exact ⟨s, Option.some.inj (hv.symm.trans hs)⟩

theorem WellFormedRelation.readable {obj : Json} (h : WellFormedRelation obj) :
    ReadableRelation obj :=
  ⟨stringOrAbsent_of_exists h.rel_type, stringOrAbsent_of_exists h.event_id, h.key, h.is_fallback⟩

theorem WellFormedRelatesTo.relation_of_find? {relates_to v : Json}
    (h : WellFormedRelatesTo relates_to) (hv : relates_to.find? "rel_type" = some v) :
    WellFormedRelation relates_to :=
  h.relation.resolve_right fun hreply ↦ by
    rw [hreply.2.1] at hv
    cases hv

theorem WellFormedRelatesTo.relation_of_no_reply {relates_to : Json}
    (h : WellFormedRelatesTo relates_to) (hreply : relates_to.find? "m.in_reply_to" = none) :
    WellFormedRelation relates_to :=
  h.relation.resolve_right fun hcontains ↦ by
    rw [Json.contains, hreply] at hcontains
    cases hcontains.1

/-- Well-formed data can be read. -/
theorem WellFormedRelations.readable {content : Json} (h : WellFormedRelations content) :
    ReadableRelations content := by
  rw [WellFormedRelations] at h
  rw [ReadableRelations]
  rcases hlist : content.find? "im.nheko.relations.v1.relations" with - | list
  · rw [hlist] at h
    intro relates_to hrelates
    obtain ⟨hwell, hedit⟩ := h relates_to hrelates
    rw [ReadableRelatesTo]
    rcases hreply : relates_to.find? "m.in_reply_to" with - | reply
    · refine ⟨(hwell.relation_of_no_reply hreply).readable, fun hreplace second hsecond ↦ ?_⟩
      have hsecond := hedit hreplace second hsecond
      rcases hreply' : second.find? "m.in_reply_to" with - | reply'
      · exact (hsecond.relation_of_no_reply hreply').readable
      · exact hsecond.reply reply' hreply'
    · exact ⟨hwell.reply reply hreply, fun hthread _ ↦
        ⟨(hwell.relation_of_find? hthread).readable, hwell.is_falling_back⟩⟩
  · rw [hlist] at h
    obtain ⟨xs, hxs, hall⟩ := h
    exact ⟨xs, hxs, fun x hx ↦ (hall x hx).readable⟩

/-- A reply is never read as no relations. -/
theorem parseReply_ne_empty (relates_to : Json) : parseReply relates_to ≠ .ok {} := by
  intro h
  rw [parseReply] at h
  obtain ⟨_, -, h⟩ := bind_eq_ok_iff.mp h
  obtain ⟨_, -, h⟩ := bind_eq_ok_iff.mp h
  obtain ⟨_, -, h⟩ := bind_eq_ok_iff.mp h
  dsimp only at h
  split_ifs at h
  · obtain ⟨_, -, h⟩ := bind_eq_ok_iff.mp h
    obtain ⟨_, -, h⟩ := bind_eq_ok_iff.mp h
    cases Except.ok.inj h
  · cases Except.ok.inj h

/-- **Only no data at all is read as no relations**, so that malformed data is read as relations
that nobody wrote, if it can be read. -/
theorem parseRelations_eq_empty {content : Json} (h : parseRelations content = .ok {}) :
    WellFormedRelations content := by
  rw [parseRelations] at h
  rw [WellFormedRelations]
  rcases hlist : content.find? "im.nheko.relations.v1.relations" with - | list
  · rw [hlist] at h
    rcases hrelates : content.find? "m.relates_to" with - | relates_to
    · intro relates_to hnone
      cases hnone
    · rw [hrelates] at h
      dsimp only at h
      split_ifs at h
      · exact absurd h (parseReply_ne_empty relates_to)
      · obtain ⟨_, -, h⟩ := bind_eq_ok_iff.mp h
        split_ifs at h
        all_goals
          obtain ⟨_, -, h⟩ := bind_eq_ok_iff.mp h
          cases Except.ok.inj h
  · rw [hlist] at h
    obtain ⟨relations, hread, h⟩ := bind_eq_ok_iff.mp h
    obtain rfl : relations = [] := congrArg Relations.relations (Except.ok.inj h)
    exact ⟨[], Json.eq_array_nil_of_getArray hread, List.forall_mem_nil _⟩

end Mtx.Events
