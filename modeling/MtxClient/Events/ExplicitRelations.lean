import MtxClient.Events.ApplyRelations

/-!
# The list of relations this library writes

Beside the standard `m.relates_to`, `add_relations` writes every relation to
`im.nheko.relations.v1.relations`, and `parse_relations` looks at nothing else when that list is
there.  So however the standard members are filled, the relations are read as they were written:
each step of `add_relations` before the last loop leaves an object without the list (`Unlisted`),
and the loop appends to it (`foldlM_pushBack`).
-/

set_option autoImplicit false

namespace Mtx.Events

open Str

/-! ## One relation -/

theorem relationType_toStr_fromJson (t : RelationType) :
    RelationType.fromJson (.string t.toStr) = .ok t := by
  cases t <;> rfl

/-- A relation is read as it was written. -/
theorem relation_fromJson_toJson (r : Relation) : Relation.fromJson r.toJson = .ok r := by
  have htype : r.toJson.optional "rel_type" RelationType.fromJson .unsupported =
      .ok r.rel_type := by
    rw [Json.optional_of_find? (v := .string r.rel_type.toStr) (by simp [Relation.toJson])]
    exact relationType_toStr_fromJson r.rel_type
  have hid : r.toJson.optional "event_id" Json.getString "" = .ok r.event_id :=
    Json.optional_of_find? (v := .string r.event_id) (by simp [Relation.toJson]) _
  have hkey : r.toJson.optional "key" (fun j ↦ some <$> j.getString) none = .ok r.key := by
    rw [Json.optional, Relation.toJson]
    rcases r.key with - | key <;> simp
  have hfallback : r.toJson.optional "im.nheko.relations.v1.is_fallback" Json.getBool false =
      .ok r.is_fallback := by
    rw [Json.optional, Relation.toJson]
    rcases r.is_fallback with - | -
    · simp
    · simp
      rfl
  rw [Relation.fromJson, htype, ok_bind, hid, ok_bind, hkey, ok_bind, hfallback]
  rfl

/-! ## The standard members -/

/-- An object without the list of relations. -/
structure Unlisted (j : Json) : Prop where
  isObject : j.isObject = true
  list : j.find? "im.nheko.relations.v1.relations" = none

variable {j : Json}

theorem Unlisted.put (h : Unlisted j) {k : Str} (hk : k ≠ "im.nheko.relations.v1.relations")
    (v : Json) : Unlisted (j.put k v) where
  isObject := Json.isObject_put (Or.inr h.isObject) k v
  list := by rw [Json.find?_put (Or.inr h.isObject), if_neg hk.symm, h.list]

theorem Unlisted.addNotEdit (h : Unlisted j) (hrelates : j.find? "m.relates_to" = none)
    (hnew : j.find? "m.new_content" = none) (not_edit : Option Relation) :
    ∃ j', addNotEdit j not_edit = .ok j' ∧ Unlisted j' ∧ j'.find? "m.new_content" = none ∧
      j'.find? "m.relates_to" = not_edit.map Relation.toJson := by
  rcases not_edit with - | r
  · exact ⟨j, rfl, h, hnew, hrelates⟩
  · refine ⟨_, Json.set_eq_ok (Or.inr h.isObject) _ _, h.put (by simp) r.toJson, ?_, ?_⟩
    · rw [Json.find?_put (Or.inr h.isObject), if_neg (by simp), hnew]
    · rw [Json.find?_put (Or.inr h.isObject), if_pos rfl]
      rfl

theorem Unlisted.addReply (h : Unlisted j) {not_edit : Option Relation}
    (hrelates : j.find? "m.relates_to" = not_edit.map Relation.toJson)
    (hnew : j.find? "m.new_content" = none) (reply : Option Relation) :
    ∃ j', addReply j reply not_edit = .ok j' ∧ Unlisted j' ∧
      j'.find? "m.new_content" = none := by
  rcases reply with - | r
  · exact ⟨j, rfl, h, hnew⟩
  -- what the reply is written into
  obtain ⟨relates_to, hrel, hshape, hreply⟩ : ∃ relates_to,
      (j.find? "m.relates_to").getD .null = relates_to ∧
        (relates_to = .null ∨ relates_to.isObject = true) ∧
        relates_to.find? "m.in_reply_to" = none := by
    rw [hrelates]
    rcases not_edit with - | n
    · exact ⟨_, rfl, Or.inl rfl, rfl⟩
    · exact ⟨_, rfl, Or.inr (isObject_relation_toJson n), find?_toJson_in_reply_to n⟩
  let replied := relates_to.put "m.in_reply_to" (.object [(lit "event_id", .string r.event_id)])
  have hset : j.setPath ["m.relates_to", "m.in_reply_to", "event_id"] (.string r.event_id) =
      .ok (j.put "m.relates_to" replied) :=
    setPath_cons (Or.inr h.isObject) (by rw [hrel]; exact setPath_cons hshape (by rw [hreply]; rfl))
  have hput := h.put (k := "m.relates_to") (by simp) replied
  have hnew' : (j.put "m.relates_to" replied).find? "m.new_content" = none := by
    rw [Json.find?_put (Or.inr h.isObject), if_neg (by simp), hnew]
  rw [Mtx.Events.addReply, hset, ok_bind]
  split_ifs with hfallback
  · refine ⟨_, setPath_cons (c := replied.put "is_falling_back" (.boolean true))
      (Or.inr hput.isObject) ?_, hput.put (by simp) _, ?_⟩
    · rw [Json.find?_put (Or.inr h.isObject), if_pos rfl]
      exact setPath_cons (Or.inr (Json.isObject_put hshape _ _)) rfl
    · rw [Json.find?_put (Or.inr hput.isObject), if_neg (by simp), hnew']
  · exact ⟨_, rfl, hput, hnew'⟩

theorem Unlisted.addEdit (h : Unlisted j) (hnew : j.find? "m.new_content" = none)
    (edit not_edit : Option Relation) :
    ∃ j', addEdit j edit not_edit = .ok j' ∧ Unlisted j' := by
  rcases edit with - | e
  · exact ⟨j, rfl, h⟩
  rcases not_edit with - | n
  · exact ⟨_, Json.set_eq_ok (Or.inr h.isObject) _ _, h.put (by simp) _⟩
  · have hput := h.put (k := "m.new_content") (by simp)
      (.object [(lit "m.relates_to", (j.find? "m.relates_to").getD .null)])
    refine ⟨_, ?_, hput.put (k := "m.relates_to") (by simp) e.toJson⟩
    rw [Mtx.Events.addEdit, setPath_cons (Or.inr h.isObject)
      (c := .object [(lit "m.relates_to", (j.find? "m.relates_to").getD .null)])
      (by rw [hnew]; rfl), ok_bind]
    exact Json.set_eq_ok (Or.inr hput.isObject) _ _

/-! ## The list -/

/-- The loop that appends relations to a list that is already there. -/
theorem foldlM_pushBack_of_array {xs : List Json} {key : Str} (hj : j.isObject = true)
    (hxs : j.find? key = some (.array xs)) (rs : List Relation) :
    ∃ j', rs.foldlM (fun content r ↦ pushBack content key r.toJson) j = .ok j' ∧
      j'.isObject = true ∧ (∀ k, k ≠ key → j'.find? k = j.find? k) ∧
      j'.find? key = some (.array (xs ++ rs.map Relation.toJson)) := by
  induction rs generalizing j xs with
  | nil => exact ⟨j, rfl, hj, fun _ _ ↦ rfl, by rw [hxs, List.map_nil, List.append_nil]⟩
  | cons r rs ih =>
    have hpush : pushBack j key r.toJson = .ok (j.put key (.array (xs ++ [r.toJson]))) := by
      rw [pushBack, hxs]
      exact Json.set_eq_ok (Or.inr hj) _ _
    obtain ⟨j', hj', hobj', hother, hfind⟩ :=
      ih (Json.isObject_put (Or.inr hj) key (.array (xs ++ [r.toJson])))
        (by rw [Json.find?_put (Or.inr hj), if_pos rfl])
    refine ⟨j', by rw [List.foldlM_cons, hpush, ok_bind, hj'], hobj', fun k hk ↦ ?_, ?_⟩
    · rw [hother k hk, Json.find?_put (Or.inr hj), if_neg hk]
    · rw [hfind, List.map_cons, List.append_assoc, List.singleton_append]

/-- The loop that writes the list. -/
theorem foldlM_pushBack {key : Str} (hj : j.isObject = true) (hnone : j.find? key = none)
    {rs : List Relation} (hne : rs ≠ []) :
    ∃ j', rs.foldlM (fun content r ↦ pushBack content key r.toJson) j = .ok j' ∧
      j'.find? key = some (Json.ofArray Relation.toJson rs) := by
  obtain ⟨r, rs, rfl⟩ := List.exists_cons_of_ne_nil hne
  have hpush : pushBack j key r.toJson = .ok (j.put key (.array [r.toJson])) := by
    rw [pushBack, hnone]
    exact Json.set_eq_ok (Or.inr hj) _ _
  rw [List.foldlM_cons, hpush, ok_bind]
  obtain ⟨j', hj', -, -, hfind⟩ := foldlM_pushBack_of_array (Json.isObject_put (Or.inr hj) key _)
    (by rw [Json.find?_put (Or.inr hj), if_pos rfl]) rs
  exact ⟨j', hj', hfind⟩

/-- The list that is written is read from again, whatever else stands there. -/
theorem parseRelations_of_list {written : Json} {relations : List Relation}
    (h : written.find? "im.nheko.relations.v1.relations" =
      some (Json.ofArray Relation.toJson relations)) :
    parseRelations written = .ok { relations, synthesized := false } := by
  rw [parseRelations, h]
  simp only [Json.getArray_ofArray relation_fromJson_toJson, ok_bind]
  rfl

/-- The list holds all relations. -/
theorem addRelations_list {content : Json} (hobj : content.isObject = true)
    (hrelates : content.find? "m.relates_to" = none)
    (hnew : content.find? "m.new_content" = none)
    (hlist : content.find? "im.nheko.relations.v1.relations" = none) {relations : List Relation}
    (hne : relations ≠ []) (hsupported : ∀ r ∈ relations, r.rel_type ≠ .unsupported) :
    ∃ written, addRelations content { relations, synthesized := false } = .ok written ∧
      written.find? "im.nheko.relations.v1.relations" =
        some (Json.ofArray Relation.toJson relations) := by
  have hall : relations.filter (·.rel_type != .unsupported) = relations :=
    List.filter_eq_self.mpr fun r hr ↦ bne_iff_ne.mpr (hsupported r hr)
  let slots := relations.foldl Slots.assign {}
  obtain ⟨j₁, h₁, hj₁, hnew₁, hrelates₁⟩ :=
    Unlisted.addNotEdit ⟨hobj, hlist⟩ hrelates hnew slots.not_edit
  obtain ⟨j₂, h₂, hj₂, hnew₂⟩ := hj₁.addReply hrelates₁ hnew₁ slots.reply
  obtain ⟨j₃, h₃, hj₃⟩ := hj₂.addEdit hnew₂ slots.edit slots.not_edit
  obtain ⟨written, hwritten, hfind⟩ := foldlM_pushBack hj₃.isObject hj₃.list hne
  refine ⟨written, ?_, hfind⟩
  rw [addRelations, if_neg (by simpa using hne)]
  simp only [h₁, h₂, h₃, ok_bind, hall, slots]
  exact hwritten

/-- **Relations that are written to an object are read from it again**, in their order and whatever
else stands there. -/
theorem parseRelations_addRelations {content : Json} (hobj : content.isObject = true)
    (hrelates : content.find? "m.relates_to" = none)
    (hnew : content.find? "m.new_content" = none)
    (hlist : content.find? "im.nheko.relations.v1.relations" = none) {relations : List Relation}
    (hne : relations ≠ []) (hsupported : ∀ r ∈ relations, r.rel_type ≠ .unsupported) :
    ∃ written, addRelations content { relations, synthesized := false } = .ok written ∧
      parseRelations written = .ok { relations, synthesized := false } := by
  obtain ⟨written, hwritten, hfind⟩ :=
    addRelations_list hobj hrelates hnew hlist hne hsupported
  exact ⟨written, hwritten, parseRelations_of_list hfind⟩

/-- Two replies with an edit between them, beside a text. -/
theorem parseRelations_addRelations_edit :
    ∃ written, addRelations (.object [(lit "body", .string "b")])
        { relations := [{ rel_type := .inReplyTo, event_id := "$1" },
            { rel_type := .replace, event_id := "$2", key := some "k", is_fallback := true },
            { rel_type := .inReplyTo, event_id := "$1" }] } = .ok written ∧
      parseRelations written = .ok
        { relations := [{ rel_type := .inReplyTo, event_id := "$1" },
            { rel_type := .replace, event_id := "$2", key := some "k", is_fallback := true },
            { rel_type := .inReplyTo, event_id := "$1" }] } :=
  parseRelations_addRelations rfl rfl rfl rfl (List.cons_ne_nil _ _) (by decide)

end Mtx.Events
