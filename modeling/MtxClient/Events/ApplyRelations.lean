import MtxClient.Events.Edits
import MtxClient.Events.RelationData

/-!
# Writing an event with relations

`apply_relations` writes the relations of a content and, when the event is an edit, also the edited
content below `m.new_content`.  `from_json(Event<Content>)` reads an edit from there again.

`applyRelations_spec` says that this always works: what an ordinary content is written to is read
from an object with the same members, in which the relation data can be read.
-/

set_option autoImplicit false

namespace Mtx.Events

open Str

/-- The members that relations are written to. -/
def isRelationKey (k : Str) : Bool :=
  k == lit "m.relates_to" || k == lit "im.nheko.relations.v1.relations" || k == lit "m.new_content"

theorem isRelationKey_iff {k : Str} : isRelationKey k = true ↔
    k = "m.relates_to" ∨ k = "im.nheko.relations.v1.relations" ∨ k = "m.new_content" := by
  simp [isRelationKey, or_assoc]

/-- `content["m.new_content"][e.key()] = e.value()`, for the members of the content itself. -/
def copyToNewContent (content : Json) (e : Str × Json) : Except Exn Json :=
  if isRelationKey e.1 then .ok content else content.setPath ["m.new_content", e.1] e.2

/-- `if (content.contains(key)) content[key] = "* " + content[key].get<std::string>();`. -/
def addStar (content : Json) (key : Str) : Except Exn Json :=
  match content.find? key with
  | some v => do content.set key (.string (lit "* " ++ (← v.getString)))
  | none => .ok content

/-- `apply_relations`. -/
def applyRelations (content : Json) (relations : Relations) : Except Exn Json := do
  let content ← addRelations content relations
  if (relations.replaces true).isNone then return content
  let content ← content.items.foldlM copyToNewContent content
  let content ← addStar content "body"
  addStar content "formatted_body"

/-- The value that `from_json(Event<Content>)` reads a content from. -/
def effectiveContent (content : Json) : Except Exn Json :=
  if content.contains "m.new_content" then mergeNewContent content else .ok content

/-! ## Assigning below members -/

theorem setPath_eq {j : Json} (hj : j = .null ∨ j.isObject = true) (k : Str) (ks : List Str)
    (v : Json) : j.setPath (k :: ks) v = j.put k <$> ((j.find? k).getD .null).setPath ks v := by
  rcases j with - | b | i | u | f | s | xs | ms
  case null => rfl
  case object => rfl
  all_goals simp [Json.isObject] at hj

theorem setPath_cons {j c : Json} (hj : j = .null ∨ j.isObject = true) {k : Str} {ks : List Str}
    {v : Json} (hc : ((j.find? k).getD .null).setPath ks v = .ok c) :
    j.setPath (k :: ks) v = .ok (j.put k c) := by
  rw [setPath_eq hj, hc]
  rfl

/-- A value that has no members of the three keys, as contents are before relations are written. -/
structure Plain (base : Json) : Prop where
  /-- Members can be assigned. -/
  shape : base = .null ∨ base.isObject = true
  sorted : base.SortedKeys
  noRelation : ∀ k, isRelationKey k = true → base.find? k = none
  /-- An edit puts a star before these. -/
  body : StringOrAbsent base "body"
  formatted_body : StringOrAbsent base "formatted_body"

/-- What is written to `m.relates_to`. -/
structure WrittenRelatesTo (relates_to : Json) : Prop where
  relation : ReadableRelation relates_to
  reply : ∀ reply, relates_to.find? "m.in_reply_to" = some reply → NamesEvent reply
  is_falling_back : BoolOrAbsent relates_to "is_falling_back"

/-- A content to which relations were added. -/
structure Added (base j : Json) : Prop where
  shape : j = .null ∨ j.isObject = true
  isObject : base.isObject = true → j.isObject = true
  sorted : j.SortedKeys
  ordinary : ∀ k, isRelationKey k = false → j.find? k = base.find? k
  relates_to : ∀ r, j.find? "m.relates_to" = some r → WrittenRelatesTo r
  new_content : ∀ n, j.find? "m.new_content" = some n →
    ∃ r, n = .object [(lit "m.relates_to", r)] ∧ WrittenRelatesTo r
  list : ∀ l, j.find? "im.nheko.relations.v1.relations" = some l →
    ∃ xs, l = .array xs ∧ ∀ x ∈ xs, ReadableRelation x

theorem Plain.added {base : Json} (h : Plain base) : Added base base where
  shape := h.shape
  isObject := id
  sorted := h.sorted
  ordinary _ _ := rfl
  relates_to r hr := by rw [h.noRelation _ (by decide)] at hr; cases hr
  new_content n hn := by rw [h.noRelation _ (by decide)] at hn; cases hn
  list l hl := by rw [h.noRelation _ (by decide)] at hl; cases hl

variable {base j : Json}

/-- Assigning one of the three members keeps the others. -/
theorem Added.put (h : Added base j) {k : Str} {v : Json} (hk : isRelationKey k = true)
    (hrelates : k = "m.relates_to" → WrittenRelatesTo v)
    (hnew : k = "m.new_content" → ∃ r, v = .object [(lit "m.relates_to", r)] ∧ WrittenRelatesTo r)
    (hlist : k = "im.nheko.relations.v1.relations" →
      ∃ xs, v = .array xs ∧ ∀ x ∈ xs, ReadableRelation x) : Added base (j.put k v) where
  shape := Or.inr (Json.isObject_put h.shape k v)
  isObject _ := Json.isObject_put h.shape k v
  sorted := h.sorted.put k v
  ordinary k' hk' := by
    rw [Json.find?_put h.shape, if_neg fun heq ↦ by rw [heq, hk] at hk'; cases hk']
    exact h.ordinary k' hk'
  relates_to r hr := by
    rw [Json.find?_put h.shape] at hr
    split_ifs at hr with heq
    · exact Option.some.inj hr ▸ hrelates heq.symm
    · exact h.relates_to r hr
  new_content n hn := by
    rw [Json.find?_put h.shape] at hn
    split_ifs at hn with heq
    · exact Option.some.inj hn ▸ hnew heq.symm
    · exact h.new_content n hn
  list l hl := by
    rw [Json.find?_put h.shape] at hl
    split_ifs at hl with heq
    · exact Option.some.inj hl ▸ hlist heq.symm
    · exact h.list l hl

/-- What was written to `m.relates_to` can be read wherever it stands. -/
theorem WrittenRelatesTo.readable {r content : Json} (h : WrittenRelatesTo r)
    (hedited : ReadableEdited content) : ReadableRelatesTo content r := by
  rw [ReadableRelatesTo]
  obtain hr | ⟨reply, hr⟩ := Option.eq_none_or_eq_some (r.find? "m.in_reply_to")
  · rw [hr]
    exact ⟨h.relation, fun _ ↦ hedited⟩
  · rw [hr]
    exact ⟨h.reply reply hr, fun _ _ ↦ ⟨h.relation, h.is_falling_back⟩⟩

/-- The same three members make the same relation data. -/
theorem readableRelations_of_written {content : Json}
    (hrelates : ∀ r, content.find? "m.relates_to" = some r → WrittenRelatesTo r)
    (hnew : ∀ n, content.find? "m.new_content" = some n → ∀ r, n.find? "m.relates_to" = some r →
      WrittenRelatesTo r)
    (hlist : ∀ l, content.find? "im.nheko.relations.v1.relations" = some l →
      ∃ xs, l = .array xs ∧ ∀ x ∈ xs, ReadableRelation x) : ReadableRelations content := by
  have hedited : ReadableEdited content := by
    intro second hsecond
    obtain ⟨n, hn, hr⟩ := Option.bind_eq_some_iff.mp hsecond
    have hwritten := hnew n hn second hr
    obtain h | ⟨reply, h⟩ := Option.eq_none_or_eq_some (second.find? "m.in_reply_to")
    · rw [h]
      exact hwritten.relation
    · rw [h]
      exact hwritten.reply reply h
  rw [ReadableRelations]
  obtain hl | ⟨l, hl⟩ :=
    Option.eq_none_or_eq_some (content.find? "im.nheko.relations.v1.relations")
  · rw [hl]
    exact fun r hr ↦ (hrelates r hr).readable hedited
  · rw [hl]
    exact hlist l hl

theorem Added.readable (h : Added base j) : ReadableRelations j := by
  refine readableRelations_of_written h.relates_to (fun n hn r hr ↦ ?_) h.list
  obtain ⟨r', rfl, hwritten⟩ := h.new_content n hn
  rw [Json.find?, AssocList.find?_cons, if_pos rfl] at hr
  exact Option.some.inj hr ▸ hwritten

/-! ## What `add_relations` writes -/

theorem find?_toJson_in_reply_to (r : Relation) : r.toJson.find? "m.in_reply_to" = none := by
  simp [Relation.toJson]

theorem isObject_relation_toJson (r : Relation) : r.toJson.isObject = true :=
  Json.isObject_of_find? (v := .string r.event_id) (k := "event_id") (by simp [Relation.toJson])

theorem readableRelation_toJson (r : Relation) : ReadableRelation r.toJson := by
  obtain ⟨rel_type, event_id, key, is_fallback⟩ := r
  refine ⟨fun v hv ↦ ?_, fun v hv ↦ ?_, fun v hv ↦ ?_, fun v hv ↦ ?_⟩
  all_goals simp [Relation.toJson] at hv
  · exact ⟨_, hv.symm⟩
  · exact ⟨_, hv.symm⟩
  · exact ⟨_, hv.2.symm⟩
  · exact ⟨_, hv.2.symm⟩

theorem writtenRelatesTo_toJson (r : Relation) : WrittenRelatesTo r.toJson where
  relation := readableRelation_toJson r
  reply reply h := by rw [find?_toJson_in_reply_to] at h; cases h
  is_falling_back v hv := by simp [Relation.toJson] at hv

/-- The members of a relation in an object that has them. -/
theorem WrittenRelatesTo.put {r v : Json} (h : WrittenRelatesTo r)
    (hr : r = .null ∨ r.isObject = true) {k : Str}
    (hk : k = "m.in_reply_to" ∧ NamesEvent v ∨ k = "is_falling_back" ∧ ∃ b, v = .boolean b) :
    WrittenRelatesTo (r.put k v) := by
  have hother : ∀ k' : Str, k' ≠ "m.in_reply_to" → k' ≠ "is_falling_back" →
      (r.put k v).find? k' = r.find? k' := fun k' h1 h2 ↦ by
    rw [Json.find?_put hr, if_neg]
    rintro rfl
    exact hk.elim (fun h ↦ h1 h.1) fun h ↦ h2 h.1
  refine ⟨⟨?_, ?_, ?_, ?_⟩, fun reply hreply ↦ ?_, fun b hb ↦ ?_⟩
  · rw [StringOrAbsent, hother _ (by simp) (by simp)]; exact h.relation.rel_type
  · rw [StringOrAbsent, hother _ (by simp) (by simp)]; exact h.relation.event_id
  · rw [StringOrAbsent, hother _ (by simp) (by simp)]; exact h.relation.key
  · rw [BoolOrAbsent, hother _ (by simp) (by simp)]; exact h.relation.is_fallback
  · rw [Json.find?_put hr] at hreply
    split_ifs at hreply with heq
    · obtain ⟨-, hv⟩ | ⟨rfl, -⟩ := hk
      · exact Option.some.inj hreply ▸ hv
      · simp at heq
    · exact h.reply reply hreply
  · rw [Json.find?_put hr] at hb
    split_ifs at hb with heq
    · obtain ⟨rfl, -⟩ | ⟨-, hv⟩ := hk
      · simp at heq
      · exact Option.some.inj hb ▸ hv
    · exact h.is_falling_back b hb

/-- Nothing at all is a written relation. -/
theorem writtenRelatesTo_null : WrittenRelatesTo .null where
  relation := ⟨nofun, nofun, nofun, nofun⟩
  reply := nofun
  is_falling_back := nofun

theorem Added.addNotEdit (h : Added base j) (hnone : j.find? "m.new_content" = none)
    (not_edit : Option Relation) :
    ∃ j', addNotEdit j not_edit = .ok j' ∧ Added base j' ∧ j'.find? "m.new_content" = none ∧
      j'.find? "m.relates_to" = (not_edit.map Relation.toJson).or (j.find? "m.relates_to") := by
  rcases not_edit with - | r
  · exact ⟨j, rfl, h, hnone, by simp⟩
  · refine ⟨j.put "m.relates_to" r.toJson, Json.set_eq_ok h.shape _ _,
      h.put (by decide) (fun _ ↦ writtenRelatesTo_toJson r) (fun h ↦ by simp at h)
      (fun h ↦ by simp at h), ?_, ?_⟩
    · rw [Json.find?_put h.shape, if_neg (by simp), hnone]
    · rw [Json.find?_put h.shape, if_pos rfl]
      rfl

theorem Added.addReply (h : Added base j) (hnone : j.find? "m.new_content" = none)
    {not_edit : Option Relation} (hrelates : j.find? "m.relates_to" = not_edit.map Relation.toJson)
    (reply : Option Relation) :
    ∃ j', addReply j reply not_edit = .ok j' ∧ Added base j' ∧
      j'.find? "m.new_content" = none := by
  rcases reply with - | r
  · exact ⟨j, rfl, h, hnone⟩
  · -- what the reply is written into
    obtain ⟨relates_to, hrel, hshape, hwritten, hreply⟩ : ∃ relates_to,
        (j.find? "m.relates_to").getD .null = relates_to ∧
          (relates_to = .null ∨ relates_to.isObject = true) ∧ WrittenRelatesTo relates_to ∧
          relates_to.find? "m.in_reply_to" = none := by
      rw [hrelates]
      rcases not_edit with - | n
      · exact ⟨_, rfl, Or.inl rfl, writtenRelatesTo_null, rfl⟩
      · exact ⟨_, rfl, Or.inr (isObject_relation_toJson n), writtenRelatesTo_toJson n,
          find?_toJson_in_reply_to n⟩
    let id := Json.object [(lit "event_id", .string r.event_id)]
    have hid : NamesEvent id := ⟨r.event_id, rfl⟩
    have hwritten' : WrittenRelatesTo (relates_to.put "m.in_reply_to" id) :=
      hwritten.put hshape (Or.inl ⟨rfl, hid⟩)
    have hset : j.setPath ["m.relates_to", "m.in_reply_to", "event_id"] (.string r.event_id) =
        .ok (j.put "m.relates_to" (relates_to.put "m.in_reply_to" id)) :=
      setPath_cons h.shape (by rw [hrel]; exact setPath_cons hshape (by rw [hreply]; rfl))
    have hadded : Added base (j.put "m.relates_to" (relates_to.put "m.in_reply_to" id)) :=
      h.put (by decide) (fun _ ↦ hwritten') (fun h ↦ by simp at h) (fun h ↦ by simp at h)
    have hnone' : (j.put "m.relates_to" (relates_to.put "m.in_reply_to" id)).find?
        "m.new_content" = none := by
      rw [Json.find?_put h.shape, if_neg (by simp), hnone]
    rw [Mtx.Events.addReply, hset, ok_bind]
    split_ifs with hfallback
    · have hobj : (relates_to.put "m.in_reply_to" id).isObject = true :=
        Json.isObject_put hshape _ _
      refine ⟨_, setPath_cons (c := (relates_to.put "m.in_reply_to" id).put "is_falling_back"
        (.boolean true)) hadded.shape ?_, hadded.put (by decide) (fun _ ↦ hwritten'.put
        (Or.inr hobj) (Or.inr ⟨rfl, true, rfl⟩)) (fun h ↦ by simp at h) (fun h ↦ by simp at h), ?_⟩
      · rw [Json.find?_put h.shape, if_pos rfl]
        exact setPath_cons (Or.inr hobj) rfl
      · rw [Json.find?_put hadded.shape, if_neg (by simp), hnone']
    · exact ⟨_, rfl, hadded, hnone'⟩

theorem Added.addEdit (h : Added base j) (hnone : j.find? "m.new_content" = none)
    (edit not_edit : Option Relation) :
    ∃ j', addEdit j edit not_edit = .ok j' ∧ Added base j' ∧
      (edit = none → j'.find? "m.new_content" = none) ∧
      (edit ≠ none → ∃ r, j'.find? "m.relates_to" = some r) := by
  rcases edit with - | e
  · exact ⟨j, rfl, h, fun _ ↦ hnone, fun hne ↦ absurd rfl hne⟩
  · have hwritten : WrittenRelatesTo ((j.find? "m.relates_to").getD .null) := by
      rcases hr : j.find? "m.relates_to" with - | r
      · exact writtenRelatesTo_null
      · exact h.relates_to r hr
    have hlast : ∀ {j' : Json}, Added base j' →
        Added base (j'.put "m.relates_to" e.toJson) ∧
          ∃ r, (j'.put "m.relates_to" e.toJson).find? "m.relates_to" = some r := fun h' ↦
      ⟨h'.put (by decide) (fun _ ↦ writtenRelatesTo_toJson e) (fun h ↦ by simp at h)
        (fun h ↦ by simp at h), _, by rw [Json.find?_put h'.shape, if_pos rfl]⟩
    rcases not_edit with - | n
    · exact ⟨_, Json.set_eq_ok h.shape _ _, (hlast h).1, nofun, fun _ ↦ (hlast h).2⟩
    · have hnew : Added base (j.put "m.new_content" (.object [(lit "m.relates_to",
          (j.find? "m.relates_to").getD .null)])) :=
        h.put (by decide) (fun h ↦ by simp at h) (fun _ ↦ ⟨_, rfl, hwritten⟩)
          (fun h ↦ by simp at h)
      refine ⟨_, ?_, (hlast hnew).1, nofun, fun _ ↦ (hlast hnew).2⟩
      rw [Mtx.Events.addEdit, setPath_cons h.shape (c := .object [(lit "m.relates_to",
        (j.find? "m.relates_to").getD .null)]) (by rw [hnone]; rfl), ok_bind]
      exact Json.set_eq_ok hnew.shape _ _

/-- Pushing back relations only changes the list. -/
theorem Added.pushBack (h : Added base j) (rs : List Relation) :
    ∃ j', rs.foldlM (fun content r ↦
        pushBack content "im.nheko.relations.v1.relations" r.toJson) j = .ok j' ∧ Added base j' ∧
      j'.find? "m.new_content" = j.find? "m.new_content" ∧
      j'.find? "m.relates_to" = j.find? "m.relates_to" := by
  induction rs generalizing j with
  | nil => exact ⟨j, rfl, h, rfl, rfl⟩
  | cons r rs ih =>
    -- the list with `r` at its end
    obtain ⟨xs, hpush, hxs⟩ : ∃ xs,
        Mtx.Events.pushBack j "im.nheko.relations.v1.relations" r.toJson =
          j.set "im.nheko.relations.v1.relations" (.array xs) ∧
        ∀ x ∈ xs, ReadableRelation x := by
      rw [Mtx.Events.pushBack]
      obtain hl | ⟨l, hl⟩ := Option.eq_none_or_eq_some (j.find? "im.nheko.relations.v1.relations")
      · rw [hl]
        refine ⟨[r.toJson], rfl, fun x hx ↦ ?_⟩
        rw [List.mem_singleton.mp hx]
        exact readableRelation_toJson r
      · obtain ⟨xs, rfl, hxs⟩ := h.list l hl
        rw [hl]
        refine ⟨xs ++ [r.toJson], rfl, fun x hx ↦ ?_⟩
        rcases List.mem_append.mp hx with hx | hx
        · exact hxs x hx
        · rw [List.mem_singleton.mp hx]
          exact readableRelation_toJson r
    have hadded : Added base (j.put "im.nheko.relations.v1.relations" (.array xs)) :=
      h.put (by decide) (fun h ↦ by simp at h) (fun h ↦ by simp at h) (fun _ ↦ ⟨xs, rfl, hxs⟩)
    obtain ⟨j', hj', hadded', hnew, hrelates⟩ := ih hadded
    refine ⟨j', ?_, hadded', ?_, ?_⟩
    · rw [List.foldlM_cons, hpush, Json.set_eq_ok h.shape, ok_bind, hj']
    · rw [hnew, Json.find?_put h.shape, if_neg (by simp)]
    · rw [hrelates, Json.find?_put h.shape, if_neg (by simp)]

/-- There is an edit among the relations exactly when they replace an event. -/
theorem edit_eq_none_iff (rels : Relations) :
    (rels.relations.foldl Slots.assign {}).edit = none ↔ rels.replaces true = none := by
  have hfold : ∀ (rs : List Relation) (s : Slots),
      (rs.foldl Slots.assign s).edit = none ↔
        s.edit = none ∧ ∀ r ∈ rs, r.rel_type ≠ .replace := by
    intro rs
    induction rs with
    | nil => simp
    | cons r rs ih =>
      intro s
      rw [List.foldl_cons, ih, List.forall_mem_cons, ← and_assoc]
      refine and_congr_left fun _ ↦ ?_
      rw [Slots.assign]
      split <;> simp_all
  rw [hfold, Relations.replaces, Relations.firstMatching, Option.map_eq_none_iff,
    List.find?_eq_none]
  simp

/-- **Relations can be added to every ordinary content.** -/
theorem addRelations_spec (h : Plain base) (rels : Relations) :
    ∃ j, addRelations base rels = .ok j ∧ Added base j ∧
      (rels.replaces true = none → j.find? "m.new_content" = none) ∧
      (rels.replaces true ≠ none → ∃ r, j.find? "m.relates_to" = some r) := by
  simp only [ne_eq, ← edit_eq_none_iff]
  rw [addRelations]
  by_cases hempty : rels.relations.isEmpty = true
  · have hnil : rels.relations = [] := List.isEmpty_iff.mp hempty
    rw [if_pos hempty, hnil]
    exact ⟨base, rfl, h.added, fun _ ↦ h.noRelation _ (by decide), fun hne ↦ absurd rfl hne⟩
  · rw [if_neg hempty]
    obtain ⟨slots, hslots⟩ : ∃ slots, rels.relations.foldl Slots.assign {} = slots := ⟨_, rfl⟩
    rw [hslots]
    obtain ⟨j₁, h₁, hadded₁, hnone₁, hrelates₁⟩ :=
      h.added.addNotEdit (h.noRelation _ (by decide)) slots.not_edit
    rw [h.noRelation _ (by decide), Option.or_none] at hrelates₁
    obtain ⟨j₂, h₂, hadded₂, hnone₂⟩ := hadded₁.addReply hnone₁ hrelates₁ slots.reply
    obtain ⟨j₃, h₃, hadded₃, hnone₃, hrelates₃⟩ :=
      hadded₂.addEdit hnone₂ slots.edit slots.not_edit
    simp only [h₁, h₂, h₃, ok_bind]
    split_ifs with hsynthesized
    · exact ⟨j₃, rfl, hadded₃, hnone₃, hrelates₃⟩
    · obtain ⟨j₄, h₄, hadded₄, hnew₄, hrelates₄⟩ :=
        hadded₃.pushBack (rels.relations.filter (·.rel_type != .unsupported))
      rw [← hnew₄] at hnone₃
      rw [← hrelates₄] at hrelates₃
      exact ⟨j₄, h₄, hadded₄, hnone₃, hrelates₃⟩

/-! ## What `apply_relations` writes -/

/-- The members that are copied to `m.new_content`, on top of what stands there. -/
theorem foldlM_copyToNewContent (es : List (Str × Json)) {c : Json} (hc : c.isObject = true)
    (hnew : (c.find? "m.new_content").getD .null = .null ∨
      ((c.find? "m.new_content").getD .null).isObject = true) :
    ∃ c', es.foldlM copyToNewContent c = .ok c' ∧ c'.isObject = true ∧
      (∀ k : Str, k ≠ "m.new_content" → c'.find? k = c.find? k) ∧
      ((c'.find? "m.new_content").getD .null = .null ∨
        ((c'.find? "m.new_content").getD .null).isObject = true) ∧
      (AssocList.Sorted es → ∀ k, ((c'.find? "m.new_content").getD .null).find? k =
        if isRelationKey k then ((c.find? "m.new_content").getD .null).find? k
        else (AssocList.find? k es).or (((c.find? "m.new_content").getD .null).find? k)) := by
  induction es generalizing c with
  | nil => exact ⟨c, rfl, hc, fun _ _ ↦ rfl, hnew, fun _ k ↦ by simp⟩
  | cons e es ih =>
    obtain ⟨a, v⟩ := e
    rw [List.foldlM_cons]
    by_cases ha : isRelationKey a = true
    · obtain ⟨c', hc', hobj, hother, hnew', hfind⟩ := ih hc hnew
      refine ⟨c', by rw [copyToNewContent, if_pos ha, ok_bind, hc'], hobj, hother, hnew',
        fun hes k ↦ ?_⟩
      rw [hfind (List.pairwise_cons.mp hes).2, AssocList.find?_cons]
      by_cases hk : isRelationKey k = true
      · rw [if_pos hk, if_pos hk]
      · rw [if_neg hk, if_neg hk, if_neg fun heq : a = k ↦ hk (heq ▸ ha)]
    · let n := ((c.find? "m.new_content").getD .null).put a v
      have hstep : copyToNewContent c (a, v) = .ok (c.put "m.new_content" n) := by
        rw [copyToNewContent, if_neg ha]
        exact setPath_cons (Or.inr hc) (setPath_cons hnew rfl)
      have hfind₁ : (c.put "m.new_content" n).find? "m.new_content" = some n := by
        rw [Json.find?_put (Or.inr hc), if_pos rfl]
      obtain ⟨c', hc', hobj, hother, hnew', hfind⟩ := ih
        (Json.isObject_put (Or.inr hc) "m.new_content" n)
        (by rw [hfind₁]; exact Or.inr (Json.isObject_put hnew a v))
      refine ⟨c', by rw [hstep, ok_bind, hc'], hobj, fun k hk ↦ ?_, hnew', fun hes k ↦ ?_⟩
      · rw [hother k hk, Json.find?_put (Or.inr hc), if_neg hk]
      · obtain ⟨hhead, htail⟩ := List.pairwise_cons.mp hes
        have hnone : AssocList.find? a es = none :=
          AssocList.find?_eq_none_iff.mpr fun e he heq ↦ absurd (hhead e he) (by simp [heq])
        rw [hfind htail, hfind₁, Option.getD_some, Json.find?_put hnew, AssocList.find?_cons]
        by_cases hk : isRelationKey k = true
        · rw [if_pos hk, if_pos hk, if_neg fun heq : k = a ↦ ha (heq ▸ hk)]
        · rw [if_neg hk, if_neg hk]
          by_cases hka : k = a
          · rw [hka, if_pos rfl, if_pos rfl, hnone]
            rfl
          · rw [if_neg hka, if_neg (Ne.symm hka)]

theorem addStar_spec (hj : j.isObject = true) {key : Str} (h : StringOrAbsent j key) :
    ∃ j', addStar j key = .ok j' ∧ j'.isObject = true ∧
      (∀ k, k ≠ key → j'.find? k = j.find? k) ∧ (j.find? key = none → j' = j) := by
  rw [addStar]
  obtain hv | ⟨v, hv⟩ := Option.eq_none_or_eq_some (j.find? key)
  · rw [hv]
    exact ⟨j, rfl, hj, fun _ _ ↦ rfl, fun _ ↦ rfl⟩
  · obtain ⟨s, rfl⟩ := h v hv
    rw [hv]
    refine ⟨_, Json.set_eq_ok (Or.inr hj) _ _, Json.isObject_put (Or.inr hj) _ _, fun k hk ↦ ?_,
      nofun⟩
    rw [Json.find?_put (Or.inr hj), if_neg hk]

/-- The object that a written edit is read from. -/
theorem mergeNewContent_written {content n relates_to : Json}
    (hn : content.find? "m.new_content" = some n) (hshape : n = .null ∨ n.isObject = true)
    (hrelates : content.find? "m.relates_to" = some relates_to)
    (hnested : n.find? "m.new_content" = none) :
    ∃ r, mergeNewContent content = .ok r ∧
      (∀ k, isRelationKey k = false → r.find? k = n.find? k) ∧
      r.find? "m.relates_to" = some relates_to ∧
      (∀ x, r.find? "m.new_content" = some x →
        ∃ second, n.find? "m.relates_to" = some second ∧
          x = .object [(lit "m.relates_to", second)]) ∧
      r.find? "im.nheko.relations.v1.relations" =
        (content.find? "im.nheko.relations.v1.relations").or
          (n.find? "im.nheko.relations.v1.relations") := by
  -- the two members that are copied
  have hput : ∀ {m : Json} {k : Str} {v : Json}, m.isObject = true → isRelationKey k = true →
      ∀ k', isRelationKey k' = false → (m.put k v).find? k' = m.find? k' := fun hm hk k' hk' ↦ by
    rw [Json.find?_put (Or.inr hm), if_neg fun heq ↦ by rw [heq, hk] at hk'; cases hk']
  have hobj : (n.put "m.relates_to" relates_to).isObject = true := Json.isObject_put hshape _ _
  have hordinary : ∀ k, isRelationKey k = false →
      (n.put "m.relates_to" relates_to).find? k = n.find? k := fun k hk ↦ by
    rw [Json.find?_put hshape, if_neg fun heq ↦ by rw [heq] at hk; revert hk; decide]
  obtain ⟨m, hm, hmobj, hmordinary, hmrelates, hmnew, hmlist⟩ : ∃ m,
      mergeNewContent content = Json.copyMember content m "im.nheko.relations.v1.relations" ∧
      m.isObject = true ∧ (∀ k, isRelationKey k = false → m.find? k = n.find? k) ∧
      m.find? "m.relates_to" = some relates_to ∧
      (∀ x, m.find? "m.new_content" = some x →
        ∃ second, n.find? "m.relates_to" = some second ∧
          x = .object [(lit "m.relates_to", second)]) ∧
      m.find? "im.nheko.relations.v1.relations" = n.find? "im.nheko.relations.v1.relations" := by
    have hcopy : Json.copyMember content n "m.relates_to" =
        .ok (n.put "m.relates_to" relates_to) := by
      rw [Json.copyMember, hrelates]
      exact Json.set_eq_ok hshape _ _
    rw [mergeNewContent, Json.atKey_of_find? hn, ok_bind, hcopy, ok_bind]
    have hnested' : (n.put "m.relates_to" relates_to).find? "m.new_content" = none := by
      rw [Json.find?_put hshape, if_neg (by simp), hnested]
    obtain hs | ⟨second, hs⟩ := Option.eq_none_or_eq_some (n.find? "m.relates_to")
    · rw [hs]
      refine ⟨_, rfl, hobj, hordinary, by rw [Json.find?_put hshape, if_pos rfl], fun x hx ↦ ?_,
        by rw [Json.find?_put hshape, if_neg (by simp)]⟩
      rw [hnested'] at hx
      cases hx
    · rw [hs]
      have hset : (n.put "m.relates_to" relates_to).setPath ["m.new_content", "m.relates_to"]
          second = .ok _ :=
        setPath_cons (c := .object [(lit "m.relates_to", second)]) (Or.inr hobj)
          (by rw [hnested']; rfl)
      refine ⟨(n.put "m.relates_to" relates_to).put "m.new_content"
        (.object [(lit "m.relates_to", second)]), by simp only [hset, ok_bind],
        Json.isObject_put (Or.inr hobj) _ _, fun k hk ↦ ?_, ?_, fun x hx ↦ ⟨second, rfl, ?_⟩, ?_⟩
      · rw [hput hobj (by decide) k hk, hordinary k hk]
      · rw [Json.find?_put (Or.inr hobj), if_neg (by simp), Json.find?_put hshape, if_pos rfl]
      · rw [Json.find?_put (Or.inr hobj), if_pos rfl] at hx
        exact (Option.some.inj hx).symm
      · rw [Json.find?_put (Or.inr hobj), if_neg (by simp), Json.find?_put hshape,
          if_neg (by simp)]
  rw [hm, Json.copyMember]
  obtain hl | ⟨l, hl⟩ := Option.eq_none_or_eq_some
    (content.find? "im.nheko.relations.v1.relations")
  · rw [hl]
    exact ⟨m, rfl, hmordinary, hmrelates, hmnew, hmlist⟩
  · rw [hl]
    refine ⟨_, Json.set_eq_ok (Or.inr hmobj) _ _, fun k hk ↦ ?_, ?_, fun x hx ↦ ?_, ?_⟩
    · rw [hput hmobj (by decide) k hk, hmordinary k hk]
    · rw [Json.find?_put (Or.inr hmobj), if_neg (by simp), hmrelates]
    · rw [Json.find?_put (Or.inr hmobj), if_neg (by simp)] at hx
      exact hmnew x hx
    · rw [Json.find?_put (Or.inr hmobj), if_pos rfl]
      rfl

/-- What is written to an event, and what is read from there. -/
structure Rewritten (base j r : Json) : Prop where
  isObject : base.isObject = true → j.isObject = true
  /-- An edit marks the texts of the outer content. -/
  outer : ∀ k, isRelationKey k = false → k ≠ "body" → k ≠ "formatted_body" →
    j.find? k = base.find? k
  effective : effectiveContent j = .ok r
  isObject_effective : base.isObject = true → r.isObject = true
  inner : ∀ k, isRelationKey k = false → r.find? k = base.find? k
  relations : ReadableRelations r

theorem Added.rewritten (h : Added base j) (hnone : j.find? "m.new_content" = none) :
    Rewritten base j j where
  isObject := h.isObject
  outer k hk _ _ := h.ordinary k hk
  effective := by rw [effectiveContent, if_neg (by simp [Json.contains, hnone])]
  isObject_effective := h.isObject
  inner := h.ordinary
  relations := h.readable

/-- An edit without members to copy or with the members copied to `m.new_content`. -/
structure Copied (base j j' : Json) : Prop where
  isObject : j'.isObject = true
  outer : ∀ k, isRelationKey k = false → k ≠ "body" → k ≠ "formatted_body" →
    j'.find? k = base.find? k
  relates_to : j'.find? "m.relates_to" = j.find? "m.relates_to"
  list : j'.find? "im.nheko.relations.v1.relations" = j.find? "im.nheko.relations.v1.relations"
  shape : (j'.find? "m.new_content").getD .null = .null ∨
    ((j'.find? "m.new_content").getD .null).isObject = true
  inner : ∀ k, isRelationKey k = false →
    ((j'.find? "m.new_content").getD .null).find? k = base.find? k
  second : ∀ k, isRelationKey k = true → ((j'.find? "m.new_content").getD .null).find? k =
    ((j.find? "m.new_content").getD .null).find? k
  /-- Nothing is copied when there is nothing to copy. -/
  nothing : j'.find? "m.new_content" = none → ∀ k, isRelationKey k = false → j'.find? k = none

theorem isRelationKey_ne {k k' : Str} (hk : isRelationKey k = false)
    (hk' : isRelationKey k' = true) : k ≠ k' := by
  rintro rfl
  rw [hk] at hk'
  cases hk'

/-- The members that `add_relations` left below `m.new_content`. -/
theorem Added.find?_new_content (h : Added base j) :
    ((j.find? "m.new_content").getD .null = .null ∨
        ((j.find? "m.new_content").getD .null).isObject = true) ∧
      ∀ k : Str, k ≠ "m.relates_to" →
        ((j.find? "m.new_content").getD .null).find? k = none := by
  obtain hn | ⟨n, hn⟩ := Option.eq_none_or_eq_some (j.find? "m.new_content")
  · rw [hn]
    exact ⟨Or.inl rfl, fun _ _ ↦ rfl⟩
  · obtain ⟨r, rfl, -⟩ := h.new_content n hn
    rw [hn]
    refine ⟨Or.inr rfl, fun k hk ↦ ?_⟩
    rw [Option.getD_some, Json.find?, AssocList.find?_cons, if_neg (Ne.symm hk)]
    rfl

/-- The members are copied, and the texts of the outer content marked. -/
theorem Added.copied (hplain : Plain base) (h : Added base j) (hobj : j.isObject = true) :
    ∃ j', (do
        let content ← j.items.foldlM copyToNewContent j
        let content ← addStar content "body"
        addStar content "formatted_body") = .ok j' ∧ Copied base j j' := by
  obtain ⟨ms, rfl⟩ : ∃ ms, j = .object ms := by
    rcases j with - | b | i | u | f | s | xs | ms
    case object => exact ⟨ms, rfl⟩
    all_goals simp [Json.isObject] at hobj
  obtain ⟨hshape, hempty⟩ := h.find?_new_content
  obtain ⟨j₂, h₂, hobj₂, hother₂, hshape₂, hfind₂⟩ :=
    foldlM_copyToNewContent _ hobj hshape
  have hfind₂ := hfind₂ h.sorted
  have hordinary₂ : ∀ k, isRelationKey k = false → j₂.find? k = base.find? k := fun k hk ↦ by
    rw [hother₂ k (isRelationKey_ne hk (by decide)), h.ordinary k hk]
  have hinner₂ : ∀ k, isRelationKey k = false →
      ((j₂.find? "m.new_content").getD .null).find? k = base.find? k := fun k hk ↦ by
    rw [hfind₂, if_neg (by simp [hk]), hempty k (isRelationKey_ne hk (by decide)), Option.or_none,
      ← h.ordinary k hk]
    rfl
  obtain ⟨j₃, h₃, hobj₃, hother₃, hsame₃⟩ := addStar_spec hobj₂ (show StringOrAbsent j₂ "body" by
    rw [StringOrAbsent, hordinary₂ _ (by decide)]
    exact hplain.body)
  obtain ⟨j₄, h₄, hobj₄, hother₄, hsame₄⟩ := addStar_spec hobj₃ (show
      StringOrAbsent j₃ "formatted_body" by
    rw [StringOrAbsent, hother₃ _ (by simp), hordinary₂ _ (by decide)]
    exact hplain.formatted_body)
  have hrelation : ∀ k, isRelationKey k = true → j₄.find? k = j₂.find? k := fun k hk ↦ by
    rw [hother₄ k (isRelationKey_ne (by decide) hk).symm,
      hother₃ k (isRelationKey_ne (by decide) hk).symm]
  refine ⟨j₄, ?_, ⟨hobj₄, fun k hk hb hf ↦ ?_, ?_, ?_, ?_, fun k hk ↦ ?_, fun k hk ↦ ?_, ?_⟩⟩
  · rw [Json.items, h₂, ok_bind, h₃, ok_bind, h₄]
  · rw [hother₄ k hf, hother₃ k hb, hordinary₂ k hk]
  · rw [hrelation _ (by decide), hother₂ _ (by simp)]
  · rw [hrelation _ (by decide), hother₂ _ (by simp)]
  · rw [hrelation _ (by decide)]
    exact hshape₂
  · rw [hrelation _ (by decide), hinner₂ k hk]
  · rw [hrelation _ (by decide), hfind₂, if_pos hk]
  · rw [hrelation _ (by decide)]
    intro hnone k hk
    have hno : ∀ k, isRelationKey k = false → base.find? k = none := fun k hk ↦ by
      rw [← hinner₂ k hk, hnone]
      rfl
    have hj₃ : j₃ = j₂ := hsame₃ (by rw [hordinary₂ _ (by decide), hno _ (by decide)])
    have hj₄ : j₄ = j₃ := hsame₄ (by rw [hj₃, hordinary₂ _ (by decide), hno _ (by decide)])
    rw [hj₄, hj₃, hordinary₂ k hk, hno k hk]

/-- An edit is read from the members that were copied. -/
theorem Copied.rewritten {j' relates_to : Json} (h : Copied base j j') (hadded : Added base j)
    (hrelates : j.find? "m.relates_to" = some relates_to) : ∃ r, Rewritten base j' r := by
  have hwritten := hadded.relates_to relates_to hrelates
  obtain hnone | ⟨n, hn⟩ := Option.eq_none_or_eq_some (j'.find? "m.new_content")
  · refine ⟨j', fun _ ↦ h.isObject, h.outer, ?_, fun _ ↦ h.isObject, fun k hk ↦ ?_, ?_⟩
    · rw [effectiveContent, if_neg (by simp [Json.contains, hnone])]
    · rw [h.nothing hnone k hk, ← h.inner k hk, hnone]
      rfl
    · refine readableRelations_of_written (fun r hr ↦ ?_) (fun n hn ↦ ?_) (fun l hl ↦ ?_)
      · exact hadded.relates_to r (h.relates_to ▸ hr)
      · rw [hnone] at hn
        cases hn
      · exact hadded.list l (h.list ▸ hl)
  · have hshape := h.shape
    have hinner := h.inner
    have hsecond := h.second
    rw [hn, Option.getD_some] at hshape hinner hsecond
    obtain ⟨-, hempty⟩ := hadded.find?_new_content
    obtain ⟨r, hr, hordinary, hrelates', hnew', hlist'⟩ := mergeNewContent_written hn hshape
      (h.relates_to.trans hrelates) (by rw [hsecond _ (by decide), hempty _ (by simp)])
    refine ⟨r, fun _ ↦ h.isObject, h.outer, ?_, fun _ ↦ Json.isObject_of_find? hrelates',
      fun k hk ↦ ?_, ?_⟩
    · rw [effectiveContent, if_pos (by simp [Json.contains, hn]), hr]
    · rw [hordinary k hk, hinner k hk]
    · refine readableRelations_of_written (fun r' hr' ↦ ?_) (fun x hx second hs ↦ ?_)
        (fun l hl ↦ ?_)
      · rw [hrelates'] at hr'
        exact Option.some.inj hr' ▸ hwritten
      · obtain ⟨second', hs', rfl⟩ := hnew' x hx
        rw [Json.find?, AssocList.find?_cons, if_pos rfl] at hs
        rw [hsecond _ (by decide)] at hs'
        obtain ⟨n₁, hn₁, hs₁⟩ : ∃ n₁, j.find? "m.new_content" = some n₁ ∧
            n₁.find? "m.relates_to" = some second' := by
          obtain hn₁ | ⟨n₁, hn₁⟩ := Option.eq_none_or_eq_some (j.find? "m.new_content")
          · rw [hn₁] at hs'
            cases hs'
          · rw [hn₁] at hs'
            exact ⟨n₁, hn₁, hs'⟩
        obtain ⟨r₁, rfl, hwritten₁⟩ := hadded.new_content n₁ hn₁
        rw [Json.find?, AssocList.find?_cons, if_pos rfl] at hs₁
        rw [← Option.some.inj hs, ← Option.some.inj hs₁]
        exact hwritten₁
      · rw [hlist', h.list, hsecond _ (by decide), hempty _ (by simp), Option.or_none] at hl
        exact hadded.list l hl

/-- **What `apply_relations` writes can be read again.**  The object that the content is read from
has the members of the content, and its relation data can be read. -/
theorem applyRelations_spec (h : Plain base) (rels : Relations) :
    ∃ j r, applyRelations base rels = .ok j ∧ Rewritten base j r := by
  obtain ⟨j₁, h₁, hadded, hnone, hrelates⟩ := addRelations_spec h rels
  rw [applyRelations, h₁, ok_bind]
  by_cases hedit : rels.replaces true = none
  · rw [hedit]
    exact ⟨j₁, j₁, rfl, hadded.rewritten (hnone hedit)⟩
  · obtain ⟨relates_to, hrel⟩ := hrelates hedit
    obtain ⟨j₂, h₂, hcopied⟩ := hadded.copied h (Json.isObject_of_find? hrel)
    obtain ⟨r, hr⟩ := hcopied.rewritten hadded hrel
    rw [if_neg (by rwa [Option.isNone_iff_eq_none])]
    exact ⟨j₂, r, h₂, hr⟩

end Mtx.Events
