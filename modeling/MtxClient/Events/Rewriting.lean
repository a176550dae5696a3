import MtxClient.Events.SlotRelations

/-!
# Relations written over others

`add_relations` and `apply_relations` on a content that has relation data already, as that of a
message with an unknown `msgtype` has: it is written on top of what it was read from.

`applyRelations_or` says for which contents this fails, and otherwise what it leaves: `AddedOver`
for relations without an edit, `EditedOver` for those with one.
-/

set_option autoImplicit false

namespace Mtx.Events

open Str

/-! ## What `add_relations` leaves -/

variable {c c' : Json}

/-- Only the relation of the event is assigned. -/
structure Reassigned (c c' : Json) : Prop where
  isObject : c'.isObject = true
  find? : ∀ k : Str, k ≠ "m.relates_to" → c'.find? k = c.find? k

theorem reassigned_put (hc : c.isObject = true) (v : Json) :
    Reassigned c (c.put "m.relates_to" v) where
  isObject := Json.isObject_put (Or.inr hc) _ _
  find? k hk := by rw [Json.find?_put (Or.inr hc), if_neg hk]

theorem Reassigned.trans {c'' : Json} (h : Reassigned c c') (h' : Reassigned c' c'') :
    Reassigned c c'' where
  isObject := h'.isObject
  find? k hk := (h'.find? k hk).trans (h.find? k hk)

/-- A reply on its own is written into what stands there. -/
theorem addReply_eq_ok_iff (hc : c.isObject = true) (r : Relation) :
    addReply c (some r) none = .ok c' ↔
      ((c.member "m.relates_to").Assignable ∧
        ((c.member "m.relates_to").member "m.in_reply_to").Assignable) ∧
      c' = c.put "m.relates_to" (replied (c.member "m.relates_to") r.event_id) := by
  have hpath : addReply c (some r) none = c.setPath
      ["m.relates_to", "m.in_reply_to", "event_id"] (.string r.event_id) := by
    rw [addReply]
    simp
  rw [hpath, Json.setPath_cons_eq_ok_iff, and_iff_right (Or.inr hc)]
  constructor
  · rintro ⟨_, hinner, rfl⟩
    obtain ⟨hrelates, _, hlast, rfl⟩ := Json.setPath_cons_eq_ok_iff.mp hinner
    obtain ⟨hreply, _, hnil, rfl⟩ := Json.setPath_cons_eq_ok_iff.mp hlast
    cases hnil
    exact ⟨⟨hrelates, hreply⟩, rfl⟩
  · rintro ⟨⟨hrelates, hreply⟩, rfl⟩
    exact ⟨_, Json.setPath_cons_eq_ok_iff.mpr ⟨hrelates, _,
      Json.setPath_cons_eq_ok_iff.mpr ⟨hreply, _, rfl, rfl⟩, rfl⟩, rfl⟩

/-- A reply beside a relation is written into that. -/
theorem addReply_of_not_edit (hc : c.isObject = true) {a : Relation}
    (hrelates : c.find? "m.relates_to" = some a.toJson) (reply : Option Relation) :
    ∃ c' v, addReply c reply (some a) = .ok c' ∧ Reassigned c c' ∧
      c'.find? "m.relates_to" = some v ∧ WrittenRelatesTo v ∧
      v.find? "rel_type" = some (.string a.rel_type.toStr) := by
  have htype : a.toJson.find? "rel_type" = some (.string a.rel_type.toStr) := by
    simp [Relation.toJson]
  rcases reply with - | r
  · exact ⟨c, _, rfl, ⟨hc, fun _ _ ↦ rfl⟩, hrelates, writtenRelatesTo_toJson a, htype⟩
  · have hobj := isObject_relation_toJson a
    let id := Json.object [(lit "event_id", .string r.event_id)]
    let v := a.toJson.put "m.in_reply_to" id
    have hv : v.isObject = true := Json.isObject_put (Or.inr hobj) _ _
    have hwritten : WrittenRelatesTo v :=
      (writtenRelatesTo_toJson a).put (Or.inr hobj) (Or.inl ⟨rfl, r.event_id, rfl⟩)
    have hvtype : v.find? "rel_type" = some (.string a.rel_type.toStr) := by
      rw [Json.find?_put (Or.inr hobj), if_neg (by simp), htype]
    have hset : c.setPath ["m.relates_to", "m.in_reply_to", "event_id"] (.string r.event_id) =
        .ok (c.put "m.relates_to" v) :=
      setPath_cons (Or.inr hc) (by
        rw [hrelates]
        exact setPath_cons (Or.inr hobj) (by rw [find?_toJson_in_reply_to]; rfl))
    have hfirst := reassigned_put hc v
    have hfound : (c.put "m.relates_to" v).find? "m.relates_to" = some v := by
      rw [Json.find?_put (Or.inr hc), if_pos rfl]
    rw [addReply, hset, ok_bind]
    split_ifs with hfallback
    · refine ⟨_, v.put "is_falling_back" (.boolean true),
        setPath_cons (Or.inr hfirst.isObject) (by
          rw [hfound]
          exact setPath_cons (Or.inr hv) rfl),
        hfirst.trans (reassigned_put hfirst.isObject _), ?_,
        hwritten.put (Or.inr hv) (Or.inr ⟨rfl, true, rfl⟩), ?_⟩
      · rw [Json.find?_put (Or.inr hfirst.isObject), if_pos rfl]
      · rw [Json.find?_put (Or.inr hv), if_neg (by simp), hvtype]
    · exact ⟨_, v, rfl, hfirst, hfound, hwritten, hvtype⟩

variable {base : Json}

/-- The reply can be written. -/
def ReplyFits (content : Json) (s : Slots) : Prop :=
  s.reply ≠ none → s.not_edit = none → (content.member "m.relates_to").Assignable ∧
    ((content.member "m.relates_to").member "m.in_reply_to").Assignable

/-- The relation that is no edit and the reply are written. -/
structure Related (base c : Json) (s : Slots) : Prop extends Reassigned base c where
  kept : s.not_edit = none → s.reply = none → c = base
  replied : ∀ r, s.not_edit = none → s.reply = some r →
    c.find? "m.relates_to" = some (Events.replied (base.member "m.relates_to") r.event_id)
  written : ∀ a, s.not_edit = some a → ∃ v, c.find? "m.relates_to" = some v ∧
    WrittenRelatesTo v ∧ v.find? "rel_type" = some (.string a.rel_type.toStr)

/-- The first two steps of `add_relations`. -/
theorem related_or (hbase : base.isObject = true) (s : Slots) :
    (ReplyFits base s ∧ ∃ c, (do
      let c ← addNotEdit base s.not_edit
      addReply c s.reply s.not_edit) = .ok c ∧ Related base c s) ∨
    (¬ ReplyFits base s ∧ ¬ Succeeds (do
      let c ← addNotEdit base s.not_edit
      addReply c s.reply s.not_edit)) := by
  obtain ⟨edit, not_edit, reply⟩ := s
  rcases not_edit with - | a
  · have hnone : addNotEdit base none = .ok base := rfl
    simp only [hnone, ok_bind]
    rcases reply with - | r
    · refine Or.inl ⟨fun h ↦ absurd rfl h, base, rfl, ⟨hbase, fun _ _ ↦ rfl⟩, fun _ _ ↦ rfl,
        fun r _ h ↦ ?_, fun a h ↦ ?_⟩
      · cases h
      · cases h
    · by_cases hfits : ReplyFits base ⟨edit, none, some r⟩
      · refine Or.inl ⟨hfits, _, (addReply_eq_ok_iff hbase r).mpr ⟨hfits (by simp) rfl, rfl⟩,
          reassigned_put hbase _, fun _ h ↦ ?_, fun r' _ h ↦ ?_, fun a h ↦ ?_⟩
        · cases h
        · cases h
          rw [Json.find?_put (Or.inr hbase), if_pos rfl]
        · cases h
      · refine Or.inr ⟨hfits, ?_⟩
        rintro ⟨c, hc⟩
        exact hfits fun _ _ ↦ ((addReply_eq_ok_iff hbase r).mp hc).1
  · have hset : addNotEdit base (some a) = .ok (base.put "m.relates_to" a.toJson) :=
      Json.set_eq_ok (Or.inr hbase) _ _
    have hfirst := reassigned_put hbase a.toJson
    obtain ⟨c, v, hc, hreassigned, hv, hwritten, htype⟩ := addReply_of_not_edit hfirst.isObject
      (a := a) (by rw [Json.find?_put (Or.inr hbase), if_pos rfl]) reply
    simp only [hset, ok_bind]
    refine Or.inl ⟨fun _ h ↦ ?_, c, hc, hfirst.trans hreassigned, fun h ↦ ?_, fun r h ↦ ?_,
      fun a' h ↦ ?_⟩
    · cases h
    · cases h
    · cases h
    · cases h
      exact ⟨v, hv, hwritten, htype⟩

/-- What stands in the way of the edited content can be assigned. -/
def InnerFits (content : Json) (s : Slots) : Prop :=
  s.edit ≠ none → s.not_edit ≠ none → (content.member "m.new_content").Assignable

/-- The relations that are told apart are written over those of the content. -/
structure RelatedOver (base c : Json) (s : Slots) : Prop where
  isObject : c.isObject = true
  ordinary : ∀ k, isRelationKey k = false → c.find? k = base.find? k
  relates_to : s.edit = none → ∃ d, Related base d s ∧
    c.find? "m.relates_to" = d.find? "m.relates_to"
  new_content : s.edit = none ∨ s.not_edit = none →
    c.find? "m.new_content" = base.find? "m.new_content"
  edit : ∀ e, s.edit = some e → c.find? "m.relates_to" = some e.toJson
  inner : s.edit ≠ none → s.not_edit ≠ none → ∃ v,
    c.find? "m.new_content" = some ((base.member "m.new_content").put "m.relates_to" v) ∧
      WrittenRelatesTo v

/-- The list has no part in it. -/
theorem RelatedOver.congr {s : Slots} (h : RelatedOver base c s) (hobj : c'.isObject = true)
    (hother : ∀ k : Str, k ≠ "im.nheko.relations.v1.relations" → c'.find? k = c.find? k) :
    RelatedOver base c' s where
  isObject := hobj
  ordinary k hk := by rw [hother k (isRelationKey_ne hk (by decide)), h.ordinary k hk]
  relates_to hedit := by
    obtain ⟨d, hd, hrelates⟩ := h.relates_to hedit
    exact ⟨d, hd, by rw [hother _ (by simp), hrelates]⟩
  new_content hkept := by rw [hother _ (by simp), h.new_content hkept]
  edit e hedit := by rw [hother _ (by simp), h.edit e hedit]
  inner hedit hnot := by
    obtain ⟨v, hv, hwritten⟩ := h.inner hedit hnot
    exact ⟨v, by rw [hother _ (by simp), hv], hwritten⟩

/-- The third step of `add_relations`. -/
theorem addEdit_or {s : Slots} {d : Json} (h : Related base d s) :
    (InnerFits base s ∧ ∃ c, addEdit d s.edit s.not_edit = .ok c ∧ RelatedOver base c s ∧
      c.find? "im.nheko.relations.v1.relations" = base.find? "im.nheko.relations.v1.relations") ∨
      (¬ InnerFits base s ∧ ¬ Succeeds (addEdit d s.edit s.not_edit)) := by
  have hd : d.Assignable := Or.inr h.isObject
  have hordinary : ∀ k, isRelationKey k = false → d.find? k = base.find? k := fun k hk ↦
    h.find? k (isRelationKey_ne hk (by decide))
  have hlist : d.find? "im.nheko.relations.v1.relations" =
      base.find? "im.nheko.relations.v1.relations" := h.find? _ (by simp)
  have hnew : d.find? "m.new_content" = base.find? "m.new_content" := h.find? _ (by simp)
  have hmember : d.member "m.new_content" = base.member "m.new_content" := by
    rw [Json.member, hnew, Json.member]
  obtain ⟨edit, not_edit, reply⟩ := s
  rcases edit with - | e
  · refine Or.inl ⟨fun h ↦ absurd rfl h, d, rfl, ⟨h.isObject, hordinary, fun _ ↦ ⟨d, h, rfl⟩,
      fun _ ↦ hnew, fun e h ↦ ?_, fun h ↦ absurd rfl h⟩, hlist⟩
    cases h
  · rcases not_edit with - | a
    · have hput := reassigned_put h.isObject e.toJson
      refine Or.inl ⟨fun _ h ↦ absurd rfl h, d.put "m.relates_to" e.toJson,
        Json.set_eq_ok hd _ _, ⟨hput.isObject, fun k hk ↦ ?_, fun h ↦ ?_,
        fun _ ↦ ?_, fun e' h ↦ ?_, fun _ h ↦ absurd rfl h⟩, (hput.find? _ (by simp)).trans hlist⟩
      · rw [hput.find? k (isRelationKey_ne hk (by decide)), hordinary k hk]
      · cases h
      · rw [hput.find? _ (by simp), hnew]
      · cases h
        rw [Json.find?_put hd, if_pos rfl]
    · obtain ⟨v, hv, hwritten, -⟩ := h.written a rfl
      have hedit : addEdit d (some e) (some a) = (do
          let content ← d.setPath ["m.new_content", "m.relates_to"] v
          content.set "m.relates_to" e.toJson) := by
        rw [addEdit, hv]
        rfl
      rw [hedit]
      by_cases hinner : (base.member "m.new_content").Assignable
      · let n := (base.member "m.new_content").put "m.relates_to" v
        have hpath : d.setPath ["m.new_content", "m.relates_to"] v =
            .ok (d.put "m.new_content" n) :=
          Json.setPath_cons_eq_ok_iff.mpr ⟨hd, n, by
            rw [hmember]
            exact Json.setPath_cons_eq_ok_iff.mpr ⟨hinner, v, rfl, rfl⟩, rfl⟩
        have hobj : (d.put "m.new_content" n).isObject = true := Json.isObject_put hd _ _
        have hfind : ∀ k : Str, k ≠ "m.new_content" →
            (d.put "m.new_content" n).find? k = d.find? k :=
          fun k hk ↦ by rw [Json.find?_put hd, if_neg hk]
        have hput := reassigned_put hobj e.toJson
        rw [hpath, ok_bind]
        refine Or.inl ⟨fun _ _ ↦ hinner, _, Json.set_eq_ok (Or.inr hobj) _ _, ⟨hput.isObject,
          fun k hk ↦ ?_, fun h ↦ ?_, fun h ↦ ?_, fun e' h ↦ ?_, fun _ _ ↦ ⟨v, ?_, hwritten⟩⟩,
          by rw [hput.find? _ (by simp), hfind _ (by simp), hlist]⟩
        · rw [hput.find? k (isRelationKey_ne hk (by decide)),
            hfind k (isRelationKey_ne hk (by decide)), hordinary k hk]
        · cases h
        · rcases h with h | h <;> cases h
        · cases h
          rw [Json.find?_put (Or.inr hobj), if_pos rfl]
        · rw [hput.find? _ (by simp), Json.find?_put hd, if_pos rfl]
      · refine Or.inr ⟨fun h ↦ hinner (h (by simp) (by simp)), ?_⟩
        rintro ⟨c, hc⟩
        obtain ⟨_, hpath, -⟩ := bind_eq_ok_iff.mp hc
        obtain ⟨-, _, hlast, -⟩ := Json.setPath_cons_eq_ok_iff.mp hpath
        rw [hmember] at hlast
        exact hinner (Json.setPath_cons_eq_ok_iff.mp hlast).1

/-- The steps of `add_relations` before the list is written. -/
def addSlots (content : Json) (s : Slots) : Except Exn Json := do
  let content ← addNotEdit content s.not_edit
  let content ← addReply content s.reply s.not_edit
  addEdit content s.edit s.not_edit

/-- The last step of `add_relations`. -/
def addList (content : Json) (rels : Relations) : Except Exn Json :=
  if rels.synthesized then .ok content
  else (rels.relations.filter (·.rel_type != .unsupported)).foldlM
    (fun content r ↦ pushBack content "im.nheko.relations.v1.relations" r.toJson) content

theorem addRelations_eq (rels : Relations) :
    addRelations base rels = addSlots base rels.slots >>= fun c ↦ addList c rels := by
  rw [addRelations]
  by_cases hempty : rels.relations.isEmpty = true
  · have hnil := List.isEmpty_iff.mp hempty
    have hslots : addSlots base rels.slots = .ok base := by
      rw [Relations.slots, hnil]
      rfl
    rw [if_pos hempty, hslots, ok_bind, addList, hnil]
    split_ifs <;> rfl
  · simp only [if_neg hempty, addSlots, bind_assoc]
    rfl

/-- **Relations are written over others** unless what is in the way is no object. -/
theorem addSlots_or (hbase : base.isObject = true) (s : Slots) :
    ((ReplyFits base s ∧ InnerFits base s) ∧ ∃ c, addSlots base s = .ok c ∧
      RelatedOver base c s ∧
      c.find? "im.nheko.relations.v1.relations" = base.find? "im.nheko.relations.v1.relations") ∨
    (¬(ReplyFits base s ∧ InnerFits base s) ∧ ¬ Succeeds (addSlots base s)) := by
  have hsteps : addSlots base s = (do
        let c ← addNotEdit base s.not_edit
        addReply c s.reply s.not_edit) >>= fun d ↦ addEdit d s.edit s.not_edit := by
    rw [addSlots, bind_assoc]
  rw [hsteps]
  rcases related_or hbase s with ⟨hfits, d, hd, hrelated⟩ | ⟨hfits, hfails⟩
  · rw [hd, ok_bind]
    rcases addEdit_or hrelated with ⟨hinner, hadded⟩ | ⟨hinner, hfails⟩
    · exact Or.inl ⟨⟨hfits, hinner⟩, hadded⟩
    · exact Or.inr ⟨fun h ↦ hinner h.2, hfails⟩
  · refine Or.inr ⟨fun h ↦ hfits h.1, ?_⟩
    rintro ⟨c', hc'⟩
    obtain ⟨d, hd, -⟩ := bind_eq_ok_iff.mp hc'
    exact hfails ⟨d, hd⟩

/-! ## The list -/

/-- The relations can be appended to the list. -/
def ListFits (content : Json) (rels : Relations) : Prop :=
  rels.synthesized = false → (∃ r ∈ rels.relations, r.rel_type ≠ .unsupported) →
    content.member "im.nheko.relations.v1.relations" = .null ∨
      ∃ xs, content.member "im.nheko.relations.v1.relations" = .array xs

theorem foldlM_pushBack_or {key : Str} (hc : c.isObject = true) (r : Relation)
    (rs : List Relation) :
    ((c.member key = .null ∨ ∃ xs, c.member key = .array xs) ∧
      ∃ c', (r :: rs).foldlM (fun content r ↦ pushBack content key r.toJson) c = .ok c' ∧
        c'.isObject = true ∧ ∀ k, k ≠ key → c'.find? k = c.find? k) ∨
    (¬(c.member key = .null ∨ ∃ xs, c.member key = .array xs) ∧
      ¬ Succeeds ((r :: rs).foldlM (fun content r ↦ pushBack content key r.toJson) c)) := by
  -- the first relation makes an array, to which the others are appended
  have hfirst : ∀ xs, pushBack c key r.toJson = .ok (c.put key (.array xs)) → ∃ c',
      (r :: rs).foldlM (fun content r ↦ pushBack content key r.toJson) c = .ok c' ∧
        c'.isObject = true ∧ ∀ k, k ≠ key → c'.find? k = c.find? k := fun xs hpush ↦ by
    obtain ⟨c', hc', hobj, hother, -⟩ := foldlM_pushBack_of_array
      (Json.isObject_put (Or.inr hc) key (.array xs))
      (by rw [Json.find?_put (Or.inr hc), if_pos rfl]) rs
    refine ⟨c', by rw [List.foldlM_cons, hpush, ok_bind, hc'], hobj, fun k hk ↦ ?_⟩
    rw [hother k hk, Json.find?_put (Or.inr hc), if_neg hk]
  rcases hv : c.find? key with - | v
  · refine Or.inl ⟨Or.inl (Json.member_of_find?_none hv), hfirst [r.toJson] ?_⟩
    rw [pushBack, hv]
    exact Json.set_eq_ok (Or.inr hc) _ _
  · rw [Json.member_of_find? hv]
    rcases v with - | b | i | u | f | s | xs | ms
    case null =>
      refine Or.inl ⟨Or.inl rfl, hfirst [r.toJson] ?_⟩
      rw [pushBack, hv]
      exact Json.set_eq_ok (Or.inr hc) _ _
    case array =>
      refine Or.inl ⟨Or.inr ⟨xs, rfl⟩, hfirst (xs ++ [r.toJson]) ?_⟩
      rw [pushBack, hv]
      exact Json.set_eq_ok (Or.inr hc) _ _
    all_goals
      refine Or.inr ⟨by simp, ?_⟩
      rintro ⟨c', h⟩
      rw [List.foldlM_cons, pushBack, hv] at h
      cases h

/-- The list is written unless something else is in its place. -/
theorem addList_or (hc : c.isObject = true) (rels : Relations) :
    (ListFits c rels ∧ ∃ c', addList c rels = .ok c' ∧ c'.isObject = true ∧
      ∀ k : Str, k ≠ "im.nheko.relations.v1.relations" → c'.find? k = c.find? k) ∨
    (¬ ListFits c rels ∧ ¬ Succeeds (addList c rels)) := by
  rw [addList]
  split_ifs with hsynthesized
  · refine Or.inl ⟨fun h ↦ ?_, c, rfl, hc, fun _ _ ↦ rfl⟩
    rw [hsynthesized] at h
    cases h
  · have hfilter : (∃ r ∈ rels.relations, r.rel_type ≠ .unsupported) ↔
        rels.relations.filter (·.rel_type != .unsupported) ≠ [] := by
      simp [List.filter_eq_nil_iff]
    rw [Bool.not_eq_true] at hsynthesized
    rw [ListFits, hfilter]
    rcases hs : rels.relations.filter (·.rel_type != .unsupported) with - | ⟨r, rs⟩
    · rw [hs]
      exact Or.inl ⟨fun _ h ↦ absurd rfl h, c, rfl, hc, fun _ _ ↦ rfl⟩
    · rw [hs, forall_prop_of_true hsynthesized, forall_prop_of_true (List.cons_ne_nil r rs)]
      exact foldlM_pushBack_or hc r rs

/-! ## Relations over those that they were read from -/

/-- The relations are written over those of the content that they were read from. -/
structure AddedOver (base c : Json) (s : Slots) : Prop extends RelatedOver base c s where
  list_none : base.find? "im.nheko.relations.v1.relations" = none →
    c.find? "im.nheko.relations.v1.relations" = none
  list : base.find? "im.nheko.relations.v1.relations" ≠ none → ∃ xs,
    c.find? "im.nheko.relations.v1.relations" = some (.array xs) ∧ ∀ x ∈ xs, ReadableRelation x

/-- The list of the content can be read. -/
def WellFormedList (content : Json) : Prop :=
  ∀ l, content.find? "im.nheko.relations.v1.relations" = some l →
    ∃ xs, l = .array xs ∧ ∀ x ∈ xs, ReadableRelation x

/-- Appending to the list leaves the rest as it was. -/
theorem RelatedOver.addList {rels : Relations} (h : RelatedOver base c rels.slots)
    (hlist : c.find? "im.nheko.relations.v1.relations" =
      base.find? "im.nheko.relations.v1.relations")
    (hrels : parseRelations base = .ok rels) :
    ∃ c', Events.addList c rels = .ok c' ∧ AddedOver base c' rels.slots := by
  have hwell : ∀ l, base.find? "im.nheko.relations.v1.relations" = some l →
      ∃ xs, l = .array xs ∧ ∀ x ∈ xs, ReadableRelation x := fun l hl ↦ by
    have hwell := (succeeds_parseRelations_iff base).mp ⟨rels, hrels⟩
    rw [ReadableRelations, hl] at hwell
    exact hwell
  rcases hl : base.find? "im.nheko.relations.v1.relations" with - | l
  · -- without a list the relations come from `m.relates_to`
    have hkept : Events.addList c rels = .ok c := by
      rw [Events.addList]
      split_ifs with hsynthesized
      · rfl
      · rcases hrelates : base.find? "m.relates_to" with - | relates_to
        · rw [parseRelations, hl, hrelates] at hrels
          rw [← Except.ok.inj hrels]
          rfl
        · exact absurd (synthesized_of_parseRelations hl hrelates hrels).1 hsynthesized
    exact ⟨c, hkept, h, fun _ ↦ hlist.trans hl, fun hne ↦ absurd hl hne⟩
  · obtain ⟨xs, rfl, hxs⟩ := hwell l hl
    rw [Events.addList]
    split_ifs with hsynthesized
    · exact ⟨c, rfl, h, fun hnone ↦ hlist.trans hnone, fun _ ↦ ⟨xs, hlist.trans hl, hxs⟩⟩
    · obtain ⟨c', hc', hobj, hother, hfind⟩ :=
        foldlM_pushBack_of_array h.isObject (hlist.trans hl)
          (rels.relations.filter (·.rel_type != .unsupported))
      refine ⟨c', hc', h.congr hobj hother, fun hnone ↦ ?_, fun _ ↦ ⟨_, hfind, fun x hx ↦ ?_⟩⟩
      · rw [hl] at hnone
        cases hnone
      · rcases List.mem_append.mp hx with hx | hx
        · exact hxs x hx
        · obtain ⟨r, -, rfl⟩ := List.mem_map.mp hx
          exact readableRelation_toJson r

/-- **Relations are written over those that they were read from** unless what is in the way is no
object. -/
theorem addRelations_or (hbase : base.isObject = true) {rels : Relations}
    (hrels : parseRelations base = .ok rels) :
    ((ReplyFits base rels.slots ∧ InnerFits base rels.slots) ∧
      ∃ c, addRelations base rels = .ok c ∧ AddedOver base c rels.slots) ∨
    (¬(ReplyFits base rels.slots ∧ InnerFits base rels.slots) ∧
      ¬ Succeeds (addRelations base rels)) := by
  rw [addRelations_eq]
  rcases addSlots_or hbase rels.slots with ⟨hfits, c, hc, hrelated, hlist⟩ | ⟨hfits, hfails⟩
  · rw [hc, ok_bind]
    exact Or.inl ⟨hfits, hrelated.addList hlist hrels⟩
  · refine Or.inr ⟨hfits, ?_⟩
    rintro ⟨c', hc'⟩
    obtain ⟨d, hd, -⟩ := bind_eq_ok_iff.mp hc'
    exact hfails ⟨d, hd⟩

/-! ## What `apply_relations` leaves -/

theorem wf_foldlM_pushBack {rs : List Relation} (hrs : ∀ r ∈ rs, r.Utf8) (hc : c.wf = true)
    (h : rs.foldlM (fun content r ↦
      pushBack content "im.nheko.relations.v1.relations" r.toJson) c = .ok c') : c'.wf = true := by
  induction rs generalizing c with
  | nil => rwa [← Except.ok.inj h]
  | cons r rs ih =>
    obtain ⟨hr, hrs⟩ := List.forall_mem_cons.mp hrs
    obtain ⟨d, hd, h⟩ := bind_eq_ok_iff.mp h
    refine ih hrs ?_ h
    dsimp only at hd
    rw [pushBack] at hd
    split at hd
    · exact Json.hereditary_wf.set hc (by decide)
        (Json.wf_array_iff.mpr (List.forall_mem_singleton.mpr hr.wf_toJson)) hd
    · exact Json.hereditary_wf.set hc (by decide)
        (Json.wf_array_iff.mpr (List.forall_mem_singleton.mpr hr.wf_toJson)) hd
    · next xs hxs =>
      refine Json.hereditary_wf.set hc (by decide) (Json.wf_array_iff.mpr fun x hx ↦ ?_) hd
      rcases List.mem_append.mp hx with hx | hx
      · exact Json.wf_array_iff.mp (Json.wf_of_find? hc hxs) x hx
      · rw [List.mem_singleton.mp hx]
        exact hr.wf_toJson
    · cases hd

/-- The relations that are told apart are among those of the event. -/
structure Slots.From (s : Slots) (rs : List Relation) : Prop where
  edit : ∀ r ∈ s.edit, r ∈ rs ∧ r.rel_type = .replace
  not_edit : ∀ r ∈ s.not_edit, r ∈ rs ∧ r.rel_type ≠ .replace
  reply : ∀ r ∈ s.reply, r ∈ rs

theorem slots_from (rels : Relations) : rels.slots.From rels.relations := by
  refine List.foldlRecOn (motive := fun s ↦ Slots.From s rels.relations) rels.relations
    Slots.assign ⟨?_, ?_, ?_⟩ fun s h r hr ↦ ?_
  · exact fun r hr ↦ by cases hr
  · exact fun r hr ↦ by cases hr
  · exact fun r hr ↦ by cases hr
  · rw [Slots.assign]
    split
    · next htype => exact ⟨fun r' hr' ↦ by cases hr'; exact ⟨hr, htype⟩, h.not_edit, h.reply⟩
    · exact ⟨h.edit, h.not_edit, fun r' hr' ↦ by cases hr'; exact hr⟩
    · next htype _ => exact ⟨h.edit, fun r' hr' ↦ by cases hr'; exact ⟨hr, htype⟩, h.reply⟩

theorem wf_addNotEdit {not_edit : Option Relation} (hnot : ∀ r ∈ not_edit, r.Utf8)
    (hc : c.wf = true) (h : addNotEdit c not_edit = .ok c') : c'.wf = true := by
  rcases not_edit with - | a
  · rwa [← Except.ok.inj h]
  · exact Json.hereditary_wf.set hc (by decide) (hnot a rfl).wf_toJson h

theorem wf_addReply {reply not_edit : Option Relation} (hreply : ∀ r ∈ reply, r.Utf8)
    (hc : c.wf = true) (h : addReply c reply not_edit = .ok c') : c'.wf = true := by
  rcases reply with - | r
  · rwa [← Except.ok.inj h]
  · obtain ⟨d, hd, h⟩ := bind_eq_ok_iff.mp h
    have hid : (Json.string r.event_id).wf = true := (hreply r rfl).event_id
    have hwf := Json.hereditary_wf.setPath hc (by decide) hid hd
    split_ifs at h
    · exact Json.hereditary_wf.setPath hwf (by decide) rfl h
    · rwa [← Except.ok.inj h]

theorem wf_addEdit {edit not_edit : Option Relation} (hedit : ∀ r ∈ edit, r.Utf8)
    (hc : c.wf = true) (h : addEdit c edit not_edit = .ok c') : c'.wf = true := by
  rcases edit with - | e
  · rwa [← Except.ok.inj h]
  · rcases not_edit with - | a
    · exact Json.hereditary_wf.set hc (by decide) (hedit e rfl).wf_toJson h
    · obtain ⟨d, hd, h⟩ := bind_eq_ok_iff.mp h
      have hd := Json.hereditary_wf.setPath hc (by decide) (Json.hereditary_wf.getD_find? hc _) hd
      exact Json.hereditary_wf.set hd (by decide) (hedit e rfl).wf_toJson h

theorem wf_addRelations {rels : Relations} (hrels : ∀ r ∈ rels.relations, r.Utf8)
    (hbase : base.wf = true) (h : addRelations base rels = .ok c) : c.wf = true := by
  rw [addRelations] at h
  by_cases hempty : rels.relations.isEmpty = true
  · rw [if_pos hempty] at h
    rwa [← Except.ok.inj h]
  · rw [if_neg hempty] at h
    obtain ⟨c₁, h₁, h⟩ := bind_eq_ok_iff.mp h
    obtain ⟨c₂, h₂, h⟩ := bind_eq_ok_iff.mp h
    obtain ⟨c₃, h₃, h⟩ := bind_eq_ok_iff.mp h
    have hslots := slots_from rels
    have hc₁ : c₁.wf = true := wf_addNotEdit (fun r hr ↦ hrels r (hslots.not_edit r hr).1) hbase h₁
    have hc₂ : c₂.wf = true := wf_addReply (fun r hr ↦ hrels r (hslots.reply r hr)) hc₁ h₂
    have hc₃ : c₃.wf = true := wf_addEdit (fun r hr ↦ hrels r (hslots.edit r hr).1) hc₂ h₃
    split_ifs at h
    · rwa [← Except.ok.inj h]
    · exact wf_foldlM_pushBack (fun r hr ↦ hrels r (List.mem_of_mem_filter hr)) hc₃ h

theorem wf_addStar {key : Str} (hkey : validUtf8 key = true) (hc : c.wf = true)
    (h : addStar c key = .ok c') : c'.wf = true := by
  rw [addStar] at h
  rcases hv : c.find? key with - | v
  · rw [hv] at h
    rwa [← Except.ok.inj h]
  · rw [hv] at h
    obtain ⟨s, hs, h⟩ := bind_eq_ok_iff.mp h
    obtain rfl := Json.getString_eq_ok_iff.mp hs
    have hvalid : validUtf8 s = true := Json.wf_of_find? hc hv
    refine Json.hereditary_wf.set hc hkey ?_ h
    rw [Json.wf_string, validUtf8_append (by decide), hvalid]

theorem wf_foldlM_copyToNewContent {es : List (Str × Json)}
    (hes : ∀ e ∈ es, validUtf8 e.1 = true ∧ e.2.wf = true) (hc : c.wf = true)
    (h : es.foldlM copyToNewContent c = .ok c') : c'.wf = true := by
  induction es generalizing c with
  | nil => rwa [← Except.ok.inj h]
  | cons e es ih =>
    obtain ⟨⟨hkey, hvalue⟩, hes⟩ := List.forall_mem_cons.mp hes
    obtain ⟨d, hd, h⟩ := bind_eq_ok_iff.mp h
    refine ih hes ?_ h
    rw [copyToNewContent] at hd
    split_ifs at hd
    · rwa [← Except.ok.inj hd]
    · refine Json.hereditary_wf.setPath hc (fun k hk ↦ ?_) hvalue hd
      rcases List.mem_cons.mp hk with rfl | hk
      · decide
      · rwa [List.mem_singleton.mp hk]

/-- The edited content can be written. -/
def EditFits (content : Json) (s : Slots) : Prop :=
  s.edit ≠ none →
    (content.member "m.new_content").Assignable ∧ StringOrAbsent content "formatted_body"

/-- The members of the content are copied over those of the edited content. -/
structure EditedOver (base j : Json) (s : Slots) : Prop where
  isObject : j.isObject = true
  ordinary : ∀ k, isRelationKey k = false → k ≠ "body" → k ≠ "formatted_body" →
    j.find? k = base.find? k
  list_none : base.find? "im.nheko.relations.v1.relations" = none →
    j.find? "im.nheko.relations.v1.relations" = none
  list : base.find? "im.nheko.relations.v1.relations" ≠ none → ∃ xs,
    j.find? "im.nheko.relations.v1.relations" = some (.array xs) ∧ ∀ x ∈ xs, ReadableRelation x
  edit : ∃ e : Relation, e.rel_type = .replace ∧ j.find? "m.relates_to" = some e.toJson
  new_content : ∃ n, j.find? "m.new_content" = some n ∧ n.isObject = true ∧
    (∀ k, isRelationKey k = false →
      n.find? k = (base.find? k).or ((base.member "m.new_content").find? k)) ∧
    (∀ k : Str, isRelationKey k = true → k ≠ "m.relates_to" →
      n.find? k = (base.member "m.new_content").find? k) ∧
    (s.not_edit = none →
      n.find? "m.relates_to" = (base.member "m.new_content").find? "m.relates_to") ∧
    (s.not_edit ≠ none → ∃ v, n.find? "m.relates_to" = some v ∧ WrittenRelatesTo v)

/-- There is no way to copy anything into what is no object. -/
theorem not_succeeds_copyToNewContent {es : List (Str × Json)}
    (hnew : ¬ (c.member "m.new_content").Assignable)
    (hes : ∃ e ∈ es, isRelationKey e.1 = false) : ¬ Succeeds (es.foldlM copyToNewContent c) := by
  induction es with
  | nil =>
    obtain ⟨e, he, -⟩ := hes
    cases he
  | cons e es ih =>
    rintro ⟨c', h⟩
    obtain ⟨d, hd, h⟩ := bind_eq_ok_iff.mp h
    rw [copyToNewContent] at hd
    split_ifs at hd with hkey
    · rw [← Except.ok.inj hd] at h
      refine ih ?_ ⟨c', h⟩
      obtain ⟨e', he', hordinary⟩ := hes
      rcases List.mem_cons.mp he' with rfl | he'
      · rw [hkey] at hordinary
        cases hordinary
      · exact ⟨e', he', hordinary⟩
    · obtain ⟨-, _, hlast, -⟩ := Json.setPath_cons_eq_ok_iff.mp hd
      exact hnew (Json.setPath_cons_eq_ok_iff.mp hlast).1

theorem succeeds_addStar_iff (hc : c.isObject = true) {key : Str} :
    Succeeds (addStar c key) ↔ StringOrAbsent c key := by
  constructor
  · rintro ⟨c', hc'⟩ v hv
    rw [addStar, hv] at hc'
    obtain ⟨s, hs, -⟩ := bind_eq_ok_iff.mp hc'
    exact ⟨s, Json.getString_eq_ok_iff.mp hs⟩
  · intro h
    obtain ⟨c', hc', -⟩ := addStar_spec hc h
    exact ⟨c', hc'⟩

/-- The last steps of `apply_relations`. -/
def writeEdit (content : Json) : Except Exn Json := do
  let content ← content.items.foldlM copyToNewContent content
  let content ← addStar content "body"
  addStar content "formatted_body"

theorem applyRelations_eq (rels : Relations) :
    applyRelations base rels = addRelations base rels >>= fun c ↦
      if rels.slots.edit = none then .ok c else writeEdit c := by
  have hreplaces : (rels.replaces true).isNone = true ↔ rels.slots.edit = none := by
    rw [Option.isNone_iff_eq_none]
    exact (edit_eq_none_iff rels).symm
  simp only [applyRelations, hreplaces]
  rfl

/-- What the members are copied to holds the relation of the edited content already. -/
theorem RelatedOver.find?_member {s : Slots} (h : RelatedOver base c s) (hedit : s.edit ≠ none)
    (hassign : (base.member "m.new_content").Assignable) :
    (c.member "m.new_content").Assignable ∧
      (∀ k : Str, k ≠ "m.relates_to" → (c.member "m.new_content").find? k =
        (base.member "m.new_content").find? k) ∧
      (s.not_edit = none → (c.member "m.new_content").find? "m.relates_to" =
        (base.member "m.new_content").find? "m.relates_to") ∧
      (s.not_edit ≠ none → ∃ v, (c.member "m.new_content").find? "m.relates_to" = some v ∧
        WrittenRelatesTo v) := by
  by_cases hnot : s.not_edit = none
  · have hsame : c.member "m.new_content" = base.member "m.new_content" := by
      rw [Json.member, h.new_content (Or.inr hnot), Json.member]
    rw [hsame]
    exact ⟨hassign, fun _ _ ↦ rfl, fun _ ↦ rfl, fun h ↦ absurd hnot h⟩
  · obtain ⟨v, hv, hwritten⟩ := h.inner hedit hnot
    rw [Json.member_of_find? hv]
    refine ⟨Or.inr (Json.isObject_put hassign _ _), fun k hk ↦ ?_, fun h ↦ absurd h hnot,
      fun _ ↦ ⟨v, ?_, hwritten⟩⟩
    · rw [Json.find?_put hassign, if_neg hk]
    · rw [Json.find?_put hassign, if_pos rfl]

/-- What is there before the texts are marked: the members are copied to the edited content. -/
theorem exists_copied (hc : c.isObject = true)
    (hnew : (c.member "m.new_content").Assignable) :
    ∃ c₂, c.items.foldlM copyToNewContent c = .ok c₂ ∧ c₂.isObject = true ∧
      (∀ k : Str, k ≠ "m.new_content" → c₂.find? k = c.find? k) ∧
      (c.sorted = true → ∀ k, (c₂.member "m.new_content").find? k =
        if isRelationKey k then (c.member "m.new_content").find? k
        else (c.find? k).or ((c.member "m.new_content").find? k)) := by
  obtain ⟨c₂, h₂, hobj₂, hother₂, -, hfind₂⟩ := foldlM_copyToNewContent c.items hc hnew
  refine ⟨c₂, h₂, hobj₂, hother₂, fun hsorted k ↦ ?_⟩
  rcases c with - | b | i | u | f | s | xs | ms
  case object => exact hfind₂ (Json.sorted_object_iff.mp hsorted).1 k
  all_goals cases hc

/-- **The edited content is written** unless what is in the way is no object, or a text is no
string. -/
theorem succeeds_writeEdit_iff {body : Str} (hbody : c.find? "body" = some (.string body)) :
    Succeeds (writeEdit c) ↔
      (c.member "m.new_content").Assignable ∧ StringOrAbsent c "formatted_body" := by
  have hobj := Json.isObject_of_find? hbody
  by_cases hnew : (c.member "m.new_content").Assignable
  · obtain ⟨c₂, h₂, hobj₂, hother₂, -⟩ := exists_copied hobj hnew
    have hbody₂ : StringOrAbsent c₂ "body" := fun v hv ↦ by
      rw [hother₂ _ (by simp), hbody] at hv
      exact ⟨body, (Option.some.inj hv).symm⟩
    obtain ⟨c₃, h₃, hobj₃, hother₃, -⟩ := addStar_spec hobj₂ hbody₂
    rw [writeEdit, h₂, ok_bind, h₃, ok_bind, succeeds_addStar_iff hobj₃, and_iff_right hnew,
      StringOrAbsent, hother₃ _ (by simp), hother₂ _ (by simp), StringOrAbsent]
  · refine iff_of_false ?_ fun h ↦ hnew h.1
    rintro ⟨j, hj⟩
    obtain ⟨c₂, h₂, -⟩ := bind_eq_ok_iff.mp hj
    have hmem : (lit "body", Json.string body) ∈ c.items := by
      rcases c with - | b | i | u | f | s | xs | ms
      case object => exact AssocList.mem_of_find? hbody
      all_goals cases hobj
    have hordinary : isRelationKey "body" = false := by decide
    exact not_succeeds_copyToNewContent hnew ⟨_, hmem, hordinary⟩ ⟨c₂, h₂⟩

/-- What is in the way of the edited content was there before the relations were written. -/
theorem RelatedOver.assignable_member_iff {s : Slots} (h : RelatedOver base c s)
    (hedit : s.edit ≠ none) (hinner : InnerFits base s) :
    (c.member "m.new_content").Assignable ↔ (base.member "m.new_content").Assignable := by
  constructor
  · intro hassign
    by_cases hnot : s.not_edit = none
    · rwa [Json.member, h.new_content (Or.inr hnot), ← Json.member] at hassign
    · exact hinner hedit hnot
  · exact fun hassign ↦ (h.find?_member hedit hassign).1

/-- The edited content can be written, or a text is in the way. -/
theorem RelatedOver.succeeds_writeEdit_iff {s : Slots} (h : RelatedOver base c s) {body : Str}
    (hbody : base.find? "body" = some (.string body)) (hedit : s.edit ≠ none)
    (hinner : InnerFits base s) : Succeeds (writeEdit c) ↔ EditFits base s := by
  have hbody' : c.find? "body" = some (.string body) := by
    rw [h.ordinary _ (by decide), hbody]
  rw [Events.succeeds_writeEdit_iff hbody', h.assignable_member_iff hedit hinner, StringOrAbsent,
    h.ordinary _ (by decide), EditFits, forall_prop_of_true hedit, StringOrAbsent]

theorem wf_writeEdit (hobj : c.isObject = true) (hc : c.wf = true) (hj : writeEdit c = .ok c') :
    c'.wf = true := by
  obtain ⟨c₂, h₂, hj⟩ := bind_eq_ok_iff.mp hj
  obtain ⟨c₃, h₃, hj⟩ := bind_eq_ok_iff.mp hj
  have hentries : ∀ e ∈ c.items, validUtf8 e.1 = true ∧ e.2.wf = true := by
    rcases c with - | b | i | u | f | s | xs | ms
    case object => exact (Json.wf_object_iff.mp hc).2
    all_goals cases hobj
  exact wf_addStar (by decide) (wf_addStar (by decide) (wf_foldlM_copyToNewContent hentries hc h₂)
    h₃) hj

/-- The members that are copied are those of the content, and the texts of the content itself are
marked. -/
theorem find?_writeEdit (hc : c.isObject = true) (hsorted : c.sorted = true)
    (hnew : (c.member "m.new_content").Assignable) (hj : writeEdit c = .ok c') :
    c'.isObject = true ∧
      (∀ k : Str, k ≠ "body" → k ≠ "formatted_body" → k ≠ "m.new_content" →
        c'.find? k = c.find? k) ∧
      ∀ k, (c'.member "m.new_content").find? k =
        if isRelationKey k then (c.member "m.new_content").find? k
        else (c.find? k).or ((c.member "m.new_content").find? k) := by
  obtain ⟨c₂, h₂, hj⟩ := bind_eq_ok_iff.mp hj
  obtain ⟨c₃, h₃, hj⟩ := bind_eq_ok_iff.mp hj
  obtain ⟨c₂', h₂', hobj₂, hother₂, hfind₂⟩ := exists_copied hc hnew
  obtain rfl := Except.ok.inj (h₂.symm.trans h₂')
  obtain ⟨c₃', h₃', hobj₃, hother₃, -⟩ :=
    addStar_spec hobj₂ ((succeeds_addStar_iff hobj₂).mp ⟨c₃, h₃⟩)
  obtain rfl := Except.ok.inj (h₃.symm.trans h₃')
  obtain ⟨j, hj', hobj, hother, -⟩ := addStar_spec hobj₃ ((succeeds_addStar_iff hobj₃).mp ⟨c', hj⟩)
  obtain rfl := Except.ok.inj (hj.symm.trans hj')
  refine ⟨hobj, fun k hb hf hn ↦ ?_, fun k ↦ ?_⟩
  · rw [hother k hf, hother₃ k hb, hother₂ k hn]
  · have hsame : c'.member "m.new_content" = c₂.member "m.new_content" := by
      rw [Json.member, hother _ (by simp), hother₃ _ (by simp), Json.member]
    rw [hsame, hfind₂ hsorted]

/-- The members that relations were added to are copied to the edited content. -/
theorem editedOver_of_writeEdit {s : Slots} {body : Str}
    (hbody : base.find? "body" = some (.string body)) (hadded : AddedOver base c s)
    (hwf : c.wf = true) {e : Relation} (he : s.edit = some e) (htype : e.rel_type = .replace)
    (hassign : (base.member "m.new_content").Assignable) (hj : writeEdit c = .ok c') :
    EditedOver base c' s := by
  have hne : s.edit ≠ none := by
    rw [he]
    exact Option.some_ne_none e
  obtain ⟨hn, hkept, hrelates, hwritten⟩ := hadded.find?_member hne hassign
  obtain ⟨hobj, hsame, hfind⟩ :=
    find?_writeEdit hadded.isObject (Bool.and_eq_true_iff.mp hwf).1 hn hj
  -- there is a text at least, so the edited content is there
  have hbody' : (c'.member "m.new_content").find? "body" = some (.string body) := by
    rw [hfind, if_neg (by decide), hadded.ordinary _ (by decide), hbody]
    rfl
  obtain ⟨n, hn'⟩ : ∃ n, c'.find? "m.new_content" = some n := by
    rcases h : c'.find? "m.new_content" with - | n
    · rw [Json.member_of_find?_none h] at hbody'
      cases hbody'
    · exact ⟨n, rfl⟩
  rw [Json.member_of_find? hn'] at hbody' hfind
  refine ⟨hobj, fun k hk hb hf ↦ ?_, fun h ↦ ?_, fun h ↦ ?_, ⟨e, htype, ?_⟩, n, hn',
    Json.isObject_of_find? hbody', fun k hk ↦ ?_, fun k hk hk' ↦ ?_, fun h ↦ ?_, fun h ↦ ?_⟩
  · rw [hsame k hb hf (isRelationKey_ne hk (by decide)), hadded.ordinary k hk]
  · rw [hsame _ (by simp) (by simp) (by simp), hadded.list_none h]
  · rw [hsame _ (by simp) (by simp) (by simp)]
    exact hadded.list h
  · rw [hsame _ (by simp) (by simp) (by simp), hadded.edit e he]
  · rw [hfind, if_neg (by simp [hk]), hadded.ordinary k hk,
      hkept k (isRelationKey_ne hk (by decide))]
  · rw [hfind, if_pos hk]
    exact hkept k hk'
  · rw [hfind, if_pos (by decide)]
    exact hrelates h
  · rw [hfind, if_pos (by decide)]
    exact hwritten h

/-- **Writing a content over what it was read from** fails only where something that is no object,
or a text that is no string, is in the way. -/
theorem applyRelations_or (hbase : base.wf = true) {body : Str}
    (hbody : base.find? "body" = some (.string body)) {rels : Relations}
    (hrels : parseRelations base = .ok rels) :
    ((ReplyFits base rels.slots ∧ EditFits base rels.slots) ∧
      ∃ j, applyRelations base rels = .ok j ∧ j.wf = true ∧
        (rels.slots.edit = none → AddedOver base j rels.slots) ∧
        (rels.slots.edit ≠ none → EditedOver base j rels.slots)) ∨
    (¬(ReplyFits base rels.slots ∧ EditFits base rels.slots) ∧
      ¬ Succeeds (applyRelations base rels)) := by
  have hobj := Json.isObject_of_find? hbody
  have hinner : EditFits base rels.slots → InnerFits base rels.slots := fun h hedit _ ↦ (h hedit).1
  rw [applyRelations_eq]
  rcases addRelations_or hobj hrels with ⟨⟨hreply, hinner'⟩, c, hc, hadded⟩ | ⟨hfits, hfails⟩
  · have hwf := wf_addRelations (utf8_of_parseRelations hbase hrels) hbase hc
    rw [hc, ok_bind]
    rcases hedit : rels.slots.edit with - | e
    · rw [if_pos rfl]
      exact Or.inl ⟨⟨hreply, fun h ↦ absurd hedit h⟩, c, rfl, hwf, fun _ ↦ hadded,
        fun h ↦ absurd rfl h⟩
    · have hne : rels.slots.edit ≠ none := hedit ▸ Option.some_ne_none e
      have hwrite := hadded.succeeds_writeEdit_iff hbody hne hinner'
      rw [if_neg (Option.some_ne_none e)]
      by_cases hfits : EditFits base rels.slots
      · obtain ⟨j, hj⟩ := hwrite.mpr hfits
        exact Or.inl ⟨⟨hreply, hfits⟩, j, hj, wf_writeEdit hadded.isObject hwf hj,
          fun h ↦ absurd h (Option.some_ne_none e), fun _ ↦
            editedOver_of_writeEdit hbody hadded hwf hedit ((slots_from rels).edit e hedit).2
              (hfits hne).1 hj⟩
      · exact Or.inr ⟨fun h ↦ hfits h.2, fun h ↦ hfits (hwrite.mp h)⟩
  · refine Or.inr ⟨fun h ↦ hfits ⟨h.1, hinner h.2⟩, ?_⟩
    rintro ⟨j, hj⟩
    obtain ⟨c, hc, -⟩ := bind_eq_ok_iff.mp hj
    exact hfails ⟨c, hc⟩

/-- **Relations are written over any content** unless what is in the way is no object, no list or,
for a text, no string. -/
theorem succeeds_applyRelations_iff {body : Str} (hbody : base.find? "body" = some (.string body))
    (rels : Relations) : Succeeds (applyRelations base rels) ↔
      ReplyFits base rels.slots ∧ EditFits base rels.slots ∧ ListFits base rels := by
  have hobj := Json.isObject_of_find? hbody
  rw [applyRelations_eq, addRelations_eq, bind_assoc, succeeds_bind_iff]
  rcases addSlots_or hobj rels.slots with
    ⟨⟨hreply, hinner⟩, c, hc, hrelated, hlist⟩ | ⟨hfits, hfails⟩
  · have hmember : c.member "im.nheko.relations.v1.relations" =
        base.member "im.nheko.relations.v1.relations" := by
      rw [Json.member, hlist, Json.member]
    have hfitslist : ListFits c rels ↔ ListFits base rels := by rw [ListFits, hmember, ListFits]
    have hstep : (∃ d, addSlots base rels.slots = .ok d ∧ Succeeds (addList d rels >>= fun c ↦
          if rels.slots.edit = none then .ok c else writeEdit c)) ↔
        Succeeds (addList c rels >>= fun c ↦
          if rels.slots.edit = none then .ok c else writeEdit c) := by
      constructor
      · rintro ⟨d, hd, h⟩
        rwa [Except.ok.inj (hc.symm.trans hd)]
      · exact fun h ↦ ⟨c, hc, h⟩
    rw [hstep, and_iff_right hreply]
    rcases addList_or hrelated.isObject rels with ⟨hfits, d, hd, hdobj, hother⟩ | ⟨hfits, hfails⟩
    · rw [hd, ok_bind, and_iff_left (hfitslist.mp hfits)]
      split_ifs with hedit
      · exact iff_of_true (succeeds_ok _) fun h ↦ absurd hedit h
      · exact (hrelated.congr hdobj hother).succeeds_writeEdit_iff hbody hedit hinner
    · refine iff_of_false ?_ fun h ↦ hfits (hfitslist.mpr h.2)
      intro h
      obtain ⟨d, hd, -⟩ := succeeds_bind_iff.mp h
      exact hfails ⟨d, hd⟩
  · refine iff_of_false ?_ fun h ↦ hfits ⟨h.1, fun hedit _ ↦ (h.2.1 hedit).1⟩
    rintro ⟨c, hc, -⟩
    exact hfails ⟨c, hc⟩

end Mtx.Events
