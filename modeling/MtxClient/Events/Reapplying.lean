import MtxClient.Events.ExplicitRelations
import MtxClient.Events.ReadRelations

/-!
# Applying relations again

`apply_relations` writes the relations of most contents to an object that has none yet.  For a
message of an unknown type it writes them to the content that they were read from.

`Reapplicable` says for which contents this changes nothing that is read again.  It excludes a list
with a relation that the library knows, which is written behind the ones that are there; an edit,
whose body gets another star; and a reply that stands in `rel_type` with a key or as a fallback,
which is written where replies have neither.  `reapply` shows that the others can be written, are
read as they were and stay `Reapplicable`; `find?_of_applyRelations` and `find?_of_addRelations`
say what is written to a list that is there and to the body of an edit.
-/

set_option autoImplicit false

namespace Mtx.Events

open Str

/-! ## What is written to `m.relates_to` -/

/-- The value `j` is `base` with `w` in `m.relates_to`. -/
structure Replaced (base j w : Json) : Prop where
  relates_to : j.find? "m.relates_to" = some w
  other : ∀ k : Str, k ≠ "m.relates_to" → j.find? k = base.find? k
  valid : j.validUtf8 = true

/-- What stands in `m.relates_to` after a reply was written to it. -/
def replied (relates_to : Json) (event_id : Str) : Json :=
  relates_to.put "m.in_reply_to"
    (((relates_to.find? "m.in_reply_to").getD .null).put "event_id" (.string event_id))

variable {base j w : Json}

theorem Replaced.of_find? (hvalid : base.validUtf8 = true)
    (hw : base.find? "m.relates_to" = some w) : Replaced base base w :=
  ⟨hw, fun _ _ ↦ rfl, hvalid⟩

theorem replaced_put (hobj : base.isObject = true) (hvalid : base.validUtf8 = true)
    (hw : w.validUtf8 = true) : Replaced base (base.put "m.relates_to" w) w where
  relates_to := by rw [Json.find?_put (Or.inr hobj), if_pos rfl]
  other k hk := by rw [Json.find?_put (Or.inr hobj), if_neg hk]
  valid := Json.validUtf8_put hvalid (by decide) hw

theorem Replaced.put (h : Replaced base j w) {w' : Json} (hw' : w'.validUtf8 = true) :
    Replaced base (j.put "m.relates_to" w') w' := by
  have hj := replaced_put (Json.isObject_of_find? h.relates_to) h.valid hw'
  refine ⟨hj.relates_to, ?_, hj.valid⟩
  intro k hk
  rw [hj.other k hk, h.other k hk]

theorem find?_replied (hw : w.isObject = true) (event_id k : Str) :
    (replied w event_id).find? k = if k = "m.in_reply_to" then
      some (((w.find? "m.in_reply_to").getD .null).put "event_id" (.string event_id))
    else w.find? k :=
  Json.find?_put (Or.inr hw) _ _ _

theorem isObject_replied (hw : w.isObject = true) (event_id : Str) :
    (replied w event_id).isObject = true :=
  Json.isObject_put (Or.inr hw) _ _

/-- The event that is replied to is read again. -/
theorem event_id_replied (hw : w.isObject = true)
    (hshape : (w.find? "m.in_reply_to").getD .null = .null ∨
      ((w.find? "m.in_reply_to").getD .null).isObject = true) (event_id : Str) :
    ((replied w event_id).find? "m.in_reply_to").bind (·.find? "event_id") =
      some (.string event_id) := by
  rw [find?_replied hw, if_pos rfl, Option.bind_some, Json.find?_put hshape, if_pos rfl]

theorem Replaced.reply (h : Replaced base j w) (hw : w.isObject = true)
    (hshape : (w.find? "m.in_reply_to").getD .null = .null ∨
      ((w.find? "m.in_reply_to").getD .null).isObject = true) {event_id : Str}
    (hid : validUtf8 event_id = true) :
    j.setPath ["m.relates_to", "m.in_reply_to", "event_id"] (.string event_id) =
        .ok (j.put "m.relates_to" (replied w event_id)) ∧
      Replaced base (j.put "m.relates_to" (replied w event_id)) (replied w event_id) := by
  constructor
  · refine setPath_cons (Or.inr (Json.isObject_of_find? h.relates_to)) ?_
    rw [h.relates_to]
    exact setPath_cons (Or.inr hw) (setPath_cons hshape rfl)
  · have hvalid := Json.validUtf8_of_find? h.valid h.relates_to
    have hreply : ((w.find? "m.in_reply_to").getD .null).validUtf8 = true := by
      rcases hv : w.find? "m.in_reply_to" with - | reply
      · rfl
      · exact Json.validUtf8_of_find? hvalid hv
    exact h.put (Json.validUtf8_put hvalid (by decide)
      (Json.validUtf8_put hreply (by decide) hid))

/-- A reply inside of a thread is marked as a fallback. -/
theorem Replaced.mark (h : Replaced base j w) (hw : w.isObject = true) :
    j.setPath ["m.relates_to", "is_falling_back"] (.boolean true) =
        .ok (j.put "m.relates_to" (w.put "is_falling_back" (.boolean true))) ∧
      Replaced base (j.put "m.relates_to" (w.put "is_falling_back" (.boolean true)))
        (w.put "is_falling_back" (.boolean true)) := by
  constructor
  · refine setPath_cons (Or.inr (Json.isObject_of_find? h.relates_to)) ?_
    rw [h.relates_to]
    exact setPath_cons (Or.inr hw) rfl
  · have hvalid := Json.validUtf8_of_find? h.valid h.relates_to
    exact h.put (Json.validUtf8_put hvalid (by decide) rfl)

/-! ## Relations that may be applied again -/

/-- A relation in `m.relates_to` that is no edit, and no reply with more than an event. -/
def KeptRelation (relates_to : Json) : Prop :=
  ∀ s, relates_to.find? "rel_type" = some (.string s) →
    RelationType.ofStr s ≠ .replace ∧
      (RelationType.ofStr s = .inReplyTo → relates_to.find? "key" = none ∧
        relates_to.find? "im.nheko.relations.v1.is_fallback" ≠ some (.boolean true))

/-- **The relations may be applied to the content that they were read from.** -/
def Reapplicable (content : Json) : Prop :=
  match content.find? "im.nheko.relations.v1.relations" with
  | some list => ∀ xs, list = .array xs → ∀ x ∈ xs, ∀ s, x.find? "rel_type" = some (.string s) →
      RelationType.ofStr s = .unsupported
  | none => ∀ v, content.find? "m.relates_to" = some v → v.find? "m.in_reply_to" = none →
      KeptRelation v

theorem keptRelation_iff {v : Json} {r : Relation} (hr : Relation.fromJson v = .ok r) :
    KeptRelation v ↔ r.rel_type ≠ .replace ∧
      (r.rel_type = .inReplyTo → r = { rel_type := .inReplyTo, event_id := r.event_id }) := by
  obtain ⟨-, -, hkey, hfallback⟩ := Relation.fromJson_eq_ok_iff.mp hr
  have hnone : v.find? "key" = none ↔ r.key = none := by
    rw [Json.optional] at hkey
    rcases hv : v.find? "key" with - | k
    · rw [hv] at hkey
      exact iff_of_true rfl (Except.ok.inj hkey).symm
    · rw [hv] at hkey
      obtain ⟨s, -, hs⟩ := map_eq_ok_iff.mp hkey
      rw [← hs]
      exact iff_of_false (Option.some_ne_none _) (Option.some_ne_none _)
  have hfalse : v.find? "im.nheko.relations.v1.is_fallback" ≠ some (.boolean true) ↔
      r.is_fallback = false := by
    rw [Json.optional] at hfallback
    rcases hv : v.find? "im.nheko.relations.v1.is_fallback" with - | b
    · rw [hv] at hfallback
      exact iff_of_true (by simp) (Except.ok.inj hfallback).symm
    · rw [hv] at hfallback
      obtain ⟨b, rfl⟩ := Json.succeeds_getBool_iff.mp ⟨_, hfallback⟩
      rw [← Except.ok.inj hfallback]
      simp
  have hreplace := Relation.rel_type_eq_iff hr (t := .replace) (by decide)
  have hreply := Relation.rel_type_eq_iff hr (t := .inReplyTo) (by decide)
  have hplain : r.rel_type = .inReplyTo →
      ((v.find? "key" = none ∧ v.find? "im.nheko.relations.v1.is_fallback" ≠ some (.boolean true)) ↔
        r = { rel_type := .inReplyTo, event_id := r.event_id }) := by
    intro htype
    rw [hnone, hfalse]
    obtain ⟨rel_type, event_id, key, is_fallback⟩ := r
    simp_all
  constructor
  · intro h
    constructor
    · intro htype
      obtain ⟨s, hs, hof⟩ := hreplace.mp htype
      exact (h s hs).1 hof
    · intro htype
      obtain ⟨s, hs, hof⟩ := hreply.mp htype
      exact (hplain htype).mp ((h s hs).2 hof)
  · rintro ⟨hno, hkept⟩ s hs
    constructor
    · intro hof
      exact hno (hreplace.mpr ⟨s, hs, hof⟩)
    · intro hof
      have htype := hreply.mpr ⟨s, hs, hof⟩
      exact (hplain htype).mpr (hkept htype)

theorem parseRelations_congr {content content' : Json}
    (h : ∀ k, isRelationKey k = true → content.find? k = content'.find? k) :
    parseRelations content = parseRelations content' := by
  rw [parseRelations, h _ (by decide), h _ (by decide), parseRelations, parseEdited,
    h _ (by decide), parseEdited]

theorem reapplicable_congr {content content' : Json}
    (h : ∀ k, isRelationKey k = true → content.find? k = content'.find? k) :
    Reapplicable content ↔ Reapplicable content' := by
  rw [Reapplicable, h _ (by decide), h _ (by decide), Reapplicable]

/-! ## Applying them again -/

/-- What relations are written to over the content that they were read from: they are read again,
and may be written again. -/
structure Reapplied (base j : Json) (rels : Relations) : Prop where
  written : applyRelations base rels = .ok j
  other : ∀ k : Str, k ≠ "m.relates_to" → j.find? k = base.find? k
  valid : j.validUtf8 = true
  read : parseRelations j = .ok rels
  reapplicable : Reapplicable j

variable {rels : Relations}

theorem applyRelations_eq_addRelations (h : rels.replaces true = none) :
    applyRelations base rels = addRelations base rels := by
  rw [applyRelations, h]
  rcases addRelations base rels with err | j
  · rfl
  · rfl

/-- Relations of unknown types are written to `m.relates_to`, if there are any. -/
theorem foldl_assign_unsupported {rs : List Relation} (h : ∀ r ∈ rs, r.rel_type = .unsupported)
    (s : Slots) : ∃ not_edit, rs.foldl Slots.assign s = { s with not_edit } ∧
      (not_edit = s.not_edit ∨ ∃ r ∈ rs, not_edit = some r) := by
  induction rs generalizing s with
  | nil => exact ⟨s.not_edit, rfl, Or.inl rfl⟩
  | cons r rs ih =>
    obtain ⟨hr, hrs⟩ := List.forall_mem_cons.mp h
    obtain ⟨not_edit, hfold, hmem⟩ := ih hrs (s.assign r)
    have hassign : s.assign r = { s with not_edit := some r } := by
      rw [Slots.assign, hr]
    rw [hassign] at hfold hmem
    refine ⟨not_edit, by rw [List.foldl_cons, hassign, hfold], Or.inr ?_⟩
    rcases hmem with rfl | ⟨r', hr', rfl⟩
    · exact ⟨r, List.mem_cons_self, rfl⟩
    · exact ⟨r', List.mem_cons_of_mem _ hr', rfl⟩

theorem replaces_eq_none_iff :
    rels.replaces true = none ↔ ∀ r ∈ rels.relations, r.rel_type ≠ .replace := by
  rw [Relations.replaces, Relations.firstMatching, Option.map_eq_none_iff, List.find?_eq_none]
  simp

theorem addRelations_unsupported (hobj : base.isObject = true) {rs : List Relation}
    (h : ∀ r ∈ rs, r.rel_type = .unsupported) :
    ∃ j, addRelations base { relations := rs } = .ok j ∧
      (j = base ∨ ∃ r ∈ rs, j = base.put "m.relates_to" r.toJson) := by
  rw [addRelations]
  by_cases hempty : rs.isEmpty = true
  · rw [if_pos hempty]
    exact ⟨base, rfl, Or.inl rfl⟩
  · obtain ⟨not_edit, hfold, hmem⟩ := foldl_assign_unsupported h {}
    have hnone : rs.filter (·.rel_type != .unsupported) = [] := by
      rw [List.filter_eq_nil_iff]
      intro r hr
      simp [h r hr]
    rw [if_neg hempty]
    simp only [hfold, hnone, addReply, addEdit, List.foldlM_nil]
    rcases hmem with rfl | ⟨r, hr, rfl⟩
    · exact ⟨base, rfl, Or.inl rfl⟩
    · refine ⟨_, ?_, Or.inr ⟨r, hr, rfl⟩⟩
      rw [addNotEdit, Json.set_eq_ok (Or.inr hobj)]
      rfl

/-- A list without relations that the library knows. -/
theorem reapply_list (hobj : base.isObject = true) (hvalid : base.validUtf8 = true)
    {xs : List Json} (hlist : base.find? "im.nheko.relations.v1.relations" = some (.array xs))
    (hrels : parseRelations base = .ok rels) (h : Reapplicable base) :
    ∃ j, Reapplied base j rels := by
  have hread := hrels
  rw [parseRelations, hlist] at hrels
  obtain ⟨rs, hrs, hrels⟩ := bind_eq_ok_iff.mp hrels
  obtain rfl := Except.ok.inj hrels
  have hxs : ∀ x ∈ xs, x.validUtf8 = true :=
    (Json.validUtf8List_iff xs).mp (Json.validUtf8_of_find? hvalid hlist)
  have hfrom := (mem_of_mapM_eq_ok hrs).1
  have hunsupported : ∀ r ∈ rs, r.rel_type = .unsupported := by
    intro r hr
    obtain ⟨x, hx, hxr⟩ := hfrom r hr
    rw [Reapplicable, hlist] at h
    exact (Relation.rel_type_eq_unsupported_iff hxr).mpr (h xs rfl x hx)
  obtain ⟨j, hj, hcases⟩ := addRelations_unsupported hobj hunsupported
  have hkeeps : (∀ k : Str, k ≠ "m.relates_to" → j.find? k = base.find? k) ∧
      j.validUtf8 = true := by
    rcases hcases with rfl | ⟨r, hr, rfl⟩
    · exact ⟨fun _ _ ↦ rfl, hvalid⟩
    · obtain ⟨x, hx, hxr⟩ := hfrom r hr
      have hput := replaced_put hobj hvalid (Relation.validUtf8_toJson (hxs x hx) hxr)
      exact ⟨hput.other, hput.valid⟩
  obtain ⟨hother, hvalid'⟩ := hkeeps
  refine ⟨j, ⟨?_, hother, hvalid', ?_, ?_⟩⟩
  · rw [applyRelations_eq_addRelations (replaces_eq_none_iff.mpr ?_), hj]
    intro r hr htype
    rw [hunsupported r hr] at htype
    cases htype
  · rw [← hread, parseRelations, hother _ (by simp), hlist, parseRelations, hlist]
  · rw [Reapplicable, hother _ (by simp), hlist]
    rwa [Reapplicable, hlist] at h

/-- A reply is written below `m.in_reply_to` of what stands there. -/
theorem addRelations_reply (hvalid : base.validUtf8 = true)
    (hw : base.find? "m.relates_to" = some w) (hobj : w.isObject = true)
    (hshape : (w.find? "m.in_reply_to").getD .null = .null ∨
      ((w.find? "m.in_reply_to").getD .null).isObject = true) {r : Relation}
    (htype : r.rel_type = .inReplyTo) (hid : validUtf8 r.event_id = true) :
    ∃ j, applyRelations base { relations := [r], synthesized := true } = .ok j ∧
      Replaced base j (replied w r.event_id) := by
  obtain ⟨hset, hreplaced⟩ := (Replaced.of_find? hvalid hw).reply hobj hshape hid
  refine ⟨_, ?_, hreplaced⟩
  have hslots : [r].foldl Slots.assign {} = { reply := some r } := by
    rw [List.foldl_cons, List.foldl_nil, Slots.assign, htype]
  rw [applyRelations_eq_addRelations (replaces_eq_none_iff.mpr ?_), addRelations,
    if_neg (by simp)]
  · simp only [hslots, addNotEdit, addReply, addEdit, hset, ok_bind, Option.any_none,
      Bool.and_false]
    rfl
  · refine List.forall_mem_singleton.mpr ?_
    rw [htype]
    decide

/-- Outside of a thread only the event is read from it. -/
theorem parseReply_replied (hobj : w.isObject = true)
    (hshape : (w.find? "m.in_reply_to").getD .null = .null ∨
      ((w.find? "m.in_reply_to").getD .null).isObject = true) (hthread : ¬ InThread w)
    (event_id : Str) : parseReply (replied w event_id) =
      .ok { relations := [{ rel_type := .inReplyTo, event_id }], synthesized := true } := by
  refine parseReply_eq_ok_iff.mpr ⟨event_id, event_id_replied hobj hshape event_id, ?_,
    fun _ ↦ rfl⟩
  rintro ⟨htype, hevent⟩
  rw [find?_replied hobj, if_neg (by simp)] at htype
  rw [Json.contains, find?_replied hobj, if_neg (by simp)] at hevent
  exact absurd ⟨htype, hevent⟩ hthread

/-- The relations of a reply inside of a thread. -/
def threadReply (thread : Relation) (event_id : Str) (is_fallback : Bool) : Relations where
  relations := [thread, { rel_type := .inReplyTo, event_id, is_fallback }]
  synthesized := true

/-- A reply inside of a thread is read from what it is written to. -/
theorem parseReply_thread {thread : Relation} (hthread : thread.rel_type = .thread)
    (hobj : w.isObject = true) {event_id : Str} {is_fallback : Bool}
    (hid : (w.find? "m.in_reply_to").bind (·.find? "event_id") = some (.string event_id))
    (hother : ∀ k : Str, k ≠ "m.in_reply_to" → k ≠ "is_falling_back" →
      w.find? k = thread.toJson.find? k)
    (hback : w.find? "is_falling_back" = if is_fallback then some (.boolean true) else none) :
    parseReply w = .ok (threadReply thread event_id is_fallback) := by
  have hin : InThread w := by
    refine ⟨?_, Json.contains_eq_true_iff.mpr ⟨.string thread.event_id, ?_⟩⟩
    · rw [hother _ (by simp) (by simp)]
      simp [Relation.toJson, hthread, RelationType.toStr]
    · rw [hother _ (by simp) (by simp)]
      simp [Relation.toJson]
  have hread : Relation.fromJson w = .ok thread := by
    rw [← relation_fromJson_toJson thread, Relation.fromJson, Relation.fromJson,
      Json.optional_congr (hother _ (by simp) (by simp)),
      Json.optional_congr (hother _ (by simp) (by simp)),
      Json.optional_congr (hother _ (by simp) (by simp)),
      Json.optional_congr (hother _ (by simp) (by simp))]
  refine parseReply_eq_ok_iff.mpr ⟨event_id, hid, ?_, fun hno ↦ absurd hin hno⟩
  intro _
  refine ⟨is_fallback, thread, ?_, hread, rfl⟩
  rw [Json.value_eq, hback, hobj]
  cases is_fallback <;> rfl

section

variable (hlist : base.find? "im.nheko.relations.v1.relations" = none)

include hlist

theorem Replaced.reapplied_of_reply (h : Replaced base j w)
    (hwritten : applyRelations base rels = .ok j) (hreply : w.contains "m.in_reply_to" = true)
    (hread : parseReply w = .ok rels) : Reapplied base j rels := by
  have hlist' := (h.other _ (by simp)).trans hlist
  refine ⟨hwritten, h.other, h.valid, ?_, ?_⟩
  · rw [parseRelations_of_reply hlist' h.relates_to hreply, hread]
  · rw [Reapplicable, hlist']
    intro v hv hnone
    obtain rfl := Option.some.inj (h.relates_to.symm.trans hv)
    rw [Json.contains, hnone] at hreply
    cases hreply

theorem Replaced.reapplied_of_relation (h : Replaced base j w) {r : Relation}
    (hwritten : applyRelations base { relations := [r], synthesized := true } = .ok j)
    (hno : w.find? "m.in_reply_to" = none) (hr : Relation.fromJson w = .ok r)
    (htype : r.rel_type ≠ .replace) (htype' : r.rel_type ≠ .inReplyTo) :
    Reapplied base j { relations := [r], synthesized := true } := by
  have hlist' := (h.other _ (by simp)).trans hlist
  refine ⟨hwritten, h.other, h.valid, ?_, ?_⟩
  · exact parseRelations_of_relation hlist' h.relates_to hno hr htype
  · rw [Reapplicable, hlist']
    intro v hv _
    obtain rfl := Option.some.inj (h.relates_to.symm.trans hv)
    exact (keptRelation_iff hr).mpr ⟨htype, fun heq ↦ absurd heq htype'⟩

/-- A reply outside of a thread. -/
theorem reapply_reply (hvalid : base.validUtf8 = true)
    (hw : base.find? "m.relates_to" = some w) (hobj : w.isObject = true)
    (hshape : (w.find? "m.in_reply_to").getD .null = .null ∨
      ((w.find? "m.in_reply_to").getD .null).isObject = true) {event_id : Str}
    (hid : validUtf8 event_id = true) (hthread : ¬ InThread w) :
    ∃ j, Reapplied base j
      { relations := [{ rel_type := .inReplyTo, event_id }], synthesized := true } := by
  obtain ⟨j, hj, hreplaced⟩ := addRelations_reply hvalid hw hobj hshape
    (r := { rel_type := .inReplyTo, event_id }) rfl hid
  refine ⟨j, hreplaced.reapplied_of_reply hlist hj ?_ (parseReply_replied hobj hshape hthread _)⟩
  rw [Json.contains, find?_replied hobj, if_pos rfl]
  rfl

/-- A relation that is neither an edit nor a reply is written anew. -/
theorem reapply_relation (hobj : base.isObject = true) (hvalid : base.validUtf8 = true)
    {r : Relation} (hr : r.toJson.validUtf8 = true) (htype : r.rel_type ≠ .replace)
    (htype' : r.rel_type ≠ .inReplyTo) :
    ∃ j, Reapplied base j { relations := [r], synthesized := true } := by
  refine ⟨base.put "m.relates_to" r.toJson, (replaced_put hobj hvalid hr).reapplied_of_relation
    hlist ?_ (find?_toJson_in_reply_to r) (relation_fromJson_toJson r) htype htype'⟩
  have hslots : [r].foldl Slots.assign {} = { not_edit := some r } := by
    rw [List.foldl_cons, List.foldl_nil, Slots.assign]
    split
    · exact absurd ‹_› htype
    · exact absurd ‹_› htype'
    · rfl
  rw [applyRelations_eq_addRelations (replaces_eq_none_iff.mpr ?_), addRelations,
    if_neg (by simp)]
  · simp only [hslots, addNotEdit, addReply, addEdit, Json.set_eq_ok (Or.inr hobj), ok_bind]
    rfl
  · exact List.forall_mem_singleton.mpr htype

/-- A reply inside of a thread. -/
theorem reapply_thread (hobj : base.isObject = true) (hvalid : base.validUtf8 = true)
    {thread : Relation} (hthread : thread.rel_type = .thread)
    (hutf8 : thread.toJson.validUtf8 = true) {event_id : Str} (hid : validUtf8 event_id = true)
    (is_fallback : Bool) :
    ∃ j, Reapplied base j (threadReply thread event_id is_fallback) := by
  have hshape : (thread.toJson.find? "m.in_reply_to").getD .null = .null ∨
      ((thread.toJson.find? "m.in_reply_to").getD .null).isObject = true := by
    rw [find?_toJson_in_reply_to]
    exact Or.inl rfl
  have hthreadObj := isObject_relation_toJson thread
  obtain ⟨hset, hreplaced⟩ := (replaced_put hobj hvalid hutf8).reply hthreadObj hshape hid
  have hfind := find?_replied hthreadObj event_id
  have hevent := event_id_replied hthreadObj hshape event_id
  have hrepliedObj := isObject_replied hthreadObj event_id
  have hslots : (threadReply thread event_id is_fallback).relations.foldl Slots.assign {} =
      ⟨none, some thread, some { rel_type := .inReplyTo, event_id, is_fallback }⟩ := by
    simp only [threadReply, List.foldl_cons, List.foldl_nil, Slots.assign, hthread]
  have hadd : ∀ {j : Json}, addReply (base.put "m.relates_to" thread.toJson)
        (some { rel_type := .inReplyTo, event_id, is_fallback }) (some thread) = .ok j →
      applyRelations base (threadReply thread event_id is_fallback) = .ok j := by
    intro j hj
    rw [applyRelations_eq_addRelations (replaces_eq_none_iff.mpr ?_), addRelations,
      if_neg (by simp [threadReply])]
    · simp only [hslots, addNotEdit, addEdit, Json.set_eq_ok (Or.inr hobj), ok_bind, hj]
      rfl
    · simp [threadReply, hthread]
  rw [addReply, hset, ok_bind] at hadd
  cases is_fallback with
  | false =>
    refine ⟨_, hreplaced.reapplied_of_reply hlist (hadd rfl) ?_ ?_⟩
    · rw [Json.contains, hfind, if_pos rfl]
      rfl
    · refine parseReply_thread hthread hrepliedObj hevent ?_ ?_
      · intro k hk _
        rw [hfind, if_neg hk]
      · rw [hfind, if_neg (by simp)]
        simp [Relation.toJson]
  | true =>
    obtain ⟨hmark, hmarked⟩ := hreplaced.mark hrepliedObj
    have hfind' : ∀ k, ((replied thread.toJson event_id).put "is_falling_back"
        (.boolean true)).find? k = if k = "is_falling_back" then some (.boolean true)
          else (replied thread.toJson event_id).find? k :=
      fun k ↦ Json.find?_put (Or.inr hrepliedObj) _ _ _
    refine ⟨_, hmarked.reapplied_of_reply hlist (hadd ?_) ?_ ?_⟩
    · rw [if_pos (by simp [hthread]), hmark]
    · rw [Json.contains, hfind', if_neg (by simp), hfind, if_pos rfl]
      rfl
    · refine parseReply_thread hthread (Json.isObject_put (Or.inr hrepliedObj) _ _) ?_ ?_ ?_
      · rw [hfind', if_neg (by simp), hevent]
      · intro k hk hk'
        rw [hfind', if_neg hk', hfind, if_neg hk]
      · rw [hfind', if_pos rfl]
        rfl

end

/-- A relation that names itself a reply is none of a thread. -/
theorem not_inThread_of_inReplyTo {v : Json} {r : Relation} (hr : Relation.fromJson v = .ok r)
    (htype : r.rel_type = .inReplyTo) : ¬ InThread v := by
  rintro ⟨hthread, -⟩
  obtain ⟨s, hs, hof⟩ := (Relation.rel_type_eq_iff hr (by decide)).mp htype
  obtain rfl := Json.string.inj (Option.some.inj (hs.symm.trans hthread))
  revert hof
  decide

/-- **Relations that may be applied again are read as they were, and may be applied again.** -/
theorem reapply (hobj : base.isObject = true) (hvalid : base.validUtf8 = true)
    (hrels : parseRelations base = .ok rels) (h : Reapplicable base) :
    ∃ j, Reapplied base j rels := by
  have hread := hrels
  rcases hlist : base.find? "im.nheko.relations.v1.relations" with - | list
  · rcases hv : base.find? "m.relates_to" with - | v
    · rw [parseRelations, hlist, hv] at hrels
      obtain rfl := Except.ok.inj hrels
      exact ⟨base, ⟨rfl, fun _ _ ↦ rfl, hvalid, hread, h⟩⟩
    · have hvalidv := Json.validUtf8_of_find? hvalid hv
      rcases hreply : v.find? "m.in_reply_to" with - | reply
      · rw [parseRelations, hlist, hv] at hrels
        simp only [Json.contains, hreply, Option.isSome_none, Bool.false_eq_true, if_false] at hrels
        obtain ⟨r, hr, hrels⟩ := bind_eq_ok_iff.mp hrels
        rw [Reapplicable, hlist] at h
        obtain ⟨hno, hkept⟩ := (keptRelation_iff hr).mp (h v hv hreply)
        rw [if_neg hno] at hrels
        obtain rfl := Except.ok.inj hrels
        by_cases htype : r.rel_type = .inReplyTo
        · obtain ⟨s, hs, -⟩ := (Relation.rel_type_eq_iff hr (by decide)).mp htype
          have hid := validUtf8_of_optional hvalidv (Relation.fromJson_eq_ok_iff.mp hr).2.1
          rw [hkept htype]
          exact reapply_reply hlist hvalid hv (Json.isObject_of_find? hs)
            (by rw [hreply]; exact Or.inl rfl) hid (not_inThread_of_inReplyTo hr htype)
        · exact reapply_relation hlist hobj hvalid (Relation.validUtf8_toJson hvalidv hr) hno htype
      · rw [parseRelations_of_reply hlist hv (by rw [Json.contains, hreply]; rfl)] at hrels
        obtain ⟨event_id, hid, hthread, hno⟩ := parseReply_eq_ok_iff.mp hrels
        rw [hreply, Option.bind_some] at hid
        have hutf8 : validUtf8 event_id = true :=
          Json.validUtf8_of_find? (Json.validUtf8_of_find? hvalidv hreply) hid
        by_cases hin : InThread v
        · obtain ⟨is_fallback, thread, -, hr, rfl⟩ := hthread hin
          have htype : thread.rel_type = .thread :=
            (Relation.rel_type_eq_iff hr (by decide)).mpr ⟨_, hin.1, by decide⟩
          exact reapply_thread hlist hobj hvalid htype (Relation.validUtf8_toJson hvalidv hr) hutf8
            is_fallback
        · rw [hno hin]
          exact reapply_reply hlist hvalid hv (Json.isObject_of_find? hreply)
            (by rw [hreply]; exact Or.inr (Json.isObject_of_find? hid)) hutf8 hin
  · obtain ⟨xs, rfl, -⟩ : ∃ xs, list = .array xs ∧ ∀ x ∈ xs, Succeeds (Relation.fromJson x) := by
      rw [parseRelations, hlist] at hrels
      obtain ⟨rs, hrs, -⟩ := bind_eq_ok_iff.mp hrels
      exact Json.succeeds_getArray_iff.mp ⟨rs, hrs⟩
    exact reapply_list hobj hvalid hlist hrels h

/-! ## What writing leaves alone -/

theorem find?_of_set {j' v : Json} {k k' : Str} (h : j.set k v = .ok j') (hk : k' ≠ k) :
    j'.find? k' = j.find? k' := by
  obtain ⟨hshape, rfl⟩ := Json.set_eq_ok_iff.mp h
  rw [Json.find?_put hshape, if_neg hk]

theorem find?_of_setPath {j' v : Json} {k k' : Str} {ks : List Str}
    (h : j.setPath (k :: ks) v = .ok j') (hk : k' ≠ k) : j'.find? k' = j.find? k' := by
  have hshape : j = .null ∨ j.isObject = true := by
    rcases j with - | b | i | u | f | s | xs | ms
    case null => exact Or.inl rfl
    case object => exact Or.inr rfl
    all_goals cases h
  rw [setPath_eq hshape] at h
  obtain ⟨c, -, rfl⟩ := map_eq_ok_iff.mp h
  rw [Json.find?_put hshape, if_neg hk]

/-- The standard members are `m.relates_to` and `m.new_content`. -/
theorem find?_of_addStandard {j₁ j₂ j₃ : Json} {s : Slots}
    (h₁ : addNotEdit base s.not_edit = .ok j₁) (h₂ : addReply j₁ s.reply s.not_edit = .ok j₂)
    (h₃ : addEdit j₂ s.edit s.not_edit = .ok j₃) {k : Str} (hrelates : k ≠ "m.relates_to")
    (hnew : k ≠ "m.new_content") : j₃.find? k = base.find? k := by
  obtain ⟨edit, not_edit, reply⟩ := s
  have hfirst : j₁.find? k = base.find? k := by
    rcases not_edit with - | r
    · rw [← Except.ok.inj h₁]
    · exact find?_of_set h₁ hrelates
  have hsecond : j₂.find? k = j₁.find? k := by
    rcases reply with - | r
    · rw [← Except.ok.inj h₂]
    · obtain ⟨j', hj', h₂⟩ := bind_eq_ok_iff.mp h₂
      have hkeep := find?_of_setPath hj' hrelates
      split_ifs at h₂
      · rw [find?_of_setPath h₂ hrelates, hkeep]
      · rw [← Except.ok.inj h₂, hkeep]
  have hthird : j₃.find? k = j₂.find? k := by
    rcases edit with - | r
    · rw [← Except.ok.inj h₃]
    · rcases not_edit with - | n
      · exact find?_of_set h₃ hrelates
      · obtain ⟨j', hj', h₃⟩ := bind_eq_ok_iff.mp h₃
        rw [find?_of_set h₃ hrelates, find?_of_setPath hj' hnew]
  rw [hthird, hsecond, hfirst]

theorem find?_of_foldlM_pushBack {key : Str} {rs : List Relation} {j' : Json}
    (h : rs.foldlM (fun content r ↦ pushBack content key r.toJson) j = .ok j') {k : Str}
    (hk : k ≠ key) : j'.find? k = j.find? k := by
  induction rs generalizing j with
  | nil => rw [← Except.ok.inj h]
  | cons r rs ih =>
    rw [List.foldlM_cons] at h
    obtain ⟨j₁, hpush, h⟩ := bind_eq_ok_iff.mp h
    rw [ih h]
    rw [pushBack] at hpush
    split at hpush
    · exact find?_of_set hpush hk
    · exact find?_of_set hpush hk
    · exact find?_of_set hpush hk
    · cases hpush

/-- What is written beside the three members, and what to a list that is there already. -/
theorem find?_of_addRelations (h : addRelations base rels = .ok j) :
    (∀ k, isRelationKey k = false → j.find? k = base.find? k) ∧
      ∀ xs, base.find? "im.nheko.relations.v1.relations" = some (.array xs) →
        rels.synthesized = false → j.find? "im.nheko.relations.v1.relations" = some (.array
          (xs ++ (rels.relations.filter (·.rel_type != .unsupported)).map Relation.toJson)) := by
  rw [addRelations] at h
  by_cases hempty : rels.relations.isEmpty = true
  · rw [if_pos hempty] at h
    obtain rfl := Except.ok.inj h
    refine ⟨fun _ _ ↦ rfl, ?_⟩
    intro xs hxs _
    rw [hxs, List.isEmpty_iff.mp hempty, List.filter_nil, List.map_nil, List.append_nil]
  · rw [if_neg hempty] at h
    obtain ⟨j₁, h₁, h⟩ := bind_eq_ok_iff.mp h
    obtain ⟨j₂, h₂, h⟩ := bind_eq_ok_iff.mp h
    obtain ⟨j₃, h₃, h⟩ := bind_eq_ok_iff.mp h
    have hstandard := fun {k : Str} ↦ find?_of_addStandard (k := k) h₁ h₂ h₃
    constructor
    · intro k hk
      rw [← hstandard (isRelationKey_ne hk (by decide)) (isRelationKey_ne hk (by decide))]
      split_ifs at h
      · rw [← Except.ok.inj h]
      · exact find?_of_foldlM_pushBack h (isRelationKey_ne hk (by decide))
    · intro xs hxs hsynthesized
      rw [← hstandard (by simp) (by simp)] at hxs
      rw [hsynthesized, if_neg (by simp)] at h
      obtain ⟨j', hj', -, -, hfind⟩ := foldlM_pushBack_of_array (Json.isObject_of_find? hxs) hxs
        (rels.relations.filter (·.rel_type != .unsupported))
      rw [← Except.ok.inj (hj'.symm.trans h), hfind]

theorem find?_of_addStar {key k : Str} {j' : Json} (h : addStar j key = .ok j') (hk : k ≠ key) :
    j'.find? k = j.find? k := by
  rw [addStar] at h
  rcases hv : j.find? key with - | v
  · rw [hv] at h
    rw [← Except.ok.inj h]
  · rw [hv] at h
    obtain ⟨s, -, h⟩ := bind_eq_ok_iff.mp h
    exact find?_of_set h hk

theorem find?_of_foldlM_copyToNewContent {es : List (Str × Json)} {j' : Json}
    (h : es.foldlM copyToNewContent j = .ok j') {k : Str} (hk : k ≠ "m.new_content") :
    j'.find? k = j.find? k := by
  induction es generalizing j with
  | nil => rw [← Except.ok.inj h]
  | cons e es ih =>
    rw [List.foldlM_cons] at h
    obtain ⟨j₁, hcopy, h⟩ := bind_eq_ok_iff.mp h
    rw [ih h]
    rw [copyToNewContent] at hcopy
    split_ifs at hcopy
    · rw [← Except.ok.inj hcopy]
    · exact find?_of_setPath hcopy hk

/-- An edit changes the texts and `m.new_content`, and puts a star before the body. -/
theorem find?_of_applyRelations (h : applyRelations base rels = .ok j) :
    ∃ j₁, addRelations base rels = .ok j₁ ∧
      (∀ k : Str, k ≠ "m.new_content" → k ≠ "body" → k ≠ "formatted_body" →
        j.find? k = j₁.find? k) ∧
      (rels.replaces true ≠ none → ∀ s, j₁.find? "body" = some (.string s) →
        j.find? "body" = some (.string (lit "* " ++ s))) := by
  obtain ⟨j₁, h₁, h⟩ := bind_eq_ok_iff.mp h
  refine ⟨j₁, h₁, ?_⟩
  split_ifs at h with hedit
  · obtain rfl := Except.ok.inj h
    exact ⟨fun _ _ _ _ ↦ rfl, fun hne ↦ absurd (Option.isNone_iff_eq_none.mp hedit) hne⟩
  · obtain ⟨j₂, h₂, h⟩ := bind_eq_ok_iff.mp h
    obtain ⟨j₃, h₃, h⟩ := bind_eq_ok_iff.mp h
    constructor
    · intro k hnew hbody hformatted
      rw [find?_of_addStar h hformatted, find?_of_addStar h₃ hbody,
        find?_of_foldlM_copyToNewContent h₂ hnew]
    · intro _ s hs
      rw [← find?_of_foldlM_copyToNewContent h₂ (by simp)] at hs
      rw [addStar, hs] at h₃
      obtain ⟨-, rfl⟩ := Json.set_eq_ok_iff.mp h₃
      rw [find?_of_addStar h (by simp), Json.find?_put (Or.inr (Json.isObject_of_find? hs)),
        if_pos rfl]

end Mtx.Events
