import MtxClient.Events.RelationData

/-!
# What relations are read from

Which members a relation and a reply are read from (`Relation.fromJson_eq_ok_iff`,
`parseReply_eq_ok_iff`), and that what was read from a value whose strings are UTF-8 can be written
again.
-/

set_option autoImplicit false

namespace Mtx.Events

open Str

/-! ## Strings that were read -/

theorem Relation.fromJson_eq_ok_iff {obj : Json} {r : Relation} : Relation.fromJson obj = .ok r ↔
    obj.optional "rel_type" RelationType.fromJson .unsupported = .ok r.rel_type ∧
      obj.optional "event_id" Json.getString "" = .ok r.event_id ∧
      obj.optional "key" (fun j ↦ some <$> j.getString) none = .ok r.key ∧
      obj.optional "im.nheko.relations.v1.is_fallback" Json.getBool false = .ok r.is_fallback := by
  simp only [Relation.fromJson, bind_eq_ok_iff]
  constructor
  · rintro ⟨rel_type, htype, event_id, hid, key, hkey, is_fallback, hfallback, h⟩
    rw [← Except.ok.inj h]
    exact ⟨htype, hid, hkey, hfallback⟩
  · rintro ⟨htype, hid, hkey, hfallback⟩
    exact ⟨_, htype, _, hid, _, hkey, _, hfallback, rfl⟩

theorem validUtf8_of_optional {obj : Json} {k s : Str} (h : obj.validUtf8 = true)
    (hs : obj.optional k Json.getString "" = .ok s) : validUtf8 s = true := by
  rw [Json.optional] at hs
  rcases hv : obj.find? k with - | v
  · rw [hv] at hs
    obtain rfl := Except.ok.inj hs
    rfl
  · rw [hv] at hs
    obtain rfl := Json.getString_eq_ok_iff.mp hs
    exact Json.validUtf8_of_find? h hv

/-- A relation that was read can be written. -/
theorem Relation.validUtf8_toJson {obj : Json} {r : Relation} (h : obj.validUtf8 = true)
    (hr : Relation.fromJson obj = .ok r) : r.toJson.validUtf8 = true := by
  obtain ⟨-, hid, hkey, -⟩ := Relation.fromJson_eq_ok_iff.mp hr
  have htype : validUtf8 r.rel_type.toStr = true := by
    cases r.rel_type <;> decide
  have hkey : validUtf8 (r.key.getD "") = true := by
    rw [Json.optional] at hkey
    rcases hv : obj.find? "key" with - | v
    · rw [hv] at hkey
      rw [← Except.ok.inj hkey]
      rfl
    · rw [hv] at hkey
      obtain ⟨s, hs, hsome⟩ := map_eq_ok_iff.mp hkey
      obtain rfl := Json.getString_eq_ok_iff.mp hs
      rw [← hsome]
      exact Json.validUtf8_of_find? h hv
  refine Json.validUtf8_ofMembers (.insertIf (.insertIf (.insert (.insert .empty ?_) ?_) ?_) ?_)
  · exact ⟨by decide, htype⟩
  · exact ⟨by decide, validUtf8_of_optional h hid⟩
  · exact ⟨by decide, hkey⟩
  · exact ⟨by decide, rfl⟩

/-! ## What is read -/

theorem Relation.rel_type_eq_iff {obj : Json} {r : Relation} (h : Relation.fromJson obj = .ok r)
    {t : RelationType} (ht : t ≠ .unsupported) : r.rel_type = t ↔
      ∃ s, obj.find? "rel_type" = some (.string s) ∧ RelationType.ofStr s = t := by
  obtain ⟨hread, -⟩ := Relation.fromJson_eq_ok_iff.mp h
  rw [Json.optional] at hread
  rcases hv : obj.find? "rel_type" with - | v
  · rw [hv] at hread
    rw [← Except.ok.inj hread]
    refine iff_of_false ht.symm ?_
    rintro ⟨s, hs, -⟩
    cases hs
  · rw [hv] at hread
    obtain ⟨s, hs, hof⟩ := map_eq_ok_iff.mp hread
    obtain rfl := Json.getString_eq_ok_iff.mp hs
    rw [← hof]
    constructor
    · intro heq
      exact ⟨s, rfl, heq⟩
    · rintro ⟨s', hs', heq⟩
      obtain rfl := Json.string.inj (Option.some.inj hs')
      exact heq

theorem Relation.rel_type_eq_unsupported_iff {obj : Json} {r : Relation}
    (h : Relation.fromJson obj = .ok r) : r.rel_type = .unsupported ↔
      ∀ s, obj.find? "rel_type" = some (.string s) → RelationType.ofStr s = .unsupported := by
  constructor
  · intro htype s hs
    by_contra hof
    have heq := (Relation.rel_type_eq_iff h hof).mpr ⟨s, hs, rfl⟩
    exact hof (heq.symm.trans htype)
  · intro hall
    by_contra htype
    obtain ⟨s, hs, hof⟩ := (Relation.rel_type_eq_iff h htype).mp rfl
    exact htype (hof.symm.trans (hall s hs))

/-- A reply of which `rel_type` says that it belongs to a thread. -/
def InThread (relates_to : Json) : Prop :=
  relates_to.find? "rel_type" = some (.string "m.thread") ∧ relates_to.contains "event_id" = true

theorem parseReply_eq (v : Json) : parseReply v = (do
    let reply ← v.atKey "m.in_reply_to"
    let id ← reply.atKey "event_id"
    let event_id ← id.getString
    if (v.find? "rel_type").any (fun t ↦ t.eqString "m.thread" && v.contains "event_id") then
      let is_fallback ← v.value "is_falling_back" Json.getBool false
      let thread ← Relation.fromJson v
      return { relations := [thread, { rel_type := .inReplyTo, event_id, is_fallback }],
               synthesized := true }
    else
      return { relations := [{ rel_type := .inReplyTo, event_id }], synthesized := true }) := by
  rw [parseReply]
  rcases v.find? "rel_type" with - | t <;> rfl

theorem parseReply_eq_ok_iff {v : Json} {rels : Relations} : parseReply v = .ok rels ↔
    ∃ event_id, (v.find? "m.in_reply_to").bind (·.find? "event_id") = some (.string event_id) ∧
      (InThread v → ∃ is_fallback thread,
        v.value "is_falling_back" Json.getBool false = .ok is_fallback ∧
        Relation.fromJson v = .ok thread ∧ rels = { relations := [thread,
          { rel_type := .inReplyTo, event_id, is_fallback }], synthesized := true }) ∧
      (¬ InThread v → rels =
        { relations := [{ rel_type := .inReplyTo, event_id }], synthesized := true }) := by
  have hthread : (v.find? "rel_type").any (fun t ↦
      t.eqString "m.thread" && v.contains "event_id") = true ↔ InThread v := by
    simp [InThread, Option.any_eq_true, eqString_iff]
  have hid : ∀ event_id : Str,
      (v.find? "m.in_reply_to").bind (·.find? "event_id") = some (.string event_id) ↔
        ∃ reply, v.atKey "m.in_reply_to" = .ok reply ∧
          ∃ e, reply.atKey "event_id" = .ok e ∧ e.getString = .ok event_id := by
    intro event_id
    simp only [Option.bind_eq_some_iff, Json.atKey_eq_ok_iff, Json.getString_eq_ok_iff]
    constructor
    · rintro ⟨reply, hreply, he⟩
      exact ⟨reply, hreply, _, he, rfl⟩
    · rintro ⟨reply, hreply, _, he, rfl⟩
      exact ⟨reply, hreply, he⟩
  rw [parseReply_eq]
  simp only [bind_eq_ok_iff, hid]
  constructor
  · rintro ⟨reply, hreply, e, he, event_id, hs, h⟩
    refine ⟨event_id, ⟨reply, hreply, e, he, hs⟩, ?_⟩
    by_cases hin : InThread v
    · rw [if_pos (hthread.mpr hin)] at h
      simp only [bind_eq_ok_iff] at h
      obtain ⟨is_fallback, hfallback, thread, hread, h⟩ := h
      exact ⟨fun _ ↦ ⟨is_fallback, thread, hfallback, hread, (Except.ok.inj h).symm⟩,
        fun hno ↦ absurd hin hno⟩
    · rw [if_neg (mt hthread.mp hin)] at h
      exact ⟨fun hin' ↦ absurd hin' hin, fun _ ↦ (Except.ok.inj h).symm⟩
  · rintro ⟨event_id, ⟨reply, hreply, e, he, hs⟩, hyes, hno⟩
    refine ⟨reply, hreply, e, he, event_id, hs, ?_⟩
    by_cases hin : InThread v
    · obtain ⟨is_fallback, thread, hfallback, hread, rfl⟩ := hyes hin
      rw [if_pos (hthread.mpr hin), hfallback, ok_bind, hread]
      rfl
    · rw [if_neg (mt hthread.mp hin), hno hin]
      rfl

section

variable {content v : Json} (hlist : content.find? "im.nheko.relations.v1.relations" = none)
  (hv : content.find? "m.relates_to" = some v)

include hlist hv

theorem parseRelations_of_reply (hreply : v.contains "m.in_reply_to" = true) :
    parseRelations content = parseReply v := by
  rw [parseRelations, hlist, hv]
  exact if_pos hreply

theorem parseRelations_of_relation (hreply : v.find? "m.in_reply_to" = none) {r : Relation}
    (hr : Relation.fromJson v = .ok r) (htype : r.rel_type ≠ .replace) :
    parseRelations content = .ok { relations := [r], synthesized := true } := by
  rw [parseRelations, hlist, hv]
  simp only [Json.contains, hreply, hr, ok_bind, if_neg htype]
  rfl

end

end Mtx.Events
