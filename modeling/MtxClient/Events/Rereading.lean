import MtxClient.Events.ApplyRelations
import MtxClient.Events.StateContents

/-!
# Contents that can be read again

A content that was written to an event can be read from it again.  For the contents without
relations, what is written has no `m.new_content` and goes back to their own `from_json`.  For those
with relations, `applyRelations_spec` leaves an object with the members of the content and well
formed relation data, so that for each of them only its own members have to be looked up.
-/

set_option autoImplicit false

namespace Mtx.Events

open Str

/-- The instance of a content with relations, whose `to_json` can throw. -/
@[reducible] def EventContent.ofRelated {C : Type} (fromJson : Json → Except Exn C)
    (toJson : C → Except Exn Json) (default : C) : EventContent C where
  fromJson
  toJson c := (toJson c).toOption.getD .null
  default
  canEdit := true
  canEdit_of_isEncrypted _ := rfl

variable (C : Type) [EventContent C]

/-- What `from_json(Event<Content>)` makes of the value of `content`. -/
def contentFrom (content : Json) : Except Exn C := do
  if !EventContent.isEncrypted C && content.contains "m.new_content" then
    EventContent.fromJson (← mergeNewContent content)
  else if content.isObject then
    EventContent.fromJson content
  else
    return EventContent.default

theorem readContent_eq (obj : Json) :
    readContent C obj = obj.atKey "content" >>= contentFrom C := rfl

variable {C}

/-- An object that is not encrypted is read from its effective content. -/
theorem contentFrom_eq (hC : EventContent.isEncrypted C = false) {content : Json}
    (hobj : content.isObject = true) :
    contentFrom C content = effectiveContent content >>= EventContent.fromJson := by
  rw [contentFrom, effectiveContent, hC, hobj]
  by_cases hnew : content.contains "m.new_content" = true
  · rw [hnew]
    rfl
  · rw [Bool.eq_false_iff.mpr hnew]
    rfl

theorem contentFrom_of_effective (hC : EventContent.isEncrypted C = false) {content r : Json}
    (hobj : content.isObject = true) (h : effectiveContent content = .ok r) :
    contentFrom C content = EventContent.fromJson r := by
  rw [contentFrom_eq hC hobj, h, ok_bind]

theorem succeeds_contentFrom_of_not_object {content : Json} (hobj : content.isObject = false) :
    Succeeds (contentFrom C content) := by
  have hnew : content.contains "m.new_content" = false := by
    rw [Json.contains_eq_false_iff]
    rcases Option.eq_none_or_eq_some (content.find? "m.new_content") with h | ⟨v, h⟩
    · exact h
    · rw [Json.isObject_of_find? h] at hobj
      cases hobj
  simp [contentFrom, hnew, hobj]

/-- A content that is written without a replacement is read by its own `from_json`. -/
theorem contentFrom_of_fromJson {content : Json} {c : C}
    (hnew : content.find? "m.new_content" = none) (hobj : content.isObject = true)
    (hread : EventContent.fromJson content = .ok c) : contentFrom C content = .ok c := by
  rw [contentFrom, Json.contains_eq_false_iff.mpr hnew, hobj, ← hread]
  simp

/-- A content without relations, whose `to_json` writes no `m.new_content`. -/
theorem succeeds_contentFrom {content : Json} (hnew : content.find? "m.new_content" = none)
    (h : Succeeds (EventContent.fromJson (C := C) content)) : Succeeds (contentFrom C content) := by
  rw [contentFrom, Json.contains_eq_false_iff.mpr hnew]
  by_cases hobj : content.isObject = true
  · simpa [hobj] using h
  · simp [hobj]

/-! ## Contents with relations -/

/-- The value that a content is written to before its relations are, and one that it is read from
after them. -/
structure SameMembers (base r : Json) : Prop where
  isObject : base.isObject = true → r.isObject = true
  find? : ∀ k, isRelationKey k = false → r.find? k = base.find? k
  relations : ReadableRelations r

theorem SameMembers.parseRelations {base r : Json} (h : SameMembers base r) :
    ∃ rels, parseRelations r = .ok rels := (succeeds_parseRelations_iff r).mpr h.relations

theorem SameMembers.parseMentions {base r : Json} (h : SameMembers base r)
    {m : Option Mentions} (hbase : base.find? "m.mentions" = m.map Mentions.toJson) :
    parseMentions r = .ok m :=
  parseMentions_of_find? ((h.find? _ (by decide)).trans hbase)

/-- Members that have other keys make a plain content. -/
theorem plain_ofMembers {m : SortedMap Str Json}
    (hkeys : m.find? "m.relates_to" = none ∧ m.find? "im.nheko.relations.v1.relations" = none ∧
      m.find? "m.new_content" = none)
    (hbody : ∀ v, m.find? "body" = some v → ∃ s, v = .string s)
    (hformatted : ∀ v, m.find? "formatted_body" = some v → ∃ s, v = .string s) :
    Plain (Json.ofMembers m) where
  shape := by
    rw [Json.ofMembers]
    split
    · exact Or.inl rfl
    · exact Or.inr rfl
  sorted := Json.sortedKeys_ofMembers m
  noRelation k hk := by
    rw [Json.find?_ofMembers]
    rcases isRelationKey_iff.mp hk with rfl | rfl | rfl
    · exact hkeys.1
    · exact hkeys.2.1
    · exact hkeys.2.2
  body v hv := hbody v (by rwa [Json.find?_ofMembers] at hv)
  formatted_body v hv := hformatted v (by rwa [Json.find?_ofMembers] at hv)

/-- **A content with relations can be written, and read again.** -/
theorem rereads {base : Json} (hplain : Plain base) (rels : Relations)
    (hC : EventContent.isEncrypted C = false)
    (hread : ∀ r, SameMembers base r → Succeeds (EventContent.fromJson (C := C) r)) :
    ∃ j, applyRelations base rels = .ok j ∧ (base.isObject = true → j.isObject = true) ∧
      (∀ k, isRelationKey k = false → k ≠ "body" → k ≠ "formatted_body" →
        j.find? k = base.find? k) ∧ Succeeds (contentFrom C j) := by
  obtain ⟨j, r, hj, h⟩ := applyRelations_spec hplain rels
  refine ⟨j, hj, h.isObject, h.outer, ?_⟩
  by_cases hobj : j.isObject = true
  · rw [contentFrom_of_effective hC hobj h.effective]
    exact hread r ⟨h.isObject_effective, h.inner, h.relations⟩
  · exact succeeds_contentFrom_of_not_object (by simpa using hobj)

end Mtx.Events
