import MtxClient.Events.Edits
import MtxClient.Events.ApplyRelations
import MtxClient.Json.WellFormed

/-!
# Merging an edited content

`mergeNewContent` fails if it has to assign a member of something that is no object.  `Mergeable`
says when it does not, and `find?_merged` what is in the result.
-/

set_option autoImplicit false

namespace Mtx

open Str

namespace Json

variable {j j' v : Json} {k : Str} {ks : List Str}

/-- Members can be assigned. -/
abbrev Assignable (j : Json) : Prop := j = null ∨ j.isObject = true

/-- `obj[key]`, before something is assigned to it. -/
def member (j : Json) (k : Str) : Json := (j.find? k).getD null

theorem member_of_find? (h : j.find? k = some v) : j.member k = v := by
  rw [member, h]
  rfl

theorem member_of_find?_none (h : j.find? k = none) : j.member k = null := by
  rw [member, h]
  rfl

theorem find?_of_not_assignable (h : ¬ j.Assignable) (k : Str) : j.find? k = none := by
  obtain hv | ⟨v, hv⟩ := Option.eq_none_or_eq_some (j.find? k)
  · exact hv
  · exact absurd (Or.inr (isObject_of_find? hv)) h

theorem setPath_cons_eq_ok_iff : j.setPath (k :: ks) v = .ok j' ↔
    j.Assignable ∧ ∃ c, (j.member k).setPath ks v = .ok c ∧ j' = j.put k c := by
  by_cases h : j.Assignable
  · rw [Events.setPath_eq h, and_iff_right h]
    constructor
    · intro h'
      obtain ⟨c, hc, heq⟩ := map_eq_ok_iff.mp h'
      exact ⟨c, hc, heq.symm⟩
    · rintro ⟨c, hc, rfl⟩
      exact map_eq_ok_iff.mpr ⟨c, hc, rfl⟩
  · refine iff_of_false ?_ fun h' ↦ h h'.1
    rcases j with - | b | i | u | f | s | xs | ms
    case null => exact absurd (Or.inl rfl) h
    case object => exact absurd (Or.inr rfl) h
    all_goals
      intro h'
      cases h'

theorem copyMember_eq_ok_iff {src dst : Json} : src.copyMember dst k = .ok j ↔
    (src.contains k = true → dst.Assignable) ∧ j = Events.copied src dst k := by
  rw [copyMember, Events.copied, contains]
  rcases src.find? k with - | v
  · simp [eq_comm]
  · simp [set_eq_ok_iff]

end Json

namespace Events

/-- `mergeNewContent` can assign the members of `m.new_content` that it assigns. -/
structure Mergeable (content newContent : Json) : Prop where
  relates_to : content.contains "m.relates_to" = true → newContent.Assignable
  list : content.contains "im.nheko.relations.v1.relations" = true → newContent.Assignable
  nested : newContent.contains "m.relates_to" = true →
    (newContent.member "m.new_content").Assignable

/-- The edited content before the list of relations is copied into it. -/
def mergedRelation (content newContent : Json) : Json :=
  match newContent.find? "m.relates_to" with
  | some r => (copied content newContent "m.relates_to").put "m.new_content"
      ((newContent.member "m.new_content").put "m.relates_to" r)
  | none => copied content newContent "m.relates_to"

/-- What `mergeNewContent` makes of the content. -/
def merged (content newContent : Json) : Json :=
  copied content (mergedRelation content newContent) "im.nheko.relations.v1.relations"

variable {content newContent : Json}

theorem member_copied (h : content.contains "m.relates_to" = true → newContent.Assignable) :
    (copied content newContent "m.relates_to").member "m.new_content" =
      newContent.member "m.new_content" := by
  by_cases hn : newContent.Assignable
  · rw [Json.member, find?_copied hn, if_neg (by simp), Json.member]
  · have hno : content.find? "m.relates_to" = none :=
      Json.contains_eq_false_iff.mp (by simpa using fun hc ↦ hn (h hc))
    rw [copied, hno]

/-- **Merging fails only where a member cannot be assigned.** -/
theorem mergeNewContent_eq_ok_iff (hn : content.find? "m.new_content" = some newContent)
    {m : Json} : mergeNewContent content = .ok m ↔
      Mergeable content newContent ∧ m = merged content newContent := by
  rw [mergeNewContent, Json.atKey_of_find? hn, ok_bind, merged, mergedRelation]
  by_cases hassign : newContent.Assignable
  · have hcopied : (copied content newContent "m.relates_to").Assignable := copied_shape hassign
    rw [copyMember_eq_ok hassign, ok_bind]
    obtain hr | ⟨r, hr⟩ := Option.eq_none_or_eq_some (newContent.find? "m.relates_to")
    · have hmergeable : Mergeable content newContent :=
        ⟨fun _ ↦ hassign, fun _ ↦ hassign, fun h ↦ by rw [Json.contains, hr] at h; cases h⟩
      rw [hr, and_iff_right hmergeable]
      dsimp only
      rw [pure_bind, copyMember_eq_ok hcopied, Except.ok.injEq, eq_comm]
    · have hcontains : newContent.contains "m.relates_to" = true := by
        rw [Json.contains, hr]
        rfl
      rw [hr]
      dsimp only
      constructor
      · intro h
        obtain ⟨_, hpath, hm⟩ := bind_eq_ok_iff.mp h
        obtain ⟨-, _, hinner, rfl⟩ := Json.setPath_cons_eq_ok_iff.mp hpath
        obtain ⟨hnested, _, hlast, rfl⟩ := Json.setPath_cons_eq_ok_iff.mp hinner
        cases hlast
        rw [member_copied fun _ ↦ hassign] at hnested hm
        rw [copyMember_eq_ok (Or.inr (Json.isObject_put hcopied _ _))] at hm
        exact ⟨⟨fun _ ↦ hassign, fun _ ↦ hassign, fun _ ↦ hnested⟩, (Except.ok.inj hm).symm⟩
      · rintro ⟨hmergeable, rfl⟩
        have hpath : (copied content newContent "m.relates_to").setPath
            ["m.new_content", "m.relates_to"] r =
              .ok ((copied content newContent "m.relates_to").put "m.new_content"
                ((newContent.member "m.new_content").put "m.relates_to" r)) := by
          refine Json.setPath_cons_eq_ok_iff.mpr ⟨hcopied, _, ?_, rfl⟩
          rw [member_copied fun _ ↦ hassign]
          exact Json.setPath_cons_eq_ok_iff.mpr ⟨hmergeable.nested hcontains, _, rfl, rfl⟩
        rw [hpath, ok_bind]
        exact copyMember_eq_ok (Or.inr (Json.isObject_put hcopied _ _))
  · -- there is nothing to copy
    have hr : newContent.find? "m.relates_to" = none := Json.find?_of_not_assignable hassign _
    rw [hr]
    dsimp only
    constructor
    · intro h
      obtain ⟨_, hfirst, hlast⟩ := bind_eq_ok_iff.mp h
      obtain ⟨hrelates, rfl⟩ := Json.copyMember_eq_ok_iff.mp hfirst
      rw [pure_bind] at hlast
      obtain ⟨hlist, rfl⟩ := Json.copyMember_eq_ok_iff.mp hlast
      have hnone : content.find? "m.relates_to" = none :=
        Json.contains_eq_false_iff.mp (by simpa using fun hc ↦ hassign (hrelates hc))
      rw [copied, hnone] at hlist
      refine ⟨⟨hrelates, hlist, fun h ↦ ?_⟩, rfl⟩
      rw [Json.contains, hr] at h
      cases h
    · rintro ⟨hmergeable, rfl⟩
      have hnone : content.find? "m.relates_to" = none :=
        Json.contains_eq_false_iff.mp (by simpa using fun hc ↦ hassign (hmergeable.relates_to hc))
      rw [Json.copyMember_eq_ok_iff.mpr ⟨hmergeable.relates_to, rfl⟩, ok_bind, pure_bind]
      refine Json.copyMember_eq_ok_iff.mpr ⟨fun hc ↦ ?_, rfl⟩
      rw [copied, hnone]
      exact hmergeable.list hc

/-! ## What is in a merged content -/

theorem assignable_mergedRelation (h : newContent.Assignable) :
    (mergedRelation content newContent).Assignable := by
  rw [mergedRelation]
  split
  · exact Or.inr (Json.isObject_put (copied_shape h) _ _)
  · exact copied_shape h

theorem find?_mergedRelation (h : newContent.Assignable) {k : Str} (hk : k ≠ "m.new_content") :
    (mergedRelation content newContent).find? k =
      (copied content newContent "m.relates_to").find? k := by
  rw [mergedRelation]
  split
  · rw [Json.find?_put (copied_shape h), if_neg hk]
  · rfl

theorem find?_copied_self {k : Str} (h : newContent.Assignable) :
    (copied content newContent k).find? k = (content.find? k).or (newContent.find? k) := by
  rw [find?_copied h, Json.contains]
  rcases content.find? k with - | v <;> simp

theorem find?_copied_of_ne {k k' : Str} (h : newContent.Assignable) (hk : k' ≠ k) :
    (copied content newContent k).find? k' = newContent.find? k' := by
  rw [find?_copied h, if_neg fun h' ↦ hk h'.1]

namespace Mergeable

variable (h : Mergeable content newContent)

include h

/-- Into something that is no object nothing is copied. -/
theorem assignable_or : newContent.Assignable ∨ merged content newContent = newContent ∧
    (∀ k, newContent.find? k = none) ∧ content.find? "m.relates_to" = none ∧
      content.find? "im.nheko.relations.v1.relations" = none := by
  by_cases hassign : newContent.Assignable
  · exact Or.inl hassign
  · have hfind := Json.find?_of_not_assignable hassign
    have hrelates : content.find? "m.relates_to" = none :=
      Json.contains_eq_false_iff.mp (by simpa using fun hc ↦ hassign (h.relates_to hc))
    have hlist : content.find? "im.nheko.relations.v1.relations" = none :=
      Json.contains_eq_false_iff.mp (by simpa using fun hc ↦ hassign (h.list hc))
    refine Or.inr ⟨?_, hfind, hrelates, hlist⟩
    rw [merged, mergedRelation, hfind, copied, copied, hrelates, hlist]

theorem find?_relates_to : (merged content newContent).find? "m.relates_to" =
    (content.find? "m.relates_to").or (newContent.find? "m.relates_to") := by
  rcases h.assignable_or with hassign | ⟨hmerged, hfind, hrelates, -⟩
  · rw [merged, find?_copied_of_ne (assignable_mergedRelation hassign) (by simp),
      find?_mergedRelation hassign (by simp), find?_copied_self hassign]
  · rw [hmerged, hrelates, hfind]
    rfl

theorem find?_list : (merged content newContent).find? "im.nheko.relations.v1.relations" =
    (content.find? "im.nheko.relations.v1.relations").or
      (newContent.find? "im.nheko.relations.v1.relations") := by
  rcases h.assignable_or with hassign | ⟨hmerged, hfind, -, hlist⟩
  · rw [merged, find?_copied_self (assignable_mergedRelation hassign),
      find?_mergedRelation hassign (by simp), find?_copied_of_ne hassign (by simp)]
  · rw [hmerged, hlist, hfind]
    rfl

/-- A relation of its own is moved one level down. -/
theorem find?_new_content : (merged content newContent).find? "m.new_content" =
    match newContent.find? "m.relates_to" with
    | some r => some ((newContent.member "m.new_content").put "m.relates_to" r)
    | none => newContent.find? "m.new_content" := by
  rcases h.assignable_or with hassign | ⟨hmerged, hfind, -, -⟩
  · rw [merged, find?_copied_of_ne (assignable_mergedRelation hassign) (by simp),
      mergedRelation]
    rcases newContent.find? "m.relates_to" with - | r
    · exact find?_copied_of_ne hassign (by simp)
    · exact (Json.find?_put (copied_shape hassign) _ _ _).trans (if_pos rfl)
  · rw [hmerged, hfind, hfind]

theorem find?_ordinary {k : Str} (hk : isRelationKey k = false) :
    (merged content newContent).find? k = newContent.find? k := by
  rcases h.assignable_or with hassign | ⟨hmerged, -, -, -⟩
  · rw [merged, find?_copied_of_ne (assignable_mergedRelation hassign)
        (isRelationKey_ne hk (by decide)),
      find?_mergedRelation hassign (isRelationKey_ne hk (by decide)),
      find?_copied_of_ne hassign (isRelationKey_ne hk (by decide))]
  · rw [hmerged]

end Mergeable

/-- A merged content has what the one that it is made of has with its members. -/
theorem mergeNewContent_hereditary {K : Str → Prop} {P : Json → Prop} (H : Json.Hereditary K P)
    (hkeys : ∀ k, isRelationKey k = true → K k) {m : Json} (h : P content)
    (hm : mergeNewContent content = .ok m) : P m := by
  obtain ⟨n, hn, hm⟩ := bind_eq_ok_iff.mp hm
  have hn := H.find? h (Json.atKey_eq_ok_iff.mp hn)
  obtain ⟨m₁, h₁, hm⟩ := bind_eq_ok_iff.mp hm
  have h₁ := H.copyMember h hn (hkeys _ (by decide)) h₁
  rcases hr : n.find? "m.relates_to" with - | r
  · rw [hr] at hm
    exact H.copyMember h h₁ (hkeys _ (by decide)) hm
  · rw [hr] at hm
    obtain ⟨m₂, h₂, hm⟩ := bind_eq_ok_iff.mp hm
    have h₂ := H.setPath h₁ (fun k hk ↦ hkeys k ?_) (H.find? hn hr) h₂
    · exact H.copyMember h h₂ (hkeys _ (by decide)) hm
    · rcases List.mem_pair.mp hk with rfl | rfl <;> decide

theorem validUtf8_of_isRelationKey {k : Str} (h : isRelationKey k = true) :
    validUtf8 k = true := by
  rcases isRelationKey_iff.mp h with rfl | rfl | rfl <;> decide

theorem wf_mergeNewContent {m : Json} (h : content.wf = true)
    (hm : mergeNewContent content = .ok m) : m.wf = true :=
  mergeNewContent_hereditary Json.hereditary_wf (fun _ ↦ validUtf8_of_isRelationKey) h hm

theorem sorted_mergeNewContent {m : Json} (h : content.sorted = true)
    (hm : mergeNewContent content = .ok m) : m.sorted = true :=
  mergeNewContent_hereditary Json.hereditary_sorted (fun _ _ ↦ trivial) h hm

end Events

end Mtx
