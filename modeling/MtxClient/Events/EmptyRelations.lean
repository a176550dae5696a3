import MtxClient.Events.Encrypted
import MtxClient.Events.Messages

/-!
# Contents without relation data

`emptyRelations` takes the relation data out of a content: what stands in `m.relates_to` and in the
list of this library becomes empty, there and in the edited content.  Everything else is as it was,
so that a content that can be read without the data and not with it has no other defect.

`succeeds_contentFrom_iff` says for the contents with relations that such a content is read exactly
when its relation data can be read.
-/

set_option autoImplicit false

namespace Mtx.Events

open Str

/-! ## Empty relation data -/

/-- A value with other members under the same keys. -/
def mapMembers (f : Str → Json → Json) : Json → Json
  | .object ms => .object (AssocList.mapWithKey f ms)
  | j => j

/-- The members of a content with nothing in its relation data. -/
def emptyMember (newContent : Json → Json) (k : Str) (v : Json) : Json :=
  if k = "m.relates_to" then .object []
  else if k = "im.nheko.relations.v1.relations" then .array []
  else if k = "m.new_content" then newContent v
  else v

/-- A content with nothing in its relation data, also in that of the edited content and further
down to a depth. -/
def emptyRelations : ℕ → Json → Json
  | 0, j => j
  | depth + 1, j => mapMembers (emptyMember (emptyRelations depth)) j

variable {f : Str → Json → Json}

@[simp] theorem find?_mapMembers (j : Json) (k : Str) :
    (mapMembers f j).find? k = (j.find? k).map (f k) := by
  rcases j with - | b | i | u | d | s | xs | ms
  case object => exact AssocList.find?_mapWithKey f k ms
  all_goals rfl

@[simp] theorem isObject_mapMembers (j : Json) : (mapMembers f j).isObject = j.isObject := by
  cases j <;> rfl

@[simp] theorem isNull_mapMembers (j : Json) : (mapMembers f j).isNull = j.isNull := by
  cases j <;> rfl

theorem set_mapMembers (j : Json) (k : Str) (v : Json) :
    (mapMembers f j).set k (f k v) = mapMembers f <$> j.set k v := by
  rcases j with - | b | i | u | d | s | xs | ms
  case object =>
    exact congrArg (Except.ok ∘ Json.object) (AssocList.mapWithKey_insert f k v ms).symm
  all_goals rfl

theorem setPath_singleton (j : Json) (k : Str) (v : Json) : j.setPath [k] v = j.set k v := by
  cases j <;> rfl

theorem put_mapMembers (j : Json) (k : Str) (v : Json) :
    (mapMembers f j).put k (f k v) = mapMembers f (j.put k v) := by
  rcases j with - | b | i | u | d | s | xs | ms
  case object => exact congrArg Json.object (AssocList.mapWithKey_insert f k v ms).symm
  all_goals rfl

/-- An assignment two levels deep. -/
theorem setPath_mapMembers {k k' : Str} {v v' : Json} (hnull : f k .null = .null)
    (h : ∀ child : Json, (f k child).set k' v' = f k <$> child.set k' v) (j : Json) :
    (mapMembers f j).setPath [k, k'] v' = mapMembers f <$> j.setPath [k, k'] v := by
  by_cases hj : j = .null ∨ j.isObject = true
  · have hj' : mapMembers f j = .null ∨ (mapMembers f j).isObject = true := by
      rw [isObject_mapMembers]
      exact hj.imp_left (congrArg (mapMembers f))
    have hchild : f k ((j.find? k).getD .null) = ((mapMembers f j).find? k).getD .null := by
      rw [find?_mapMembers]
      rcases j.find? k with - | child
      · exact hnull
      · rfl
    rw [setPath_eq hj, setPath_eq hj', ← hchild, setPath_singleton, setPath_singleton, h]
    rcases ((j.find? k).getD .null).set k' v with err | child
    · rfl
    · exact congrArg Except.ok (put_mapMembers j k child)
  · rcases j with - | b | i | u | d | s | xs | ms
    case null => exact absurd (Or.inl rfl) hj
    case object => exact absurd (Or.inr rfl) hj
    all_goals rfl

theorem atKey_mapMembers (j : Json) (k : Str) : (mapMembers f j).atKey k = f k <$> j.atKey k := by
  rw [Json.atKey_eq, Json.atKey_eq, find?_mapMembers, isObject_mapMembers]
  rcases j.find? k with - | v <;> rfl

theorem copyMember_mapMembers {f' : Str → Json → Json} {k : Str} (h : f k = f' k) (src dst : Json) :
    Json.copyMember (mapMembers f src) (mapMembers f' dst) k =
      mapMembers f' <$> Json.copyMember src dst k := by
  rw [Json.copyMember, Json.copyMember, find?_mapMembers, h]
  rcases src.find? k with - | v
  · rfl
  · exact set_mapMembers dst k v

/-- The content of an edit is put together alike. -/
theorem mergeNewContent_emptyRelations (depth : ℕ) (content : Json) :
    mergeNewContent (emptyRelations (depth + 3) content) =
      emptyRelations (depth + 2) <$> mergeNewContent content := by
  have hcopy : ∀ (k : Str) (m : Json), isRelationKey k = true → k ≠ "m.new_content" →
      Json.copyMember (emptyRelations (depth + 3) content) (emptyRelations (depth + 2) m) k =
        emptyRelations (depth + 2) <$> Json.copyMember content m k := fun k m hk hnew ↦ by
    refine copyMember_mapMembers ?_ content m
    rcases isRelationKey_iff.mp hk with rfl | rfl | rfl
    · rfl
    · rfl
    · exact absurd rfl hnew
  rw [mergeNewContent, mergeNewContent, emptyRelations, atKey_mapMembers, ← emptyRelations]
  rcases content.atKey "m.new_content" with err | n
  · rfl
  · have hn : emptyMember (emptyRelations (depth + 2)) "m.new_content" n =
        emptyRelations (depth + 2) n := rfl
    have hfind : (emptyRelations (depth + 2) n).find? "m.relates_to" =
        (n.find? "m.relates_to").map fun _ ↦ .object [] := find?_mapMembers n _
    rw [Except.map_ok, ok_bind, ok_bind, hn, hcopy _ n rfl (by simp), hfind]
    rcases Json.copyMember content n "m.relates_to" with err | m
    · rfl
    · rcases n.find? "m.relates_to" with - | r
      · exact hcopy _ m rfl (by simp)
      · have hpath : (emptyRelations (depth + 2) m).setPath ["m.new_content", "m.relates_to"]
            (.object []) = emptyRelations (depth + 2) <$>
              m.setPath ["m.new_content", "m.relates_to"] r :=
          setPath_mapMembers rfl (fun child ↦ set_mapMembers child _ r) m
        simp only [Except.map_ok, ok_bind, Option.map_some, hpath]
        rcases m.setPath ["m.new_content", "m.relates_to"] r with err | m'
        · rfl
        · exact hcopy _ m' rfl (by simp)

theorem find?_emptyRelations {k : Str} (hk : isRelationKey k = false) (depth : ℕ) (j : Json) :
    (emptyRelations depth j).find? k = j.find? k := by
  rcases depth with - | depth
  · rfl
  · have hmember : emptyMember (emptyRelations depth) k = id := by
      funext v
      rw [emptyMember, if_neg, if_neg, if_neg]
      · rfl
      all_goals
        rintro rfl
        simp [isRelationKey] at hk
    rw [emptyRelations, find?_mapMembers, hmember, Option.map_id_fun, id]

@[simp] theorem isObject_emptyRelations (depth : ℕ) (j : Json) :
    (emptyRelations depth j).isObject = j.isObject := by
  rcases depth with - | depth
  · rfl
  · exact isObject_mapMembers j

theorem readableRelations_emptyRelations (depth : ℕ) (j : Json) :
    ReadableRelations (emptyRelations (depth + 1) j) := by
  rw [ReadableRelations, emptyRelations, find?_mapMembers, find?_mapMembers]
  rcases j.find? "im.nheko.relations.v1.relations" with - | list
  · rcases j.find? "m.relates_to" with - | relates_to
    · rintro r ⟨⟩
    · rintro r ⟨⟩
      refine ⟨⟨?_, ?_, ?_, ?_⟩, fun h ↦ ?_⟩
      · rintro v ⟨⟩
      · rintro v ⟨⟩
      · rintro v ⟨⟩
      · rintro v ⟨⟩
      · cases h
  · refine ⟨[], rfl, ?_⟩
    rintro v ⟨⟩

section

variable {k : Str} (depth : ℕ) (j : Json)

theorem atKey_emptyRelations (hk : isRelationKey k = false) :
    (emptyRelations depth j).atKey k = j.atKey k :=
  Json.atKey_congr (isObject_emptyRelations depth j) (find?_emptyRelations hk depth j)

theorem value_emptyRelations {α : Type} (hk : isRelationKey k = false)
    (get : Json → Except Exn α) (d : α) :
    (emptyRelations depth j).value k get d = j.value k get d :=
  Json.value_congr (isObject_emptyRelations depth j) (find?_emptyRelations hk depth j) get d

theorem optional_emptyRelations {α : Type} (hk : isRelationKey k = false)
    (get : Json → Except Exn α) (d : α) :
    (emptyRelations depth j).optional k get d = j.optional k get d :=
  Json.optional_congr (find?_emptyRelations hk depth j) get d

end

/-- A content of which nothing but the relations is read from the relation data. -/
def DefectsAreRelations {C : Type} (fromJson : Json → Except Exn C) : Prop :=
  ∀ depth r, Succeeds (fromJson (emptyRelations (depth + 1) r)) →
    (Succeeds (fromJson r) ↔ Succeeds (parseRelations r))

theorem succeeds_parseRelations_emptyRelations (depth : ℕ) (r : Json) :
    ∃ rels, parseRelations (emptyRelations (depth + 1) r) = .ok rels :=
  (succeeds_parseRelations_iff _).mpr (readableRelations_emptyRelations depth r)

namespace Msg

theorem Formatted.defectsAreRelations : DefectsAreRelations Formatted.fromJson := fun depth r h ↦ by
  obtain ⟨rels, hrels⟩ := succeeds_parseRelations_emptyRelations depth r
  simp (disch := decide) only [Formatted.fromJson, parseMentions, atKey_emptyRelations,
    optional_emptyRelations, hrels, ok_bind] at h ⊢
  rcases parseRelations r with err | rels'
  · simp [succeeds_bind_iff]
  · simpa [succeeds_bind_iff, exists_eq_ok_iff] using h

theorem Audio.defectsAreRelations : DefectsAreRelations Audio.fromJson := fun depth r h ↦ by
  obtain ⟨rels, hrels⟩ := succeeds_parseRelations_emptyRelations depth r
  simp (disch := decide) only [Audio.fromJson, readFile, parseMentions, atKey_emptyRelations,
    optional_emptyRelations, hrels, ok_bind] at h ⊢
  rcases parseRelations r with err | rels'
  · simp [succeeds_bind_iff]
  · simpa [succeeds_bind_iff, exists_eq_ok_iff] using h

theorem File.defectsAreRelations : DefectsAreRelations File.fromJson := fun depth r h ↦ by
  obtain ⟨rels, hrels⟩ := succeeds_parseRelations_emptyRelations depth r
  simp (disch := decide) only [File.fromJson, readFile, parseMentions, atKey_emptyRelations,
    optional_emptyRelations, hrels, ok_bind] at h ⊢
  rcases parseRelations r with err | rels'
  · simp [succeeds_bind_iff]
  · simpa [succeeds_bind_iff, exists_eq_ok_iff] using h

theorem Image.defectsAreRelations : DefectsAreRelations Image.fromJson := fun depth r h ↦ by
  obtain ⟨rels, hrels⟩ := succeeds_parseRelations_emptyRelations depth r
  simp (disch := decide) only [Image.fromJson, readFile, parseMentions, atKey_emptyRelations,
    value_emptyRelations, optional_emptyRelations, hrels, ok_bind] at h ⊢
  rcases parseRelations r with err | rels'
  · simp [succeeds_bind_iff]
  · simpa [succeeds_bind_iff, exists_eq_ok_iff] using h

theorem StickerImage.defectsAreRelations : DefectsAreRelations StickerImage.fromJson :=
    fun depth r h ↦ by
  obtain ⟨rels, hrels⟩ := succeeds_parseRelations_emptyRelations depth r
  simp (disch := decide) only [StickerImage.fromJson, readFile, parseMentions,
    value_emptyRelations, optional_emptyRelations, hrels, ok_bind] at h ⊢
  rcases parseRelations r with err | rels'
  · simp [succeeds_bind_iff]
  · simpa [succeeds_bind_iff, exists_eq_ok_iff] using h

theorem Location.defectsAreRelations : DefectsAreRelations Location.fromJson := fun depth r h ↦ by
  obtain ⟨rels, hrels⟩ := succeeds_parseRelations_emptyRelations depth r
  simp (disch := decide) only [Location.fromJson, atKey_emptyRelations, optional_emptyRelations,
    hrels, ok_bind] at h ⊢
  rcases parseRelations r with err | rels'
  · simp [succeeds_bind_iff]
  · simpa [succeeds_bind_iff, exists_eq_ok_iff] using h

theorem Video.defectsAreRelations : DefectsAreRelations Video.fromJson := fun depth r h ↦ by
  obtain ⟨rels, hrels⟩ := succeeds_parseRelations_emptyRelations depth r
  simp (disch := decide) only [Video.fromJson, readFile, parseMentions, atKey_emptyRelations,
    optional_emptyRelations, hrels, ok_bind] at h ⊢
  rcases parseRelations r with err | rels'
  · simp [succeeds_bind_iff]
  · simpa [succeeds_bind_iff, exists_eq_ok_iff] using h

theorem Reaction.defectsAreRelations : DefectsAreRelations Reaction.fromJson := fun _ r _ ↦ by
  rw [Reaction.fromJson]
  rcases parseRelations r with err | rels
  · simp
  · simp

theorem Encrypted.defectsAreRelations : DefectsAreRelations Encrypted.fromJson := fun depth r h ↦ by
  obtain ⟨rels, hrels⟩ := succeeds_parseRelations_emptyRelations depth r
  simp (disch := decide) only [Encrypted.fromJson, atKey_emptyRelations, value_emptyRelations,
    hrels, ok_bind] at h ⊢
  rcases parseRelations r with err | rels'
  · simp [succeeds_bind_iff]
  · simpa [succeeds_bind_iff, exists_eq_ok_iff] using h

theorem KeyVerificationStart.defectsAreRelations :
    DefectsAreRelations KeyVerificationStart.fromJson := fun depth r h ↦ by
  obtain ⟨rels, hrels⟩ := succeeds_parseRelations_emptyRelations depth r
  simp (disch := decide) only [KeyVerificationStart.fromJson, optionalString, atKey_emptyRelations,
    optional_emptyRelations, hrels, ok_bind] at h ⊢
  rcases parseRelations r with err | rels'
  · simp [succeeds_bind_iff]
  · simpa [succeeds_bind_iff, exists_eq_ok_iff] using h

theorem KeyVerificationReady.defectsAreRelations :
    DefectsAreRelations KeyVerificationReady.fromJson := fun depth r h ↦ by
  obtain ⟨rels, hrels⟩ := succeeds_parseRelations_emptyRelations depth r
  simp (disch := decide) only [KeyVerificationReady.fromJson, optionalString, atKey_emptyRelations,
    optional_emptyRelations, hrels, ok_bind] at h ⊢
  rcases parseRelations r with err | rels'
  · simp [succeeds_bind_iff]
  · simpa [succeeds_bind_iff, exists_eq_ok_iff] using h

theorem KeyVerificationDone.defectsAreRelations :
    DefectsAreRelations KeyVerificationDone.fromJson := fun depth r h ↦ by
  obtain ⟨rels, hrels⟩ := succeeds_parseRelations_emptyRelations depth r
  simp (disch := decide) only [KeyVerificationDone.fromJson, optionalString,
    optional_emptyRelations, hrels, ok_bind] at h ⊢
  rcases parseRelations r with err | rels'
  · simp [succeeds_bind_iff]
  · simpa [succeeds_bind_iff, exists_eq_ok_iff] using h

theorem KeyVerificationAccept.defectsAreRelations :
    DefectsAreRelations KeyVerificationAccept.fromJson := fun depth r h ↦ by
  obtain ⟨rels, hrels⟩ := succeeds_parseRelations_emptyRelations depth r
  simp (disch := decide) only [KeyVerificationAccept.fromJson, optionalString,
    atKey_emptyRelations, value_emptyRelations, optional_emptyRelations, hrels, ok_bind] at h ⊢
  rcases parseRelations r with err | rels'
  · simp [succeeds_bind_iff]
  · simpa [succeeds_bind_iff, exists_eq_ok_iff] using h

theorem KeyVerificationCancel.defectsAreRelations :
    DefectsAreRelations KeyVerificationCancel.fromJson := fun depth r h ↦ by
  obtain ⟨rels, hrels⟩ := succeeds_parseRelations_emptyRelations depth r
  simp (disch := decide) only [KeyVerificationCancel.fromJson, optionalString,
    value_emptyRelations, optional_emptyRelations, hrels, ok_bind] at h ⊢
  rcases parseRelations r with err | rels'
  · simp [succeeds_bind_iff]
  · simpa [succeeds_bind_iff, exists_eq_ok_iff] using h

theorem KeyVerificationKey.defectsAreRelations :
    DefectsAreRelations KeyVerificationKey.fromJson := fun depth r h ↦ by
  obtain ⟨rels, hrels⟩ := succeeds_parseRelations_emptyRelations depth r
  simp (disch := decide) only [KeyVerificationKey.fromJson, optionalString, atKey_emptyRelations,
    optional_emptyRelations, hrels, ok_bind] at h ⊢
  rcases parseRelations r with err | rels'
  · simp [succeeds_bind_iff]
  · simpa [succeeds_bind_iff, exists_eq_ok_iff] using h

theorem KeyVerificationMac.defectsAreRelations :
    DefectsAreRelations KeyVerificationMac.fromJson := fun depth r h ↦ by
  obtain ⟨rels, hrels⟩ := succeeds_parseRelations_emptyRelations depth r
  simp (disch := decide) only [KeyVerificationMac.fromJson, optionalString, atKey_emptyRelations,
    optional_emptyRelations, hrels, ok_bind] at h ⊢
  rcases parseRelations r with err | rels'
  · simp [succeeds_bind_iff]
  · simpa [succeeds_bind_iff, exists_eq_ok_iff] using h

/-- The request of a verification has no relations. -/
theorem KeyVerificationRequest.fromJson_emptyRelations (depth : ℕ) (r : Json) :
    KeyVerificationRequest.fromJson (emptyRelations depth r) =
      KeyVerificationRequest.fromJson r := by
  simp (disch := decide) only [fromJson, optionalString, atKey_emptyRelations,
    optional_emptyRelations]

end Msg

/-! ## Contents of events -/

theorem effectiveContent_emptyRelations (content : Json) : ∃ depth,
    effectiveContent (emptyRelations 3 content) =
      emptyRelations (depth + 1) <$> effectiveContent content := by
  have hcontains : (emptyRelations 3 content).contains "m.new_content" =
      content.contains "m.new_content" := by
    rw [Json.contains, emptyRelations, find?_mapMembers, Option.isSome_map, ← Json.contains]
  rw [effectiveContent, effectiveContent, hcontains]
  split_ifs
  · exact ⟨1, mergeNewContent_emptyRelations 0 content⟩
  · exact ⟨2, rfl⟩

theorem readableRelations_of_not_object {content : Json} (h : content.isObject = false) :
    effectiveContent content = .ok content ∧ ReadableRelations content := by
  have hnone : ∀ k, content.find? k = none := fun k ↦ by
    obtain hk | ⟨v, hv⟩ := Option.eq_none_or_eq_some (content.find? k)
    · exact hk
    · rw [Json.isObject_of_find? hv] at h
      cases h
  rw [effectiveContent, Json.contains, hnone, ReadableRelations, hnone, hnone]
  refine ⟨rfl, ?_⟩
  rintro r ⟨⟩

section

variable {C : Type} [EventContent C] {content : Json}

/-- What remains unreadable without relation data is not read with it. -/
theorem succeeds_contentFrom_iff (hC : EventContent.isEncrypted C = false)
    (hdefects : DefectsAreRelations (EventContent.fromJson (C := C)))
    (h : Succeeds (contentFrom C (emptyRelations 3 content))) :
    Succeeds (contentFrom C content) ↔
      ∀ r, effectiveContent content = .ok r → ReadableRelations r := by
  by_cases hobj : content.isObject = true
  · obtain ⟨depth, heffective⟩ := effectiveContent_emptyRelations content
    rw [contentFrom_eq hC (by rwa [isObject_emptyRelations]), heffective] at h
    rw [contentFrom_eq hC hobj]
    generalize effectiveContent content = x at h ⊢
    rcases x with err | r
    · exact absurd h (not_succeeds_error err)
    · rw [ok_bind, hdefects depth r h, succeeds_parseRelations_iff]
      exact ⟨fun hr _ heq ↦ Except.ok.inj heq ▸ hr, fun hr ↦ hr r rfl⟩
  · obtain ⟨heffective, hwell⟩ := readableRelations_of_not_object (Bool.eq_false_iff.mpr hobj)
    exact iff_of_true (succeeds_contentFrom_of_not_object (Bool.eq_false_iff.mpr hobj))
      fun r hr ↦ Except.ok.inj (heffective.symm.trans hr) ▸ hwell

/-- An encrypted content is never an edited one. -/
theorem succeeds_contentFrom_encrypted_iff
    (h : Succeeds (contentFrom Msg.Encrypted (emptyRelations 3 content))) :
    Succeeds (contentFrom Msg.Encrypted content) ↔ ReadableRelations content := by
  by_cases hobj : content.isObject = true
  · have hread : ∀ j : Json, j.isObject = true →
        contentFrom Msg.Encrypted j = Msg.Encrypted.fromJson j := fun j hj ↦ by
      rw [contentFrom, hj]
      rfl
    rw [hread _ (by rwa [isObject_emptyRelations])] at h
    rw [hread _ hobj, Msg.Encrypted.defectsAreRelations 2 content h, succeeds_parseRelations_iff]
  · exact iff_of_true (succeeds_contentFrom_of_not_object (Bool.eq_false_iff.mpr hobj))
      (readableRelations_of_not_object (Bool.eq_false_iff.mpr hobj)).2

/-- The request of a verification is read whatever its relation data is. -/
theorem succeeds_contentFrom_request
    (h : Succeeds (contentFrom Msg.KeyVerificationRequest (emptyRelations 3 content))) :
    Succeeds (contentFrom Msg.KeyVerificationRequest content) := by
  by_cases hobj : content.isObject = true
  · obtain ⟨depth, heffective⟩ := effectiveContent_emptyRelations content
    rw [contentFrom_eq rfl (by rwa [isObject_emptyRelations]), heffective] at h
    rw [contentFrom_eq rfl hobj]
    generalize effectiveContent content = x at h ⊢
    rcases x with err | r
    · exact absurd h (not_succeeds_error err)
    · have hread := Msg.KeyVerificationRequest.fromJson_emptyRelations (depth + 1) r
      exact (congrArg Succeeds hread).mp h
  · exact succeeds_contentFrom_of_not_object (Bool.eq_false_iff.mpr hobj)

end

end Mtx.Events
