import MtxClient.Events.Encrypted
import MtxClient.Events.TextEdits

/-!
# Reading the contents for other devices again

Keys, requests for keys and the steps of a verification are sent from device to device, and both
sides compare what they have.  So each content should be read as it was written.  The lemmas say
this for one content after the other, and `deviceContents_reread` for all of them, with what is not
kept: the algorithm of a request, which is always Megolm, the room and session of one that is
cancelled, and the `msgtype` of a verification request.
-/

set_option autoImplicit false

namespace Mtx.Events

open Str

/-! ## Relations of a content -/

/-- Relations that do not come from `m.relates_to`, of types that have a name, without an edit. -/
structure Relations.Explicit (rels : Relations) : Prop where
  synthesized : rels.synthesized = false
  supported : ∀ r ∈ rels.relations, r.rel_type ≠ .unsupported
  noReplace : ∀ r ∈ rels.relations, r.rel_type ≠ .replace

/-- A relation is sorted into one of the slots. -/
theorem foldl_assign_ne {relations : List Relation} (hne : relations ≠ []) (s : Slots) :
    relations.foldl Slots.assign s ≠ {} := by
  obtain ⟨rs, r, rfl⟩ := relations.eq_nil_or_concat'.resolve_left hne
  rw [List.foldl_append, List.foldl_cons, List.foldl_nil, Slots.assign]
  intro h
  split at h
  · cases congrArg Slots.edit h
  · cases congrArg Slots.reply h
  · cases congrArg Slots.not_edit h

/-- Members are assigned to `null` as to an object without members. -/
theorem addRelations_null {relations : List Relation} (hne : relations ≠ []) :
    addRelations .null { relations } = addRelations (.object []) { relations } := by
  rw [addRelations, addRelations, if_neg (by simpa using hne), if_neg (by simpa using hne)]
  obtain ⟨slots, hslots⟩ : ∃ slots, relations.foldl Slots.assign {} = slots := ⟨_, rfl⟩
  have hsome := hslots ▸ foldl_assign_ne hne {}
  dsimp only
  rw [hslots]
  obtain ⟨edit, not_edit, reply⟩ := slots
  rcases not_edit with - | n
  · rcases reply with - | r
    · rcases edit with - | e
      · exact absurd rfl hsome
      · rfl
    · rfl
  · rfl

variable {base : Json}

/-- Explicit relations are read again, and the content has the same members. -/
theorem applyRelations_explicit (hplain : Plain base) {rels : Relations} (hrels : rels.Explicit) :
    ∃ j, applyRelations base rels = .ok j ∧ SameMembers base j ∧ parseRelations j = .ok rels := by
  obtain ⟨relations, synthesized⟩ := rels
  obtain ⟨hsynthesized, hsupported, hreplace⟩ := hrels
  dsimp only at hsynthesized hsupported hreplace
  subst hsynthesized
  by_cases hne : relations = []
  · obtain ⟨hwrite, -, hread⟩ := applyRelations_nil hplain
    rw [hne]
    exact ⟨base, hwrite, ⟨id, fun _ _ ↦ rfl, hplain.added.readable⟩, hread⟩
  · have hlist : ∃ j, addRelations base { relations } = .ok j ∧
        j.find? "im.nheko.relations.v1.relations" =
          some (Json.ofArray Relation.toJson relations) := by
      rcases hplain.shape with rfl | hobj
      · rw [addRelations_null hne]
        exact addRelations_list rfl rfl rfl rfl hne hsupported
      · exact addRelations_list hobj (hplain.noRelation _ (by decide))
          (hplain.noRelation _ (by decide)) (hplain.noRelation _ (by decide)) hne hsupported
    obtain ⟨j, hj, hfind⟩ := hlist
    obtain ⟨j', hj', hadded, -⟩ := addRelations_spec hplain { relations }
    obtain rfl := Except.ok.inj (hj.symm.trans hj')
    have hnone : Relations.replaces { relations } true = none := by
      simpa [Relations.replaces, Relations.firstMatching] using hreplace
    refine ⟨j, ?_, ⟨hadded.isObject, hadded.ordinary, hadded.readable⟩,
      parseRelations_of_list hfind⟩
    rw [applyRelations, hj, ok_bind, hnone]
    rfl

namespace Msg

/-! ## Keys -/

theorem RoomKey.fromJson_toJson (c : RoomKey) : RoomKey.fromJson c.toJson = .ok c := by
  simp [RoomKey.fromJson, RoomKey.toJson, Json.atKey_eq]

theorem ForwardedRoomKey.fromJson_toJson (c : ForwardedRoomKey) :
    ForwardedRoomKey.fromJson c.toJson = .ok c := by
  simp [ForwardedRoomKey.fromJson, ForwardedRoomKey.toJson, Json.atKey_eq,
    Json.getArray_ofArray Json.getString_string]

/-- What is kept of a request: the algorithm is always Megolm, and a cancellation names nothing but
the request. -/
def KeyRequest.kept (c : KeyRequest) : KeyRequest :=
  match c.action with
  | .request => { c with algorithm := "m.megolm.v1.aes-sha2" }
  | _ => { action := c.action, request_id := c.request_id
           requesting_device_id := c.requesting_device_id }

theorem KeyRequest.fromJson_toJson {c : KeyRequest} (h : c.action ≠ .unknown) :
    KeyRequest.fromJson c.toJson = .ok c.kept := by
  obtain ⟨action, algorithm, room_id, sender_key, session_id, request_id, device⟩ := c
  rcases action with - | - | -
  · rcases sender_key with - | ⟨b, sender_key⟩ <;>
      simp [fromJson, toJson, kept, Json.atKey_eq, Json.value_eq, Json.isObject, lit_empty]
  · simp [fromJson, toJson, kept, Json.atKey_eq]
  · exact absurd rfl h

/-! ## Verification -/

/-- What is kept of the request of a verification. -/
def KeyVerificationRequest.kept (c : KeyVerificationRequest) : KeyVerificationRequest :=
  { c with msgtype := c.msgtype.map fun _ ↦ "m.key.verification.request" }

theorem KeyVerificationRequest.fromJson_toJson (c : KeyVerificationRequest) :
    KeyVerificationRequest.fromJson c.toJson = .ok c.kept := by
  have hmethods := Json.getArray_ofArray VerificationMethods.fromJson_toJson c.methods
  have hbody := optionalString_of_find? (j := c.toJson) (k := "body") (s := c.body)
    (by simp [toJson, members])
  have hto := optionalString_of_find? (j := c.toJson) (k := "to") (s := c.«to»)
    (by simp [toJson, members])
  have htransaction := optionalString_of_find? (j := c.toJson) (k := "transaction_id")
    (s := c.transaction_id) (by simp [toJson, members])
  have hmsgtype := optionalString_of_find? (j := c.toJson) (k := "msgtype") (s := c.kept.msgtype)
    (by rcases h : c.msgtype with - | s <;> simp [toJson, members, kept, h])
  rw [KeyVerificationRequest.fromJson, hbody, hto, htransaction, hmsgtype]
  rcases h : c.timestamp with - | t <;>
    simp [Json.atKey_eq, Json.optional, toJson, members, hmethods, h, Json.getUInt64, kept]

variable {rels : Relations} {m : SortedMap Str Json}

/-- A content of a verification is read again if its members are, and its explicit relations. -/
theorem rereads_explicit {α : Type} {fromJson : Json → Except Exn α} {c : α}
    (hkeys : m.find? "m.relates_to" = none ∧ m.find? "im.nheko.relations.v1.relations" = none ∧
      m.find? "m.new_content" = none)
    (htexts : m.find? "body" = none ∧ m.find? "formatted_body" = none) (hrels : rels.Explicit)
    (hread : ∀ r, SameMembers (Json.ofMembers m) r → parseRelations r = .ok rels →
      fromJson r = .ok c) :
    applyRelations (Json.ofMembers m) rels >>= fromJson = .ok c := by
  obtain ⟨j, hj, hsame, hparse⟩ :=
    applyRelations_explicit (plain_verification hkeys htexts) hrels
  rw [hj, ok_bind]
  exact hread j hsame hparse

theorem KeyVerificationStart.toJson_fromJson {c : KeyVerificationStart}
    (h : c.relations.Explicit) : c.toJson >>= KeyVerificationStart.fromJson = .ok c := by
  refine rereads_explicit (by simp [members]) (by simp [members]) h fun r hr hrels ↦ ?_
  have htransaction := SameMembers.optionalString hr (k := "transaction_id")
    (s := c.transaction_id) (by decide) (by simp [members])
  have hnext := SameMembers.optionalString hr (k := "next_method") (s := c.next_method)
    (by decide) (by simp [members])
  rw [KeyVerificationStart.fromJson, hrels, htransaction, hnext]
  simp (disch := decide) [Json.atKey_eq, hr.find?, members, VerificationMethods.fromJson_toJson,
    Json.getArray_ofArray Json.getString_string, Json.getArray_ofArray SASMethods.fromJson_toJson]

theorem KeyVerificationReady.toJson_fromJson {c : KeyVerificationReady}
    (h : c.relations.Explicit) : c.toJson >>= KeyVerificationReady.fromJson = .ok c := by
  refine rereads_explicit (by simp [members]) (by simp [members]) h fun r hr hrels ↦ ?_
  have htransaction := SameMembers.optionalString hr (k := "transaction_id")
    (s := c.transaction_id) (by decide) (by simp [members])
  rw [KeyVerificationReady.fromJson, hrels, htransaction]
  simp (disch := decide) [Json.atKey_eq, hr.find?, members,
    Json.getArray_ofArray VerificationMethods.fromJson_toJson]

theorem KeyVerificationDone.toJson_fromJson {c : KeyVerificationDone}
    (h : c.relations.Explicit) : c.toJson >>= KeyVerificationDone.fromJson = .ok c := by
  refine rereads_explicit (by simp [members]) (by simp [members]) h fun r hr hrels ↦ ?_
  have htransaction := SameMembers.optionalString hr (k := "transaction_id")
    (s := c.transaction_id) (by decide) (by simp [members])
  rw [KeyVerificationDone.fromJson, hrels, htransaction]
  rfl

theorem KeyVerificationAccept.toJson_fromJson {c : KeyVerificationAccept}
    (h : c.relations.Explicit) : c.toJson >>= KeyVerificationAccept.fromJson = .ok c := by
  refine rereads_explicit (by simp [members]) (by simp [members]) h fun r hr hrels ↦ ?_
  have htransaction := SameMembers.optionalString hr (k := "transaction_id")
    (s := c.transaction_id) (by decide) (by simp [members])
  rw [KeyVerificationAccept.fromJson, hrels, htransaction]
  simp (disch := decide) [Json.atKey_eq, Json.value_eq, hr.find?, members,
    VerificationMethods.fromJson_toJson, Json.getArray_ofArray SASMethods.fromJson_toJson]

theorem KeyVerificationCancel.toJson_fromJson {c : KeyVerificationCancel}
    (h : c.relations.Explicit) : c.toJson >>= KeyVerificationCancel.fromJson = .ok c := by
  refine rereads_explicit (by simp [members]) (by simp [members]) h fun r hr hrels ↦ ?_
  have htransaction := SameMembers.optionalString hr (k := "transaction_id")
    (s := c.transaction_id) (by decide) (by simp [members])
  rw [KeyVerificationCancel.fromJson, hrels, htransaction]
  simp (disch := decide) [Json.value_eq, hr.find?, members]

theorem KeyVerificationKey.toJson_fromJson {c : KeyVerificationKey}
    (h : c.relations.Explicit) : c.toJson >>= KeyVerificationKey.fromJson = .ok c := by
  refine rereads_explicit (by simp [members]) (by simp [members]) h fun r hr hrels ↦ ?_
  have htransaction := SameMembers.optionalString hr (k := "transaction_id")
    (s := c.transaction_id) (by decide) (by simp [members])
  rw [KeyVerificationKey.fromJson, hrels, htransaction]
  simp (disch := decide) [Json.atKey_eq, hr.find?, members]

theorem KeyVerificationMac.toJson_fromJson {c : KeyVerificationMac}
    (h : c.relations.Explicit) : c.toJson >>= KeyVerificationMac.fromJson = .ok c := by
  refine rereads_explicit (by simp [members]) (by simp [members]) h fun r hr hrels ↦ ?_
  have htransaction := SameMembers.optionalString hr (k := "transaction_id")
    (s := c.transaction_id) (by decide) (by simp [members])
  rw [KeyVerificationMac.fromJson, hrels, htransaction]
  simp (disch := decide) [Json.atKey_eq, hr.find?, members,
    Json.getMap_ofMap Json.getString_string]

/-! ## Secrets -/

theorem SecretRequest.toJson_fromJson {c : SecretRequest} (h : c.action ≠ .unknown) :
    c.toJson >>= SecretRequest.fromJson = .ok c := by
  obtain ⟨action, name, request_id, device⟩ := c
  rcases action with - | - | -
  · rcases name with - | ⟨b, name⟩ <;> simp [fromJson, toJson, Json.value_eq, lit_empty]
  · rcases name with - | ⟨b, name⟩ <;> simp [fromJson, toJson, Json.value_eq, lit_empty]
  · exact absurd rfl h

theorem SecretSend.fromJson_toJson (c : SecretSend) : SecretSend.fromJson c.toJson = .ok c := by
  simp [SecretSend.fromJson, SecretSend.toJson, Json.value_eq]

/-! ## All of them -/

/-- **The contents for other devices are read again**, but for the algorithm of a request for a key,
the body of a cancelled one and the `msgtype` of a request for a verification. -/
theorem deviceContents_reread :
    (∀ c : RoomKey, RoomKey.fromJson c.toJson = .ok c) ∧
    (∀ c : ForwardedRoomKey, ForwardedRoomKey.fromJson c.toJson = .ok c) ∧
    (∀ c : KeyRequest, c.action ≠ .unknown → KeyRequest.fromJson c.toJson = .ok c.kept) ∧
    (∀ c : SecretRequest, c.action ≠ .unknown → c.toJson >>= SecretRequest.fromJson = .ok c) ∧
    (∀ c : SecretSend, SecretSend.fromJson c.toJson = .ok c) ∧
    (∀ c : KeyVerificationRequest, KeyVerificationRequest.fromJson c.toJson = .ok c.kept) ∧
    (∀ c : KeyVerificationStart, c.relations.Explicit →
      c.toJson >>= KeyVerificationStart.fromJson = .ok c) ∧
    (∀ c : KeyVerificationReady, c.relations.Explicit →
      c.toJson >>= KeyVerificationReady.fromJson = .ok c) ∧
    (∀ c : KeyVerificationDone, c.relations.Explicit →
      c.toJson >>= KeyVerificationDone.fromJson = .ok c) ∧
    (∀ c : KeyVerificationAccept, c.relations.Explicit →
      c.toJson >>= KeyVerificationAccept.fromJson = .ok c) ∧
    (∀ c : KeyVerificationCancel, c.relations.Explicit →
      c.toJson >>= KeyVerificationCancel.fromJson = .ok c) ∧
    (∀ c : KeyVerificationKey, c.relations.Explicit →
      c.toJson >>= KeyVerificationKey.fromJson = .ok c) ∧
    (∀ c : KeyVerificationMac, c.relations.Explicit →
      c.toJson >>= KeyVerificationMac.fromJson = .ok c) :=
  ⟨RoomKey.fromJson_toJson, ForwardedRoomKey.fromJson_toJson, fun _ ↦ KeyRequest.fromJson_toJson,
    fun _ ↦ SecretRequest.toJson_fromJson, SecretSend.fromJson_toJson,
    KeyVerificationRequest.fromJson_toJson, fun _ ↦ KeyVerificationStart.toJson_fromJson,
    fun _ ↦ KeyVerificationReady.toJson_fromJson, fun _ ↦ KeyVerificationDone.toJson_fromJson,
    fun _ ↦ KeyVerificationAccept.toJson_fromJson, fun _ ↦ KeyVerificationCancel.toJson_fromJson,
    fun _ ↦ KeyVerificationKey.toJson_fromJson, fun _ ↦ KeyVerificationMac.toJson_fromJson⟩

/-- The end of a verification that refers to its request. -/
theorem deviceContents_reread_done :
    (KeyVerificationDone.toJson { relations :=
        { relations := [{ rel_type := .reference, event_id := "$1" }] } } >>=
      KeyVerificationDone.fromJson) =
      .ok { relations := { relations := [{ rel_type := .reference, event_id := "$1" }] } } :=
  deviceContents_reread.2.2.2.2.2.2.2.2.1 _ ⟨rfl, by decide, by decide⟩

/-- What is not kept: another algorithm, the room of a cancelled request, another `msgtype`, and a
relation whose type has no name. -/
theorem deviceContents_not_kept :
    KeyRequest.fromJson (KeyRequest.toJson { algorithm := "a" }) ≠ .ok { algorithm := "a" } ∧
    KeyRequest.fromJson (KeyRequest.toJson { action := .cancellation, room_id := "!r" }) ≠
      .ok { action := .cancellation, room_id := "!r" } ∧
    KeyVerificationRequest.fromJson (KeyVerificationRequest.toJson { msgtype := some "m.text" }) ≠
      .ok { msgtype := some "m.text" } ∧
    (KeyVerificationDone.toJson { relations := { relations := [{}] } } >>=
      KeyVerificationDone.fromJson) ≠ .ok { relations := { relations := [{}] } } := by
  refine ⟨?_, ?_, ?_, ?_⟩
  · rw [KeyRequest.fromJson_toJson (by decide)]
    intro h
    exact absurd (congrArg KeyRequest.algorithm (Except.ok.inj h)) (by decide)
  · rw [KeyRequest.fromJson_toJson (by decide)]
    intro h
    exact absurd (congrArg KeyRequest.room_id (Except.ok.inj h)) (by decide)
  · rw [KeyVerificationRequest.fromJson_toJson]
    intro h
    exact absurd (congrArg KeyVerificationRequest.msgtype (Except.ok.inj h)) (by decide)
  · intro h
    have hread : (KeyVerificationDone.toJson { relations := { relations := [{}] } } >>=
        KeyVerificationDone.fromJson) =
        .ok { relations := { relations := [{}], synthesized := true } } := rfl
    rw [hread] at h
    exact absurd (congrArg (·.relations.synthesized) (Except.ok.inj h)) (by decide)

end Msg

end Mtx.Events
