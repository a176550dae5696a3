import MtxClient.Events.Messages
import MtxClient.Events.Reapplying
import MtxClient.Json.WellFormed
import MtxClient.Lib.Runs

/-!
# Messages of an unknown type

A message with an unknown `msgtype` keeps the text of the content that it was read from, and is
written over it.  So its relations are applied to a content that has them already, each time it is
stored and loaded (`storage`).

`Unknown.step` is one round: a `Reapplicable` content is written to another one, and the same
message is read from it.  `roundTrips_iff` says that exactly these messages are read again however
often they are stored: any other one is different after the first time.
-/

set_option autoImplicit false

namespace Mtx.Events

open Str

namespace Msg

variable {json : JsonText} {content : Json} {u : Unknown json}

theorem Unknown.fromJson_eq_ok_iff : Unknown.fromJson json content = .ok u ↔
    content.validUtf8 = true ∧ json.text content = u.content ∧
      content.find? "body" = some (.string u.body) ∧
      content.find? "msgtype" = some (.string u.msgtype) ∧
      parseRelations content = .ok u.relations ∧ parseMentions content = .ok u.mentions := by
  rw [Unknown.fromJson]
  simp only [bind_eq_ok_iff, JsonText.dump_eq_ok_iff, Json.atKey_eq_ok_iff,
    Json.getString_eq_ok_iff]
  constructor
  · rintro ⟨text, ⟨hvalid, htext⟩, _, hbody, body, rfl, _, hmsgtype, msgtype, rfl, rels, hrels,
      mentions, hmentions, h⟩
    rw [← Except.ok.inj h]
    exact ⟨hvalid, htext, hbody, hmsgtype, hrels, hmentions⟩
  · rintro ⟨hvalid, htext, hbody, hmsgtype, hrels, hmentions⟩
    exact ⟨_, ⟨hvalid, htext⟩, _, hbody, _, rfl, _, hmsgtype, _, rfl, _, hrels, _, hmentions, rfl⟩

/-- Mentions are written in order. -/
theorem sorted_mentions (m : Mentions) : m.toJson.sorted = true := by
  have hids : (Json.ofArray .string m.user_ids).sorted = true :=
    Json.sorted_array_iff.mpr fun x hx ↦ by
      obtain ⟨s, -, rfl⟩ := List.mem_map.mp hx
      rfl
  have hall : (Json.noMembers.insertIf m.room "room" (.boolean true) |>.insertIf
      (!m.user_ids.isEmpty) "user_ids" (Json.ofArray .string m.user_ids)).All
        fun _ v ↦ v.sorted = true :=
    SortedMap.All.insertIf (P := fun _ (v : Json) ↦ v.sorted = true) (.insertIf .empty rfl) hids
  exact Json.sorted_object_iff.mpr ⟨SortedMap.sorted _, fun e he ↦
    hall e.1 e.2 (SortedMap.mem_entries_iff.mp he)⟩

/-- The relations are applied to the content that was read, with its mentions written anew. -/
theorem Unknown.toJson_eq (h : Unknown.fromJson json content = .ok u)
    (hempty : ∀ j, json.parse [] ≠ .ok j) (hrestores : json.Restores content) :
    ∃ base, Unknown.toJson json u = applyRelations base u.relations ∧ base.isObject = true ∧
      base.validUtf8 = true ∧ (∀ k : Str, k ≠ "m.mentions" → base.find? k = content.find? k) ∧
      base.find? "m.mentions" = u.mentions.map Mentions.toJson ∧
      (content.sorted = true → base.sorted = true) := by
  obtain ⟨hvalid, htext, hbody, hmsgtype, -, hmentions⟩ := Unknown.fromJson_eq_ok_iff.mp h
  rw [JsonText.Restores, htext] at hrestores
  have hnonempty : ¬ u.content.isEmpty = true := by
    intro hnil
    rw [List.isEmpty_iff.mp hnil] at hrestores
    exact hempty _ hrestores
  have hobj := Json.isObject_of_find? hbody
  -- the content with its own strings assigned again
  have hsame : ∀ {c : Json} {k s : Str}, c.isObject = true → c.validUtf8 = true →
      (∀ k, c.find? k = content.find? k) → content.find? k = some (.string s) →
      validUtf8 k = true → (c.put k (.string s)).isObject = true ∧
        (c.put k (.string s)).validUtf8 = true ∧
        ∀ k', (c.put k (.string s)).find? k' = content.find? k' := by
    intro c k s hc hcvalid hfind hk hkvalid
    refine ⟨Json.isObject_put (Or.inr hc) _ _, Json.validUtf8_put hcvalid hkvalid
      (Json.validUtf8_of_find? hvalid hk), ?_⟩
    intro k'
    rw [Json.find?_put (Or.inr hc)]
    split_ifs with heq
    · rw [heq, hk]
    · exact hfind k'
  obtain ⟨hobj₁, hvalid₁, hfind₁⟩ := hsame hobj hvalid (fun _ ↦ rfl) hmsgtype (by decide)
  obtain ⟨hobj₂, hvalid₂, hfind₂⟩ := hsame hobj₁ hvalid₁ hfind₁ hbody (by decide)
  have hsorted₂ : content.sorted = true →
      ((content.put "msgtype" (.string u.msgtype)).put "body" (.string u.body)).sorted = true :=
    fun hsorted ↦ Json.sorted_put (Json.sorted_put hsorted _ rfl) _ rfl
  rw [Unknown.toJson, if_neg hnonempty, hrestores, ok_bind]
  dsimp only
  rw [Json.set_eq_ok (Or.inr hobj), ok_bind, Json.set_eq_ok (Or.inr hobj₁), ok_bind]
  rw [parseMentions, Json.optional] at hmentions
  rcases hm : content.find? "m.mentions" with - | v
  · rw [hm] at hmentions
    rw [← Except.ok.inj hmentions]
    exact ⟨_, rfl, hobj₂, hvalid₂, fun k _ ↦ hfind₂ k, (hfind₂ _).trans hm, hsorted₂⟩
  · rw [hm] at hmentions
    obtain ⟨mentions, hread, hsome⟩ := map_eq_ok_iff.mp hmentions
    rw [← hsome]
    dsimp only
    rw [Json.set_eq_ok (Or.inr hobj₂), ok_bind]
    refine ⟨_, rfl, Json.isObject_put (Or.inr hobj₂) _ _, Json.validUtf8_put hvalid₂ (by decide)
      (Mentions.validUtf8_toJson (Json.validUtf8_of_find? hvalid hm) hread), ?_, ?_, ?_⟩
    · intro k hk
      rw [Json.find?_put (Or.inr hobj₂), if_neg hk, hfind₂]
    · rw [Json.find?_put (Or.inr hobj₂), if_pos rfl]
      rfl
    · exact fun hsorted ↦ Json.sorted_put (hsorted₂ hsorted) _ (sorted_mentions _)

/-- The same body, `msgtype`, mentions and relations. -/
structure Unknown.Agrees (u u' : Unknown json) : Prop where
  body : u'.body = u.body
  msgtype : u'.msgtype = u.msgtype
  mentions : u'.mentions = u.mentions
  relations : u'.relations.relations = u.relations.relations

/-- **A content that the relations may be applied to again is written to another one**, and the
same message is read from it. -/
theorem Unknown.step (h : Unknown.fromJson json content = .ok u) (hre : Reapplicable content)
    (hempty : ∀ j, json.parse [] ≠ .ok j) (hrestores : json.Restores content) :
    ∃ j u', Unknown.toJson json u = .ok j ∧ Unknown.fromJson json j = .ok u' ∧ u.Agrees u' ∧
      Reapplicable j := by
  obtain ⟨base, htoJson, hobj, hvalid, hfind, hmentions, -⟩ := Unknown.toJson_eq h hempty hrestores
  obtain ⟨-, -, hbody, hmsgtype, hrels, -⟩ := Unknown.fromJson_eq_ok_iff.mp h
  have hsame : ∀ k, isRelationKey k = true → base.find? k = content.find? k := fun k hk ↦
    hfind k (isRelationKey_ne (by decide) hk).symm
  obtain ⟨j, hj⟩ := reapply hobj hvalid ((parseRelations_congr hsame).trans hrels)
    ((reapplicable_congr hsame).mpr hre)
  refine ⟨j, { u with content := json.text j }, htoJson.trans hj.written,
    Unknown.fromJson_eq_ok_iff.mpr ⟨hj.valid, rfl, ?_, ?_, hj.read, parseMentions_of_find? ?_⟩,
    ⟨rfl, rfl, rfl, rfl⟩, hj.reapplicable⟩
  · rw [hj.other _ (by simp), hfind _ (by simp), hbody]
  · rw [hj.other _ (by simp), hfind _ (by simp), hmsgtype]
  · rw [hj.other _ (by simp), hmentions]

/-! ## Storing and loading -/

variable (json) in
/-- A message that is stored and loaded: read from its content, and written to another one. -/
def storage : Machine Json Unit Exn where
  possible _ _ := True
  step content _ := Unknown.fromJson json content >>= Unknown.toJson json

variable (json content) in
/-- **The message that was received is read again however often it is stored and loaded**, and can
be stored once more. -/
def RoundTrips : Prop :=
  ∀ u, Unknown.fromJson json content = .ok u → ∀ times j, (storage json).Run content times j →
    ∃ u', Unknown.fromJson json j = .ok u' ∧ u.Agrees u' ∧ Succeeds (Unknown.toJson json u')

/-- A run leads from a content that the relations may be applied to again to another one with the
same message. -/
theorem roundTrips_of_reapplicable (hre : Reapplicable content)
    (hempty : ∀ j, json.parse [] ≠ .ok j)
    (hrestores : ∀ times j, (storage json).Run content times j → json.Restores j) :
    RoundTrips json content := by
  intro u hu times j hrun
  obtain ⟨u', hu', hagrees, hre'⟩ : ∃ u', Unknown.fromJson json j = .ok u' ∧ u.Agrees u' ∧
      Reapplicable j := by
    refine hrun.invariant (P := fun _ j ↦ ∃ u', Unknown.fromJson json j = .ok u' ∧ u.Agrees u' ∧
      Reapplicable j) ⟨u, hu, ⟨rfl, rfl, rfl, rfl⟩, hre⟩ ?_
    rintro times j₁ a j₂ hrun₁ ⟨u₁, hu₁, hagrees₁, hre₁⟩ - hstep
    obtain ⟨j₃, u₂, hj₃, hu₂, hagrees₂, hre₂⟩ :=
      Unknown.step hu₁ hre₁ hempty (hrestores _ _ hrun₁)
    replace hstep : Unknown.fromJson json j₁ >>= Unknown.toJson json = .ok j₂ := hstep
    rw [hu₁, ok_bind, hj₃] at hstep
    obtain rfl := Except.ok.inj hstep
    exact ⟨u₂, hu₂, ⟨hagrees₂.body.trans hagrees₁.body, hagrees₂.msgtype.trans hagrees₁.msgtype,
      hagrees₂.mentions.trans hagrees₁.mentions, hagrees₂.relations.trans hagrees₁.relations⟩, hre₂⟩
  obtain ⟨j', -, hj', -⟩ := Unknown.step hu' hre' hempty (hrestores _ _ hrun)
  exact ⟨u', hu', hagrees, j', hj'⟩

/-! ## What is lost the first time -/

/-- A relation that stands in `m.relates_to`, without a reply. -/
theorem relation_of_parse {v : Json} {rels : Relations}
    (hlist : content.find? "im.nheko.relations.v1.relations" = none)
    (hv : content.find? "m.relates_to" = some v) (hreply : v.find? "m.in_reply_to" = none)
    (hrels : parseRelations content = .ok rels) :
    ∃ r, Relation.fromJson v = .ok r ∧ r ∈ rels.relations ∧
      (r.rel_type ≠ .replace → rels = { relations := [r], synthesized := true }) := by
  rw [parseRelations, hlist, hv] at hrels
  simp only [Json.contains, hreply, Option.isSome_none, Bool.false_eq_true, if_false] at hrels
  obtain ⟨r, hr, hrels⟩ := bind_eq_ok_iff.mp hrels
  refine ⟨r, hr, ?_⟩
  split_ifs at hrels with htype
  · obtain ⟨edited, -, hrels⟩ := bind_eq_ok_iff.mp hrels
    rw [← Except.ok.inj hrels]
    exact ⟨List.mem_cons_self, fun h ↦ absurd htype h⟩
  · rw [← Except.ok.inj hrels]
    exact ⟨List.mem_cons_self, fun _ ↦ rfl⟩

section

variable {j : Json} {u' : Unknown json} (hu : Unknown.fromJson json content = .ok u)
  (hj : Unknown.toJson json u = .ok j) (hu' : Unknown.fromJson json j = .ok u')
  (hagrees : u.Agrees u') (hempty : ∀ j, json.parse [] ≠ .ok j) (hrestores : json.Restores content)

include hu hj hu' hagrees hempty hrestores

/-- An edit has another star. -/
theorem replaces_eq_none_of_reread : u.relations.replaces true = none := by
  obtain ⟨base, htoJson, -, -, hfind, -⟩ := Unknown.toJson_eq hu hempty hrestores
  rw [hj] at htoJson
  obtain ⟨-, -, hbody, -⟩ := Unknown.fromJson_eq_ok_iff.mp hu
  obtain ⟨-, -, hbody', -⟩ := Unknown.fromJson_eq_ok_iff.mp hu'
  obtain ⟨j₁, hadd, -, hstar⟩ := find?_of_applyRelations htoJson.symm
  have hbase : j₁.find? "body" = some (.string u.body) := by
    rw [(find?_of_addRelations hadd).1 _ (by decide), hfind _ (by simp), hbody]
  by_contra hedit
  rw [hstar hedit _ hbase, hagrees.body] at hbody'
  have hlength := congrArg List.length (Json.string.inj (Option.some.inj hbody'))
  simp [lit] at hlength

/-- A reply is written without its key. -/
theorem eq_reply_of_reread {v : Json} {r : Relation}
    (hlist : content.find? "im.nheko.relations.v1.relations" = none)
    (hv : content.find? "m.relates_to" = some v) (hreply : v.find? "m.in_reply_to" = none)
    (hr : Relation.fromJson v = .ok r)
    (hrels : u.relations = { relations := [r], synthesized := true })
    (htype : r.rel_type = .inReplyTo) : r = { rel_type := .inReplyTo, event_id := r.event_id } := by
  obtain ⟨base, htoJson, -, hvalid, hfind, -⟩ := Unknown.toJson_eq hu hempty hrestores
  rw [hj, hrels] at htoJson
  obtain ⟨-, -, -, -, hrels', -⟩ := Unknown.fromJson_eq_ok_iff.mp hu'
  obtain ⟨s, hs, -⟩ := (Relation.rel_type_eq_iff hr (by decide)).mp htype
  have hv' : base.find? "m.relates_to" = some v := (hfind _ (by simp)).trans hv
  have hobj := Json.isObject_of_find? hs
  have hshape : (v.find? "m.in_reply_to").getD .null = .null ∨
      ((v.find? "m.in_reply_to").getD .null).isObject = true := by
    rw [hreply]
    exact Or.inl rfl
  obtain ⟨j', hj', hreplaced⟩ := addRelations_reply hvalid hv' hobj hshape htype
    (validUtf8_of_optional (Json.validUtf8_of_find? hvalid hv')
      (Relation.fromJson_eq_ok_iff.mp hr).2.1)
  obtain rfl := Except.ok.inj (hj'.symm.trans htoJson.symm)
  have hlist' : j'.find? "im.nheko.relations.v1.relations" = none := by
    rw [hreplaced.other _ (by simp), hfind _ (by simp), hlist]
  rw [parseRelations_of_reply hlist' hreplaced.relates_to
      (by rw [Json.contains, find?_replied hobj, if_pos rfl]; rfl),
    parseReply_replied hobj hshape (not_inThread_of_inReplyTo hr htype)] at hrels'
  have hsame := hagrees.relations
  rw [← Except.ok.inj hrels', hrels] at hsame
  exact (List.singleton_inj.mp hsame).symm

/-- The relations that are known stand twice in the list. -/
theorem unsupported_of_reread {xs : List Json}
    (hlist : content.find? "im.nheko.relations.v1.relations" = some (.array xs)) {x : Json}
    (hx : x ∈ xs) (s : Str) (hs : x.find? "rel_type" = some (.string s)) :
    RelationType.ofStr s = .unsupported := by
  obtain ⟨base, htoJson, -, -, hfind, -⟩ := Unknown.toJson_eq hu hempty hrestores
  rw [hj] at htoJson
  obtain ⟨-, -, -, -, hrels, -⟩ := Unknown.fromJson_eq_ok_iff.mp hu
  obtain ⟨-, -, -, -, hrels', -⟩ := Unknown.fromJson_eq_ok_iff.mp hu'
  obtain ⟨j₁, hadd, hother, -⟩ := find?_of_applyRelations htoJson.symm
  rw [parseRelations, hlist] at hrels
  obtain ⟨rs, hrs, hrels⟩ := bind_eq_ok_iff.mp hrels
  obtain hrels := Except.ok.inj hrels
  have hgrown := (find?_of_addRelations hadd).2 xs ((hfind _ (by simp)).trans hlist)
    (by rw [← hrels])
  rw [← hother _ (by simp) (by simp) (by simp)] at hgrown
  rw [parseRelations, hgrown] at hrels'
  obtain ⟨rs', hrs', hrels'⟩ := bind_eq_ok_iff.mp hrels'
  have hsame := hagrees.relations
  rw [← Except.ok.inj hrels', ← hrels] at hsame
  replace hsame : rs' = rs := hsame
  obtain ⟨r, hr, hxr⟩ := (mem_of_mapM_eq_ok hrs).2 x hx
  refine (Relation.rel_type_eq_unsupported_iff hxr).mp ?_ s hs
  have hlength : (xs ++ (u.relations.relations.filter (·.rel_type != .unsupported)).map
      Relation.toJson).length = xs.length := by
    rw [length_of_mapM_eq_ok hrs', hsame, ← length_of_mapM_eq_ok hrs]
  rw [List.length_append, List.length_map, ← hrels] at hlength
  replace hlength : xs.length + (rs.filter (·.rel_type != .unsupported)).length = xs.length :=
    hlength
  have hnil : rs.filter (·.rel_type != .unsupported) = [] :=
    List.length_eq_zero_iff.mp (by omega)
  simpa using List.filter_eq_nil_iff.mp hnil r hr

end

/-- What is lost is lost the first time already: a list that grows, a star, a key. -/
theorem reapplicable_of_roundTrips (h : RoundTrips json content)
    (haccepted : Succeeds (Unknown.fromJson json content)) (hempty : ∀ j, json.parse [] ≠ .ok j)
    (hrestores : json.Restores content) : Reapplicable content := by
  obtain ⟨u, hu⟩ := haccepted
  obtain ⟨u', hu', -, j, hj⟩ := h u hu [] content .nil
  obtain rfl := Except.ok.inj (hu.symm.trans hu')
  have hrun : (storage json).Run content [()] j := by
    refine Machine.Run.snoc .nil trivial ?_
    show Unknown.fromJson json content >>= Unknown.toJson json = .ok j
    rw [hu, ok_bind, hj]
  obtain ⟨u', hu', hagrees, -⟩ := h u hu [()] j hrun
  obtain ⟨-, -, -, -, hrels, -⟩ := Unknown.fromJson_eq_ok_iff.mp hu
  rw [Reapplicable]
  rcases hlist : content.find? "im.nheko.relations.v1.relations" with - | list
  · intro v hv hreply
    obtain ⟨r, hr, hmem, hsingle⟩ := relation_of_parse hlist hv hreply hrels
    have hedit : r.rel_type ≠ .replace :=
      replaces_eq_none_iff.mp (replaces_eq_none_of_reread hu hj hu' hagrees hempty hrestores) r hmem
    exact (keptRelation_iff hr).mpr ⟨hedit, eq_reply_of_reread hu hj hu' hagrees hempty hrestores
      hlist hv hreply hr (hsingle hedit)⟩
  · rintro xs rfl x hx
    exact unsupported_of_reread hu hj hu' hagrees hempty hrestores hlist hx

/-- **Exactly the messages whose relations may be applied again survive being stored and
loaded.** -/
theorem roundTrips_iff (json : JsonText) (content : Json)
    (haccepted : Succeeds (Unknown.fromJson json content)) (hempty : ∀ j, json.parse [] ≠ .ok j)
    (hrestores : ∀ times j, (storage json).Run content times j → json.Restores j) :
    RoundTrips json content ↔ Reapplicable content := by
  constructor
  · intro h
    exact reapplicable_of_roundTrips h haccepted hempty (hrestores [] content .nil)
  · intro h
    exact roundTrips_of_reapplicable h hempty hrestores

/-- A reply of a type that no client knows. -/
def partyReply : Json :=
  .object [(lit "body", .string "party!"), (lit "m.relates_to", .object [(lit "m.in_reply_to",
    .object [(lit "event_id", .string "$1")])]), (lit "msgtype", .string "like.its.1999")]

/-- It is written as it was read. -/
theorem storage_partyReply {times : List Unit} {j : Json}
    (h : (storage (knownTexts [partyReply])).Run partyReply times j) : j = partyReply := by
  refine h.invariant (P := fun _ j ↦ j = partyReply) rfl ?_
  rintro times j₁ a j₂ - rfl - hstep
  have hsame : (storage (knownTexts [partyReply])).step partyReply a = .ok partyReply := rfl
  exact (Except.ok.inj (hsame.symm.trans hstep)).symm

theorem partyReply_roundTrips :
    Succeeds (Unknown.fromJson (knownTexts [partyReply]) partyReply) ∧
      RoundTrips (knownTexts [partyReply]) partyReply := by
  have haccepted : Succeeds (Unknown.fromJson (knownTexts [partyReply]) partyReply) := ⟨_, rfl⟩
  refine ⟨haccepted, (roundTrips_iff _ _ haccepted ?_ ?_).mpr ?_⟩
  · intro j hj
    cases hj
  · intro times j hrun
    rw [storage_partyReply hrun]
    exact restores_knownTexts partyReply
  · intro v hv hreply
    obtain rfl := Option.some.inj hv
    cases hreply

/-- A message with the list of relations that this library writes. -/
def listedReference : Json :=
  .object [(lit "body", .string "party!"),
    (lit "im.nheko.relations.v1.relations", .array [.object [(lit "event_id", .string "$1"),
      (lit "rel_type", .string "m.reference")]]),
    (lit "msgtype", .string "like.its.1999")]

/-- **The list of relations has another element each time the message is stored.** -/
theorem listedReference_grows : ∃ u j u',
    Unknown.fromJson (knownTexts [listedReference]) listedReference = .ok u ∧
      Unknown.toJson (knownTexts [listedReference]) u = .ok j ∧
      Unknown.fromJson (knownTexts [listedReference]) j = .ok u' ∧
      u.relations.relations = [{ rel_type := .reference, event_id := "$1" }] ∧
      u'.relations.relations = [{ rel_type := .reference, event_id := "$1" },
        { rel_type := .reference, event_id := "$1" }] ∧
      ¬ RoundTrips (knownTexts [listedReference]) listedReference := by
  refine ⟨_, _, _, rfl, rfl, rfl, rfl, rfl, ?_⟩
  intro h
  have hre := reapplicable_of_roundTrips h ⟨_, rfl⟩ (by intro j hj; cases hj)
    (restores_knownTexts listedReference)
  exact absurd (hre _ rfl _ List.mem_cons_self _ rfl) (by decide)

end Msg

end Mtx.Events
