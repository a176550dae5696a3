import MtxClient.Events.StoredContents

/-!
# Events that can be written

`to_json(TimelineEvents)` fails for one kind of event only.  A message with an unknown `msgtype` is
written over the content that it keeps, and when the relations are written, something may stand in
their place there.  `TimelineEvents.succeeds_toJson_iff` says when it does, and
`TimelineEvents.find?_of_toJson` what stands in an event that is written.
-/

set_option autoImplicit false

namespace Mtx.Events

open Str

variable {json : JsonText}

namespace Msg

/-- The content that a message is written over. -/
def Unknown.kept (u : Unknown json) : Except Exn Json :=
  if u.content.isEmpty then .ok .null else json.parse u.content

/-- The message can be written over the content. -/
structure Unknown.FitsOver (u : Unknown json) (base : Json) : Prop where
  assignable : base.Assignable
  reply : ReplyFits base u.relations.slots
  edit : EditFits base u.relations.slots
  list : ListFits base u.relations

/-- The message can be written over the content that it keeps. -/
def Unknown.Writable (u : Unknown json) : Prop := ∃ base, u.kept = .ok base ∧ u.FitsOver base

/-- The text, the type and the mentions have no part in it. -/
theorem Unknown.fitsOver_congr {u : Unknown json} {base c : Json}
    (hassign : c.Assignable ↔ base.Assignable)
    (hfind : ∀ k : Str, k ≠ "msgtype" → k ≠ "body" → k ≠ "m.mentions" →
      c.find? k = base.find? k) : u.FitsOver c ↔ u.FitsOver base := by
  have hmember : ∀ k : Str, k ≠ "msgtype" → k ≠ "body" → k ≠ "m.mentions" →
      c.member k = base.member k := fun k h₁ h₂ h₃ ↦ by
    rw [Json.member, hfind k h₁ h₂ h₃, Json.member]
  have hreply : ReplyFits c u.relations.slots ↔ ReplyFits base u.relations.slots := by
    rw [ReplyFits, hmember _ (by simp) (by simp) (by simp), ReplyFits]
  have hedit : EditFits c u.relations.slots ↔ EditFits base u.relations.slots := by
    rw [EditFits, hmember _ (by simp) (by simp) (by simp), StringOrAbsent,
      hfind _ (by simp) (by simp) (by simp), EditFits, StringOrAbsent]
  have hlist : ListFits c u.relations ↔ ListFits base u.relations := by
    rw [ListFits, hmember _ (by simp) (by simp) (by simp), ListFits]
  constructor
  · exact fun h ↦ ⟨hassign.mp h.assignable, hreply.mp h.reply, hedit.mp h.edit, hlist.mp h.list⟩
  · exact fun h ↦ ⟨hassign.mpr h.assignable, hreply.mpr h.reply, hedit.mpr h.edit,
      hlist.mpr h.list⟩

/-- The content with the members that do not come from the relations. -/
def Unknown.named (u : Unknown json) (base : Json) : Json :=
  let c := (base.put "msgtype" (.string u.msgtype)).put "body" (.string u.body)
  match u.mentions with
  | some m => c.put "m.mentions" m.toJson
  | none => c

theorem Unknown.find?_named (u : Unknown json) {base : Json} (h : base.Assignable) :
    (u.named base).isObject = true ∧ (u.named base).find? "body" = some (.string u.body) ∧
      ∀ k : Str, k ≠ "msgtype" → k ≠ "body" → k ≠ "m.mentions" →
        (u.named base).find? k = base.find? k := by
  have hobj₁ := Json.isObject_put h "msgtype" (.string u.msgtype)
  have hobj₂ := Json.isObject_put (Or.inr hobj₁) "body" (.string u.body)
  rw [named]
  rcases u.mentions with - | m
  · refine ⟨hobj₂, ?_, fun k h₁ h₂ _ ↦ ?_⟩
    · rw [Json.find?_put (Or.inr hobj₁), if_pos rfl]
    · rw [Json.find?_put (Or.inr hobj₁), if_neg h₂, Json.find?_put h, if_neg h₁]
  · refine ⟨Json.isObject_put (Or.inr hobj₂) _ _, ?_, fun k h₁ h₂ h₃ ↦ ?_⟩
    · rw [Json.find?_put (Or.inr hobj₂), if_neg (by simp), Json.find?_put (Or.inr hobj₁),
        if_pos rfl]
    · rw [Json.find?_put (Or.inr hobj₂), if_neg h₃, Json.find?_put (Or.inr hobj₁), if_neg h₂,
        Json.find?_put h, if_neg h₁]

theorem Unknown.toJson_of_kept {u : Unknown json} {base : Json} (h : u.kept = .ok base)
    (hassign : base.Assignable) :
    Unknown.toJson json u = applyRelations (u.named base) u.relations := by
  have hobj₁ := Json.isObject_put hassign "msgtype" (.string u.msgtype)
  have hobj₂ := Json.isObject_put (Or.inr hobj₁) "body" (.string u.body)
  have hsteps : Unknown.toJson json u = (do
      let obj ← base.set "msgtype" (.string u.msgtype)
      let obj ← obj.set "body" (.string u.body)
      let obj ← match u.mentions with
        | some m => obj.set "m.mentions" m.toJson
        | none => pure obj
      applyRelations obj u.relations) := by
    rw [kept] at h
    rw [Unknown.toJson]
    split_ifs at h ⊢ with hempty
    · rw [← Except.ok.inj h]
      rfl
    · rw [h]
      rfl
  rw [hsteps, Json.set_eq_ok hassign, ok_bind, Json.set_eq_ok (Or.inr hobj₁), ok_bind, named]
  rcases u.mentions with - | m
  · rfl
  · dsimp only
    rw [Json.set_eq_ok (Or.inr hobj₂), ok_bind]

theorem Unknown.kept_of_toJson {u : Unknown json} (h : Succeeds (Unknown.toJson json u)) :
    ∃ base, u.kept = .ok base ∧ base.Assignable := by
  obtain ⟨j, hj⟩ := h
  rw [Unknown.toJson] at hj
  rw [kept]
  split_ifs at hj ⊢ with hempty
  · exact ⟨_, rfl, Or.inl rfl⟩
  · obtain ⟨base, hbase, hj⟩ := bind_eq_ok_iff.mp hj
    obtain ⟨c, hc, -⟩ := bind_eq_ok_iff.mp hj
    exact ⟨base, hbase, (Json.set_eq_ok_iff.mp hc).1⟩

/-- **A message with an unknown type is written** if it can be written over what it keeps. -/
theorem Unknown.succeeds_toJson_iff (u : Unknown json) :
    Succeeds (Unknown.toJson json u) ↔ u.Writable := by
  have hwritten : ∀ {base : Json}, u.kept = .ok base → base.Assignable →
      (Succeeds (Unknown.toJson json u) ↔ u.FitsOver base) := fun {base} hkept hassign ↦ by
    obtain ⟨hobj, hbody, hother⟩ := u.find?_named hassign
    rw [toJson_of_kept hkept hassign, succeeds_applyRelations_iff hbody,
      ← fitsOver_congr (iff_of_true (Or.inr hobj) hassign) hother]
    exact ⟨fun h ↦ ⟨Or.inr hobj, h.1, h.2.1, h.2.2⟩, fun h ↦ ⟨h.reply, h.edit, h.list⟩⟩
  constructor
  · intro h
    obtain ⟨base, hkept, hassign⟩ := kept_of_toJson h
    exact ⟨base, hkept, (hwritten hkept hassign).mp h⟩
  · rintro ⟨base, hkept, hfits⟩
    exact (hwritten hkept hfits.assignable).mpr hfits

end Msg

/-- The event can be written. -/
def TimelineEvents.Writable : TimelineEvents json → Prop
  | .room .unknownMessage e => e.content.Writable
  | _ => True

/-- **Every event can be written** but for messages with an unknown type. -/
theorem TimelineEvents.succeeds_toJson_iff (e : TimelineEvents json) :
    Succeeds e.toJson ↔ e.Writable := by
  rcases e with ⟨k, e⟩ | ⟨k, e⟩ | e
  · exact iff_of_true (succeeds_ok _) trivial
  · have hwrite : Succeeds (TimelineEvents.room k e).toJson ↔
        Succeeds (k.write json e.content) ∧ True :=
      succeeds_bind_iff_and fun _ ↦ iff_of_true (succeeds_ok _) trivial
    rw [hwrite, and_true]
    by_cases hmessage : k = .unknownMessage
    · subst hmessage
      exact Msg.Unknown.succeeds_toJson_iff e.content
    · have hwritable : (TimelineEvents.room k e).Writable := by
        cases k
        case unknownMessage => exact absurd rfl hmessage
        all_goals trivial
      refine iff_of_true ?_ hwritable
      by_cases hunknown : k = .unknown
      · subst hunknown
        exact succeeds_ok _
      · obtain ⟨j, hj⟩ := RoomKind.rereads hunknown hmessage e.content
        exact ⟨j, hj.written⟩
  · exact iff_of_true (succeeds_ok _) trivial

/-- A written event has no member without a name, its sender as a string, and its room as a string
unless it is not known. -/
theorem TimelineEvents.find?_of_toJson {e : TimelineEvents json} {j : Json} (h : e.toJson = .ok j) :
    ∃ m : SortedMap Str Json, j = Json.ofMembers m ∧ m.find? "" = none ∧
      m.find? "sender" = some (.string e.envelope.sender) ∧
      m.find? "room_id" = if e.envelope.room_id.isEmpty then none
        else some (.string e.envelope.room_id) := by
  rcases e with ⟨k, e⟩ | ⟨k, e⟩ | e
  · obtain ⟨hempty, hsender, hroom⟩ := e.toRoomEvent.find?_members
    refine ⟨_, (Except.ok.inj h).symm, ?_, ?_, ?_⟩
    all_goals rw [SortedMap.find?_insert, if_neg (by decide)]
    exacts [hempty, hsender, hroom]
  · obtain ⟨_, -, h⟩ := bind_eq_ok_iff.mp h
    exact ⟨_, (Except.ok.inj h).symm, e.find?_members⟩
  · obtain ⟨hempty, hsender, hroom⟩ := e.toRoomEvent.find?_members
    refine ⟨_, (Except.ok.inj h).symm, ?_, ?_, ?_⟩
    all_goals rw [SortedMap.find?_insert, if_neg (by decide)]
    exacts [hempty, hsender, hroom]

end Mtx.Events
