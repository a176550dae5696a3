import Mathlib.Logic.Function.Basic
import MtxClient.Events.ApplyRelations
import MtxClient.Events.InvitePermissions
import MtxClient.Events.ImagePacks

/-!
# Uploading account data

A client keeps its own settings as account data: it uploads what `to_json` writes, and downloads it
on another device.  `Survives` says that nothing is lost on the way, and this file settles it for
four contents:

* permissions for invites always survive, and packs of other rooms unless a room has none,
* a list of hidden types survives unless it is absent or empty: `to_json` then leaves the value
  `null`, which is no object and the same for both,
* rules for expiry survive unless all of them have their default: `from_json` rejects the `null`
  that is written for these.
-/

set_option autoImplicit false

namespace Mtx

namespace Events

open Str

/-- What is uploaded is an object, and it is downloaded as `kept`. -/
def Survives {C : Type} (written : Except Exn Json) (fromJson : Json → Except Exn C) (kept : C) :
    Prop :=
  ∃ j, written = .ok j ∧ j.isObject = true ∧ fromJson j = .ok kept

/-! ## Hidden types and expiry -/

namespace AccountData

theorem addHiddenType_toStr (types : List EventType) (type : EventType) :
    addHiddenType types (.string (EventType.toStr type)) = .ok (types ++ [type]) := by
  by_cases h : type = .unsupported
  · subst h
    rfl
  · have hname : EventType.toStr type ≠ "" := by
      intro hempty
      have hread := getEventType_toStr type h
      rw [hempty] at hread
      cases hread
    rw [addHiddenType, Json.getString_string, ok_bind, if_neg hname, getEventType_toStr type h]
    rfl

theorem foldlM_addHiddenType (types read : List EventType) :
    (types.map fun type ↦ Json.string (EventType.toStr type)).foldlM addHiddenType read =
      .ok (read ++ types) := by
  induction types generalizing read with
  | nil => rw [List.append_nil]; rfl
  | cons type types ih =>
    rw [List.map_cons, List.foldlM_cons, addHiddenType_toStr, ok_bind, ih, List.append_assoc,
      List.singleton_append]

/-- Hidden types survive if there are any. -/
theorem hiddenEvents_survives_iff (c : HiddenEvents) :
    Survives (.ok c.toJson) HiddenEvents.fromJson c ↔
      ∃ type types, c.hidden_event_types = some (type :: types) := by
  obtain ⟨hidden⟩ := c
  constructor
  · rintro ⟨j, hj, hobj, -⟩
    rw [← Except.ok.inj hj] at hobj
    rcases hidden with - | - | ⟨type, types⟩
    · cases hobj
    · cases hobj
    · exact ⟨type, types, rfl⟩
  · rintro ⟨type, types, rfl⟩
    refine ⟨_, rfl, rfl, ?_⟩
    have hfind : (HiddenEvents.toJson { hidden_event_types := some (type :: types) }).find?
        "hidden_event_types" =
          some (.array ((type :: types).map fun type ↦ .string (EventType.toStr type))) := rfl
    rw [HiddenEvents.fromJson, hfind]
    simp only [Json.elements, foldlM_addHiddenType, List.nil_append, ok_bind]
    rfl

/-- A number that is only written if it is not zero, which is what it is without a member. -/
theorem optional_nonzero {m : SortedMap Str Json} {k : Str} {v : UInt64}
    (h : m.find? k = if v = 0 then none else some (.numberUnsigned v)) :
    (Json.ofMembers m).optional k Json.getUInt64 0 = .ok v := by
  split_ifs at h with hv
  · rw [Json.optional_ofMembers_none h, hv]
  · rw [Json.optional_ofMembers h]
    rfl

/-- Rules for expiry survive if one of them is set. -/
theorem eventExpiry_survives_iff (c : EventExpiry) :
    Survives (.ok c.toJson) EventExpiry.fromJson c ↔ c ≠ {} := by
  constructor
  · rintro ⟨j, hj, hobj, -⟩ rfl
    rw [← Except.ok.inj hj] at hobj
    cases hobj
  · intro h
    obtain ⟨exclude, expire, protectLatest, keep⟩ := c
    have hobj : (EventExpiry.toJson ⟨exclude, expire, protectLatest, keep⟩).isObject = true := by
      by_contra hobj
      simp only [EventExpiry.toJson, Json.isObject_ofMembers_insertIf, Bool.or_eq_true, not_or,
        bne_iff_ne, not_not, Bool.not_eq_true] at hobj
      obtain ⟨rfl, rfl, rfl, rfl, -⟩ := hobj
      exact h rfl
    refine ⟨_, rfl, hobj, ?_⟩
    simp only [EventExpiry.fromJson, Json.value_eq_optional hobj]
    rw [EventExpiry.toJson, Json.optional_insertIf (a := exclude) (by simp; rfl)
        (by rintro rfl; rfl) Eq.symm, ok_bind, optional_nonzero (v := expire) (by simp), ok_bind,
      optional_nonzero (v := protectLatest) (by simp), ok_bind,
      optional_nonzero (v := keep) (by simp)]
    rfl

/-! ## Permissions for invites -/

section

variable {json : JsonText}

theorem put_ofMembers (m : SortedMap Str Json) (k : Str) (v : Json) :
    (Json.ofMembers m).put k v = .object (m.insert k v).entries := by
  obtain ⟨entries, sorted⟩ := m
  cases entries <;> rfl

theorem isEmpty_insert (m : SortedMap Str Json) (k : Str) (v : Json) :
    (m.insert k v).entries.isEmpty = false := by
  by_contra h
  have hnil : (m.insert k v).entries = [] := by simpa using h
  have hfind := SortedMap.find?_insert m k k v
  rw [SortedMap.find?, hnil, if_pos rfl] at hfind
  cases hfind

/-- The member `key` has the lists that are not empty, and is absent if all of them are. -/
def HasLists (obj : Json) (key : Str) (lists : Str → SortedMap Str Json) : Prop :=
  (obj.find? key = none ∧ ∀ list, lists list = SortedMap.empty) ∨
    ∃ o, obj.find? key = some o ∧ o.isObject = true ∧
      ∀ list, o.find? list = if (lists list).entries.isEmpty then none
        else some (.object (lists list).entries)

/-- What is written to, and what stands there if nothing has been written. -/
theorem HasLists.target {obj : Json} {key : Str} {lists : Str → SortedMap Str Json}
    (h : HasLists obj key lists) : ∃ o, (obj.find? key).getD .null = o ∧
      (o = .null ∨ o.isObject = true) ∧
      ∀ list, o.find? list = if (lists list).entries.isEmpty then none
        else some (.object (lists list).entries) := by
  rcases h with ⟨hnone, hempty⟩ | ⟨o, ho, hobj, hlists⟩
  · refine ⟨.null, by rw [hnone]; rfl, Or.inl rfl, ?_⟩
    intro list
    rw [hempty]
    rfl
  · exact ⟨o, by rw [ho]; rfl, Or.inr hobj, hlists⟩

theorem HasLists.congr {obj obj' : Json} {key : Str} {lists : Str → SortedMap Str Json}
    (h : HasLists obj key lists) (hfind : obj'.find? key = obj.find? key) :
    HasLists obj' key lists := by
  rwa [HasLists, hfind]

/-- One assignment `obj[key][list][k] = v`. -/
theorem HasLists.setPath {obj : Json} {key : Str} {lists : Str → SortedMap Str Json}
    (hobj : obj.isObject = true) (h : HasLists obj key lists) (list k : Str) (v : Json) :
    ∃ obj', obj.setPath [key, list, k] v = .ok obj' ∧ obj'.isObject = true ∧
      HasLists obj' key (Function.update lists list ((lists list).insert k v)) ∧
      ∀ key', key' ≠ key → obj'.find? key' = obj.find? key' := by
  obtain ⟨o, ho, hshape, hlists⟩ := h.target
  have hlist : (o.find? list).getD .null = Json.ofMembers (lists list) := by
    rw [hlists, Json.ofMembers]
    rcases (lists list).entries with - | ⟨e, es⟩ <;> rfl
  have hinner : o.setPath [list, k] v =
      .ok (o.put list (.object ((lists list).insert k v).entries)) := by
    rw [← put_ofMembers, ← hlist]
    refine setPath_cons hshape (setPath_cons ?_ rfl)
    rw [hlist, Json.ofMembers]
    split
    · exact Or.inl rfl
    · exact Or.inr rfl
  obtain ⟨o', ho'⟩ : ∃ o', o.put list (.object ((lists list).insert k v).entries) = o' := ⟨_, rfl⟩
  have hfind : ∀ list', o'.find? list' = if list' = list
      then some (.object ((lists list).insert k v).entries) else o.find? list' := fun list' ↦ by
    rw [← ho', Json.find?_put hshape]
  rw [ho'] at hinner
  refine ⟨obj.put key o', setPath_cons (Or.inr hobj) (ho ▸ hinner),
    Json.isObject_put (Or.inr hobj) key o', Or.inr ⟨o', ?_, ?_, fun list' ↦ ?_⟩, ?_⟩
  · rw [Json.find?_put (Or.inr hobj), if_pos rfl]
  · rw [← ho']
    exact Json.isObject_put hshape _ _
  · rw [hfind]
    by_cases hl : list' = list
    · subst hl
      rw [if_pos rfl, Function.update_self, isEmpty_insert]
      rfl
    · rw [if_neg hl, Function.update_of_ne hl, hlists]
  · intro key' hne
    rw [Json.find?_put (Or.inr hobj), if_neg hne]

/-- The assignments of a list, one after the other. -/
theorem HasLists.foldlM_setPath {key : Str} (list : Str) (es : List (Str × Str))
    (hes : ∀ e ∈ es, json.Dumped e.2) {obj : Json} {lists : Str → SortedMap Str Json}
    (hobj : obj.isObject = true) (h : HasLists obj key lists) :
    ∃ obj', es.foldlM (fun obj e ↦ do obj.setPath [key, list, e.1] (← json.parse e.2)) obj =
        .ok obj' ∧ obj'.isObject = true ∧
      HasLists obj' key (Function.update lists list
        (es.foldl (fun m e ↦ m.insert e.1 (json.valueOf e.2)) (lists list))) ∧
      ∀ key', key' ≠ key → obj'.find? key' = obj.find? key' := by
  induction es generalizing obj lists with
  | nil =>
    refine ⟨obj, rfl, hobj, ?_, fun _ _ ↦ rfl⟩
    rwa [List.foldl_nil, Function.update_eq_self]
  | cons e es ih =>
    obtain ⟨he, hes⟩ := List.forall_mem_cons.mp hes
    obtain ⟨obj', hset, hobj', h', hframe⟩ := h.setPath hobj list e.1 (json.valueOf e.2)
    obtain ⟨obj'', hrun, hobj'', h'', hframe'⟩ := ih hes hobj' h'
    refine ⟨obj'', ?_, hobj'', ?_, fun key' hne ↦ (hframe' key' hne).trans (hframe key' hne)⟩
    · rw [List.foldlM_cons, he.parse_eq, ok_bind, hset, ok_bind, hrun]
    · rwa [Function.update_self, Function.update_idem] at h''

/-- A list of texts is written below its name. -/
theorem HasLists.emitList {texts : SortedMap Str Str} {obj : Json} {key : Str}
    {lists : Str → SortedMap Str Json} (hobj : obj.isObject = true) (h : HasLists obj key lists)
    (list : Str) (hempty : lists list = SortedMap.empty)
    (htexts : ∀ e ∈ texts.entries, json.Dumped e.2) :
    ∃ obj', AccountData.emitList json key list obj texts = .ok obj' ∧ obj'.isObject = true ∧
      HasLists obj' key (Function.update lists list (texts.map json.valueOf)) ∧
      ∀ key', key' ≠ key → obj'.find? key' = obj.find? key' := by
  obtain ⟨obj', hemit, hobj', h', hframe⟩ := h.foldlM_setPath list texts.entries htexts hobj
  refine ⟨obj', hemit, hobj', ?_, hframe⟩
  rwa [hempty, SortedMap.foldl_insert_entries] at h'

/-- Both lists of `emit_subset`. -/
theorem emitSubset_hasLists {obj : Json} (key : Str) {allow deny : SortedMap Str Str}
    (hobj : obj.isObject = true) (hnone : obj.find? key = none)
    (hallow : ∀ e ∈ allow.entries, json.Dumped e.2) (hdeny : ∀ e ∈ deny.entries, json.Dumped e.2) :
    ∃ obj', emitSubset json obj key allow deny = .ok obj' ∧ obj'.isObject = true ∧
      (∃ lists, HasLists obj' key lists ∧ lists "allow" = allow.map json.valueOf ∧
        lists "deny" = deny.map json.valueOf) ∧
      ∀ key', key' ≠ key → obj'.find? key' = obj.find? key' := by
  have h : HasLists obj key fun _ ↦ SortedMap.empty := Or.inl ⟨hnone, fun _ ↦ rfl⟩
  obtain ⟨obj₁, hemit₁, hobj₁, h₁, hframe₁⟩ := h.emitList hobj "allow" rfl hallow
  have hne : lit "deny" ≠ lit "allow" := by decide
  obtain ⟨obj₂, hemit₂, hobj₂, h₂, hframe₂⟩ :=
    h₁.emitList hobj₁ "deny" (Function.update_of_ne hne _ _) hdeny
  refine ⟨obj₂, ?_, hobj₂, ⟨_, h₂, ?_, Function.update_self _ _ _⟩,
    fun key' hkey ↦ (hframe₂ key' hkey).trans (hframe₁ key' hkey)⟩
  · rw [emitSubset, hemit₁, ok_bind, hemit₂]
  · rw [Function.update_of_ne hne.symm, Function.update_self]

/-- A list is read as the map it was written from. -/
theorem value_getMap {o : Json} {list : Str} {m : SortedMap Str Json} (hobj : o.isObject = true)
    (h : o.find? list = if m.entries.isEmpty then none else some (.object m.entries)) :
    o.value list (Json.getMap pure) SortedMap.empty = .ok m := by
  rw [Json.value_eq, h]
  split_ifs with hempty
  · have hm : m = SortedMap.empty := by
      ext k : 1
      rw [SortedMap.find?, List.isEmpty_iff.mp hempty]
      rfl
    rw [hm]
  · have hmap : (Json.ofMap id m).getMap pure = .ok m := Json.getMap_ofMap (fun _ ↦ rfl) m
    have hid : (m.entries.map fun e ↦ (e.1, id e.2)) = m.entries := List.map_id'' (fun _ ↦ rfl) _
    rwa [Json.ofMap, hid] at hmap

/-- The texts of the values are the texts that the values were parsed from. -/
theorem dumpValues_map {texts : SortedMap Str Str}
    (htexts : ∀ e ∈ texts.entries, json.Dumped e.2) :
    dumpValues json (texts.map json.valueOf) = .ok texts := by
  have hself : (texts.map json.valueOf).map (fun j ↦ (json.dump j).toOption.getD []) = texts := by
    ext k : 1
    rw [SortedMap.find?_map, SortedMap.find?_map]
    rcases hk : texts.find? k with - | s
    · rfl
    · rw [Option.map_some, Option.map_some,
        (htexts _ (SortedMap.mem_entries_iff.mpr hk)).dump_eq]
      rfl
  refine (SortedMap.foldlM_insert (texts.map json.valueOf) ?_).trans (congrArg Except.ok hself)
  intro e he acc _
  obtain ⟨e', he', rfl⟩ := List.mem_map.mp he
  rw [(htexts e' he').dump_eq]
  rfl

theorem HasLists.parseSubset {obj : Json} {key : Str} {lists : Str → SortedMap Str Json}
    (h : HasLists obj key lists) {allow deny : SortedMap Str Str}
    (hallow : ∀ e ∈ allow.entries, json.Dumped e.2) (hdeny : ∀ e ∈ deny.entries, json.Dumped e.2)
    (hlistsAllow : lists "allow" = allow.map json.valueOf)
    (hlistsDeny : lists "deny" = deny.map json.valueOf) :
    AccountData.parseSubset json key obj = .ok (allow, deny) := by
  rcases h with ⟨hnone, hempty⟩ | ⟨o, ho, hobj, hlists⟩
  · have hnil : ∀ {texts : SortedMap Str Str} {list : Str},
        lists list = texts.map json.valueOf → texts = SortedMap.empty := fun {texts list} h ↦ by
      ext k : 1
      have hk := congrArg (SortedMap.find? · k) ((hempty list).symm.trans h)
      rw [SortedMap.find?_empty, SortedMap.find?_map, eq_comm, Option.map_eq_none_iff] at hk
      rw [hk, SortedMap.find?_empty]
    rw [AccountData.parseSubset, hnone, hnil hlistsAllow, hnil hlistsDeny]
  · rw [AccountData.parseSubset, ho]
    simp only [value_getMap hobj (hlists "allow"), value_getMap hobj (hlists "deny"), ok_bind,
      hlistsAllow, hlistsDeny, dumpValues_map hallow, dumpValues_map hdeny]
    rfl

/-- The lists of the permissions have JSON texts as values. -/
def InvitePermissions.Texts (c : InvitePermissions json) : Prop :=
  ∀ rule, ∀ e ∈ (c.list rule).entries, json.Dumped e.2

/-- Permissions survive, whatever lists they have. -/
theorem invitePermissions_survives {c : InvitePermissions json} (hc : c.Texts) :
    Survives c.toJson (InvitePermissions.fromJson json) c := by
  have hset : Json.null.set "default" (.string c.default_) =
      .ok (.object [(lit "default", .string c.default_)]) := rfl
  have hnone : ∀ key, key ≠ lit "default" →
      (Json.object [(lit "default", .string c.default_)]).find? key = none := fun key hne ↦ by
    rw [Json.find?, AssocList.find?_cons, if_neg hne.symm, AssocList.find?_nil]
  obtain ⟨obj₁, hemit₁, hobj₁, ⟨lists₁, h₁, hallow₁, hdeny₁⟩, hframe₁⟩ :=
    emitSubset_hasLists "server" rfl (hnone _ (by decide)) (hc (.server, true))
      (hc (.server, false))
  obtain ⟨obj₂, hemit₂, hobj₂, ⟨lists₂, h₂, hallow₂, hdeny₂⟩, hframe₂⟩ :=
    emitSubset_hasLists "room" hobj₁
      ((hframe₁ _ (by decide)).trans (hnone _ (by decide))) (hc (.room, true)) (hc (.room, false))
  obtain ⟨obj₃, hemit₃, hobj₃, ⟨lists₃, h₃, hallow₃, hdeny₃⟩, hframe₃⟩ :=
    emitSubset_hasLists "user" hobj₂ ((hframe₂ _ (by decide)).trans
      ((hframe₁ _ (by decide)).trans (hnone _ (by decide)))) (hc (.user, true)) (hc (.user, false))
  have hserver := (h₁.congr ((hframe₃ _ (by decide)).trans (hframe₂ _ (by decide)))).parseSubset
    (hc (.server, true)) (hc (.server, false)) hallow₁ hdeny₁
  have hroom := (h₂.congr (hframe₃ _ (by decide))).parseSubset (hc (.room, true))
    (hc (.room, false)) hallow₂ hdeny₂
  have huser := h₃.parseSubset (hc (.user, true)) (hc (.user, false)) hallow₃ hdeny₃
  have hdefault : obj₃.find? "default" = some (.string c.default_) :=
    (hframe₃ _ (by decide)).trans ((hframe₂ _ (by decide)).trans (hframe₁ _ (by decide)))
  refine ⟨obj₃, ?_, hobj₃, ?_⟩
  · rw [InvitePermissions.toJson, hset, ok_bind]
    simp only [InvitePermissions.list] at hemit₁ hemit₂ hemit₃
    rw [hemit₁, ok_bind, hemit₂, ok_bind, hemit₃]
  · rw [InvitePermissions.fromJson, Json.optional_of_find? hdefault, Json.getString_string, ok_bind,
      hserver, ok_bind, hroom, ok_bind, huser]
    rfl

end

end AccountData

/-! ## Packs of other rooms -/

namespace ImagePackRooms

variable {json : JsonText}

/-- The packs have JSON texts as bodies, or no text, which stands for the empty object. -/
def Texts (c : ImagePackRooms json) : Prop :=
  ∀ room ∈ c.rooms.entries, ∀ pack ∈ room.2.entries, pack.2 = [] ∨ json.Dumped pack.2

/-- The text of an object without members where there is no text. -/
def keptBody (json : JsonText) (body : Str) : Str :=
  if body.isEmpty then json.text (.object []) else body

/-- The packs, all with a text. -/
def kept (c : ImagePackRooms json) : ImagePackRooms json where
  rooms := c.rooms.map fun packs ↦ packs.map (keptBody json)

/-- Every room has packs. -/
def Full (c : ImagePackRooms json) : Prop := ∀ room ∈ c.rooms.entries, room.2.entries ≠ []

/-- The value of a body. -/
def bodyOf (json : JsonText) (body : Str) : Json :=
  if body.isEmpty then .object [] else json.valueOf body

theorem packsToJson_eq {packs : SortedMap Str Str}
    (htexts : ∀ pack ∈ packs.entries, pack.2 = [] ∨ json.Dumped pack.2) :
    packsToJson json packs = .ok (packs.map (bodyOf json)) := by
  refine SortedMap.foldlM_insert packs ?_
  intro pack hpack m _
  rw [bodyOf]
  rcases htexts pack hpack with hempty | htext
  · rw [hempty]
    rfl
  · split_ifs
    · rfl
    · rw [htext.parse_eq]
      rfl

theorem dump_bodyOf {body : Str} (h : body = [] ∨ json.Dumped body) :
    json.dump (bodyOf json body) = .ok (keptBody json body) := by
  rw [bodyOf, keptBody]
  split_ifs with hempty
  · rfl
  · exact (h.resolve_left (by simpa using hempty)).dump_eq

/-- The packs of a room that is not there yet. -/
theorem foldlM_addPack {packs : SortedMap Str Str} {roomid : Str}
    (hpacks : packs.entries ≠ [])
    (htexts : ∀ pack ∈ packs.entries, pack.2 = [] ∨ json.Dumped pack.2)
    {rooms : SortedMap Str (SortedMap Str Str)} (hnone : rooms.find? roomid = none) :
    (packs.map (bodyOf json)).entries.foldlM (addPack json roomid) rooms =
      .ok (rooms.insert roomid (packs.map (keptBody json))) := by
  have hinsert : ∀ m m' : SortedMap Str Str,
      (rooms.insert roomid m).insert roomid m' = rooms.insert roomid m' := fun m m' ↦ by
    ext k : 1
    rw [SortedMap.find?_insert, SortedMap.find?_insert, SortedMap.find?_insert]
    split_ifs <;> rfl
  have hrun : ∀ (es : List (Str × Str)) (m : SortedMap Str Str),
      (∀ pack ∈ es, pack.2 = [] ∨ json.Dumped pack.2) →
      (es.map fun e ↦ (e.1, bodyOf json e.2)).foldlM (addPack json roomid)
        (rooms.insert roomid m) = .ok (rooms.insert roomid
          (es.foldl (fun m e ↦ m.insert e.1 (keptBody json e.2)) m)) := by
    intro es
    induction es with
    | nil => exact fun _ _ ↦ rfl
    | cons e es ih =>
      intro m hes
      obtain ⟨he, hes⟩ := List.forall_mem_cons.mp hes
      have hstep : addPack json roomid (rooms.insert roomid m) (e.1, bodyOf json e.2) =
          .ok (rooms.insert roomid (m.insert e.1 (keptBody json e.2))) := by
        rw [addPack, dump_bodyOf he, SortedMap.find?_insert, if_pos rfl, ok_bind, Option.getD_some,
          hinsert]
        rfl
      rw [List.map_cons, List.foldlM_cons, hstep, ok_bind, ih _ hes, List.foldl_cons]
  have hkept := SortedMap.foldl_insert_entries (keptBody json) packs
  rcases packs with ⟨- | ⟨e, es⟩, sorted⟩
  · exact absurd rfl hpacks
  · have hfirst : addPack json roomid rooms (e.1, bodyOf json e.2) =
        .ok (rooms.insert roomid (SortedMap.empty.insert e.1 (keptBody json e.2))) := by
      rw [addPack, dump_bodyOf (htexts e List.mem_cons_self), hnone]
      rfl
    show ((e.1, bodyOf json e.2) :: es.map fun e ↦ (e.1, bodyOf json e.2)).foldlM _ rooms = _
    rw [List.foldlM_cons, hfirst, ok_bind,
      hrun es _ fun pack hpack ↦ htexts pack (List.mem_cons_of_mem e hpack), ← hkept,
      List.foldl_cons]

/-- What is written for the rooms, if all of them have packs. -/
def roomsJson (c : ImagePackRooms json) : SortedMap Str Json :=
  c.rooms.map fun packs ↦ .object (packs.map (bodyOf json)).entries

theorem toJson_of_full {c : ImagePackRooms json} (htexts : c.Texts) (hfull : c.Full) :
    c.toJson = .ok (.object [(lit "rooms", .object c.roomsJson.entries)]) := by
  have hrooms : c.rooms.entries.foldlM (fun m room ↦ do
      let packs ← packsToJson json room.2
      return m.insertIf (!packs.entries.isEmpty) room.1 (Json.ofMembers packs)) Json.noMembers =
        .ok c.roomsJson := by
    refine SortedMap.foldlM_insert c.rooms fun room hroom m _ ↦ ?_
    rw [packsToJson_eq (htexts room hroom)]
    obtain ⟨e, es, hentries⟩ := List.exists_cons_of_ne_nil (hfull room hroom)
    simp [SortedMap.map, hentries, SortedMap.insertIf, Json.ofMembers]
  rw [ImagePackRooms.toJson, hrooms]
  rfl

theorem fromJson_of_full {c : ImagePackRooms json} (htexts : c.Texts) (hfull : c.Full) :
    fromJson json (.object [(lit "rooms", .object c.roomsJson.entries)]) = .ok c.kept := by
  have hrooms : c.rooms.entries.foldlM (fun rooms room ↦
      (room.2.map (bodyOf json)).entries.foldlM (addPack json room.1) rooms) SortedMap.empty =
        .ok (c.rooms.map fun packs ↦ packs.map (keptBody json)) :=
    SortedMap.foldlM_insert c.rooms fun room hroom rooms hnone ↦
      foldlM_addPack (hfull room hroom) (htexts room hroom) hnone
  have hfind : (Json.object [(lit "rooms", .object c.roomsJson.entries)]).find? "rooms" =
      some (.object c.roomsJson.entries) := rfl
  have hread : (Json.object c.roomsJson.entries).items.foldlM
      (fun rooms room ↦ room.2.items.foldlM (addPack json room.1) rooms) SortedMap.empty =
        .ok (c.rooms.map fun packs ↦ packs.map (keptBody json)) := by
    rw [← hrooms]
    exact List.foldlM_map
  rw [fromJson, hfind]
  simp only [hread, ok_bind]
  rfl

/-- The rooms that have packs. -/
def listed (c : ImagePackRooms json) : ImagePackRooms json where
  rooms := SortedMap.ofList (c.rooms.entries.filter fun room ↦ !room.2.entries.isEmpty)

theorem entries_listed (c : ImagePackRooms json) :
    c.listed.rooms.entries = c.rooms.entries.filter fun room ↦ !room.2.entries.isEmpty := by
  rw [listed, SortedMap.ofList_eq _ (c.rooms.sorted.filter _)]

theorem full_listed (c : ImagePackRooms json) : c.listed.Full := by
  intro room hroom hempty
  rw [entries_listed, List.mem_filter, hempty] at hroom
  cases hroom.2

theorem texts_listed {c : ImagePackRooms json} (htexts : c.Texts) : c.listed.Texts := by
  intro room hroom
  rw [entries_listed] at hroom
  exact htexts room (List.mem_of_mem_filter hroom)

/-- A room without packs is not written. -/
theorem toJson_listed (c : ImagePackRooms json) : c.listed.toJson = c.toJson := by
  have hrun : ∀ (es : List (Str × SortedMap Str Str)) (m : SortedMap Str Json),
      (es.filter fun room ↦ !room.2.entries.isEmpty).foldlM (fun m room ↦ do
        let packs ← packsToJson json room.2
        return m.insertIf (!packs.entries.isEmpty) room.1 (Json.ofMembers packs)) m =
      es.foldlM (fun m room ↦ do
        let packs ← packsToJson json room.2
        return m.insertIf (!packs.entries.isEmpty) room.1 (Json.ofMembers packs)) m := by
    intro es
    induction es with
    | nil => exact fun _ ↦ rfl
    | cons e es ih =>
      intro m
      obtain ⟨roomid, ⟨- | ⟨pack, packs⟩, sorted⟩⟩ := e
      · exact ih m
      · rw [List.filter_cons_of_pos rfl, List.foldlM_cons, List.foldlM_cons]
        simp only [ih]
  rw [ImagePackRooms.toJson, ImagePackRooms.toJson, entries_listed, hrun]

/-- Packs survive if every room has some. -/
theorem survives_iff {c : ImagePackRooms json} (htexts : c.Texts) :
    Survives c.toJson (fromJson json) c.kept ↔ c.Full := by
  constructor
  · rintro ⟨j, hj, -, hread⟩ room hroom hempty
    rw [← toJson_listed, toJson_of_full (texts_listed htexts) (full_listed c)] at hj
    rw [← Except.ok.inj hj, fromJson_of_full (texts_listed htexts) (full_listed c)] at hread
    have hrooms : c.listed.kept.rooms.find? room.1 = c.kept.rooms.find? room.1 := by
      rw [Except.ok.inj hread]
    have hsome := SortedMap.mem_entries_iff.mp hroom
    rw [kept, kept, SortedMap.find?_map, SortedMap.find?_map, hsome, Option.map_some,
      Option.map_eq_some_iff] at hrooms
    obtain ⟨packs, hpacks, -⟩ := hrooms
    have hmem := SortedMap.mem_entries_iff.mpr hpacks
    have hsame : packs = room.2 := by
      rw [entries_listed] at hmem
      have hfind := SortedMap.mem_entries_iff.mp (List.mem_of_mem_filter hmem)
      exact Option.some.inj (hfind.symm.trans hsome)
    exact full_listed c _ hmem (hsame ▸ hempty)
  · intro hfull
    exact ⟨_, toJson_of_full htexts hfull, rfl, fromJson_of_full htexts hfull⟩

end ImagePackRooms

/-! ## All of them -/

/-- **Which account data survives its upload.** -/
theorem uploadedData_survives_iff (json : JsonText) :
    (∀ c : AccountData.HiddenEvents,
      Survives (.ok c.toJson) AccountData.HiddenEvents.fromJson c ↔
        ∃ type types, c.hidden_event_types = some (type :: types)) ∧
    (∀ c : AccountData.EventExpiry,
      Survives (.ok c.toJson) AccountData.EventExpiry.fromJson c ↔ c ≠ {}) ∧
    (∀ c : AccountData.InvitePermissions json, c.Texts →
      Survives c.toJson (AccountData.InvitePermissions.fromJson json) c) ∧
    ∀ c : ImagePackRooms json, c.Texts →
      (Survives c.toJson (ImagePackRooms.fromJson json) c.kept ↔ c.Full) :=
  ⟨AccountData.hiddenEvents_survives_iff, AccountData.eventExpiry_survives_iff,
    fun _ ↦ AccountData.invitePermissions_survives, fun _ ↦ ImagePackRooms.survives_iff⟩

/-- A parser that knows the text of the empty object. -/
def emptyObjects : JsonText := knownTexts [.object []]

theorem dumped_emptyObject : emptyObjects.Dumped "\x7b\x7d" := ⟨.object [], rfl, rfl⟩

/-- A server may invite. -/
def allowedServer : AccountData.InvitePermissions emptyObjects where
  default_ := "deny"
  server_allow := SortedMap.empty.insert "example.org" "\x7b\x7d"

/-- A room with a pack. -/
def onePack : ImagePackRooms emptyObjects where
  rooms := SortedMap.empty.insert "!room:example.org" (SortedMap.empty.insert "cats" [])

theorem uploadedData_survives_samples :
    Survives (.ok (AccountData.HiddenEvents.toJson { hidden_event_types := some [.reaction] }))
      AccountData.HiddenEvents.fromJson { hidden_event_types := some [.reaction] } ∧
    Survives (.ok (AccountData.EventExpiry.toJson { keep_only_latest := 5 }))
      AccountData.EventExpiry.fromJson { keep_only_latest := 5 } ∧
    Survives allowedServer.toJson (AccountData.InvitePermissions.fromJson emptyObjects)
      allowedServer ∧
    Survives onePack.toJson (ImagePackRooms.fromJson emptyObjects) onePack.kept := by
  obtain ⟨hhidden, hexpiry, hpermissions, hpacks⟩ := uploadedData_survives_iff emptyObjects
  have hpermissionTexts : allowedServer.Texts := by
    rintro ⟨subset, allow⟩ e he
    rcases subset with - | - | - <;> cases allow
    case server.true =>
      obtain rfl := List.mem_singleton.mp he
      exact dumped_emptyObject
    all_goals cases he
  have hpackTexts : onePack.Texts := by
    intro room hroom pack hpack
    obtain rfl := List.mem_singleton.mp hroom
    obtain rfl := List.mem_singleton.mp hpack
    exact Or.inl rfl
  refine ⟨(hhidden _).mpr ⟨_, _, rfl⟩, (hexpiry _).mpr ?_, hpermissions _ hpermissionTexts,
    (hpacks _ hpackTexts).mpr ?_⟩
  · intro h
    exact absurd (congrArg AccountData.EventExpiry.keep_only_latest h) (by decide)
  · intro room hroom
    obtain rfl := List.mem_singleton.mp hroom
    exact List.cons_ne_nil _ _

/-- Default rules and an empty list are lost: what is written is `null`, which `from_json` rejects
for the rules, and which does not tell an empty list from an absent one. -/
theorem not_survives_default :
    ¬ Survives (.ok (AccountData.EventExpiry.toJson {})) AccountData.EventExpiry.fromJson {} ∧
    ¬ Succeeds (AccountData.EventExpiry.fromJson (AccountData.EventExpiry.toJson {})) ∧
    ¬ Survives (.ok (AccountData.HiddenEvents.toJson { hidden_event_types := some [] }))
      AccountData.HiddenEvents.fromJson { hidden_event_types := some [] } ∧
    AccountData.HiddenEvents.toJson { hidden_event_types := some [] } =
      AccountData.HiddenEvents.toJson { hidden_event_types := none } := by
  refine ⟨?_, not_succeeds_error _, ?_, rfl⟩
  · rintro ⟨j, hj, hobj, -⟩
    rw [← Except.ok.inj hj] at hobj
    cases hobj
  · rintro ⟨j, hj, hobj, -⟩
    rw [← Except.ok.inj hj] at hobj
    cases hobj

end Events

end Mtx
