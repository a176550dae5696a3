import MtxClient.Crypto.Sessions
import MtxClient.Json.ReadBack

/-!
# What the encrypting bot stores

The program `crypto_bot` keeps the devices of the users it knows, their keys, and its sessions with
them.  When it is shut down, it writes all of this to a file, sessions as pickles, and it begins
with what is in the file.

`load_save` says that nothing is lost on the way, as long as the strings are UTF-8.
-/

set_option autoImplicit false

namespace Mtx.Programs

open Str Crypto

/-! ## What is stored -/

/-- The identity keys of a device. -/
structure DevKeys where
  ed25519 : Str := ""
  curve25519 : Str := ""

/-- `to_json(DevKeys)`. -/
def DevKeys.toJson (msg : DevKeys) : Json :=
  Json.ofMembers <| Json.noMembers
    |>.insert "ed25519" (.string msg.ed25519)
    |>.insert "curve25519" (.string msg.curve25519)

/-- `from_json(DevKeys)`. -/
def DevKeys.fromJson (obj : Json) : Except Exn DevKeys := do
  let ed25519 ← (← obj.atKey "ed25519").getString
  let curve25519 ← (← obj.atKey "curve25519").getString
  return { ed25519, curve25519 }

/-- What has to be known of an outbound session besides the session. -/
structure OutboundSessionData where
  session_id : Str := ""
  session_key : Str := ""
  message_index : UInt64 := 0

/-- `to_json(OutboundSessionData)`. -/
def OutboundSessionData.toJson (msg : OutboundSessionData) : Json :=
  Json.ofMembers <| Json.noMembers
    |>.insert "session_id" (.string msg.session_id)
    |>.insert "session_key" (.string msg.session_key)
    |>.insert "message_index" (.numberUnsigned msg.message_index)

/-- `from_json(OutboundSessionData)`. -/
def OutboundSessionData.fromJson (obj : Json) : Except Exn OutboundSessionData := do
  let session_id ← (← obj.atKey "session_id").getString
  let session_key ← (← obj.atKey "session_key").getString
  let message_index ← (← obj.atKey "message_index").getUInt64
  return { session_id, session_key, message_index }

/-- `Storage`. -/
structure Storage (olm : SessionOlm) where
  /-- The devices of a user. -/
  devices : SortedMap Str (List Str) := SortedMap.empty
  /-- The identity keys of a device. -/
  device_keys : SortedMap Str DevKeys := SortedMap.empty
  /-- The rooms that have encryption enabled. -/
  encrypted_rooms : SortedMap Str Bool := SortedMap.empty
  /-- The members of a room. -/
  members : SortedMap Str (SortedMap Str Bool) := SortedMap.empty
  /-- The sessions, by the curve25519 key of the other device. -/
  olm_inbound_sessions : SortedMap Str olm.Session := SortedMap.empty
  olm_outbound_sessions : SortedMap Str olm.Session := SortedMap.empty
  inbound_group_sessions : SortedMap Str olm.InboundGroupSession := SortedMap.empty
  outbound_group_session_data : SortedMap Str OutboundSessionData := SortedMap.empty
  outbound_group_sessions : SortedMap Str olm.OutboundGroupSession := SortedMap.empty

/-- `STORAGE_KEY`. -/
def storageKey : Str := "secret"

variable {olm : SessionOlm} {α : Type}

/-! ## The file -/

/-- `for (const auto &s : m) data[name][s.first] = put(s.second);` -/
def saveAll (name : Str) (put : α → Except Exn Json) (m : SortedMap Str α) (data : Json) :
    Except Exn Json :=
  m.entries.foldlM (fun data s ↦ do data.setPath [name, s.1] (← put s.2)) data

/-- A pickle as JSON. -/
def pickleJson (p : Pickling α) (object : α) : Except Exn Json := do
  return .string (← p.pickled object storageKey)

/-- The members that are always written. -/
def Storage.base (storage : Storage olm) : SortedMap Str Json :=
  Json.noMembers
    |>.insert "devices" (Json.ofMap (Json.ofArray .string) storage.devices)
    |>.insert "device_keys" (Json.ofMap DevKeys.toJson storage.device_keys)
    |>.insert "encrypted_rooms" (Json.ofMap .boolean storage.encrypted_rooms)
    |>.insert "members" (Json.ofMap (Json.ofMap .boolean) storage.members)

/-- What `Storage::save` writes to the file. -/
def Storage.toJson (storage : Storage olm) : Except Exn Json := do
  let data ← saveAll "olm_inbound_sessions" (pickleJson olm.sessions)
    storage.olm_inbound_sessions (Json.ofMembers storage.base)
  let data ← saveAll "olm_outbound_sessions" (pickleJson olm.sessions)
    storage.olm_outbound_sessions data
  let data ← saveAll "inbound_group_sessions" (pickleJson olm.inboundGroupSessions)
    storage.inbound_group_sessions data
  let data ← saveAll "outbound_group_sessions" (pickleJson olm.outboundGroupSessions)
    storage.outbound_group_sessions data
  saveAll "outbound_group_session_data" (fun s ↦ .ok s.toJson)
    storage.outbound_group_session_data data

/-- The sessions that are stored under a name, if any are. -/
def loadPickles (p : Pickling α) (name : Str) (obj : Json) : Except Exn (SortedMap Str α) :=
  if obj.contains name then do
    let sessions ← (← obj.atKey name).getMap Json.getString
    sessions.entries.foldlM (fun m s ↦ do return m.insert s.1 (← p.unpickled s.2 storageKey))
      SortedMap.empty
  else return SortedMap.empty

/-- What `Storage::load` makes of the file. -/
def Storage.fromJson (obj : Json) : Except Exn (Storage olm) := do
  let devices ← (← obj.atKey "devices").getMap (Json.getArray Json.getString)
  let device_keys ← (← obj.atKey "device_keys").getMap DevKeys.fromJson
  let encrypted_rooms ← (← obj.atKey "encrypted_rooms").getMap Json.getBool
  let members ← (← obj.atKey "members").getMap (Json.getMap Json.getBool)
  let olm_inbound_sessions ← loadPickles olm.sessions "olm_inbound_sessions" obj
  let olm_outbound_sessions ← loadPickles olm.sessions "olm_outbound_sessions" obj
  let inbound_group_sessions ← loadPickles olm.inboundGroupSessions "inbound_group_sessions" obj
  let outbound_group_sessions ← loadPickles olm.outboundGroupSessions "outbound_group_sessions" obj
  let outbound_group_session_data ← obj.optional "outbound_group_session_data"
    (Json.getMap OutboundSessionData.fromJson) SortedMap.empty
  return { devices, device_keys, encrypted_rooms, members, olm_inbound_sessions,
           olm_outbound_sessions, inbound_group_sessions, outbound_group_session_data,
           outbound_group_sessions }

/-- `Storage::save`: what is in the file. -/
def Storage.save (json : JsonText) (storage : Storage olm) : Except Exn Str := do
  json.dump (← storage.toJson)

/-- `Storage::load`, where an empty file is one that is not there. -/
def Storage.load (json : JsonText) (db_data : Str) : Except Exn (Storage olm) :=
  if db_data.isEmpty then return {}
  else do Storage.fromJson (← json.parse db_data)

/-! ## What is expected of it -/

/-- Every object has a pickle, which is a text, and which the object is restored from. -/
def Pickling.Lossless (p : Pickling α) : Prop :=
  ∀ object key, ∃ pickled, p.pickle object key = some pickled ∧ validUtf8 pickled = true ∧
    p.unpickle pickled key = some object

/-- What the storage relies on. -/
structure PickleLaws (olm : SessionOlm) : Prop where
  accounts : Pickling.Lossless olm.accounts
  sessions : Pickling.Lossless olm.sessions
  inbound : Pickling.Lossless olm.inboundGroupSessions
  outbound : Pickling.Lossless olm.outboundGroupSessions

/-- The keys of the map are UTF-8, and its values satisfy `P`. -/
abbrev Texts (P : α → Prop) (m : SortedMap Str α) : Prop :=
  m.All fun k v ↦ validUtf8 k = true ∧ P v

/-- The strings in the storage are UTF-8. -/
structure Storage.Utf8 (storage : Storage olm) : Prop where
  devices : Texts (fun devices ↦ ∀ d ∈ devices, validUtf8 d = true) storage.devices
  device_keys : Texts (fun keys ↦ validUtf8 keys.ed25519 = true ∧ validUtf8 keys.curve25519 = true)
    storage.device_keys
  encrypted_rooms : Texts (fun _ ↦ True) storage.encrypted_rooms
  members : Texts (Texts fun _ ↦ True) storage.members
  olm_inbound_sessions : Texts (fun _ ↦ True) storage.olm_inbound_sessions
  olm_outbound_sessions : Texts (fun _ ↦ True) storage.olm_outbound_sessions
  inbound_group_sessions : Texts (fun _ ↦ True) storage.inbound_group_sessions
  outbound_group_session_data : Texts
    (fun data ↦ validUtf8 data.session_id = true ∧ validUtf8 data.session_key = true)
    storage.outbound_group_session_data
  outbound_group_sessions : Texts (fun _ ↦ True) storage.outbound_group_sessions

/-! ## Writing -/

/-- An object with another member, unless that has no members itself. -/
def withMembers (data : Json) (name : Str) (m : SortedMap Str Json) : Json :=
  if m.entries.isEmpty then data else data.put name (Json.ofMap id m)

theorem find?_withMembers {data : Json} (hobj : data.isObject = true) (name : Str)
    (m : SortedMap Str Json) (k : Str) : (withMembers data name m).find? k =
      if m.entries.isEmpty = false ∧ k = name then some (Json.ofMap id m) else data.find? k := by
  rw [withMembers]
  split_ifs with hempty h h
  · simp [hempty] at h
  · rfl
  · rw [Json.find?_put (.inr hobj), if_pos h.2]
  · rw [Json.find?_put (.inr hobj), if_neg fun hk ↦ h ⟨by simpa using hempty, hk⟩]

theorem isObject_withMembers {data : Json} (hobj : data.isObject = true) (name : Str)
    (m : SortedMap Str Json) : (withMembers data name m).isObject = true := by
  rw [withMembers]
  split_ifs
  · exact hobj
  · exact Json.isObject_put (.inr hobj) _ _

theorem sortedKeys_withMembers {data : Json} (hs : data.SortedKeys) (name : Str)
    (m : SortedMap Str Json) : (withMembers data name m).SortedKeys := by
  rw [withMembers]
  split_ifs
  · exact hs
  · exact hs.put _ _

/-- Writing one more member. -/
theorem setPath_withMembers {data : Json} (hs : data.SortedKeys) (hobj : data.isObject = true)
    {name : Str} (hnone : data.find? name = none) (m : SortedMap Str Json) (k : Str) (v : Json) :
    (withMembers data name m).setPath [name, k] v = .ok (withMembers data name (m.insert k v)) := by
  have hinsert : (m.insert k v).entries.isEmpty = false := by
    show (AssocList.insert k v m.entries).isEmpty = false
    cases m.entries with
    | nil => rfl
    | cons e entries =>
      rw [AssocList.insert]
      split_ifs <;> rfl
  have hchild : (((withMembers data name m).find? name).getD .null).setPath [k] v =
      .ok (Json.ofMap id (m.insert k v)) := by
    rw [find?_withMembers hobj, hnone]
    obtain ⟨entries, hsorted⟩ := m
    cases entries with
    | nil => rfl
    | cons e entries =>
      rw [if_pos ⟨rfl, rfl⟩, Option.getD_some]
      simp [Json.setPath, SortedMap.insert, Json.ofMap, Json.put]
  have hput : ∀ x, (withMembers data name m).put name x = data.put name x := by
    intro x
    have hm := isObject_withMembers hobj name m
    refine ((sortedKeys_withMembers hs name m).put _ _).ext (hs.put _ _)
      (Json.isObject_put (.inr hm) _ _) (Json.isObject_put (.inr hobj) _ _) fun k' ↦ ?_
    rw [Json.find?_put (.inr hm), Json.find?_put (.inr hobj), find?_withMembers hobj]
    split_ifs <;> simp_all
  cases hj : withMembers data name m with
  | object ms =>
    rw [Json.setPath, ← hj, hchild, ok_bind, hput, withMembers, hinsert]
    rfl
  | _ =>
    have hm := isObject_withMembers hobj name m
    rw [hj] at hm
    cases hm

/-- An object that has no members of these names. -/
structure Lacks (data : Json) (names : List Str) : Prop where
  sortedKeys : data.SortedKeys
  isObject : data.isObject = true
  find? : ∀ name ∈ names, data.find? name = none

theorem saveAll_eq {name : Str} {names : List Str} {put : α → Except Exn Json} {g : α → Json}
    {m : SortedMap Str α} {data : Json} (h : ∀ k v, m.find? k = some v → put v = .ok (g v))
    (hdata : Lacks data (name :: names)) :
    saveAll name put m data = .ok (withMembers data name (m.map g)) := by
  obtain ⟨hnone, -⟩ := List.forall_mem_cons.mp hdata.find?
  have hrun (es : List (Str × α)) (hes : ∀ e ∈ es, put e.2 = .ok (g e.2))
      (acc : SortedMap Str Json) :
      es.foldlM (fun data s ↦ do data.setPath [name, s.1] (← put s.2))
        (withMembers data name acc) =
        .ok (withMembers data name (es.foldl (fun acc e ↦ acc.insert e.1 (g e.2)) acc)) := by
    induction es generalizing acc with
    | nil => rfl
    | cons e es ih =>
      obtain ⟨he, hes⟩ := List.forall_mem_cons.mp hes
      rw [List.foldlM_cons, he, ok_bind,
        setPath_withMembers hdata.sortedKeys hdata.isObject hnone, ok_bind, ih hes, List.foldl_cons]
  rw [← SortedMap.foldl_insert_entries g m]
  exact hrun m.entries (fun e he ↦ h e.1 e.2 (SortedMap.mem_entries_iff.mp he)) SortedMap.empty

theorem Lacks.withMembers {data : Json} {name : Str} {names : List Str}
    (hdata : Lacks data (name :: names)) (hname : name ∉ names) (m : SortedMap Str Json) :
    Lacks (withMembers data name m) names where
  sortedKeys := sortedKeys_withMembers hdata.sortedKeys name m
  isObject := isObject_withMembers hdata.isObject name m
  find? k hk := by
    rw [find?_withMembers hdata.isObject, if_neg]
    · exact hdata.find? k (List.mem_cons_of_mem _ hk)
    · rintro ⟨-, rfl⟩
      exact hname hk

/-- The text that an object is stored as. -/
def pickleText (p : Pickling α) (object : α) : Str := (p.pickle object storageKey).getD []

theorem pickleJson_eq {p : Pickling α} (hp : Pickling.Lossless p) (object : α) :
    pickleJson p object = .ok (.string (pickleText p object)) := by
  obtain ⟨pickled, hpickle, -⟩ := hp object storageKey
  rw [pickleJson, Pickling.pickled, pickleText, hpickle]
  rfl

/-- Sessions as they are stored. -/
def pickles (p : Pickling α) (sessions : SortedMap Str α) : SortedMap Str Json :=
  sessions.map fun session ↦ .string (pickleText p session)

theorem savePickles_eq {p : Pickling α} (hp : Pickling.Lossless p) {data : Json} {name : Str}
    {names : List Str} (hdata : Lacks data (name :: names)) (m : SortedMap Str α) :
    saveAll name (pickleJson p) m data = .ok (withMembers data name (pickles p m)) :=
  saveAll_eq (fun _ v _ ↦ pickleJson_eq hp v) hdata

/-- The members that are only written if there are sessions. -/
def Storage.parts (storage : Storage olm) : List (Str × SortedMap Str Json) :=
  [(lit "olm_inbound_sessions", pickles olm.sessions storage.olm_inbound_sessions),
    (lit "olm_outbound_sessions", pickles olm.sessions storage.olm_outbound_sessions),
    (lit "inbound_group_sessions",
      pickles olm.inboundGroupSessions storage.inbound_group_sessions),
    (lit "outbound_group_sessions",
      pickles olm.outboundGroupSessions storage.outbound_group_sessions),
    (lit "outbound_group_session_data",
      storage.outbound_group_session_data.map OutboundSessionData.toJson)]

/-- What is written. -/
def Storage.written (storage : Storage olm) : Json :=
  storage.parts.foldl (fun data p ↦ withMembers data p.1 p.2) (Json.ofMembers storage.base)

theorem lacks_base (storage : Storage olm) :
    Lacks (Json.ofMembers storage.base) (storage.parts.map Prod.fst) where
  sortedKeys := Json.sortedKeys_ofMembers _
  isObject := Json.isObject_ofMembers_insert ..
  find? := by simp [Storage.parts, Storage.base]

theorem nodup_parts (storage : Storage olm) : (storage.parts.map Prod.fst).Nodup := by
  show [lit "olm_inbound_sessions", lit "olm_outbound_sessions", lit "inbound_group_sessions",
    lit "outbound_group_sessions", lit "outbound_group_session_data"].Nodup
  decide

/-- The storage is written, if every session has a pickle. -/
theorem toJson_eq (laws : PickleLaws olm) (storage : Storage olm) :
    storage.toJson = .ok storage.written := by
  have h₀ := lacks_base storage
  have hnodup := nodup_parts storage
  simp only [Storage.parts, List.map_cons, List.map_nil, List.nodup_cons] at h₀ hnodup
  have h₁ := h₀.withMembers hnodup.1 (pickles olm.sessions storage.olm_inbound_sessions)
  have h₂ := h₁.withMembers hnodup.2.1 (pickles olm.sessions storage.olm_outbound_sessions)
  have h₃ := h₂.withMembers hnodup.2.2.1
    (pickles olm.inboundGroupSessions storage.inbound_group_sessions)
  have h₄ := h₃.withMembers hnodup.2.2.2.1
    (pickles olm.outboundGroupSessions storage.outbound_group_sessions)
  rw [Storage.toJson, savePickles_eq laws.sessions h₀, ok_bind, savePickles_eq laws.sessions h₁,
    ok_bind, savePickles_eq laws.inbound h₂, ok_bind, savePickles_eq laws.outbound h₃, ok_bind,
    saveAll_eq (fun _ _ _ ↦ rfl) h₄]
  rfl

/-! ## Reading -/

/-- A map that is not written if it is empty. -/
def unlessEmpty (m : SortedMap Str Json) : Option Json :=
  if m.entries.isEmpty then none else some (Json.ofMap id m)

theorem find?_foldl_withMembers {parts : List (Str × SortedMap Str Json)} {data : Json}
    (hdata : Lacks data (parts.map Prod.fst)) (hnodup : (parts.map Prod.fst).Nodup) :
    (∀ p ∈ parts, (parts.foldl (fun data p ↦ withMembers data p.1 p.2) data).find? p.1 =
      unlessEmpty p.2) ∧
    ∀ k ∉ parts.map Prod.fst,
      (parts.foldl (fun data p ↦ withMembers data p.1 p.2) data).find? k = data.find? k := by
  induction parts generalizing data with
  | nil => exact ⟨by simp, fun _ _ ↦ rfl⟩
  | cons p parts ih =>
    rw [List.map_cons] at hdata hnodup ⊢
    obtain ⟨hp, hnodup⟩ := List.nodup_cons.mp hnodup
    obtain ⟨hparts, hother⟩ := ih (hdata.withMembers hp p.2) hnodup
    simp only [List.foldl_cons]
    constructor
    · refine List.forall_mem_cons.mpr ⟨?_, hparts⟩
      rw [hother _ hp, find?_withMembers hdata.isObject, hdata.find? _ List.mem_cons_self,
        unlessEmpty]
      cases p.2.entries.isEmpty <;> simp
    · intro k hk
      obtain ⟨hne, hk⟩ := not_or.mp (mt List.mem_cons.mpr hk)
      rw [hother _ hk, find?_withMembers hdata.isObject, if_neg fun h ↦ hne h.2]

theorem find?_written_part (storage : Storage olm) {name : Str} {m : SortedMap Str Json}
    (h : (name, m) ∈ storage.parts) : storage.written.find? name = unlessEmpty m :=
  (find?_foldl_withMembers (lacks_base storage) (nodup_parts storage)).1 _ h

theorem find?_written_base (storage : Storage olm) {k : Str} {v : Json}
    (h : storage.base.find? k = some v) : storage.written.find? k = some v := by
  have hlacks := (find?_foldl_withMembers (lacks_base storage) (nodup_parts storage)).2 k
  refine (hlacks fun hk ↦ ?_).trans ((Json.find?_ofMembers _ k).trans h)
  have hnone := (lacks_base storage).find? k hk
  rw [Json.find?_ofMembers, h] at hnone
  cases hnone

theorem unlessEmpty_map (m : SortedMap Str α) (g : α → Json) :
    (m = SortedMap.empty ∧ unlessEmpty (m.map g) = none) ∨
      unlessEmpty (m.map g) = some (Json.ofMap g m) := by
  obtain ⟨entries, hsorted⟩ := m
  cases entries with
  | nil => exact .inl ⟨rfl, rfl⟩
  | cons e entries =>
    refine .inr (congrArg some ?_)
    rw [Json.ofMap, SortedMap.map, List.map_map]
    rfl

theorem loadPickles_eq {p : Pickling α} (hp : Pickling.Lossless p) {name : Str}
    {m : SortedMap Str α} {obj : Json} (h : obj.find? name = unlessEmpty (pickles p m)) :
    loadPickles p name obj = .ok m := by
  rw [loadPickles]
  rcases unlessEmpty_map m fun session ↦ .string (pickleText p session) with ⟨rfl, hnone⟩ | hsome
  · rw [if_neg (Json.contains_eq_false_iff.mpr (h.trans hnone) ▸ Bool.false_ne_true)]
    rfl
  · have hfind := h.trans hsome
    have hstep (e : Str × α) (acc : SortedMap Str α) :
        (do return acc.insert e.1 (← p.unpickled (pickleText p e.2) storageKey) : Except Exn _) =
          .ok (acc.insert e.1 (id e.2)) := by
      obtain ⟨pickled, hpickle, -, hunpickle⟩ := hp e.2 storageKey
      rw [Pickling.unpickled, pickleText, hpickle, Option.getD_some, hunpickle]
      rfl
    rw [if_pos (Json.contains_eq_true_iff.mpr ⟨_, hfind⟩), Json.atKey_of_find? hfind, ok_bind,
      Json.getMap_ofMap_map fun session ↦ Json.getString_string (pickleText p session), ok_bind,
      SortedMap.map, List.foldlM_map, SortedMap.foldlM_insert m fun e _ acc _ ↦ hstep e acc]
    exact congrArg _ (SortedMap.ext fun k ↦ by simp)

theorem DevKeys.fromJson_toJson (msg : DevKeys) : DevKeys.fromJson msg.toJson = .ok msg := by
  simp [DevKeys.fromJson, DevKeys.toJson, Json.atKey_eq]

theorem OutboundSessionData.fromJson_toJson (msg : OutboundSessionData) :
    OutboundSessionData.fromJson msg.toJson = .ok msg := by
  simp [OutboundSessionData.fromJson, OutboundSessionData.toJson, Json.atKey_eq, Json.getUInt64]

/-- What is written is read back. -/
theorem fromJson_written (laws : PickleLaws olm) (storage : Storage olm) :
    Storage.fromJson storage.written = .ok storage := by
  have hbase (k : Str) (v : Json) (h : storage.base.find? k = some v) :=
    Json.atKey_of_find? (find?_written_base storage h)
  have hpart (k : Str) (m : SortedMap Str Json) (h : (k, m) ∈ storage.parts) :=
    find?_written_part storage h
  have hdata : storage.written.optional "outbound_group_session_data"
      (Json.getMap OutboundSessionData.fromJson) SortedMap.empty =
        .ok storage.outbound_group_session_data := by
    have hfind := hpart "outbound_group_session_data" _ (by simp [Storage.parts]; rfl)
    rcases unlessEmpty_map storage.outbound_group_session_data OutboundSessionData.toJson with
      ⟨hempty, hnone⟩ | hsome
    · rw [Json.optional_of_find?_none (hfind.trans hnone), hempty]
    · rw [Json.optional_of_find? (hfind.trans hsome),
        Json.getMap_ofMap OutboundSessionData.fromJson_toJson]
  rw [Storage.fromJson, hdata,
    hbase "devices" (Json.ofMap (Json.ofArray .string) storage.devices) (by simp [Storage.base]),
    hbase "device_keys" (Json.ofMap DevKeys.toJson storage.device_keys) (by simp [Storage.base]),
    hbase "encrypted_rooms" (Json.ofMap .boolean storage.encrypted_rooms) (by simp [Storage.base]),
    hbase "members" (Json.ofMap (Json.ofMap .boolean) storage.members) (by simp [Storage.base]),
    loadPickles_eq laws.sessions (hpart "olm_inbound_sessions" _ (by simp [Storage.parts]; rfl)),
    loadPickles_eq laws.sessions (hpart "olm_outbound_sessions" _ (by simp [Storage.parts]; rfl)),
    loadPickles_eq laws.inbound (hpart "inbound_group_sessions" _ (by simp [Storage.parts]; rfl)),
    loadPickles_eq laws.outbound (hpart "outbound_group_sessions" _ (by simp [Storage.parts]; rfl))]
  simp only [ok_bind,
    Json.getMap_ofMap (Json.getArray_ofArray Json.getString_string) storage.devices,
    Json.getMap_ofMap DevKeys.fromJson_toJson,
    Json.getMap_ofMap (fun b ↦ (rfl : (Json.boolean b).getBool = .ok b)),
    Json.getMap_ofMap (Json.getMap_ofMap fun b ↦ (rfl : (Json.boolean b).getBool = .ok b))]
  rfl

/-! ## Texts -/

theorem validUtf8_withMembers {data : Json} (hdata : data.validUtf8 = true) {name : Str}
    (hname : validUtf8 name = true) {m : SortedMap Str Json}
    (hm : Texts (fun v ↦ v.validUtf8 = true) m) : (withMembers data name m).validUtf8 = true := by
  rw [withMembers]
  split_ifs
  · exact hdata
  · exact Json.validUtf8_put hdata hname (Json.validUtf8_ofMap hm)

theorem validUtf8_foldl_withMembers {parts : List (Str × SortedMap Str Json)} {data : Json}
    (hdata : data.validUtf8 = true)
    (hparts : ∀ p ∈ parts, validUtf8 p.1 = true ∧ Texts (fun v ↦ v.validUtf8 = true) p.2) :
    (parts.foldl (fun data p ↦ withMembers data p.1 p.2) data).validUtf8 = true := by
  induction parts generalizing data with
  | nil => exact hdata
  | cons p parts ih =>
    obtain ⟨⟨hname, hm⟩, hparts⟩ := List.forall_mem_cons.mp hparts
    exact ih (validUtf8_withMembers hdata hname hm) hparts

theorem texts_map {β : Type} {P : α → Prop} {Q : β → Prop} {m : SortedMap Str α} {g : α → β}
    (hm : Texts P m) (h : ∀ a, P a → Q (g a)) : Texts Q (m.map g) := by
  intro k v hv
  rw [SortedMap.find?_map, Option.map_eq_some_iff] at hv
  obtain ⟨a, ha, rfl⟩ := hv
  exact ⟨(hm k a ha).1, h a (hm k a ha).2⟩

theorem validUtf8_pickleText {p : Pickling α} (hp : Pickling.Lossless p) (object : α) :
    validUtf8 (pickleText p object) = true := by
  obtain ⟨pickled, hpickle, hvalid, -⟩ := hp object storageKey
  rwa [pickleText, hpickle]

theorem texts_pickles {p : Pickling α} (hp : Pickling.Lossless p) {sessions : SortedMap Str α}
    (h : Texts (fun _ ↦ True) sessions) : Texts (fun v ↦ v.validUtf8 = true) (pickles p sessions) :=
  texts_map h fun session _ ↦ validUtf8_pickleText hp session

theorem DevKeys.validUtf8_toJson {msg : DevKeys} (hed : validUtf8 msg.ed25519 = true)
    (hcurve : validUtf8 msg.curve25519 = true) : msg.toJson.validUtf8 = true := by
  have hempty : Json.noMembers.All fun k v ↦ validUtf8 k = true ∧ v.validUtf8 = true := .empty
  exact Json.validUtf8_ofMembers ((hempty.insert ⟨by decide, by exact hed⟩).insert
    ⟨by decide, by exact hcurve⟩)

theorem OutboundSessionData.validUtf8_toJson {msg : OutboundSessionData}
    (hid : validUtf8 msg.session_id = true) (hkey : validUtf8 msg.session_key = true) :
    msg.toJson.validUtf8 = true := by
  have hempty : Json.noMembers.All fun k v ↦ validUtf8 k = true ∧ v.validUtf8 = true := .empty
  exact Json.validUtf8_ofMembers (((hempty.insert ⟨by decide, by exact hid⟩).insert
    ⟨by decide, by exact hkey⟩).insert ⟨by decide, rfl⟩)

theorem Storage.Utf8.base {storage : Storage olm} (h : storage.Utf8) :
    (Json.ofMembers storage.base).validUtf8 = true := by
  have hempty : Json.noMembers.All fun k v ↦ validUtf8 k = true ∧ v.validUtf8 = true := .empty
  refine Json.validUtf8_ofMembers ((((hempty.insert ⟨by decide, ?_⟩).insert
    ⟨by decide, ?_⟩).insert ⟨by decide, ?_⟩).insert ⟨by decide, ?_⟩)
  · exact Json.validUtf8_ofMap fun k v hv ↦
      ⟨(h.devices k v hv).1, Json.validUtf8_ofArray_string (h.devices k v hv).2⟩
  · exact Json.validUtf8_ofMap fun k v hv ↦ ⟨(h.device_keys k v hv).1,
      DevKeys.validUtf8_toJson (h.device_keys k v hv).2.1 (h.device_keys k v hv).2.2⟩
  · exact Json.validUtf8_ofMap fun k v hv ↦ ⟨(h.encrypted_rooms k v hv).1, rfl⟩
  · exact Json.validUtf8_ofMap fun k v hv ↦ ⟨(h.members k v hv).1,
      Json.validUtf8_ofMap fun u b hb ↦ ⟨((h.members k v hv).2 u b hb).1, rfl⟩⟩

theorem Storage.Utf8.written (laws : PickleLaws olm) {storage : Storage olm} (h : storage.Utf8) :
    storage.written.validUtf8 = true := by
  have hnames : ∀ p ∈ storage.parts, validUtf8 p.1 = true := fun p hp ↦ by
    have hall : ∀ name ∈ storage.parts.map Prod.fst, validUtf8 name = true := by
      show ∀ name ∈ [lit "olm_inbound_sessions", lit "olm_outbound_sessions",
        lit "inbound_group_sessions", lit "outbound_group_sessions",
        lit "outbound_group_session_data"], validUtf8 name = true
      decide
    exact hall _ (List.mem_map_of_mem hp)
  refine validUtf8_foldl_withMembers h.base fun p hp ↦ ⟨hnames p hp, ?_⟩
  simp only [Storage.parts, List.mem_cons, List.not_mem_nil, or_false] at hp
  obtain rfl | rfl | rfl | rfl | rfl := hp
  · exact texts_pickles laws.sessions h.olm_inbound_sessions
  · exact texts_pickles laws.sessions h.olm_outbound_sessions
  · exact texts_pickles laws.inbound h.inbound_group_sessions
  · exact texts_pickles laws.outbound h.outbound_group_sessions
  · exact texts_map h.outbound_group_session_data fun data hdata ↦
      OutboundSessionData.validUtf8_toJson hdata.1 hdata.2

/-- A text that is read back is not empty. -/
theorem isEmpty_text {json : JsonText} (hempty : ∀ j, json.parse [] ≠ .ok j) {j : Json}
    (h : json.Restores j) : (json.text j).isEmpty = false := by
  rw [JsonText.Restores] at h
  cases htext : json.text j with
  | nil =>
    rw [htext] at h
    exact absurd h (hempty j)
  | cons b bs => rfl

/-- **Nothing is lost on the way through the file.** -/
theorem load_save (laws : PickleLaws olm) {json : JsonText} (hempty : ∀ j, json.parse [] ≠ .ok j)
    {storage : Storage olm} (h : storage.Utf8) (hrestores : json.Restores storage.written) :
    ∃ db_data, storage.save json = .ok db_data ∧ Storage.load json db_data = .ok storage := by
  refine ⟨json.text storage.written, ?_, ?_⟩
  · rw [Storage.save, toJson_eq laws, ok_bind, json.dump_of_validUtf8 (h.written laws)]
  · rw [Storage.load, isEmpty_text hempty hrestores, if_neg Bool.false_ne_true, hrestores, ok_bind,
      fromJson_written laws]

end Mtx.Programs
