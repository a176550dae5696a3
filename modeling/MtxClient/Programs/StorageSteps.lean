import Mathlib.Logic.Relation
import MtxClient.Programs.BotStorage
import MtxClient.Responses.Sync

/-!
# What happens to the storage

The encrypting bot writes to its storage in a few places.  `Storage.Step` lists them, with what the
bot knows where it writes; it is all that the rest of the program has to be known for.  Two things
follow.  The strings in the storage stay UTF-8, so that it can be written to the file at any time.
And the storage only grows: the keys of a device stay those that were seen first, and so do the
sessions, though those of a group move on as they are used.  Only `olm_outbound_sessions` may be
overwritten: there the bot keeps the session that it made last for a device.
-/

set_option autoImplicit false

namespace Mtx.Programs

open Str Crypto Responses

variable {olm : SessionOlm}

/-! ## Writing to the storage -/

namespace Storage

/-- `Storage::add_member`. -/
def addMember (room_id user_id : Str) (s : Storage olm) : Storage olm :=
  { s with
    members := s.members.insert room_id
      (((s.members.find? room_id).getD SortedMap.empty).insert user_id true) }

/-- `devices[user_id] = device_list`, unless the user has devices. -/
def emplaceDevices (user_id : Str) (device_list : List Str) (s : Storage olm) : Storage olm :=
  { s with devices := emplace s.devices user_id device_list }

/-- `device_keys[dev] = keys`. -/
def setDeviceKeys (dev : Str) (keys : DevKeys) (s : Storage olm) : Storage olm :=
  { s with device_keys := s.device_keys.insert dev keys }

/-- `encrypted_rooms[room_id] = true`. -/
def setEncrypted (room_id : Str) (s : Storage olm) : Storage olm :=
  { s with encrypted_rooms := s.encrypted_rooms.insert room_id true }

/-- `olm_inbound_sessions.emplace(sender_key, session)`. -/
def emplaceOlmInboundSession (sender_key : Str) (session : olm.Session) (s : Storage olm) :
    Storage olm :=
  { s with olm_inbound_sessions := emplace s.olm_inbound_sessions sender_key session }

/-- `olm_outbound_sessions[id_key] = session`. -/
def setOlmOutboundSession (id_key : Str) (session : olm.Session) (s : Storage olm) :
    Storage olm :=
  { s with olm_outbound_sessions := s.olm_outbound_sessions.insert id_key session }

/-- What encrypting with a group session leaves. -/
def advanceOutbound (room_id : Str) (session : olm.OutboundGroupSession) (s : Storage olm) :
    Storage olm :=
  { s with outbound_group_sessions := s.outbound_group_sessions.insert room_id session }

/-- What decrypting with a group session leaves. -/
def advanceInbound (key : Str) (session : olm.InboundGroupSession) (s : Storage olm) :
    Storage olm :=
  { s with inbound_group_sessions := s.inbound_group_sessions.insert key session }

/-- `Storage::set_outbound_group_session`. -/
def setOutboundGroupSession (room_id : Str) (session : olm.OutboundGroupSession)
    (data : OutboundSessionData) (s : Storage olm) : Storage olm :=
  { s with
    outbound_group_session_data := s.outbound_group_session_data.insert room_id data
    outbound_group_sessions := s.outbound_group_sessions.insert room_id session }

/-- The key of an inbound group session. -/
def groupKey (room_id session_id sender_key : Str) : Str := room_id ++ session_id ++ sender_key

/-- `Storage::inbound_group_exists`. -/
def inboundGroupExists (s : Storage olm) (room_id session_id sender_key : Str) : Bool :=
  (s.inbound_group_sessions.find? (groupKey room_id session_id sender_key)).isSome

/-- `Storage::set_inbound_group_session`. -/
def setInboundGroupSession (room_id session_id sender_key : Str)
    (session : olm.InboundGroupSession) (s : Storage olm) : Storage olm :=
  { s with
    inbound_group_sessions :=
      s.inbound_group_sessions.insert (groupKey room_id session_id sender_key) session }

/-- There is a group session for the room. -/
def HasOutbound (s : Storage olm) (room_id : Str) : Prop :=
  (∃ session, s.outbound_group_sessions.find? room_id = some session) ∧
    ∃ data, s.outbound_group_session_data.find? room_id = some data

end Storage

/-! ## Steps -/

/-- What the bot does to its storage. -/
inductive Storage.Step : Storage olm → Storage olm → Prop
  | addMember {s : Storage olm} {room_id user_id : Str} (hroom : validUtf8 room_id = true)
    (huser : validUtf8 user_id = true) : Step s (s.addMember room_id user_id)
  | emplaceDevices {s : Storage olm} {user_id : Str} {device_list : List Str}
    (huser : validUtf8 user_id = true) (hdevices : ∀ d ∈ device_list, validUtf8 d = true) :
    Step s (s.emplaceDevices user_id device_list)
  | setDeviceKeys {s : Storage olm} {dev : Str} {keys : DevKeys}
    (hnew : s.device_keys.find? dev = none) (hdev : validUtf8 dev = true)
    (hed : validUtf8 keys.ed25519 = true) (hcurve : validUtf8 keys.curve25519 = true) :
    Step s (s.setDeviceKeys dev keys)
  | setEncrypted {s : Storage olm} {room_id : Str} (hroom : validUtf8 room_id = true) :
    Step s (s.setEncrypted room_id)
  | emplaceOlmInboundSession {s : Storage olm} {sender_key : Str} {session : olm.Session}
    (hkey : validUtf8 sender_key = true) : Step s (s.emplaceOlmInboundSession sender_key session)
  | setOlmOutboundSession {s : Storage olm} {id_key : Str} {session : olm.Session}
    (hkey : validUtf8 id_key = true) : Step s (s.setOlmOutboundSession id_key session)
  | setInboundGroupSession {s : Storage olm} {room_id session_id sender_key : Str}
    {session : olm.InboundGroupSession}
    (hnew : s.inboundGroupExists room_id session_id sender_key = false)
    (hkey : validUtf8 (Storage.groupKey room_id session_id sender_key) = true) :
    Step s (s.setInboundGroupSession room_id session_id sender_key session)
  | advanceInbound {s : Storage olm} {key message : Str}
    {session session' : olm.InboundGroupSession} {res : Str × UInt32}
    (hsome : s.inbound_group_sessions.find? key = some session)
    (hdecrypt : olm.groupDecrypt session message = some (res, session')) :
    Step s (s.advanceInbound key session')
  | setOutboundGroupSession {s : Storage olm} {room_id : Str}
    {session : olm.OutboundGroupSession} {data : OutboundSessionData}
    (hnew : ¬ s.HasOutbound room_id) (hroom : validUtf8 room_id = true)
    (hid : validUtf8 data.session_id = true) (hkey : validUtf8 data.session_key = true) :
    Step s (s.setOutboundGroupSession room_id session data)
  | advanceOutbound {s : Storage olm} {room_id plaintext ciphertext : Str}
    {session session' : olm.OutboundGroupSession}
    (hsome : s.outbound_group_sessions.find? room_id = some session)
    (hencrypt : olm.groupEncrypt session plaintext = some (ciphertext, session')) :
    Step s (s.advanceOutbound room_id session')

/-- Any number of steps. -/
abbrev Storage.Steps : Storage olm → Storage olm → Prop := Relation.ReflTransGen Storage.Step

/-! ## The strings stay UTF-8 -/

theorem texts_insert {α : Type} {P : α → Prop} {m : SortedMap Str α} (hm : Texts P m) {k : Str}
    (hk : validUtf8 k = true) {v : α} (hv : P v) : Texts P (m.insert k v) :=
  SortedMap.All.insert hm ⟨hk, hv⟩

theorem texts_emplace {α : Type} {P : α → Prop} {m : SortedMap Str α} (hm : Texts P m) {k : Str}
    (hk : validUtf8 k = true) {v : α} (hv : P v) : Texts P (emplace m k v) := by
  rw [emplace]
  split_ifs
  · exact hm
  · exact texts_insert hm hk hv

theorem Storage.Step.utf8 {s s' : Storage olm} (h : Step s s') (hs : s.Utf8) : s'.Utf8 := by
  cases h with
  | addMember hroom huser =>
    refine { hs with members := texts_insert hs.members hroom ?_ }
    refine texts_insert ?_ huser trivial
    cases hfind : s.members.find? _ with
    | none => exact SortedMap.All.empty
    | some members => exact (hs.members _ members hfind).2
  | emplaceDevices huser hdevices =>
    exact { hs with devices := texts_emplace hs.devices huser hdevices }
  | setDeviceKeys _ hdev hed hcurve =>
    exact { hs with device_keys := texts_insert hs.device_keys hdev ⟨hed, hcurve⟩ }
  | setEncrypted hroom =>
    exact { hs with encrypted_rooms := texts_insert hs.encrypted_rooms hroom trivial }
  | emplaceOlmInboundSession hkey =>
    exact { hs with olm_inbound_sessions := texts_emplace hs.olm_inbound_sessions hkey trivial }
  | setOlmOutboundSession hkey =>
    exact { hs with olm_outbound_sessions := texts_insert hs.olm_outbound_sessions hkey trivial }
  | setInboundGroupSession _ hkey =>
    exact { hs with inbound_group_sessions := texts_insert hs.inbound_group_sessions hkey trivial }
  | advanceInbound hsome _ =>
    exact { hs with
      inbound_group_sessions :=
        texts_insert hs.inbound_group_sessions (hs.inbound_group_sessions _ _ hsome).1 trivial }
  | setOutboundGroupSession _ hroom hid hkey =>
    exact { hs with
      outbound_group_session_data :=
        texts_insert hs.outbound_group_session_data hroom ⟨hid, hkey⟩
      outbound_group_sessions := texts_insert hs.outbound_group_sessions hroom trivial }
  | advanceOutbound hsome _ =>
    exact { hs with
      outbound_group_sessions :=
        texts_insert hs.outbound_group_sessions (hs.outbound_group_sessions _ _ hsome).1 trivial }

theorem Storage.Steps.utf8 {s s' : Storage olm} (h : Steps s s') (hs : s.Utf8) : s'.Utf8 := by
  induction h with
  | refl => exact hs
  | tail _ hstep ih => exact hstep.utf8 ih

/-! ## The storage grows -/

/-- The session is the other one, after it decrypted messages. -/
abbrev Decrypts (x y : olm.InboundGroupSession) : Prop :=
  Relation.ReflTransGen (fun x y ↦ ∃ message res, olm.groupDecrypt x message = some (res, y)) x y

/-- The session is the other one, after it encrypted messages. -/
abbrev Encrypts (x y : olm.OutboundGroupSession) : Prop :=
  Relation.ReflTransGen
    (fun x y ↦ ∃ plaintext ciphertext, olm.groupEncrypt x plaintext = some (ciphertext, y)) x y

/-- A user was seen in a room. -/
def Storage.IsMember (s : Storage olm) (room_id user_id : Str) : Prop :=
  ∃ members, s.members.find? room_id = some members ∧ members.find? user_id = some true

/-- What was known before is still known. -/
structure Storage.Grows (s s' : Storage olm) : Prop where
  devices : ∀ u devices, s.devices.find? u = some devices → s'.devices.find? u = some devices
  device_keys : ∀ dev keys, s.device_keys.find? dev = some keys →
    s'.device_keys.find? dev = some keys
  encrypted_rooms : ∀ room_id, s.encrypted_rooms.find? room_id = some true →
    s'.encrypted_rooms.find? room_id = some true
  members : ∀ room_id user_id, s.IsMember room_id user_id → s'.IsMember room_id user_id
  olm_inbound_sessions : ∀ k session, s.olm_inbound_sessions.find? k = some session →
    s'.olm_inbound_sessions.find? k = some session
  olm_outbound_sessions : ∀ k session, s.olm_outbound_sessions.find? k = some session →
    ∃ session', s'.olm_outbound_sessions.find? k = some session'
  inbound_group_sessions : ∀ k session, s.inbound_group_sessions.find? k = some session →
    ∃ session', s'.inbound_group_sessions.find? k = some session' ∧ Decrypts session session'
  outbound_group_sessions : ∀ room_id session data,
    s.outbound_group_sessions.find? room_id = some session →
    s.outbound_group_session_data.find? room_id = some data →
    s'.outbound_group_session_data.find? room_id = some data ∧
      ∃ session', s'.outbound_group_sessions.find? room_id = some session' ∧
        Encrypts session session'

theorem Storage.Grows.refl (s : Storage olm) : s.Grows s where
  devices _ _ h := h
  device_keys _ _ h := h
  encrypted_rooms _ h := h
  members _ _ h := h
  olm_inbound_sessions _ _ h := h
  olm_outbound_sessions _ session h := ⟨session, h⟩
  inbound_group_sessions _ session h := ⟨session, h, .refl⟩
  outbound_group_sessions _ session _ h hdata := ⟨hdata, session, h, .refl⟩

theorem Storage.Grows.trans {s s' s'' : Storage olm} (h : s.Grows s') (h' : s'.Grows s'') :
    s.Grows s'' where
  devices u devices hu := h'.devices u devices (h.devices u devices hu)
  device_keys dev keys hdev := h'.device_keys dev keys (h.device_keys dev keys hdev)
  encrypted_rooms room_id hr := h'.encrypted_rooms room_id (h.encrypted_rooms room_id hr)
  members room_id user_id hm := h'.members room_id user_id (h.members room_id user_id hm)
  olm_inbound_sessions k session hk :=
    h'.olm_inbound_sessions k session (h.olm_inbound_sessions k session hk)
  olm_outbound_sessions k session hk := by
    obtain ⟨session', hk'⟩ := h.olm_outbound_sessions k session hk
    exact h'.olm_outbound_sessions k session' hk'
  inbound_group_sessions k session hk := by
    obtain ⟨session', hk', hdecrypts⟩ := h.inbound_group_sessions k session hk
    obtain ⟨session'', hk'', hdecrypts'⟩ := h'.inbound_group_sessions k session' hk'
    exact ⟨session'', hk'', hdecrypts.trans hdecrypts'⟩
  outbound_group_sessions room_id session data hk hdata := by
    obtain ⟨hdata', session', hk', hencrypts⟩ :=
      h.outbound_group_sessions room_id session data hk hdata
    obtain ⟨hdata'', session'', hk'', hencrypts'⟩ :=
      h'.outbound_group_sessions room_id session' data hk' hdata'
    exact ⟨hdata'', session'', hk'', hencrypts.trans hencrypts'⟩

/-- An entry that is there when something is put elsewhere, or only where nothing is. -/
theorem find?_insert_of_new {α : Type} {m : SortedMap Str α} {k k' : Str} {v v' : α}
    (hnew : m.find? k = none) (h : m.find? k' = some v') : (m.insert k v).find? k' = some v' := by
  rw [SortedMap.find?_insert, if_neg]
  · exact h
  · rintro rfl
    rw [hnew] at h
    cases h

theorem find?_emplace_of_some {α : Type} {m : SortedMap Str α} {k k' : Str} {v v' : α}
    (h : m.find? k' = some v') : (emplace m k v).find? k' = some v' := by
  rw [emplace]
  split_ifs with hk
  · exact h
  · exact find?_insert_of_new (Option.not_isSome_iff_eq_none.mp hk) h

/-- An entry that moves on where something is put in its place. -/
theorem exists_find?_insert {α : Type} {R : α → α → Prop} (hrefl : ∀ a, R a a) {m : SortedMap Str α}
    {k k' : Str} {v v' w : α} (hk : m.find? k = some v) (hw : R v w) (h : m.find? k' = some v') :
    ∃ w', (m.insert k w).find? k' = some w' ∧ R v' w' := by
  rw [SortedMap.find?_insert]
  split_ifs with hkk
  · rw [hkk, hk] at h
    exact ⟨w, rfl, Option.some.inj h ▸ hw⟩
  · exact ⟨v', h, hrefl v'⟩

theorem isMember_addMember {s : Storage olm} {room_id user_id r u : Str}
    (h : s.IsMember r u) : (s.addMember room_id user_id).IsMember r u := by
  obtain ⟨members, hr, hu⟩ := h
  by_cases hroom : r = room_id
  · subst hroom
    refine ⟨members.insert user_id true, ?_, ?_⟩
    · rw [Storage.addMember, hr]
      exact (SortedMap.find?_insert _ r r _).trans (if_pos rfl)
    · rw [SortedMap.find?_insert, hu, ite_self]
  · exact ⟨members, ((SortedMap.find?_insert _ room_id r _).trans (if_neg hroom)).trans hr, hu⟩

/-- A group session is only set for a room that has none. -/
theorem grows_set_outbound {s : Storage olm} {room_id : Str} {session : olm.OutboundGroupSession}
    {data : OutboundSessionData} (hnew : ¬ s.HasOutbound room_id) :
    s.Grows (s.setOutboundGroupSession room_id session data) := by
  refine { Storage.Grows.refl s with outbound_group_sessions := fun r x d hx hd ↦ ?_ }
  have hne : r ≠ room_id := by
    rintro rfl
    exact hnew ⟨⟨x, hx⟩, d, hd⟩
  refine ⟨?_, x, ?_, .refl⟩
  · exact (SortedMap.find?_insert _ room_id r _).trans ((if_neg hne).trans hd)
  · exact (SortedMap.find?_insert _ room_id r _).trans ((if_neg hne).trans hx)

theorem Storage.Step.grows {s s' : Storage olm} (h : Step s s') : s.Grows s' := by
  have hrefl := Storage.Grows.refl s
  cases h with
  | addMember => exact { hrefl with members := fun _ _ ↦ isMember_addMember }
  | emplaceDevices => exact { hrefl with devices := fun _ _ ↦ find?_emplace_of_some }
  | setDeviceKeys hnew =>
    exact { hrefl with device_keys := fun _ _ ↦ find?_insert_of_new hnew }
  | setEncrypted =>
    refine { hrefl with encrypted_rooms := fun r hr ↦ ?_ }
    exact (SortedMap.find?_insert _ _ r _).trans (by rw [hr, ite_self])
  | emplaceOlmInboundSession =>
    exact { hrefl with olm_inbound_sessions := fun _ _ ↦ find?_emplace_of_some }
  | setOlmOutboundSession =>
    refine { hrefl with olm_outbound_sessions := fun k session hk ↦ ?_ }
    rw [Storage.setOlmOutboundSession, SortedMap.find?_insert, hk]
    split_ifs
    · exact ⟨_, rfl⟩
    · exact ⟨session, rfl⟩
  | setInboundGroupSession hnew =>
    refine { hrefl with inbound_group_sessions := fun k session hk ↦ ⟨session, ?_, .refl⟩ }
    exact find?_insert_of_new (Option.isNone_iff_eq_none.mp (Option.isSome_eq_false_iff.mp hnew)) hk
  | advanceInbound hsome hdecrypt =>
    refine { hrefl with inbound_group_sessions := fun k session hk ↦ ?_ }
    exact exists_find?_insert (R := Decrypts) (fun _ ↦ .refl) hsome (.single ⟨_, _, hdecrypt⟩) hk
  | setOutboundGroupSession hnew => exact grows_set_outbound hnew
  | advanceOutbound hsome hencrypt =>
    refine { hrefl with outbound_group_sessions := fun r session data hr hdata ↦ ⟨hdata, ?_⟩ }
    exact exists_find?_insert (R := Encrypts) (fun _ ↦ .refl) hsome (.single ⟨_, _, hencrypt⟩) hr

theorem Storage.Steps.grows {s s' : Storage olm} (h : Steps s s') : s.Grows s' := by
  induction h with
  | refl => exact .refl s
  | tail _ hstep ih => exact ih.trans hstep.grows

end Mtx.Programs
