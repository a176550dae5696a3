import MtxClient.Lib.Decimal
import MtxClient.Responses.Keys
import MtxClient.Responses.Limits

/-!
# The strings of an answer

Only texts that are UTF-8 are parsed, and then so is every string that is read from them: the names
of rooms, the state keys of their events, and what an answer says about the keys of devices.
-/

set_option autoImplicit false

namespace Mtx.Responses

open Str Events
open Crypto (DeviceKeys)

variable {j v : Json}

/-! ## Inside a value -/

theorem validUtf8_elements (hj : j.validUtf8 = true) : ∀ e ∈ j.elements, e.validUtf8 = true := by
  intro e he
  cases j with
  | null => cases he
  | array xs => exact (Json.validUtf8List_iff xs).mp hj e he
  | object ms =>
    obtain ⟨x, hx, rfl⟩ := List.mem_map.mp he
    exact ((Json.validUtf8Members_iff ms).mp hj x hx).2
  | _ => rwa [List.mem_singleton.mp he]

theorem validUtf8_toString (n : ℕ) : validUtf8 (lit (toString n)) = true := by
  refine validUtf8_of_ascii fun b hb ↦ ?_
  have hdigits := (Decimal.isNumber_iff.mp (Decimal.isNumber_repr n).1).2
  exact lt_of_le_of_lt (Decimal.isdigit_iff.mp (hdigits b hb)).2 (by decide)

theorem validUtf8_items (hj : j.validUtf8 = true) :
    ∀ e ∈ j.items, validUtf8 e.1 = true ∧ e.2.validUtf8 = true := by
  intro e he
  cases j with
  | null => cases he
  | array xs =>
    obtain ⟨i, hi, rfl⟩ := List.mem_mapIdx.mp he
    exact ⟨validUtf8_toString i, (Json.validUtf8List_iff xs).mp hj _ (List.getElem_mem hi)⟩
  | object ms => exact (Json.validUtf8Members_iff ms).mp hj e he
  | _ =>
    obtain rfl := List.mem_singleton.mp he
    exact ⟨rfl, hj⟩

theorem validUtf8_of_follow {path : List Str} (hj : j.validUtf8 = true)
    (h : follow j path = some v) : v.validUtf8 = true := by
  induction path generalizing j with
  | nil => rwa [← Option.some.inj h]
  | cons key path ih =>
    obtain ⟨w, hw, hv⟩ := Option.bind_eq_some_iff.mp h
    exact ih (Json.validUtf8_of_find? hj hw) hv

theorem validUtf8_elementsAt (hj : j.validUtf8 = true) (path : List Str) :
    ∀ e ∈ elementsAt j path, e.validUtf8 = true := by
  rw [elementsAt]
  cases hv : follow j path with
  | none => exact fun e he ↦ absurd he List.not_mem_nil
  | some v => exact validUtf8_elements (validUtf8_of_follow hj hv)

theorem validUtf8_itemsAt (hj : j.validUtf8 = true) (path : List Str) :
    ∀ e ∈ itemsAt j path, validUtf8 e.1 = true ∧ e.2.validUtf8 = true := by
  rw [itemsAt]
  cases hv : follow j path with
  | none => exact fun e he ↦ absurd he List.not_mem_nil
  | some v => exact validUtf8_items (validUtf8_of_follow hj hv)

/-! ## Strings and maps -/

theorem validUtf8_of_getString {s : Str} (hj : j.validUtf8 = true) (h : j.getString = .ok s) :
    validUtf8 s = true := by
  rwa [Json.getString_eq_ok_iff.mp h] at hj

theorem validUtf8_of_atKey {k : Str} (hj : j.validUtf8 = true) (h : j.atKey k = .ok v) :
    v.validUtf8 = true :=
  Json.validUtf8_of_find? hj (Json.atKey_eq_ok_iff.mp h)

/-- What holds of all that is read from valid members holds throughout the map. -/
theorem all_getMap {α : Type} {get : Json → Except Exn α} {P : α → Prop} {m : SortedMap Str α}
    (hget : ∀ v a, v.validUtf8 = true → get v = .ok a → P a) (hj : j.validUtf8 = true)
    (h : j.getMap get = .ok m) : m.All fun k a ↦ validUtf8 k = true ∧ P a := by
  cases j with
  | object ms =>
    obtain ⟨es, hes, hm⟩ := bind_eq_ok_iff.mp h
    rw [← Except.ok.inj hm]
    refine SortedMap.all_ofList fun e he ↦ ?_
    obtain ⟨x, hx, hread⟩ := (mem_of_mapM_eq_ok hes).1 e he
    obtain ⟨a, ha, hpair⟩ := bind_eq_ok_iff.mp hread
    rw [← Except.ok.inj hpair]
    obtain ⟨hk, hv⟩ := (Json.validUtf8Members_iff ms).mp hj x hx
    exact ⟨hk, hget x.2 a hv ha⟩
  | _ => cases h

/-- The same of a member that may be missing. -/
theorem all_optional_getMap {α : Type} {get : Json → Except Exn α} {P : α → Prop} {key : Str}
    {m : SortedMap Str α} (hget : ∀ v a, v.validUtf8 = true → get v = .ok a → P a)
    (hj : j.validUtf8 = true) (h : j.optional key (Json.getMap get) SortedMap.empty = .ok m) :
    m.All fun k a ↦ validUtf8 k = true ∧ P a := by
  rcases optional_eq_ok h with ⟨-, rfl⟩ | ⟨v, hv, h⟩
  · exact SortedMap.All.empty
  · exact all_getMap hget (Json.validUtf8_of_find? hj hv) h

/-! ## Batches -/

variable {json : JsonText}

theorem validUtf8_of_readStateKey {state_key : Str} (hj : j.validUtf8 = true)
    (h : readStateKey j = .ok state_key) : validUtf8 state_key = true := by
  obtain ⟨v, hv, h⟩ := bind_eq_ok_iff.mp h
  obtain ⟨s, hs, h⟩ := bind_eq_ok_iff.mp h
  obtain ⟨_, -, h⟩ := bind_eq_ok_iff.mp h
  rw [← Except.ok.inj h]
  exact validUtf8_of_getString (validUtf8_of_atKey hj hv) hs

/-- The state keys of the events in the block `state`. -/
theorem validUtf8_of_parseStateEvent {k : StateKind} {e : StateEvent k.Content}
    (hj : j.validUtf8 = true) (h : parseStateEvent json j = .ok (some (.known k e))) :
    validUtf8 e.state_key = true := by
  have hknown : ∀ k', some <$> readKnownState json k' j = .ok (some (.known k e)) →
      validUtf8 e.state_key = true := fun k' hk' ↦ by
    obtain ⟨s, hs, heq⟩ := map_eq_ok_iff.mp hk'
    obtain ⟨ev, hev, rfl⟩ := map_eq_ok_iff.mp hs
    cases heq
    exact validUtf8_of_readStateKey hj (StateEvent.fromJson_eq_ok_iff.mp hev).2
  obtain ⟨type, -, h⟩ := bind_eq_ok_iff.mp h
  split_ifs at h with hredacted
  · exact hknown _ h
  · cases type
    case unsupported =>
      obtain ⟨ev, -, heq⟩ := bind_eq_ok_iff.mp h
      cases heq
    all_goals first | exact hknown _ h | cases h

/-- The state keys of the state events in a timeline. -/
theorem validUtf8_of_parseTimelineEvent {k : StateKind} {e : StateEvent k.Content}
    (hj : j.validUtf8 = true) (h : parseTimelineEvent json j = .ok (some (.state k e))) :
    validUtf8 e.state_key = true := by
  obtain ⟨a, -, hread⟩ := (parseTimelineEvent_eq_some_iff json).mp h
  rcases a with k' | k' | -
  · obtain ⟨ev, hev, heq⟩ := map_eq_ok_iff.mp hread
    cases heq
    exact validUtf8_of_readStateKey hj (StateEvent.fromJson_eq_ok_iff.mp hev).2
  · obtain ⟨ev, hev, heq⟩ := map_eq_ok_iff.mp hread
    cases heq
  · obtain ⟨ev, hev, heq⟩ := map_eq_ok_iff.mp hread
    cases heq

/-- The room has a name, and its state events have keys, that are UTF-8. -/
structure JoinedRoom.Utf8 (room_id : Str) (room : JoinedRoom json) : Prop where
  room_id : validUtf8 room_id = true
  state : ∀ k e, StateEvents.known k e ∈ room.state.events → validUtf8 e.state_key = true
  timeline : ∀ k e, TimelineEvents.state k e ∈ room.timeline.events →
    validUtf8 e.state_key = true

theorem Sync.joined_utf8 {res : Sync json} (hj : j.validUtf8 = true)
    (h : Sync.fromJson json j = .ok res) : res.rooms.join.All JoinedRoom.Utf8 := by
  obtain ⟨rooms, hrooms, h⟩ := bind_eq_ok_iff.mp h
  obtain ⟨device_lists, -, h⟩ := bind_eq_ok_iff.mp h
  obtain ⟨to_device, -, h⟩ := bind_eq_ok_iff.mp h
  obtain ⟨counts, -, h⟩ := bind_eq_ok_iff.mp h
  obtain ⟨types, -, h⟩ := bind_eq_ok_iff.mp h
  obtain ⟨presence, -, h⟩ := bind_eq_ok_iff.mp h
  obtain ⟨account_data, -, h⟩ := bind_eq_ok_iff.mp h
  obtain ⟨v, -, h⟩ := bind_eq_ok_iff.mp h
  obtain ⟨next_batch, -, h⟩ := bind_eq_ok_iff.mp h
  rw [← Except.ok.inj h]
  intro room_id room hroom
  obtain ⟨-, r, hr, hfits⟩ := (Rooms.fits_of_read hrooms).1 room_id room hroom
  obtain ⟨hid, hvalid⟩ := validUtf8_itemsAt hj _ _ hr
  refine ⟨hid, fun k e he ↦ ?_, fun k e he ↦ ?_⟩
  · obtain ⟨⟨x, hx, hread, -⟩, -⟩ := hfits.state _ he
    exact validUtf8_of_parseStateEvent (validUtf8_elementsAt hvalid _ x hx) hread
  · obtain ⟨⟨x, hx, hread, -⟩, -⟩ := hfits.timeline _ he
    exact validUtf8_of_parseTimelineEvent (validUtf8_elementsAt hvalid _ x hx) hread

end Mtx.Responses

/-! ## Keys of devices -/

namespace Mtx.Crypto

open Str Responses

/-- What is taken from the keys of a device is UTF-8. -/
structure DeviceKeys.Utf8 (keys : DeviceKeys) : Prop where
  device_id : validUtf8 keys.device_id = true
  keys : keys.keys.All fun _ key ↦ validUtf8 key = true

theorem DeviceKeys.utf8_of_read {obj : Json} {keys : DeviceKeys} (hobj : obj.validUtf8 = true)
    (h : DeviceKeys.fromJson obj = .ok keys) : keys.Utf8 := by
  obtain ⟨user, -, h⟩ := bind_eq_ok_iff.mp h
  obtain ⟨user_id, -, h⟩ := bind_eq_ok_iff.mp h
  obtain ⟨device, hdevice, h⟩ := bind_eq_ok_iff.mp h
  obtain ⟨device_id, hid, h⟩ := bind_eq_ok_iff.mp h
  obtain ⟨a, -, h⟩ := bind_eq_ok_iff.mp h
  obtain ⟨algorithms, -, h⟩ := bind_eq_ok_iff.mp h
  obtain ⟨v, hv, h⟩ := bind_eq_ok_iff.mp h
  obtain ⟨map, hmap, h⟩ := bind_eq_ok_iff.mp h
  obtain ⟨signatures, -, h⟩ := bind_eq_ok_iff.mp h
  obtain ⟨unsigned_info, -, h⟩ := bind_eq_ok_iff.mp h
  rw [← Except.ok.inj h]
  refine ⟨validUtf8_of_getString (validUtf8_of_atKey hobj hdevice) hid, fun k key hkey ↦ ?_⟩
  exact (all_getMap (P := fun key ↦ validUtf8 key = true)
    (fun _ _ hv hread ↦ validUtf8_of_getString hv hread) (validUtf8_of_atKey hobj hv) hmap k key
    hkey).2

end Mtx.Crypto

namespace Mtx.Responses

open Str
open Crypto (DeviceKeys)

/-- The users and the devices that an answer tells of. -/
theorem QueryKeys.utf8_of_read {json : JsonText} {obj : Json} {res : QueryKeys}
    (hobj : obj.validUtf8 = true) (h : QueryKeys.fromJson json obj = .ok res) :
    res.device_keys.All fun user_id devices ↦
      validUtf8 user_id = true ∧ devices.All fun _ keys ↦ keys.Utf8 := by
  obtain ⟨failures, -, h⟩ := bind_eq_ok_iff.mp h
  obtain ⟨device_keys, hkeys, h⟩ := bind_eq_ok_iff.mp h
  obtain ⟨master_keys, -, h⟩ := bind_eq_ok_iff.mp h
  obtain ⟨user_signing_keys, -, h⟩ := bind_eq_ok_iff.mp h
  obtain ⟨self_signing_keys, -, h⟩ := bind_eq_ok_iff.mp h
  rw [← Except.ok.inj h]
  refine all_optional_getMap (fun v devices hv hread id keys hfind ↦ ?_) hobj hkeys
  exact (all_getMap (fun _ _ ↦ DeviceKeys.utf8_of_read) hv hread id keys hfind).2

end Mtx.Responses
