import MtxClient.Json.Text

/-!
# Device and cross-signing keys

The keys of a device, the cross-signing keys of a user, and what is signed of them.  A signature
covers the object without its members `signatures` and `unsigned`, `signedPart`.

Reading an object keeps the members the type knows and drops the others.  So what is signed does not
survive it unless there are no others (`signedPart_deviceKeys`, `signedPart_crossSigningKeys`).
-/

set_option autoImplicit false

namespace Mtx.Crypto

open Str

/-! ## Keys -/

/-- Additional data for a device that the signatures do not cover. -/
structure UnsignedDeviceInfo where
  device_display_name : Str := ""

/-- `from_json(UnsignedDeviceInfo)`. -/
def UnsignedDeviceInfo.fromJson (obj : Json) : Except Exn UnsignedDeviceInfo := do
  let device_display_name ← obj.optional "device_display_name" Json.getString ""
  return { device_display_name }

/-- `to_json(UnsignedDeviceInfo)`. -/
def UnsignedDeviceInfo.toJson (info : UnsignedDeviceInfo) : Json :=
  Json.ofMembers <| Json.noMembers.insertIf (!info.device_display_name.isEmpty)
    "device_display_name" (.string info.device_display_name)

/-- Signatures, by user and by algorithm and key. -/
abbrev Signatures := SortedMap Str (SortedMap Str Str)

/-- The signature of a user with a key. -/
def signatureOf (signatures : Signatures) (user_id key_id : Str) : Option Str :=
  (signatures.find? user_id).bind (·.find? key_id)

/-- `signatures[user_id][key_id] = signature`. -/
def sign (signatures : Signatures) (user_id key_id signature : Str) : Signatures :=
  signatures.insert user_id
    (((signatures.find? user_id).getD SortedMap.empty).insert key_id signature)

/-- The signatures as JSON. -/
def signaturesToJson (signatures : Signatures) : Json := Json.ofMap (Json.ofMap .string) signatures

/-- The keys of a device. -/
structure DeviceKeys where
  user_id : Str := ""
  device_id : Str := ""
  algorithms : List Str := [lit "m.olm.v1.curve25519-aes-sha2", lit "m.megolm.v1.aes-sha2"]
  keys : SortedMap Str Str := SortedMap.empty
  signatures : Signatures := SortedMap.empty
  unsigned_info : UnsignedDeviceInfo := {}

/-- `from_json(DeviceKeys)`. -/
def DeviceKeys.fromJson (obj : Json) : Except Exn DeviceKeys := do
  let user_id ← (← obj.atKey "user_id").getString
  let device_id ← (← obj.atKey "device_id").getString
  let algorithms ← (← obj.atKey "algorithms").getArray Json.getString
  let keys ← (← obj.atKey "keys").getMap Json.getString
  let signatures ←
    obj.optional "signatures" (Json.getMap (Json.getMap Json.getString)) SortedMap.empty
  let unsigned_info ← obj.optional "unsigned" UnsignedDeviceInfo.fromJson {}
  return { user_id, device_id, algorithms, keys, signatures, unsigned_info }

/-- `to_json(DeviceKeys)`. -/
def DeviceKeys.toJson (keys : DeviceKeys) : Json :=
  Json.ofMembers <| Json.noMembers
    |>.insert "user_id" (.string keys.user_id)
    |>.insert "device_id" (.string keys.device_id)
    |>.insert "algorithms" (Json.ofArray .string keys.algorithms)
    |>.insert "keys" (Json.ofMap .string keys.keys)
    |>.insert "signatures" (signaturesToJson keys.signatures)
    |>.insertIf (!keys.unsigned_info.device_display_name.isEmpty) "unsigned"
      keys.unsigned_info.toJson

/-- The cross-signing keys of a user. -/
structure CrossSigningKeys where
  user_id : Str := ""
  usage : List Str := []
  keys : SortedMap Str Str := SortedMap.empty
  signatures : Signatures := SortedMap.empty

/-- `from_json(CrossSigningKeys)`. -/
def CrossSigningKeys.fromJson (obj : Json) : Except Exn CrossSigningKeys := do
  let user_id ← (← obj.atKey "user_id").getString
  let usage ← (← obj.atKey "usage").getArray Json.getString
  let keys ← (← obj.atKey "keys").getMap Json.getString
  let signatures ←
    obj.optional "signatures" (Json.getMap (Json.getMap Json.getString)) SortedMap.empty
  return { user_id, usage, keys, signatures }

/-- `to_json(CrossSigningKeys)`. -/
def CrossSigningKeys.toJson (keys : CrossSigningKeys) : Json :=
  Json.ofMembers <| Json.noMembers
    |>.insert "user_id" (.string keys.user_id)
    |>.insert "usage" (Json.ofArray .string keys.usage)
    |>.insert "keys" (Json.ofMap .string keys.keys)
    |>.insert "signatures" (signaturesToJson keys.signatures)

/-! ## What is signed -/

/-- What a signature covers: the object without `unsigned` and `signatures`. -/
def signedPart (obj : Json) : Json := (obj.without "unsigned").without "signatures"

/-- The members of device keys that are signed. -/
def isDeviceKeysMember (k : Str) : Bool :=
  k == lit "user_id" || k == lit "device_id" || k == lit "algorithms" || k == lit "keys"

/-- The members of cross-signing keys that are signed. -/
def isCrossSigningKeysMember (k : Str) : Bool :=
  k == lit "user_id" || k == lit "usage" || k == lit "keys"

theorem find?_signedPart (obj : Json) (k : Str) :
    (signedPart obj).find? k =
      if k = lit "signatures" ∨ k = lit "unsigned" then none else obj.find? k := by
  rw [signedPart, Json.find?_without, Json.find?_without]
  by_cases h : k = lit "signatures" <;> simp [h]

theorem find?_signedPart_of_find? {obj v : Json} {k : Str}
    (hk : ¬ (k = lit "signatures" ∨ k = lit "unsigned")) (h : obj.find? k = some v) :
    (signedPart obj).find? k = some v := by
  rw [find?_signedPart, if_neg hk, h]

theorem isObject_signedPart (obj : Json) : (signedPart obj).isObject = obj.isObject := by
  rw [signedPart, Json.isObject_without, Json.isObject_without]

theorem sortedKeys_signedPart {obj : Json} (h : obj.SortedKeys) : (signedPart obj).SortedKeys :=
  (h.without _).without _

/-- The signed part of an object that is written, given by its members. -/
theorem signedPart_ofMembers {m m' : SortedMap Str Json} (hm : (Json.ofMembers m).isObject = true)
    (hm' : (Json.ofMembers m').isObject = true) (hsignatures : m'.find? "signatures" = none)
    (hunsigned : m'.find? "unsigned" = none)
    (h : ∀ k, k ≠ lit "signatures" → k ≠ lit "unsigned" → m.find? k = m'.find? k) :
    signedPart (Json.ofMembers m) = Json.ofMembers m' := by
  refine (sortedKeys_signedPart (Json.sortedKeys_ofMembers m)).ext (Json.sortedKeys_ofMembers m')
    ((isObject_signedPart _).trans hm) hm' fun k ↦ ?_
  rw [find?_signedPart, Json.find?_ofMembers, Json.find?_ofMembers]
  by_cases hk : k = lit "signatures" ∨ k = lit "unsigned"
  · rw [if_pos hk]
    obtain rfl | rfl := hk
    · exact hsignatures.symm
    · exact hunsigned.symm
  · rw [if_neg hk, h k (not_or.mp hk).1 (not_or.mp hk).2]

theorem isObject_ofMembers_insert (m : SortedMap Str Json) (k : Str) (v : Json) :
    (Json.ofMembers (m.insert k v)).isObject = true := by
  rw [Json.ofMembers_insert]
  rfl

theorem DeviceKeys.isObject_toJson (keys : DeviceKeys) : keys.toJson.isObject = true :=
  Json.isObject_of_find? (k := "user_id") (v := .string keys.user_id) (by simp [toJson])

theorem CrossSigningKeys.isObject_toJson (keys : CrossSigningKeys) :
    keys.toJson.isObject = true := isObject_ofMembers_insert ..

/-- What is signed of device keys. -/
theorem DeviceKeys.signedPart_toJson (keys : DeviceKeys) :
    signedPart keys.toJson = Json.ofMembers (Json.noMembers
      |>.insert "user_id" (.string keys.user_id)
      |>.insert "device_id" (.string keys.device_id)
      |>.insert "algorithms" (Json.ofArray .string keys.algorithms)
      |>.insert "keys" (Json.ofMap .string keys.keys)) :=
  signedPart_ofMembers keys.isObject_toJson (isObject_ofMembers_insert ..) (by simp) (by simp)
    fun k hsignatures hunsigned ↦ by simp [hsignatures, hunsigned]

/-- What is signed of cross-signing keys. -/
theorem CrossSigningKeys.signedPart_toJson (keys : CrossSigningKeys) :
    signedPart keys.toJson = Json.ofMembers (Json.noMembers
      |>.insert "user_id" (.string keys.user_id)
      |>.insert "usage" (Json.ofArray .string keys.usage)
      |>.insert "keys" (Json.ofMap .string keys.keys)) :=
  signedPart_ofMembers keys.isObject_toJson (isObject_ofMembers_insert ..) (by simp) (by simp)
    fun k hsignatures _ ↦ by simp [hsignatures]

theorem DeviceKeys.signedPart_withSignatures (keys : DeviceKeys) (signatures : Signatures) :
    signedPart { keys with signatures }.toJson = signedPart keys.toJson := by
  rw [signedPart_toJson, signedPart_toJson]

theorem CrossSigningKeys.signedPart_withSignatures (keys : CrossSigningKeys)
    (signatures : Signatures) :
    signedPart { keys with signatures }.toJson = signedPart keys.toJson := by
  rw [signedPart_toJson, signedPart_toJson]

/-! ## What reading keeps -/

/-- The members an object needs to be read as device keys. -/
theorem find?_of_fromJson_deviceKeys {obj : Json} (hs : obj.sorted = true) {keys : DeviceKeys}
    (h : DeviceKeys.fromJson obj = .ok keys) :
    obj.find? "user_id" = some (.string keys.user_id) ∧
      obj.find? "device_id" = some (.string keys.device_id) ∧
      obj.find? "algorithms" = some (Json.ofArray .string keys.algorithms) ∧
      obj.find? "keys" = some (Json.ofMap .string keys.keys) := by
  simp only [DeviceKeys.fromJson, bind_eq_ok_iff, Json.atKey_eq_ok_iff, Json.getString_eq_ok_iff,
    Json.getArray_getString_eq_ok_iff] at h
  obtain ⟨_, huser, user_id, rfl, _, hdevice, device_id, rfl, _, halg, algorithms, rfl, kj, hkeys,
    km, hkm, signatures, -, unsigned_info, -, h⟩ := h
  obtain rfl := Except.ok.inj h
  have hsorted := Json.sortedKeys_of_sorted (Json.sorted_of_find? hs hkeys)
  have hkj := Json.eq_ofMap_of_getMap hsorted hkm
  exact ⟨huser, hdevice, halg, by rw [hkeys, hkj]⟩

/-- The members an object needs to be read as cross-signing keys. -/
theorem find?_of_fromJson_crossSigningKeys {obj : Json} (hs : obj.sorted = true)
    {keys : CrossSigningKeys} (h : CrossSigningKeys.fromJson obj = .ok keys) :
    obj.find? "user_id" = some (.string keys.user_id) ∧
      obj.find? "usage" = some (Json.ofArray .string keys.usage) ∧
      obj.find? "keys" = some (Json.ofMap .string keys.keys) := by
  simp only [CrossSigningKeys.fromJson, bind_eq_ok_iff, Json.atKey_eq_ok_iff,
    Json.getString_eq_ok_iff, Json.getArray_getString_eq_ok_iff] at h
  obtain ⟨_, huser, user_id, rfl, _, husage, usage, rfl, kj, hkeys, km, hkm, signatures, -, h⟩ := h
  obtain rfl := Except.ok.inj h
  have hsorted := Json.sortedKeys_of_sorted (Json.sorted_of_find? hs hkeys)
  have hkj := Json.eq_ofMap_of_getMap hsorted hkm
  exact ⟨huser, husage, by rw [hkeys, hkj]⟩

/-- **Device keys that are read and written again have the signed members that are known.** -/
theorem signedPart_deviceKeys {obj : Json} (hs : obj.sorted = true) {keys : DeviceKeys}
    (h : DeviceKeys.fromJson obj = .ok keys) :
    signedPart keys.toJson = (signedPart obj).restrict isDeviceKeysMember := by
  obtain ⟨huser, hdevice, halg, hkeys⟩ := find?_of_fromJson_deviceKeys hs h
  rw [DeviceKeys.signedPart_toJson]
  refine Json.ofMembers_eq_restrict (sortedKeys_signedPart (Json.sortedKeys_of_sorted hs))
    ((isObject_signedPart obj).trans (Json.isObject_of_find? huser))
    (isObject_ofMembers_insert ..) (fun k ↦ ?_) ?_
  · simp only [SortedMap.find?_insert, SortedMap.find?_empty, isDeviceKeysMember]
    split_ifs <;> simp_all
  · refine (((SortedMap.All.empty.insert ?_).insert ?_).insert ?_).insert ?_
    · exact find?_signedPart_of_find? (by simp) huser
    · exact find?_signedPart_of_find? (by simp) hdevice
    · exact find?_signedPart_of_find? (by simp) halg
    · exact find?_signedPart_of_find? (by simp) hkeys

/-- **The same for cross-signing keys.** -/
theorem signedPart_crossSigningKeys {obj : Json} (hs : obj.sorted = true)
    {keys : CrossSigningKeys} (h : CrossSigningKeys.fromJson obj = .ok keys) :
    signedPart keys.toJson = (signedPart obj).restrict isCrossSigningKeysMember := by
  obtain ⟨huser, husage, hkeys⟩ := find?_of_fromJson_crossSigningKeys hs h
  rw [CrossSigningKeys.signedPart_toJson]
  refine Json.ofMembers_eq_restrict (sortedKeys_signedPart (Json.sortedKeys_of_sorted hs))
    ((isObject_signedPart obj).trans (Json.isObject_of_find? huser))
    (isObject_ofMembers_insert ..) (fun k ↦ ?_) ?_
  · simp only [SortedMap.find?_insert, SortedMap.find?_empty, isCrossSigningKeysMember]
    split_ifs <;> simp_all
  · refine ((SortedMap.All.empty.insert ?_).insert ?_).insert ?_
    · exact find?_signedPart_of_find? (by simp) huser
    · exact find?_signedPart_of_find? (by simp) husage
    · exact find?_signedPart_of_find? (by simp) hkeys

/-- An object with no other members than `p` knows has nothing to lose. -/
theorem restrict_signedPart_of_known {obj : Json} (hs : obj.SortedKeys) {p : Str → Bool}
    (hp : ∀ k, obj.contains k = true → p k = true ∨ k = lit "signatures" ∨ k = lit "unsigned") :
    (signedPart obj).restrict p = signedPart obj := by
  cases hobj : obj.isObject with
  | false => cases obj <;> first | rfl | cases hobj
  | true =>
    refine ((sortedKeys_signedPart hs).restrict p).ext (sortedKeys_signedPart hs) ?_ ?_ fun k ↦ ?_
    · rw [Json.isObject_restrict, isObject_signedPart, hobj]
    · rw [isObject_signedPart, hobj]
    · rw [Json.find?_restrict, find?_signedPart]
      by_cases hk : k = lit "signatures" ∨ k = lit "unsigned"
      · rw [if_pos hk, ite_self]
      · cases hfind : obj.find? k with
        | none => rw [if_neg hk, ite_self]
        | some v =>
          have hknown := hp k (Json.contains_eq_true_iff.mpr ⟨v, hfind⟩)
          rw [hknown.resolve_right hk, if_pos rfl]

end Mtx.Crypto
