import MtxClient.Crypto.Client

/-!
# Signing and verifying agree

What `OlmClient` signs is what `ed25519_verify_signature` checks.  The client signs a text that it
puts together itself, the verifier one that it gets by serialising the keys and erasing what is not
signed; `signatures_verify` says that the two are the same for the device keys, the one-time keys,
the fallback keys and the three cross-signing keys.

What a client signs does not depend on its random numbers, except for the keys of `PkSigning`.  So
the upload request is described by what it `Yields`, and the cross-signing keys by what follows once
the three keys are there.
-/

set_option autoImplicit false

namespace Mtx.Crypto

open Str

variable {olm : Libolm} {json : JsonText}

/-! ## What is assumed of libolm -/

/-- The identity keys of an account, as libolm writes them. -/
def accountKeys (json : JsonText) (account : olm.Account) : Except Exn IdentityKeys :=
  json.parse (olm.accountIdentityKeys account) >>= IdentityKeys.fromJson

/-- What signing relies on: accounts and `PkSigning` objects have public keys, and a public key
accepts exactly what its private key signs. -/
structure SigningLaws (olm : Libolm) (json : JsonText) : Prop where
  short : olm.pkSigningSeedLength < 2 ^ 31
  identity_keys : ∀ account : olm.Account, ∃ keys, accountKeys json account = .ok keys ∧
    validUtf8 keys.curve25519 = true ∧ validUtf8 keys.ed25519 = true
  account_sign : ∀ (account : olm.Account) (keys : IdentityKeys),
    accountKeys json account = .ok keys → ∀ message, olm.accountSign account message ≠ [] ∧
      ∀ sig, olm.ed25519Verify keys.ed25519 message sig = true ↔
        sig = olm.accountSign account message
  pk_seed : ∀ seed : Str, seed.length = olm.pkSigningSeedLength →
    ∃ signing pub, olm.pkSigningKeyFromSeed seed = some (signing, pub)
  pk_sign : ∀ (seed : Str) (signing : olm.PkSigning) (pub : Str),
    olm.pkSigningKeyFromSeed seed = some (signing, pub) → validUtf8 pub = true ∧
      ∀ message, ∃ signature, olm.pkSign signing message = some signature ∧ signature ≠ [] ∧
        ∀ sig, olm.ed25519Verify pub message sig = true ↔ sig = signature

/-! ## Signatures that objects carry -/

theorem signatureOf_empty (user_id key_id : Str) :
    signatureOf SortedMap.empty user_id key_id = none := rfl

theorem signatureOf_sign (signatures : Signatures) (user_id key_id sig user_id' key_id' : Str) :
    signatureOf (sign signatures user_id key_id sig) user_id' key_id' =
      if user_id' = user_id ∧ key_id' = key_id then some sig
      else signatureOf signatures user_id' key_id' := by
  rw [signatureOf, signatureOf, sign, SortedMap.find?_insert]
  by_cases hu : user_id' = user_id
  · subst hu
    rw [if_pos rfl, Option.bind_some, SortedMap.find?_insert]
    by_cases hk : key_id' = key_id
    · simp [hk]
    · cases signatures.find? user_id' <;> simp [hk]
  · simp [hu]

/-- Someone who signs: the name of the key, and the public key. -/
structure Signer where
  id : Str
  key : Str

/-- **The object carries signatures of these signers and of no others, and they all verify.** -/
def CarriesSignaturesOf (olm : Libolm) (json : JsonText) (obj : Json) (signatures : Signatures)
    (user_id : Str) (signers : List Signer) : Prop :=
  (∀ u k sig, signatureOf signatures u k = some sig →
    u = user_id ∧ ∃ s ∈ signers, k = signKeyId s.id) ∧
  ∀ s ∈ signers, ∃ sig, signatureOf signatures user_id (signKeyId s.id) = some sig ∧
    ed25519VerifySignature olm json s.key obj sig = .ok true

/-- `signer` makes signatures that `key` accepts. -/
def SignsFor (olm : Libolm) (signer : Str → OlmM Str) (key : Str) : Prop :=
  ∀ text, ∃ sig, Yields (signer text) sig ∧ sig ≠ [] ∧ olm.ed25519Verify key text sig = true

/-- An object with one signature. -/
theorem carriesSignaturesOf_singleton {obj : Json} {user_id sig id key : Str}
    (h : ed25519VerifySignature olm json key obj sig = .ok true) :
    CarriesSignaturesOf olm json obj (sign SortedMap.empty user_id (signKeyId id) sig) user_id
      [⟨id, key⟩] := by
  constructor
  · intro u k sig' hsig
    rw [signatureOf_sign, signatureOf_empty] at hsig
    split_ifs at hsig with hk
    exact ⟨hk.1, _, List.mem_singleton_self _, hk.2⟩
  · intro s hs
    obtain rfl := List.mem_singleton.mp hs
    exact ⟨sig, by rw [signatureOf_sign, if_pos ⟨rfl, rfl⟩], h⟩

/-- An object with two signatures, where the second does not displace the first unless both are of
the same key. -/
theorem carriesSignaturesOf_pair {obj : Json} {user_id sig sig' id id' key key' : Str}
    (h : ed25519VerifySignature olm json key obj sig = .ok true)
    (h' : ed25519VerifySignature olm json key' obj sig' = .ok true)
    (hsame : id = id' → key = key') :
    CarriesSignaturesOf olm json obj
      (sign (sign SortedMap.empty user_id (signKeyId id) sig) user_id (signKeyId id') sig')
      user_id [⟨id, key⟩, ⟨id', key'⟩] := by
  constructor
  · intro u k sig'' hsig
    rw [signatureOf_sign, signatureOf_sign, signatureOf_empty] at hsig
    split_ifs at hsig with hk hk'
    · exact ⟨hk.1, ⟨id', key'⟩, by simp, hk.2⟩
    · exact ⟨hk'.1, ⟨id, key⟩, by simp, hk'.2⟩
  · intro s hs
    rw [signatureOf_sign, signatureOf_sign]
    obtain rfl | rfl := List.mem_pair.mp hs
    · by_cases hid : id = id'
      · exact ⟨sig', by rw [if_pos ⟨rfl, by rw [hid]⟩], by rw [hsame hid, h']⟩
      · refine ⟨sig, ?_, h⟩
        rw [if_neg fun hk ↦ hid (List.append_cancel_left hk.2), if_pos ⟨rfl, rfl⟩]
    · exact ⟨sig', by rw [if_pos ⟨rfl, rfl⟩], h'⟩

/-! ## What the account signs -/

section

variable {client : OlmClient olm} {account : olm.Account} {keys : IdentityKeys}

theorem yields_identityKeys (haccount : client.account_ = some account)
    (hkeys : accountKeys json account = .ok keys) : Yields (client.identityKeys json) keys := by
  obtain ⟨j, hj, hread⟩ := bind_eq_ok_iff.mp hkeys
  exact (Yields.orOlmException haccount).bind
    (Yields.newBuffer_bind ((Yields.liftM hj).bind (Yields.liftM hread)))

theorem yields_signMessage (haccount : client.account_ = some account) (message : Str) :
    Yields (client.signMessage message) (olm.accountSign account message) := by
  rw [OlmClient.signMessage, haccount]
  exact Yields.newBuffer_bind (Yields.pure _)

theorem signsFor_signMessage (laws : SigningLaws olm json)
    (haccount : client.account_ = some account) (hkeys : accountKeys json account = .ok keys) :
    SignsFor olm client.signMessage keys.ed25519 := fun text ↦
  have h := laws.account_sign account keys hkeys text
  ⟨_, yields_signMessage haccount text, h.1, (h.2 _).mpr rfl⟩

/-- The device keys of a client, before they are signed. -/
def deviceKeys (client : OlmClient olm) (keys : IdentityKeys) : DeviceKeys where
  user_id := client.user_id_
  device_id := client.device_id_
  keys := SortedMap.empty
    |>.insert (lit "curve25519:" ++ client.device_id_) keys.curve25519
    |>.insert (signKeyId client.device_id_) keys.ed25519

/-- Two keys, written member by member and as a map. -/
theorem ofMembers_pair (a b x y : Str) :
    Json.ofMembers (Json.noMembers |>.insert a (.string x) |>.insert b (.string y)) =
      Json.ofMap .string (SortedMap.empty |>.insert a x |>.insert b y) := by
  refine (Json.sortedKeys_ofMembers _).ext (Json.sortedKeys_ofMap _ _)
    (isObject_ofMembers_insert ..) rfl fun k ↦ ?_
  simp only [Json.find?_ofMembers, Json.find?_ofMap, SortedMap.find?_insert, SortedMap.find?_empty]
  split_ifs <;> rfl

theorem validUtf8_signedPart_deviceKeys (huser : validUtf8 client.user_id_ = true)
    (hdevice : validUtf8 client.device_id_ = true) (hcurve : validUtf8 keys.curve25519 = true)
    (hed : validUtf8 keys.ed25519 = true) :
    (signedPart (deviceKeys client keys).toJson).validUtf8 = true := by
  have hname : ∀ p : Str, validUtf8 p = true → validUtf8 (p ++ client.device_id_) = true :=
    fun p hp ↦ (validUtf8_append hp _).trans hdevice
  have hkeys : ((deviceKeys client keys).keys.All fun k v ↦
      validUtf8 k = true ∧ (Json.string v).validUtf8 = true) :=
    (SortedMap.All.empty.insert ⟨hname _ (by decide), hcurve⟩).insert ⟨hname _ (by decide), hed⟩
  rw [DeviceKeys.signedPart_toJson]
  exact Json.validUtf8_ofMembers ((((SortedMap.All.empty.insert ⟨by decide, huser⟩).insert
    ⟨by decide, hdevice⟩).insert ⟨by decide, by rfl⟩).insert
    ⟨by decide, Json.validUtf8_ofMap hkeys⟩)

/-- **The client signs the text that a verifier gets from the device keys.** -/
theorem yields_signIdentityKeys (haccount : client.account_ = some account)
    (hkeys : accountKeys json account = .ok keys)
    (hvalid : (signedPart (deviceKeys client keys).toJson).validUtf8 = true) :
    Yields (client.signIdentityKeys json)
      (olm.accountSign account (json.text (signedPart (deviceKeys client keys).toJson))) := by
  refine (yields_identityKeys haccount hkeys).bind ((Yields.liftM ?_).bind
    (yields_signMessage haccount _))
  rw [← json.dump_of_validUtf8 hvalid, DeviceKeys.signedPart_toJson, ofMembers_pair]
  -- the same members, put in in another order
  rfl

/-! ## One-time keys -/

/-- What is signed of a one-time key. -/
def oneTimeKeyBody (key : Str) (fallback : Bool) : Json :=
  Json.ofMembers (Json.noMembers
    |>.insert "key" (.string key)
    |>.insertIf fallback "fallback" (.boolean true))

theorem isObject_oneTimeKeyBody (key : Str) (fallback : Bool) :
    (oneTimeKeyBody key fallback).isObject = true :=
  Json.isObject_of_find? (k := "key") (v := .string key) (by simp [oneTimeKeyBody])

theorem SignedOneTimeKey.isObject_toJson (k : SignedOneTimeKey) : k.toJson.isObject = true :=
  isObject_ofMembers_insert ..

/-- **The client signs the text that a verifier gets from a one-time key.** -/
theorem SignedOneTimeKey.signedPart_toJson (k : SignedOneTimeKey) :
    signedPart k.toJson = oneTimeKeyBody k.key k.fallback := by
  refine signedPart_ofMembers k.isObject_toJson (isObject_oneTimeKeyBody ..) (by simp) (by simp)
    fun name hsignatures _ ↦ ?_
  by_cases hkey : name = lit "key"
  · subst hkey
    simp
  · simp [hkey, hsignatures]

theorem validUtf8_oneTimeKeyBody {key : Str} (h : validUtf8 key = true) (fallback : Bool) :
    (oneTimeKeyBody key fallback).validUtf8 = true :=
  Json.validUtf8_ofMembers
    ((SortedMap.All.empty.insert ⟨by decide, h⟩).insertIf ⟨by decide, rfl⟩)

/-- A one-time key with its signature. -/
def signedKey (json : JsonText) (client : OlmClient olm) (account : olm.Account) (key : Str)
    (fallback : Bool) : SignedOneTimeKey :=
  client.signedOneTimeKey key
    (olm.accountSign account (json.text (oneTimeKeyBody key fallback))) fallback

theorem yields_signOneTimeKey (haccount : client.account_ = some account) {key : Str}
    (h : validUtf8 key = true) (fallback : Bool) :
    Yields (client.signOneTimeKey json key fallback)
      (olm.accountSign account (json.text (oneTimeKeyBody key fallback))) :=
  (Yields.liftM (json.dump_of_validUtf8 (validUtf8_oneTimeKeyBody h fallback))).bind
    (yields_signMessage haccount _)

/-- The one-time keys that `sign_one_time_keys` makes. -/
def signedKeys (json : JsonText) (client : OlmClient olm) (account : olm.Account)
    (one_time_keys : OneTimeKeys) (fallback : Bool) : SortedMap Str SignedOneTimeKey :=
  one_time_keys.curve25519.entries.foldl (fun m e ↦
    m.insert (lit "signed_curve25519:" ++ e.1) (signedKey json client account e.2 fallback))
    SortedMap.empty

theorem yields_signOneTimeKeys (haccount : client.account_ = some account)
    {one_time_keys : OneTimeKeys}
    (h : ∀ id key, one_time_keys.curve25519.find? id = some key → validUtf8 key = true)
    (fallback : Bool) :
    Yields (client.signOneTimeKeys json one_time_keys fallback)
      (signedKeys json client account one_time_keys fallback) :=
  Yields.foldlM _ _ fun _ e he ↦
    (yields_signOneTimeKey haccount (h e.1 e.2 (SortedMap.mem_entries_iff.mp he)) fallback).bind
      (Yields.pure _)

/-! ## The upload request -/

/-- The members that the keys become in the request. -/
theorem find?_ofMap_member (members : SortedMap Str Json) (k : Str) (m : SortedMap Str UploadedKey)
    (name : Str) (h : members.find? k =
      if (!m.entries.isEmpty) = true then some (Json.ofMap UploadedKey.toJson m) else none) :
    (members.find? k).bind (·.find? name) = (m.find? name).map UploadedKey.toJson := by
  rw [h]
  split_ifs with hempty
  · exact Json.find?_ofMap UploadedKey.toJson m name
  · rw [Bool.not_eq_true, Bool.not_eq_false', List.isEmpty_iff] at hempty
    rw [SortedMap.find?, hempty]
    rfl

theorem UploadKeys.find?_device_keys (req : UploadKeys) (h : req.device_keys.user_id ≠ []) :
    req.toJson.find? "device_keys" = some req.device_keys.toJson := by
  have hnonempty : req.device_keys.user_id.isEmpty = false := by
    rw [List.isEmpty_eq_false_iff]
    exact h
  rw [toJson, Json.find?, ← SortedMap.find?]
  simp [hnonempty]

/-- The serialised key `name` in the member `k` of the request. -/
def UploadKeys.written (req : UploadKeys) (k name : Str) : Option Json :=
  (req.toJson.find? k).bind (·.find? name)

theorem UploadKeys.written_one_time_keys (req : UploadKeys) (name : Str) :
    req.written "one_time_keys" name = (req.one_time_keys.find? name).map UploadedKey.toJson :=
  find?_ofMap_member _ _ _ _ (by simp)

theorem UploadKeys.written_fallback_keys (req : UploadKeys) (name : Str) :
    req.written "fallback_keys" name = (req.fallback_keys.find? name).map UploadedKey.toJson :=
  find?_ofMap_member _ _ _ _ (by simp)

/-- The signed one-time keys stand for the given ones, and what is written of them verifies under
the key of the device. -/
structure KeysVerify (json : JsonText) (client : OlmClient olm) (account_key : Str)
    (fallback : Bool) (one_time_keys : OneTimeKeys) (uploaded : SortedMap Str UploadedKey)
    (written : Str → Option Json) : Prop where
  complete : ∀ id key, one_time_keys.curve25519.find? id = some key →
    ∃ k : SignedOneTimeKey, uploaded.find? (lit "signed_curve25519:" ++ id) = some (.signed k) ∧
      k.key = key ∧ k.fallback = fallback
  verify : ∀ name u, uploaded.find? name = some u → ∃ k, u = .signed k ∧
    written name = some k.toJson ∧
    CarriesSignaturesOf olm json k.toJson k.signatures client.user_id_
      [⟨client.device_id_, account_key⟩]

/-- Everything in the upload request verifies under the key of the device. -/
structure UploadVerifies (json : JsonText) (client : OlmClient olm) (account_key : Str)
    (one_time_keys fallback_keys : OneTimeKeys) (req : UploadKeys) : Prop where
  written : client.user_id_ ≠ [] → req.toJson.find? "device_keys" = some req.device_keys.toJson
  device_keys : CarriesSignaturesOf olm json req.device_keys.toJson req.device_keys.signatures
    client.user_id_ [⟨client.device_id_, account_key⟩]
  identity : verifyIdentitySignature olm json req.device_keys client.device_id_ client.user_id_ =
    .ok true
  one_time_keys : KeysVerify json client account_key false one_time_keys req.one_time_keys
    (req.written "one_time_keys")
  fallback_keys : KeysVerify json client account_key true fallback_keys req.fallback_keys
    (req.written "fallback_keys")

/-- What the account signs of an object verifies. -/
theorem ed25519VerifySignature_accountSign (laws : SigningLaws olm json)
    (hkeys : accountKeys json account = .ok keys) {obj : Json} (hobj : obj.isObject = true)
    (hvalid : (signedPart obj).validUtf8 = true) :
    ed25519VerifySignature olm json keys.ed25519 obj
      (olm.accountSign account (json.text (signedPart obj))) = .ok true :=
  have h := laws.account_sign account keys hkeys (json.text (signedPart obj))
  (ed25519VerifySignature_eq_true_iff hobj).mpr
    ⟨h.1, _, json.dump_of_validUtf8 hvalid, (h.2 _).mpr rfl⟩

theorem keysVerify_signedKeys (laws : SigningLaws olm json)
    (hkeys : accountKeys json account = .ok keys) {one_time_keys : OneTimeKeys}
    (h : ∀ id key, one_time_keys.curve25519.find? id = some key → validUtf8 key = true)
    (fallback : Bool) {written : Str → Option Json}
    (hwritten : ∀ name, written name = (((signedKeys json client account one_time_keys
      fallback).map .signed).find? name).map UploadedKey.toJson) :
    KeysVerify json client keys.ed25519 fallback one_time_keys
      ((signedKeys json client account one_time_keys fallback).map .signed) written := by
  have hfind := SortedMap.find?_foldl_insert_entries (strictMono_append (lit "signed_curve25519:"))
    (fun key ↦ signedKey json client account key fallback) one_time_keys.curve25519
  constructor
  · intro id key hid
    refine ⟨signedKey json client account key fallback, ?_, rfl, rfl⟩
    rw [SortedMap.find?_map, signedKeys, (hfind _ _).mpr ⟨id, key, hid, rfl, rfl⟩, Option.map_some]
  · intro name u hu
    have hname := hwritten name
    rw [hu, Option.map_some] at hname
    rw [SortedMap.find?_map, Option.map_eq_some_iff] at hu
    obtain ⟨k, hk, rfl⟩ := hu
    obtain ⟨id, key, hid, -, rfl⟩ := (hfind _ _).mp hk
    refine ⟨_, rfl, hname, carriesSignaturesOf_singleton ?_⟩
    have hpart : signedPart (signedKey json client account key fallback).toJson =
        oneTimeKeyBody key fallback := SignedOneTimeKey.signedPart_toJson _
    rw [← hpart]
    exact ed25519VerifySignature_accountSign laws hkeys (SignedOneTimeKey.isObject_toJson _)
      ((congrArg Json.validUtf8 hpart).trans (validUtf8_oneTimeKeyBody (h id key hid) fallback))

/-- **The upload request can be built, and everything in it verifies.** -/
theorem uploadVerifies (laws : SigningLaws olm json) (haccount : client.account_ = some account)
    (hkeys : accountKeys json account = .ok keys)
    (hvalid : (signedPart (deviceKeys client keys).toJson).validUtf8 = true)
    {one_time_keys fallback_keys : OneTimeKeys}
    (hone : ∀ id key, one_time_keys.curve25519.find? id = some key → validUtf8 key = true)
    (hfallback : ∀ id key, fallback_keys.curve25519.find? id = some key → validUtf8 key = true) :
    ∃ req, Yields (client.createUploadKeysRequest json one_time_keys fallback_keys) req ∧
      UploadVerifies json client keys.ed25519 one_time_keys fallback_keys req := by
  refine ⟨_, (yields_identityKeys haccount hkeys).bind
    ((yields_signIdentityKeys haccount hkeys hvalid).bind
    ((yields_signOneTimeKeys haccount hone false).bind
    ((yields_signOneTimeKeys haccount hfallback true).bind (Yields.pure _)))), ?_⟩
  have hpart := (deviceKeys client keys).signedPart_withSignatures
  have hverify : ∀ signatures, ed25519VerifySignature olm json keys.ed25519
      { deviceKeys client keys with signatures }.toJson
      (olm.accountSign account (json.text (signedPart (deviceKeys client keys).toJson))) =
        .ok true := fun signatures ↦ by
    rw [← hpart signatures]
    refine ed25519VerifySignature_accountSign laws hkeys (DeviceKeys.isObject_toJson _) ?_
    rw [hpart, hvalid]
  refine ⟨fun huser ↦ UploadKeys.find?_device_keys _ huser,
    carriesSignaturesOf_singleton (hverify _), ?_,
    keysVerify_signedKeys laws hkeys hone false (UploadKeys.written_one_time_keys _),
    keysVerify_signedKeys laws hkeys hfallback true (UploadKeys.written_fallback_keys _)⟩
  rw [verifyIdentitySignature_of_find? (by rw [SortedMap.find?_insert]; exact if_pos rfl)
    (by rw [signatureOf_sign]; exact if_pos ⟨rfl, rfl⟩)]
  exact hverify _

/-! ## Cross-signing keys -/

theorem validUtf8_signedPart_unsignedKey {usage pub : Str}
    (huser : validUtf8 client.user_id_ = true) (husage : validUtf8 usage = true)
    (hpub : validUtf8 pub = true) :
    (signedPart (client.unsignedKey usage pub).toJson).validUtf8 = true := by
  have hkeys : ((client.unsignedKey usage pub).keys.All fun k v ↦
      validUtf8 k = true ∧ (Json.string v).validUtf8 = true) :=
    SortedMap.All.empty.insert ⟨(validUtf8_append (by decide) _).trans hpub, hpub⟩
  have husages : ∀ x ∈ [usage], validUtf8 x = true := fun x hx ↦ by
    rw [List.mem_singleton.mp hx, husage]
  rw [CrossSigningKeys.signedPart_toJson]
  exact Json.validUtf8_ofMembers (((SortedMap.All.empty.insert ⟨by decide, huser⟩).insert
    ⟨by decide, Json.validUtf8_ofArray_string husages⟩).insert
    ⟨by decide, Json.validUtf8_ofMap hkeys⟩)

/-- A signature of a key still verifies when it is stored in the key. -/
theorem ed25519VerifySignature_withSignatures {crossKeys : CrossSigningKeys}
    (hvalid : (signedPart crossKeys.toJson).validUtf8 = true) {key sig : Str} (hne : sig ≠ [])
    (hverify : olm.ed25519Verify key (json.text (signedPart crossKeys.toJson)) sig = true)
    (signatures : Signatures) :
    ed25519VerifySignature olm json key { crossKeys with signatures }.toJson sig = .ok true := by
  rw [ed25519VerifySignature_eq_true_iff (CrossSigningKeys.isObject_toJson _),
    CrossSigningKeys.signedPart_withSignatures]
  exact ⟨hne, _, json.dump_of_validUtf8 hvalid, hverify⟩

/-- **A new cross-signing key carries its two signatures.** -/
theorem yields_newCrossSigningKey (json : JsonText) (usage id : Str) {key : Str}
    {own : PkSigning olm} {second : Str → OlmM Str} (huser : validUtf8 client.user_id_ = true)
    (husage : validUtf8 usage = true) (hpub : validUtf8 own.public_key = true)
    (hown : SignsFor olm own.sign own.public_key)
    (hsecond : SignsFor olm second key) :
    ∃ signed : CrossSigningKeys,
      Yields (client.newCrossSigningKey json usage own id second) signed ∧
      signed.keys.entries = [(signKeyId own.public_key, own.public_key)] ∧
      ((own.public_key = id → own.public_key = key) →
        CarriesSignaturesOf olm json signed.toJson signed.signatures client.user_id_
          [⟨own.public_key, own.public_key⟩, ⟨id, key⟩]) := by
  have hvalid := validUtf8_signedPart_unsignedKey huser husage hpub
  have htext := (canonicalJson_eq (CrossSigningKeys.isObject_toJson _)).trans
    (json.dump_of_validUtf8 hvalid)
  obtain ⟨sig, hsig, hne, hverify⟩ := hown _
  obtain ⟨sig', hsig', hne', hverify'⟩ := hsecond _
  exact ⟨_, (Yields.liftM htext).bind (hsig.bind (hsig'.bind (Yields.pure _))), rfl,
    carriesSignaturesOf_pair (ed25519VerifySignature_withSignatures hvalid hne hverify _)
      (ed25519VerifySignature_withSignatures hvalid hne' hverify' _)⟩

/-- A new key can be made, and signs for its public key. -/
theorem newKey_run (laws : SigningLaws olm json) (w : World) :
    ∃ s w', PkSigning.newKey olm w = .ok (s, w') ∧ validUtf8 s.public_key = true ∧
      SignsFor olm s.sign s.public_key := by
  have hlength := length_createBuffer laws.short w.rng
  obtain ⟨signing, pub, hseed⟩ := laws.pk_seed _ hlength
  obtain ⟨hvalid, hsign⟩ := laws.pk_sign _ _ _ hseed
  have hrun : ∃ w', PkSigning.newKey olm w =
      .ok (⟨bin2base64 (createBuffer olm.pkSigningSeedLength w.rng).1, pub, signing⟩, w') := by
    rw [PkSigning.newKey, olmM_bind_of_ok (newBuffer_apply _ w), PkSigning.fromSeed,
      base642bin_bin2base64, olmM_bind_of_ok (handOver_apply _ _),
      olmM_bind_of_ok (orOlmException_eq_ok_iff.mpr ⟨hseed, rfl⟩)]
    exact ⟨_, rfl⟩
  obtain ⟨w', hrun⟩ := hrun
  refine ⟨_, w', hrun, hvalid, fun text ↦ ?_⟩
  obtain ⟨signature, hsig, hne, hverify⟩ := hsign text
  exact ⟨signature, Yields.orOlmException hsig, hne, (hverify signature).mpr rfl⟩

/-- The public keys that were generated. -/
def CrossSigningSetup.publicKeys (setup : CrossSigningSetup) : List Str :=
  (setup.master_key.keys.entries ++ setup.user_signing_key.keys.entries ++
    setup.self_signing_key.keys.entries).map Prod.snd

theorem CrossSigningSetup.publicKeys_eq {setup : CrossSigningSetup} {a b c x y z : Str}
    (hmaster : setup.master_key.keys.entries = [(a, x)])
    (huser : setup.user_signing_key.keys.entries = [(b, y)])
    (hself : setup.self_signing_key.keys.entries = [(c, z)]) : setup.publicKeys = [x, y, z] := by
  rw [publicKeys, hmaster, huser, hself]
  rfl

/-- Each of the keys carries the signatures of its own key and of the one above it, which is the
master key, and for that the key of the device. -/
def SetupVerifies (json : JsonText) (client : OlmClient olm) (account_key : Str)
    (setup : CrossSigningSetup) : Prop :=
  ∃ master user_signing self_signing : Str,
    setup.publicKeys = [master, user_signing, self_signing] ∧
    CarriesSignaturesOf olm json setup.master_key.toJson setup.master_key.signatures
      client.user_id_ [⟨master, master⟩, ⟨client.device_id_, account_key⟩] ∧
    CarriesSignaturesOf olm json setup.user_signing_key.toJson setup.user_signing_key.signatures
      client.user_id_ [⟨user_signing, user_signing⟩, ⟨master, master⟩] ∧
    CarriesSignaturesOf olm json setup.self_signing_key.toJson setup.self_signing_key.signatures
      client.user_id_ [⟨self_signing, self_signing⟩, ⟨master, master⟩]

/-- **The cross-signing keys can be made, and verify** unless a key has the name of the device. -/
theorem setupVerifies (laws : SigningLaws olm json) (haccount : client.account_ = some account)
    (hkeys : accountKeys json account = .ok keys) (huser : validUtf8 client.user_id_ = true)
    (w : World) :
    ∃ setup w', client.createCrosssigningKeys json w = .ok (some setup, w') ∧
      (client.device_id_ ∉ setup.publicKeys → SetupVerifies json client keys.ed25519 setup) := by
  obtain ⟨master, w₁, hmaster, hvalid, hsigns⟩ := newKey_run laws w
  obtain ⟨user_signing, w₂, huser_signing, hvalid', hsigns'⟩ := newKey_run laws w₁
  obtain ⟨self_signing, w₃, hself_signing, hvalid'', hsigns''⟩ := newKey_run laws w₂
  obtain ⟨master_key, hm, hmkeys, hmcarries⟩ := yields_newCrossSigningKey json "master"
    client.device_id_ huser (by decide) hvalid hsigns (signsFor_signMessage laws haccount hkeys)
  obtain ⟨user_signing_key, hu, hukeys, hucarries⟩ := yields_newCrossSigningKey json "user_signing"
    master.public_key huser (by decide) hvalid' hsigns' hsigns
  obtain ⟨self_signing_key, hs, hskeys, hscarries⟩ := yields_newCrossSigningKey json "self_signing"
    master.public_key huser (by decide) hvalid'' hsigns'' hsigns
  have hrun : ∃ w', client.createCrosssigningKeys json w =
      .ok (some ⟨master_key, user_signing_key, self_signing_key, master.seed, user_signing.seed,
        self_signing.seed⟩, w') := by
    rw [OlmClient.createCrosssigningKeys, olmM_bind_of_ok hmaster, olmM_bind_of_ok huser_signing,
      olmM_bind_of_ok hself_signing]
    refine Yields.bind hm ?_ w₃
    refine Yields.bind hu ?_
    exact Yields.bind hs (Yields.pure _)
  obtain ⟨w', hrun⟩ := hrun
  refine ⟨_, w', hrun, fun hid ↦ ?_⟩
  rw [CrossSigningSetup.publicKeys_eq hmkeys hukeys hskeys] at hid
  refine ⟨_, _, _, CrossSigningSetup.publicKeys_eq hmkeys hukeys hskeys,
    hmcarries fun h ↦ absurd ?_ hid, hucarries id, hscarries id⟩
  rw [h]
  exact List.mem_cons_self

end

/-! ## Everything that is signed verifies -/

/-- **What a client signs is what a verifier checks.**  With an account, and with ids and keys that
are UTF-8, the upload request and the cross-signing keys can be built; the device keys, all one-time
and fallback keys and the three cross-signing keys then verify under the keys that signed them,
unless a generated public key has the name of the device. -/
theorem signatures_verify (olm : Libolm) (json : JsonText) (laws : SigningLaws olm json)
    (client : OlmClient olm) (account : olm.Account) (haccount : client.account_ = some account)
    (huser : validUtf8 client.user_id_ = true) (hdevice : validUtf8 client.device_id_ = true) :
    ∃ keys, accountKeys json account = .ok keys ∧
      (∀ one_time_keys fallback_keys : OneTimeKeys,
        (∀ id key, one_time_keys.curve25519.find? id = some key → validUtf8 key = true) →
        (∀ id key, fallback_keys.curve25519.find? id = some key → validUtf8 key = true) →
        ∃ req, Yields (client.createUploadKeysRequest json one_time_keys fallback_keys) req ∧
          UploadVerifies json client keys.ed25519 one_time_keys fallback_keys req) ∧
      ∀ w, ∃ setup w', client.createCrosssigningKeys json w = .ok (some setup, w') ∧
        (client.device_id_ ∉ setup.publicKeys →
          SetupVerifies json client keys.ed25519 setup) := by
  obtain ⟨keys, hkeys, hcurve, hed⟩ := laws.identity_keys account
  have hvalid : (signedPart (deviceKeys client keys).toJson).validUtf8 = true :=
    validUtf8_signedPart_deviceKeys huser hdevice hcurve hed
  exact ⟨keys, hkeys,
    fun _ _ hone hfallback ↦ uploadVerifies laws haccount hkeys hvalid hone hfallback,
    setupVerifies laws haccount hkeys huser⟩

/-! ## Example -/

/-- The identity keys of the account of `sampleOlm`. -/
def sampleIdentityKeys : Json :=
  .object [(lit "curve25519", .string sampleIdentityKey),
    (lit "ed25519", .string sampleFingerprint)]

theorem accountKeys_sampleOlm (account : sampleOlm.Account) :
    accountKeys (knownTexts [sampleIdentityKeys]) account =
      .ok ⟨sampleIdentityKey, sampleFingerprint⟩ := by
  rfl

theorem ed25519Verify_sampleOlm {key message sig : Str} (h : 43 ≤ key.length) :
    sampleOlm.ed25519Verify key message sig = true ↔ sig = key ++ message := by
  simp [sampleOlm, h]

theorem signingLaws_sampleOlm : SigningLaws sampleOlm (knownTexts [sampleIdentityKeys]) where
  short := by decide
  identity_keys account := ⟨_, accountKeys_sampleOlm account, by decide, by decide⟩
  account_sign account keys h message := by
    obtain rfl := Except.ok.inj ((accountKeys_sampleOlm account).symm.trans h)
    have hne : sampleFingerprint ≠ [] := by decide
    exact ⟨List.append_ne_nil_of_left_ne_nil hne message,
      fun sig ↦ ed25519Verify_sampleOlm (by decide)⟩
  pk_seed seed h := ⟨_, _, if_pos h.ge⟩
  pk_sign seed signing pub h := by
    have hseed : 32 ≤ seed.length := by
      by_contra hshort
      rw [show sampleOlm.pkSigningKeyFromSeed seed = none from if_neg hshort] at h
      cases h
    rw [show sampleOlm.pkSigningKeyFromSeed seed = some _ from if_pos hseed] at h
    obtain ⟨rfl, rfl⟩ := Prod.mk.inj (Option.some.inj h)
    have hlength : (bin2base64Unpadded (seed.take 32)).length = 43 := by
      rw [bin2base64Unpadded, length_encodeBase64_unpadded, List.length_take_of_le hseed]
    refine ⟨validUtf8_of_ascii fun b hb ↦
        ascii_base64Letters b (mem_letters_of_mem_encodeBase64 _ hb),
      fun message ↦ ⟨_, rfl, ?_, fun sig ↦ ed25519Verify_sampleOlm hlength.ge⟩⟩
    rw [← List.length_pos_iff, List.length_append, hlength]
    omega

/-- A client with an account. -/
def sampleClient : OlmClient sampleOlm where
  user_id_ := "@alice:matrix.org"
  device_id_ := "FKALSOCCC"
  account_ := some ()

/-- The one-time key of this client. -/
def sampleOneTimeKeys : OneTimeKeys where
  curve25519 := SortedMap.empty.insert "AAAAAQ" sampleIdentityKey

theorem validUtf8_sampleOneTimeKeys :
    ∀ id key, sampleOneTimeKeys.curve25519.find? id = some key → validUtf8 key = true := by
  intro id key h
  rw [sampleOneTimeKeys, SortedMap.find?_insert, SortedMap.find?_empty] at h
  split_ifs at h
  rw [← Option.some.inj h]
  decide

/-- The public keys that this client generates from ones. -/
theorem publicKeys_sampleClient :
    (sampleClient.createCrosssigningKeys (knownTexts [sampleIdentityKeys]) ones).toOption.map
        (fun r ↦ r.1.map CrossSigningSetup.publicKeys) =
      some (some (List.replicate 3 (bin2base64Unpadded (List.replicate 32 1)))) := by
  decide +kernel

/-- The signatures of this client verify. -/
theorem sampleClient_signatures_verify :
    SigningLaws sampleOlm (knownTexts [sampleIdentityKeys]) ∧
    (∃ req, Yields (sampleClient.createUploadKeysRequest (knownTexts [sampleIdentityKeys])
        sampleOneTimeKeys sampleOneTimeKeys) req ∧
      UploadVerifies (knownTexts [sampleIdentityKeys]) sampleClient sampleFingerprint
        sampleOneTimeKeys sampleOneTimeKeys req) ∧
    ∃ setup w', sampleClient.createCrosssigningKeys (knownTexts [sampleIdentityKeys]) ones =
        .ok (some setup, w') ∧
      SetupVerifies (knownTexts [sampleIdentityKeys]) sampleClient sampleFingerprint setup := by
  obtain ⟨keys, hkeys, hupload, hsetup⟩ := signatures_verify sampleOlm
    (knownTexts [sampleIdentityKeys]) signingLaws_sampleOlm sampleClient () rfl (by decide)
    (by decide)
  obtain rfl := Except.ok.inj ((accountKeys_sampleOlm ()).symm.trans hkeys)
  obtain ⟨setup, w', hrun, hverifies⟩ := hsetup ones
  have hpublic := publicKeys_sampleClient
  rw [hrun] at hpublic
  have hpublic : setup.publicKeys = List.replicate 3 (bin2base64Unpadded (List.replicate 32 1)) :=
    Option.some.inj (Option.some.inj hpublic)
  refine ⟨signingLaws_sampleOlm,
    hupload _ _ validUtf8_sampleOneTimeKeys validUtf8_sampleOneTimeKeys, setup, w', hrun,
    hverifies ?_⟩
  rw [hpublic]
  decide

end Mtx.Crypto
