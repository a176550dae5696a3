import MtxClient.Crypto.DeviceKeys
import MtxClient.Crypto.Olm

/-!
# Verifying signatures

`ed25519_verify_signature` checks a signature of a JSON object, and `verify_identity_signature` the
signature a device made of its own keys.

* `verifiesTotally_iff` says when the latter answers at all: both functions catch the exceptions of
  the JSON library, but not the one that `std::map::at` throws for a missing key.
* `verifyIdentitySignature_eq_true_iff` says what a success means: which key and which signature
  were used, and that the signature covers the keys as this library writes them.  The members
  `user_id` and `device_id` are part of what is covered, but nobody compares them with the
  arguments.
* `parsed_keys_verify_alike` says which objects still verify once they are read: those with no other
  members than the ones this library knows.
-/

set_option autoImplicit false

namespace Mtx.Crypto

open Str

variable (olm : Libolm) (json : JsonText)

/-! ## The functions -/

/-- `erase("unsigned")`, `erase("signatures")` and `dump()`. -/
def canonicalJson (obj : Json) : Except Exn Str := do
  let obj ← obj.erase "unsigned"
  let obj ← obj.erase "signatures"
  json.dump obj

/-- `ed25519_verify_signature`. -/
def ed25519VerifySignature (signing_key : Str) (obj : Json) (signature : Str) : Except Exn Bool :=
  catchJson (r := false) <|
    if signature.isEmpty then .ok false else do
      let canonical_json ← canonicalJson json obj
      -- anything but 0 means that the signature is wrong
      return olm.ed25519Verify signing_key canonical_json signature

/-- `std::map::at`. -/
def mapAt {α : Type} (m : SortedMap Str α) (k : Str) : Except Exn α :=
  match m.find? k with
  | some v => .ok v
  | none => .error (.outOfRange "map::at")

/-- `"ed25519:" + id`. -/
def signKeyId (id : Str) : Str := lit "ed25519:" ++ id

/-- `verify_identity_signature`. -/
def verifyIdentitySignature (device_keys : DeviceKeys) (device_id user_id : Str) :
    Except Exn Bool :=
  catchJson (r := false) do
    let signing_key ← mapAt device_keys.keys (signKeyId device_id)
    let signature ← mapAt (← mapAt device_keys.signatures user_id) (signKeyId device_id)
    if signature.isEmpty then return false else
    ed25519VerifySignature olm json signing_key device_keys.toJson signature

/-! ## What the functions answer -/

variable {olm json}

/-- The canonical text of an object is that of its signed part. -/
theorem canonicalJson_eq {obj : Json} (hobj : obj.isObject = true) :
    canonicalJson json obj = json.dump (signedPart obj) := by
  have hobj' : (obj.without "unsigned").isObject = true := by rw [Json.isObject_without, hobj]
  rw [canonicalJson, Json.erase_eq_ok hobj, ok_bind, Json.erase_eq_ok hobj', ok_bind, signedPart]

/-- A signature of an object is a signature of the text of its signed part. -/
theorem ed25519VerifySignature_eq {obj : Json} (hobj : obj.isObject = true) (key sig : Str) :
    ed25519VerifySignature olm json key obj sig =
      .ok (!sig.isEmpty && (signedPart obj).validUtf8 &&
        olm.ed25519Verify key (json.text (signedPart obj)) sig) := by
  rw [ed25519VerifySignature, canonicalJson_eq hobj, JsonText.dump]
  cases sig.isEmpty with
  | true => rfl
  | false => cases (signedPart obj).validUtf8 <;> rfl

theorem ed25519VerifySignature_eq_true_iff {obj : Json} (hobj : obj.isObject = true)
    {key sig : Str} :
    ed25519VerifySignature olm json key obj sig = .ok true ↔
      sig ≠ [] ∧ ∃ text, json.dump (signedPart obj) = .ok text ∧
        olm.ed25519Verify key text sig = true := by
  rw [ed25519VerifySignature_eq hobj]
  simp [JsonText.dump_eq_ok_iff, and_assoc]

/-- Only the signed part matters. -/
theorem ed25519VerifySignature_congr {obj obj' : Json} (hobj : obj.isObject = true)
    (hobj' : obj'.isObject = true) (h : signedPart obj = signedPart obj') (key sig : Str) :
    ed25519VerifySignature olm json key obj sig = ed25519VerifySignature olm json key obj' sig := by
  rw [ed25519VerifySignature_eq hobj, ed25519VerifySignature_eq hobj', h]

/-- The verification looks up a key and a signature, and throws unless it finds both. -/
theorem verifyIdentitySignature_eq (dk : DeviceKeys) (d u : Str) :
    verifyIdentitySignature olm json dk d u =
      match dk.keys.find? (signKeyId d), signatureOf dk.signatures u (signKeyId d) with
      | some key, some sig => ed25519VerifySignature olm json key dk.toJson sig
      | _, _ => .error (.outOfRange "map::at") := by
  rw [verifyIdentitySignature, signatureOf, mapAt]
  cases dk.keys.find? (signKeyId d) with
  | none => rfl
  | some key =>
    rw [ok_bind, mapAt]
    cases dk.signatures.find? u with
    | none => rfl
    | some sigs =>
      rw [ok_bind, mapAt, Option.bind_some]
      cases sigs.find? (signKeyId d) with
      | none => rfl
      | some sig =>
        show _ = ed25519VerifySignature olm json key dk.toJson sig
        rw [ok_bind, ed25519VerifySignature_eq dk.isObject_toJson]
        cases sig <;> rfl

/-! ## When it answers -/

/-- The key and the signature are there, are not empty, and verify. -/
def Verifiable (olm : Libolm) (json : JsonText) (dk : DeviceKeys) (d u : Str) : Prop :=
  ∃ key sig text, dk.keys.find? (signKeyId d) = some key ∧ key ≠ [] ∧
    signatureOf dk.signatures u (signKeyId d) = some sig ∧ sig ≠ [] ∧
    json.dump (signedPart dk.toJson) = .ok text ∧ olm.ed25519Verify key text sig = true

/-- `verify_identity_signature` throws nothing, and answers `false` unless there is something to
verify. -/
def VerifiesTotally (olm : Libolm) (json : JsonText) (dk : DeviceKeys) (d u : Str) : Prop :=
  ∃ b, verifyIdentitySignature olm json dk d u = .ok b ∧
    (¬ Verifiable olm json dk d u → b = false)

theorem verifyIdentitySignature_of_find? {dk : DeviceKeys} {d u key sig : Str}
    (hkey : dk.keys.find? (signKeyId d) = some key)
    (hsig : signatureOf dk.signatures u (signKeyId d) = some sig) :
    verifyIdentitySignature olm json dk d u =
      ed25519VerifySignature olm json key dk.toJson sig := by
  rw [verifyIdentitySignature_eq, hkey, hsig]

/-- If it answers, it has found a key and a signature. -/
theorem find?_of_verifyIdentitySignature {dk : DeviceKeys} {d u : Str} {b : Bool}
    (h : verifyIdentitySignature olm json dk d u = .ok b) :
    ∃ key sig, dk.keys.find? (signKeyId d) = some key ∧
      signatureOf dk.signatures u (signKeyId d) = some sig := by
  rw [verifyIdentitySignature_eq] at h
  cases hkey : dk.keys.find? (signKeyId d) with
  | none =>
    rw [hkey] at h
    cases h
  | some key =>
    cases hsig : signatureOf dk.signatures u (signKeyId d) with
    | none =>
      rw [hkey, hsig] at h
      cases h
    | some sig => exact ⟨key, sig, rfl, rfl⟩

/-- **A verification that succeeds has verified the signed part of the keys**, with the key and the
signature that the arguments select. -/
theorem verifyIdentitySignature_eq_true_iff (olm : Libolm) (json : JsonText) (dk : DeviceKeys)
    (d u : Str) :
    verifyIdentitySignature olm json dk d u = .ok true ↔
      ∃ key sig text, dk.keys.find? (signKeyId d) = some key ∧
        signatureOf dk.signatures u (signKeyId d) = some sig ∧ sig ≠ [] ∧
        json.dump (signedPart dk.toJson) = .ok text ∧ olm.ed25519Verify key text sig = true := by
  constructor
  · intro h
    obtain ⟨key, sig, hkey, hsig⟩ := find?_of_verifyIdentitySignature h
    rw [verifyIdentitySignature_of_find? hkey hsig,
      ed25519VerifySignature_eq_true_iff dk.isObject_toJson] at h
    obtain ⟨hne, text, htext, hverify⟩ := h
    exact ⟨key, sig, text, hkey, hsig, hne, htext, hverify⟩
  · rintro ⟨key, sig, text, hkey, hsig, hne, htext, hverify⟩
    rw [verifyIdentitySignature_of_find? hkey hsig,
      ed25519VerifySignature_eq_true_iff dk.isObject_toJson]
    exact ⟨hne, text, htext, hverify⟩

/-- **The verification is total exactly if the maps have the key and the signature it looks up.** -/
theorem verifiesTotally_iff (olm : Libolm) (json : JsonText)
    (hempty : ∀ message signature, olm.ed25519Verify [] message signature = false)
    (dk : DeviceKeys) (d u : Str) :
    VerifiesTotally olm json dk d u ↔
      (∃ key, dk.keys.find? (signKeyId d) = some key) ∧
        ∃ sig, signatureOf dk.signatures u (signKeyId d) = some sig := by
  constructor
  · rintro ⟨b, hb, -⟩
    obtain ⟨key, sig, hkey, hsig⟩ := find?_of_verifyIdentitySignature hb
    exact ⟨⟨key, hkey⟩, sig, hsig⟩
  · rintro ⟨⟨key, hkey⟩, sig, hsig⟩
    have heq : verifyIdentitySignature olm json dk d u = _ :=
      (verifyIdentitySignature_of_find? hkey hsig).trans
        (ed25519VerifySignature_eq dk.isObject_toJson key sig)
    refine ⟨_, heq, fun hnot ↦ ?_⟩
    by_contra htrue
    rw [Bool.not_eq_false] at htrue
    rw [htrue, verifyIdentitySignature_of_find? hkey hsig,
      ed25519VerifySignature_eq_true_iff dk.isObject_toJson] at heq
    obtain ⟨hne, text, htext, hverify⟩ := heq
    refine hnot ⟨key, sig, text, hkey, ?_, hsig, hne, htext, hverify⟩
    rintro rfl
    rw [hempty] at hverify
    cases hverify

/-! ## Verifying what was read -/

/-- The object has no other members than those that `p` knows, apart from what is never signed. -/
def OnlyMembers (p : Str → Bool) (obj : Json) : Prop :=
  ∀ k, obj.contains k = true → p k = true ∨ k = lit "signatures" ∨ k = lit "unsigned"

theorem restrict_signedPart_eq_iff {obj : Json} (hs : obj.SortedKeys) {p : Str → Bool} :
    (signedPart obj).restrict p = signedPart obj ↔ OnlyMembers p obj := by
  refine ⟨fun h k hk ↦ ?_, restrict_signedPart_of_known hs⟩
  by_contra hnot
  rw [not_or] at hnot
  obtain ⟨v, hv⟩ := Json.contains_eq_true_iff.mp hk
  have hfind := congrArg (Json.find? · k) h
  simp only [Json.find?_restrict, find?_signedPart, if_neg hnot.1, if_neg hnot.2, hv] at hfind
  cases hfind

/-- **Reading an object keeps the signed members this library knows**, so that what is signed
survives exactly if there are no others, and the object then verifies as it did before. -/
theorem parsed_keys_verify_alike (olm : Libolm) (json : JsonText) {obj : Json}
    (hs : obj.sorted = true) :
    (∀ keys, DeviceKeys.fromJson obj = .ok keys →
      signedPart keys.toJson = (signedPart obj).restrict isDeviceKeysMember ∧
      (signedPart keys.toJson = signedPart obj ↔ OnlyMembers isDeviceKeysMember obj) ∧
      (OnlyMembers isDeviceKeysMember obj → ∀ key sig,
        ed25519VerifySignature olm json key keys.toJson sig =
          ed25519VerifySignature olm json key obj sig)) ∧
    ∀ keys, CrossSigningKeys.fromJson obj = .ok keys →
      signedPart keys.toJson = (signedPart obj).restrict isCrossSigningKeysMember ∧
      (signedPart keys.toJson = signedPart obj ↔ OnlyMembers isCrossSigningKeysMember obj) ∧
      (OnlyMembers isCrossSigningKeysMember obj → ∀ key sig,
        ed25519VerifySignature olm json key keys.toJson sig =
          ed25519VerifySignature olm json key obj sig) := by
  have hsorted := Json.sortedKeys_of_sorted hs
  constructor
  · intro keys h
    have hobj := Json.isObject_of_find? (find?_of_fromJson_deviceKeys hs h).1
    have hpart := signedPart_deviceKeys hs h
    refine ⟨hpart, by rw [hpart, restrict_signedPart_eq_iff hsorted], fun honly key sig ↦ ?_⟩
    exact ed25519VerifySignature_congr keys.isObject_toJson hobj
      (hpart.trans (restrict_signedPart_of_known hsorted honly)) key sig
  · intro keys h
    have hobj := Json.isObject_of_find? (find?_of_fromJson_crossSigningKeys hs h).1
    have hpart := signedPart_crossSigningKeys hs h
    refine ⟨hpart, by rw [hpart, restrict_signedPart_eq_iff hsorted], fun honly key sig ↦ ?_⟩
    exact ed25519VerifySignature_congr keys.isObject_toJson hobj
      (hpart.trans (restrict_signedPart_of_known hsorted honly)) key sig

/-! ## Examples -/

theorem ed25519Verify_sampleOlm_nil (message signature : Str) :
    sampleOlm.ed25519Verify [] message signature = false := rfl

/-- What the account of `sampleOlm` signs verifies. -/
theorem ed25519VerifySignature_sampleOlm {obj : Json} (hobj : obj.isObject = true)
    (hvalid : (signedPart obj).validUtf8 = true) :
    ed25519VerifySignature sampleOlm (knownTexts []) sampleFingerprint obj
      (sampleFingerprint ++ (signedPart obj).dumpText) = .ok true := by
  have hlength : 43 ≤ sampleFingerprint.length := by decide
  have hne : sampleFingerprint ≠ [] := by decide
  rw [ed25519VerifySignature_eq_true_iff hobj]
  exact ⟨List.append_ne_nil_of_left_ne_nil hne _, _, JsonText.dump_of_validUtf8 _ hvalid,
    by simp [sampleOlm, knownTexts, hlength]⟩

/-- The keys of a device of Alice. -/
def aliceKeys (signatures : Signatures) : DeviceKeys where
  user_id := "@alice:matrix.org"
  device_id := "FKALSOCCC"
  keys := SortedMap.ofList [(lit "curve25519:FKALSOCCC", sampleIdentityKey),
    (lit "ed25519:FKALSOCCC", sampleFingerprint), (lit "ed25519:EVIL", sampleFingerprint)]
  signatures

/-- A signature of them, under the names of Eve and a device of hers. -/
def eveSignatures : Signatures :=
  sign SortedMap.empty "@eve:matrix.org" "ed25519:EVIL"
    (sampleFingerprint ++ (signedPart (aliceKeys SortedMap.empty).toJson).dumpText)

/-- The keys of Alice with what a server knows about them. -/
def annotatedKeys : Json :=
  (aliceKeys SortedMap.empty).toJson.put "unsigned" (.object [(lit "age", .numberUnsigned 5)])

/-- The keys of Alice with a member that this library does not know. -/
def extendedKeys : Json :=
  (aliceKeys SortedMap.empty).toJson.put "org.example.extra" (.boolean true)

/-- With a key and a signature the verification is total. -/
theorem verifiesTotally_eveSignatures :
    (∀ message signature, sampleOlm.ed25519Verify [] message signature = false) ∧
      VerifiesTotally sampleOlm (knownTexts []) (aliceKeys eveSignatures) "EVIL"
        "@eve:matrix.org" :=
  ⟨ed25519Verify_sampleOlm_nil,
    (verifiesTotally_iff sampleOlm (knownTexts []) ed25519Verify_sampleOlm_nil
      (aliceKeys eveSignatures) "EVIL" "@eve:matrix.org").mpr ⟨⟨_, rfl⟩, _, rfl⟩⟩

/-- **Keys without an entry for the device, or without a signature of the user, let an exception of
`std::map` escape.** -/
theorem not_verifiesTotally_aliceKeys :
    verifyIdentitySignature sampleOlm (knownTexts []) (aliceKeys SortedMap.empty) "OTHER"
        "@alice:matrix.org" = .error (.outOfRange "map::at") ∧
      verifyIdentitySignature sampleOlm (knownTexts []) (aliceKeys SortedMap.empty) "FKALSOCCC"
        "@alice:matrix.org" = .error (.outOfRange "map::at") ∧
      ¬ VerifiesTotally sampleOlm (knownTexts []) (aliceKeys SortedMap.empty) "OTHER"
        "@alice:matrix.org" := by
  have h : verifyIdentitySignature sampleOlm (knownTexts []) (aliceKeys SortedMap.empty) "OTHER"
      "@alice:matrix.org" = .error (.outOfRange "map::at") := by rfl
  refine ⟨h, by rfl, fun ⟨b, hb, _⟩ ↦ ?_⟩
  rw [h] at hb
  cases hb

/-- **The keys of Alice verify as those of a device of Eve.** -/
theorem aliceKeys_verify_as_eve :
    verifyIdentitySignature sampleOlm (knownTexts []) (aliceKeys eveSignatures) "EVIL"
        "@eve:matrix.org" = .ok true ∧
      (aliceKeys eveSignatures).user_id ≠ lit "@eve:matrix.org" ∧
      (aliceKeys eveSignatures).device_id ≠ lit "EVIL" := by
  have hpart : signedPart (aliceKeys eveSignatures).toJson =
      signedPart (aliceKeys SortedMap.empty).toJson :=
    (aliceKeys SortedMap.empty).signedPart_withSignatures eveSignatures
  refine ⟨?_, by decide, by decide⟩
  have hkey : (aliceKeys eveSignatures).keys.find? (signKeyId "EVIL") =
      some sampleFingerprint := rfl
  have hsig : signatureOf (aliceKeys eveSignatures).signatures "@eve:matrix.org"
      (signKeyId "EVIL") = some (sampleFingerprint ++
        (signedPart (aliceKeys eveSignatures).toJson).dumpText) := by
    rw [hpart]
    rfl
  rw [verifyIdentitySignature_of_find? hkey hsig]
  exact ed25519VerifySignature_sampleOlm (DeviceKeys.isObject_toJson _)
    (by rw [hpart]; decide +kernel)

/-- What a server adds to `unsigned` does not keep the keys of Alice from verifying. -/
theorem annotatedKeys_verify :
    annotatedKeys.sorted = true ∧
      DeviceKeys.fromJson annotatedKeys = .ok (aliceKeys SortedMap.empty) ∧
      OnlyMembers isDeviceKeysMember annotatedKeys ∧
      ed25519VerifySignature sampleOlm (knownTexts []) sampleFingerprint
          (aliceKeys SortedMap.empty).toJson sampleFingerprint =
        ed25519VerifySignature sampleOlm (knownTexts []) sampleFingerprint annotatedKeys
          sampleFingerprint := by
  have hsorted : annotatedKeys.sorted = true := by decide +kernel
  have hread : DeviceKeys.fromJson annotatedKeys = .ok (aliceKeys SortedMap.empty) := by rfl
  have honly : OnlyMembers isDeviceKeysMember annotatedKeys := by
    intro k hk
    obtain ⟨v, hv⟩ := Json.contains_eq_true_iff.mp hk
    rw [annotatedKeys, Json.find?_put (Or.inr (DeviceKeys.isObject_toJson _))] at hv
    simp only [DeviceKeys.toJson, Json.find?_ofMembers, SortedMap.find?_insert,
      SortedMap.find?_insertIf, SortedMap.find?_empty] at hv
    split_ifs at hv <;> simp_all [isDeviceKeysMember]
  exact ⟨hsorted, hread, honly,
    ((parsed_keys_verify_alike sampleOlm (knownTexts []) hsorted).1 _ hread).2.2 honly _ _⟩

/-- **With another member, what was signed is lost**, and a signature that verified does not verify
any more. -/
theorem extendedKeys_lose_signature :
    DeviceKeys.fromJson extendedKeys = .ok (aliceKeys SortedMap.empty) ∧
      signedPart (aliceKeys SortedMap.empty).toJson ≠ signedPart extendedKeys ∧
      ed25519VerifySignature sampleOlm (knownTexts []) sampleFingerprint extendedKeys
        (sampleFingerprint ++ (signedPart extendedKeys).dumpText) = .ok true ∧
      ed25519VerifySignature sampleOlm (knownTexts []) sampleFingerprint
        (aliceKeys SortedMap.empty).toJson
        (sampleFingerprint ++ (signedPart extendedKeys).dumpText) = .ok false := by
  refine ⟨by rfl, fun h ↦ ?_, ?_, ?_⟩
  · have hextra : (signedPart extendedKeys).find? "org.example.extra" = some (.boolean true) := by
      rw [find?_signedPart, if_neg (by decide), extendedKeys,
        Json.find?_put (Or.inr (DeviceKeys.isObject_toJson _)), if_pos rfl]
    have hnone : (aliceKeys SortedMap.empty).toJson.find? "org.example.extra" = none := by
      simp only [DeviceKeys.toJson, Json.find?_ofMembers, SortedMap.find?_insert,
        SortedMap.find?_insertIf, SortedMap.find?_empty]
      simp
    rw [← h, find?_signedPart, if_neg (by decide), hnone] at hextra
    cases hextra
  · exact ed25519VerifySignature_sampleOlm (by rfl) (by decide +kernel)
  · rw [ed25519VerifySignature_eq (DeviceKeys.isObject_toJson _)]
    decide +kernel

end Mtx.Crypto
