import MtxClient.Crypto.KeyCreation
import MtxClient.Crypto.Verification

/-!
# The olm client

The part of `OlmClient` that signs: the identity keys of the account, one-time keys, and the keys
for cross-signing.  What is signed is put together here member by member, and independently of the
`to_json` functions that write the same keys for the server.
-/

set_option autoImplicit false

namespace Mtx.Crypto

open Str

/-! ## Keys of an account -/

/-- `IdentityKeys`. -/
structure IdentityKeys where
  curve25519 : Str
  ed25519 : Str

/-- `from_json(IdentityKeys)`. -/
def IdentityKeys.fromJson (obj : Json) : Except Exn IdentityKeys := do
  let ed25519 ← (← obj.atKey "ed25519").getString
  let curve25519 ← (← obj.atKey "curve25519").getString
  return { curve25519, ed25519 }

/-- `OneTimeKeys`, by key id. -/
structure OneTimeKeys where
  curve25519 : SortedMap Str Str

/-- `SignedOneTimeKey`. -/
structure SignedOneTimeKey where
  key : Str
  fallback : Bool := false
  signatures : Signatures

/-- `to_json(SignedOneTimeKey)`. -/
def SignedOneTimeKey.toJson (request : SignedOneTimeKey) : Json :=
  Json.ofMembers <| Json.noMembers
    |>.insertIf request.fallback "fallback" (.boolean true)
    |>.insert "key" (.string request.key)
    |>.insert "signatures" (signaturesToJson request.signatures)

/-- `std::variant<std::string, SignedOneTimeKey>`. -/
inductive UploadedKey where
  | plain (key : Str)
  | signed (key : SignedOneTimeKey)

/-- `json` of either alternative. -/
def UploadedKey.toJson : UploadedKey → Json
  | plain key => .string key
  | signed key => key.toJson

/-- `UploadKeys`. -/
structure UploadKeys where
  device_keys : DeviceKeys
  one_time_keys : SortedMap Str UploadedKey
  fallback_keys : SortedMap Str UploadedKey

/-- `to_json(UploadKeys)`. -/
def UploadKeys.toJson (request : UploadKeys) : Json :=
  .object (Json.noMembers
    |>.insertIf (!request.device_keys.user_id.isEmpty) "device_keys" request.device_keys.toJson
    |>.insertIf (!request.one_time_keys.entries.isEmpty) "one_time_keys"
      (Json.ofMap UploadedKey.toJson request.one_time_keys)
    |>.insertIf (!request.fallback_keys.entries.isEmpty) "fallback_keys"
      (Json.ofMap UploadedKey.toJson request.fallback_keys)).entries

/-! ## Cross-signing keys -/

/-- `PkSigning::sign`. -/
def PkSigning.sign {olm : Libolm} (s : PkSigning olm) (message : Str) : OlmM Str :=
  orOlmException "olm_pk_sign" (olm.pkSign s.signing message)

/-- `OlmClient::CrossSigningSetup`. -/
structure CrossSigningSetup where
  master_key : CrossSigningKeys
  user_signing_key : CrossSigningKeys
  self_signing_key : CrossSigningKeys
  private_master_key : Str
  private_user_signing_key : Str
  private_self_signing_key : Str

/-! ## The client -/

/-- `OlmClient`. -/
structure OlmClient (olm : Libolm) where
  user_id_ : Str
  device_id_ : Str
  /-- `account_`, which is a null pointer at first. -/
  account_ : Option olm.Account

namespace OlmClient

variable {olm : Libolm} (json : JsonText) (client : OlmClient olm)

/-- `OlmClient::identity_keys`. -/
def identityKeys : OlmM IdentityKeys := do
  let account ← orOlmException "identity_keys" client.account_
  let _ ← newBuffer (olm.accountIdentityKeysLength account)
  IdentityKeys.fromJson (← json.parse (olm.accountIdentityKeys account))

/-- `OlmClient::sign_message`. -/
def signMessage (msg : Str) : OlmM Str :=
  match client.account_ with
  | some account => do
    let _ ← newBuffer (olm.accountSignatureLength account)
    return olm.accountSign account msg
  | none => throw .undefinedBehaviour

/-- `OlmClient::sign_identity_keys`. -/
def signIdentityKeys : OlmM Str := do
  let keys ← client.identityKeys json
  let body := Json.ofMembers (Json.noMembers
    |>.insert "algorithms"
      (Json.ofArray .string [lit "m.olm.v1.curve25519-aes-sha2", lit "m.megolm.v1.aes-sha2"])
    |>.insert "user_id" (.string client.user_id_)
    |>.insert "device_id" (.string client.device_id_)
    |>.insert "keys" (Json.ofMembers (Json.noMembers
      |>.insert (lit "curve25519:" ++ client.device_id_) (.string keys.curve25519)
      |>.insert (signKeyId client.device_id_) (.string keys.ed25519))))
  client.signMessage (← json.dump body)

/-- `OlmClient::sign_one_time_key`. -/
def signOneTimeKey (key : Str) (fallback : Bool) : OlmM Str := do
  let j := Json.ofMembers (Json.noMembers
    |>.insert "key" (.string key)
    |>.insertIf fallback "fallback" (.boolean true))
  client.signMessage (← json.dump j)

/-- `OlmClient::signed_one_time_key`. -/
def signedOneTimeKey (key signature : Str) (fallback : Bool) : SignedOneTimeKey where
  key
  fallback
  signatures := sign SortedMap.empty client.user_id_ (signKeyId client.device_id_) signature

/-- `OlmClient::sign_one_time_keys`. -/
def signOneTimeKeys (keys : OneTimeKeys) (fallback : Bool) :
    OlmM (SortedMap Str SignedOneTimeKey) :=
  keys.curve25519.entries.foldlM (fun signed_one_time_keys (key_id, one_time_key) ↦ do
    let sig ← client.signOneTimeKey json one_time_key fallback
    return signed_one_time_keys.insert (lit "signed_curve25519:" ++ key_id)
      (client.signedOneTimeKey one_time_key sig fallback)) SortedMap.empty

/-- `OlmClient::create_upload_keys_request`. -/
def createUploadKeysRequest (one_time_keys fallback_keys : OneTimeKeys) : OlmM UploadKeys := do
  let id_keys ← client.identityKeys json
  let keys := SortedMap.empty
    |>.insert (lit "curve25519:" ++ client.device_id_) id_keys.curve25519
    |>.insert (signKeyId client.device_id_) id_keys.ed25519
  let sig ← client.signIdentityKeys json
  let signatures := sign SortedMap.empty client.user_id_ (signKeyId client.device_id_) sig
  let one_time_keys ← client.signOneTimeKeys json one_time_keys false
  let fallback_keys ← client.signOneTimeKeys json fallback_keys true
  return {
    device_keys := { user_id := client.user_id_, device_id := client.device_id_, keys, signatures }
    one_time_keys := one_time_keys.map .signed
    fallback_keys := fallback_keys.map .signed }

/-! ## Cross-signing -/

/-- A public key for `usage`, before it is signed. -/
def unsignedKey (usage public_key : Str) : CrossSigningKeys where
  usage := [usage]
  user_id := client.user_id_
  keys := SortedMap.empty.insert (signKeyId public_key) public_key

/-- A block of `OlmClient::create_crosssigning_keys`: a key is signed with itself and then with the
key `ed25519:id`. -/
def newCrossSigningKey (usage : Str) (own : PkSigning olm) (id : Str) (second : Str → OlmM Str) :
    OlmM CrossSigningKeys := do
  let key := client.unsignedKey usage own.public_key
  let text ← canonicalJson json key.toJson
  let sig ← own.sign text
  let signatures := sign key.signatures client.user_id_ (signKeyId own.public_key) sig
  let sig ← second text
  let signatures := sign signatures client.user_id_ (signKeyId id) sig
  return { key with signatures }

/-- `OlmClient::create_crosssigning_keys`. -/
def createCrosssigningKeys : OlmM (Option CrossSigningSetup) := do
  let master ← PkSigning.newKey olm
  let user_signing ← PkSigning.newKey olm
  let self_signing ← PkSigning.newKey olm
  let master_key ← client.newCrossSigningKey json "master" master client.device_id_
    client.signMessage
  let user_signing_key ← client.newCrossSigningKey json "user_signing" user_signing
    master.public_key master.sign
  let self_signing_key ← client.newCrossSigningKey json "self_signing" self_signing
    master.public_key master.sign
  return some {
    master_key
    user_signing_key
    self_signing_key
    private_master_key := master.seed
    private_user_signing_key := user_signing.seed
    private_self_signing_key := self_signing.seed }

end OlmClient

end Mtx.Crypto
