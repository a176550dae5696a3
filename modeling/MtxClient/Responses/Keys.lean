import MtxClient.Crypto.Verification
import MtxClient.Json.ReadBack

/-!
# Answers about keys

The answers to `/keys/upload`, `/keys/query` and `/keys/claim`.  What a homeserver says about the
servers that it could not reach is kept as texts.
-/

set_option autoImplicit false

namespace Mtx.Responses

open Str
open Crypto (DeviceKeys CrossSigningKeys)

section

variable (json : JsonText)

/-- Response from `/keys/upload`. -/
structure UploadKeys where
  /-- The number of unclaimed one-time keys, by algorithm. -/
  one_time_key_counts : SortedMap Str UInt32 := SortedMap.empty

instance : Inhabited UploadKeys := ⟨{}⟩

/-- `from_json(UploadKeys)`. -/
def UploadKeys.fromJson (obj : Json) : Except Exn UploadKeys := do
  return { one_time_key_counts := ← (← obj.atKey "one_time_key_counts").getMap Json.getUInt32 }

/-- Response from `/keys/query`. -/
structure QueryKeys where
  /-- The servers that could not be reached. -/
  failures : SortedMap Str Str := SortedMap.empty
  /-- The keys of the devices, by user and device. -/
  device_keys : SortedMap Str (SortedMap Str DeviceKeys) := SortedMap.empty
  master_keys : SortedMap Str CrossSigningKeys := SortedMap.empty
  user_signing_keys : SortedMap Str CrossSigningKeys := SortedMap.empty
  self_signing_keys : SortedMap Str CrossSigningKeys := SortedMap.empty

instance : Inhabited QueryKeys := ⟨{}⟩

/-- `from_json(QueryKeys)`. -/
def QueryKeys.fromJson (obj : Json) : Except Exn QueryKeys := do
  let failures ← obj.optional "failures" (Json.getMap json.dump) SortedMap.empty
  let device_keys ←
    obj.optional "device_keys" (Json.getMap (Json.getMap DeviceKeys.fromJson)) SortedMap.empty
  let master_keys ←
    obj.optional "master_keys" (Json.getMap CrossSigningKeys.fromJson) SortedMap.empty
  let user_signing_keys ←
    obj.optional "user_signing_keys" (Json.getMap CrossSigningKeys.fromJson) SortedMap.empty
  let self_signing_keys ←
    obj.optional "self_signing_keys" (Json.getMap CrossSigningKeys.fromJson) SortedMap.empty
  return { failures, device_keys, master_keys, user_signing_keys, self_signing_keys }

/-- Response from `/keys/claim`. -/
structure ClaimKeys where
  /-- The servers that could not be reached. -/
  failures : SortedMap Str Str := SortedMap.empty
  /-- The one-time keys, by user and device. -/
  one_time_keys : SortedMap Str (SortedMap Str Json) := SortedMap.empty

instance : Inhabited ClaimKeys := ⟨{}⟩

/-- `from_json(ClaimKeys)`. -/
def ClaimKeys.fromJson (obj : Json) : Except Exn ClaimKeys := do
  let failures ← obj.optional "failures" (Json.getMap json.dump) SortedMap.empty
  let one_time_keys ← obj.optional "one_time_keys" (Json.getMap (Json.getMap .ok)) SortedMap.empty
  return { failures, one_time_keys }

end

end Mtx.Responses
