import MtxClient.Events.Rereading

/-!
# Contents of encryption and verification

The contents of `encrypted.hpp`: encrypted events, the keys that devices send each other, the
messages of a key verification and shared secrets.

A Megolm event is the one content whose relations are written without an edit, and which is never
read from `m.new_content`.  The start of a verification and what follows it have relations, the
request has none.
-/

set_option autoImplicit false

namespace Mtx.Events.Msg

open Str

/-! ## Methods -/

/-- How short authentication strings are shown. -/
inductive SASMethods where
  | decimal | emoji | unsupported
  deriving DecidableEq, Repr

/-- `from_json(SASMethods)`. -/
def SASMethods.fromJson (obj : Json) : Except Exn SASMethods := do
  let s ← obj.getString
  return if s = "decimal" then .decimal else if s = "emoji" then .emoji else .unsupported

/-- `to_json(SASMethods)`. -/
def SASMethods.toJson : SASMethods → Json
  | .decimal => .string "decimal"
  | .emoji => .string "emoji"
  | .unsupported => .string "unsupported"

theorem SASMethods.fromJson_toJson (method : SASMethods) :
    SASMethods.fromJson method.toJson = .ok method := by cases method <;> rfl

/-- How a device is verified. -/
inductive VerificationMethods where
  | sasv1 | unsupported
  deriving DecidableEq, Repr

/-- `from_json(VerificationMethods)`. -/
def VerificationMethods.fromJson (obj : Json) : Except Exn VerificationMethods := do
  let s ← obj.getString
  return if s = "m.sas.v1" then .sasv1 else .unsupported

/-- `to_json(VerificationMethods)`. -/
def VerificationMethods.toJson : VerificationMethods → Json
  | .sasv1 => .string "m.sas.v1"
  | .unsupported => .string "unsupported"

theorem VerificationMethods.fromJson_toJson (method : VerificationMethods) :
    VerificationMethods.fromJson method.toJson = .ok method := by cases method <;> rfl

/-! ## Encrypted events -/

/-- `OLM_ALGO`. -/
def olmAlgo : Str := "m.olm.v1.curve25519-aes-sha2"

/-- An Olm message. -/
structure OlmCipherContent where
  body : Str
  type : UInt8

/-- `from_json(OlmCipherContent)`. -/
def OlmCipherContent.fromJson (obj : Json) : Except Exn OlmCipherContent := do
  let body ← (← obj.atKey "body").getString
  let type ← (← obj.atKey "type").getUInt8
  return { body, type }

/-- `to_json(OlmCipherContent)`. -/
def OlmCipherContent.toJson (msg : OlmCipherContent) : Json :=
  Json.ofMembers <| Json.noMembers
    |>.insert "body" (.string msg.body)
    |>.insert "type" (.numberUnsigned msg.type.toUInt64)

theorem OlmCipherContent.fromJson_toJson (msg : OlmCipherContent) :
    OlmCipherContent.fromJson msg.toJson = .ok msg := by
  simp [OlmCipherContent.fromJson, OlmCipherContent.toJson, Json.atKey_eq, Json.getUInt8]

/-- Content of an event that is encrypted for devices. -/
structure OlmEncrypted where
  algorithm : Str := ""
  sender_key : Str := ""
  ciphertext : SortedMap Str OlmCipherContent := SortedMap.empty

/-- `from_json(OlmEncrypted)`. -/
def OlmEncrypted.fromJson (obj : Json) : Except Exn OlmEncrypted := do
  let sender_key ← (← obj.atKey "sender_key").getString
  let ciphertext ← (← obj.atKey "ciphertext").getMap OlmCipherContent.fromJson
  return { algorithm := olmAlgo, sender_key, ciphertext }

/-- `to_json(OlmEncrypted)`. -/
def OlmEncrypted.toJson (msg : OlmEncrypted) : Json :=
  Json.ofMembers <| Json.noMembers
    |>.insert "algorithm" (.string msg.algorithm)
    |>.insert "sender_key" (.string msg.sender_key)
    |>.insert "ciphertext" (Json.ofMap OlmCipherContent.toJson msg.ciphertext)

instance : EventContent OlmEncrypted := .ofCodec OlmEncrypted.fromJson OlmEncrypted.toJson {}

/-- Content of an event that is encrypted for a room. -/
structure Encrypted where
  algorithm : Str := ""
  ciphertext : Str := ""
  device_id : Str := ""
  sender_key : Str := ""
  session_id : Str := ""
  relations : Relations := {}

/-- `from_json(Encrypted)`. -/
def Encrypted.fromJson (obj : Json) : Except Exn Encrypted := do
  let algorithm ← (← obj.atKey "algorithm").getString
  let ciphertext ← (← obj.atKey "ciphertext").getString
  let session_id ← (← obj.atKey "session_id").getString
  let device_id ← obj.value "device_id" Json.getString ""
  let sender_key ← obj.value "sender_key" Json.getString ""
  let relations ← parseRelations obj
  return { algorithm, ciphertext, device_id, sender_key, session_id, relations }

/-- The members that are written before the relations. -/
def Encrypted.members (content : Encrypted) : SortedMap Str Json :=
  Json.noMembers
    |>.insert "algorithm" (.string content.algorithm)
    |>.insert "ciphertext" (.string content.ciphertext)
    |>.insertIf (!content.device_id.isEmpty) "device_id" (.string content.device_id)
    |>.insertIf (!content.sender_key.isEmpty) "sender_key" (.string content.sender_key)
    |>.insert "session_id" (.string content.session_id)

/-- `to_json(Encrypted)`, which does not generate an edited content. -/
def Encrypted.toJson (content : Encrypted) : Except Exn Json :=
  addRelations (Json.ofMembers content.members) content.relations

instance : EventContent Encrypted where
  fromJson := Encrypted.fromJson
  toJson c := c.toJson.toOption.getD .null
  default := {}
  canEdit := true
  isEncrypted := true
  canEdit_of_isEncrypted _ := rfl

theorem Encrypted.rereads (content : Encrypted) :
    ∃ j, content.toJson = .ok j ∧ Succeeds (contentFrom Encrypted j) := by
  have hplain : Plain (Json.ofMembers content.members) :=
    plain_ofMembers (by simp [members]) (by simp [members]) (by simp [members])
  obtain ⟨j, hj, hadded, -⟩ := addRelations_spec hplain content.relations
  refine ⟨j, hj, ?_⟩
  have hobj : j.isObject = true := hadded.isObject (Json.isObject_of_find?
    (k := "algorithm") (v := .string content.algorithm) (by simp [members]))
  obtain ⟨rels, hrels⟩ := (succeeds_parseRelations_iff j).mpr hadded.readable
  have hread : contentFrom Encrypted j = Encrypted.fromJson j := by
    rw [contentFrom, hobj]
    rfl
  rw [hread, Encrypted.fromJson, hrels]
  by_cases hdevice : content.device_id.isEmpty = true <;>
    by_cases hkey : content.sender_key.isEmpty = true
  all_goals simp (disch := decide) [Json.atKey_eq, Json.value_eq, hobj, hadded.ordinary, members,
    hdevice, hkey]

/-- Content of `m.dummy`. -/
structure Dummy where

instance : EventContent Dummy := .ofCodec (fun _ ↦ .ok {}) (fun _ ↦ .object []) {}

/-! ## Keys -/

/-- Content of `m.room_key`. -/
structure RoomKey where
  algorithm : Str := ""
  room_id : Str := ""
  session_id : Str := ""
  session_key : Str := ""

/-- `from_json(RoomKey)`. -/
def RoomKey.fromJson (obj : Json) : Except Exn RoomKey := do
  let algorithm ← (← obj.atKey "algorithm").getString
  let room_id ← (← obj.atKey "room_id").getString
  let session_id ← (← obj.atKey "session_id").getString
  let session_key ← (← obj.atKey "session_key").getString
  return { algorithm, room_id, session_id, session_key }

/-- `to_json(RoomKey)`. -/
def RoomKey.toJson (event : RoomKey) : Json :=
  Json.ofMembers <| Json.noMembers
    |>.insert "algorithm" (.string event.algorithm)
    |>.insert "room_id" (.string event.room_id)
    |>.insert "session_id" (.string event.session_id)
    |>.insert "session_key" (.string event.session_key)

instance : EventContent RoomKey := .ofCodec RoomKey.fromJson RoomKey.toJson {}

/-- Content of `m.forwarded_room_key`. -/
structure ForwardedRoomKey where
  algorithm : Str := ""
  room_id : Str := ""
  session_id : Str := ""
  session_key : Str := ""
  sender_key : Str := ""
  sender_claimed_ed25519_key : Str := ""
  forwarding_curve25519_key_chain : List Str := []

/-- `from_json(ForwardedRoomKey)`. -/
def ForwardedRoomKey.fromJson (obj : Json) : Except Exn ForwardedRoomKey := do
  let algorithm ← (← obj.atKey "algorithm").getString
  let room_id ← (← obj.atKey "room_id").getString
  let session_id ← (← obj.atKey "session_id").getString
  let session_key ← (← obj.atKey "session_key").getString
  let sender_key ← (← obj.atKey "sender_key").getString
  let sender_claimed_ed25519_key ← (← obj.atKey "sender_claimed_ed25519_key").getString
  let forwarding_curve25519_key_chain ←
    (← obj.atKey "forwarding_curve25519_key_chain").getArray Json.getString
  return { algorithm, room_id, session_id, session_key, sender_key, sender_claimed_ed25519_key,
           forwarding_curve25519_key_chain }

/-- `to_json(ForwardedRoomKey)`. -/
def ForwardedRoomKey.toJson (event : ForwardedRoomKey) : Json :=
  Json.ofMembers <| Json.noMembers
    |>.insert "algorithm" (.string event.algorithm)
    |>.insert "room_id" (.string event.room_id)
    |>.insert "session_id" (.string event.session_id)
    |>.insert "session_key" (.string event.session_key)
    |>.insert "sender_key" (.string event.sender_key)
    |>.insert "sender_claimed_ed25519_key" (.string event.sender_claimed_ed25519_key)
    |>.insert "forwarding_curve25519_key_chain"
      (Json.ofArray .string event.forwarding_curve25519_key_chain)

instance : EventContent ForwardedRoomKey :=
  .ofCodec ForwardedRoomKey.fromJson ForwardedRoomKey.toJson {}

/-- What is done about a requested key or secret. -/
inductive RequestAction where
  | request | cancellation | unknown
  deriving DecidableEq, Repr

/-- Content of `m.room_key_request`. -/
structure KeyRequest where
  /-- The first value of the enumeration, as long as no other is assigned. -/
  action : RequestAction := .request
  algorithm : Str := ""
  room_id : Str := ""
  sender_key : Str := ""
  session_id : Str := ""
  request_id : Str := ""
  requesting_device_id : Str := ""

/-- `from_json(KeyRequest)`. -/
def KeyRequest.fromJson (obj : Json) : Except Exn KeyRequest := do
  let request_id ← (← obj.atKey "request_id").getString
  let requesting_device_id ← (← obj.atKey "requesting_device_id").getString
  let action ← (← obj.atKey "action").getString
  if action = "request" then
    let room_id ← (← (← obj.atKey "body").atKey "room_id").getString
    let sender_key ← (← obj.atKey "body").value "sender_key" Json.getString ""
    let session_id ← (← (← obj.atKey "body").atKey "session_id").getString
    let algorithm ← (← (← obj.atKey "body").atKey "algorithm").getString
    return { action := .request, algorithm, room_id, sender_key, session_id, request_id,
             requesting_device_id }
  else if action = "request_cancellation" then
    return { action := .cancellation, request_id, requesting_device_id }
  else
    return { request_id, requesting_device_id }

/-- `to_json(KeyRequest)`. -/
def KeyRequest.toJson (event : KeyRequest) : Json :=
  let m := Json.noMembers
    |>.insert "request_id" (.string event.request_id)
    |>.insert "requesting_device_id" (.string event.requesting_device_id)
  .object <| SortedMap.entries <| match event.action with
    | .request => m
      |>.insert "body" (.object (Json.noMembers
        |>.insert "room_id" (.string event.room_id)
        |>.insertIf (!event.sender_key.isEmpty) "sender_key" (.string event.sender_key)
        |>.insert "session_id" (.string event.session_id)
        |>.insert "algorithm" (.string "m.megolm.v1.aes-sha2")).entries)
      |>.insert "action" (.string "request")
    | .cancellation => m.insert "action" (.string "request_cancellation")
    | .unknown => m

instance : EventContent KeyRequest := .ofCodec KeyRequest.fromJson KeyRequest.toJson {}

/-! ## Key verification -/

/-- `if (obj.count(key) != 0) field = obj.at(key).get<std::string>();`, for an optional field. -/
def optionalString (obj : Json) (key : Str) : Except Exn (Option Str) :=
  obj.optional key (fun j ↦ some <$> j.getString) none

/-- `if (field.has_value()) obj[key] = field.value();`. -/
def insertSome (m : SortedMap Str Json) (key : Str) (v : Option Json) : SortedMap Str Json :=
  match v with
  | some v => m.insert key v
  | none => m

@[simp] theorem find?_insertSome (m : SortedMap Str Json) (key k : Str) (v : Option Json) :
    (insertSome m key v).find? k = if k = key then v.or (m.find? k) else m.find? k := by
  cases v <;> simp [insertSome]

theorem optionalString_of_find? {j : Json} {k : Str} {s : Option Str}
    (h : j.find? k = s.map Json.string) : optionalString j k = .ok s := by
  rw [optionalString, Json.optional, h]
  cases s <;> rfl

/-- Content of `m.key.verification.request`. -/
structure KeyVerificationRequest where
  body : Option Str := none
  from_device : Str := ""
  «to» : Option Str := none
  transaction_id : Option Str := none
  msgtype : Option Str := none
  methods : List VerificationMethods := []
  timestamp : Option UInt64 := none

/-- `from_json(KeyVerificationRequest)`. -/
def KeyVerificationRequest.fromJson (obj : Json) : Except Exn KeyVerificationRequest := do
  let body ← optionalString obj "body"
  let from_device ← (← obj.atKey "from_device").getString
  let methods ← (← obj.atKey "methods").getArray VerificationMethods.fromJson
  let timestamp ← obj.optional "timestamp" (fun j ↦ some <$> j.getUInt64) none
  let msgtype ← optionalString obj "msgtype"
  let «to» ← optionalString obj "to"
  let transaction_id ← optionalString obj "transaction_id"
  return { body, from_device, «to», transaction_id, msgtype, methods, timestamp }

/-- The members that are written. -/
def KeyVerificationRequest.members (event : KeyVerificationRequest) : SortedMap Str Json :=
  let m := insertSome Json.noMembers "body" (event.body.map .string)
    |>.insert "from_device" (.string event.from_device)
    |>.insert "methods" (Json.ofArray VerificationMethods.toJson event.methods)
    |>.insertIf event.msgtype.isSome "msgtype" (.string "m.key.verification.request")
  let m := insertSome m "timestamp" (event.timestamp.map .numberUnsigned)
  let m := insertSome m "to" (event.«to».map .string)
  insertSome m "transaction_id" (event.transaction_id.map .string)

/-- `to_json(KeyVerificationRequest)`. -/
def KeyVerificationRequest.toJson (event : KeyVerificationRequest) : Json :=
  Json.ofMembers event.members

instance : EventContent KeyVerificationRequest :=
  .ofCodec KeyVerificationRequest.fromJson KeyVerificationRequest.toJson {}

theorem KeyVerificationRequest.rereads (event : KeyVerificationRequest) :
    Succeeds (contentFrom KeyVerificationRequest event.toJson) := by
  refine succeeds_contentFrom (by simp [toJson, members]) ?_
  have hmethods := Json.getArray_ofArray VerificationMethods.fromJson_toJson event.methods
  have hbody := optionalString_of_find? (j := event.toJson) (k := "body") (s := event.body)
    (by simp [toJson, members])
  have hto := optionalString_of_find? (j := event.toJson) (k := "to") (s := event.«to»)
    (by simp [toJson, members])
  have htransaction := optionalString_of_find? (j := event.toJson) (k := "transaction_id")
    (s := event.transaction_id) (by simp [toJson, members])
  have hmsgtype : ∃ s, optionalString event.toJson "msgtype" = .ok s := by
    rcases h : event.msgtype with - | s <;>
      simp [optionalString, Json.optional, toJson, members, h]
  obtain ⟨msgtype, hmsgtype⟩ := hmsgtype
  show Succeeds (KeyVerificationRequest.fromJson event.toJson)
  rw [KeyVerificationRequest.fromJson, hbody, hto, htransaction, hmsgtype]
  rcases h : event.timestamp with - | t <;>
    simp [Json.atKey_eq, Json.optional, toJson, members, hmethods, h, Json.getUInt64]

/-- Content of `m.key.verification.start`. -/
structure KeyVerificationStart where
  from_device : Str := ""
  transaction_id : Option Str := none
  method : VerificationMethods := .sasv1
  next_method : Option Str := none
  key_agreement_protocols : List Str := []
  hashes : List Str := []
  message_authentication_codes : List Str := []
  short_authentication_string : List SASMethods := []
  relations : Relations := {}

/-- `from_json(KeyVerificationStart)`. -/
def KeyVerificationStart.fromJson (obj : Json) : Except Exn KeyVerificationStart := do
  let from_device ← (← obj.atKey "from_device").getString
  let transaction_id ← optionalString obj "transaction_id"
  let method ← VerificationMethods.fromJson (← obj.atKey "method")
  let next_method ← optionalString obj "next_method"
  let key_agreement_protocols ← (← obj.atKey "key_agreement_protocols").getArray Json.getString
  let hashes ← (← obj.atKey "hashes").getArray Json.getString
  let message_authentication_codes ←
    (← obj.atKey "message_authentication_codes").getArray Json.getString
  let short_authentication_string ←
    (← obj.atKey "short_authentication_string").getArray SASMethods.fromJson
  let relations ← parseRelations obj
  return { from_device, transaction_id, method, next_method, key_agreement_protocols, hashes,
           message_authentication_codes, short_authentication_string, relations }

/-- The members that are written before the relations. -/
def KeyVerificationStart.members (event : KeyVerificationStart) : SortedMap Str Json :=
  let m := Json.noMembers
    |>.insert "from_device" (.string event.from_device)
    |>.insert "method" event.method.toJson
  let m := insertSome m "transaction_id" (event.transaction_id.map .string)
  insertSome m "next_method" (event.next_method.map .string)
    |>.insert "key_agreement_protocols" (Json.ofArray .string event.key_agreement_protocols)
    |>.insert "hashes" (Json.ofArray .string event.hashes)
    |>.insert "message_authentication_codes"
      (Json.ofArray .string event.message_authentication_codes)
    |>.insert "short_authentication_string"
      (Json.ofArray SASMethods.toJson event.short_authentication_string)

/-- `to_json(KeyVerificationStart)`. -/
def KeyVerificationStart.toJson (event : KeyVerificationStart) : Except Exn Json :=
  applyRelations (Json.ofMembers event.members) event.relations

instance : EventContent KeyVerificationStart :=
  .ofRelated KeyVerificationStart.fromJson KeyVerificationStart.toJson {}

/-- A content of a verification has no texts. -/
theorem plain_verification {m : SortedMap Str Json}
    (hkeys : m.find? "m.relates_to" = none ∧ m.find? "im.nheko.relations.v1.relations" = none ∧
      m.find? "m.new_content" = none)
    (htexts : m.find? "body" = none ∧ m.find? "formatted_body" = none) :
    Plain (Json.ofMembers m) := by
  refine plain_ofMembers hkeys (fun v hv ↦ ?_) (fun v hv ↦ ?_)
  · rw [htexts.1] at hv
    cases hv
  · rw [htexts.2] at hv
    cases hv

theorem rereads_verification {C : Type} [EventContent C]
    (hC : EventContent.isEncrypted C = false) {m : SortedMap Str Json}
    (hkeys : m.find? "m.relates_to" = none ∧ m.find? "im.nheko.relations.v1.relations" = none ∧
      m.find? "m.new_content" = none)
    (htexts : m.find? "body" = none ∧ m.find? "formatted_body" = none) (rels : Relations)
    (hread : ∀ r, SameMembers (Json.ofMembers m) r →
      Succeeds (EventContent.fromJson (C := C) r)) :
    ∃ j, applyRelations (Json.ofMembers m) rels = .ok j ∧ Succeeds (contentFrom C j) := by
  obtain ⟨j, hj, -, -, hcontent⟩ :=
    Events.rereads (plain_verification hkeys htexts) rels hC hread
  exact ⟨j, hj, hcontent⟩

/-- A string that may be missing is read again as it was written. -/
theorem SameMembers.optionalString {m : SortedMap Str Json} {r : Json}
    (h : SameMembers (Json.ofMembers m) r) {k : Str} {s : Option Str}
    (hkey : isRelationKey k = false) (hs : m.find? k = s.map Json.string) :
    optionalString r k = .ok s :=
  optionalString_of_find? (by rw [h.find? k hkey, Json.find?_ofMembers, hs])

theorem KeyVerificationStart.rereads (event : KeyVerificationStart) :
    ∃ j, event.toJson = .ok j ∧ Succeeds (contentFrom KeyVerificationStart j) := by
  refine rereads_verification rfl (by simp [members]) (by simp [members]) event.relations
    fun r hr ↦ ?_
  obtain ⟨rels, hrels⟩ := hr.parseRelations
  have htransaction := SameMembers.optionalString hr (k := "transaction_id")
    (s := event.transaction_id) (by decide) (by simp [members])
  have hnext := SameMembers.optionalString hr (k := "next_method") (s := event.next_method)
    (by decide) (by simp [members])
  show Succeeds (KeyVerificationStart.fromJson r)
  rw [KeyVerificationStart.fromJson, hrels, htransaction, hnext]
  simp (disch := decide) [Json.atKey_eq, hr.find?, members, VerificationMethods.fromJson_toJson,
    Json.getArray_ofArray Json.getString_string, Json.getArray_ofArray SASMethods.fromJson_toJson]

/-- Content of `m.key.verification.ready`. -/
structure KeyVerificationReady where
  from_device : Str := ""
  transaction_id : Option Str := none
  methods : List VerificationMethods := []
  relations : Relations := {}

/-- `from_json(KeyVerificationReady)`. -/
def KeyVerificationReady.fromJson (obj : Json) : Except Exn KeyVerificationReady := do
  let transaction_id ← optionalString obj "transaction_id"
  let methods ← (← obj.atKey "methods").getArray VerificationMethods.fromJson
  let from_device ← (← obj.atKey "from_device").getString
  let relations ← parseRelations obj
  return { from_device, transaction_id, methods, relations }

/-- The members that are written before the relations. -/
def KeyVerificationReady.members (event : KeyVerificationReady) : SortedMap Str Json :=
  let m := Json.noMembers
    |>.insert "methods" (Json.ofArray VerificationMethods.toJson event.methods)
  insertSome m "transaction_id" (event.transaction_id.map .string)
    |>.insert "from_device" (.string event.from_device)

/-- `to_json(KeyVerificationReady)`. -/
def KeyVerificationReady.toJson (event : KeyVerificationReady) : Except Exn Json :=
  applyRelations (Json.ofMembers event.members) event.relations

instance : EventContent KeyVerificationReady :=
  .ofRelated KeyVerificationReady.fromJson KeyVerificationReady.toJson {}

theorem KeyVerificationReady.rereads (event : KeyVerificationReady) :
    ∃ j, event.toJson = .ok j ∧ Succeeds (contentFrom KeyVerificationReady j) := by
  refine rereads_verification rfl (by simp [members]) (by simp [members]) event.relations
    fun r hr ↦ ?_
  obtain ⟨rels, hrels⟩ := hr.parseRelations
  have htransaction := SameMembers.optionalString hr (k := "transaction_id")
    (s := event.transaction_id) (by decide) (by simp [members])
  show Succeeds (KeyVerificationReady.fromJson r)
  rw [KeyVerificationReady.fromJson, hrels, htransaction]
  simp (disch := decide) [Json.atKey_eq, hr.find?, members,
    Json.getArray_ofArray VerificationMethods.fromJson_toJson]

/-- Content of `m.key.verification.done`. -/
structure KeyVerificationDone where
  transaction_id : Option Str := none
  relations : Relations := {}

/-- `from_json(KeyVerificationDone)`. -/
def KeyVerificationDone.fromJson (obj : Json) : Except Exn KeyVerificationDone := do
  let transaction_id ← optionalString obj "transaction_id"
  let relations ← parseRelations obj
  return { transaction_id, relations }

/-- The members that are written before the relations. -/
def KeyVerificationDone.members (event : KeyVerificationDone) : SortedMap Str Json :=
  insertSome Json.noMembers "transaction_id" (event.transaction_id.map .string)

/-- `to_json(KeyVerificationDone)`. -/
def KeyVerificationDone.toJson (event : KeyVerificationDone) : Except Exn Json :=
  applyRelations (Json.ofMembers event.members) event.relations

instance : EventContent KeyVerificationDone :=
  .ofRelated KeyVerificationDone.fromJson KeyVerificationDone.toJson {}

theorem KeyVerificationDone.rereads (event : KeyVerificationDone) :
    ∃ j, event.toJson = .ok j ∧ Succeeds (contentFrom KeyVerificationDone j) := by
  refine rereads_verification rfl (by simp [members]) (by simp [members]) event.relations
    fun r hr ↦ ?_
  obtain ⟨rels, hrels⟩ := hr.parseRelations
  have htransaction := SameMembers.optionalString hr (k := "transaction_id")
    (s := event.transaction_id) (by decide) (by simp [members])
  show Succeeds (KeyVerificationDone.fromJson r)
  rw [KeyVerificationDone.fromJson, hrels, htransaction]
  exact succeeds_ok _

/-- Content of `m.key.verification.accept`. -/
structure KeyVerificationAccept where
  transaction_id : Option Str := none
  method : VerificationMethods := .sasv1
  key_agreement_protocol : Str := ""
  hash : Str := ""
  message_authentication_code : Str := ""
  short_authentication_string : List SASMethods := []
  commitment : Str := ""
  relations : Relations := {}

/-- `from_json(KeyVerificationAccept)`. -/
def KeyVerificationAccept.fromJson (obj : Json) : Except Exn KeyVerificationAccept := do
  let transaction_id ← optionalString obj "transaction_id"
  let key_agreement_protocol ← (← obj.atKey "key_agreement_protocol").getString
  let hash ← (← obj.atKey "hash").getString
  let message_authentication_code ← (← obj.atKey "message_authentication_code").getString
  let short_authentication_string ←
    (← obj.atKey "short_authentication_string").getArray SASMethods.fromJson
  let commitment ← (← obj.atKey "commitment").getString
  let method ← obj.value "method" VerificationMethods.fromJson .sasv1
  let relations ← parseRelations obj
  return { transaction_id, method, key_agreement_protocol, hash, message_authentication_code,
           short_authentication_string, commitment, relations }

/-- The members that are written before the relations. -/
def KeyVerificationAccept.members (event : KeyVerificationAccept) : SortedMap Str Json :=
  insertSome Json.noMembers "transaction_id" (event.transaction_id.map .string)
    |>.insert "key_agreement_protocol" (.string event.key_agreement_protocol)
    |>.insert "hash" (.string event.hash)
    |>.insert "message_authentication_code" (.string event.message_authentication_code)
    |>.insert "short_authentication_string"
      (Json.ofArray SASMethods.toJson event.short_authentication_string)
    |>.insert "commitment" (.string event.commitment)
    |>.insert "method" event.method.toJson

/-- `to_json(KeyVerificationAccept)`. -/
def KeyVerificationAccept.toJson (event : KeyVerificationAccept) : Except Exn Json :=
  applyRelations (Json.ofMembers event.members) event.relations

instance : EventContent KeyVerificationAccept :=
  .ofRelated KeyVerificationAccept.fromJson KeyVerificationAccept.toJson {}

theorem KeyVerificationAccept.rereads (event : KeyVerificationAccept) :
    ∃ j, event.toJson = .ok j ∧ Succeeds (contentFrom KeyVerificationAccept j) := by
  refine rereads_verification rfl (by simp [members]) (by simp [members]) event.relations
    fun r hr ↦ ?_
  obtain ⟨rels, hrels⟩ := hr.parseRelations
  have htransaction := SameMembers.optionalString hr (k := "transaction_id")
    (s := event.transaction_id) (by decide) (by simp [members])
  show Succeeds (KeyVerificationAccept.fromJson r)
  rw [KeyVerificationAccept.fromJson, hrels, htransaction]
  simp (disch := decide) [Json.atKey_eq, Json.value_eq, hr.find?, members,
    VerificationMethods.fromJson_toJson, Json.getArray_ofArray SASMethods.fromJson_toJson]

/-- Content of `m.key.verification.cancel`. -/
structure KeyVerificationCancel where
  transaction_id : Option Str := none
  reason : Str := ""
  code : Str := ""
  relations : Relations := {}

/-- `from_json(KeyVerificationCancel)`. -/
def KeyVerificationCancel.fromJson (obj : Json) : Except Exn KeyVerificationCancel := do
  let transaction_id ← optionalString obj "transaction_id"
  let reason ← obj.value "reason" Json.getString ""
  let code ← obj.value "code" Json.getString ""
  let relations ← parseRelations obj
  return { transaction_id, reason, code, relations }

/-- The members that are written before the relations. -/
def KeyVerificationCancel.members (event : KeyVerificationCancel) : SortedMap Str Json :=
  insertSome Json.noMembers "transaction_id" (event.transaction_id.map .string)
    |>.insert "reason" (.string event.reason)
    |>.insert "code" (.string event.code)

/-- `to_json(KeyVerificationCancel)`. -/
def KeyVerificationCancel.toJson (event : KeyVerificationCancel) : Except Exn Json :=
  applyRelations (Json.ofMembers event.members) event.relations

instance : EventContent KeyVerificationCancel :=
  .ofRelated KeyVerificationCancel.fromJson KeyVerificationCancel.toJson {}

theorem KeyVerificationCancel.rereads (event : KeyVerificationCancel) :
    ∃ j, event.toJson = .ok j ∧ Succeeds (contentFrom KeyVerificationCancel j) := by
  refine rereads_verification rfl (by simp [members]) (by simp [members]) event.relations
    fun r hr ↦ ?_
  obtain ⟨rels, hrels⟩ := hr.parseRelations
  have htransaction := SameMembers.optionalString hr (k := "transaction_id")
    (s := event.transaction_id) (by decide) (by simp [members])
  show Succeeds (KeyVerificationCancel.fromJson r)
  rw [KeyVerificationCancel.fromJson, hrels, htransaction]
  simp (disch := decide) [Json.value_eq, hr.find?, members]

/-- Content of `m.key.verification.key`. -/
structure KeyVerificationKey where
  transaction_id : Option Str := none
  key : Str := ""
  relations : Relations := {}

/-- `from_json(KeyVerificationKey)`. -/
def KeyVerificationKey.fromJson (obj : Json) : Except Exn KeyVerificationKey := do
  let transaction_id ← optionalString obj "transaction_id"
  let key ← (← obj.atKey "key").getString
  let relations ← parseRelations obj
  return { transaction_id, key, relations }

/-- The members that are written before the relations. -/
def KeyVerificationKey.members (event : KeyVerificationKey) : SortedMap Str Json :=
  insertSome Json.noMembers "transaction_id" (event.transaction_id.map .string)
    |>.insert "key" (.string event.key)

/-- `to_json(KeyVerificationKey)`. -/
def KeyVerificationKey.toJson (event : KeyVerificationKey) : Except Exn Json :=
  applyRelations (Json.ofMembers event.members) event.relations

instance : EventContent KeyVerificationKey :=
  .ofRelated KeyVerificationKey.fromJson KeyVerificationKey.toJson {}

theorem KeyVerificationKey.rereads (event : KeyVerificationKey) :
    ∃ j, event.toJson = .ok j ∧ Succeeds (contentFrom KeyVerificationKey j) := by
  refine rereads_verification rfl (by simp [members]) (by simp [members]) event.relations
    fun r hr ↦ ?_
  obtain ⟨rels, hrels⟩ := hr.parseRelations
  have htransaction := SameMembers.optionalString hr (k := "transaction_id")
    (s := event.transaction_id) (by decide) (by simp [members])
  show Succeeds (KeyVerificationKey.fromJson r)
  rw [KeyVerificationKey.fromJson, hrels, htransaction]
  simp (disch := decide) [Json.atKey_eq, hr.find?, members]

/-- Content of `m.key.verification.mac`. -/
structure KeyVerificationMac where
  transaction_id : Option Str := none
  mac : SortedMap Str Str := SortedMap.empty
  keys : Str := ""
  relations : Relations := {}

/-- `from_json(KeyVerificationMac)`. -/
def KeyVerificationMac.fromJson (obj : Json) : Except Exn KeyVerificationMac := do
  let transaction_id ← optionalString obj "transaction_id"
  let mac ← (← obj.atKey "mac").getMap Json.getString
  let keys ← (← obj.atKey "keys").getString
  let relations ← parseRelations obj
  return { transaction_id, mac, keys, relations }

/-- The members that are written before the relations. -/
def KeyVerificationMac.members (event : KeyVerificationMac) : SortedMap Str Json :=
  insertSome Json.noMembers "transaction_id" (event.transaction_id.map .string)
    |>.insert "mac" (Json.ofMap .string event.mac)
    |>.insert "keys" (.string event.keys)

/-- `to_json(KeyVerificationMac)`. -/
def KeyVerificationMac.toJson (event : KeyVerificationMac) : Except Exn Json :=
  applyRelations (Json.ofMembers event.members) event.relations

instance : EventContent KeyVerificationMac :=
  .ofRelated KeyVerificationMac.fromJson KeyVerificationMac.toJson {}

theorem KeyVerificationMac.rereads (event : KeyVerificationMac) :
    ∃ j, event.toJson = .ok j ∧ Succeeds (contentFrom KeyVerificationMac j) := by
  refine rereads_verification rfl (by simp [members]) (by simp [members]) event.relations
    fun r hr ↦ ?_
  obtain ⟨rels, hrels⟩ := hr.parseRelations
  have htransaction := SameMembers.optionalString hr (k := "transaction_id")
    (s := event.transaction_id) (by decide) (by simp [members])
  show Succeeds (KeyVerificationMac.fromJson r)
  rw [KeyVerificationMac.fromJson, hrels, htransaction]
  simp (disch := decide) [Json.atKey_eq, hr.find?, members,
    Json.getMap_ofMap Json.getString_string]

/-! ## Shared secrets -/

/-- Content of `m.secret.request`. -/
structure SecretRequest where
  action : RequestAction := .request
  name : Str := ""
  request_id : Str := ""
  requesting_device_id : Str := ""

/-- `from_json(SecretRequest)`. -/
def SecretRequest.fromJson (obj : Json) : Except Exn SecretRequest := do
  let action ← obj.value "action" Json.getString ""
  let name ← obj.value "name" Json.getString ""
  let request_id ← obj.value "request_id" Json.getString ""
  let requesting_device_id ← obj.value "requesting_device_id" Json.getString ""
  return { action := if action = "request" then .request
             else if action = "request_cancellation" then .cancellation else .unknown
           name, request_id, requesting_device_id }

/-- `to_json(SecretRequest)`, which throws for an unknown action. -/
def SecretRequest.toJson (event : SecretRequest) : Except Exn Json := do
  let action ← match event.action with
    | .request => pure (lit "request")
    | .cancellation => pure (lit "request_cancellation")
    | .unknown => .error (.invalidArgument "Unknown secret request action type")
  return Json.ofMembers <| Json.noMembers
    |>.insert "action" (.string action)
    |>.insertIf (!event.name.isEmpty) "name" (.string event.name)
    |>.insert "request_id" (.string event.request_id)
    |>.insert "requesting_device_id" (.string event.requesting_device_id)

instance : EventContent SecretRequest :=
  .ofCodec SecretRequest.fromJson (fun c ↦ c.toJson.toOption.getD .null) {}

/-- Content of `m.secret.send`. -/
structure SecretSend where
  secret : Str := ""
  request_id : Str := ""

/-- `from_json(SecretSend)`. -/
def SecretSend.fromJson (obj : Json) : Except Exn SecretSend := do
  let request_id ← obj.value "request_id" Json.getString ""
  let secret ← obj.value "secret" Json.getString ""
  return { secret, request_id }

/-- `to_json(SecretSend)`. -/
def SecretSend.toJson (event : SecretSend) : Json :=
  Json.ofMembers <| Json.noMembers
    |>.insert "request_id" (.string event.request_id)
    |>.insert "secret" (.string event.secret)

instance : EventContent SecretSend := .ofCodec SecretSend.fromJson SecretSend.toJson {}

end Mtx.Events.Msg
