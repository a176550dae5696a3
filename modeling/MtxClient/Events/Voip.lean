import MtxClient.Events.Rereading

/-!
# Call contents

The contents of the `m.call` events.  None of them has relations.  A version that is a number counts
as version 0, in which the members about parties are missing.
-/

set_option autoImplicit false

namespace Mtx.Events.Voip

open Str

/-- `version`. -/
def version (obj : Json) : Except Exn Str := do
  let v ← obj.atKey "version"
  if v.isNumber then return "0" else v.getString

/-- `add_version`. -/
def addVersion (m : SortedMap Str Json) (version : Str) : SortedMap Str Json :=
  m.insert "version" (if version = "0" then .numberInteger 0 else .string version)

@[simp] theorem find?_addVersion (m : SortedMap Str Json) (v k : Str) :
    (addVersion m v).find? k = if k = "version" then
      some (if v = "0" then .numberInteger 0 else .string v) else m.find? k := by
  simp [addVersion]

/-- The version is read again as it was written. -/
theorem version_of_find? {j : Json} {v : Str}
    (h : j.find? "version" = some (if v = "0" then .numberInteger 0 else .string v)) :
    version j = .ok v := by
  rw [version, Json.atKey_of_find? h, ok_bind]
  by_cases hv : v = "0"
  · rw [if_pos hv, hv]
    rfl
  · rw [if_neg hv]
    rfl

/-- The type of a session description. -/
inductive SessionType where
  | answer | offer
  deriving DecidableEq, Repr

/-- A session description. -/
structure RTCSessionDescriptionInit where
  sdp : Str := ""
  /-- The first value of the enumeration, as long as no other is assigned. -/
  type : SessionType := .answer

/-- `from_json(RTCSessionDescriptionInit)`. -/
def RTCSessionDescriptionInit.fromJson (obj : Json) : Except Exn RTCSessionDescriptionInit := do
  let sdp ← (← obj.atKey "sdp").getString
  let type ← (← obj.atKey "type").getString
  return { sdp, type := if type = "answer" then .answer
                        else if type = "offer" then .offer else .answer }

/-- `to_json(RTCSessionDescriptionInit)`. -/
def RTCSessionDescriptionInit.toJson (content : RTCSessionDescriptionInit) : Json :=
  Json.ofMembers <| Json.noMembers
    |>.insert "sdp" (.string content.sdp)
    |>.insert "type" (.string (match content.type with | .answer => "answer" | .offer => "offer"))

theorem RTCSessionDescriptionInit.fromJson_toJson (content : RTCSessionDescriptionInit) :
    RTCSessionDescriptionInit.fromJson content.toJson = .ok content := by
  obtain ⟨sdp, type⟩ := content
  cases type <;> simp [fromJson, toJson, Json.atKey_eq]

/-! ## Invitations -/

/-- Content of `m.call.invite`. -/
structure CallInvite where
  call_id : Str := ""
  party_id : Str := ""
  offer : RTCSessionDescriptionInit := {}
  version : Str := ""
  lifetime : UInt32 := 90000
  invitee : Str := ""

/-- `from_json(CallInvite)`. -/
def CallInvite.fromJson (obj : Json) : Except Exn CallInvite := do
  let call_id ← (← obj.atKey "call_id").getString
  let offer ← RTCSessionDescriptionInit.fromJson (← obj.atKey "offer")
  let version ← Voip.version obj
  let lifetime ← (← obj.atKey "lifetime").getUInt32
  if version ≠ "0" then
    let party_id ← (← obj.atKey "party_id").getString
    let invitee ← obj.optional "invitee" Json.getString ""
    return { call_id, party_id, offer, version, lifetime, invitee }
  else
    return { call_id, offer, version, lifetime }

/-- `to_json(CallInvite)`. -/
def CallInvite.toJson (content : CallInvite) : Json :=
  let m := Json.noMembers
    |>.insert "call_id" (.string content.call_id)
    |>.insert "offer" content.offer.toJson
  Json.ofMembers <| addVersion m content.version
    |>.insert "lifetime" (.numberUnsigned content.lifetime.toUInt64)
    |>.insertIf (content.version ≠ "0") "party_id" (.string content.party_id)
    |>.insertIf (content.version ≠ "0") "invitee" (.string content.invitee)

instance : EventContent CallInvite := .ofCodec CallInvite.fromJson CallInvite.toJson {}

theorem CallInvite.rereads (content : CallInvite) :
    Succeeds (contentFrom CallInvite content.toJson) := by
  refine succeeds_contentFrom (by simp [toJson]) ?_
  have hversion := version_of_find? (j := content.toJson) (v := content.version)
    (by simp [toJson])
  show Succeeds (CallInvite.fromJson content.toJson)
  rw [CallInvite.fromJson, hversion]
  by_cases hv : content.version = "0"
  all_goals simp [Json.atKey_eq, Json.optional, toJson, hv, Json.getUInt32,
    RTCSessionDescriptionInit.fromJson_toJson]

/-! ## Candidates -/

/-- A candidate for a connection. -/
structure Candidate where
  sdpMid : Str := ""
  sdpMLineIndex : UInt16 := 0
  candidate : Str := ""

/-- `from_json(CallCandidates::Candidate)`. -/
def Candidate.fromJson (obj : Json) : Except Exn Candidate := do
  let sdpMid ← obj.optional "sdpMid" Json.getString ""
  let sdpMLineIndex ← obj.optional "sdpMLineIndex" Json.getUInt16 0
  let candidate ← obj.optional "candidate" Json.getString ""
  return { sdpMid, sdpMLineIndex, candidate }

/-- `to_json(CallCandidates::Candidate)`. -/
def Candidate.toJson (content : Candidate) : Json :=
  Json.ofMembers <| Json.noMembers
    |>.insert "sdpMid" (.string content.sdpMid)
    |>.insert "sdpMLineIndex" (.numberUnsigned content.sdpMLineIndex.toUInt64)
    |>.insert "candidate" (.string content.candidate)

theorem Candidate.fromJson_toJson (content : Candidate) :
    Candidate.fromJson content.toJson = .ok content := by
  simp [fromJson, toJson, Json.optional, Json.getUInt16]

/-- `if (content.version != "0") content.party_id = obj.at("party_id").get<std::string>();`. -/
def readPartyId (obj : Json) (version : Str) : Except Exn Str := do
  if version ≠ "0" then (← obj.atKey "party_id").getString else return ""

/-- Content of `m.call.candidates`. -/
structure CallCandidates where
  call_id : Str := ""
  party_id : Str := ""
  candidates : List Candidate := []
  version : Str := ""

/-- `from_json(CallCandidates)`. -/
def CallCandidates.fromJson (obj : Json) : Except Exn CallCandidates := do
  let call_id ← (← obj.atKey "call_id").getString
  let candidates ← (← obj.atKey "candidates").getArray Candidate.fromJson
  let version ← Voip.version obj
  let party_id ← readPartyId obj version
  return { call_id, party_id, candidates, version }

/-- `to_json(CallCandidates)`. -/
def CallCandidates.toJson (content : CallCandidates) : Json :=
  let m := Json.noMembers
    |>.insert "call_id" (.string content.call_id)
    |>.insert "candidates" (Json.ofArray Candidate.toJson content.candidates)
  Json.ofMembers <| addVersion m content.version
    |>.insertIf (content.version ≠ "0") "party_id" (.string content.party_id)

instance : EventContent CallCandidates := .ofCodec CallCandidates.fromJson CallCandidates.toJson {}

theorem CallCandidates.rereads (content : CallCandidates) :
    Succeeds (contentFrom CallCandidates content.toJson) := by
  refine succeeds_contentFrom (by simp [toJson]) ?_
  have hversion := version_of_find? (j := content.toJson) (v := content.version)
    (by simp [toJson])
  show Succeeds (CallCandidates.fromJson content.toJson)
  rw [CallCandidates.fromJson, hversion]
  by_cases hv : content.version = "0"
  all_goals simp [Json.atKey_eq, readPartyId, toJson, hv,
    Json.getArray_ofArray Candidate.fromJson_toJson]

/-! ## Answers, rejections and the end of a call -/

/-- Content of `m.call.answer`. -/
structure CallAnswer where
  call_id : Str := ""
  party_id : Str := ""
  version : Str := ""
  answer : RTCSessionDescriptionInit := {}

/-- `from_json(CallAnswer)`. -/
def CallAnswer.fromJson (obj : Json) : Except Exn CallAnswer := do
  let call_id ← (← obj.atKey "call_id").getString
  let answer ← RTCSessionDescriptionInit.fromJson (← obj.atKey "answer")
  let version ← Voip.version obj
  let party_id ← readPartyId obj version
  return { call_id, party_id, version, answer }

/-- `to_json(CallAnswer)`. -/
def CallAnswer.toJson (content : CallAnswer) : Json :=
  let m := Json.noMembers
    |>.insert "call_id" (.string content.call_id)
    |>.insert "answer" content.answer.toJson
  Json.ofMembers <| addVersion m content.version
    |>.insertIf (content.version ≠ "0") "party_id" (.string content.party_id)

instance : EventContent CallAnswer := .ofCodec CallAnswer.fromJson CallAnswer.toJson {}

theorem CallAnswer.rereads (content : CallAnswer) :
    Succeeds (contentFrom CallAnswer content.toJson) := by
  refine succeeds_contentFrom (by simp [toJson]) ?_
  have hversion := version_of_find? (j := content.toJson) (v := content.version)
    (by simp [toJson])
  show Succeeds (CallAnswer.fromJson content.toJson)
  rw [CallAnswer.fromJson, hversion]
  by_cases hv : content.version = "0"
  all_goals simp [Json.atKey_eq, readPartyId, toJson, hv,
    RTCSessionDescriptionInit.fromJson_toJson]

/-- Why a call ended. -/
inductive Reason where
  | iceFailed | inviteTimeOut | iceTimeOut | userHangUp | userMediaFailed | userBusy | unknownError
  | user
  deriving DecidableEq, Repr

/-- Content of `m.call.hangup`. -/
structure CallHangUp where
  call_id : Str := ""
  party_id : Str := ""
  version : Str := ""
  reason : Reason := .userHangUp

/-- The reasons that have a string, which `User` has not. -/
def reasonNames : List (String × Reason) := [
  ("ice_failed", .iceFailed),
  ("invite_timeout", .inviteTimeOut),
  ("ice_timeout", .iceTimeOut),
  ("user_hangup", .userHangUp),
  ("user_media_failed", .userMediaFailed),
  ("user_busy", .userBusy),
  ("unknown_error", .unknownError)]

/-- `from_json(CallHangUp)`, of the reason: an unknown string leaves the default. -/
def Reason.fromJson (obj : Json) : Except Exn Reason :=
  match obj.find? "reason" with
  | none => .ok .user
  | some v => do
    let reason ← v.getString
    return match reasonNames.find? fun e ↦ lit e.1 == reason with
      | some e => e.2
      | none => .userHangUp

/-- `to_json(CallHangUp)`, of the reason. -/
def insertReason (m : SortedMap Str Json) (reason : Reason) : SortedMap Str Json :=
  match reasonNames.find? fun e ↦ e.2 == reason with
  | some e => m.insert "reason" (.string (lit e.1))
  | none => m

@[simp] theorem find?_insertReason (m : SortedMap Str Json) (reason : Reason) {k : Str}
    (hk : k ≠ "reason") : (insertReason m reason).find? k = m.find? k := by
  rw [insertReason]
  split
  · rw [SortedMap.find?_insert, if_neg hk]
  · rfl

theorem Reason.fromJson_insertReason {m : SortedMap Str Json} (hm : m.find? "reason" = none)
    (reason : Reason) : Reason.fromJson (Json.ofMembers (insertReason m reason)) = .ok reason := by
  cases reason <;> simp [Reason.fromJson, insertReason, reasonNames, hm]

/-- `from_json(CallHangUp)`. -/
def CallHangUp.fromJson (obj : Json) : Except Exn CallHangUp := do
  let call_id ← (← obj.atKey "call_id").getString
  let version ← Voip.version obj
  let party_id ← readPartyId obj version
  let reason ← Reason.fromJson obj
  return { call_id, party_id, version, reason }

/-- `to_json(CallHangUp)`. -/
def CallHangUp.toJson (content : CallHangUp) : Json :=
  let m := addVersion (Json.noMembers.insert "call_id" (.string content.call_id)) content.version
    |>.insertIf (content.version ≠ "0") "party_id" (.string content.party_id)
  Json.ofMembers (insertReason m content.reason)

instance : EventContent CallHangUp := .ofCodec CallHangUp.fromJson CallHangUp.toJson {}

theorem CallHangUp.rereads (content : CallHangUp) :
    Succeeds (contentFrom CallHangUp content.toJson) := by
  refine succeeds_contentFrom (by simp [toJson]) ?_
  have hversion := version_of_find? (j := content.toJson) (v := content.version)
    (by simp [toJson])
  have hreason : Reason.fromJson content.toJson = .ok content.reason :=
    Reason.fromJson_insertReason (by simp) content.reason
  show Succeeds (CallHangUp.fromJson content.toJson)
  rw [CallHangUp.fromJson, hversion, hreason]
  by_cases hv : content.version = "0"
  all_goals simp [Json.atKey_eq, readPartyId, toJson, hv]

/-- Content of `m.call.select_answer`. -/
structure CallSelectAnswer where
  call_id : Str := ""
  party_id : Str := ""
  version : Str := ""
  selected_party_id : Str := ""

/-- `from_json(CallSelectAnswer)`. -/
def CallSelectAnswer.fromJson (obj : Json) : Except Exn CallSelectAnswer := do
  let call_id ← (← obj.atKey "call_id").getString
  let version ← Voip.version obj
  let party_id ← (← obj.atKey "party_id").getString
  let selected_party_id ← (← obj.atKey "selected_party_id").getString
  return { call_id, party_id, version, selected_party_id }

/-- `to_json(CallSelectAnswer)`. -/
def CallSelectAnswer.toJson (content : CallSelectAnswer) : Json :=
  Json.ofMembers <|
    addVersion (Json.noMembers.insert "call_id" (.string content.call_id)) content.version
    |>.insert "party_id" (.string content.party_id)
    |>.insert "selected_party_id" (.string content.selected_party_id)

instance : EventContent CallSelectAnswer :=
  .ofCodec CallSelectAnswer.fromJson CallSelectAnswer.toJson {}

theorem CallSelectAnswer.rereads (content : CallSelectAnswer) :
    Succeeds (contentFrom CallSelectAnswer content.toJson) := by
  refine succeeds_contentFrom (by simp [toJson]) ?_
  have hversion := version_of_find? (j := content.toJson) (v := content.version)
    (by simp [toJson])
  show Succeeds (CallSelectAnswer.fromJson content.toJson)
  rw [CallSelectAnswer.fromJson, hversion]
  simp [Json.atKey_eq, toJson]

/-- Content of `m.call.reject`. -/
structure CallReject where
  call_id : Str := ""
  party_id : Str := ""
  version : Str := ""

/-- `from_json(CallReject)`. -/
def CallReject.fromJson (obj : Json) : Except Exn CallReject := do
  let call_id ← (← obj.atKey "call_id").getString
  let version ← Voip.version obj
  let party_id ← (← obj.atKey "party_id").getString
  return { call_id, party_id, version }

/-- `to_json(CallReject)`. -/
def CallReject.toJson (content : CallReject) : Json :=
  Json.ofMembers <|
    addVersion (Json.noMembers.insert "call_id" (.string content.call_id)) content.version
    |>.insert "party_id" (.string content.party_id)

instance : EventContent CallReject := .ofCodec CallReject.fromJson CallReject.toJson {}

theorem CallReject.rereads (content : CallReject) :
    Succeeds (contentFrom CallReject content.toJson) := by
  refine succeeds_contentFrom (by simp [toJson]) ?_
  have hversion := version_of_find? (j := content.toJson) (v := content.version)
    (by simp [toJson])
  show Succeeds (CallReject.fromJson content.toJson)
  rw [CallReject.fromJson, hversion]
  simp [Json.atKey_eq, toJson]

/-- Content of `m.call.negotiate`. -/
structure CallNegotiate where
  call_id : Str := ""
  party_id : Str := ""
  lifetime : UInt32 := 90000
  description : RTCSessionDescriptionInit := {}

/-- `from_json(CallNegotiate)`. -/
def CallNegotiate.fromJson (obj : Json) : Except Exn CallNegotiate := do
  let call_id ← (← obj.atKey "call_id").getString
  let party_id ← (← obj.atKey "party_id").getString
  let lifetime ← (← obj.atKey "lifetime").getUInt32
  let description ← RTCSessionDescriptionInit.fromJson (← obj.atKey "description")
  return { call_id, party_id, lifetime, description }

/-- `to_json(CallNegotiate)`. -/
def CallNegotiate.toJson (content : CallNegotiate) : Json :=
  Json.ofMembers <| Json.noMembers
    |>.insert "call_id" (.string content.call_id)
    |>.insert "party_id" (.string content.party_id)
    |>.insert "lifetime" (.numberUnsigned content.lifetime.toUInt64)
    |>.insert "description" content.description.toJson

instance : EventContent CallNegotiate := .ofCodec CallNegotiate.fromJson CallNegotiate.toJson {}

theorem CallNegotiate.rereads (content : CallNegotiate) :
    Succeeds (contentFrom CallNegotiate content.toJson) := by
  refine succeeds_contentFrom (by simp [toJson]) ?_
  show Succeeds (CallNegotiate.fromJson content.toJson)
  simp [fromJson, Json.atKey_eq, toJson, Json.getUInt32,
    RTCSessionDescriptionInit.fromJson_toJson]

end Mtx.Events.Voip
