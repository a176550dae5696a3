import MtxClient.Json.Access

/-!
# Event types

The enumeration of the event types the library knows and its two translations, from and to the
`type` string of an event.
-/

set_option autoImplicit false

namespace Mtx.Events

open Str

/-- The type of an event. -/
inductive EventType where
  | keyVerificationCancel | keyVerificationRequest | keyVerificationStart | keyVerificationAccept
  | keyVerificationKey | keyVerificationMac | keyVerificationReady | keyVerificationDone
  | reaction | roomKey | forwardedRoomKey | roomKeyRequest | roomAliases | roomAvatar
  | roomCanonicalAlias | roomCreate | roomEncrypted | roomEncryption | roomGuestAccess
  | roomHistoryVisibility | roomJoinRules | roomMember | roomMessage | roomName | roomPowerLevels
  | roomTopic | roomRedaction | roomPinnedEvents | roomTombstone | roomServerAcl | sticker | tag
  | presence | pushRules | widget | vectorWidget | policyRuleUser | policyRuleRoom
  | policyRuleServer | spaceChild | spaceParent | callInvite | callCandidates | callAnswer
  | callHangUp | callSelectAnswer | callReject | callNegotiate | secretRequest | secretSend
  | typing | receipt | fullyRead | direct | ignoredUsers | nhekoHiddenEvents | nhekoEventExpiry
  | nhekoInvitePermissions | imagePackInRoom | imagePackInAccountData | imagePackRooms | dummy
  | unsupported
  deriving DecidableEq, Repr

/-- The type string of every supported event type. -/
def eventTypeNames : List (String × EventType) := [
  ("m.key.verification.request", .keyVerificationRequest),
  ("m.key.verification.start", .keyVerificationStart),
  ("m.key.verification.accept", .keyVerificationAccept),
  ("m.key.verification.ready", .keyVerificationReady),
  ("m.key.verification.done", .keyVerificationDone),
  ("m.key.verification.key", .keyVerificationKey),
  ("m.key.verification.mac", .keyVerificationMac),
  ("m.key.verification.cancel", .keyVerificationCancel),
  ("m.reaction", .reaction),
  ("m.room_key", .roomKey),
  ("m.forwarded_room_key", .forwardedRoomKey),
  ("m.room_key_request", .roomKeyRequest),
  ("m.room.aliases", .roomAliases),
  ("m.room.avatar", .roomAvatar),
  ("m.room.canonical_alias", .roomCanonicalAlias),
  ("m.room.create", .roomCreate),
  ("m.room.encrypted", .roomEncrypted),
  ("m.dummy", .dummy),
  ("m.room.encryption", .roomEncryption),
  ("m.room.guest_access", .roomGuestAccess),
  ("m.room.history_visibility", .roomHistoryVisibility),
  ("m.room.join_rules", .roomJoinRules),
  ("m.room.member", .roomMember),
  ("m.room.message", .roomMessage),
  ("m.room.name", .roomName),
  ("m.room.power_levels", .roomPowerLevels),
  ("m.room.topic", .roomTopic),
  ("m.widget", .widget),
  ("im.vector.modular.widgets", .vectorWidget),
  ("m.room.redaction", .roomRedaction),
  ("m.room.pinned_events", .roomPinnedEvents),
  ("m.room.tombstone", .roomTombstone),
  ("m.room.server_acl", .roomServerAcl),
  ("m.sticker", .sticker),
  ("m.policy.rule.user", .policyRuleUser),
  ("m.policy.rule.room", .policyRuleRoom),
  ("m.policy.rule.server", .policyRuleServer),
  ("m.space.child", .spaceChild),
  ("m.space.parent", .spaceParent),
  ("m.tag", .tag),
  ("m.direct", .direct),
  ("m.presence", .presence),
  ("m.push_rules", .pushRules),
  ("m.call.invite", .callInvite),
  ("m.call.candidates", .callCandidates),
  ("m.call.answer", .callAnswer),
  ("m.call.hangup", .callHangUp),
  ("m.call.select_answer", .callSelectAnswer),
  ("m.call.reject", .callReject),
  ("m.call.negotiate", .callNegotiate),
  ("m.secret.request", .secretRequest),
  ("m.secret.send", .secretSend),
  ("m.typing", .typing),
  ("m.receipt", .receipt),
  ("m.fully_read", .fullyRead),
  ("m.ignored_user_list", .ignoredUsers),
  ("im.nheko.hidden_events", .nhekoHiddenEvents),
  ("im.nheko.event_expiry", .nhekoEventExpiry),
  ("im.nheko.invite_permissions", .nhekoInvitePermissions),
  ("im.ponies.room_emotes", .imagePackInRoom),
  ("im.ponies.user_emotes", .imagePackInAccountData),
  ("im.ponies.emote_rooms", .imagePackRooms)]

/-- `getEventType`: the event type a string names. -/
def getEventType (type : Str) : Except Exn EventType :=
  match eventTypeNames.find? fun e ↦ lit e.1 == type with
  | some e => .ok e.2
  | none =>
    if type = "" then .error (.invalidArgument "Empty event type") else .ok .unsupported

/-- `to_string`: the type string of an event type, empty for an unsupported one. -/
def EventType.toStr (type : EventType) : Str :=
  match eventTypeNames.find? fun e ↦ e.2 == type with
  | some e => lit e.1
  | none => lit ""

/-- The names of the supported types can be read back. -/
theorem getEventType_toStr (type : EventType) (h : type ≠ .unsupported) :
    getEventType type.toStr = .ok type := by
  cases type <;> first | rfl | exact absurd rfl h

end Mtx.Events
