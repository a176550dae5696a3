import MtxClient.Events.AccountData
import MtxClient.Events.Encrypted
import MtxClient.Events.Envelope
import MtxClient.Events.ImagePacks
import MtxClient.Events.Messages
import MtxClient.Events.Voip
import MtxClient.PushRules.Rules

/-!
# Collections of events

The variants of `collections.hpp`.  An alternative is an event template applied to a content; here
the contents of a variant are listed by an enumeration (`StateKind`, `RoomKind` and so on), and a
value of the variant is a kind with an event that has a content of that kind.

`TimelineEvents.fromJson` is the reader of single events, `from_json(TimelineEvents)`.
-/

set_option autoImplicit false

namespace Mtx.Events

open Str

/-! ## Contents -/

/-- The contents of state events. -/
inductive StateKind where
  | aliases | avatar | canonicalAlias | create | encryption | guestAccess | historyVisibility
  | joinRules | member | name | pinnedEvents | powerLevels | userRule | roomRule | serverRule
  | spaceChild | spaceParent | tombstone | serverAcl | topic | widget | imagePack | redacted
  deriving DecidableEq, Repr

/-- The content type of a state event. -/
@[reducible] def StateKind.Content : StateKind → Type
  | .aliases => Aliases
  | .avatar => Avatar
  | .canonicalAlias => CanonicalAlias
  | .create => Create
  | .encryption => Encryption
  | .guestAccess => GuestAccess
  | .historyVisibility => HistoryVisibility
  | .joinRules => JoinRules
  | .member => Member
  | .name => Name
  | .pinnedEvents => PinnedEvents
  | .powerLevels => PowerLevels
  | .userRule => PolicyRule.UserRule
  | .roomRule => PolicyRule.RoomRule
  | .serverRule => PolicyRule.ServerRule
  | .spaceChild => Space.Child
  | .spaceParent => Space.Parent
  | .tombstone => Tombstone
  | .serverAcl => ServerAcl
  | .topic => Topic
  | .widget => Widget
  | .imagePack => ImagePack
  | .redacted => Msg.Redacted

instance (k : StateKind) : EventContent k.Content :=
  match k with
  | .aliases => inferInstanceAs (EventContent Aliases)
  | .avatar => inferInstanceAs (EventContent Avatar)
  | .canonicalAlias => inferInstanceAs (EventContent CanonicalAlias)
  | .create => inferInstanceAs (EventContent Create)
  | .encryption => inferInstanceAs (EventContent Encryption)
  | .guestAccess => inferInstanceAs (EventContent GuestAccess)
  | .historyVisibility => inferInstanceAs (EventContent HistoryVisibility)
  | .joinRules => inferInstanceAs (EventContent JoinRules)
  | .member => inferInstanceAs (EventContent Member)
  | .name => inferInstanceAs (EventContent Name)
  | .pinnedEvents => inferInstanceAs (EventContent PinnedEvents)
  | .powerLevels => inferInstanceAs (EventContent PowerLevels)
  | .userRule => inferInstanceAs (EventContent PolicyRule.UserRule)
  | .roomRule => inferInstanceAs (EventContent PolicyRule.RoomRule)
  | .serverRule => inferInstanceAs (EventContent PolicyRule.ServerRule)
  | .spaceChild => inferInstanceAs (EventContent Space.Child)
  | .spaceParent => inferInstanceAs (EventContent Space.Parent)
  | .tombstone => inferInstanceAs (EventContent Tombstone)
  | .serverAcl => inferInstanceAs (EventContent ServerAcl)
  | .topic => inferInstanceAs (EventContent Topic)
  | .widget => inferInstanceAs (EventContent Widget)
  | .imagePack => inferInstanceAs (EventContent ImagePack)
  | .redacted => inferInstanceAs (EventContent Msg.Redacted)

/-- The contents of the room events of a timeline.  The first is that of an `EncryptedEvent`, the
second that of a `Sticker`: both are room events without a member of their own. -/
inductive RoomKind where
  | encrypted | sticker | reaction | redacted
  | audio | elementEffect | emote | file | image | location | notice | text | unknownMessage | video
  | keyVerificationRequest | keyVerificationStart | keyVerificationReady | keyVerificationDone
  | keyVerificationAccept | keyVerificationCancel | keyVerificationKey | keyVerificationMac
  | callCandidates | callInvite | callAnswer | callHangUp | callSelectAnswer | callReject
  | callNegotiate | unknown
  deriving DecidableEq, Repr

/-- The contents of events between devices. -/
inductive DeviceKind where
  | roomKey | forwardedRoomKey | keyRequest | olmEncrypted | encrypted | dummy
  | keyVerificationRequest | keyVerificationStart | keyVerificationReady | keyVerificationDone
  | keyVerificationAccept | keyVerificationCancel | keyVerificationKey | keyVerificationMac
  | secretRequest | secretSend | unknown
  deriving DecidableEq, Repr

/-- The contents of ephemeral events. -/
inductive EphemeralKind where
  | typing | receipt | unknown
  deriving DecidableEq, Repr

/-- The contents of the account data of a room. -/
inductive AccountDataKind where
  | tags | direct | fullyRead | ignoredUsers | pushRules | hiddenEvents | eventExpiry
  | invitePermissions | imagePack | imagePackRooms | unknown
  deriving DecidableEq, Repr

section

variable (json : JsonText)

/-- The content type of a room event. -/
@[reducible] def RoomKind.Content : RoomKind → Type
  | .encrypted => Msg.Encrypted
  | .sticker => Msg.StickerImage
  | .reaction => Msg.Reaction
  | .redacted => Msg.Redacted
  | .audio => Msg.Audio
  | .elementEffect => Msg.ElementEffect
  | .emote => Msg.Emote
  | .file => Msg.File
  | .image => Msg.Image
  | .location => Msg.Location
  | .notice => Msg.Notice
  | .text => Msg.Text
  | .unknownMessage => Msg.Unknown json
  | .video => Msg.Video
  | .keyVerificationRequest => Msg.KeyVerificationRequest
  | .keyVerificationStart => Msg.KeyVerificationStart
  | .keyVerificationReady => Msg.KeyVerificationReady
  | .keyVerificationDone => Msg.KeyVerificationDone
  | .keyVerificationAccept => Msg.KeyVerificationAccept
  | .keyVerificationCancel => Msg.KeyVerificationCancel
  | .keyVerificationKey => Msg.KeyVerificationKey
  | .keyVerificationMac => Msg.KeyVerificationMac
  | .callCandidates => Voip.CallCandidates
  | .callInvite => Voip.CallInvite
  | .callAnswer => Voip.CallAnswer
  | .callHangUp => Voip.CallHangUp
  | .callSelectAnswer => Voip.CallSelectAnswer
  | .callReject => Voip.CallReject
  | .callNegotiate => Voip.CallNegotiate
  | .unknown => Unknown json

instance (k : RoomKind) : EventContent (k.Content json) :=
  match k with
  | .encrypted => inferInstanceAs (EventContent Msg.Encrypted)
  | .sticker => inferInstanceAs (EventContent Msg.StickerImage)
  | .reaction => inferInstanceAs (EventContent Msg.Reaction)
  | .redacted => inferInstanceAs (EventContent Msg.Redacted)
  | .audio => inferInstanceAs (EventContent Msg.Audio)
  | .elementEffect => inferInstanceAs (EventContent Msg.ElementEffect)
  | .emote => inferInstanceAs (EventContent Msg.Emote)
  | .file => inferInstanceAs (EventContent Msg.File)
  | .image => inferInstanceAs (EventContent Msg.Image)
  | .location => inferInstanceAs (EventContent Msg.Location)
  | .notice => inferInstanceAs (EventContent Msg.Notice)
  | .text => inferInstanceAs (EventContent Msg.Text)
  | .unknownMessage => inferInstanceAs (EventContent (Msg.Unknown json))
  | .video => inferInstanceAs (EventContent Msg.Video)
  | .keyVerificationRequest => inferInstanceAs (EventContent Msg.KeyVerificationRequest)
  | .keyVerificationStart => inferInstanceAs (EventContent Msg.KeyVerificationStart)
  | .keyVerificationReady => inferInstanceAs (EventContent Msg.KeyVerificationReady)
  | .keyVerificationDone => inferInstanceAs (EventContent Msg.KeyVerificationDone)
  | .keyVerificationAccept => inferInstanceAs (EventContent Msg.KeyVerificationAccept)
  | .keyVerificationCancel => inferInstanceAs (EventContent Msg.KeyVerificationCancel)
  | .keyVerificationKey => inferInstanceAs (EventContent Msg.KeyVerificationKey)
  | .keyVerificationMac => inferInstanceAs (EventContent Msg.KeyVerificationMac)
  | .callCandidates => inferInstanceAs (EventContent Voip.CallCandidates)
  | .callInvite => inferInstanceAs (EventContent Voip.CallInvite)
  | .callAnswer => inferInstanceAs (EventContent Voip.CallAnswer)
  | .callHangUp => inferInstanceAs (EventContent Voip.CallHangUp)
  | .callSelectAnswer => inferInstanceAs (EventContent Voip.CallSelectAnswer)
  | .callReject => inferInstanceAs (EventContent Voip.CallReject)
  | .callNegotiate => inferInstanceAs (EventContent Voip.CallNegotiate)
  | .unknown => inferInstanceAs (EventContent (Unknown json))

/-- The content type of an event between devices. -/
@[reducible] def DeviceKind.Content : DeviceKind → Type
  | .roomKey => Msg.RoomKey
  | .forwardedRoomKey => Msg.ForwardedRoomKey
  | .keyRequest => Msg.KeyRequest
  | .olmEncrypted => Msg.OlmEncrypted
  | .encrypted => Msg.Encrypted
  | .dummy => Msg.Dummy
  | .keyVerificationRequest => Msg.KeyVerificationRequest
  | .keyVerificationStart => Msg.KeyVerificationStart
  | .keyVerificationReady => Msg.KeyVerificationReady
  | .keyVerificationDone => Msg.KeyVerificationDone
  | .keyVerificationAccept => Msg.KeyVerificationAccept
  | .keyVerificationCancel => Msg.KeyVerificationCancel
  | .keyVerificationKey => Msg.KeyVerificationKey
  | .keyVerificationMac => Msg.KeyVerificationMac
  | .secretRequest => Msg.SecretRequest
  | .secretSend => Msg.SecretSend
  | .unknown => Unknown json

instance (k : DeviceKind) : EventContent (k.Content json) :=
  match k with
  | .roomKey => inferInstanceAs (EventContent Msg.RoomKey)
  | .forwardedRoomKey => inferInstanceAs (EventContent Msg.ForwardedRoomKey)
  | .keyRequest => inferInstanceAs (EventContent Msg.KeyRequest)
  | .olmEncrypted => inferInstanceAs (EventContent Msg.OlmEncrypted)
  | .encrypted => inferInstanceAs (EventContent Msg.Encrypted)
  | .dummy => inferInstanceAs (EventContent Msg.Dummy)
  | .keyVerificationRequest => inferInstanceAs (EventContent Msg.KeyVerificationRequest)
  | .keyVerificationStart => inferInstanceAs (EventContent Msg.KeyVerificationStart)
  | .keyVerificationReady => inferInstanceAs (EventContent Msg.KeyVerificationReady)
  | .keyVerificationDone => inferInstanceAs (EventContent Msg.KeyVerificationDone)
  | .keyVerificationAccept => inferInstanceAs (EventContent Msg.KeyVerificationAccept)
  | .keyVerificationCancel => inferInstanceAs (EventContent Msg.KeyVerificationCancel)
  | .keyVerificationKey => inferInstanceAs (EventContent Msg.KeyVerificationKey)
  | .keyVerificationMac => inferInstanceAs (EventContent Msg.KeyVerificationMac)
  | .secretRequest => inferInstanceAs (EventContent Msg.SecretRequest)
  | .secretSend => inferInstanceAs (EventContent Msg.SecretSend)
  | .unknown => inferInstanceAs (EventContent (Unknown json))

/-- The content type of an ephemeral event. -/
@[reducible] def EphemeralKind.Content : EphemeralKind → Type
  | .typing => Ephemeral.Typing
  | .receipt => Ephemeral.Receipt
  | .unknown => Unknown json

instance (k : EphemeralKind) : EventContent (k.Content json) :=
  match k with
  | .typing => inferInstanceAs (EventContent Ephemeral.Typing)
  | .receipt => inferInstanceAs (EventContent Ephemeral.Receipt)
  | .unknown => inferInstanceAs (EventContent (Unknown json))

/-- The content type of an account data event. -/
@[reducible] def AccountDataKind.Content : AccountDataKind → Type
  | .tags => AccountData.Tags
  | .direct => AccountData.Direct
  | .fullyRead => AccountData.FullyRead
  | .ignoredUsers => AccountData.IgnoredUsers
  | .pushRules => PushRules.GlobalRuleset
  | .hiddenEvents => AccountData.HiddenEvents
  | .eventExpiry => AccountData.EventExpiry
  | .invitePermissions => AccountData.InvitePermissions json
  | .imagePack => ImagePack
  | .imagePackRooms => ImagePackRooms json
  | .unknown => Unknown json

instance (k : AccountDataKind) : EventContent (k.Content json) :=
  match k with
  | .tags => inferInstanceAs (EventContent AccountData.Tags)
  | .direct => inferInstanceAs (EventContent AccountData.Direct)
  | .fullyRead => inferInstanceAs (EventContent AccountData.FullyRead)
  | .ignoredUsers => inferInstanceAs (EventContent AccountData.IgnoredUsers)
  | .pushRules => inferInstanceAs (EventContent PushRules.GlobalRuleset)
  | .hiddenEvents => inferInstanceAs (EventContent AccountData.HiddenEvents)
  | .eventExpiry => inferInstanceAs (EventContent AccountData.EventExpiry)
  | .invitePermissions => inferInstanceAs (EventContent (AccountData.InvitePermissions json))
  | .imagePack => inferInstanceAs (EventContent ImagePack)
  | .imagePackRooms => inferInstanceAs (EventContent (ImagePackRooms json))
  | .unknown => inferInstanceAs (EventContent (Unknown json))

/-! ## Variants -/

/-- Collection of state events only. -/
inductive StateEvents where
  | known (k : StateKind) (e : StateEvent k.Content)
  | unknown (e : StateEvent (Unknown json))

/-- Collection of stripped events only.  There is no alternative for an image pack. -/
inductive StrippedEvents where
  | known (k : StateKind) (e : StrippedEvent k.Content) (h : k ≠ .imagePack)
  | unknown (e : StrippedEvent (Unknown json))

/-- Collection of state events and room events, as they stand in a timeline. -/
inductive TimelineEvents where
  | state (k : StateKind) (e : StateEvent k.Content)
  | room (k : RoomKind) (e : RoomEvent (k.Content json))
  | redaction (e : RedactionEvent Redaction)

/-- Collection of events between devices. -/
structure DeviceEvents where
  kind : DeviceKind
  event : DeviceEvent (kind.Content json)

/-- Collection of ephemeral events. -/
structure EphemeralEvents where
  kind : EphemeralKind
  event : EphemeralEvent (kind.Content json)

/-- Collection of room specific account data. -/
structure RoomAccountDataEvents where
  kind : AccountDataKind
  event : EphemeralEvent (kind.Content json)

end

/-! ## Types of events and messages -/

/-- `getEventType` of a JSON value: without a `type` it is unsupported. -/
def getEventTypeOf (obj : Json) : Except Exn EventType :=
  match obj.find? "type" with
  | some type => do getEventType (← type.getString)
  | none => .ok .unsupported

/-- The type of a message. -/
inductive MessageType where
  | audio | emote | file | image | location | notice | text | video | keyVerificationRequest
  | elementEffect | unknown | redacted | invalid
  deriving DecidableEq, Repr

/-- The message types that have a name. -/
def messageTypeNames : List (String × MessageType) := [
  ("m.audio", .audio),
  ("m.emote", .emote),
  ("m.file", .file),
  ("m.image", .image),
  ("m.location", .location),
  ("m.notice", .notice),
  ("m.text", .text),
  ("nic.custom.confetti", .elementEffect),
  ("nic.custom.fireworks", .elementEffect),
  ("io.element.effect.rainfall", .elementEffect),
  ("io.element.effect.hearts", .elementEffect),
  ("io.element.effect.snowfall", .elementEffect),
  ("io.element.effects.space_invaders", .elementEffect),
  ("m.video", .video),
  ("m.key.verification.request", .keyVerificationRequest)]

/-- `getMessageType`: the message type that a string names. -/
def getMessageType (type : Str) : MessageType :=
  match messageTypeNames.find? fun e ↦ lit e.1 == type with
  | some e => e.2
  | none => .unknown

/-- `getMessageType` of the JSON value of a content. -/
def getMessageTypeOf (obj : Json) : MessageType :=
  if obj.isNull then .redacted
  else match obj.find? "msgtype" with
    | none => .invalid
    | some (.string type) => getMessageType type
    | some _ => .invalid

/-! ## Reading and writing an event of a timeline -/

section

variable (json : JsonText)

/-- `e.contains("unsigned") && e["unsigned"].contains("redacted_by")`. -/
def isRedacted (e : Json) : Bool :=
  match e.find? "unsigned" with
  | some u => u.contains "redacted_by"
  | none => false

/-- `events::StateEvent<…>(e)`. -/
def readState (k : StateKind) (e : Json) : Except Exn (TimelineEvents json) :=
  .state k <$> StateEvent.fromJson k.Content e

/-- `events::RoomEvent<…>(e)`, also for `EncryptedEvent` and `Sticker`. -/
def readRoom (k : RoomKind) (e : Json) : Except Exn (TimelineEvents json) :=
  .room k <$> RoomEvent.fromJson (k.Content json) e

/-- `events::RedactionEvent<Redaction>(e)`. -/
def readRedaction (e : Json) : Except Exn (TimelineEvents json) :=
  .redaction <$> RedactionEvent.fromJson Redaction e

/-- The `try` block of `from_json(TimelineEvents)`: what is assigned to `e`, if anything is. -/
def assignTimelineEvent (type : EventType) (obj : Json) :
    Except Exn (Option (TimelineEvents json)) :=
  if isRedacted obj then
    if obj.contains "state_key" then some <$> readState json .redacted obj
    else some <$> readRoom json .redacted obj
  else match type with
    | .reaction => some <$> readRoom json .reaction obj
    | .roomAliases => some <$> readState json .aliases obj
    | .roomAvatar => some <$> readState json .avatar obj
    | .roomCanonicalAlias => some <$> readState json .canonicalAlias obj
    | .roomCreate => some <$> readState json .create obj
    | .roomEncrypted => some <$> readRoom json .encrypted obj
    | .roomEncryption => some <$> readState json .encryption obj
    | .roomGuestAccess => some <$> readState json .guestAccess obj
    | .roomHistoryVisibility => some <$> readState json .historyVisibility obj
    | .roomJoinRules => some <$> readState json .joinRules obj
    | .roomMember => some <$> readState json .member obj
    | .roomName => some <$> readState json .name obj
    | .roomPowerLevels => some <$> readState json .powerLevels obj
    | .roomRedaction => some <$> readRedaction json obj
    | .roomTombstone => some <$> readState json .tombstone obj
    | .roomServerAcl => some <$> readState json .serverAcl obj
    | .roomTopic => some <$> readState json .topic obj
    | .widget => some <$> readState json .widget obj
    | .vectorWidget => some <$> readState json .widget obj
    | .roomPinnedEvents => some <$> readState json .pinnedEvents obj
    | .policyRuleUser => some <$> readState json .userRule obj
    | .policyRuleRoom => some <$> readState json .roomRule obj
    | .policyRuleServer => some <$> readState json .serverRule obj
    | .spaceChild => some <$> readState json .spaceChild obj
    | .spaceParent => some <$> readState json .spaceParent obj
    | .imagePackInRoom => some <$> readState json .imagePack obj
    | .keyVerificationCancel => some <$> readRoom json .keyVerificationCancel obj
    | .keyVerificationRequest => some <$> readRoom json .keyVerificationRequest obj
    | .keyVerificationReady => some <$> readRoom json .keyVerificationReady obj
    | .keyVerificationStart => some <$> readRoom json .keyVerificationStart obj
    | .keyVerificationDone => some <$> readRoom json .keyVerificationDone obj
    | .keyVerificationKey => some <$> readRoom json .keyVerificationKey obj
    | .keyVerificationMac => some <$> readRoom json .keyVerificationMac obj
    | .keyVerificationAccept => some <$> readRoom json .keyVerificationAccept obj
    | .roomMessage => do
      match getMessageTypeOf (← obj.atKey "content") with
      | .audio => some <$> readRoom json .audio obj
      | .elementEffect => some <$> readRoom json .elementEffect obj
      | .emote => some <$> readRoom json .emote obj
      | .file => some <$> readRoom json .file obj
      | .image => some <$> readRoom json .image obj
      | .location => some <$> readRoom json .location obj
      | .notice => some <$> readRoom json .notice obj
      | .text => some <$> readRoom json .text obj
      | .video => some <$> readRoom json .video obj
      | .keyVerificationRequest => some <$> readRoom json .keyVerificationRequest obj
      | .unknown => some <$> readRoom json .unknownMessage obj
      | .redacted => some <$> readRoom json .unknown obj
      | .invalid => return none
    | .sticker => some <$> readRoom json .sticker obj
    | .callInvite => some <$> readRoom json .callInvite obj
    | .callCandidates => some <$> readRoom json .callCandidates obj
    | .callAnswer => some <$> readRoom json .callAnswer obj
    | .callHangUp => some <$> readRoom json .callHangUp obj
    | .callSelectAnswer => some <$> readRoom json .callSelectAnswer obj
    | .callReject => some <$> readRoom json .callReject obj
    | .callNegotiate => some <$> readRoom json .callNegotiate obj
    | .unsupported => some <$> readRoom json .unknown obj
    -- not part of the timeline
    | .roomKey | .forwardedRoomKey | .roomKeyRequest | .direct | .tag | .presence | .pushRules
    | .secretRequest | .secretSend | .typing | .receipt | .fullyRead | .ignoredUsers
    | .nhekoHiddenEvents | .nhekoInvitePermissions | .nhekoEventExpiry | .imagePackInAccountData
    | .imagePackRooms | .dummy => .ok none

/-- `from_json(TimelineEvents)`, for an `e` that holds `old`.  The `catch` block logs the value,
which throws when it has a string that is not UTF-8. -/
def TimelineEvents.fromJson (obj : Json) (old : TimelineEvents json) :
    Except Exn (TimelineEvents json) := do
  let type ← getEventTypeOf obj
  match assignTimelineEvent json type obj with
  | .ok e => return e.getD old
  | .error _ => do
    let _ ← json.dump obj
    readRoom json .unknown obj

/-- `to_json` of the content of a room event. -/
def RoomKind.write : (k : RoomKind) → k.Content json → Except Exn Json
  | .encrypted, c => Msg.Encrypted.toJson c
  | .sticker, c => Msg.StickerImage.toJson c
  | .reaction, c => Msg.Reaction.toJson c
  | .redacted, c => .ok (EventContent.toJson c)
  | .audio, c => Msg.Audio.toJson c
  | .elementEffect, c => Msg.ElementEffect.toJson c
  | .emote, c => Msg.Emote.toJson c
  | .file, c => Msg.File.toJson c
  | .image, c => Msg.Image.toJson c
  | .location, c => Msg.Location.toJson c
  | .notice, c => Msg.Notice.toJson c
  | .text, c => Msg.Text.toJson c
  | .unknownMessage, c => Msg.Unknown.toJson json c
  | .video, c => Msg.Video.toJson c
  | .keyVerificationRequest, c => .ok (Msg.KeyVerificationRequest.toJson c)
  | .keyVerificationStart, c => Msg.KeyVerificationStart.toJson c
  | .keyVerificationReady, c => Msg.KeyVerificationReady.toJson c
  | .keyVerificationDone, c => Msg.KeyVerificationDone.toJson c
  | .keyVerificationAccept, c => Msg.KeyVerificationAccept.toJson c
  | .keyVerificationCancel, c => Msg.KeyVerificationCancel.toJson c
  | .keyVerificationKey, c => Msg.KeyVerificationKey.toJson c
  | .keyVerificationMac, c => Msg.KeyVerificationMac.toJson c
  | .callCandidates, c => .ok (Voip.CallCandidates.toJson c)
  | .callInvite, c => .ok (Voip.CallInvite.toJson c)
  | .callAnswer, c => .ok (Voip.CallAnswer.toJson c)
  | .callHangUp, c => .ok (Voip.CallHangUp.toJson c)
  | .callSelectAnswer, c => .ok (Voip.CallSelectAnswer.toJson c)
  | .callReject, c => .ok (Voip.CallReject.toJson c)
  | .callNegotiate, c => .ok (Voip.CallNegotiate.toJson c)
  | .unknown, c => .ok (Unknown.toJson c)

/-- What `to_json` of the content answers, when it does, is what stands in the event. -/
theorem RoomKind.toJson_of_write {k : RoomKind} {c : k.Content json} {j : Json}
    (h : k.write json c = .ok j) : EventContent.toJson c = j := by
  cases k
  all_goals first
    | exact Except.ok.inj h
    | (simp only [RoomKind.write] at h; show Option.getD (Except.toOption _) _ = j; rw [h]; rfl)

/-- `to_json(TimelineEvents)`, which throws when `to_json` of the content does. -/
def TimelineEvents.toJson : TimelineEvents json → Except Exn Json
  | .state _ e => .ok e.toJson
  | .room k e => do
    let _ ← k.write json e.content
    return e.toJson
  | .redaction e => .ok e.toJson

/-- `to_json` of the content of an event between devices. -/
def DeviceKind.write : (k : DeviceKind) → k.Content json → Except Exn Json
  | .encrypted, c => Msg.Encrypted.toJson c
  | .keyVerificationStart, c => Msg.KeyVerificationStart.toJson c
  | .keyVerificationReady, c => Msg.KeyVerificationReady.toJson c
  | .keyVerificationDone, c => Msg.KeyVerificationDone.toJson c
  | .keyVerificationAccept, c => Msg.KeyVerificationAccept.toJson c
  | .keyVerificationCancel, c => Msg.KeyVerificationCancel.toJson c
  | .keyVerificationKey, c => Msg.KeyVerificationKey.toJson c
  | .keyVerificationMac, c => Msg.KeyVerificationMac.toJson c
  | .secretRequest, c => Msg.SecretRequest.toJson c
  | _, c => .ok (EventContent.toJson c)

/-- `to_json` of the event that is held, which throws when `to_json` of the content does. -/
def DeviceEvents.toJson (e : DeviceEvents json) : Except Exn Json := do
  let _ ← e.kind.write json e.event.content
  return e.event.toJson

end

/-! ## Alternatives and envelopes -/

/-- The alternatives of `TimelineEvents`. -/
inductive Alternative where
  | state (k : StateKind)
  | room (k : RoomKind)
  | redaction
  deriving DecidableEq, Repr

section

variable {json : JsonText}

/-- The alternative that is held. -/
def TimelineEvents.alternative : TimelineEvents json → Alternative
  | .state k _ => .state k
  | .room k _ => .room k
  | .redaction _ => .redaction

/-- The envelope of the event that is held. -/
def TimelineEvents.envelope : TimelineEvents json → Envelope
  | .state _ e => e.envelope
  | .room _ e => e.envelope
  | .redaction e => { e.toRoomEvent.envelope with redacts := some e.redacts }

/-- The envelope of the event that is held. -/
def StateEvents.envelope : StateEvents json → Envelope
  | .known _ e => e.envelope
  | .unknown e => e.envelope

end

end Mtx.Events
