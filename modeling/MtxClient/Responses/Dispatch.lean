import MtxClient.Responses.Agreement

/-!
# The dispatch of timeline events

`parse_timeline_events` first chooses an alternative and then reads the event as it.  Here the
choice stands for itself, `timelineAlternative`: it depends on the type of the event, on the marks
of a redaction and on the `msgtype` of the content that stands in the event.
-/

set_option autoImplicit false

namespace Mtx.Responses

open Str Events

/-- The alternative for a type of message. -/
def messageAlternative : MessageType → Option Alternative
  | .audio => some (.room .audio)
  | .elementEffect => some (.room .elementEffect)
  | .emote => some (.room .emote)
  | .file => some (.room .file)
  | .image => some (.room .image)
  | .location => some (.room .location)
  | .notice => some (.room .notice)
  | .text => some (.room .text)
  | .video => some (.room .video)
  | .keyVerificationRequest => some (.room .keyVerificationRequest)
  | .unknown => some (.room .unknownMessage)
  | .redacted => some (.room .unknown)
  | .invalid => none

/-- The alternative for a type of event that is no message. -/
def typeAlternative : EventType → Option Alternative
  | .reaction => some (.room .reaction)
  | .roomAliases => some (.state .aliases)
  | .roomAvatar => some (.state .avatar)
  | .roomCanonicalAlias => some (.state .canonicalAlias)
  | .roomCreate => some (.state .create)
  | .roomEncrypted => some (.room .encrypted)
  | .roomEncryption => some (.state .encryption)
  | .roomGuestAccess => some (.state .guestAccess)
  | .roomHistoryVisibility => some (.state .historyVisibility)
  | .roomJoinRules => some (.state .joinRules)
  | .roomMember => some (.state .member)
  | .roomName => some (.state .name)
  | .roomPowerLevels => some (.state .powerLevels)
  | .roomRedaction => some .redaction
  | .roomTombstone => some (.state .tombstone)
  | .roomServerAcl => some (.state .serverAcl)
  | .roomTopic => some (.state .topic)
  | .widget | .vectorWidget => some (.state .widget)
  | .policyRuleUser => some (.state .userRule)
  | .policyRuleRoom => some (.state .roomRule)
  | .policyRuleServer => some (.state .serverRule)
  | .spaceChild => some (.state .spaceChild)
  | .spaceParent => some (.state .spaceParent)
  | .imagePackInRoom => some (.state .imagePack)
  | .roomPinnedEvents => some (.state .pinnedEvents)
  | .keyVerificationStart => some (.room .keyVerificationStart)
  | .keyVerificationAccept => some (.room .keyVerificationAccept)
  | .keyVerificationDone => some (.room .keyVerificationDone)
  | .keyVerificationReady => some (.room .keyVerificationReady)
  | .keyVerificationKey => some (.room .keyVerificationKey)
  | .keyVerificationMac => some (.room .keyVerificationMac)
  | .keyVerificationCancel => some (.room .keyVerificationCancel)
  | .sticker => some (.room .sticker)
  | .callInvite => some (.room .callInvite)
  | .callCandidates => some (.room .callCandidates)
  | .callAnswer => some (.room .callAnswer)
  | .callHangUp => some (.room .callHangUp)
  | .callSelectAnswer => some (.room .callSelectAnswer)
  | .callReject => some (.room .callReject)
  | .callNegotiate => some (.room .callNegotiate)
  | .unsupported => some (.room .unknown)
  | _ => none

/-- The alternative that an event of a timeline is read as, if it is read at all. -/
def timelineAlternative (e : Json) : Except Exn (Option Alternative) := do
  let type ← getEventTypeOf e
  if isRedacted e then
    return some (if e.contains "state_key" then .state .redacted else .room .redacted)
  else if type = .roomMessage then
    return messageAlternative (getMessageTypeOf (← e.atKey "content"))
  else
    return typeAlternative type

variable (json : JsonText)

/-- The event, read as an alternative. -/
def readAlternative (e : Json) : Alternative → Except Exn (TimelineEvents json)
  | .state k => readState json k e
  | .room k => readRoom json k e
  | .redaction => readRedaction json e

/-- The body of the loop of `parse_timeline_events` chooses an alternative and reads the event. -/
theorem parseTimelineEvent_eq (e : Json) : parseTimelineEvent json e = (do
    match ← timelineAlternative e with
    | some a => some <$> readAlternative json e a
    | none => return none) := by
  rw [parseTimelineEvent, timelineAlternative]
  rcases getEventTypeOf e with err | type
  · rfl
  · simp only [ok_bind]
    split_ifs with hredacted hkey hmessage
    · rfl
    · rfl
    · subst hmessage
      dsimp only
      rcases e.atKey "content" with err | content
      · rfl
      · simp only [ok_bind]
        rcases getMessageTypeOf content <;> rfl
    · cases type
      case roomMessage => exact absurd rfl hmessage
      all_goals rfl

/-- An event is read exactly when it has an alternative that it can be read as. -/
theorem parseTimelineEvent_eq_some_iff {e : Json} {x : TimelineEvents json} :
    parseTimelineEvent json e = .ok (some x) ↔
      ∃ a, timelineAlternative e = .ok (some a) ∧ readAlternative json e a = .ok x := by
  rw [parseTimelineEvent_eq]
  constructor
  · intro h
    obtain ⟨a, ha, h⟩ := bind_eq_ok_iff.mp h
    rcases a with - | a
    · cases h
    · obtain ⟨x', hx', hsome⟩ := map_eq_ok_iff.mp h
      exact ⟨a, ha, hx'.trans (congrArg _ (Option.some.inj hsome))⟩
  · rintro ⟨a, ha, hx⟩
    rw [ha, ok_bind]
    dsimp only
    rw [hx]
    rfl

/-- What an alternative is read as is that alternative. -/
theorem alternative_of_read {e : Json} {a : Alternative} {x : TimelineEvents json}
    (h : readAlternative json e a = .ok x) : x.alternative = a := by
  rcases a with k | k | -
  all_goals
    obtain ⟨ev, -, rfl⟩ := map_eq_ok_iff.mp h
    rfl

end Mtx.Responses
