import MtxClient.Events.Collections

/-!
# Lists of events

The parsers for the lists of events that a sync response has: `parse_timeline_events` and its
siblings in `responses/common.cpp`.  Each goes through the list with a `try` block around every
element, so that a bad event is logged and left out.  An access that the language leaves undefined
counts as an exception here.

`sync_lists_isolate_events` says that the elements of a list have nothing to do with each other.
-/

set_option autoImplicit false

namespace Mtx.Responses

open Str Events

section

variable (json : JsonText)

/-- `log_error`, which throws when the event has a string that is not UTF-8. -/
def logError (event : Json) : Except Exn Unit := do
  let _ ← json.dump event

/-- `container.clear()`. -/
def clear {α : Type} (_container : List α) : List α := []

/-- One round of the loops of the parsers, with `body` in the `try` block: what it appends to the
container, if anything. -/
def appendEvent {α : Type} (body : Json → Except Exn (Option α)) (container : List α) (e : Json) :
    Except Exn (List α) :=
  match body e with
  | .ok event => .ok (container ++ event.toList)
  | .error _ => do
    logError json e
    return container

/-- The shape of the parsers. -/
def parseEvents {α : Type} (body : Json → Except Exn (Option α)) (events : Json)
    (container : List α) : Except Exn (List α) :=
  events.elements.foldlM (appendEvent json body) (clear container)

/-! ## Room account data -/

/-- `events::AccountDataEvent<…>(e)`. -/
def readAccountData (k : AccountDataKind) (e : Json) : Except Exn (RoomAccountDataEvents json) :=
  .mk k <$> EphemeralEvent.fromJson (k.Content json) e

/-- The body of the loop of `parse_room_account_data_events`. -/
def parseRoomAccountDataEvent (e : Json) : Except Exn (Option (RoomAccountDataEvents json)) := do
  match ← getEventTypeOf e with
  | .direct => some <$> readAccountData json .direct e
  | .ignoredUsers => some <$> readAccountData json .ignoredUsers e
  | .tag => some <$> readAccountData json .tags e
  | .fullyRead => some <$> readAccountData json .fullyRead e
  | .pushRules => some <$> readAccountData json .pushRules e
  | .nhekoHiddenEvents => some <$> readAccountData json .hiddenEvents e
  | .nhekoEventExpiry => some <$> readAccountData json .eventExpiry e
  | .nhekoInvitePermissions => some <$> readAccountData json .invitePermissions e
  | .imagePackRooms => some <$> readAccountData json .imagePackRooms e
  | .imagePackInAccountData => some <$> readAccountData json .imagePack e
  | .unsupported => some <$> readAccountData json .unknown e
  | _ => return none

/-- `parse_room_account_data_events`. -/
def parseRoomAccountDataEvents (events : Json) (container : List (RoomAccountDataEvents json)) :
    Except Exn (List (RoomAccountDataEvents json)) :=
  parseEvents json (parseRoomAccountDataEvent json) events container

/-! ## Timelines -/

/-- The body of the loop of `parse_timeline_events`. -/
def parseTimelineEvent (e : Json) : Except Exn (Option (TimelineEvents json)) := do
  let type ← getEventTypeOf e
  if isRedacted e then
    if e.contains "state_key" then some <$> readState json .redacted e
    else some <$> readRoom json .redacted e
  else match type with
    | .reaction => some <$> readRoom json .reaction e
    | .roomAliases => some <$> readState json .aliases e
    | .roomAvatar => some <$> readState json .avatar e
    | .roomCanonicalAlias => some <$> readState json .canonicalAlias e
    | .roomCreate => some <$> readState json .create e
    | .roomEncrypted => some <$> readRoom json .encrypted e
    | .roomEncryption => some <$> readState json .encryption e
    | .roomGuestAccess => some <$> readState json .guestAccess e
    | .roomHistoryVisibility => some <$> readState json .historyVisibility e
    | .roomJoinRules => some <$> readState json .joinRules e
    | .roomMember => some <$> readState json .member e
    | .roomName => some <$> readState json .name e
    | .roomPowerLevels => some <$> readState json .powerLevels e
    | .roomRedaction => some <$> readRedaction json e
    | .roomTombstone => some <$> readState json .tombstone e
    | .roomServerAcl => some <$> readState json .serverAcl e
    | .roomTopic => some <$> readState json .topic e
    | .widget => some <$> readState json .widget e
    | .vectorWidget => some <$> readState json .widget e
    | .policyRuleUser => some <$> readState json .userRule e
    | .policyRuleRoom => some <$> readState json .roomRule e
    | .policyRuleServer => some <$> readState json .serverRule e
    | .spaceChild => some <$> readState json .spaceChild e
    | .spaceParent => some <$> readState json .spaceParent e
    | .imagePackInRoom => some <$> readState json .imagePack e
    | .keyVerificationStart => some <$> readRoom json .keyVerificationStart e
    | .keyVerificationAccept => some <$> readRoom json .keyVerificationAccept e
    | .keyVerificationDone => some <$> readRoom json .keyVerificationDone e
    | .keyVerificationReady => some <$> readRoom json .keyVerificationReady e
    | .keyVerificationKey => some <$> readRoom json .keyVerificationKey e
    | .keyVerificationMac => some <$> readRoom json .keyVerificationMac e
    | .keyVerificationCancel => some <$> readRoom json .keyVerificationCancel e
    | .roomMessage => do
      match getMessageTypeOf (← e.atKey "content") with
      | .audio => some <$> readRoom json .audio e
      | .elementEffect => some <$> readRoom json .elementEffect e
      | .emote => some <$> readRoom json .emote e
      | .file => some <$> readRoom json .file e
      | .image => some <$> readRoom json .image e
      | .location => some <$> readRoom json .location e
      | .notice => some <$> readRoom json .notice e
      | .text => some <$> readRoom json .text e
      | .video => some <$> readRoom json .video e
      | .keyVerificationRequest => some <$> readRoom json .keyVerificationRequest e
      | .unknown => some <$> readRoom json .unknownMessage e
      | .redacted => some <$> readRoom json .unknown e
      | .invalid => return none
    | .sticker => some <$> readRoom json .sticker e
    | .callInvite => some <$> readRoom json .callInvite e
    | .callCandidates => some <$> readRoom json .callCandidates e
    | .callAnswer => some <$> readRoom json .callAnswer e
    | .callHangUp => some <$> readRoom json .callHangUp e
    | .callSelectAnswer => some <$> readRoom json .callSelectAnswer e
    | .callReject => some <$> readRoom json .callReject e
    | .callNegotiate => some <$> readRoom json .callNegotiate e
    | .roomPinnedEvents => some <$> readState json .pinnedEvents e
    | .unsupported => some <$> readRoom json .unknown e
    -- not part of the timeline or state
    | .keyVerificationRequest | .roomKey | .forwardedRoomKey | .roomKeyRequest | .direct | .tag
    | .presence | .pushRules | .secretRequest | .secretSend | .typing | .receipt | .fullyRead
    | .ignoredUsers | .nhekoHiddenEvents | .nhekoEventExpiry | .nhekoInvitePermissions
    | .imagePackRooms | .imagePackInAccountData | .dummy => return none

/-- `parse_timeline_events`. -/
def parseTimelineEvents (events : Json) (container : List (TimelineEvents json)) :
    Except Exn (List (TimelineEvents json)) :=
  parseEvents json (parseTimelineEvent json) events container

/-! ## Events between devices -/

/-- `events::DeviceEvent<…>(e)`. -/
def readDevice (k : DeviceKind) (e : Json) : Except Exn (DeviceEvents json) :=
  .mk k <$> DeviceEvent.fromJson (k.Content json) e

/-- The body of the loop of `parse_device_events`.  An unknown algorithm is logged and skipped. -/
def parseDeviceEvent (e : Json) : Except Exn (Option (DeviceEvents json)) := do
  match ← getEventTypeOf e with
  | .roomEncrypted =>
    let algo ← (← (← e.atKey "content").atKey "algorithm").getString
    if algo = "m.olm.v1.curve25519-aes-sha2" then some <$> readDevice json .olmEncrypted e
    else if algo = "m.megolm.v1.aes-sha2" then some <$> readDevice json .encrypted e
    else
      logError json e
      return none
  | .dummy => some <$> readDevice json .dummy e
  | .roomKey => some <$> readDevice json .roomKey e
  | .forwardedRoomKey => some <$> readDevice json .forwardedRoomKey e
  | .roomKeyRequest => some <$> readDevice json .keyRequest e
  | .keyVerificationCancel => some <$> readDevice json .keyVerificationCancel e
  | .keyVerificationRequest => some <$> readDevice json .keyVerificationRequest e
  | .keyVerificationStart => some <$> readDevice json .keyVerificationStart e
  | .keyVerificationAccept => some <$> readDevice json .keyVerificationAccept e
  | .keyVerificationKey => some <$> readDevice json .keyVerificationKey e
  | .keyVerificationMac => some <$> readDevice json .keyVerificationMac e
  | .keyVerificationReady => some <$> readDevice json .keyVerificationReady e
  | .keyVerificationDone => some <$> readDevice json .keyVerificationDone e
  | .secretSend => some <$> readDevice json .secretSend e
  | .secretRequest => some <$> readDevice json .secretRequest e
  | .unsupported => some <$> readDevice json .unknown e
  | _ => return none

/-- `parse_device_events`. -/
def parseDeviceEvents (events : Json) (container : List (DeviceEvents json)) :
    Except Exn (List (DeviceEvents json)) :=
  parseEvents json (parseDeviceEvent json) events container

/-! ## State -/

/-- `events::StateEvent<…>(e)`, of the state block. -/
def readKnownState (k : StateKind) (e : Json) : Except Exn (StateEvents json) :=
  .known k <$> StateEvent.fromJson k.Content e

/-- The body of the loop of `parse_state_events`. -/
def parseStateEvent (e : Json) : Except Exn (Option (StateEvents json)) := do
  let type ← getEventTypeOf e
  if isRedacted e then some <$> readKnownState json .redacted e
  else match type with
    | .roomAliases => some <$> readKnownState json .aliases e
    | .roomAvatar => some <$> readKnownState json .avatar e
    | .roomCanonicalAlias => some <$> readKnownState json .canonicalAlias e
    | .roomCreate => some <$> readKnownState json .create e
    | .roomEncryption => some <$> readKnownState json .encryption e
    | .roomGuestAccess => some <$> readKnownState json .guestAccess e
    | .roomHistoryVisibility => some <$> readKnownState json .historyVisibility e
    | .roomJoinRules => some <$> readKnownState json .joinRules e
    | .roomMember => some <$> readKnownState json .member e
    | .roomName => some <$> readKnownState json .name e
    | .roomPowerLevels => some <$> readKnownState json .powerLevels e
    | .roomTombstone => some <$> readKnownState json .tombstone e
    | .roomServerAcl => some <$> readKnownState json .serverAcl e
    | .roomTopic => some <$> readKnownState json .topic e
    | .widget => some <$> readKnownState json .widget e
    | .vectorWidget => some <$> readKnownState json .widget e
    | .policyRuleUser => some <$> readKnownState json .userRule e
    | .policyRuleRoom => some <$> readKnownState json .roomRule e
    | .policyRuleServer => some <$> readKnownState json .serverRule e
    | .spaceChild => some <$> readKnownState json .spaceChild e
    | .spaceParent => some <$> readKnownState json .spaceParent e
    | .imagePackInRoom => some <$> readKnownState json .imagePack e
    | .roomPinnedEvents => some <$> readKnownState json .pinnedEvents e
    | .unsupported => do return some (.unknown (← StateEvent.fromJson (Unknown json) e))
    -- not part of the state
    | .sticker | .reaction | .roomEncrypted | .roomKey | .forwardedRoomKey | .roomKeyRequest
    | .roomMessage | .roomRedaction | .direct | .tag | .presence | .pushRules
    | .keyVerificationCancel | .keyVerificationRequest | .keyVerificationStart
    | .keyVerificationReady | .keyVerificationDone | .keyVerificationAccept | .keyVerificationKey
    | .keyVerificationMac | .secretRequest | .secretSend | .callInvite | .callCandidates
    | .callAnswer | .callHangUp | .callSelectAnswer | .callReject | .callNegotiate | .typing
    | .receipt | .fullyRead | .ignoredUsers | .nhekoHiddenEvents | .nhekoEventExpiry
    | .nhekoInvitePermissions | .imagePackRooms | .imagePackInAccountData | .dummy => return none

/-- `parse_state_events`. -/
def parseStateEvents (events : Json) (container : List (StateEvents json)) :
    Except Exn (List (StateEvents json)) :=
  parseEvents json (parseStateEvent json) events container

/-! ## Stripped state -/

/-- `events::StrippedEvent<…>(e)`. -/
def readStripped (k : StateKind) (h : k ≠ .imagePack) (e : Json) :
    Except Exn (StrippedEvents json) :=
  (StrippedEvents.known k · h) <$> StrippedEvent.fromJson k.Content e

/-- The body of the loop of `parse_stripped_events`, in which redactions and encryption have no
branch. -/
def parseStrippedEvent (e : Json) : Except Exn (Option (StrippedEvents json)) := do
  match ← getEventTypeOf e with
  | .roomAliases => some <$> readStripped json .aliases nofun e
  | .roomAvatar => some <$> readStripped json .avatar nofun e
  | .roomCanonicalAlias => some <$> readStripped json .canonicalAlias nofun e
  | .roomCreate => some <$> readStripped json .create nofun e
  | .roomGuestAccess => some <$> readStripped json .guestAccess nofun e
  | .roomHistoryVisibility => some <$> readStripped json .historyVisibility nofun e
  | .roomJoinRules => some <$> readStripped json .joinRules nofun e
  | .roomMember => some <$> readStripped json .member nofun e
  | .roomName => some <$> readStripped json .name nofun e
  | .roomPowerLevels => some <$> readStripped json .powerLevels nofun e
  | .roomTombstone => some <$> readStripped json .tombstone nofun e
  | .roomServerAcl => some <$> readStripped json .serverAcl nofun e
  | .roomTopic => some <$> readStripped json .topic nofun e
  | .widget => some <$> readStripped json .widget nofun e
  | .vectorWidget => some <$> readStripped json .widget nofun e
  | .policyRuleUser => some <$> readStripped json .userRule nofun e
  | .policyRuleRoom => some <$> readStripped json .roomRule nofun e
  | .policyRuleServer => some <$> readStripped json .serverRule nofun e
  | .spaceChild => some <$> readStripped json .spaceChild nofun e
  | .spaceParent => some <$> readStripped json .spaceParent nofun e
  | .roomPinnedEvents => some <$> readStripped json .pinnedEvents nofun e
  | .unsupported => do return some (.unknown (← StrippedEvent.fromJson (Unknown json) e))
  | _ => return none

/-- `parse_stripped_events`. -/
def parseStrippedEvents (events : Json) (container : List (StrippedEvents json)) :
    Except Exn (List (StrippedEvents json)) :=
  parseEvents json (parseStrippedEvent json) events container

/-! ## Ephemeral events -/

/-- `events::EphemeralEvent<…>(e)`. -/
def readEphemeral (k : EphemeralKind) (e : Json) : Except Exn (EphemeralEvents json) :=
  .mk k <$> EphemeralEvent.fromJson (k.Content json) e

/-- The body of the loop of `parse_ephemeral_events`. -/
def parseEphemeralEvent (e : Json) : Except Exn (Option (EphemeralEvents json)) := do
  match ← getEventTypeOf e with
  | .typing => some <$> readEphemeral json .typing e
  | .receipt => some <$> readEphemeral json .receipt e
  | .unsupported => some <$> readEphemeral json .unknown e
  | _ => return none

/-- `parse_ephemeral_events`. -/
def parseEphemeralEvents (events : Json) (container : List (EphemeralEvents json)) :
    Except Exn (List (EphemeralEvents json)) :=
  parseEvents json (parseEphemeralEvent json) events container

end

/-! ## Every element for itself -/

/-- A parser of lists treats each element by itself: what it answers for a list is what it answers
for the elements one by one, whatever the container held before. -/
def IsolatesEvents {α : Type} (parse : Json → List α → Except Exn (List α)) : Prop :=
  ∃ one : Json → List α,
    (∀ e, e.validUtf8 = true →
      (one e).length ≤ 1 ∧ ∀ container, parse (.array [e]) container = .ok (one e)) ∧
    ∀ es : List Json, (∀ e ∈ es, e.validUtf8 = true) →
      ∀ container, parse (.array es) container = .ok (es.flatMap one)

section

variable {json : JsonText} {α : Type} {body : Json → Except Exn (Option α)}

/-- The events that an element adds. -/
def eventsOf (body : Json → Except Exn (Option α)) (e : Json) : List α :=
  match body e with
  | .ok event => event.toList
  | .error _ => []

theorem length_eventsOf (e : Json) : (eventsOf body e).length ≤ 1 := by
  rw [eventsOf]
  rcases body e with x | event
  · exact Nat.zero_le 1
  · rcases event with - | a
    · exact Nat.zero_le 1
    · exact Nat.le_refl 1

/-- A round of the loop appends the events of its element. -/
theorem appendEvent_eq (container : List α) {e : Json} (he : e.validUtf8 = true) :
    appendEvent json body container e = .ok (container ++ eventsOf body e) := by
  rw [appendEvent, eventsOf]
  rcases body e with x | event
  · rw [logError, JsonText.dump_of_validUtf8 json he, List.append_nil]
    rfl
  · rfl

/-- The loop appends the events of all elements. -/
theorem foldlM_appendEvent {es : List Json} (hes : ∀ e ∈ es, e.validUtf8 = true)
    (container : List α) : es.foldlM (appendEvent json body) container =
      .ok (container ++ es.flatMap (eventsOf body)) := by
  induction es generalizing container with
  | nil => simp [pure, Except.pure]
  | cons e es ih =>
    obtain ⟨he, hes⟩ := List.forall_mem_cons.mp hes
    rw [List.foldlM_cons, appendEvent_eq container he, ok_bind, ih hes, List.flatMap_cons,
      List.append_assoc]

theorem parseEvents_eq {es : List Json} (hes : ∀ e ∈ es, e.validUtf8 = true)
    (container : List α) :
    parseEvents json body (.array es) container = .ok (es.flatMap (eventsOf body)) :=
  foldlM_appendEvent hes []

theorem isolatesEvents_parseEvents : IsolatesEvents (parseEvents json body) := by
  refine ⟨eventsOf body, fun e he ↦ ⟨length_eventsOf e, fun container ↦ ?_⟩,
    fun es hes container ↦ parseEvents_eq hes container⟩
  rw [parseEvents_eq (List.forall_mem_singleton.mpr he), List.flatMap_singleton]

end

/-- **The parsers of sync lists isolate bad events.** -/
theorem sync_lists_isolate_events (json : JsonText) :
    IsolatesEvents (parseTimelineEvents json) ∧ IsolatesEvents (parseStateEvents json) ∧
      IsolatesEvents (parseStrippedEvents json) ∧ IsolatesEvents (parseDeviceEvents json) ∧
      IsolatesEvents (parseEphemeralEvents json) ∧
      IsolatesEvents (parseRoomAccountDataEvents json) :=
  ⟨isolatesEvents_parseEvents, isolatesEvents_parseEvents, isolatesEvents_parseEvents,
    isolatesEvents_parseEvents, isolatesEvents_parseEvents, isolatesEvents_parseEvents⟩

end Mtx.Responses
