import MtxClient.Events.Event

/-!
# State event contents

The contents of `m.room.power_levels`, `m.room.create`, `m.room.member` and `m.room.join_rules`,
with the queries `PowerLevels` answers about them.  None of the four has relations.
-/

set_option autoImplicit false

namespace Mtx.Events

open Str

/-! ## m.room.create -/

/-- The predecessor of a room. -/
structure PreviousRoom where
  room_id : Str
  event_id : Str

/-- `from_json(PreviousRoom)`. -/
def PreviousRoom.fromJson (obj : Json) : Except Exn PreviousRoom := do
  let room_id ← (← obj.atKey "room_id").getString
  let event_id ← obj.value "event_id" Json.getString ""
  return { room_id, event_id }

/-- `to_json(PreviousRoom)`. -/
def PreviousRoom.toJson (p : PreviousRoom) : Json :=
  Json.ofMembers <| Json.noMembers
    |>.insert "room_id" (.string p.room_id)
    |>.insertIf (!p.event_id.isEmpty) "event_id" (.string p.event_id)

/-- Content of `m.room.create`. -/
structure Create where
  type : Option Str := none
  federate : Bool := true
  room_version : Str := "1"
  predecessor : Option PreviousRoom := none
  additional_creators : List Str := []

/-- `from_json(Create)`. -/
def Create.fromJson (obj : Json) : Except Exn Create := do
  -- a type that is no string is ignored
  let type := match obj.find? "type" with
    | some (.string s) => some s
    | _ => none
  let federate ← obj.optional "m.federate" Json.getBool true
  let room_version ← obj.optional "room_version" Json.getString "1"
  let predecessor ← obj.optional "predecessor" (fun j ↦ some <$> PreviousRoom.fromJson j) none
  let additional_creators ←
    obj.optional "additional_creators" (Json.getArray Json.getString) []
  return { type, federate, room_version, predecessor, additional_creators }

/-- `to_json(Create)`. -/
def Create.toJson (c : Create) : Json :=
  let m := Json.noMembers
    |>.insert "m.federate" (.boolean c.federate)
    |>.insertIf (!c.room_version.isEmpty) "room_version" (.string c.room_version)
    |>.insertIf (!c.additional_creators.isEmpty) "additional_creators"
      (Json.ofArray .string c.additional_creators)
  let m := match c.type with
    | some t => m.insert "type" (.string t)
    | none => m
  Json.ofMembers <| match c.predecessor with
    | some p => m.insert "predecessor" p.toJson
    | none => m

/-- `Create::room_version_creators_with_infinite_power`. -/
def Create.roomVersionCreatorsWithInfinitePower (c : Create) : Bool :=
  decide (c.room_version.length > 1) && c.room_version != lit "10" && c.room_version != lit "11"

instance : EventContent Create where
  fromJson := Create.fromJson
  toJson := Create.toJson
  default := {}
  canEdit := false
  canEdit_of_isEncrypted := editable_of_encrypted

/-! ## m.room.power_levels -/

/-- Content of `m.room.power_levels`. -/
structure PowerLevels where
  ban : Int64 := 50
  invite : Int64 := 50
  kick : Int64 := 50
  redact : Int64 := 50
  events_default : Int64 := 0
  users_default : Int64 := 0
  state_default : Int64 := 50
  events : SortedMap Str Int64 := SortedMap.empty
  users : SortedMap Str Int64 := SortedMap.empty
  notifications : SortedMap Str Int64 := SortedMap.empty

/-- The level of a creator: the largest `power_level_t`. -/
def creatorLevel : Int64 := Int64.maxValue

/-- `from_json(PowerLevels)`. -/
def PowerLevels.fromJson (obj : Json) : Except Exn PowerLevels := do
  let ban ← obj.optional "ban" Json.getInt64 50
  let invite ← obj.optional "invite" Json.getInt64 50
  let kick ← obj.optional "kick" Json.getInt64 50
  let redact ← obj.optional "redact" Json.getInt64 50
  let events ← obj.optional "events" (Json.getMap Json.getInt64) SortedMap.empty
  let users ← obj.optional "users" (Json.getMap Json.getInt64) SortedMap.empty
  let events_default ← obj.optional "events_default" Json.getInt64 0
  let users_default ← obj.optional "users_default" Json.getInt64 0
  let state_default ← obj.optional "state_default" Json.getInt64 50
  let notifications ← obj.optional "notifications" (Json.getMap Json.getInt64) SortedMap.empty
  return { ban, invite, kick, redact, events_default, users_default, state_default,
           events, users, notifications }

/-- `to_json(PowerLevels)`. -/
def PowerLevels.toJson (p : PowerLevels) : Json :=
  Json.ofMembers <| Json.noMembers
    |>.insert "ban" (.numberInteger p.ban)
    |>.insert "kick" (.numberInteger p.kick)
    |>.insert "invite" (.numberInteger p.invite)
    |>.insert "redact" (.numberInteger p.redact)
    |>.insertIf (!p.events.entries.isEmpty) "events" (Json.ofMap .numberInteger p.events)
    |>.insertIf (!p.users.entries.isEmpty) "users" (Json.ofMap .numberInteger p.users)
    |>.insert "events_default" (.numberInteger p.events_default)
    |>.insert "users_default" (.numberInteger p.users_default)
    |>.insert "state_default" (.numberInteger p.state_default)
    |>.insertIf (!p.notifications.entries.isEmpty) "notifications"
      (Json.ofMap .numberInteger p.notifications)

/-- `PowerLevels::user_level`. -/
def PowerLevels.userLevel (p : PowerLevels) (user_id : Str) (create : StateEvent Create) :
    Int64 :=
  if create.content.roomVersionCreatorsWithInfinitePower &&
      (create.sender == user_id || create.content.additional_creators.contains user_id) then
    creatorLevel
  else (p.users.find? user_id).getD p.users_default

/-- `PowerLevels::event_level`. -/
def PowerLevels.eventLevel (p : PowerLevels) (event_type : Str) : Int64 :=
  (p.events.find? event_type).getD p.events_default

/-- `PowerLevels::state_level`. -/
def PowerLevels.stateLevel (p : PowerLevels) (event_type : Str) : Int64 :=
  (p.events.find? event_type).getD p.state_default

/-- `PowerLevels::notification_level`. -/
def PowerLevels.notificationLevel (p : PowerLevels) (notification_key : Str) : Int64 :=
  (p.notifications.find? notification_key).getD 50

instance : EventContent PowerLevels where
  fromJson := PowerLevels.fromJson
  toJson := PowerLevels.toJson
  default := {}
  canEdit := false
  canEdit_of_isEncrypted := editable_of_encrypted

/-! ## m.room.member -/

/-- The membership states. -/
inductive Membership where
  | join | invite | ban | leave | knock
  deriving DecidableEq, Repr

/-- `membershipToString`. -/
def membershipToString : Membership → Str
  | .join => "join"
  | .invite => "invite"
  | .ban => "ban"
  | .leave => "leave"
  | .knock => "knock"

/-- `stringToMembership`. -/
def stringToMembership (s : Str) : Membership :=
  if s = "join" then .join
  else if s = "invite" then .invite
  else if s = "ban" then .ban
  else if s = "leave" then .leave
  else .knock

/-- Content of `m.room.member`. -/
structure Member where
  membership : Membership := .join
  avatar_url : Str := ""
  display_name : Str := ""
  is_direct : Bool := false
  reason : Str := ""
  join_authorised_via_users_server : Str := ""

/-- `if (obj.count(key) != 0 && !obj.at(key).is_null()) field = obj.at(key).get<std::string>()`. -/
def nullableString (obj : Json) (key : Str) : Except Exn Str :=
  match obj.find? key with
  | none | some .null => .ok ""
  | some v => v.getString

/-- `from_json(Member)`. -/
def Member.fromJson (obj : Json) : Except Exn Member := do
  let membership ← (← obj.atKey "membership").getString
  let display_name ← nullableString obj "displayname"
  let avatar_url ← nullableString obj "avatar_url"
  let is_direct ← obj.optional "is_direct" Json.getBool false
  -- a reason that is no string is ignored
  let reason := match obj.find? "reason" with
    | some (.string s) => s
    | _ => ""
  let join_authorised_via_users_server ←
    obj.optional "join_authorised_via_users_server" Json.getString ""
  return { membership := stringToMembership membership, avatar_url, display_name, is_direct,
           reason, join_authorised_via_users_server }

/-- `to_json(Member)`. -/
def Member.toJson (m : Member) : Json :=
  Json.ofMembers <| Json.noMembers
    |>.insert "membership" (.string (membershipToString m.membership))
    |>.insert "avatar_url" (.string m.avatar_url)
    |>.insert "displayname" (.string m.display_name)
    |>.insert "is_direct" (.boolean m.is_direct)
    |>.insertIf (!m.reason.isEmpty) "reason" (.string m.reason)
    |>.insertIf (!m.join_authorised_via_users_server.isEmpty) "join_authorised_via_users_server"
      (.string m.join_authorised_via_users_server)

instance : EventContent Member where
  fromJson := Member.fromJson
  toJson := Member.toJson
  default := {}
  canEdit := false
  canEdit_of_isEncrypted := editable_of_encrypted

/-! ## m.room.join_rules -/

/-- The join rules. -/
inductive JoinRule where
  | «public» | invite | knock | «private» | restricted | knockRestricted
  deriving DecidableEq, Repr

/-- `joinRuleToString`. -/
def joinRuleToString : JoinRule → Str
  | .public => "public"
  | .invite => "invite"
  | .knock => "knock"
  | .private => "private"
  | .restricted => "restricted"
  | .knockRestricted => "knock_restricted"

/-- `stringToJoinRule`. -/
def stringToJoinRule (s : Str) : JoinRule :=
  if s = "public" then .public
  else if s = "invite" then .invite
  else if s = "knock" then .knock
  else if s = "restricted" then .restricted
  else if s = "knock_restricted" then .knockRestricted
  else .private

/-- What a join allowance refers to. -/
inductive JoinAllowanceType where
  | roomMembership | unknown
  deriving DecidableEq, Repr

/-- A rule that lets members of another room join. -/
structure JoinAllowance where
  type : JoinAllowanceType
  room_id : Str

/-- `from_json(JoinAllowance)`. -/
def JoinAllowance.fromJson (obj : Json) : Except Exn JoinAllowance := do
  let type ← obj.value "type" Json.getString ""
  let room_id ← obj.value "room_id" Json.getString ""
  return { type := if type = "m.room_membership" then .roomMembership else .unknown, room_id }

/-- `to_json(JoinAllowance)`, which starts from an empty object. -/
def JoinAllowance.toJson (a : JoinAllowance) : Json :=
  .object <| (Json.noMembers
    |>.insertIf (a.type == .roomMembership) "type" (.string "m.room_membership")
    |>.insertIf (a.type == .roomMembership) "room_id" (.string a.room_id)).entries

/-- Content of `m.room.join_rules`. -/
structure JoinRules where
  join_rule : JoinRule := .public
  allow : List JoinAllowance := []

/-- `from_json(JoinRules)`. -/
def JoinRules.fromJson (obj : Json) : Except Exn JoinRules := do
  let join_rule ← obj.value "join_rule" Json.getString ""
  let allow ← obj.optional "allow" (Json.getArray JoinAllowance.fromJson) []
  return { join_rule := stringToJoinRule join_rule, allow }

/-- `to_json(JoinRules)`. -/
def JoinRules.toJson (j : JoinRules) : Json :=
  Json.ofMembers <| Json.noMembers
    |>.insert "join_rule" (.string (joinRuleToString j.join_rule))
    |>.insertIf (!j.allow.isEmpty) "allow" (Json.ofArray JoinAllowance.toJson j.allow)

instance : EventContent JoinRules where
  fromJson := JoinRules.fromJson
  toJson := JoinRules.toJson
  default := {}
  canEdit := false
  canEdit_of_isEncrypted := editable_of_encrypted

end Mtx.Events
