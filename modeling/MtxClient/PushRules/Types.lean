import MtxClient.Events.Relations
import MtxClient.Events.State

/-!
# Push rules

The rule sets of the push rules as the client gets them from the server, and the values of an event
that their conditions look at.
-/

set_option autoImplicit false

namespace Mtx.PushRules

/-- `non_compound_json_value`. -/
inductive NonCompoundValue where
  | string (s : Str)
  | int (i : Int64)
  | bool (b : Bool)
  | null
  deriving DecidableEq

/-- `push_json_value`. -/
inductive PushValue where
  | string (s : Str)
  | int (i : Int64)
  | bool (b : Bool)
  | null
  | array (xs : List NonCompoundValue)
  deriving DecidableEq

/-- The conversion of a `non_compound_json_value` to a `push_json_value`. -/
def NonCompoundValue.toPushValue : NonCompoundValue → PushValue
  | string s => .string s
  | int i => .int i
  | bool b => .bool b
  | null => .null

/-- A condition to match push rules on. -/
structure PushCondition where
  /-- The kind of condition to apply. -/
  kind : Str
  /-- The field of the event to match, or of the notification levels. -/
  key : Str := ""
  /-- The glob-style pattern to match against. -/
  pattern : Str := ""
  /-- A non compound value to compare with. -/
  value : Option NonCompoundValue := none
  /-- A decimal integer with an optional comparison operator. -/
  is : Str := ""
  /-- The relation type to match on. -/
  rel_type : Events.RelationType := .unsupported
  /-- Whether to match fallback relations or not. -/
  include_fallback : Bool := false
  deriving DecidableEq

/-- The actions of a rule. -/
inductive Action where
  | notify | dont_notify | coalesce
  | setTweakSound (value : Str)
  | setTweakHighlight (value : Bool)
  deriving DecidableEq

/-- A rule defining the notification behaviour for a message. -/
structure PushRule where
  /-- Whether this is a default rule, or has been set explicitly. -/
  default_ : Bool := false
  /-- Whether the rule is enabled or not. -/
  enabled : Bool := true
  /-- The actions to perform when this rule is matched. -/
  actions : List Action := []
  /-- The id of this rule. -/
  rule_id : Str := ""
  /-- The pattern of a content rule. -/
  pattern : Str := ""
  /-- The conditions of an override or underride rule. -/
  conditions : List PushCondition := []

/-- All the push rules to evaluate for events. -/
structure Ruleset where
  override_ : List PushRule := []
  content : List PushRule := []
  room : List PushRule := []
  sender : List PushRule := []
  underride : List PushRule := []

/-- Additional room information needed to evaluate push rules. -/
structure RoomContext where
  /-- The display name of the user in the room. -/
  user_display_name : Str
  /-- The member count of the room. -/
  member_count : UInt64
  /-- The power levels in this room. -/
  power_levels : Events.PowerLevels
  /-- The create event, to find the creators of the room. -/
  create : Events.StateEvent Events.Create

end Mtx.PushRules
