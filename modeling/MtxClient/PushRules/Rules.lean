import MtxClient.Events.StateContents
import MtxClient.PushRules.Types

/-!
# The JSON of push rules

How rule sets are read from account data and written there.  Members are read with `operator[]` on
constant values where the source does, which is undefined for a missing member.
-/

set_option autoImplicit false

namespace Mtx.PushRules

open Str

/-- `to_non_compound_json_value`. -/
def toNonCompoundJsonValue (val : Json) : Except Exn (Option NonCompoundValue) :=
  match val with
  | .string s => .ok (some (.string s))
  | .null => .ok (some .null)
  | .boolean b => .ok (some (.bool b))
  | .numberInteger _ | .numberUnsigned _ => do return some (.int (← val.getInt64))
  | _ => .ok none

/-- The JSON of a value of a condition. -/
def NonCompoundValue.toJson : NonCompoundValue → Json
  | string s => .string s
  | int i => .numberInteger i
  | bool b => .boolean b
  | null => .null

/-- `from_json(PushCondition)`. -/
def PushCondition.fromJson (obj : Json) : Except Exn PushCondition := do
  let kind ← (← obj.index "kind").getString
  let key ← obj.value "key" Json.getString ""
  let pattern ← obj.value "pattern" Json.getString ""
  let is ← obj.value "is" Json.getString ""
  let rel_type ← obj.value "rel_type" Events.RelationType.fromJson .unsupported
  let include_fallback ← obj.value "include_fallback" Json.getBool false
  let value ← obj.optional "value" toNonCompoundJsonValue none
  return { kind, key, pattern, value, is, rel_type, include_fallback }

/-- `to_json(PushCondition)`. -/
def PushCondition.toJson (condition : PushCondition) : Json :=
  let m := Json.noMembers
    |>.insert "kind" (.string condition.kind)
    |>.insertIf (!condition.key.isEmpty) "key" (.string condition.key)
    |>.insertIf (!condition.pattern.isEmpty) "pattern" (.string condition.pattern)
    |>.insertIf (!condition.is.isEmpty) "is" (.string condition.is)
    |>.insertIf (condition.rel_type != .unsupported) "rel_type"
      (.string condition.rel_type.toStr)
  Json.ofMembers <| match condition.value with
    | some v => m.insert "value" v.toJson
    | none => m

/-- `from_json(Action)`: what is not recognised leaves the first alternative, `notify`. -/
def Action.fromJson (obj : Json) : Except Exn Action :=
  match obj with
  | .string s =>
    .ok (if s = "notify" then .notify else if s = "dont_notify" then .dont_notify else .notify)
  | _ =>
    if obj.contains "set_tweak" then do
      let tweak ← obj.index "set_tweak"
      if tweak.eqString "sound" then
        return .setTweakSound (← obj.value "value" Json.getString "default")
      else if tweak.eqString "highlight" then
        return .setTweakHighlight (← obj.value "value" Json.getBool true)
      else
        return .notify
    else
      .ok .notify

/-- `to_json(Action)`, which leaves the value as it is for `coalesce`. -/
def Action.toJson : Action → Json
  | .notify => .string "notify"
  | .dont_notify => .string "dont_notify"
  | .coalesce => .null
  | .setTweakSound value => Json.ofMembers <| Json.noMembers
      |>.insert "set_tweak" (.string "sound")
      |>.insert "value" (.string value)
  | .setTweakHighlight value => Json.ofMembers <| Json.noMembers
      |>.insert "set_tweak" (.string "highlight")
      |>.insertIf (!value) "value" (.boolean false)

/-- A list of actions. -/
structure Actions where
  actions : List Action := []

/-- `from_json(Actions)`. -/
def Actions.fromJson (obj : Json) : Except Exn Actions := do
  return { actions := ← (← obj.index "actions").getArray Action.fromJson }

/-- `for (const auto &e : obj[key]) list.push_back(…);`, if the member is there. -/
def readList {α : Type} (obj : Json) (key : Str) (get : Json → Except Exn α) :
    Except Exn (List α) :=
  obj.optional key (fun list ↦ list.elements.mapM get) []

/-- `from_json(PushRule)`. -/
def PushRule.fromJson (obj : Json) : Except Exn PushRule := do
  let rule_id ← obj.value "rule_id" Json.getString ""
  let default_ ← obj.value "default" Json.getBool false
  let enabled ← obj.value "enabled" Json.getBool true
  let actions ← readList obj "actions" Action.fromJson
  let pattern ← obj.value "pattern" Json.getString ""
  let conditions ← readList obj "conditions" PushCondition.fromJson
  return { default_, enabled, actions, rule_id, pattern, conditions }

/-- `to_json(PushRule)`. -/
def PushRule.toJson (rule : PushRule) : Json :=
  Json.ofMembers <| Json.noMembers
    |>.insertIf rule.default_ "default" (.boolean rule.default_)
    |>.insertIf (!rule.enabled) "enabled" (.boolean rule.enabled)
    |>.insertIf (!rule.actions.isEmpty) "actions" (Json.ofArray Action.toJson rule.actions)
    |>.insertIf (!rule.rule_id.isEmpty) "rule_id" (.string rule.rule_id)
    |>.insertIf (!rule.pattern.isEmpty) "pattern" (.string rule.pattern)
    |>.insertIf (!rule.conditions.isEmpty) "conditions"
      (Json.ofArray PushCondition.toJson rule.conditions)

/-- `from_json(Ruleset)`. -/
def Ruleset.fromJson (obj : Json) : Except Exn Ruleset := do
  let override_ ← readList obj "override" PushRule.fromJson
  let content ← readList obj "content" PushRule.fromJson
  let room ← readList obj "room" PushRule.fromJson
  let sender ← readList obj "sender" PushRule.fromJson
  let underride ← readList obj "underride" PushRule.fromJson
  return { override_, content, room, sender, underride }

/-- `to_json(Ruleset)`. -/
def Ruleset.toJson (set : Ruleset) : Json :=
  Json.ofMembers <| Json.noMembers
    |>.insert "override" (Json.ofArray PushRule.toJson set.override_)
    |>.insert "content" (Json.ofArray PushRule.toJson set.content)
    |>.insert "room" (Json.ofArray PushRule.toJson set.room)
    |>.insert "sender" (Json.ofArray PushRule.toJson set.sender)
    |>.insert "underride" (Json.ofArray PushRule.toJson set.underride)

/-- Content of `m.push_rules`. -/
structure GlobalRuleset where
  global : Ruleset := {}

/-- `from_json(GlobalRuleset)`. -/
def GlobalRuleset.fromJson (obj : Json) : Except Exn GlobalRuleset := do
  return { global := ← Ruleset.fromJson (← obj.index "global") }

/-- `to_json(GlobalRuleset)`. -/
def GlobalRuleset.toJson (set : GlobalRuleset) : Json :=
  Json.ofMembers <| Json.noMembers |>.insert "global" set.global.toJson

instance : Events.EventContent GlobalRuleset :=
  .ofCodec GlobalRuleset.fromJson GlobalRuleset.toJson {}

end Mtx.PushRules
