import MtxClient.Events.Collections
import MtxClient.Lib.DecisionList
import MtxClient.PushRules.Flatten

/-!
# The push rule evaluator

`PushRuleEvaluator` compiles a rule set once and evaluates it for many events.  Compiling sorts the
conditions of a rule by their kind into the lists of an `OptimizedRule`, leaves out the rules that
can never apply, and puts the room and sender rules into maps.

The regular expressions are those of the library RE2, of which `Re2` has the four functions the
evaluator calls.
-/

set_option autoImplicit false

namespace Mtx.PushRules

open Str Events

/-! ## Regular expressions -/

/-- A `re2::RE2` object: the expression and the one option that is ever set. -/
structure Regex where
  pattern : Str
  case_sensitive : Bool := true
  deriving DecidableEq

/-- The functions of RE2 the evaluator calls. -/
structure Re2 where
  /-- `RE2::QuoteMeta`. -/
  quoteMeta : Str → Str
  /-- `RE2::GlobalReplace(&str, re, rewrite)`, as the new value of `str`. -/
  globalReplace : Str → Regex → Str → Str
  /-- `RE2::FullMatch(text, re)`. -/
  fullMatch : Str → Regex → Bool
  /-- `RE2::PartialMatch(text, re)`. -/
  partialMatch : Str → Regex → Bool

variable (re2 : Re2)

/-- An expression for `pat` as a word of the text. -/
def wordRegex (pat : Str) : Regex :=
  { pattern := lit "(\\W|^)" ++ pat ++ lit "(\\W|$)", case_sensitive := false }

/-- `construct_re_from_pattern`. -/
def constructReFromPattern (pat field : Str) : Regex :=
  let pat := re2.quoteMeta pat
  let pat := re2.globalReplace pat { pattern := lit "\\*" } (lit ".*")
  let pat := re2.globalReplace pat { pattern := lit "\\?" } (lit ".")
  if field = lit "content.body" then wordRegex pat
  else { pattern := pat, case_sensitive := false }

/-! ## Single conditions -/

/-- A pattern condition to match. -/
structure PatternCondition where
  pattern : Option Regex := none
  field : Str := ""

/-- `PatternCondition::matches`. -/
def PatternCondition.matches (c : PatternCondition) (ev : FlatEvent) : Bool :=
  match ev.find? c.field with
  | some value =>
    match c.pattern, value with
    | some pattern, .string s =>
      if c.field = lit "content.body" then re2.partialMatch s pattern else re2.fullMatch s pattern
    -- we have some internal rules, which just match on a field being present
    | _, _ => true
  | none => false

/-- An `event_property_is` condition to match. -/
structure IsCondition where
  value : NonCompoundValue
  field : Str

/-- `IsCondition::matches`. -/
def IsCondition.matches (c : IsCondition) (ev : FlatEvent) : Bool :=
  match ev.find? c.field with
  | some v => v == c.value.toPushValue
  | none => false

/-- An `event_property_contains` condition to match. -/
structure ContainsCondition where
  value : NonCompoundValue
  field : Str

/-- `ContainsCondition::matches`. -/
def ContainsCondition.matches (c : ContainsCondition) (ev : FlatEvent) : Bool :=
  match ev.find? c.field with
  | some (.array arr) => arr.contains c.value
  | _ => false

/-- The related events of one relation type. -/
structure RelatedEvents where
  /-- Fallback related events. -/
  fallbacks : List FlatEvent := []
  /-- Related events. -/
  events : List FlatEvent := []

/-- `std::map<RelationType, RelatedEvents>`: a type without an entry has no related events. -/
abbrev RelatedEventsFlat := RelationType → RelatedEvents

/-- A pattern condition to match on a related event. -/
structure RelatedEventCondition where
  ev_match : PatternCondition := {}
  rel_type : RelationType := .unsupported
  include_fallbacks : Bool := false

/-- Does a related event match? -/
def RelatedEventCondition.matchesEvent (c : RelatedEventCondition) (e : FlatEvent) : Bool :=
  c.ev_match.field.isEmpty || c.ev_match.pattern.isNone || c.ev_match.matches re2 e

/-- The loop of `OptimizedRule::matches` over the related events. -/
def RelatedEventCondition.matches (c : RelatedEventCondition) (related : RelatedEventsFlat) :
    Bool :=
  (related c.rel_type).events.any (c.matchesEvent re2) ||
    c.include_fallbacks && (related c.rel_type).fallbacks.any (c.matchesEvent re2)

/-- The comparison of a member count. -/
inductive Comp where
  | eq | lt | le | ge | gt
  deriving DecidableEq

/-- A member count condition. -/
structure MemberCountCondition where
  /-- The count to compare against. -/
  count : UInt64 := 0
  /-- The comparison operation. -/
  op : Comp := .eq

/-- The `switch` of `OptimizedRule::matches`. -/
def MemberCountCondition.matches (c : MemberCountCondition) (member_count : UInt64) : Bool :=
  match c.op with
  | .eq => member_count == c.count
  | .le => decide (member_count ≤ c.count)
  | .ge => decide (c.count ≤ member_count)
  | .lt => decide (member_count < c.count)
  | .gt => decide (c.count < member_count)

/-- `std::from_chars` of a `size_t`: the number the text begins with, or the old value if there is
none or it does not fit. -/
def fromChars (text : Str) (value : UInt64) : UInt64 :=
  let digits := text.takeWhile fun c ↦ decide ('0'.toUInt8 ≤ c ∧ c ≤ '9'.toUInt8)
  let n := digits.foldl (fun n c ↦ 10 * n + (c.toNat - 48)) 0
  if digits.isEmpty ∨ 2 ^ 64 ≤ n then value else UInt64.ofNat n

/-- The condition a member `is` stands for. -/
def MemberCountCondition.ofIs (is : Str) : MemberCountCondition :=
  let (op, is) :=
    if is.startsWith "==" then (Comp.eq, is.drop 2)
    else if is.startsWith ">=" then (Comp.ge, is.drop 2)
    else if is.startsWith "<=" then (Comp.le, is.drop 2)
    else if is.startsWith "<" then (Comp.lt, is.drop 1)
    else if is.startsWith ">" then (Comp.gt, is.drop 1)
    else (Comp.eq, is)
  { op, count := fromChars is 0 }

/-- The check of `contains_display_name`. -/
def displaynameMatches (ev : FlatEvent) (ctx : RoomContext) : Bool :=
  !ctx.user_display_name.isEmpty &&
    match ev.find? "content.body" with
    | some (.string body) =>
      re2.partialMatch body (wordRegex (re2.quoteMeta ctx.user_display_name))
    | _ => false

/-! ## Optimised rules -/

/-- The individual rule to apply. -/
structure OptimizedRule where
  /-- Conditions that match on a field. -/
  patterns : List PatternCondition := []
  /-- Conditions that match on a field being an exact value. -/
  is : List IsCondition := []
  /-- Conditions that match on arrays. -/
  contains : List ContainsCondition := []
  /-- Does the rule only match if no `content.m\.mentions` is present? -/
  no_mentions_field : Bool := false
  /-- Conditions that match on fields of the related event. -/
  related_event_patterns : List RelatedEventCondition := []
  /-- Conditions that match on member count. -/
  membercounts : List MemberCountCondition := []
  /-- The notification levels the sender needs. -/
  notification_levels : List Str := []
  /-- Is there a `contains_display_name` condition? -/
  check_displayname : Bool := false
  /-- The actions to apply on match. -/
  actions : List Action := []

/-- The check of the notification levels in `OptimizedRule::matches`. -/
def OptimizedRule.notificationLevelsMatch (r : OptimizedRule) (ev : FlatEvent) (ctx : RoomContext) :
    Except Exn Bool :=
  if r.notification_levels.isEmpty then .ok true else
  match ev.find? "sender" with
  | none => .ok false
  | some (.string sender) =>
    let sender_level := ctx.power_levels.userLevel sender ctx.create
    .ok (r.notification_levels.all fun n ↦
      !decide (sender_level < ctx.power_levels.notificationLevel n))
  | some _ => .error .badVariantAccess

/-- `OptimizedRule::matches`. -/
def OptimizedRule.matches (r : OptimizedRule) (ev : FlatEvent) (ctx : RoomContext)
    (related : RelatedEventsFlat) : Except Exn Bool :=
  if r.no_mentions_field && (ev.find? "content.m\\.mentions").isSome then .ok false else
  if !r.membercounts.all (·.matches ctx.member_count) then .ok false else do
  if !(← r.notificationLevelsMatch ev ctx) then return false else
  if !r.patterns.all (·.matches re2 ev) then return false else
  if !r.is.all (·.matches ev) then return false else
  if !r.contains.all (·.matches ev) then return false else
  if !r.related_event_patterns.all (·.matches re2 related) then return false else
  if r.check_displayname then return displaynameMatches re2 ev ctx else
  return true

/-! ## Compiling -/

/-- One round of the loop of `add_conditions_to_rule`; `none` stands for `return false`. -/
def addCondition (rule : OptimizedRule) (cond : PushCondition) : Option OptimizedRule :=
  if cond.kind = "event_match" then
    some { rule with patterns := rule.patterns ++
      [{ field := cond.key, pattern := constructReFromPattern re2 cond.pattern cond.key }] }
  else if cond.kind = "event_property_is" ∧ cond.value.isSome then
    some { rule with is := rule.is ++ [{ field := cond.key, value := cond.value.getD .null }] }
  else if cond.kind = "event_property_contains" ∧ cond.value.isSome then
    some { rule with contains := rule.contains ++
      [{ field := cond.key, value := cond.value.getD .null }] }
  else if cond.kind = "im.nheko.msc3664.related_event_match" then
    if cond.rel_type ≠ .unsupported then
      let ev_match : PatternCondition :=
        if !cond.key.isEmpty && !cond.pattern.isEmpty then
          { field := cond.key, pattern := constructReFromPattern re2 cond.pattern cond.key }
        else {}
      some { rule with related_event_patterns := rule.related_event_patterns ++
        [{ ev_match, rel_type := cond.rel_type, include_fallbacks := cond.include_fallback }] }
    else none
  else if cond.kind = "contains_display_name" then
    some { rule with check_displayname := true }
  else if cond.kind = "room_member_count" then
    some { rule with membercounts := rule.membercounts ++ [.ofIs cond.is] }
  else if cond.kind = "sender_notification_permission" then
    some { rule with notification_levels := rule.notification_levels ++ [cond.key] }
  else none

/-- The rules that give way to `m.mentions`. -/
def isReplacedByMentions (rule_id : Str) : Bool :=
  rule_id == lit ".m.rule.contains_display_name" || rule_id == lit ".m.rule.roomnotif" ||
    rule_id == lit ".m.rule.contains_user_name"

/-- The lambda `add_conditions_to_rule` of the constructor. -/
def addConditionsToRule (server_supports_mentions : Bool) (rule : OptimizedRule)
    (conditions : List PushCondition) (rule_id : Str) : Option OptimizedRule :=
  let rule := if server_supports_mentions && isReplacedByMentions rule_id then
      { rule with no_mentions_field := true }
    else rule
  conditions.foldlM (addCondition re2) rule

/-- The variable `server_supports_mentions` of the constructor. -/
def Ruleset.serverSupportsMentions (rules : Ruleset) : Bool :=
  rules.override_.any fun r ↦ r.rule_id == lit ".m.rule.is_user_mention"

/-- One round of the loops of the constructor over `override_` and `underride`. -/
def compileConditional (mentions : Bool) (rule : PushRule) : Option OptimizedRule :=
  if !rule.enabled then none
  else addConditionsToRule re2 mentions { actions := rule.actions } rule.conditions rule.rule_id

/-- One round of the loop of the constructor over `content`. -/
def compileContent (mentions : Bool) (rule : PushRule) : Option OptimizedRule :=
  if !rule.enabled then none
  -- an empty pattern would always match
  else if rule.pattern.isEmpty then none
  else addConditionsToRule re2 mentions { actions := rule.actions }
    [{ kind := "event_match", key := "content.body", pattern := rule.pattern }] rule.rule_id

/-- The loops of the constructor over `room` and `sender`, where the ids begin with `sigil`. -/
def compileKeyed (sigil : Str) (rules : List PushRule) : SortedMap Str OptimizedRule :=
  DecisionList.indexBy (fun r ↦ r.enabled && r.rule_id.startsWith sigil) (·.rule_id)
    (fun r ↦ { actions := r.actions }) rules

/-- `PushRuleEvaluator::OptimizedRules`. -/
structure OptimizedRules where
  override_ : List OptimizedRule
  room : SortedMap Str OptimizedRule
  sender : SortedMap Str OptimizedRule
  content : List OptimizedRule
  underride : List OptimizedRule

/-- An optimised structure to calculate notifications for events. -/
structure PushRuleEvaluator where
  rules : OptimizedRules

/-- `PushRuleEvaluator::PushRuleEvaluator`. -/
def PushRuleEvaluator.new (rules : Ruleset) : PushRuleEvaluator where
  rules :=
    let mentions := rules.serverSupportsMentions
    { override_ := rules.override_.filterMap (compileConditional re2 mentions)
      underride := rules.underride.filterMap (compileConditional re2 mentions)
      room := compileKeyed "!" rules.room
      sender := compileKeyed "@" rules.sender
      content := rules.content.filterMap (compileContent re2 mentions) }

/-! ## Evaluating -/

/-- `push_back` of a related event. -/
def pushRelated (flat : RelatedEventsFlat) (rel : Relation) (ev : FlatEvent) : RelatedEventsFlat :=
  let r := flat rel.rel_type
  Function.update flat rel.rel_type <|
    if rel.is_fallback then { r with fallbacks := r.fallbacks ++ [ev] }
    else { r with events := r.events ++ [ev] }

section

variable {json : JsonText}

/-- One round of the loop of `evaluate` that sorts the related events. -/
def RelatedEvents.add (flat : RelatedEventsFlat) (rel : Relation × TimelineEvents json) :
    Except Exn RelatedEventsFlat :=
  if rel.1.rel_type ≠ .unsupported then do
    let event_json ← rel.2.toJson
    return pushRelated flat rel.1 (flattenEvent event_json)
  else return flat

/-- `relatedEventsFlat` of `evaluate`. -/
def flattenRelated (relatedEvents : List (Relation × TimelineEvents json)) :
    Except Exn RelatedEventsFlat :=
  relatedEvents.foldlM RelatedEvents.add fun _ ↦ {}

/-- The loops of `evaluate` over a list of rules. -/
def firstMatch (rules : List OptimizedRule) (ev : FlatEvent) (ctx : RoomContext)
    (related : RelatedEventsFlat) : Except Exn (Option (List Action)) :=
  DecisionList.answerM? (fun r ↦ r.matches re2 ev ctx related) (·.actions) rules

/-- `PushRuleEvaluator::evaluate`.  What `to_json` of an event throws escapes. -/
def PushRuleEvaluator.evaluate (e : PushRuleEvaluator) (event : TimelineEvents json)
    (ctx : RoomContext) (relatedEvents : List (Relation × TimelineEvents json)) :
    Except Exn (List Action) := do
  let event_json ← event.toJson
  let flat_event := flattenEvent event_json
  let related ← flattenRelated relatedEvents
  match ← firstMatch re2 e.rules.override_ flat_event ctx related with
  | some actions => return actions
  | none =>
  match ← firstMatch re2 e.rules.content flat_event ctx related with
  | some actions => return actions
  | none =>
  -- room rule always matches if present
  match e.rules.room.find? (← event_json.value "room_id" Json.getString "") with
  | some room_rule => return room_rule.actions
  | none =>
  -- sender rule always matches if present
  match e.rules.sender.find? (← event_json.value "sender" Json.getString "") with
  | some sender_rule => return sender_rule.actions
  | none =>
  match ← firstMatch re2 e.rules.underride flat_event ctx related with
  | some actions => return actions
  | none => return []

end

end Mtx.PushRules
