import MtxClient.PushRules.Evaluator

/-!
# Conditions of kind `event_match`

A condition of kind `event_match` is compiled to a `PatternCondition`, and so is the pattern of a
content rule.  Such a condition asks three things of an event: that it has the field, that the field
is a string, and that the string matches.  `PatternCondition::matches` answers `true` after all
nested checks have been passed, and it looks at the pattern only if the field is a string, so a
field that is there but is no string passes as well.

`eventMatch_iff` says for which events this makes a difference.
-/

set_option autoImplicit false

namespace Mtx.PushRules

open Str Events

/-- Does the event have a string in the field, if it has the field at all? -/
def FlatEvent.stringOrNone (ev : FlatEvent) (field : Str) : Bool :=
  match ev.find? field with
  | none | some (.string _) => true
  | some _ => false

theorem FlatEvent.stringOrNone_iff {ev : FlatEvent} {field : Str} :
    ev.stringOrNone field = true ↔ ∀ v, ev.find? field = some v → ∃ s, v = .string s := by
  rw [stringOrNone]
  rcases ev.find? field with - | v
  · simp
  · cases v <;> simp

variable (re2 : Re2)

/-- Does the text match the pattern that is compiled for the field? -/
def textMatches (pattern field text : Str) : Bool :=
  if field = lit "content.body" then
    re2.partialMatch text (constructReFromPattern re2 pattern field)
  else re2.fullMatch text (constructReFromPattern re2 pattern field)

variable {re2} {ev : FlatEvent} {ctx : RoomContext} {related : RelatedEventsFlat}

/-- A pattern condition holds if the field is a string that matches, or anything but a string. -/
theorem PatternCondition.matches_construct_iff {pattern field : Str} :
    ({ field, pattern := constructReFromPattern re2 pattern field : PatternCondition }).matches
      re2 ev = true ↔
      ∃ v, ev.find? field = some v ∧
        ∀ s, v = .string s → textMatches re2 pattern field s = true := by
  rw [PatternCondition.matches]
  rcases ev.find? field with - | v
  · simp
  · cases v <;> simp [textMatches]

/-- A rule that matches has all its pattern conditions fulfilled. -/
theorem OptimizedRule.patterns_of_matches {r : OptimizedRule}
    (h : r.matches re2 ev ctx related = .ok true) :
    ∀ c ∈ r.patterns, c.matches re2 ev = true := by
  intro c hc
  by_contra hfalse
  have hall : r.patterns.all (·.matches re2 ev) = false := by
    rw [← Bool.not_eq_true, List.all_eq_true]
    exact fun hall ↦ hfalse (hall c hc)
  rw [OptimizedRule.matches, hall] at h
  simp only [Bool.not_false, if_true] at h
  split_ifs at h with h1 h2
  · cases h
  · cases h
  · obtain ⟨levels, -, h⟩ := bind_eq_ok_iff.mp h
    rcases levels with - | - <;> cases h

/-- A rule whose only condition is a pattern condition matches as that condition does. -/
theorem OptimizedRule.matches_pattern (c : PatternCondition) (actions : List Action) :
    ({ patterns := [c], actions : OptimizedRule }).matches re2 ev ctx related =
      .ok (c.matches re2 ev) := by
  rw [OptimizedRule.matches]
  cases h : c.matches re2 ev <;> simp [OptimizedRule.notificationLevelsMatch, h, pure, Except.pure]

theorem addCondition_eventMatch {cond : PushCondition} (hkind : cond.kind = lit "event_match")
    (rule : OptimizedRule) : addCondition re2 rule cond = some { rule with
      patterns := rule.patterns ++
        [{ field := cond.key, pattern := constructReFromPattern re2 cond.pattern cond.key }] } :=
  if_pos hkind

/-- What a content rule is compiled to. -/
theorem patterns_of_compileContent {mentions : Bool} {rule : PushRule} {r : OptimizedRule}
    (h : compileContent re2 mentions rule = some r) : r.patterns =
      [{ field := lit "content.body"
         pattern := constructReFromPattern re2 rule.pattern (lit "content.body") }] := by
  rw [compileContent] at h
  split_ifs at h
  rw [addConditionsToRule, List.foldlM_cons, addCondition_eventMatch rfl] at h
  obtain rfl := Option.some.inj h
  dsimp only
  split <;> rfl

/-- An enabled content rule that does not depend on mentions, for any pattern. -/
theorem compileContent_plain {pattern : Str} (h : pattern ≠ []) (mentions : Bool) :
    compileContent re2 mentions { pattern } = some { patterns :=
      [{ field := lit "content.body"
         pattern := constructReFromPattern re2 pattern (lit "content.body") }] } := by
  have hid : isReplacedByMentions (lit "") = false := by decide
  rw [compileContent, if_neg (by simp), if_neg (by simpa using h), addConditionsToRule, hid,
    Bool.and_false, if_neg Bool.false_ne_true, List.foldlM_cons, addCondition_eventMatch rfl]
  rfl

/-- **When a pattern asks for a string.**  A rule with an `event_match` condition only matches
events that have a matching string in the field, if and only if the event does not have something
else there; and content rules only match events with a string as `content.body`, if and only if the
event does not have something else as `content.body`. -/
theorem eventMatch_iff (re2 : Re2) (ev : FlatEvent) (ctx : RoomContext)
    (related : RelatedEventsFlat) (cond : PushCondition) (hkind : cond.kind = lit "event_match") :
    ((∀ rule rule', addCondition re2 rule cond = some rule' →
        rule'.matches re2 ev ctx related = .ok true →
        ∃ s, ev.find? cond.key = some (.string s) ∧
          textMatches re2 cond.pattern cond.key s = true) ↔
      ev.stringOrNone cond.key = true) ∧
    ((∀ mentions rule rule', compileContent re2 mentions rule = some rule' →
        rule'.matches re2 ev ctx related = .ok true →
        ∃ s, ev.find? (lit "content.body") = some (.string s)) ↔
      ev.stringOrNone (lit "content.body") = true) := by
  refine ⟨⟨fun h ↦ ?_, fun h rule rule' hadd hmatch ↦ ?_⟩,
    ⟨fun h ↦ ?_, fun h mentions rule rule' hcompile hmatch ↦ ?_⟩⟩
  · rw [FlatEvent.stringOrNone_iff]
    intro v hv
    by_contra hs
    obtain ⟨s, hfind, -⟩ := h {} _ (addCondition_eventMatch hkind {}) (by
      rw [show ({} : OptimizedRule).patterns = [] from rfl, List.nil_append,
        OptimizedRule.matches_pattern, PatternCondition.matches_construct_iff.mpr
          ⟨v, hv, fun s h ↦ absurd ⟨s, h⟩ hs⟩])
    exact hs ⟨s, Option.some.inj (hv.symm.trans hfind)⟩
  · rw [addCondition_eventMatch hkind] at hadd
    obtain rfl := Option.some.inj hadd
    obtain ⟨v, hv, htext⟩ := PatternCondition.matches_construct_iff.mp
      (OptimizedRule.patterns_of_matches hmatch _ (List.mem_append_right _ List.mem_cons_self))
    obtain ⟨s, rfl⟩ := FlatEvent.stringOrNone_iff.mp h v hv
    exact ⟨s, hv, htext s rfl⟩
  · rw [FlatEvent.stringOrNone_iff]
    intro v hv
    by_contra hs
    have hne : lit "x" ≠ [] := by decide
    obtain ⟨s, hfind⟩ := h false _ _ (compileContent_plain hne false) (by
      rw [OptimizedRule.matches_pattern, PatternCondition.matches_construct_iff.mpr
        ⟨v, hv, fun s h ↦ absurd ⟨s, h⟩ hs⟩])
    exact hs ⟨s, Option.some.inj (hv.symm.trans hfind)⟩
  · have hpatterns := patterns_of_compileContent hcompile
    obtain ⟨v, hv, -⟩ := PatternCondition.matches_construct_iff.mp
      (OptimizedRule.patterns_of_matches hmatch _ (hpatterns ▸ List.mem_cons_self))
    obtain ⟨s, rfl⟩ := FlatEvent.stringOrNone_iff.mp h v hv
    exact ⟨s, hv⟩

/-! ## An example -/

/-- RE2 if no text matches any expression. -/
def refusingRe2 : Re2 where
  quoteMeta s := s
  globalReplace s _ _ := s
  fullMatch _ _ := false
  partialMatch _ _ := false

/-- `"content":{"body":null}`. -/
def nullBody : Json := .object [("content", .object [("body", .null)])]

/-- A room of two members. -/
def pairContext : RoomContext where
  user_display_name := ""
  member_count := 2
  power_levels := {}
  create := {
    type := .roomCreate, sender := "@alice:example.org", content := {}, event_id := "$create"
    room_id := "!quiet:example.org", origin_server_ts := 0, unsigned_data := {}, state_key := "" }

/-- A condition on the body. -/
def bodyCondition : PushCondition :=
  { kind := "event_match", key := "content.body", pattern := "x" }

/-- With a string as the body, the conditions ask for that string. -/
theorem eventMatch_iff_string_body :
    (flattenEvent (.object [("content", .object [("body", .string "y")])])).stringOrNone
      (lit "content.body") = true ∧
    ∀ rule rule', addCondition refusingRe2 rule bodyCondition = some rule' →
      rule'.matches refusingRe2
        (flattenEvent (.object [("content", .object [("body", .string "y")])])) pairContext
        (fun _ ↦ {}) = .ok true →
      ∃ s, (flattenEvent (.object [("content", .object [("body", .string "y")])])).find?
          bodyCondition.key = some (.string s) ∧
        textMatches refusingRe2 bodyCondition.pattern bodyCondition.key s = true :=
  ⟨by decide, (eventMatch_iff refusingRe2 _ pairContext _ bodyCondition rfl).1.mpr (by decide)⟩

/-- **A body that is `null` fulfils an `event_match` condition and triggers a content rule, although
no text matches any pattern.** -/
theorem null_body_triggers :
    ¬ (∀ (re2 : Re2) (ev : FlatEvent) (cond : PushCondition), cond.kind = lit "event_match" →
      ∀ rule rule', addCondition re2 rule cond = some rule' →
      rule'.matches re2 ev pairContext (fun _ ↦ {}) = .ok true →
      ∃ s, ev.find? cond.key = some (.string s) ∧
        textMatches re2 cond.pattern cond.key s = true) ∧
    ∃ rule, compileContent refusingRe2 false { pattern := "x" } = some rule ∧
      rule.matches refusingRe2 (flattenEvent nullBody) pairContext (fun _ ↦ {}) = .ok true := by
  refine ⟨fun h ↦ ?_, _, compileContent_plain (by decide) false, by decide⟩
  obtain ⟨s, hs, -⟩ := h refusingRe2 (flattenEvent nullBody) bodyCondition rfl {} _
    (addCondition_eventMatch rfl {}) (by decide)
  have hnull : (flattenEvent nullBody).find? bodyCondition.key = some .null := by decide
  rw [hnull] at hs
  cases hs

end Mtx.PushRules
