import MtxClient.Events.WrittenEvents
import MtxClient.PushRules.Evaluator

/-!
# What the evaluator computes

The meaning of a rule set, without the preparation the evaluator makes: the rules are tried in the
order override, content, room, sender, underride, in the order of the lists inside a kind, and the
actions of the first one that applies are the answer (`Ruleset.reference`).  Whether a rule applies
is a matter of its own conditions, one by one (`PushCondition.holds`).

`evaluate_new_eq_reference_iff` says that the evaluator answers just that, unless an event cannot be
written, which lets the exception of `to_json` escape.  A rule is compiled condition by condition,
and `addCondition_spec` is the step of that loop: it adds the condition to what the optimised rule
tests, or drops the rule because the condition can never hold.
-/

set_option autoImplicit false

namespace Mtx.PushRules

open Str Events

variable (re2 : Re2)

/-! ## The reference -/

/-- The field is there and matches the pattern if it is a string. -/
def eventMatch (key pattern : Str) (ev : FlatEvent) : Bool :=
  match ev.find? key with
  | some (.string s) =>
    if key = lit "content.body" then re2.partialMatch s (constructReFromPattern re2 pattern key)
    else re2.fullMatch s (constructReFromPattern re2 pattern key)
  | some _ => true
  | none => false

/-- The sender has the level that notifications of the kind `key` need. -/
def senderMayNotify (key : Str) (ev : FlatEvent) (ctx : RoomContext) : Bool :=
  match ev.find? "sender" with
  | some (.string sender) =>
    decide (ctx.power_levels.notificationLevel key ≤ ctx.power_levels.userLevel sender ctx.create)
  | _ => false

variable {json : JsonText}

/-- The event as the conditions see it.  There is nothing to see of an event that cannot be
written. -/
def flattened (event : TimelineEvents json) : FlatEvent :=
  flattenEvent (event.toJson.toOption.getD .null)

/-- A related event of the type in question matches. -/
def relatedEventMatch (cond : PushCondition) (related : List (Relation × TimelineEvents json)) :
    Bool :=
  related.any fun r ↦ decide (r.1.rel_type = cond.rel_type) &&
    (!r.1.is_fallback || cond.include_fallback) &&
    (cond.key.isEmpty || cond.pattern.isEmpty ||
      eventMatch re2 cond.key cond.pattern (flattened r.2))

/-- Does the condition hold? -/
def PushCondition.holds (cond : PushCondition) (ev : FlatEvent) (ctx : RoomContext)
    (related : List (Relation × TimelineEvents json)) : Bool :=
  if cond.kind = "event_match" then eventMatch re2 cond.key cond.pattern ev
  else if cond.kind = "event_property_is" then
    match cond.value with
    | some value => ev.find? cond.key == some value.toPushValue
    | none => false
  else if cond.kind = "event_property_contains" then
    match cond.value, ev.find? cond.key with
    | some value, some (.array xs) => xs.contains value
    | _, _ => false
  else if cond.kind = "im.nheko.msc3664.related_event_match" then
    decide (cond.rel_type ≠ .unsupported) && relatedEventMatch re2 cond related
  else if cond.kind = "contains_display_name" then displaynameMatches re2 ev ctx
  else if cond.kind = "room_member_count" then
    (MemberCountCondition.ofIs cond.is).matches ctx.member_count
  else if cond.kind = "sender_notification_permission" then senderMayNotify cond.key ev ctx
  -- an unknown kind of condition
  else false

/-- The kinds of rules. -/
inductive RuleKind where
  | override | content | room | sender | underride
  deriving DecidableEq

/-- All rules, the most important one first. -/
def Ruleset.inOrder (rules : Ruleset) : List (RuleKind × PushRule) :=
  rules.override_.map (RuleKind.override, ·) ++ rules.content.map (RuleKind.content, ·) ++
    rules.room.map (RuleKind.room, ·) ++ rules.sender.map (RuleKind.sender, ·) ++
    rules.underride.map (RuleKind.underride, ·)

/-- The rule leaves the event to the rules about `m.mentions`. -/
def yieldsToMentions (mentions : Bool) (rule : PushRule) (ev : FlatEvent) : Bool :=
  mentions && isReplacedByMentions rule.rule_id && (ev.find? "content.m\\.mentions").isSome

/-- Does the rule apply to the event? -/
def applies (mentions : Bool) (event : TimelineEvents json) (ctx : RoomContext)
    (related : List (Relation × TimelineEvents json)) (rule : RuleKind × PushRule) : Bool :=
  let ev := flattened event
  rule.2.enabled && !yieldsToMentions mentions rule.2 ev &&
    match rule.1 with
    | .override | .underride => rule.2.conditions.all (·.holds re2 ev ctx related)
    | .content => !rule.2.pattern.isEmpty && eventMatch re2 "content.body" rule.2.pattern ev
    | .room => rule.2.rule_id.startsWith "!" && decide (rule.2.rule_id = event.envelope.room_id)
    | .sender => rule.2.rule_id.startsWith "@" && decide (rule.2.rule_id = event.envelope.sender)

/-- **The actions of the first rule that applies**, none if no rule does. -/
def Ruleset.reference (rules : Ruleset) (event : TimelineEvents json) (ctx : RoomContext)
    (related : List (Relation × TimelineEvents json)) : List Action :=
  (DecisionList.answer? (applies re2 rules.serverSupportsMentions event ctx related)
    (·.2.actions) rules.inOrder).getD []

/-! ## Optimised rules -/

/-- What an optimised rule tests, when the event has the sender `sender`. -/
def OptimizedRule.applies (r : OptimizedRule) (ev : FlatEvent) (ctx : RoomContext)
    (related : RelatedEventsFlat) (sender : Str) : Bool :=
  !(r.no_mentions_field && (ev.find? "content.m\\.mentions").isSome) &&
    (r.membercounts.all (·.matches ctx.member_count) &&
    (r.notification_levels.all (fun n ↦ decide
      (ctx.power_levels.notificationLevel n ≤ ctx.power_levels.userLevel sender ctx.create)) &&
    (r.patterns.all (·.matches re2 ev) &&
    (r.is.all (·.matches ev) &&
    (r.contains.all (·.matches ev) &&
    (r.related_event_patterns.all (·.matches re2 related) &&
    (!r.check_displayname || displaynameMatches re2 ev ctx)))))))

variable {ev : FlatEvent} {ctx : RoomContext} {sender : Str}

theorem notificationLevelsMatch_eq_ok (r : OptimizedRule)
    (h : ev.find? "sender" = some (.string sender)) :
    r.notificationLevelsMatch ev ctx = .ok (r.notification_levels.all fun n ↦ decide
      (ctx.power_levels.notificationLevel n ≤ ctx.power_levels.userLevel sender ctx.create)) := by
  rw [OptimizedRule.notificationLevelsMatch, h]
  cases hl : r.notification_levels with
  | nil => rfl
  | cons n ns =>
    simp only [List.isEmpty_cons, Bool.false_eq_true, if_false, ← decide_not, Int64.not_lt]

/-- A test that comes before the others and answers `false` when it fails. -/
theorem guard_eq_ok {a b : Bool} {rest : Except Exn Bool} (h : rest = .ok b) :
    (if !a then .ok false else rest) = .ok (a && b) := by
  cases a with
  | true => exact h
  | false => rfl

/-- With its sender in place, matching never fails. -/
theorem matches_eq_ok (r : OptimizedRule) (related : RelatedEventsFlat)
    (h : ev.find? "sender" = some (.string sender)) :
    r.matches re2 ev ctx related = .ok (r.applies re2 ev ctx related sender) := by
  rw [OptimizedRule.matches, notificationLevelsMatch_eq_ok r h, OptimizedRule.applies, ok_bind]
  cases r.no_mentions_field && (ev.find? "content.m\\.mentions").isSome with
  | true => rfl
  | false =>
    refine guard_eq_ok (guard_eq_ok (guard_eq_ok (guard_eq_ok (guard_eq_ok (guard_eq_ok ?_)))))
    cases r.check_displayname <;> rfl

/-! ## Events that can be written -/

theorem flattened_of_toJson {event : TimelineEvents json} {event_json : Json}
    (h : event.toJson = .ok event_json) : flattened event = flattenEvent event_json := by
  rw [flattened, h]
  rfl

/-- The sender of an event stands under `sender`. -/
theorem find?_sender_flattened {event : TimelineEvents json} (h : event.Writable) :
    (flattened event).find? "sender" = some (.string event.envelope.sender) := by
  obtain ⟨j, hj⟩ := event.succeeds_toJson_iff.mpr h
  obtain ⟨m, rfl, hempty, hsender, -⟩ := TimelineEvents.find?_of_toJson hj
  rw [flattened_of_toJson hj]
  exact find?_flattenEvent_ofMembers m hempty (by decide) hsender

/-- One round of the loop that sorts the related events, all of which can be written. -/
def addRelated (flat : RelatedEventsFlat) (r : Relation × TimelineEvents json) :
    RelatedEventsFlat :=
  if r.1.rel_type ≠ .unsupported then pushRelated flat r.1 (flattened r.2) else flat

/-- The related events by their relation types. -/
def relatedFlat (related : List (Relation × TimelineEvents json)) : RelatedEventsFlat :=
  related.foldl addRelated fun _ ↦ {}

theorem add_eq_ok_iff {flat flat' : RelatedEventsFlat} {r : Relation × TimelineEvents json} :
    RelatedEvents.add flat r = .ok flat' ↔
      (r.1.rel_type ≠ .unsupported → r.2.Writable) ∧ flat' = addRelated flat r := by
  rw [RelatedEvents.add, addRelated]
  by_cases htype : r.1.rel_type = .unsupported
  · rw [if_neg (not_not.mpr htype), if_neg (not_not.mpr htype),
      and_iff_right fun h ↦ absurd htype h]
    exact ⟨fun h ↦ (Except.ok.inj h).symm, fun h ↦ congrArg Except.ok h.symm⟩
  · rw [if_pos htype, if_pos htype, forall_prop_of_true htype, bind_eq_ok_iff]
    constructor
    · rintro ⟨j, hj, h⟩
      refine ⟨r.2.succeeds_toJson_iff.mp ⟨j, hj⟩, ?_⟩
      rw [flattened_of_toJson hj]
      exact (Except.ok.inj h).symm
    · rintro ⟨hwritable, rfl⟩
      obtain ⟨j, hj⟩ := r.2.succeeds_toJson_iff.mpr hwritable
      rw [flattened_of_toJson hj]
      exact ⟨j, hj, rfl⟩

theorem foldlM_add_eq_ok_iff {related : List (Relation × TimelineEvents json)}
    {flat flat' : RelatedEventsFlat} : related.foldlM RelatedEvents.add flat = .ok flat' ↔
      (∀ r ∈ related, r.1.rel_type ≠ .unsupported → r.2.Writable) ∧
        flat' = related.foldl addRelated flat := by
  induction related generalizing flat with
  | nil =>
    rw [and_iff_right (by simp)]
    exact ⟨fun h ↦ (Except.ok.inj h).symm, fun h ↦ congrArg Except.ok h.symm⟩
  | cons r related ih =>
    rw [List.foldlM_cons, bind_eq_ok_iff, List.forall_mem_cons, List.foldl_cons]
    simp only [add_eq_ok_iff, ih]
    constructor
    · rintro ⟨_, ⟨hr, rfl⟩, hrelated, hflat⟩
      exact ⟨⟨hr, hrelated⟩, hflat⟩
    · rintro ⟨⟨hr, hrelated⟩, hflat⟩
      exact ⟨_, ⟨hr, rfl⟩, hrelated, hflat⟩

/-! ## Related events -/

theorem any_addRelated (p : FlatEvent → Bool) (flat : RelatedEventsFlat)
    (r : Relation × TimelineEvents json) {t : RelationType} (ht : t ≠ .unsupported) :
    ((addRelated flat r t).events.any p =
      ((flat t).events.any p ||
        decide (r.1.rel_type = t) && !r.1.is_fallback && p (flattened r.2))) ∧
    ((addRelated flat r t).fallbacks.any p =
      ((flat t).fallbacks.any p ||
        decide (r.1.rel_type = t) && r.1.is_fallback && p (flattened r.2))) := by
  rw [addRelated]
  by_cases h : r.1.rel_type = t
  · subst h
    rw [if_pos ht, pushRelated, Function.update_self]
    cases r.1.is_fallback <;> simp
  · split
    · rw [pushRelated, Function.update_of_ne (Ne.symm h)]
      simp [h]
    · simp [h]

theorem any_foldl_addRelated (p : FlatEvent → Bool)
    (related : List (Relation × TimelineEvents json)) (flat : RelatedEventsFlat)
    {t : RelationType} (ht : t ≠ .unsupported) :
    ((related.foldl addRelated flat t).events.any p =
      ((flat t).events.any p || related.any fun r ↦
        decide (r.1.rel_type = t) && !r.1.is_fallback && p (flattened r.2))) ∧
    ((related.foldl addRelated flat t).fallbacks.any p =
      ((flat t).fallbacks.any p || related.any fun r ↦
        decide (r.1.rel_type = t) && r.1.is_fallback && p (flattened r.2))) := by
  induction related generalizing flat with
  | nil => simp
  | cons r related ih =>
    obtain ⟨he, hf⟩ := any_addRelated p flat r ht
    rw [List.foldl_cons, (ih _).1, (ih _).2, he, hf, List.any_cons, List.any_cons, Bool.or_assoc,
      Bool.or_assoc]
    exact ⟨rfl, rfl⟩

/-- The related events are sorted into the map, but each is looked at all the same. -/
theorem relatedEventCondition_matches (c : RelatedEventCondition)
    (related : List (Relation × TimelineEvents json)) (hc : c.rel_type ≠ .unsupported) :
    c.matches re2 (relatedFlat related) = related.any fun r ↦
      decide (r.1.rel_type = c.rel_type) && (!r.1.is_fallback || c.include_fallbacks) &&
        c.matchesEvent re2 (flattened r.2) := by
  obtain ⟨he, hf⟩ := any_foldl_addRelated (c.matchesEvent re2) related (fun _ ↦ {}) hc
  rw [RelatedEventCondition.matches, relatedFlat, he, hf]
  simp only [List.any_nil, Bool.false_or]
  rw [Bool.eq_iff_iff]
  simp only [Bool.or_eq_true, Bool.and_eq_true, List.any_eq_true, Bool.not_eq_true',
    decide_eq_true_eq]
  constructor
  · rintro (⟨r, hr, ⟨ht, hfb⟩, hm⟩ | ⟨hi, r, hr, ⟨ht, hfb⟩, hm⟩)
    · exact ⟨r, hr, ⟨ht, Or.inl hfb⟩, hm⟩
    · exact ⟨r, hr, ⟨ht, Or.inr hi⟩, hm⟩
  · rintro ⟨r, hr, ⟨ht, hfb⟩, hm⟩
    cases h : r.1.is_fallback with
    | false => exact Or.inl ⟨r, hr, ⟨ht, h⟩, hm⟩
    | true =>
      rw [h] at hfb
      exact Or.inr ⟨hfb.resolve_left (by simp), r, hr, ⟨ht, h⟩, hm⟩

/-! ## Compiling a rule -/

theorem patternCondition_matches (pattern field : Str) (ev : FlatEvent) :
    ({ pattern := some (constructReFromPattern re2 pattern field), field } :
      PatternCondition).matches re2 ev = eventMatch re2 field pattern ev := by
  rw [PatternCondition.matches, eventMatch]
  split
  · next v h =>
    rw [h]
    cases v <;> rfl
  · next h => rw [h]

theorem isCondition_matches (value : NonCompoundValue) (field : Str) (ev : FlatEvent) :
    ({ value, field } : IsCondition).matches ev = (ev.find? field == some value.toPushValue) := by
  rw [IsCondition.matches]
  split
  · next x hx => rw [hx]; rfl
  · next hx => rw [hx]; rfl

theorem containsCondition_matches (value : NonCompoundValue) (field : Str) (ev : FlatEvent) :
    ({ value, field } : ContainsCondition).matches ev =
      match some value, ev.find? field with
      | some value, some (.array xs) => xs.contains value
      | _, _ => false := by
  rw [ContainsCondition.matches]
  cases ev.find? field with
  | none => rfl
  | some x => cases x <;> rfl

/-- The compiled form of a related event condition, with no pattern where any event will do. -/
theorem relatedCondition_matches (cond : PushCondition)
    (related : List (Relation × TimelineEvents json)) (ht : cond.rel_type ≠ .unsupported) :
    ({ ev_match :=
        if !cond.key.isEmpty && !cond.pattern.isEmpty then
          { field := cond.key, pattern := constructReFromPattern re2 cond.pattern cond.key }
        else {}
       rel_type := cond.rel_type, include_fallbacks := cond.include_fallback } :
      RelatedEventCondition).matches re2 (relatedFlat related) =
      relatedEventMatch re2 cond related := by
  rw [relatedEventCondition_matches re2 _ related ht, relatedEventMatch]
  refine congrArg related.any (funext fun r ↦ congrArg _ ?_)
  rw [RelatedEventCondition.matchesEvent]
  cases hkey : cond.key.isEmpty with
  | true => rfl
  | false =>
    cases hpattern : cond.pattern.isEmpty with
    | true => rfl
    | false => simp [hkey, patternCondition_matches]

/-- **Compiling a condition**: the rule tests it as well, or is dropped if it can never hold. -/
theorem addCondition_spec (ctx : RoomContext) (rule : OptimizedRule) (cond : PushCondition)
    (related : List (Relation × TimelineEvents json))
    (h : ev.find? "sender" = some (.string sender)) :
    match addCondition re2 rule cond with
    | some rule' =>
      rule'.applies re2 ev ctx (relatedFlat related) sender =
          (rule.applies re2 ev ctx (relatedFlat related) sender &&
            cond.holds re2 ev ctx related) ∧
        rule'.actions = rule.actions
    | none => cond.holds re2 ev ctx related = false := by
  rw [addCondition, PushCondition.holds]
  by_cases hmatch : cond.kind = "event_match"
  · rw [if_pos hmatch, if_pos hmatch]
    refine ⟨?_, rfl⟩
    simp only [OptimizedRule.applies, List.all_append, List.all_cons, List.all_nil, Bool.and_true,
      patternCondition_matches]
    ac_rfl
  rw [if_neg hmatch, if_neg hmatch]
  by_cases his : cond.kind = "event_property_is"
  · rw [if_pos his]
    cases hv : cond.value with
    | some v =>
      rw [if_pos ⟨his, rfl⟩]
      refine ⟨?_, rfl⟩
      simp only [OptimizedRule.applies, List.all_append, List.all_cons, List.all_nil,
        Bool.and_true, Option.getD_some, isCondition_matches]
      ac_rfl
    | none => simp [his]
  rw [if_neg his, if_neg fun h ↦ his h.1]
  by_cases hcontains : cond.kind = "event_property_contains"
  · rw [if_pos hcontains]
    cases hv : cond.value with
    | some v =>
      rw [if_pos ⟨hcontains, rfl⟩]
      refine ⟨?_, rfl⟩
      simp only [OptimizedRule.applies, List.all_append, List.all_cons, List.all_nil,
        Bool.and_true, Option.getD_some, containsCondition_matches]
      ac_rfl
    | none => simp [hcontains]
  rw [if_neg hcontains, if_neg fun h ↦ hcontains h.1]
  by_cases hrelated : cond.kind = "im.nheko.msc3664.related_event_match"
  · rw [if_pos hrelated, if_pos hrelated]
    by_cases ht : cond.rel_type ≠ .unsupported
    · rw [if_pos ht, decide_eq_true ht]
      refine ⟨?_, rfl⟩
      simp only [OptimizedRule.applies, List.all_append, List.all_cons, List.all_nil,
        Bool.and_true, Bool.true_and, relatedCondition_matches re2 cond related ht]
      ac_rfl
    · rw [if_neg ht, decide_eq_false ht]
      rfl
  rw [if_neg hrelated, if_neg hrelated]
  by_cases hname : cond.kind = "contains_display_name"
  · rw [if_pos hname, if_pos hname]
    refine ⟨?_, rfl⟩
    simp only [OptimizedRule.applies]
    -- a second condition of this kind tests the same as the first
    cases rule.check_displayname
    · simp only [Bool.not_false, Bool.not_true, Bool.true_or, Bool.false_or, Bool.and_true]
      ac_rfl
    · cases displaynameMatches re2 ev ctx <;> simp
  rw [if_neg hname, if_neg hname]
  by_cases hcount : cond.kind = "room_member_count"
  · rw [if_pos hcount, if_pos hcount]
    refine ⟨?_, rfl⟩
    simp only [OptimizedRule.applies, List.all_append, List.all_cons, List.all_nil, Bool.and_true]
    ac_rfl
  rw [if_neg hcount, if_neg hcount]
  by_cases hlevel : cond.kind = "sender_notification_permission"
  · rw [if_pos hlevel, if_pos hlevel]
    refine ⟨?_, rfl⟩
    rw [senderMayNotify, h]
    simp only [OptimizedRule.applies, List.all_append, List.all_cons, List.all_nil, Bool.and_true]
    ac_rfl
  rw [if_neg hlevel, if_neg hlevel]

/-- **Compiling all conditions of a rule.** -/
theorem foldlM_addCondition_spec (ctx : RoomContext) (conditions : List PushCondition)
    (rule : OptimizedRule) (related : List (Relation × TimelineEvents json))
    (h : ev.find? "sender" = some (.string sender)) :
    match conditions.foldlM (addCondition re2) rule with
    | some rule' =>
      rule'.applies re2 ev ctx (relatedFlat related) sender =
          (rule.applies re2 ev ctx (relatedFlat related) sender &&
            conditions.all (·.holds re2 ev ctx related)) ∧
        rule'.actions = rule.actions
    | none => conditions.all (·.holds re2 ev ctx related) = false := by
  induction conditions generalizing rule with
  | nil => exact ⟨(Bool.and_true _).symm, rfl⟩
  | cons cond conditions ih =>
    have hstep := addCondition_spec re2 ctx rule cond related h
    rw [List.foldlM_cons, List.all_cons]
    cases hc : addCondition re2 rule cond with
    | none =>
      rw [hc] at hstep
      exact Bool.and_eq_false_iff.mpr (Or.inl hstep)
    | some rule' =>
      rw [hc] at hstep
      have hrest := ih rule'
      rw [Option.bind_eq_bind, Option.bind_some]
      cases hf : conditions.foldlM (addCondition re2) rule' with
      | none =>
        rw [hf] at hrest
        exact Bool.and_eq_false_iff.mpr (Or.inr hrest)
      | some rule'' =>
        rw [hf] at hrest
        exact ⟨by rw [hrest.1, hstep.1, Bool.and_assoc], hrest.2.trans hstep.2⟩

theorem addConditionsToRule_spec (ctx : RoomContext) (mentions : Bool) (actions : List Action)
    (conditions : List PushCondition) (rule_id : Str)
    (related : List (Relation × TimelineEvents json))
    (h : ev.find? "sender" = some (.string sender)) :
    match addConditionsToRule re2 mentions { actions } conditions rule_id with
    | some rule =>
      rule.applies re2 ev ctx (relatedFlat related) sender =
          (!(mentions && isReplacedByMentions rule_id &&
              (ev.find? "content.m\\.mentions").isSome) &&
            conditions.all (·.holds re2 ev ctx related)) ∧
        rule.actions = actions
    | none => conditions.all (·.holds re2 ev ctx related) = false := by
  rw [addConditionsToRule]
  cases hm : mentions && isReplacedByMentions rule_id with
  | true =>
    have hspec := foldlM_addCondition_spec re2 ctx conditions
      { actions, no_mentions_field := true } related h
    have hinit : ({ actions, no_mentions_field := true } : OptimizedRule).applies re2 ev ctx
        (relatedFlat related) sender =
          !(ev.find? "content.m\\.mentions").isSome := by
      simp [OptimizedRule.applies]
    rw [hinit] at hspec
    exact hspec
  | false =>
    have hspec := foldlM_addCondition_spec re2 ctx conditions { actions } related h
    have hinit : ({ actions } : OptimizedRule).applies re2 ev ctx (relatedFlat related) sender =
        true := by
      simp [OptimizedRule.applies]
    rw [hinit] at hspec
    exact hspec

/-! ## Compiling a rule set -/

section

variable (mentions : Bool) {event : TimelineEvents json} (ctx : RoomContext)
  (related : List (Relation × TimelineEvents json))

/-- An optimised rule answers for the event like the rule it was compiled from. -/
def AnswersLike (event : TimelineEvents json) (kind : RuleKind) (rule : PushRule) :
    Option OptimizedRule → Prop
  | some r =>
    r.applies re2 (flattened event) ctx (relatedFlat related) event.envelope.sender =
        applies re2 mentions event ctx related (kind, rule) ∧
      r.actions = rule.actions
  | none => applies re2 mentions event ctx related (kind, rule) = false

theorem compileConditional_answersLike (hevent : event.Writable) {kind : RuleKind}
    (hkind : kind = .override ∨ kind = .underride) (rule : PushRule) :
    AnswersLike re2 mentions ctx related event kind rule
      (compileConditional re2 mentions rule) := by
  have happlies : applies re2 mentions event ctx related (kind, rule) =
      (rule.enabled && !yieldsToMentions mentions rule (flattened event) &&
        rule.conditions.all (·.holds re2 (flattened event) ctx related)) := by
    rcases hkind with rfl | rfl <;> rfl
  rw [compileConditional]
  cases hen : rule.enabled with
  | false => exact happlies.trans (by rw [hen]; rfl)
  | true =>
    have hspec := addConditionsToRule_spec re2 ctx mentions rule.actions rule.conditions
      rule.rule_id related (find?_sender_flattened hevent)
    rw [hen, Bool.true_and] at happlies
    simp only [Bool.not_true, Bool.false_eq_true, if_false]
    cases hc : addConditionsToRule re2 mentions { actions := rule.actions } rule.conditions
        rule.rule_id with
    | none =>
      rw [hc] at hspec
      exact happlies.trans (Bool.and_eq_false_iff.mpr (Or.inr hspec))
    | some r =>
      rw [hc] at hspec
      exact ⟨hspec.1.trans happlies.symm, hspec.2⟩

theorem compileContent_answersLike (hevent : event.Writable) (rule : PushRule) :
    AnswersLike re2 mentions ctx related event .content rule
      (compileContent re2 mentions rule) := by
  have happlies : applies re2 mentions event ctx related (.content, rule) =
      (rule.enabled && !yieldsToMentions mentions rule (flattened event) &&
        (!rule.pattern.isEmpty &&
          eventMatch re2 "content.body" rule.pattern (flattened event))) := rfl
  rw [compileContent]
  cases hen : rule.enabled with
  | false => exact happlies.trans (by rw [hen]; rfl)
  | true =>
    cases hp : rule.pattern.isEmpty with
    | true => exact happlies.trans (by rw [hp]; simp)
    | false =>
      have hspec := addConditionsToRule_spec re2 ctx mentions rule.actions
        [{ kind := "event_match", key := "content.body", pattern := rule.pattern }] rule.rule_id
        related (find?_sender_flattened hevent)
      rw [hen, hp, Bool.true_and, Bool.not_false, Bool.true_and] at happlies
      have hholds : [({ kind := "event_match", key := "content.body", pattern := rule.pattern } :
            PushCondition)].all (·.holds re2 (flattened event) ctx related) =
          eventMatch re2 "content.body" rule.pattern (flattened event) := by
        rw [List.all_cons, List.all_nil, Bool.and_true, PushCondition.holds, if_pos rfl]
      simp only [Bool.not_true, Bool.false_eq_true, if_false]
      rw [hholds] at hspec
      cases hc : addConditionsToRule re2 mentions { actions := rule.actions }
          [{ kind := "event_match", key := "content.body", pattern := rule.pattern }]
          rule.rule_id with
      | none =>
        rw [hc] at hspec
        exact happlies.trans (Bool.and_eq_false_iff.mpr (Or.inr hspec))
      | some r =>
        rw [hc] at hspec
        exact ⟨hspec.1.trans happlies.symm, hspec.2⟩

/-- Evaluating compiled rules is evaluating the rules they were compiled from. -/
theorem firstMatch_eq_ok (hevent : event.Writable) (kind : RuleKind)
    (compile : PushRule → Option OptimizedRule) (rules : List PushRule)
    (h : ∀ rule, AnswersLike re2 mentions ctx related event kind rule (compile rule)) :
    firstMatch re2 (rules.filterMap compile) (flattened event) ctx
        (relatedFlat related) =
      .ok (DecisionList.answer? (applies re2 mentions event ctx related) (·.2.actions)
        (rules.map (kind, ·))) := by
  have htest : ∀ r ∈ rules.filterMap compile,
      r.matches re2 (flattened event) ctx (relatedFlat related) =
        .ok (r.applies re2 (flattened event) ctx (relatedFlat related)
          event.envelope.sender) := fun r _ ↦ matches_eq_ok re2 r _ (find?_sender_flattened hevent)
  rw [firstMatch, DecisionList.answerM?_eq_ok _ htest, DecisionList.answer?_map,
    DecisionList.answer?_filterMap compile rules]
  intro rule _
  have hrule := h rule
  cases hc : compile rule with
  | none => rw [hc] at hrule; exact hrule
  | some r => rw [hc] at hrule; exact hrule

/-- The ids of room and sender rules are none of those that give way to `m.mentions`. -/
theorem isReplacedByMentions_of_startsWith {sigil rule_id : Str}
    (hsigil : sigil = "!" ∨ sigil = "@") (h : rule_id.startsWith sigil = true) :
    isReplacedByMentions rule_id = false := by
  by_contra hr
  rw [Bool.not_eq_false, isReplacedByMentions, Bool.or_eq_true, Bool.or_eq_true, beq_iff_eq,
    beq_iff_eq, beq_iff_eq] at hr
  rcases hsigil with rfl | rfl <;> rcases hr with (rfl | rfl) | rfl <;> revert h <;> decide

/-- Looking up a room or sender rule is evaluating the rules of that kind. -/
theorem find?_compileKeyed (event : TimelineEvents json) {kind : RuleKind} {sigil k : Str}
    (hkind : kind = .room ∧ sigil = "!" ∧ k = event.envelope.room_id ∨
      kind = .sender ∧ sigil = "@" ∧ k = event.envelope.sender)
    (rules : List PushRule) (hids : (rules.map (·.rule_id)).Nodup) :
    ((compileKeyed sigil rules).find? k).map (·.actions) =
      DecisionList.answer? (applies re2 mentions event ctx related) (·.2.actions)
        (rules.map (kind, ·)) := by
  have happlies : ∀ rule : PushRule, applies re2 mentions event ctx related (kind, rule) =
      (rule.enabled && !yieldsToMentions mentions rule (flattened event) &&
        (rule.rule_id.startsWith sigil && decide (rule.rule_id = k))) := by
    intro rule
    rcases hkind with ⟨rfl, rfl, rfl⟩ | ⟨rfl, rfl, rfl⟩ <;> rfl
  have hsigil : sigil = "!" ∨ sigil = "@" := hkind.imp (·.2.1) (·.2.1)
  rw [compileKeyed, DecisionList.find?_indexBy rules hids, DecisionList.answer?,
    Option.map_map, DecisionList.answer?_map]
  refine DecisionList.answer?_congr rules fun rule _ ↦ ?_
  rw [happlies, yieldsToMentions]
  cases hs : rule.rule_id.startsWith sigil with
  | false => simp
  | true =>
    rw [isReplacedByMentions_of_startsWith hsigil hs, Bool.and_false, Bool.false_and,
      Bool.not_false, Bool.and_true, Bool.true_and]
    congr

end

/-! ## The evaluator -/

theorem value_room_id {event : TimelineEvents json} {event_json : Json}
    (h : event.toJson = .ok event_json) :
    event_json.value "room_id" Json.getString "" = .ok event.envelope.room_id := by
  obtain ⟨m, rfl, -, hsender, hroom⟩ := TimelineEvents.find?_of_toJson h
  have hobj : (Json.ofMembers m).isObject = true :=
    Json.isObject_of_find? ((Json.find?_ofMembers m _).trans hsender)
  have hfind := (Json.find?_ofMembers m "room_id").trans hroom
  cases hr : event.envelope.room_id.isEmpty with
  | true =>
    rw [hr] at hfind
    rw [Json.value_of_find?_none hobj hfind, List.isEmpty_iff.mp hr]
    rfl
  | false =>
    rw [hr] at hfind
    rw [Json.value_of_find? hfind]
    rfl

theorem value_sender {event : TimelineEvents json} {event_json : Json}
    (h : event.toJson = .ok event_json) :
    event_json.value "sender" Json.getString "" = .ok event.envelope.sender := by
  obtain ⟨m, rfl, -, hsender, -⟩ := TimelineEvents.find?_of_toJson h
  rw [Json.value_of_find? ((Json.find?_ofMembers m _).trans hsender)]
  rfl

/-- Once the events are written, the rules are tried in order. -/
theorem evaluate_of_writable (rules : Ruleset) {event : TimelineEvents json} (ctx : RoomContext)
    {related : List (Relation × TimelineEvents json)}
    (hroom : (rules.room.map (·.rule_id)).Nodup) (hsender : (rules.sender.map (·.rule_id)).Nodup)
    (hevent : event.Writable)
    (hrelated : ∀ r ∈ related, r.1.rel_type ≠ .unsupported → r.2.Writable) :
    (PushRuleEvaluator.new re2 rules).evaluate re2 event ctx related =
      .ok (rules.reference re2 event ctx related) := by
  have hoverride := firstMatch_eq_ok re2 rules.serverSupportsMentions ctx related hevent .override
    (compileConditional re2 rules.serverSupportsMentions) rules.override_
    (compileConditional_answersLike re2 _ ctx related hevent (Or.inl rfl))
  have hcontent := firstMatch_eq_ok re2 rules.serverSupportsMentions ctx related hevent .content
    (compileContent re2 rules.serverSupportsMentions) rules.content
    (compileContent_answersLike re2 _ ctx related hevent)
  have hunderride := firstMatch_eq_ok re2 rules.serverSupportsMentions ctx related hevent .underride
    (compileConditional re2 rules.serverSupportsMentions) rules.underride
    (compileConditional_answersLike re2 _ ctx related hevent (Or.inr rfl))
  have hroom := find?_compileKeyed re2 rules.serverSupportsMentions ctx related event
    (Or.inl ⟨rfl, rfl, rfl⟩) rules.room hroom
  have hsender := find?_compileKeyed re2 rules.serverSupportsMentions ctx related event
    (Or.inr ⟨rfl, rfl, rfl⟩) rules.sender hsender
  obtain ⟨event_json, hjson⟩ := event.succeeds_toJson_iff.mpr hevent
  have hflat : flattenRelated related = .ok (relatedFlat related) :=
    foldlM_add_eq_ok_iff.mpr ⟨hrelated, rfl⟩
  rw [Ruleset.reference, Ruleset.inOrder]
  simp only [DecisionList.answer?_append, ← hroom, ← hsender]
  rw [flattened_of_toJson hjson] at hoverride hcontent hunderride
  simp only [PushRuleEvaluator.evaluate, PushRuleEvaluator.new, hjson, hflat, hoverride, hcontent,
    hunderride, value_room_id hjson, value_sender hjson, ok_bind]
  generalize DecisionList.answer? _ _ (rules.override_.map _) = overriding
  generalize DecisionList.answer? _ _ (rules.content.map _) = ofContent
  generalize DecisionList.answer? _ _ (rules.underride.map _) = underriding
  cases overriding with
  | some actions => rfl
  | none =>
    cases ofContent with
    | some actions => rfl
    | none =>
      cases (compileKeyed "!" rules.room).find? event.envelope.room_id with
      | some rule => rfl
      | none =>
        cases (compileKeyed "@" rules.sender).find? event.envelope.sender with
        | some rule => rfl
        | none => cases underriding <;> rfl

/-- **The evaluator answers what the rule set means** for exactly the events that can be written,
with related events that can. -/
theorem evaluate_new_eq_reference_iff (rules : Ruleset) (event : TimelineEvents json)
    (ctx : RoomContext) (related : List (Relation × TimelineEvents json))
    (hroom : (rules.room.map (·.rule_id)).Nodup) (hsender : (rules.sender.map (·.rule_id)).Nodup) :
    (PushRuleEvaluator.new re2 rules).evaluate re2 event ctx related =
        .ok (rules.reference re2 event ctx related) ↔
      event.Writable ∧ ∀ r ∈ related, r.1.rel_type ≠ .unsupported → r.2.Writable := by
  constructor
  · intro h
    obtain ⟨event_json, hjson, h⟩ := bind_eq_ok_iff.mp h
    obtain ⟨flat, hflat, -⟩ := bind_eq_ok_iff.mp h
    exact ⟨event.succeeds_toJson_iff.mp ⟨event_json, hjson⟩, (foldlM_add_eq_ok_iff.mp hflat).1⟩
  · rintro ⟨hevent, hrelated⟩
    exact evaluate_of_writable re2 rules ctx hroom hsender hevent hrelated

/-! ## An example -/

/-- RE2 on expressions that consist of letters only, where case does not matter. -/
def lettersRe2 : Re2 where
  quoteMeta s := s
  globalReplace s _ _ := s
  fullMatch text re := text == re.pattern
  partialMatch text re := text.tails.any re.pattern.isPrefixOf

/-- Highlights invitations, mutes one room and notifies about one sender. -/
def sampleRules : Ruleset where
  override_ := [{
    actions := [.notify, .setTweakHighlight true]
    rule_id := ".m.rule.invite_for_me"
    conditions := [{ kind := "event_match", key := "content.membership", pattern := "invite" }] }]
  room := [{ actions := [.dont_notify], rule_id := "!noisy:example.org" }]
  sender := [
    { actions := [.notify], rule_id := "@alice:example.org" },
    { enabled := false, actions := [.notify], rule_id := "@bob:example.org" }]

/-- Alice joins a room. -/
def aliceJoins : StateEvent Member where
  type := .roomMember
  sender := "@alice:example.org"
  content := {}
  event_id := "$join"
  room_id := "!quiet:example.org"
  origin_server_ts := 1
  unsigned_data := {}
  state_key := "@alice:example.org"

/-- A room without a display name of the user. -/
def sampleContext : RoomContext where
  user_display_name := ""
  member_count := 2
  power_levels := {}
  create := {
    type := .roomCreate, sender := "@alice:example.org", content := {}, event_id := "$create"
    room_id := "!quiet:example.org", origin_server_ts := 0, unsigned_data := {}, state_key := "" }

/-- The event of Alice, as it stands in a timeline. -/
def aliceInTimeline : TimelineEvents (knownTexts []) := .state .member aliceJoins

/-- The sender rule for Alice applies to her event. -/
theorem evaluate_sampleRules :
    (PushRuleEvaluator.new lettersRe2 sampleRules).evaluate lettersRe2 aliceInTimeline
        sampleContext [] =
      .ok (sampleRules.reference lettersRe2 aliceInTimeline sampleContext []) ∧
    sampleRules.reference lettersRe2 aliceInTimeline sampleContext [] = [.notify] :=
  ⟨(evaluate_new_eq_reference_iff lettersRe2 sampleRules aliceInTimeline sampleContext []
    (by decide) (by decide)).mpr ⟨trivial, by simp⟩, by decide⟩

/-- A reply that is listed, beside a text in `m.relates_to`. -/
def strayText : Json := .object [
  ("body", .string "hello"),
  ("im.nheko.relations.v1.relations", .array [.object [
    ("event_id", .string "$1"),
    ("rel_type", .string "m.in_reply_to")]]),
  ("m.relates_to", .string "oops"),
  ("msgtype", .string "like.its.1999")]

/-- Alice sends it as a message. -/
def strayMessage : Json := .object [
  ("content", strayText),
  ("event_id", .string "$2"),
  ("origin_server_ts", .numberUnsigned 1),
  ("sender", .string "@alice:example.org"),
  ("type", .string "m.room.message")]

/-- The sender rule for Alice should apply to her message, but there is no answer at all. -/
theorem evaluate_strayMessage :
    ∃ x : TimelineEvents (knownTexts [strayText]),
      TimelineEvents.fromJson _ strayMessage (.state .member aliceJoins) = .ok x ∧
      sampleRules.reference lettersRe2 x sampleContext [] = [.notify] ∧
      (PushRuleEvaluator.new lettersRe2 sampleRules).evaluate lettersRe2 x sampleContext [] =
        .error (.jsonTypeError 305) :=
  ⟨_, rfl, by decide, by decide⟩

end Mtx.PushRules
