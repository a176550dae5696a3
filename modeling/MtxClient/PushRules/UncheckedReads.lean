import MtxClient.Json.Undefined
import MtxClient.PushRules.ReadActions

/-!
# Members of push rules that are read unchecked

The kind of a condition, the list of `Actions` and the global rule set are read with `operator[]`
without asking for them first.  Everything else is asked for, or has a default.  The lemmas say what
of a rule set has to be read before it comes to such a member: `WellFormedRule` and its parts are
what reads without an exception.
-/

set_option autoImplicit false

namespace Mtx.PushRules

open Str Events

/-! ## What is read -/

/-- The value of a tweak fits its name. -/
def WellFormedAction (j : Json) : Prop :=
  (j.find? "set_tweak" = some (.string "sound") → StringOrAbsent j "value") ∧
    (j.find? "set_tweak" = some (.string "highlight") → BoolOrAbsent j "value")

/-- A condition with a kind. -/
structure WellFormedCondition (j : Json) : Prop where
  kind : ∃ s, j.find? "kind" = some (.string s)
  key : StringOrAbsent j "key"
  pattern : StringOrAbsent j "pattern"
  is : StringOrAbsent j "is"
  rel_type : StringOrAbsent j "rel_type"
  include_fallback : BoolOrAbsent j "include_fallback"

/-- All elements of a list, if it is there. -/
def AllElements (good : Json → Prop) (j : Json) (key : Str) : Prop :=
  ∀ list, j.find? key = some list → ∀ x ∈ list.elements, good x

/-- What of a rule is read before its conditions. -/
structure WellFormedHead (j : Json) : Prop where
  isObject : j.isObject = true
  rule_id : StringOrAbsent j "rule_id"
  default_ : BoolOrAbsent j "default"
  enabled : BoolOrAbsent j "enabled"
  actions : AllElements WellFormedAction j "actions"
  pattern : StringOrAbsent j "pattern"

/-- A rule. -/
def WellFormedRule (j : Json) : Prop :=
  WellFormedHead j ∧ AllElements WellFormedCondition j "conditions"

theorem succeeds_value_string_iff {j : Json} {k : Str} {d : Str} :
    Succeeds (j.value k Json.getString d) ↔ j.isObject = true ∧ StringOrAbsent j k := by
  rw [Json.succeeds_value_iff, ← succeeds_optional_string_iff (d := d), Json.succeeds_optional_iff]

theorem succeeds_value_boolean_iff {j : Json} {k : Str} {d : Bool} :
    Succeeds (j.value k Json.getBool d) ↔ j.isObject = true ∧ BoolOrAbsent j k := by
  rw [Json.succeeds_value_iff, ← succeeds_optional_bool_iff (d := d), Json.succeeds_optional_iff]

theorem succeeds_toNonCompoundJsonValue (j : Json) : Succeeds (toNonCompoundJsonValue j) := by
  rcases j with - | b | i | u | f | s | xs | ms <;> exact ⟨_, rfl⟩

theorem succeeds_action_iff (j : Json) : Succeeds (Action.fromJson j) ↔ WellFormedAction j := by
  rcases htweak : j.find? "set_tweak" with - | tweak
  · have hfromJson : Succeeds (Action.fromJson j) := by
      rcases j with - | b | i | u | f | s | xs | ms
      case object => exact ⟨_, Action.fromJson_of_find?_none rfl htweak⟩
      all_goals exact ⟨_, rfl⟩
    refine iff_of_true hfromJson ⟨?_, ?_⟩ <;>
      · rw [htweak]
        exact nofun
  · have hobj := Json.isObject_of_find? htweak
    rw [Action.fromJson_of_find? htweak, WellFormedAction, htweak]
    split_ifs with h1 h2
    · rw [eqString_iff] at h1
      simp [h1, succeeds_value_string_iff, hobj]
    · rw [eqString_iff] at h2
      simp [h2, succeeds_value_boolean_iff, hobj]
    · rw [eqString_iff] at h1 h2
      simp [h1, h2]

theorem succeeds_condition_iff (j : Json) :
    Succeeds (PushCondition.fromJson j) ↔ WellFormedCondition j := by
  by_cases hkind : ∃ s, j.find? "kind" = some (.string s)
  · obtain ⟨s, hkind⟩ := hkind
    have hobj := Json.isObject_of_find? hkind
    have hrel : Succeeds (j.value "rel_type" RelationType.fromJson .unsupported) ↔
        StringOrAbsent j "rel_type" := by
      simp only [Json.succeeds_value_iff, hobj, RelationType.fromJson, succeeds_map_iff,
        Json.succeeds_getString_iff, StringOrAbsent, true_and]
    have hvalue : Succeeds (j.optional "value" toNonCompoundJsonValue none) :=
      Json.succeeds_optional_iff.mpr fun v _ ↦ succeeds_toNonCompoundJsonValue v
    simp only [PushCondition.fromJson, Json.index_of_find? hkind, ok_bind, Json.getString_string,
      succeeds_bind_iff, succeeds_pure, and_true, exists_and_right, exists_eq_ok_iff, hrel, hvalue,
      succeeds_value_string_iff, succeeds_value_boolean_iff, hobj, true_and]
    constructor
    · rintro ⟨hkey, hpattern, his, hrel, hfallback⟩
      exact ⟨⟨s, hkind⟩, hkey, hpattern, his, hrel, hfallback⟩
    · rintro ⟨-, hkey, hpattern, his, hrel, hfallback⟩
      exact ⟨hkey, hpattern, his, hrel, hfallback⟩
  · refine iff_of_false ?_ fun h ↦ hkind h.kind
    intro h
    obtain ⟨v, hv, h⟩ := succeeds_bind_iff.mp h
    obtain ⟨s, hs, -⟩ := succeeds_bind_iff.mp h
    obtain rfl := Json.getString_eq_ok_iff.mp hs
    exact hkind ⟨s, Json.index_eq_ok_iff.mp hv⟩

theorem succeeds_readList_iff {α : Type} {get : Json → Except Exn α} {good : Json → Prop}
    (h : ∀ x, Succeeds (get x) ↔ good x) {j : Json} {key : Str} :
    Succeeds (readList j key get) ↔ AllElements good j key := by
  simp only [readList, Json.succeeds_optional_iff, succeeds_mapM_iff, h, AllElements]

theorem succeeds_rule_iff (j : Json) : Succeeds (PushRule.fromJson j) ↔ WellFormedRule j := by
  simp only [PushRule.fromJson, succeeds_bind_iff, succeeds_pure, and_true, exists_and_right,
    exists_eq_ok_iff, succeeds_value_string_iff, succeeds_value_boolean_iff,
    succeeds_readList_iff succeeds_action_iff, succeeds_readList_iff succeeds_condition_iff]
  constructor
  · rintro ⟨⟨hobj, hid⟩, ⟨-, hdefault⟩, ⟨-, henabled⟩, hactions, ⟨-, hpattern⟩, hconditions⟩
    exact ⟨⟨hobj, hid, hdefault, henabled, hactions, hpattern⟩, hconditions⟩
  · rintro ⟨⟨hobj, hid, hdefault, henabled, hactions, hpattern⟩, hconditions⟩
    exact ⟨⟨hobj, hid⟩, ⟨hobj, hdefault⟩, ⟨hobj, henabled⟩, hactions, ⟨hobj, hpattern⟩,
      hconditions⟩

/-! ## What is read unchecked -/

section

variable (lacks : Json → Str → Prop)

/-- Reading the rule comes to a condition without a kind. -/
def RuleLacks (j : Json) : Prop :=
  WellFormedHead j ∧ ∃ list, j.find? "conditions" = some list ∧
    Reaches WellFormedCondition (lacks · "kind") list.elements

/-- The lists of a rule set, in the order in which they are read. -/
def rulesetKeys : List Str := ["override", "content", "room", "sender", "underride"]

/-- Reading the rule set comes to a condition without a kind. -/
def RulesetLacks (j : Json) : Prop :=
  Reaches (AllElements WellFormedRule j)
    (fun key ↦ ∃ list, j.find? key = some list ∧
      Reaches WellFormedRule (RuleLacks lacks) list.elements) rulesetKeys

/-- There is no global rule set, or reading it comes to a condition without a kind. -/
def GlobalLacks (j : Json) : Prop :=
  lacks j "global" ∨ ∃ set, j.find? "global" = some set ∧ RulesetLacks lacks set

end

variable {bad : Exn → Prop} {lacks : Json → Str → Prop} (h : Detects bad lacks)

theorem not_raises_toNonCompoundJsonValue (j : Json) :
    ¬ Raises bad (toNonCompoundJsonValue j) := by
  obtain ⟨v, hv⟩ := succeeds_toNonCompoundJsonValue j
  rw [hv]
  exact not_raises_ok v

include h

theorem raises_condition_iff (j : Json) :
    Raises bad (PushCondition.fromJson j) ↔ lacks j "kind" := by
  have hstring : ∀ k, ¬ Raises bad (j.value k Json.getString "") := fun k ↦
    Json.not_raises_value h fun _ ↦ Json.not_raises_getString h
  have hrel : ¬ Raises bad (j.value "rel_type" RelationType.fromJson .unsupported) :=
    Json.not_raises_value h fun v ↦ by
      rw [RelationType.fromJson, raises_map_iff]
      exact Json.not_raises_getString h
  rw [PushCondition.fromJson, raises_bind_iff_of_not, h.index_iff]
  -- only the kind is read unchecked
  exact fun _ ↦ not_raises_bind (Json.not_raises_getString h) fun _ ↦
    not_raises_bind (hstring _) fun _ ↦ not_raises_bind (hstring _) fun _ ↦
      not_raises_bind (hstring _) fun _ ↦ not_raises_bind hrel fun _ ↦
        not_raises_bind (Json.not_raises_value h fun _ ↦ Json.not_raises_getBool h) fun _ ↦
          not_raises_bind (Json.not_raises_optional not_raises_toNonCompoundJsonValue) fun _ ↦
            not_raises_pure _

/-- A tweak is asked for before it is read. -/
theorem not_raises_action (j : Json) : ¬ Raises bad (Action.fromJson j) := by
  rcases htweak : j.find? "set_tweak" with - | tweak
  · obtain ⟨a, ha⟩ := (succeeds_action_iff j).mpr (by constructor <;> (rw [htweak]; exact nofun))
    rw [ha]
    exact not_raises_ok a
  · rw [Action.fromJson_of_find? htweak]
    split_ifs
    · rw [raises_map_iff]
      exact Json.not_raises_value h fun _ ↦ Json.not_raises_getString h
    · rw [raises_map_iff]
      exact Json.not_raises_value h fun _ ↦ Json.not_raises_getBool h
    · exact not_raises_ok _

theorem raises_actions_iff (j : Json) :
    Raises bad (Actions.fromJson j) ↔ lacks j "actions" := by
  rw [Actions.fromJson, raises_bind_iff_of_not, h.index_iff]
  exact fun _ ↦ not_raises_bind (Json.not_raises_getArray h (not_raises_action h)) fun _ ↦
    not_raises_pure _

omit h in
theorem raises_readList_iff {α : Type} {get : Json → Except Exn α} {good p : Json → Prop}
    (hgood : ∀ x, Succeeds (get x) ↔ good x) (hp : ∀ x, Raises bad (get x) ↔ p x) {j : Json}
    {key : Str} : Raises bad (readList j key get) ↔
      ∃ list, j.find? key = some list ∧ Reaches good p list.elements := by
  simp only [readList, Json.raises_optional_iff, raises_mapM_iff hp, comesTo_iff_reaches hgood]

theorem raises_rule_iff (j : Json) : Raises bad (PushRule.fromJson j) ↔ RuleLacks lacks j := by
  have hstring : ∀ k, ¬ Raises bad (j.value k Json.getString "") := fun k ↦
    Json.not_raises_value h fun _ ↦ Json.not_raises_getString h
  have hbool : ∀ k d, ¬ Raises bad (j.value k Json.getBool d) := fun k d ↦
    Json.not_raises_value h fun _ ↦ Json.not_raises_getBool h
  have hactions : ¬ Raises bad (readList j "actions" Action.fromJson) :=
    Json.not_raises_optional fun list ↦ not_raises_mapM (not_raises_action h) list.elements
  -- the conditions are read last
  have hconditions : ∀ f : List PushCondition → PushRule,
      Raises bad (do return f (← readList j "conditions" PushCondition.fromJson)) ↔
        ∃ list, j.find? "conditions" = some list ∧
          Reaches WellFormedCondition (lacks · "kind") list.elements := fun f ↦ by
    rw [raises_bind_iff_of_not fun _ ↦ not_raises_pure _]
    exact raises_readList_iff succeeds_condition_iff (raises_condition_iff h)
  rw [PushRule.fromJson, raises_bind_iff_and (hstring _) fun _ ↦
    raises_bind_iff_and (hbool _ _) fun _ ↦ raises_bind_iff_and (hbool _ _) fun _ ↦
      raises_bind_iff_and hactions fun _ ↦ raises_bind_iff_and (hstring _) fun _ ↦ hconditions _]
  simp only [succeeds_value_string_iff, succeeds_value_boolean_iff,
    succeeds_readList_iff succeeds_action_iff]
  constructor
  · rintro ⟨⟨hobj, hid⟩, ⟨-, hdefault⟩, ⟨-, henabled⟩, hactions, ⟨-, hpattern⟩, hlist⟩
    exact ⟨⟨hobj, hid, hdefault, henabled, hactions, hpattern⟩, hlist⟩
  · rintro ⟨⟨hobj, hid, hdefault, henabled, hactions, hpattern⟩, hlist⟩
    exact ⟨⟨hobj, hid⟩, ⟨hobj, hdefault⟩, ⟨hobj, henabled⟩, hactions, ⟨hobj, hpattern⟩, hlist⟩

theorem raises_ruleset_iff (j : Json) :
    Raises bad (Ruleset.fromJson j) ↔ RulesetLacks lacks j := by
  have hlist : ∀ key, Raises bad (readList j key PushRule.fromJson) ↔
      ∃ list, j.find? key = some list ∧
        Reaches WellFormedRule (RuleLacks lacks) list.elements := fun key ↦
    raises_readList_iff succeeds_rule_iff (raises_rule_iff h)
  rw [Ruleset.fromJson, raises_bind_iff_or fun _ ↦ raises_bind_iff_or fun _ ↦
    raises_bind_iff_or fun _ ↦ raises_bind_iff_or fun _ ↦
      raises_bind_iff_of_not fun _ ↦ not_raises_pure _]
  simp only [hlist, succeeds_readList_iff succeeds_rule_iff, RulesetLacks, rulesetKeys,
    reaches_cons_iff, not_reaches_nil, and_false, or_false]

theorem raises_global_iff (j : Json) :
    Raises bad (GlobalRuleset.fromJson j) ↔ GlobalLacks lacks j := by
  rw [GlobalRuleset.fromJson, raises_bind_iff, h.index_iff, GlobalLacks]
  simp only [Json.index_eq_ok_iff, raises_bind_iff_of_not fun _ ↦ not_raises_pure _,
    raises_ruleset_iff h]

end Mtx.PushRules
