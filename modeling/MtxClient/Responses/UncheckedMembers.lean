import MtxClient.Http.Errors
import MtxClient.PushRules.UncheckedReads
import MtxClient.Responses.Common

/-!
# Members that are read unchecked

A server may send any JSON.  A handler catches what a reader throws, but not the undefined behaviour
of `operator[]` on a constant object without the member.  `members_checked_iff` says for push rules
and for the data of user-interactive authentication which values come to such an access, and what
this means for account data and for errors.
-/

set_option autoImplicit false

namespace Mtx.Responses

open Str Events Http PushRules

/-! ## Authentication data that is read -/

/-- An array of strings. -/
def IsStrings (j : Json) : Prop := ∃ xs, j = .array xs ∧ ∀ x ∈ xs, ∃ s, x = .string s

/-- A flow with stages. -/
def WellFormedFlow (j : Json) : Prop := ∃ stages, j.find? "stages" = some stages ∧ IsStrings stages

/-- The description of a policy. -/
structure WellFormedDescription (j : Json) : Prop where
  isObject : j.isObject = true
  name : StringOrAbsent j "name"
  url : StringOrAbsent j "url"

/-- A policy with a version. -/
structure WellFormedPolicy (j : Json) : Prop where
  version : ∃ s, j.find? "version" = some (.string s)
  langs : ∀ e ∈ j.items, e.1 ≠ lit "version" → WellFormedDescription e.2

/-- Terms with policies. -/
def WellFormedTerms (j : Json) : Prop :=
  ∃ policies, j.find? "policies" = some (.object policies) ∧ ∀ e ∈ policies, WellFormedPolicy e.2

/-- The parameters of a stage, by its name. -/
def WellFormedParams (e : Str × Json) : Prop :=
  if e.1 = lit "m.login.terms" then WellFormedTerms e.2
  else if e.1 = lit "m.login.oauth2" then e.2.isObject = true ∧ StringOrAbsent e.2 "uri"
  else e.2.validUtf8 = true

theorem succeeds_getStrings_iff (j : Json) :
    Succeeds (j.getArray Json.getString) ↔ IsStrings j := by
  simp only [Json.succeeds_getArray_iff, Json.succeeds_getString_iff, IsStrings]

theorem succeeds_flow_iff (j : Json) : Succeeds (Flow.fromJson j) ↔ WellFormedFlow j := by
  simp only [Flow.fromJson, succeeds_bind_iff, succeeds_pure, and_true, exists_eq_ok_iff,
    Json.index_eq_ok_iff, succeeds_getStrings_iff, WellFormedFlow]

theorem succeeds_description_iff (j : Json) :
    Succeeds (PolicyDescription.fromJson j) ↔ WellFormedDescription j := by
  simp only [PolicyDescription.fromJson, succeeds_bind_iff, succeeds_pure, and_true,
    exists_and_right, exists_eq_ok_iff, succeeds_value_string_iff]
  constructor
  · rintro ⟨⟨hobj, hname⟩, -, hurl⟩
    exact ⟨hobj, hname, hurl⟩
  · rintro ⟨hobj, hname, hurl⟩
    exact ⟨⟨hobj, hname⟩, hobj, hurl⟩

/-- Reading the values of a list of members. -/
theorem succeeds_mapM_members_iff {α : Type} (get : Str × Json → Except Exn α)
    (ms : List (Str × Json)) :
    Succeeds (ms.mapM fun e ↦ do return (e.1, ← get e) : Except Exn (List (Str × α))) ↔
      ∀ e ∈ ms, Succeeds (get e) := by
  simp only [succeeds_mapM_iff, succeeds_bind_iff, succeeds_pure, and_true, exists_eq_ok_iff]

theorem succeeds_policy_iff (j : Json) : Succeeds (Policy.fromJson j) ↔ WellFormedPolicy j := by
  have hlangs : Succeeds ((j.items.filter (·.1 != lit "version")).mapM fun e ↦ do
      return (e.1, ← PolicyDescription.fromJson e.2) : Except Exn (List (Str × _))) ↔
      ∀ e ∈ j.items, e.1 ≠ lit "version" → WellFormedDescription e.2 := by
    rw [succeeds_mapM_members_iff fun e ↦ PolicyDescription.fromJson e.2]
    simp only [succeeds_description_iff, List.mem_filter, bne_iff_ne, and_imp]
  rw [Policy.fromJson]
  constructor
  · intro h
    obtain ⟨v, hv, h⟩ := succeeds_bind_iff.mp h
    obtain ⟨s, hs, h⟩ := succeeds_bind_iff.mp h
    obtain ⟨langs, hread, -⟩ := succeeds_bind_iff.mp h
    obtain rfl := Json.getString_eq_ok_iff.mp hs
    exact ⟨⟨s, Json.atKey_eq_ok_iff.mp hv⟩, hlangs.mp ⟨langs, hread⟩⟩
  · rintro ⟨⟨s, hs⟩, hread⟩
    obtain ⟨langs, hread⟩ := hlangs.mpr hread
    rw [Json.atKey_of_find? hs, ok_bind, Json.getString_string, ok_bind, hread]
    exact succeeds_pure _

theorem succeeds_getMap_iff {α : Type} {get : Json → Except Exn α} (j : Json) :
    Succeeds (j.getMap get) ↔ ∃ ms, j = .object ms ∧ ∀ e ∈ ms, Succeeds (get e.2) := by
  rcases j with - | b | i | u | f | s | xs | ms
  case object =>
    have hread := succeeds_mapM_members_iff (fun e ↦ get e.2) ms
    rw [Json.getMap, succeeds_bind_iff_and fun _ ↦ iff_of_true (succeeds_pure _) trivial, hread]
    simp
  all_goals simp [Json.getMap]

theorem succeeds_terms_iff (j : Json) : Succeeds (termsFromJson j) ↔ WellFormedTerms j := by
  rw [termsFromJson, succeeds_bind_iff, WellFormedTerms]
  simp only [Json.index_eq_ok_iff, succeeds_getMap_iff, succeeds_policy_iff]
  constructor
  · rintro ⟨_, hfind, policies, rfl, hpolicies⟩
    exact ⟨policies, hfind, hpolicies⟩
  · rintro ⟨policies, hfind, hpolicies⟩
    exact ⟨_, hfind, policies, rfl, hpolicies⟩

variable (t : JsonText)

theorem succeeds_params_iff (e : Str × Json) :
    Succeeds (Params.fromItem t e) ↔ WellFormedParams e := by
  rw [Params.fromItem, WellFormedParams]
  split_ifs with h1 h2
  · rw [succeeds_map_iff, succeeds_terms_iff]
  · rw [succeeds_map_iff, oauth2FromJson, succeeds_value_string_iff]
  · rw [succeeds_map_iff, JsonText.dump]
    split_ifs with hutf8 <;> simp [hutf8]

/-! ## Where an access is unchecked -/

section

variable (lacks : Json → Str → Prop)

/-- Reading the authentication data comes to a flow without stages or to terms without policies. -/
def AuthLacks (j : Json) : Prop :=
  (∀ v, j.find? "completed" = some v → IsStrings v) ∧ StringOrAbsent j "session" ∧
  ∃ flows, j.find? "flows" = some (.array flows) ∧
    (Reaches WellFormedFlow (lacks · "stages") flows ∨
      (∀ flow ∈ flows, WellFormedFlow flow) ∧
      ∃ params, j.find? "params" = some params ∧ Reaches WellFormedParams
        (fun e ↦ e.1 = lit "m.login.terms" ∧ lacks e.2 "policies") params.items)

end

theorem succeeds_completed_iff (j : Json) :
    Succeeds (j.optional "completed" (·.getArray Json.getString) []) ↔
      ∀ v, j.find? "completed" = some v → IsStrings v := by
  simp only [Json.succeeds_optional_iff, succeeds_getStrings_iff]

/-- The authentication data is read. -/
def WellFormedAuth (j : Json) : Prop :=
  (∀ v, j.find? "completed" = some v → IsStrings v) ∧ StringOrAbsent j "session" ∧
  (∃ flows, j.find? "flows" = some (.array flows) ∧ ∀ flow ∈ flows, WellFormedFlow flow) ∧
  ∀ params, j.find? "params" = some params → ∀ e ∈ params.items, WellFormedParams e

theorem succeeds_auth_iff (j : Json) : Succeeds (Unauthorized.fromJson t j) ↔ WellFormedAuth j := by
  have hparams : Succeeds (j.optional "params" (paramsFromJson t) SortedMap.empty) ↔
      ∀ params, j.find? "params" = some params → ∀ e ∈ params.items, WellFormedParams e := by
    have hitems : ∀ params : Json, Succeeds (paramsFromJson t params) ↔
        ∀ e ∈ params.items, WellFormedParams e := fun params ↦ by
      rw [paramsFromJson, succeeds_bind_iff_and fun _ ↦ iff_of_true (succeeds_pure _) trivial,
        succeeds_mapM_members_iff, and_true]
      simp only [succeeds_params_iff]
    simp only [Json.succeeds_optional_iff, hitems]
  simp only [Unauthorized.fromJson, succeeds_bind_iff, succeeds_pure, and_true, exists_and_right,
    exists_eq_ok_iff, succeeds_completed_iff, succeeds_value_string_iff, hparams,
    Json.atKey_eq_ok_iff, Json.succeeds_getArray_iff, succeeds_flow_iff, WellFormedAuth]
  constructor
  · rintro ⟨hcompleted, ⟨-, hsession⟩, _, hfind, ⟨flows, rfl, hflows⟩, hparams⟩
    exact ⟨hcompleted, hsession, ⟨flows, hfind, hflows⟩, hparams⟩
  · rintro ⟨hcompleted, hsession, ⟨flows, hfind, hflows⟩, hparams⟩
    exact ⟨hcompleted, ⟨Json.isObject_of_find? hfind, hsession⟩, _, hfind, ⟨flows, rfl, hflows⟩,
      hparams⟩

theorem raises_auth_iff {bad : Exn → Prop} {lacks : Json → Str → Prop} (h : Detects bad lacks)
    (j : Json) : Raises bad (Unauthorized.fromJson t j) ↔ AuthLacks lacks j := by
  rw [raises_unauthorized_iff t h, succeeds_completed_iff, succeeds_value_string_iff, AuthLacks]
  simp only [comesTo_iff_reaches succeeds_flow_iff, comesTo_iff_reaches (succeeds_params_iff t),
    Json.succeeds_getArray_iff, succeeds_flow_iff]
  constructor
  · rintro ⟨hcompleted, ⟨-, hsession⟩, flows, hflows,
      ⟨xs, rfl, hreach⟩ | ⟨⟨xs, rfl, hgood⟩, hparams⟩⟩
    · exact ⟨hcompleted, hsession, xs, hflows, Or.inl hreach⟩
    · exact ⟨hcompleted, hsession, xs, hflows, Or.inr ⟨hgood, hparams⟩⟩
  · rintro ⟨hcompleted, hsession, xs, hflows, hreach | ⟨hgood, hparams⟩⟩
    · exact ⟨hcompleted, ⟨Json.isObject_of_find? hflows, hsession⟩, _, hflows,
        Or.inl ⟨xs, rfl, hreach⟩⟩
    · exact ⟨hcompleted, ⟨Json.isObject_of_find? hflows, hsession⟩, _, hflows,
        Or.inr ⟨⟨xs, rfl, hgood⟩, hparams⟩⟩

/-- Reading an error is undefined. -/
def ErrorLacks (j : Json) : Prop :=
  j.isObject = true ∧ StringOrAbsent j "errcode" ∧ StringOrAbsent j "error" ∧
  (AuthLacks Json.Lacks j ∨
    (j.find? "flows" = none ∨ WellFormedAuth j) ∧ UndefinedDelay j)

theorem undefinedError_iff (j : Json) : UndefinedError t j ↔ ErrorLacks j := by
  have hauth : UndefinedAuth t j ↔ AuthLacks Json.Lacks j :=
    (undefined_unauthorized_iff t j).symm.trans
      (raises_undefined_iff.symm.trans (raises_auth_iff t detects_undefined j))
  have hsucceeds : Succeeds (unauthorizedFromJson t j) ↔
      j.find? "flows" = none ∨ WellFormedAuth j := by
    rw [unauthorizedFromJson]
    split_ifs with hflows
    · obtain ⟨flows, hflows⟩ := Json.contains_eq_true_iff.mp hflows
      simp [hflows, succeeds_auth_iff]
    · rw [Bool.not_eq_true, Json.contains_eq_false_iff] at hflows
      exact iff_of_true (succeeds_ok _) (Or.inl hflows)
  simp only [UndefinedError, ErrorLacks, succeeds_value_string_iff, hauth, hsucceeds]
  constructor
  · rintro ⟨⟨hobj, hcode⟩, ⟨-, herror⟩, h⟩
    exact ⟨hobj, hcode, herror, h⟩
  · rintro ⟨hobj, hcode, herror, h⟩
    exact ⟨⟨hobj, hcode⟩, ⟨hobj, herror⟩, h⟩

theorem undefined_pushRules_iff {e : Json} (h : e.find? "type" = some (.string "m.push_rules")) :
    Undefined (parseRoomAccountDataEvent t e) ↔
      ∃ content, e.find? "content" = some content ∧ GlobalLacks Json.Lacks content := by
  have htype : getEventTypeOf e = .ok .pushRules := by
    rw [getEventTypeOf, h]
    rfl
  rw [parseRoomAccountDataEvent, htype, ok_bind]
  show Undefined (some <$> readAccountData t .pushRules e) ↔ _
  have hd := detects_undefined
  have htypeName : ∀ s : Str, ¬ Raises (· = .undefinedBehaviour) (getEventType s) := fun s ↦ by
    rw [getEventType]
    split
    · exact not_raises_ok _
    · split_ifs
      · rintro ⟨_, ⟨⟩, ⟨⟩⟩
      · exact not_raises_ok _
  have hlong : ∀ room_id : Str, ¬ Raises (· = .undefinedBehaviour)
      (throwIf (room_id.length > 255) (.outOfRange "Room id exceeds 255 bytes")) := fun room_id ↦ by
    rw [throwIf]
    split_ifs
    · rintro ⟨_, ⟨⟩, ⟨⟩⟩
    · exact not_raises_ok ()
  rw [readAccountData, ← raises_undefined_iff, raises_map_iff, raises_map_iff,
    EphemeralEvent.fromJson, raises_bind_iff, or_iff_right (Json.not_raises_atKey hd)]
  simp only [Json.atKey_eq_ok_iff]
  refine exists_congr fun content ↦ and_congr_right' ?_
  -- what follows the content is checked
  rw [raises_bind_iff_of_not]
  · exact raises_global_iff hd content
  · exact fun _ ↦ not_raises_bind (Json.not_raises_atKey hd) fun _ ↦
      not_raises_bind (Json.not_raises_getString hd) fun _ ↦
        not_raises_bind (htypeName _) fun _ ↦
          not_raises_bind (Json.not_raises_optional fun _ ↦ Json.not_raises_getString hd) fun _ ↦
            not_raises_bind (hlong _) fun _ ↦ not_raises_pure _

/-! ## Which values are checked -/

/-- **Which values come to no unchecked access.**  Account data and errors survive all those that
are no object as well, since that is an exception. -/
theorem members_checked_iff (j : Json) :
    (¬ Unchecked (GlobalRuleset.fromJson j) ↔ ¬ GlobalLacks Json.HasNo j) ∧
    (¬ Unchecked (Ruleset.fromJson j) ↔ ¬ RulesetLacks Json.HasNo j) ∧
    (¬ Unchecked (PushRule.fromJson j) ↔ ¬ RuleLacks Json.HasNo j) ∧
    (¬ Unchecked (PushCondition.fromJson j) ↔ ¬ j.HasNo "kind") ∧
    (¬ Unchecked (Actions.fromJson j) ↔ ¬ j.HasNo "actions") ∧
    (¬ Unchecked (Unauthorized.fromJson t j) ↔ ¬ AuthLacks Json.HasNo j) ∧
    (¬ Unchecked (Flow.fromJson j) ↔ ¬ j.HasNo "stages") ∧
    (¬ Unchecked (termsFromJson j) ↔ ¬ j.HasNo "policies") ∧
    (j.find? "type" = some (.string "m.push_rules") →
      (¬ Undefined (parseRoomAccountDataEvent t j) ↔
        ¬ ∃ content, j.find? "content" = some content ∧ GlobalLacks Json.Lacks content)) ∧
    (¬ Undefined (Error.fromJson t j) ↔ ¬ ErrorLacks j) :=
  have h := detects_unchecked
  ⟨not_congr (raises_global_iff h j), not_congr (raises_ruleset_iff h j),
    not_congr (raises_rule_iff h j), not_congr (raises_condition_iff h j),
    not_congr (raises_actions_iff h j), not_congr (raises_auth_iff t h j),
    not_congr (raises_flow_iff h j), not_congr (raises_terms_iff h j),
    fun htype ↦ not_congr (undefined_pushRules_iff t htype),
    not_congr ((error_undefined_iff t j).trans (undefinedError_iff t j))⟩

/-- An event with push rules. -/
def pushRulesEvent (content : Json) : Json :=
  .object [(lit "content", content), (lit "type", .string "m.push_rules")]

/-- Global push rules without any list are checked. -/
theorem members_checked_noRules : ¬ Undefined (parseRoomAccountDataEvent (knownTexts [])
    (pushRulesEvent (.object [(lit "global", .object [])]))) := by
  refine (members_checked_iff (knownTexts []) _).2.2.2.2.2.2.2.2.1 rfl |>.mpr ?_
  rintro ⟨_, hcontent, hlacks⟩
  cases Option.some.inj hcontent
  rcases hlacks with ⟨-, ⟨⟩⟩ | ⟨_, hset, hlacks⟩
  cases Option.some.inj hset
  obtain ⟨_, _, _, -, -, _, hlist, -⟩ := hlacks
  cases hlist

/-- Without them, and with a flow without stages, the behaviour is undefined. -/
theorem members_unchecked_empty : Unchecked (GlobalRuleset.fromJson (.object [])) ∧
    Undefined (parseRoomAccountDataEvent (knownTexts []) (pushRulesEvent (.object []))) ∧
    Undefined (Error.fromJson (knownTexts [])
      (.object [(lit "flows", .array [.object []])])) :=
  ⟨⟨_, rfl, Or.inl rfl⟩, rfl, rfl⟩

end Mtx.Responses
