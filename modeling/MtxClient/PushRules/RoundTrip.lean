import MtxClient.Events.ExplicitRelations
import MtxClient.PushRules.Rules

/-!
# Saving and loading push rules

What `from_json` makes of a rule set that `to_json` wrote.  Both leave out members that have their
default value.  Three things do not survive: a condition's `include_fallback`, which is read and
never written; the action `coalesce`, which is written as `null` and read as `notify`; and a rule in
which every member has its default value, which is written as `null` and not read at all.

`ruleset_kept_iff` says that nothing else is lost.
-/

set_option autoImplicit false

namespace Mtx.PushRules

open Str

/-! ## Lists -/

/-- A list is read again as it was if its elements are. -/
theorem mapM_map_eq_ok_iff {α : Type} {get : Json → Except Exn α} {put : α → Json} {xs : List α} :
    (xs.map put).mapM get = .ok xs ↔ ∀ x ∈ xs, get (put x) = .ok x := by
  induction xs with
  | nil => simp [pure, Except.pure]
  | cons x xs ih =>
    rw [List.map_cons, List.mapM_cons, List.forall_mem_cons, ← ih]
    constructor
    · intro h
      obtain ⟨y, hy, h⟩ := bind_eq_ok_iff.mp h
      obtain ⟨ys, hys, h⟩ := bind_eq_ok_iff.mp h
      obtain ⟨rfl, rfl⟩ := List.cons.inj (Except.ok.inj h)
      exact ⟨hy, hys⟩
    · rintro ⟨hx, hxs⟩
      rw [hx, ok_bind, hxs]
      rfl

theorem readList_eq_ok_iff {α : Type} {obj : Json} {key : Str} {get : Json → Except Exn α}
    {put : α → Json} {xs : List α} (h : obj.find? key = some (Json.ofArray put xs)) :
    readList obj key get = .ok xs ↔ ∀ x ∈ xs, get (put x) = .ok x := by
  rw [readList, Json.optional_of_find? h]
  exact mapM_map_eq_ok_iff

/-! ## Conditions and actions -/

theorem NonCompoundValue.toNonCompoundJsonValue_toJson (v : NonCompoundValue) :
    toNonCompoundJsonValue v.toJson = .ok (some v) := by
  cases v <;> rfl

/-- A member that is left out when it has its default value. -/
theorem value_eq_ok_of_ite {α : Type} {j v : Json} {k : Str} {c : Bool} {a d : α}
    {get : Json → Except Exn α} (hj : j.isObject = true)
    (h : j.find? k = if c = true then some v else none) (hget : c = true → get v = .ok a)
    (hd : c = false → d = a) : j.value k get d = .ok a := by
  cases c with
  | false => rw [Json.value_of_find?_none hj h, hd rfl]
  | true => rw [Json.value_of_find? h, hget rfl]

theorem value_getString_of_ite {j : Json} {k s : Str} (hj : j.isObject = true)
    (h : j.find? k = if (!s.isEmpty) = true then some (.string s) else none) :
    j.value k Json.getString "" = .ok s :=
  value_eq_ok_of_ite hj h (fun _ ↦ rfl) fun hs ↦ by
    rw [Bool.not_eq_false', List.isEmpty_iff] at hs
    exact hs.symm

/-- The members that are written for a condition. -/
theorem PushCondition.find?_toJson (c : PushCondition) (k : Str) : c.toJson.find? k =
    if k = "value" ∧ c.value.isSome then c.value.map NonCompoundValue.toJson
    else (Json.noMembers
      |>.insert "kind" (.string c.kind)
      |>.insertIf (!c.key.isEmpty) "key" (.string c.key)
      |>.insertIf (!c.pattern.isEmpty) "pattern" (.string c.pattern)
      |>.insertIf (!c.is.isEmpty) "is" (.string c.is)
      |>.insertIf (c.rel_type != .unsupported) "rel_type" (.string c.rel_type.toStr)).find? k := by
  rw [PushCondition.toJson, Json.find?_ofMembers]
  rcases c.value with - | v
  · rw [if_neg (by simp)]
  · rw [SortedMap.find?_insert]
    by_cases hk : k = "value" <;> simp [hk]

/-- Of a condition everything is kept but whether it matches fallback relations. -/
theorem PushCondition.fromJson_toJson (c : PushCondition) :
    PushCondition.fromJson c.toJson = .ok { c with include_fallback := false } := by
  have hkind : c.toJson.find? "kind" = some (.string c.kind) := by
    simp (disch := decide) [PushCondition.find?_toJson]
  have hj := Json.isObject_of_find? hkind
  have hvalue : c.toJson.optional "value" toNonCompoundJsonValue none = .ok c.value := by
    rw [Json.optional, PushCondition.find?_toJson]
    rcases c.value with - | v
    · simp (disch := decide)
    · simp [NonCompoundValue.toNonCompoundJsonValue_toJson]
  have hrel : c.toJson.value "rel_type" Events.RelationType.fromJson .unsupported =
      .ok c.rel_type := by
    refine value_eq_ok_of_ite hj (c := c.rel_type != .unsupported)
      (by simp (disch := decide) [PushCondition.find?_toJson])
      (fun _ ↦ Events.relationType_toStr_fromJson c.rel_type) fun h ↦ ?_
    rw [bne_eq_false_iff_eq] at h
    exact h.symm
  rw [PushCondition.fromJson, Json.index_of_find? hkind, ok_bind, Json.getString_string, ok_bind,
    value_getString_of_ite (s := c.key) hj, ok_bind, value_getString_of_ite (s := c.pattern) hj,
    ok_bind, value_getString_of_ite (s := c.is) hj, ok_bind, hrel, ok_bind,
    Json.value_of_find?_none hj, ok_bind, hvalue]
  · rfl
  all_goals simp (disch := decide) [PushCondition.find?_toJson]

theorem PushCondition.fromJson_toJson_iff (c : PushCondition) :
    PushCondition.fromJson c.toJson = .ok c ↔ c.include_fallback = false := by
  rw [PushCondition.fromJson_toJson, Except.ok.injEq]
  constructor
  · intro h
    rw [← h]
  · intro h
    rw [← h]

/-- An action is kept unless it is `coalesce`. -/
theorem Action.fromJson_toJson_iff (a : Action) :
    Action.fromJson a.toJson = .ok a ↔ a ≠ .coalesce := by
  cases a with
  | coalesce => exact iff_of_false nofun (absurd rfl)
  | notify => exact iff_of_true rfl nofun
  | dont_notify => exact iff_of_true rfl nofun
  | setTweakSound value => exact iff_of_true rfl nofun
  | setTweakHighlight value => cases value <;> exact iff_of_true rfl nofun

/-! ## Rules -/

/-- A condition that is read as it was before it was written. -/
def PushCondition.Kept (c : PushCondition) : Prop := c.include_fallback = false

/-- A rule of which nothing is lost when it is written and read. -/
structure PushRule.Kept (rule : PushRule) : Prop where
  /-- Some member does not have its default value. -/
  ne_default : rule ≠ {}
  /-- It does not coalesce. -/
  actions : ∀ a ∈ rule.actions, a ≠ .coalesce
  /-- No condition matches fallback relations. -/
  conditions : ∀ c ∈ rule.conditions, c.Kept

/-- A rule is written as an object unless all its members have their default values. -/
theorem PushRule.isObject_toJson (rule : PushRule) :
    rule.toJson.isObject = true ↔ rule ≠ {} := by
  obtain ⟨default_, enabled, actions, rule_id, pattern, conditions⟩ := rule
  simp only [PushRule.toJson, Json.isObject_ofMembers_insertIf, Bool.or_eq_true,
    Bool.not_eq_true', List.isEmpty_eq_false_iff, ne_eq, PushRule.mk.injEq]
  rw [show (Json.ofMembers Json.noMembers).isObject = false from rfl]
  cases default_ <;> cases enabled <;> simp [imp_iff_not_or]
  show _ ↔ _ ∨ ¬rule_id = [] ∨ ¬pattern = [] ∨ _
  tauto

theorem readList_eq_ok_iff_of_ite {α : Type} {j : Json} {k : Str} {get : Json → Except Exn α}
    {f : α → Json} {xs : List α}
    (h : j.find? k = if (!xs.isEmpty) = true then some (Json.ofArray f xs) else none) :
    readList j k get = .ok xs ↔ ∀ x ∈ xs, get (f x) = .ok x := by
  rcases xs with - | ⟨x, xs⟩
  · rw [readList, Json.optional_of_find?_none h]
    exact iff_of_true rfl fun x hx ↦ absurd hx List.not_mem_nil
  · exact readList_eq_ok_iff h

theorem value_getBool_of_ite {j : Json} {k : Str} {b c d : Bool} (hj : j.isObject = true)
    (h : j.find? k = if c = true then some (.boolean b) else none) (hd : c = false → d = b) :
    j.value k Json.getBool d = .ok b :=
  value_eq_ok_of_ite hj h (fun _ ↦ rfl) hd

/-- A rule that is written as an object is kept if its actions and its conditions are. -/
theorem PushRule.fromJson_toJson_eq_ok_iff {rule : PushRule} (hne : rule ≠ {}) :
    PushRule.fromJson rule.toJson = .ok rule ↔
      (∀ a ∈ rule.actions, Action.fromJson a.toJson = .ok a) ∧
      ∀ c ∈ rule.conditions, PushCondition.fromJson c.toJson = .ok c := by
  have hj := rule.isObject_toJson.mpr hne
  have hid : rule.toJson.value "rule_id" Json.getString "" = .ok rule.rule_id :=
    value_getString_of_ite hj (by simp (disch := decide) [PushRule.toJson])
  have hdefault : rule.toJson.value "default" Json.getBool false = .ok rule.default_ :=
    value_getBool_of_ite hj (c := rule.default_) (by simp (disch := decide) [PushRule.toJson])
      Eq.symm
  have henabled : rule.toJson.value "enabled" Json.getBool true = .ok rule.enabled :=
    value_getBool_of_ite hj (c := !rule.enabled) (by simp (disch := decide) [PushRule.toJson])
      fun h ↦ by simpa using h
  have hpattern : rule.toJson.value "pattern" Json.getString "" = .ok rule.pattern :=
    value_getString_of_ite hj (by simp (disch := decide) [PushRule.toJson])
  rw [← readList_eq_ok_iff_of_ite (j := rule.toJson) (k := "actions") (f := Action.toJson)
      (by simp (disch := decide) [PushRule.toJson]),
    ← readList_eq_ok_iff_of_ite (j := rule.toJson) (k := "conditions")
      (f := PushCondition.toJson) (by simp (disch := decide) [PushRule.toJson]),
    PushRule.fromJson, hid, ok_bind, hdefault, ok_bind, henabled, ok_bind, hpattern]
  constructor
  · intro h
    obtain ⟨actions, hactions, h⟩ := bind_eq_ok_iff.mp h
    rw [ok_bind] at h
    obtain ⟨conditions, hconditions, h⟩ := bind_eq_ok_iff.mp h
    have hrule := Except.ok.inj h
    exact ⟨hactions.trans (congrArg (fun r ↦ Except.ok r.actions) hrule),
      hconditions.trans (congrArg (fun r ↦ Except.ok r.conditions) hrule)⟩
  · rintro ⟨hactions, hconditions⟩
    rw [hactions, ok_bind, ok_bind, hconditions]
    rfl

theorem PushRule.fromJson_toJson_iff (rule : PushRule) :
    PushRule.fromJson rule.toJson = .ok rule ↔ rule.Kept := by
  by_cases hne : rule = {}
  · subst hne
    exact iff_of_false nofun fun h ↦ h.ne_default rfl
  rw [PushRule.fromJson_toJson_eq_ok_iff hne]
  simp only [Action.fromJson_toJson_iff, PushCondition.fromJson_toJson_iff]
  exact ⟨fun h ↦ ⟨hne, h.1, h.2⟩, fun h ↦ ⟨h.actions, h.conditions⟩⟩

/-! ## Rule sets -/

/-- A rule set of which nothing is lost. -/
structure Ruleset.Kept (set : Ruleset) : Prop where
  override_ : ∀ rule ∈ set.override_, rule.Kept
  content : ∀ rule ∈ set.content, rule.Kept
  room : ∀ rule ∈ set.room, rule.Kept
  sender : ∀ rule ∈ set.sender, rule.Kept
  underride : ∀ rule ∈ set.underride, rule.Kept

/-- A rule set is read as it was before it was written exactly when each of its rules has a member
that differs from the default, no action is `coalesce`, and no condition includes fallbacks. -/
theorem ruleset_kept_iff (set : Ruleset) : Ruleset.fromJson set.toJson = .ok set ↔ set.Kept := by
  have hlist : ∀ {k : Str} {l : List PushRule},
      set.toJson.find? k = some (Json.ofArray PushRule.toJson l) →
      (readList set.toJson k PushRule.fromJson = .ok l ↔ ∀ rule ∈ l, rule.Kept) :=
    fun h ↦ (readList_eq_ok_iff h).trans (forall₂_congr fun rule _ ↦ rule.fromJson_toJson_iff)
  have hoverride := hlist (k := "override") (l := set.override_)
    (by simp (disch := decide) [Ruleset.toJson])
  have hcontent := hlist (k := "content") (l := set.content)
    (by simp (disch := decide) [Ruleset.toJson])
  have hroom := hlist (k := "room") (l := set.room)
    (by simp (disch := decide) [Ruleset.toJson])
  have hsender := hlist (k := "sender") (l := set.sender)
    (by simp (disch := decide) [Ruleset.toJson])
  have hunderride := hlist (k := "underride") (l := set.underride)
    (by simp (disch := decide) [Ruleset.toJson])
  rw [Ruleset.fromJson]
  constructor
  · intro h
    obtain ⟨override_, h1, h⟩ := bind_eq_ok_iff.mp h
    obtain ⟨content, h2, h⟩ := bind_eq_ok_iff.mp h
    obtain ⟨room, h3, h⟩ := bind_eq_ok_iff.mp h
    obtain ⟨sender, h4, h⟩ := bind_eq_ok_iff.mp h
    obtain ⟨underride, h5, h⟩ := bind_eq_ok_iff.mp h
    obtain rfl := Except.ok.inj h
    exact ⟨hoverride.mp h1, hcontent.mp h2, hroom.mp h3, hsender.mp h4, hunderride.mp h5⟩
  · intro h
    rw [hoverride.mpr h.override_, ok_bind, hcontent.mpr h.content, ok_bind, hroom.mpr h.room,
      ok_bind, hsender.mpr h.sender, ok_bind, hunderride.mpr h.underride]
    rfl

/-- A rule with default values only is not read again, one that coalesces notifies afterwards, and a
condition on fallback relations loses them. -/
theorem rules_lost :
    Ruleset.fromJson (Ruleset.toJson { override_ := [{}] }) = .error (.jsonTypeError 306) ∧
    Ruleset.fromJson (Ruleset.toJson { override_ := [{ actions := [.coalesce] }] }) =
      .ok { override_ := [{ actions := [.notify] }] } ∧
    Ruleset.fromJson (Ruleset.toJson
      { override_ := [{ conditions := [{ kind := "event_match", include_fallback := true }] }] }) =
      .ok { override_ := [{ conditions := [{ kind := "event_match" }] }] } ∧
    ¬ ∀ set : Ruleset, Ruleset.fromJson set.toJson = .ok set :=
  ⟨rfl, rfl, rfl, fun h ↦ by cases h { override_ := [{}] }⟩

end Mtx.PushRules
