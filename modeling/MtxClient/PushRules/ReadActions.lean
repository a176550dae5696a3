import MtxClient.Events.RelationData
import MtxClient.PushRules.Rules

/-!
# Which actions are read

The protocol allows for actions that a client does not know, and these should have no effect.
`from_json(Action)` leaves them at the first alternative of the variant, which is `notify`.

`fromJson_eq_notify_iff` and `fromJson_eq_dont_notify_iff` say for one value when these two actions
are read.  For a list, `Faithful` is what one expects of them, and `actionList_faithful_iff` when it
holds.
-/

set_option autoImplicit false

namespace Mtx.PushRules

open Str

/-! ## One action -/

/-- A value that stands for no action: a string other than these two, or a tweak of which nothing is
known, or a value that is neither. -/
def Unrecognised : Json → Prop
  | .string s => s ≠ "notify" ∧ s ≠ "dont_notify"
  | j => ∀ tweak, j.find? "set_tweak" = some tweak →
      tweak ≠ .string "sound" ∧ tweak ≠ .string "highlight"

/-- What is read for an object without a tweak. -/
theorem Action.fromJson_of_find?_none {j : Json} (hj : j.isObject = true)
    (h : j.find? "set_tweak" = none) : Action.fromJson j = .ok .notify := by
  rcases j with - | b | i | u | f | s | xs | ms
  case object => exact if_neg (by rw [Json.contains_eq_false_iff.mpr h]; decide)
  all_goals cases hj

/-- What is read for an object with a tweak. -/
theorem Action.fromJson_of_find? {j tweak : Json} (h : j.find? "set_tweak" = some tweak) :
    Action.fromJson j =
      if tweak.eqString "sound" then
        Action.setTweakSound <$> j.value "value" Json.getString "default"
      else if tweak.eqString "highlight" then
        Action.setTweakHighlight <$> j.value "value" Json.getBool true
      else .ok .notify := by
  rcases j with - | b | i | u | f | s | xs | ms
  case object =>
    refine (if_pos (Json.contains_eq_true_iff.mpr ⟨tweak, h⟩)).trans ?_
    rw [Json.index_of_find? h]
    rfl
  all_goals cases h

theorem map_ne_ok {α : Type} {f : α → Action} {a : Action} (h : ∀ x, f x ≠ a)
    (x : Except Exn α) : f <$> x ≠ .ok a := by
  rcases x with e | x
  · exact nofun
  · exact fun heq ↦ h x (Except.ok.inj heq)

/-- `notify` is also read for what is not recognised. -/
theorem Action.fromJson_eq_notify_iff (j : Json) :
    Action.fromJson j = .ok .notify ↔ j = .string "notify" ∨ Unrecognised j := by
  rcases j with - | b | i | u | f | s | xs | ms
  case string =>
    rw [Action.fromJson, Unrecognised]
    split_ifs with h1 h2
    · simp [h1]
    · simp [h2]
    · simp [h1, h2]
  case object =>
    rcases htweak : (Json.object ms).find? "set_tweak" with - | tweak
    · refine iff_of_true (Action.fromJson_of_find?_none rfl htweak) (Or.inr ?_)
      intro tweak h
      rw [htweak] at h
      cases h
    · rw [Action.fromJson_of_find? htweak, Unrecognised, htweak]
      · split_ifs with h1 h2
        · rw [Events.eqString_iff] at h1
          exact iff_of_false (map_ne_ok (f := .setTweakSound) (fun _ h ↦ by cases h) _)
            (by simp [h1])
        · rw [Events.eqString_iff] at h2
          exact iff_of_false (map_ne_ok (f := .setTweakHighlight) (fun _ h ↦ by cases h) _)
            (by simp [h2])
        · rw [Events.eqString_iff] at h1 h2
          simp [h1, h2]
      · intro s h
        cases h
  all_goals
    refine iff_of_true rfl (Or.inr ?_)
    intro tweak h
    cases h

/-- `dont_notify` is read for this string only. -/
theorem Action.fromJson_eq_dont_notify_iff (j : Json) :
    Action.fromJson j = .ok .dont_notify ↔ j = .string "dont_notify" := by
  rcases j with - | b | i | u | f | s | xs | ms
  case string =>
    rw [Action.fromJson]
    split_ifs with h1 h2
    · simp [h1]
    · simp [h2]
    · simp [h2]
  case object =>
    rcases htweak : (Json.object ms).find? "set_tweak" with - | tweak
    · rw [Action.fromJson_of_find?_none rfl htweak]
      exact iff_of_false nofun nofun
    · refine iff_of_false ?_ nofun
      rw [Action.fromJson_of_find? htweak]
      split_ifs
      · exact map_ne_ok (f := .setTweakSound) (fun _ h ↦ by cases h) _
      · exact map_ne_ok (f := .setTweakHighlight) (fun _ h ↦ by cases h) _
      · exact nofun
  all_goals exact iff_of_false nofun nofun

/-! ## A list of actions -/

/-- The actions contain `notify` and `dont_notify` if the array does. -/
def Faithful (xs : List Json) (actions : List Action) : Prop :=
  (.notify ∈ actions ↔ .string "notify" ∈ xs) ∧
    (.dont_notify ∈ actions ↔ .string "dont_notify" ∈ xs)

theorem mem_actions_iff {xs : List Json} {actions : List Action}
    (h : xs.mapM Action.fromJson = .ok actions) (a : Action) :
    a ∈ actions ↔ ∃ j ∈ xs, Action.fromJson j = .ok a := by
  obtain ⟨hfrom, hto⟩ := mem_of_mapM_eq_ok h
  refine ⟨hfrom a, ?_⟩
  rintro ⟨j, hj, ha⟩
  obtain ⟨a', ha', heq⟩ := hto j hj
  rw [ha] at heq
  obtain rfl := Except.ok.inj heq
  exact ha'

/-- What is not recognised makes a difference, unless the array has `notify` as well. -/
theorem actionList_faithful_iff {xs : List Json} {actions : List Action}
    (h : xs.mapM Action.fromJson = .ok actions) :
    Faithful xs actions ↔ .string "notify" ∈ xs ∨ ∀ j ∈ xs, ¬ Unrecognised j := by
  have hdont : .dont_notify ∈ actions ↔ Json.string "dont_notify" ∈ xs := by
    simp [mem_actions_iff h, Action.fromJson_eq_dont_notify_iff]
  have hnotify : .notify ∈ actions ↔
      Json.string "notify" ∈ xs ∨ ∃ j ∈ xs, Unrecognised j := by
    simp [mem_actions_iff h, Action.fromJson_eq_notify_iff, and_or_left, exists_or]
  rw [Faithful, and_iff_left hdont, hnotify]
  constructor
  · intro himp
    by_cases hmem : Json.string "notify" ∈ xs
    · exact Or.inl hmem
    · refine Or.inr fun j hj hun ↦ hmem (himp.mp (Or.inr ⟨j, hj, hun⟩))
  · rintro (hmem | hall)
    · exact iff_of_true (Or.inl hmem) hmem
    · refine or_iff_left ?_
      rintro ⟨j, hj, hun⟩
      exact hall j hj hun

/-- **Reading actions never invents a notification, unless there is one anyway, exactly when all
actions are recognised**: in a rule, and in a list of actions. -/
theorem readActions_faithful_iff {obj : Json} {xs : List Json}
    (hxs : obj.find? "actions" = some (.array xs)) :
    (∀ rule, PushRule.fromJson obj = .ok rule →
      (Faithful xs rule.actions ↔ .string "notify" ∈ xs ∨ ∀ j ∈ xs, ¬ Unrecognised j)) ∧
    ∀ actions, Actions.fromJson obj = .ok actions →
      (Faithful xs actions.actions ↔ .string "notify" ∈ xs ∨ ∀ j ∈ xs, ¬ Unrecognised j) := by
  constructor
  · intro rule h
    rw [PushRule.fromJson] at h
    obtain ⟨rule_id, -, h⟩ := bind_eq_ok_iff.mp h
    obtain ⟨default_, -, h⟩ := bind_eq_ok_iff.mp h
    obtain ⟨enabled, -, h⟩ := bind_eq_ok_iff.mp h
    obtain ⟨actions, hactions, h⟩ := bind_eq_ok_iff.mp h
    obtain ⟨pattern, -, h⟩ := bind_eq_ok_iff.mp h
    obtain ⟨conditions, -, h⟩ := bind_eq_ok_iff.mp h
    rw [readList, Json.optional_of_find? hxs] at hactions
    obtain rfl := Except.ok.inj h
    exact actionList_faithful_iff hactions
  · intro actions h
    rw [Actions.fromJson, Json.index_of_find? hxs, ok_bind] at h
    obtain ⟨list, hlist, h⟩ := bind_eq_ok_iff.mp h
    obtain rfl := Except.ok.inj h
    exact actionList_faithful_iff hlist

/-- A rule, or a list of actions, with the actions `xs`. -/
def withActions (xs : List Json) : Json := .object [("actions", .array xs)]

theorem readActions_mute : Faithful [.string "dont_notify"] [.dont_notify] := by
  have hnotify : ¬ Unrecognised (.string "dont_notify") := fun h ↦ h.2 rfl
  have h := readActions_faithful_iff (show (withActions [.string "dont_notify"]).find? "actions" =
    some (.array [.string "dont_notify"]) from rfl)
  exact (h.1 { actions := [.dont_notify] } rfl).mpr (Or.inr (by simpa using hnotify))

/-- A string that is not known notifies, in a rule and in a list of actions. -/
theorem readActions_invents :
    PushRule.fromJson (withActions [.string "ring"]) = .ok { actions := [.notify] } ∧
      Actions.fromJson (withActions [.string "ring"]) = .ok { actions := [.notify] } ∧
      ¬ Faithful [.string "ring"] [.notify] := by
  refine ⟨rfl, rfl, fun h ↦ ?_⟩
  have hmem : Json.string "notify" ∈ [Json.string "ring"] := h.1.mp List.mem_cons_self
  simp at hmem

end Mtx.PushRules
