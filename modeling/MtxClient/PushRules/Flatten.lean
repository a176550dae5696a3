import MtxClient.PushRules.Types

/-!
# Flattened events

The conditions of push rules do not look at an event but at a flat map from the paths of its members
to their values.  `flattenImpl` fills this map: the parts of a path are the keys, with their dots
escaped, joined by dots.

What the evaluator relies on is that the sender of the event stands under `sender`
(`find?_flattenEvent_ofMembers`), and for that, that flattening a member writes only at paths that
begin with the path of that member (`find?_flattenImpl`).
-/

set_option autoImplicit false

namespace Mtx.PushRules

open Str Events

/-- An event as the conditions see it. -/
abbrev FlatEvent := SortedMap Str PushValue

/-- The lambda `escape_key` of `flatten_impl`: a backslash before every dot. -/
def escapeKey (input : Str) : Str :=
  input.flatMap fun c ↦ if c = '.'.toUInt8 then ['\\'.toUInt8, c] else [c]

/-- The elements of an array that are not compound and no floating point numbers. -/
def nonCompound : Json → Option NonCompoundValue
  | .string s => some (.string s)
  | .null => some .null
  | .boolean b => some (.bool b)
  | .numberInteger i => some (.int i)
  | .numberUnsigned u => some (.int u.toInt64)
  | _ => none

mutual

/-- `flatten_impl`. -/
def flattenImpl (value : Json) (result : FlatEvent) (current_path : Str) (current_depth : ℕ) :
    FlatEvent :=
  if current_depth > 100 then result else
  match value with
  | .object ms =>
    -- workaround to be able to check if the m.mentions object is present
    let result := result.insertIf (current_path == lit "content.m\\.mentions") current_path .null
    let pre := if current_path.isEmpty then [] else current_path ++ lit "."
    flattenMembers ms result pre (current_depth + 1)
  | .array xs => result.insert current_path (.array (xs.filterMap nonCompound))
  | .string s => result.insert current_path (.string s)
  | .null => result.insert current_path .null
  | .boolean b => result.insert current_path (.bool b)
  | .numberInteger i => result.insert current_path (.int i)
  | .numberUnsigned u => result.insert current_path (.int u.toInt64)
  -- matrix events can't have floats
  | .numberFloat _ => result

/-- The loop of `flatten_impl` over the members of an object. -/
def flattenMembers (ms : List (List UInt8 × Json)) (result : FlatEvent) (pre : Str)
    (current_depth : ℕ) : FlatEvent :=
  match ms with
  | [] => result
  | (key, value) :: ms =>
    flattenMembers ms (flattenImpl value result (pre ++ escapeKey key) current_depth) pre
      current_depth

end

/-- `flatten_event`. -/
def flattenEvent (j : Json) : FlatEvent := flattenImpl j SortedMap.empty [] 0

/-! ## Paths without dots -/

variable {k : Str}

theorem escapeKey_eq_self {key : Str} (h : '.'.toUInt8 ∉ key) : escapeKey key = key := by
  induction key with
  | nil => rfl
  | cons c key ih =>
    rw [List.mem_cons, not_or] at h
    rw [escapeKey, List.flatMap_cons, if_neg (Ne.symm h.1)]
    exact congrArg (c :: ·) (ih h.2)

theorem mem_escapeKey {key : Str} (h : '.'.toUInt8 ∈ key) : '.'.toUInt8 ∈ escapeKey key := by
  rw [escapeKey, List.mem_flatMap]
  exact ⟨_, h, by simp⟩

theorem escapeKey_eq_iff (hk : '.'.toUInt8 ∉ k) (key : Str) : escapeKey key = k ↔ key = k := by
  constructor
  · intro h
    by_cases hkey : '.'.toUInt8 ∈ key
    · exact absurd (h ▸ mem_escapeKey hkey) hk
    · rwa [escapeKey_eq_self hkey] at h
  · rintro rfl
    exact escapeKey_eq_self hk

mutual

/-- Flattening below a path leaves all other paths without dots alone. -/
theorem find?_flattenImpl (hk : '.'.toUInt8 ∉ k) (value : Json) (result : FlatEvent) (path : Str)
    (depth : ℕ) (hne : path ≠ []) (hpath : path ≠ k) :
    (flattenImpl value result path depth).find? k = result.find? k := by
  rw [flattenImpl.eq_def]
  split
  · rfl
  · split
    · next ms =>
      have hempty : path.isEmpty = false := by simpa using hne
      have hdot : '.'.toUInt8 ∈ if path.isEmpty then [] else path ++ lit "." := by
        rw [hempty]
        exact List.mem_append_right _ (by decide)
      rw [find?_flattenMembers hk ms _ _ _ hdot]
      simp [Ne.symm hpath]
    all_goals simp [Ne.symm hpath]

theorem find?_flattenMembers (hk : '.'.toUInt8 ∉ k) (ms : List (List UInt8 × Json))
    (result : FlatEvent) (pre : Str) (depth : ℕ) (hpre : '.'.toUInt8 ∈ pre) :
    (flattenMembers ms result pre depth).find? k = result.find? k := by
  match ms with
  | [] => rw [flattenMembers]
  | (key, value) :: ms =>
    have hmem : '.'.toUInt8 ∈ pre ++ escapeKey key := List.mem_append_left _ hpre
    rw [flattenMembers, find?_flattenMembers hk ms _ _ _ hpre,
      find?_flattenImpl hk value _ _ _ (List.ne_nil_of_mem hmem) (fun h ↦ hk (h ▸ hmem))]

end

theorem escapeKey_ne_nil {key : Str} (h : key ≠ []) : escapeKey key ≠ [] := by
  cases key with
  | nil => exact absurd rfl h
  | cons c key =>
    rw [escapeKey, List.flatMap_cons]
    split <;> simp

/-- The members of the event itself write at their own path or below it. -/
theorem find?_flattenMembers_of_none (hk : '.'.toUInt8 ∉ k) (ms : List (List UInt8 × Json))
    (hne : AssocList.find? [] ms = none) (hms : AssocList.find? k ms = none) (result : FlatEvent)
    (depth : ℕ) : (flattenMembers ms result [] depth).find? k = result.find? k := by
  induction ms generalizing result with
  | nil => rw [flattenMembers]
  | cons e ms ih =>
    obtain ⟨key, value⟩ := e
    rw [AssocList.find?_cons] at hne hms
    split_ifs at hne hms with h1 h2
    rw [flattenMembers, ih hne hms, List.nil_append, find?_flattenImpl hk value _ _ _
      (escapeKey_ne_nil h1) (mt (escapeKey_eq_iff hk key).mp h2)]

theorem find?_flattenMembers_of_string (hk : '.'.toUInt8 ∉ k) (ms : List (List UInt8 × Json))
    (hsorted : AssocList.Sorted ms) (hne : AssocList.find? [] ms = none) {s : Str}
    (hms : AssocList.find? k ms = some (.string s)) (result : FlatEvent) {depth : ℕ}
    (hdepth : depth ≤ 100) :
    (flattenMembers ms result [] depth).find? k = some (.string s) := by
  induction ms generalizing result with
  | nil => simp at hms
  | cons e ms ih =>
    obtain ⟨key, value⟩ := e
    rw [AssocList.Sorted, List.pairwise_cons] at hsorted
    rw [AssocList.find?_cons] at hne hms
    split_ifs at hne with h1
    split_ifs at hms with h2
    · -- no later member has the key again
      obtain rfl := Option.some.inj hms
      subst h2
      have hlater : AssocList.find? key ms = none :=
        AssocList.find?_eq_none_iff.mpr fun e he ↦ (hsorted.1 e he).ne'
      rw [flattenMembers, find?_flattenMembers_of_none hk ms hne hlater, List.nil_append,
        flattenImpl, if_neg (by omega), (escapeKey_eq_iff hk key).mpr rfl]
      simp
    · rw [flattenMembers]
      exact ih hsorted.2 hne hms _

/-- **A string member of an event, with a name free of dots, stands under its name.** -/
theorem find?_flattenEvent_ofMembers (m : SortedMap Str Json) (hne : m.find? [] = none)
    (hk : '.'.toUInt8 ∉ k) {s : Str} (hm : m.find? k = some (.string s)) :
    (flattenEvent (Json.ofMembers m)).find? k = some (.string s) := by
  rw [flattenEvent, Json.ofMembers]
  split
  · next h => rw [SortedMap.find?, h] at hm; cases hm
  · rw [flattenImpl, if_neg (by omega)]
    exact find?_flattenMembers_of_string hk m.entries m.sorted hne hm _ (Nat.le_of_ble_eq_true rfl)

end Mtx.PushRules
