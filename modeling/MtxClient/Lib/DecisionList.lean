import MtxClient.Lib.SortedMap

/-!
# Decision lists

A decision list is a list of rules of which the first one that applies gives the answer.  The lemmas
are about the ways in which such a list is prepared for being evaluated often:

* it is split into several lists that are tried one after the other (`answer?_append`);
* its rules are compiled one by one, and those that cannot apply are dropped (`answer?_filterMap`);
* rules that apply to a single key are put into a map (`find?_indexBy`);
* the test of a rule may fail with an exception, but does not (`answerM?_eq_ok`);
* rules with one answer are made to apply more often (`answer?_of_extended`).
-/

set_option autoImplicit false

namespace DecisionList

variable {α β γ κ ε : Type} [LinearOrder κ]

/-- The answer of the first rule that applies. -/
def answer? (applies : α → Bool) (answer : α → γ) (rules : List α) : Option γ :=
  (rules.find? applies).map answer

/-- The answer of the first rule that applies, where the test can fail. -/
def answerM? (applies : α → Except ε Bool) (answer : α → γ) : List α → Except ε (Option γ)
  | [] => .ok none
  | r :: rules => do
    if ← applies r then return some (answer r) else answerM? applies answer rules

/-- The rules worth keeping, stored under their keys; a later rule replaces an earlier one. -/
def indexBy (keep : α → Bool) (key : α → κ) (value : α → γ) (rules : List α) : SortedMap κ γ :=
  rules.foldl (fun m r ↦ m.insertIf (keep r) (key r) (value r)) SortedMap.empty

variable {applies : α → Bool} {answer : α → γ}

@[simp] theorem answer?_nil : answer? applies answer [] = none := rfl

theorem answer?_cons (r : α) (rules : List α) :
    answer? applies answer (r :: rules) =
      if applies r then some (answer r) else answer? applies answer rules := by
  rw [answer?, List.find?_cons]
  cases applies r <;> rfl

theorem answer?_append (rules rules' : List α) :
    answer? applies answer (rules ++ rules') =
      (answer? applies answer rules).or (answer? applies answer rules') := by
  rw [answer?, List.find?_append, Option.map_or]
  rfl

theorem answer?_map (f : β → α) (rules : List β) :
    answer? applies answer (rules.map f) =
      answer? (fun r ↦ applies (f r)) (fun r ↦ answer (f r)) rules := by
  rw [answer?, List.find?_map, Option.map_map]
  rfl

/-- **Compiling the rules one by one keeps the answers**, if a rule applies exactly when it is
compiled to one that does, with the same answer. -/
theorem answer?_filterMap {applies' : β → Bool} {answer' : β → γ} (compile : α → Option β)
    (rules : List α)
    (h : ∀ r ∈ rules, match compile r with
      | some r' => applies' r' = applies r ∧ answer' r' = answer r
      | none => applies r = false) :
    answer? applies' answer' (rules.filterMap compile) = answer? applies answer rules := by
  induction rules with
  | nil => rfl
  | cons r rules ih =>
    have hr := h r List.mem_cons_self
    have hrules := ih fun a ha ↦ h a (List.mem_cons_of_mem _ ha)
    rw [List.filterMap_cons, answer?_cons]
    cases hc : compile r with
    | none =>
      rw [hc] at hr
      rw [hr, hrules]
      rfl
    | some r' =>
      rw [hc] at hr
      rw [answer?_cons, hr.1, hr.2, hrules]

theorem answer?_congr {applies' : α → Bool} (rules : List α)
    (h : ∀ r ∈ rules, applies' r = applies r) :
    answer? applies' answer rules = answer? applies answer rules := by
  have hc : answer? applies' answer (rules.filterMap some) = answer? applies answer rules :=
    answer?_filterMap some rules fun r hr ↦ ⟨h r hr, rfl⟩
  rwa [List.filterMap_some] at hc

/-- **A rule that applies more often** can only change the answer to its own. -/
theorem answer?_of_extended {applies' : α → Bool} {b : γ} (rules : List α)
    (hkept : ∀ r ∈ rules, applies r = true → applies' r = true)
    (hnew : ∀ r ∈ rules, applies' r = true → applies r = true ∨ answer r = b) :
    answer? applies' answer rules = answer? applies answer rules ∨
      answer? applies' answer rules = some b := by
  induction rules with
  | nil => exact Or.inl rfl
  | cons r rules ih =>
    obtain ⟨hr, hkept⟩ := List.forall_mem_cons.mp hkept
    obtain ⟨hr', hnew⟩ := List.forall_mem_cons.mp hnew
    rw [answer?_cons, answer?_cons]
    by_cases happlies : applies r = true
    · rw [if_pos happlies, if_pos (hr happlies)]
      exact Or.inl rfl
    · rw [if_neg happlies]
      by_cases happlies' : applies' r = true
      · rw [if_pos happlies', (hr' happlies').resolve_left happlies]
        exact Or.inr rfl
      · rw [if_neg happlies']
        exact ih hkept hnew

theorem answerM?_eq_ok {test : α → Except ε Bool} (rules : List α)
    (h : ∀ r ∈ rules, test r = .ok (applies r)) :
    answerM? test answer rules = .ok (answer? applies answer rules) := by
  induction rules with
  | nil => rfl
  | cons r rules ih =>
    rw [answerM?, h r List.mem_cons_self, answer?_cons]
    cases applies r with
    | true => rfl
    | false => exact ih fun a ha ↦ h a (List.mem_cons_of_mem _ ha)

/-- **Looking up a map of rules is evaluating them**, if no two of them have the same key. -/
theorem find?_indexBy {keep : α → Bool} {key : α → κ} (rules : List α)
    (hkey : (rules.map key).Nodup) (k : κ) :
    (indexBy keep key answer rules).find? k =
      answer? (fun r ↦ keep r && decide (key r = k)) answer rules := by
  suffices h : ∀ m : SortedMap κ γ,
      (rules.foldl (fun m r ↦ m.insertIf (keep r) (key r) (answer r)) m).find? k =
        (answer? (fun r ↦ keep r && decide (key r = k)) answer rules).or (m.find? k) by
    rw [indexBy, h, SortedMap.find?_empty, Option.or_none]
  induction rules with
  | nil => intro m; rfl
  | cons r rules ih =>
    intro m
    rw [List.map_cons, List.nodup_cons] at hkey
    rw [List.foldl_cons, ih hkey.2, SortedMap.find?_insertIf, answer?_cons]
    by_cases hk : key r = k
    · -- the key does not come again, so that the last rule is also the first
      have hnone : answer? (fun r ↦ keep r && decide (key r = k)) answer rules = none := by
        rw [answer?, Option.map_eq_none_iff, List.find?_eq_none]
        intro a ha hak
        simp only [Bool.and_eq_true, decide_eq_true_eq] at hak
        exact hkey.1 (List.mem_map.mpr ⟨a, ha, hak.2.trans hk.symm⟩)
      rw [hnone]
      cases keep r <;> simp [hk]
    · simp [hk, Ne.symm hk]

end DecisionList
