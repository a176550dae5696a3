import Mathlib.Data.Int.ModEq
import Mathlib.Data.List.Induction
import MtxClient.PushRules.Evaluator
import MtxClient.PushRules.Paths
import MtxClient.PushRules.Rules

/-!
# Comparing values exactly

The conditions `event_property_is` and `event_property_contains` compare a value of the event with
one of the condition.  Both go through a variant whose integers have 64 bits and a sign.  `Scalar`
has the values as they are in the JSON, with integers of any size, and `Scalar.wrap` is what the
variant keeps of them.

A condition looks at the value that was stored last under its key (`lastNode`).  So it is right
about the value that a path leads to unless that value lies too deep, another one has replaced it,
two integers differ by a multiple of `2 ^ 64`, or the value is the object `m.mentions`, for which
`null` is stored.  `event_property_iff` says that these are the only cases, and
`event_property_exact` what the conditions mean where no path looks like another one.
-/

set_option autoImplicit false

namespace Mtx.PushRules

open Str

/-! ## Values -/

/-- A JSON value that is neither compound nor a floating point number. -/
inductive Scalar where
  | string (s : Str)
  | int (n : ℤ)
  | bool (b : Bool)
  | null
  deriving DecidableEq

/-- The scalar that a JSON value is. -/
def scalar? : Json → Option Scalar
  | .string s => some (.string s)
  | .null => some .null
  | .boolean b => some (.bool b)
  | .numberInteger i => some (.int i.toInt)
  | .numberUnsigned u => some (.int u.toNat)
  | _ => none

/-- What a variant keeps of a scalar. -/
def Scalar.wrap : Scalar → NonCompoundValue
  | string s => .string s
  | int n => .int (Int64.ofInt n)
  | bool b => .bool b
  | null => .null

theorem toInt64_eq_ofInt (u : UInt64) : u.toInt64 = Int64.ofInt u.toNat := by
  apply Int64.toBitVec_inj.mp
  rw [Int64.toBitVec_ofInt, BitVec.ofInt_natCast]
  exact (UInt64.ofNat_toNat (x := u)).symm.trans rfl |> congrArg UInt64.toBitVec

/-- Integers are kept modulo `2 ^ 64`. -/
theorem ofInt_eq_ofInt_iff (m n : ℤ) : Int64.ofInt m = Int64.ofInt n ↔ m ≡ n [ZMOD 2 ^ 64] := by
  rw [← Int64.toInt_inj, Int64.toInt_ofInt, Int64.toInt_ofInt]
  constructor
  · intro h
    have hmod := congrArg (· % (Int64.size : ℤ)) h
    rwa [Int.bmod_emod, Int.bmod_emod] at hmod
  · intro h
    have hmod : m % (Int64.size : ℤ) = n % (Int64.size : ℤ) := h
    rw [← Int.emod_bmod, hmod, Int.emod_bmod]

theorem nonCompound_eq (x : Json) : nonCompound x = (scalar? x).map Scalar.wrap := by
  rcases x with - | b | i | u | f | s | xs | ms
  case numberInteger =>
    exact congrArg (fun i ↦ some (NonCompoundValue.int i)) (Int64.ofInt_toInt i).symm
  case numberUnsigned =>
    exact congrArg (fun i ↦ some (NonCompoundValue.int i)) (toInt64_eq_ofInt u)
  all_goals rfl

/-- The value of a condition is read in the same way. -/
theorem toNonCompoundJsonValue_eq (v : Json) :
    toNonCompoundJsonValue v = .ok ((scalar? v).map Scalar.wrap) := by
  rw [← nonCompound_eq]
  rcases v with - | b | i | u | f | s | xs | ms <;> rfl

/-- What is stored for a value other than an array. -/
theorem leafValue_eq {x : Json} (hx : x.isArray = false) :
    leafValue x = (scalar? x).map fun c ↦ c.wrap.toPushValue := by
  have h := nonCompound_eq x
  rcases x with - | b | i | u | f | s | xs | ms
  case array => cases hx
  case numberInteger => exact congrArg (Option.map NonCompoundValue.toPushValue) h
  case numberUnsigned => exact congrArg (Option.map NonCompoundValue.toPushValue) h
  all_goals rfl

theorem toPushValue_inj {v w : NonCompoundValue} : v.toPushValue = w.toPushValue ↔ v = w := by
  cases v <;> cases w <;> simp [NonCompoundValue.toPushValue]

/-- Two scalars that are kept alike are the same, or integers that differ by a multiple of
`2 ^ 64`. -/
theorem wrap_eq_wrap_iff (c d : Scalar) : c.wrap = d.wrap ↔
    c = d ∨ ∃ m n : ℤ, m ≠ n ∧ m ≡ n [ZMOD 2 ^ 64] ∧ c = .int m ∧ d = .int n := by
  rcases c with s | m | b | - <;> rcases d with t | n | b' | -
  case int.int =>
    rw [Scalar.wrap, Scalar.wrap, NonCompoundValue.int.injEq, ofInt_eq_ofInt_iff]
    constructor
    · intro h
      by_cases hmn : m = n
      · exact Or.inl (congrArg Scalar.int hmn)
      · exact Or.inr ⟨m, n, hmn, h, rfl, rfl⟩
    · rintro (h | ⟨_, _, -, h, hm, hn⟩)
      · rw [Scalar.int.inj h]
      · rwa [Scalar.int.inj hm, Scalar.int.inj hn]
  all_goals simp [Scalar.wrap]

/-! ## What is stored under a key -/

/-- The last of the values that are stored under a key, with its path. -/
def lastNode (j : Json) (key : Str) : Option (List Str × Json) :=
  ((nodes j 0).filter fun n ↦ (stored [] n).any (·.1 == key)).getLast?

theorem find?_storeAll_eq (es : List (Str × PushValue)) (key : Str) (result : FlatEvent) :
    (storeAll result es).find? key =
      ((es.filter (·.1 == key)).getLast?.map Prod.snd).or (result.find? key) := by
  induction es using List.reverseRecOn with
  | nil => rfl
  | append_singleton es e ih =>
    have hstore : storeAll result (es ++ [e]) = (storeAll result es).insert e.1 e.2 :=
      List.foldl_append
    rw [hstore, SortedMap.find?_insert, List.filter_append, ih]
    by_cases hkey : key = e.1
    · simp [hkey]
    · have hne : (e.1 == key) = false := beq_eq_false_iff_ne.mpr (Ne.symm hkey)
      simp [hkey, hne]

theorem flatKey_of_stored {q : List Str} {x : Json} {key : Str} {v : PushValue}
    (h : stored [] (q, x) = some (key, v)) : flatKey q = key := by
  rw [stored] at h
  split_ifs at h with hobject hkey
  · exact hkey.trans (congrArg Prod.fst (Option.some.inj h))
  · obtain ⟨w, -, hw⟩ := Option.map_eq_some_iff.mp h
    exact congrArg Prod.fst hw

theorem getLast?_filter_filterMap {α β : Type} (f : α → Option β) (p : β → Bool) (xs : List α) :
    ((xs.filterMap f).filter p).getLast? =
      (xs.filter fun x ↦ (f x).any p).getLast?.bind f := by
  induction xs using List.reverseRecOn with
  | nil => rfl
  | append_singleton xs x ih =>
    rw [List.filterMap_append, List.filter_append, List.filter_append]
    rcases hx : f x with - | y
    · simpa [hx] using ih
    · by_cases hy : p y = true
      · simp [hx, hy]
      · simpa [hx, hy] using ih

theorem find?_flattenEvent_eq (j : Json) (key : Str) : (flattenEvent j).find? key =
    (lastNode j key).bind fun n ↦ (stored [] n).map Prod.snd := by
  rw [flattenEvent, flattenImpl_eq, find?_storeAll_eq, getLast?_filter_filterMap, lastNode,
    SortedMap.find?_empty, Option.or_none, Option.map_bind]
  rfl

/-- What is stored last is stored for a value of the event. -/
theorem of_lastNode_eq_some {j : Json} (hj : j.sorted = true) {key : Str} {q : List Str} {x : Json}
    (h : lastNode j key = some (q, x)) :
    (j.atPath? q = some x ∧ q.length ≤ 100) ∧ ∃ v, stored [] (q, x) = some (key, v) := by
  have hmem := List.mem_filter.mp (List.mem_of_getLast? h)
  obtain ⟨⟨key', v⟩, he, hkey⟩ := (Option.any_eq_true _ _).mp hmem.2
  obtain rfl := beq_iff_eq.mp hkey
  obtain ⟨hat, hlength⟩ := (mem_nodes_iff j hj 0 q x).mp hmem.1
  exact ⟨⟨hat, by omega⟩, v, he⟩

/-- Something is stored under the text of a path of at most 100 keys to a value that is stored. -/
theorem lastNode_ne_none {j : Json} (hj : j.sorted = true) {p : List Str} {x : Json}
    (hat : j.atPath? p = some x) (hp : p.length ≤ 100) {v : PushValue}
    (hstored : stored [] (p, x) = some (flatKey p, v)) : lastNode j (flatKey p) ≠ none := by
  have hmem : (p, x) ∈ nodes j 0 := (mem_nodes_iff j hj 0 p x).mpr ⟨hat, by omega⟩
  rw [lastNode, ne_eq, List.getLast?_eq_none_iff]
  refine List.ne_nil_of_mem (List.mem_filter.mpr ⟨hmem, ?_⟩)
  rw [hstored]
  exact beq_self_eq_true _

theorem stored_of_leafValue {x : Json} {v : PushValue} (hv : leafValue x = some v)
    (p : List Str) : stored [] (p, x) = some (flatKey p, v) := by
  have hobject : x.isObject = false := by
    rcases x with - | b | i | u | f | s | xs | ms <;> first | rfl | cases hv
  rw [stored, if_neg (by simp [hobject]), hv]
  rfl

/-! ## What the conditions take for equal -/

/-- The value is the scalar. -/
def Is (x : Json) (c : Scalar) : Prop := scalar? x = some c

/-- The value is an array with the scalar. -/
def Has (x : Json) (c : Scalar) : Prop := ∃ ys, x = .array ys ∧ ∃ y ∈ ys, Is y c

/-- The scalar is an integer, and another one is there that differs from it by a multiple of
`2 ^ 64`. -/
def Wrapped (rel : Json → Scalar → Prop) (x : Json) (c : Scalar) : Prop :=
  ∃ m n : ℤ, m ≠ n ∧ m ≡ n [ZMOD 2 ^ 64] ∧ c = .int n ∧ rel x (.int m)

/-- What `event_property_is` takes for the scalar. -/
def TakenFor (x : Json) (c : Scalar) : Prop :=
  Is x c ∨ Wrapped Is x c ∨ x.isObject = true ∧ c = .null

/-- What `event_property_contains` takes for an array with the scalar. -/
def TakenForArray (x : Json) (c : Scalar) : Prop := Has x c ∨ Wrapped Has x c

theorem exists_wrap_eq_iff (x : Json) (c : Scalar) :
    (∃ d, scalar? x = some d ∧ d.wrap = c.wrap) ↔ Is x c ∨ Wrapped Is x c := by
  constructor
  · rintro ⟨d, hd, hwrap⟩
    rcases (wrap_eq_wrap_iff d c).mp hwrap with rfl | ⟨m, n, hne, hmod, rfl, rfl⟩
    · exact Or.inl hd
    · exact Or.inr ⟨m, n, hne, hmod, rfl, hd⟩
  · rintro (hd | ⟨m, n, hne, hmod, rfl, hd⟩)
    · exact ⟨c, hd, rfl⟩
    · exact ⟨.int m, hd, (wrap_eq_wrap_iff _ _).mpr (Or.inr ⟨m, n, hne, hmod, rfl, rfl⟩)⟩

theorem stored_eq_iff {q : List Str} {x : Json} {e : Str × PushValue}
    (he : stored [] (q, x) = some e) (c : Scalar) :
    e.2 = c.wrap.toPushValue ↔ TakenFor x c := by
  rw [stored] at he
  by_cases hobject : x.isObject = true
  · have hnull : (PushValue.null = c.wrap.toPushValue) ↔ c = .null := by
      cases c <;> simp [Scalar.wrap, NonCompoundValue.toPushValue]
    have hscalar : scalar? x = none := by
      rcases x with - | b | i | u | f | s | xs | ms <;> first | rfl | cases hobject
    rw [if_pos hobject] at he
    split_ifs at he
    rw [← Option.some.inj he, hnull, TakenFor, Wrapped]
    simp [Is, hscalar, hobject]
  · rw [if_neg hobject] at he
    obtain ⟨v, hv, rfl⟩ := Option.map_eq_some_iff.mp he
    have htaken : TakenFor x c ↔ ∃ d, scalar? x = some d ∧ d.wrap = c.wrap := by
      rw [exists_wrap_eq_iff, TakenFor]
      simp [hobject]
    rw [htaken]
    rcases harray : x.isArray with - | -
    · rw [leafValue_eq harray] at hv
      obtain ⟨d, hd, rfl⟩ := Option.map_eq_some_iff.mp hv
      simp [hd, toPushValue_inj]
    · rcases x with - | b | i | u | f | s | xs | ms <;> try cases harray
      obtain rfl := Option.some.inj hv
      cases c <;> simp [Scalar.wrap, NonCompoundValue.toPushValue, scalar?]

theorem isCondition_matches_iff {j : Json} (hj : j.sorted = true) (key : Str) (c : Scalar) :
    (IsCondition.mk c.wrap key).matches (flattenEvent j) = true ↔
      ∃ q x, lastNode j key = some (q, x) ∧ TakenFor x c := by
  rw [IsCondition.matches, find?_flattenEvent_eq]
  rcases hnode : lastNode j key with - | ⟨q, x⟩
  · simp
  · obtain ⟨-, v, he⟩ := of_lastNode_eq_some hj hnode
    rw [Option.bind_some, he]
    simp [← stored_eq_iff he]

theorem has_array_iff (ys : List Json) (c : Scalar) : Has (.array ys) c ↔ ∃ y ∈ ys, Is y c := by
  constructor
  · rintro ⟨_, h, hys⟩
    obtain rfl := Json.array.inj h
    exact hys
  · exact fun hys ↦ ⟨ys, rfl, hys⟩

theorem takenForArray_array_iff (ys : List Json) (c : Scalar) :
    TakenForArray (.array ys) c ↔ c.wrap ∈ ys.filterMap nonCompound := by
  have hmem : c.wrap ∈ ys.filterMap nonCompound ↔ ∃ y ∈ ys, Is y c ∨ Wrapped Is y c := by
    simp only [List.mem_filterMap, nonCompound_eq, Option.map_eq_some_iff, exists_wrap_eq_iff]
  rw [hmem, TakenForArray, has_array_iff]
  constructor
  · rintro (⟨y, hy, h⟩ | ⟨m, n, hne, hmod, hc, h⟩)
    · exact ⟨y, hy, Or.inl h⟩
    · obtain ⟨y, hy, h⟩ := (has_array_iff ys _).mp h
      exact ⟨y, hy, Or.inr ⟨m, n, hne, hmod, hc, h⟩⟩
  · rintro ⟨y, hy, h | ⟨m, n, hne, hmod, hc, h⟩⟩
    · exact Or.inl ⟨y, hy, h⟩
    · exact Or.inr ⟨m, n, hne, hmod, hc, (has_array_iff ys _).mpr ⟨y, hy, h⟩⟩

theorem isArray_of_takenForArray {x : Json} {c : Scalar} (h : TakenForArray x c) :
    x.isArray = true := by
  rcases h with ⟨_, rfl, -⟩ | ⟨_, _, -, -, -, _, rfl, -⟩ <;> rfl

/-- Only for an array an array is stored. -/
theorem exists_array_of_stored {q : List Str} {x : Json} {e : Str × PushValue}
    (he : stored [] (q, x) = some e) {vs : List NonCompoundValue} (harray : e.2 = .array vs) :
    ∃ ys, x = .array ys ∧ vs = ys.filterMap nonCompound := by
  rw [stored] at he
  split_ifs at he
  · rw [← Option.some.inj he] at harray
    cases harray
  · obtain ⟨v, hv, rfl⟩ := Option.map_eq_some_iff.mp he
    obtain rfl : v = .array vs := harray
    rcases x with - | b | i | u | f | s | xs | ms
    case array => exact ⟨xs, rfl, (PushValue.array.inj (Option.some.inj hv)).symm⟩
    all_goals cases hv

theorem containsCondition_matches_iff {j : Json} (hj : j.sorted = true) (key : Str) (c : Scalar) :
    (ContainsCondition.mk c.wrap key).matches (flattenEvent j) = true ↔
      ∃ q x, lastNode j key = some (q, x) ∧ TakenForArray x c := by
  rw [ContainsCondition.matches, find?_flattenEvent_eq]
  rcases hnode : lastNode j key with - | ⟨q, x⟩
  · simp
  · obtain ⟨-, v, he⟩ := of_lastNode_eq_some hj hnode
    have hright : (∃ q' x', some (q, x) = some (q', x') ∧ TakenForArray x' c) ↔
        TakenForArray x c := by simp
    rw [Option.bind_some, he, hright, Option.map_some]
    constructor
    · intro h
      split at h
      · next vs hvs =>
        obtain ⟨ys, rfl, rfl⟩ := exists_array_of_stored he (Option.some.inj hvs)
        exact (takenForArray_array_iff ys c).mpr (List.contains_iff_mem.mp h)
      · cases h
    · intro h
      have harray := isArray_of_takenForArray h
      rcases x with - | b | i | u | f | s | ys | ms <;> try cases harray
      obtain rfl : PushValue.array (ys.filterMap nonCompound) = v :=
        congrArg Prod.snd (Option.some.inj he)
      exact List.contains_iff_mem.mpr ((takenForArray_array_iff ys c).mp h)

/-! ## When the comparison is exact -/

/-- The path leads to a value in the relation. -/
def ValueAt (rel : Json → Scalar → Prop) (j : Json) (p : List Str) (c : Scalar) : Prop :=
  ∃ x, j.atPath? p = some x ∧ rel x c

/-- A condition with the text of the path `p` as its key is right: `rel` is what it means, and
`taken` how it compares. -/
structure RightAt (rel taken : Json → Scalar → Prop) (j : Json) (p : List Str) (c : Scalar) :
    Prop where
  /-- If nothing is stored under the key, there is nothing to be found at a path of more than 100
  keys. -/
  deep : lastNode j (flatKey p) = none → 100 < p.length → ¬ ValueAt rel j p c
  /-- A value is taken for the scalar only if it is. -/
  faithful : ∀ x, lastNode j (flatKey p) = some (p, x) → taken x c → rel x c
  /-- If the value of another path is stored under the key, it makes no difference. -/
  replaced : ∀ q x, lastNode j (flatKey p) = some (q, x) → q ≠ p →
    (taken x c ↔ ValueAt rel j p c)

theorem rightAt_iff {rel taken : Json → Scalar → Prop} {j : Json} (hj : j.sorted = true)
    {p : List Str} {c : Scalar} {b : Bool} (htaken : ∀ x, rel x c → taken x c)
    (hleaf : ∀ x, rel x c → ∃ v, leafValue x = some v)
    (hb : b = true ↔ ∃ q x, lastNode j (flatKey p) = some (q, x) ∧ taken x c) :
    (b = true ↔ ValueAt rel j p c) ↔ RightAt rel taken j p c := by
  rw [hb]
  rcases hnode : lastNode j (flatKey p) with - | ⟨q, x⟩
  · have hnone : ¬ ∃ q x, (none : Option (List Str × Json)) = some (q, x) ∧ taken x c := by
      rintro ⟨q, x, h, -⟩
      cases h
    have hcases : ∀ q x, lastNode j (flatKey p) ≠ some (q, x) := by
      intro q x h
      rw [hnode] at h
      cases h
    rw [iff_false_left hnone]
    constructor
    · intro h
      exact ⟨fun _ _ ↦ h, fun x hx ↦ absurd hx (hcases p x), fun q x hx ↦ absurd hx (hcases q x)⟩
    · rintro h ⟨x, hat, hrel⟩
      obtain ⟨v, hv⟩ := hleaf x hrel
      have hp : 100 < p.length := by
        by_contra hp
        exact lastNode_ne_none hj hat (by omega) (stored_of_leafValue hv p) hnode
      exact h.deep hnode hp ⟨x, hat, hrel⟩
  · have hsome : (∃ q' x', some (q, x) = some (q', x') ∧ taken x' c) ↔ taken x c := by simp
    have hat := (of_lastNode_eq_some hj hnode).1.1
    rw [hsome]
    constructor
    · intro h
      refine ⟨fun hnone ↦ absurd (hnode.symm.trans hnone) nofun, ?_, ?_⟩
      · intro y hy htaken
        obtain ⟨rfl, rfl⟩ := Prod.mk.inj (Option.some.inj (hnode.symm.trans hy))
        obtain ⟨z, hz, hrel⟩ := h.mp htaken
        obtain rfl := Option.some.inj (hat.symm.trans hz)
        exact hrel
      · intro r y hy hr
        obtain ⟨rfl, rfl⟩ := Prod.mk.inj (Option.some.inj (hnode.symm.trans hy))
        exact h
    · intro h
      by_cases hq : q = p
      · subst hq
        constructor
        · intro ht
          exact ⟨x, hat, h.faithful x hnode ht⟩
        · rintro ⟨y, hy, hrel⟩
          obtain rfl := Option.some.inj (hat.symm.trans hy)
          exact htaken x hrel
      · exact h.replaced q x hnode hq

theorem exists_leafValue_of_is {x : Json} {c : Scalar} (h : Is x c) :
    ∃ v, leafValue x = some v := by
  rcases x with - | b | i | u | f | s | xs | ms
  case numberFloat => cases h
  case array => cases h
  case object => cases h
  all_goals exact ⟨_, rfl⟩

theorem exists_leafValue_of_has {x : Json} {c : Scalar} (h : Has x c) :
    ∃ v, leafValue x = some v := by
  obtain ⟨ys, rfl, -⟩ := h
  exact ⟨_, rfl⟩

/-- **When the conditions on a property compare exactly**, for every event, every path of keys and
every value `v` of the condition. -/
theorem event_property_iff {j : Json} (hj : j.sorted = true) (p : List Str) {v : Json} {c : Scalar}
    (hv : scalar? v = some c) :
    toNonCompoundJsonValue v = .ok (some c.wrap) ∧
    (((IsCondition.mk c.wrap (flatKey p)).matches (flattenEvent j) = true ↔ ValueAt Is j p c) ↔
      RightAt Is TakenFor j p c) ∧
    (((ContainsCondition.mk c.wrap (flatKey p)).matches (flattenEvent j) = true ↔
        ValueAt Has j p c) ↔ RightAt Has TakenForArray j p c) := by
  refine ⟨by rw [toNonCompoundJsonValue_eq, hv]; rfl, ?_, ?_⟩
  · exact rightAt_iff hj (fun x ↦ Or.inl) (fun x ↦ exists_leafValue_of_is)
      (isCondition_matches_iff hj _ c)
  · exact rightAt_iff hj (fun x ↦ Or.inl) (fun x ↦ exists_leafValue_of_has)
      (containsCondition_matches_iff hj _ c)

/-- The path leads to an object whose presence is recorded as `null`. -/
def MarkerAt (j : Json) (p : List Str) : Prop :=
  flatKey p = mentionsKey ∧ ∃ x, j.atPath? p = some x ∧ x.isObject = true

theorem stored_of_isObject {p : List Str} {x : Json} (hobject : x.isObject = true) {key : Str}
    {v : PushValue} : stored [] (p, x) = some (key, v) ↔
      flatKey p = mentionsKey ∧ key = mentionsKey ∧ v = .null := by
  rw [stored, if_pos hobject]
  split_ifs with hkey
  · simp [flatKey, show flatKeyFrom [] p = mentionsKey from hkey, eq_comm]
  · simp [flatKey, show ¬ flatKeyFrom [] p = mentionsKey from hkey]

/-- What is stored under the text of a path that no other path shares. -/
theorem exists_lastNode_iff {j : Json} (hj : j.sorted = true) {p : List Str}
    (honly : ∀ q x, j.atPath? q = some x → flatKey q = flatKey p → q = p) {taken : Json → Prop} :
    (∃ q x, lastNode j (flatKey p) = some (q, x) ∧ taken x) ↔
      p.length ≤ 100 ∧ ∃ x, j.atPath? p = some x ∧
        (∃ v, stored [] (p, x) = some (flatKey p, v)) ∧ taken x := by
  constructor
  · rintro ⟨q, x, hnode, htaken⟩
    obtain ⟨⟨hat, hlength⟩, v, hv⟩ := of_lastNode_eq_some hj hnode
    obtain rfl := honly q x hat (flatKey_of_stored hv)
    exact ⟨hlength, x, hat, ⟨v, hv⟩, htaken⟩
  · rintro ⟨hlength, x, hat, ⟨v, hv⟩, htaken⟩
    rcases hnode : lastNode j (flatKey p) with - | ⟨q, y⟩
    · exact absurd hnode (lastNode_ne_none hj hat hlength hv)
    · obtain ⟨⟨haty, -⟩, w, hw⟩ := of_lastNode_eq_some hj hnode
      obtain rfl := honly q y haty (flatKey_of_stored hw)
      obtain rfl := Option.some.inj (hat.symm.trans haty)
      exact ⟨q, x, rfl, htaken⟩

/-- **The conditions on a property compare values exactly**, for a path that no other path of the
event looks like, with two exceptions by design: values behind more than 100 keys are not looked at,
and the object `m.mentions` stands for `null`. -/
theorem event_property_exact {j : Json} (hj : j.sorted = true) {p : List Str}
    (honly : ∀ q x, j.atPath? q = some x → flatKey q = flatKey p → q = p) {v : Json} {c : Scalar}
    (hv : scalar? v = some c)
    (hwrap : ∀ x, j.atPath? p = some x →
      (Wrapped Is x c → Is x c) ∧ (Wrapped Has x c → Has x c)) :
    toNonCompoundJsonValue v = .ok (some c.wrap) ∧
    ((IsCondition.mk c.wrap (flatKey p)).matches (flattenEvent j) = true ↔
      p.length ≤ 100 ∧ (ValueAt Is j p c ∨ c = .null ∧ MarkerAt j p)) ∧
    ((ContainsCondition.mk c.wrap (flatKey p)).matches (flattenEvent j) = true ↔
      p.length ≤ 100 ∧ ValueAt Has j p c) := by
  refine ⟨by rw [toNonCompoundJsonValue_eq, hv]; rfl, ?_, ?_⟩
  · rw [isCondition_matches_iff hj, exists_lastNode_iff hj honly]
    refine and_congr_right fun _ ↦ ?_
    constructor
    · rintro ⟨x, hat, ⟨w, hw⟩, his | hwrapped | ⟨hobject, hc⟩⟩
      · exact Or.inl ⟨x, hat, his⟩
      · exact Or.inl ⟨x, hat, (hwrap x hat).1 hwrapped⟩
      · exact Or.inr ⟨hc, ((stored_of_isObject hobject).mp hw).1, x, hat, hobject⟩
    · rintro (⟨x, hat, his⟩ | ⟨hc, hkey, x, hat, hobject⟩)
      · obtain ⟨w, hw⟩ := exists_leafValue_of_is his
        exact ⟨x, hat, ⟨w, stored_of_leafValue hw p⟩, Or.inl his⟩
      · exact ⟨x, hat, ⟨.null, (stored_of_isObject hobject).mpr ⟨hkey, hkey, rfl⟩⟩,
          Or.inr (Or.inr ⟨hobject, hc⟩)⟩
  · rw [containsCondition_matches_iff hj, exists_lastNode_iff hj honly]
    refine and_congr_right fun _ ↦ ?_
    constructor
    · rintro ⟨x, hat, -, hhas | hwrapped⟩
      · exact ⟨x, hat, hhas⟩
      · exact ⟨x, hat, (hwrap x hat).2 hwrapped⟩
    · rintro ⟨x, hat, hhas⟩
      obtain ⟨w, hw⟩ := exists_leafValue_of_has hhas
      exact ⟨x, hat, ⟨w, stored_of_leafValue hw p⟩, Or.inl hhas⟩

/-- An event whose content has the number `u` as its member `n`. -/
def numberedEvent (u : UInt64) : Json :=
  .object [("content", .object [("n", .numberUnsigned u)])]

theorem atPath?_numberedEvent {u : UInt64} {q : List Str} {x : Json}
    (h : (numberedEvent u).atPath? q = some x) :
    q = [] ∨ q = ["content"] ∨ q = ["content", "n"] := by
  have hsingle : ∀ {k k' : Str} {v w : Json},
      (Json.object [(k, v)]).find? k' = some w → k' = k ∧ w = v := by
    intro k k' v w h
    simp only [Json.find?, AssocList.find?_cons, AssocList.find?_nil] at h
    split_ifs at h with hk
    exact ⟨hk.symm, (Option.some.inj h).symm⟩
  rcases q with - | ⟨k, q⟩
  · exact Or.inl rfl
  obtain ⟨y, hy, h⟩ := Json.atPath?_cons_eq_some_iff.mp h
  obtain ⟨rfl, rfl⟩ := hsingle hy
  rcases q with - | ⟨k, q⟩
  · exact Or.inr (Or.inl rfl)
  obtain ⟨y, hy, h⟩ := Json.atPath?_cons_eq_some_iff.mp h
  obtain ⟨rfl, rfl⟩ := hsingle hy
  rcases q with - | ⟨k, q⟩
  · exact Or.inr (Or.inr rfl)
  obtain ⟨y, hy, h⟩ := Json.atPath?_cons_eq_some_iff.mp h
  cases hy

theorem isCondition_matches_five : (IsCondition.mk (Scalar.int 5).wrap
    (flatKey ["content", "n"])).matches (flattenEvent (numberedEvent 5)) = true := by
  have honly : ∀ q x, (numberedEvent 5).atPath? q = some x →
      flatKey q = flatKey ["content", "n"] → q = ["content", "n"] := by
    intro q x hat hkey
    rcases atPath?_numberedEvent hat with rfl | rfl | rfl
    · exact absurd hkey (by decide)
    · exact absurd hkey (by decide)
    · rfl
  have hat : (numberedEvent 5).atPath? ["content", "n"] = some (.numberUnsigned 5) := rfl
  have h := event_property_exact (show (numberedEvent 5).sorted = true by decide) honly
    (show scalar? (.numberUnsigned 5) = some (.int 5) from rfl) ?_
  · exact h.2.1.mpr ⟨by decide, Or.inl ⟨_, hat, rfl⟩⟩
  · intro x hx
    obtain rfl := Option.some.inj (hat.symm.trans hx)
    refine ⟨fun _ ↦ rfl, ?_⟩
    rintro ⟨_, _, -, -, -, _, hys, -⟩
    cases hys

-- The largest number is taken for `-1`.
example :
    (IsCondition.mk (Scalar.int (-1)).wrap (flatKey ["content", "n"])).matches
      (flattenEvent (numberedEvent 18446744073709551615)) = true := by
  decide

/-- The object `m.mentions` is taken for `null`. -/
theorem mentions_is_null :
    (IsCondition.mk Scalar.null.wrap (flatKey mentionsPath)).matches
      (flattenEvent dottedEvent) = true ∧ ¬ ValueAt Is dottedEvent mentionsPath .null := by
  refine ⟨by decide, ?_⟩
  rintro ⟨x, hat, hx⟩
  obtain rfl : Json.object [] = x := Option.some.inj hat
  cases hx

end Mtx.PushRules
