import Mathlib.Data.List.Pairwise
import Mathlib.Order.Lattice
import Mathlib.Order.Monotone.Defs

/-!
# Sorted association lists

An ordered map kept as a list of key/value pairs.  `AssocList` has the operations on the bare list,
`AssocList.Sorted` is the invariant they keep, and `SortedMap` bundles the two, so that a value of
that type cannot hold a key twice or keep its keys out of order.

The lookup laws (`find?_insert`, `find?_erase`) hold of any list, sorted or not: `insert` stops at
the first key that is not smaller than the new one, and `find?` stops at the first equal one.  So
nothing that only reads and writes ever needs the invariant.  What the invariant buys is `ext`: two
sorted lists that answer every lookup alike are the same list.
-/

set_option autoImplicit false

namespace AssocList

variable {κ ν μ : Type} [LinearOrder κ]

/-- The value stored under `k`. -/
def find? (k : κ) : List (κ × ν) → Option ν
  | [] => none
  | (a, v) :: m => if a = k then some v else find? k m

/-- Store `v` under `k`, in place of whatever was there. -/
def insert (k : κ) (v : ν) : List (κ × ν) → List (κ × ν)
  | [] => [(k, v)]
  | (a, w) :: m =>
    if k < a then (k, v) :: (a, w) :: m
    else if k = a then (k, v) :: m
    else (a, w) :: insert k v m

/-- Remove `k`. -/
def erase (k : κ) (m : List (κ × ν)) : List (κ × ν) := m.filter fun e ↦ decide (e.1 ≠ k)

/-- Keep only the entries whose key satisfies `p`. -/
def restrict (p : κ → Bool) (m : List (κ × ν)) : List (κ × ν) := m.filter fun e ↦ p e.1

/-- Replace every value by one that may depend on its key. -/
def mapWithKey (f : κ → ν → μ) (m : List (κ × ν)) : List (κ × μ) := m.map fun e ↦ (e.1, f e.1 e.2)

/-- The keys stand in strictly increasing order. -/
def Sorted (m : List (κ × ν)) : Prop := m.Pairwise fun a b ↦ a.1 < b.1

instance (m : List (κ × ν)) : Decidable (Sorted m) :=
  inferInstanceAs (Decidable (m.Pairwise fun a b ↦ a.1 < b.1))

/-! ## Lookups -/

@[simp] theorem find?_nil (k : κ) : find? k ([] : List (κ × ν)) = none := rfl

theorem find?_cons (k a : κ) (v : ν) (m : List (κ × ν)) :
    find? k ((a, v) :: m) = if a = k then some v else find? k m := rfl

theorem find?_insert_self (k : κ) (v : ν) (m : List (κ × ν)) :
    find? k (insert k v m) = some v := by
  induction m with
  | nil => simp [insert, find?]
  | cons e m ih =>
    obtain ⟨a, w⟩ := e
    rw [insert]
    split_ifs with h1 h2
    · simp [find?]
    · simp [find?]
    · simp [find?, Ne.symm h2, ih]

theorem find?_insert_of_ne {k k' : κ} (h : k' ≠ k) (v : ν) (m : List (κ × ν)) :
    find? k' (insert k v m) = find? k' m := by
  induction m with
  | nil => simp [insert, find?, Ne.symm h]
  | cons e m ih =>
    obtain ⟨a, w⟩ := e
    rw [insert]
    split_ifs with h1 h2
    · simp [find?, Ne.symm h]
    · subst h2; simp [find?, Ne.symm h]
    · by_cases ha : a = k' <;> simp [find?, ha, ih]

@[simp] theorem find?_insert (k k' : κ) (v : ν) (m : List (κ × ν)) :
    find? k' (insert k v m) = if k' = k then some v else find? k' m := by
  split_ifs with h
  · rw [h, find?_insert_self]
  · exact find?_insert_of_ne h v m

@[simp] theorem find?_restrict (p : κ → Bool) (k : κ) (m : List (κ × ν)) :
    find? k (restrict p m) = if p k then find? k m else none := by
  induction m with
  | nil => simp [restrict]
  | cons e m ih =>
    obtain ⟨a, w⟩ := e
    rw [restrict] at ih ⊢
    rw [List.filter_cons]
    by_cases ha : a = k
    · subst ha
      cases hp : p a with
      | false => simp [ih, hp]
      | true => simp [find?]
    · cases hpa : p a with
      | false => simp [ih, find?, ha]
      | true => simp [find?, ha, ih]

theorem erase_eq_restrict (k : κ) (m : List (κ × ν)) :
    erase k m = restrict (fun a ↦ decide (a ≠ k)) m := rfl

@[simp] theorem find?_erase (k k' : κ) (m : List (κ × ν)) :
    find? k' (erase k m) = if k' = k then none else find? k' m := by
  rw [erase_eq_restrict, find?_restrict]
  by_cases h : k' = k <;> simp [h]

@[simp] theorem find?_map (f : ν → μ) (k : κ) (m : List (κ × ν)) :
    find? k (m.map fun e ↦ (e.1, f e.2)) = (find? k m).map f := by
  induction m with
  | nil => simp
  | cons e m ih =>
    obtain ⟨a, w⟩ := e
    by_cases ha : a = k <;> simp [find?, ha, ih]

theorem find?_mapWithKey (f : κ → ν → μ) (k : κ) (m : List (κ × ν)) :
    find? k (mapWithKey f m) = (find? k m).map (f k) := by
  induction m with
  | nil => rfl
  | cons e m ih =>
    obtain ⟨a, w⟩ := e
    rw [mapWithKey, List.map_cons, ← mapWithKey, find?_cons, find?_cons, ih]
    by_cases ha : a = k
    · rw [if_pos ha, if_pos ha, ha]
      rfl
    · rw [if_neg ha, if_neg ha]

theorem mapWithKey_insert (f : κ → ν → μ) (k : κ) (v : ν) (m : List (κ × ν)) :
    mapWithKey f (insert k v m) = insert k (f k v) (mapWithKey f m) := by
  induction m with
  | nil => rfl
  | cons e m ih =>
    obtain ⟨a, w⟩ := e
    rw [insert, mapWithKey, mapWithKey, List.map_cons, insert, ← mapWithKey]
    split_ifs with h1 h2
    · rfl
    · rfl
    · rw [mapWithKey, List.map_cons, ← mapWithKey, ← mapWithKey, ih]

theorem mem_of_find? {k : κ} {v : ν} {m : List (κ × ν)} (h : find? k m = some v) :
    (k, v) ∈ m := by
  induction m with
  | nil => simp at h
  | cons e m ih =>
    obtain ⟨a, w⟩ := e
    rw [find?_cons] at h
    split_ifs at h with ha
    · cases h; subst ha; exact List.mem_cons_self
    · exact List.mem_cons_of_mem _ (ih h)

theorem find?_eq_none_iff {k : κ} {m : List (κ × ν)} :
    find? k m = none ↔ ∀ e ∈ m, e.1 ≠ k := by
  induction m with
  | nil => simp
  | cons e m ih =>
    obtain ⟨a, w⟩ := e
    rw [find?_cons]
    by_cases ha : a = k
    · simp [ha]
    · simp [ha, ih]

theorem erase_of_find?_none {k : κ} {m : List (κ × ν)} (h : find? k m = none) :
    erase k m = m :=
  List.filter_eq_self.mpr fun e he ↦ decide_eq_true (find?_eq_none_iff.mp h e he)

/-! ## The invariant -/

theorem sorted_nil : Sorted ([] : List (κ × ν)) := List.Pairwise.nil

theorem Sorted.find?_of_mem {m : List (κ × ν)} (hm : Sorted m) {e : κ × ν} (he : e ∈ m) :
    find? e.1 m = some e.2 := by
  induction m with
  | nil => simp at he
  | cons d m ih =>
    obtain ⟨a, w⟩ := d
    rw [Sorted, List.pairwise_cons] at hm
    rcases List.mem_cons.mp he with rfl | he
    · simp [find?]
    · rw [find?_cons, if_neg (hm.1 e he).ne]
      exact ih hm.2 he

/-- Where only the entry of a key contributes, it is what that entry contributes. -/
theorem Sorted.flatMap_eq {m : List (κ × ν)} (hm : Sorted m) {k : κ} {f : κ × ν → List μ}
    (hf : ∀ e, e.1 ≠ k → f e = []) : m.flatMap f = (find? k m).elim [] fun v ↦ f (k, v) := by
  induction m with
  | nil => rfl
  | cons d m ih =>
    obtain ⟨a, v⟩ := d
    rw [Sorted, List.pairwise_cons] at hm
    rw [List.flatMap_cons, find?_cons]
    by_cases h : a = k
    · have hrest : m.flatMap f = [] :=
        List.flatMap_eq_nil_iff.mpr fun e he ↦ hf e (h ▸ (hm.1 e he).ne')
      rw [if_pos h, hrest, List.append_nil, h, Option.elim_some]
    · rw [if_neg h, hf _ h, List.nil_append, ih hm.2]

theorem mem_insert {k : κ} {v : ν} {e : κ × ν} {m : List (κ × ν)} (h : e ∈ insert k v m) :
    e = (k, v) ∨ e ∈ m := by
  induction m with
  | nil => exact Or.inl (by simpa [insert] using h)
  | cons d m ih =>
    obtain ⟨a, w⟩ := d
    rw [insert] at h
    split_ifs at h with h1 h2
    · exact List.mem_cons.mp h
    · rcases List.mem_cons.mp h with rfl | h
      · exact Or.inl rfl
      · exact Or.inr (List.mem_cons_of_mem _ h)
    · rcases List.mem_cons.mp h with rfl | h
      · exact Or.inr List.mem_cons_self
      · exact (ih h).imp_right (List.mem_cons_of_mem _)

theorem Sorted.insert {m : List (κ × ν)} (hm : Sorted m) (k : κ) (v : ν) :
    Sorted (AssocList.insert k v m) := by
  induction m with
  | nil => simp [AssocList.insert, Sorted]
  | cons d m ih =>
    obtain ⟨a, w⟩ := d
    have hm' := hm
    rw [Sorted, List.pairwise_cons] at hm'
    obtain ⟨ha, hrest⟩ := hm'
    rw [AssocList.insert]
    split_ifs with h1 h2
    · refine List.Pairwise.cons (fun e he ↦ ?_) hm
      rcases List.mem_cons.mp he with rfl | he
      · exact h1
      · exact h1.trans (ha e he)
    · subst h2
      exact List.Pairwise.cons ha hrest
    · refine List.Pairwise.cons (fun e he ↦ ?_) (ih hrest)
      rcases mem_insert he with rfl | he
      · exact lt_of_le_of_ne (not_lt.mp h1) (Ne.symm h2)
      · exact ha e he

theorem Sorted.restrict {m : List (κ × ν)} (hm : Sorted m) (p : κ → Bool) :
    Sorted (AssocList.restrict p m) :=
  List.Pairwise.filter _ hm

theorem Sorted.erase {m : List (κ × ν)} (hm : Sorted m) (k : κ) : Sorted (AssocList.erase k m) := by
  rw [erase_eq_restrict]
  exact hm.restrict _

theorem Sorted.map {m : List (κ × ν)} (hm : Sorted m) (f : ν → μ) :
    Sorted (m.map fun e ↦ (e.1, f e.2)) :=
  List.Pairwise.map _ (fun _ _ h ↦ h) hm

/-- **A sorted list is determined by its lookups.** -/
theorem Sorted.ext {m n : List (κ × ν)} (hm : Sorted m) (hn : Sorted n)
    (h : ∀ k, find? k m = find? k n) : m = n := by
  induction m generalizing n with
  | nil =>
    cases n with
    | nil => rfl
    | cons e n => simpa [find?] using h e.1
  | cons d m ih =>
    cases n with
    | nil => simpa [find?] using h d.1
    | cons e n =>
      obtain ⟨a, v⟩ := d
      obtain ⟨b, w⟩ := e
      rw [Sorted, List.pairwise_cons] at hm hn
      -- the smaller of the two heads would be missing from the other list
      have hab : a = b := by
        rcases lt_trichotomy a b with hlt | heq | hgt
        · have ha := h a
          rw [find?_cons, if_pos rfl, find?_cons, if_neg hlt.ne'] at ha
          exact absurd rfl ((hlt.trans (hn.1 _ (mem_of_find? ha.symm))).ne)
        · exact heq
        · have hb := h b
          rw [find?_cons, if_neg hgt.ne', find?_cons, if_pos rfl] at hb
          exact absurd rfl ((hgt.trans (hm.1 _ (mem_of_find? hb))).ne)
      subst hab
      have hvw : v = w := by simpa [find?] using h a
      subst hvw
      refine congrArg _ (ih hm.2 hn.2 fun k ↦ ?_)
      by_cases hk : a = k
      · subst hk
        rw [find?_eq_none_iff.mpr fun e he ↦ (hm.1 e he).ne',
          find?_eq_none_iff.mpr fun e he ↦ (hn.1 e he).ne']
      · simpa [find?, hk] using h k

end AssocList

/-! ## Bundled maps -/

/-- A map whose entries are kept in strictly increasing key order. -/
structure SortedMap (κ ν : Type) [LinearOrder κ] where
  /-- The entries, smallest key first. -/
  entries : List (κ × ν)
  /-- No key stands twice, and none out of order. -/
  sorted : AssocList.Sorted entries

namespace SortedMap

variable {κ ν μ : Type} [LinearOrder κ]

instance [DecidableEq ν] : DecidableEq (SortedMap κ ν) := fun a b ↦
  decidable_of_iff (a.entries = b.entries) (by cases a; cases b; simp)

/-- The map without entries. -/
def empty : SortedMap κ ν := ⟨[], AssocList.sorted_nil⟩

instance : Inhabited (SortedMap κ ν) := ⟨empty⟩

/-- The value stored under `k`. -/
def find? (m : SortedMap κ ν) (k : κ) : Option ν := AssocList.find? k m.entries

/-- Store `v` under `k`. -/
def insert (m : SortedMap κ ν) (k : κ) (v : ν) : SortedMap κ ν :=
  ⟨AssocList.insert k v m.entries, m.sorted.insert k v⟩

/-- Store `v` under `k` if `c` holds. -/
def insertIf (m : SortedMap κ ν) (c : Bool) (k : κ) (v : ν) : SortedMap κ ν :=
  if c then m.insert k v else m

/-- Apply `f` to every value. -/
def map (f : ν → μ) (m : SortedMap κ ν) : SortedMap κ μ := ⟨_, m.sorted.map f⟩

/-- Store the entries of a list, left to right. -/
def ofList (l : List (κ × ν)) : SortedMap κ ν := l.foldl (fun m e ↦ m.insert e.1 e.2) empty

@[simp] theorem find?_empty (k : κ) : (empty : SortedMap κ ν).find? k = none := rfl

@[simp] theorem find?_insert (m : SortedMap κ ν) (k k' : κ) (v : ν) :
    (m.insert k v).find? k' = if k' = k then some v else m.find? k' :=
  AssocList.find?_insert k k' v m.entries

@[simp] theorem find?_insertIf (m : SortedMap κ ν) (c : Bool) (k k' : κ) (v : ν) :
    (m.insertIf c k v).find? k' = if c = true ∧ k' = k then some v else m.find? k' := by
  cases c <;> simp [insertIf]

@[simp] theorem find?_map (f : ν → μ) (m : SortedMap κ ν) (k : κ) :
    (m.map f).find? k = (m.find? k).map f :=
  AssocList.find?_map f k m.entries

@[ext] theorem ext {m n : SortedMap κ ν} (h : ∀ k, m.find? k = n.find? k) : m = n := by
  obtain ⟨es, hes⟩ := m
  obtain ⟨fs, hfs⟩ := n
  have : es = fs := hes.ext hfs h
  subst this
  rfl

theorem mem_entries_iff {m : SortedMap κ ν} {k : κ} {v : ν} :
    (k, v) ∈ m.entries ↔ m.find? k = some v :=
  ⟨fun h ↦ m.sorted.find?_of_mem h, AssocList.mem_of_find?⟩

/-! ### What holds of all entries -/

/-- `P` holds of every entry. -/
def All (P : κ → ν → Prop) (m : SortedMap κ ν) : Prop := ∀ k v, m.find? k = some v → P k v

theorem All.empty {P : κ → ν → Prop} : (empty : SortedMap κ ν).All P := fun _ _ h ↦ by cases h

theorem All.insert {P : κ → ν → Prop} {m : SortedMap κ ν} (hm : m.All P) {k : κ} {v : ν}
    (h : P k v) : (m.insert k v).All P := fun k' v' hfind ↦ by
  rw [find?_insert] at hfind
  split_ifs at hfind with hk
  · rwa [hk, ← Option.some.inj hfind]
  · exact hm k' v' hfind

theorem All.insertIf {P : κ → ν → Prop} {m : SortedMap κ ν} (hm : m.All P) {c : Bool} {k : κ}
    {v : ν} (h : P k v) : (m.insertIf c k v).All P := by
  cases c with
  | false => exact hm
  | true => exact hm.insert h

theorem all_ofList {P : κ → ν → Prop} {l : List (κ × ν)} (h : ∀ e ∈ l, P e.1 e.2) :
    (ofList l).All P := by
  have hfold : ∀ (l : List (κ × ν)), (∀ e ∈ l, P e.1 e.2) → ∀ m : SortedMap κ ν, m.All P →
      (l.foldl (fun m e ↦ m.insert e.1 e.2) m).All P := by
    intro l
    induction l with
    | nil => exact fun _ _ hm ↦ hm
    | cons e l ih =>
      intro hl m hm
      obtain ⟨he, hl⟩ := List.forall_mem_cons.mp hl
      exact ih hl _ (hm.insert he)
  exact hfold l h empty All.empty

/-! ### Rebuilding a map -/

/-- Storing a list whose keys are new to `m` and stand in increasing order puts all of it there. -/
theorem find?_foldl_insert (l : List (κ × ν)) (hl : AssocList.Sorted l) (m : SortedMap κ ν)
    (k : κ) : (l.foldl (fun m e ↦ m.insert e.1 e.2) m).find? k =
      (AssocList.find? k l).or (m.find? k) := by
  induction l generalizing m with
  | nil => simp
  | cons e l ih =>
    obtain ⟨a, v⟩ := e
    rw [AssocList.Sorted, List.pairwise_cons] at hl
    rw [List.foldl_cons, ih hl.2, AssocList.find?_cons, find?_insert]
    by_cases hk : a = k
    · subst hk
      rw [AssocList.find?_eq_none_iff.mpr fun e he ↦ (hl.1 e he).ne']
      simp
    · simp [hk, Ne.symm hk]

/-- **Rebuilding a map from a sorted list of entries gives that list back.** -/
theorem ofList_eq (l : List (κ × ν)) (hl : AssocList.Sorted l) : ofList l = ⟨l, hl⟩ := by
  ext k : 1
  rw [ofList, find?_foldl_insert l hl, find?_empty, Option.or_none, find?]

/-- Storing the entries of a map under keys in the same order loses none of them. -/
theorem find?_foldl_insert_entries {f : κ → κ} (hf : StrictMono f) (g : ν → μ)
    (m : SortedMap κ ν) (k : κ) (w : μ) :
    (m.entries.foldl (fun acc e ↦ acc.insert (f e.1) (g e.2)) empty).find? k = some w ↔
      ∃ a v, m.find? a = some v ∧ f a = k ∧ g v = w := by
  have hsorted : AssocList.Sorted (m.entries.map fun e ↦ (f e.1, g e.2)) := by
    rw [AssocList.Sorted, List.pairwise_map]
    exact m.sorted.imp fun h ↦ hf h
  have hfold : m.entries.foldl (fun acc e ↦ acc.insert (f e.1) (g e.2)) empty =
      ofList (m.entries.map fun e ↦ (f e.1, g e.2)) := by
    rw [ofList, List.foldl_map]
  rw [hfold, ofList_eq _ hsorted, ← mem_entries_iff, List.mem_map]
  simp only [Prod.exists, Prod.mk.injEq, mem_entries_iff]

theorem foldl_insert_entries (g : ν → μ) (m : SortedMap κ ν) :
    m.entries.foldl (fun acc e ↦ acc.insert e.1 (g e.2)) empty = m.map g := by
  have hmap := ofList_eq _ (m.sorted.map g)
  rwa [ofList, List.foldl_map] at hmap

/-- Putting the entries of a map one after the other, each under a key that is not there yet. -/
theorem foldlM_insert {ε : Type} {g : ν → μ}
    {step : SortedMap κ μ → κ × ν → Except ε (SortedMap κ μ)} (m : SortedMap κ ν)
    (h : ∀ e ∈ m.entries, ∀ acc : SortedMap κ μ, acc.find? e.1 = none →
      step acc e = .ok (acc.insert e.1 (g e.2))) :
    m.entries.foldlM step empty = .ok (m.map g) := by
  have hrun : ∀ (es : List (κ × ν)), AssocList.Sorted es →
      (∀ e ∈ es, ∀ acc : SortedMap κ μ, acc.find? e.1 = none →
        step acc e = .ok (acc.insert e.1 (g e.2))) →
      ∀ acc : SortedMap κ μ, (∀ e ∈ es, acc.find? e.1 = none) →
        es.foldlM step acc = .ok (es.foldl (fun acc e ↦ acc.insert e.1 (g e.2)) acc) := by
    intro es
    induction es with
    | nil => exact fun _ _ _ _ ↦ rfl
    | cons e es ih =>
      intro hsorted hes acc hacc
      obtain ⟨hlt, hsorted⟩ := List.pairwise_cons.mp hsorted
      obtain ⟨he, hes⟩ := List.forall_mem_cons.mp hes
      obtain ⟨hnone, hacc⟩ := List.forall_mem_cons.mp hacc
      rw [List.foldlM_cons, he acc hnone, List.foldl_cons]
      refine ih hsorted hes _ ?_
      intro e' he'
      rw [find?_insert, if_neg (hlt e' he').ne']
      exact hacc e' he'
  rw [hrun m.entries m.sorted h empty fun e _ ↦ find?_empty e.1, foldl_insert_entries]

end SortedMap
