import MtxClient.Json.Text

/-!
# Reading what was written

What the accessors answer on objects, maps and arrays that were written by `ofMembers`, `ofMap` and
`ofArray`.  With these lemmas a proof that a type is read back as it was written is a matter of
looking up its members.
-/

set_option autoImplicit false

namespace Mtx

section

variable {α : Type}

/-- The read does not throw. -/
def Succeeds (x : Except Exn α) : Prop := ∃ a, x = .ok a

theorem exists_eq_ok_iff {x : Except Exn α} : (∃ a, x = .ok a) ↔ Succeeds x := Iff.rfl

@[simp] theorem succeeds_ok (a : α) : Succeeds (.ok a : Except Exn α) := ⟨a, rfl⟩

@[simp] theorem succeeds_pure (a : α) : Succeeds (pure a : Except Exn α) := ⟨a, rfl⟩

@[simp] theorem not_succeeds_error (e : Exn) : ¬ Succeeds (.error e : Except Exn α) := by
  rintro ⟨a, h⟩
  cases h

theorem succeeds_bind_iff {β : Type} {x : Except Exn α} {f : α → Except Exn β} :
    Succeeds (x >>= f) ↔ ∃ a, x = .ok a ∧ Succeeds (f a) := by
  rcases x with e | a
  · simp
  · simp

@[simp] theorem succeeds_map_iff {β : Type} {x : Except Exn α} {f : α → β} :
    Succeeds (f <$> x) ↔ Succeeds x := by
  rcases x with e | a
  · exact iff_of_false (not_succeeds_error e) (not_succeeds_error e)
  · exact iff_of_true (succeeds_ok (f a)) (succeeds_ok a)

theorem map_eq_ok_iff {β : Type} {x : Except Exn α} {f : α → β} {b : β} :
    f <$> x = .ok b ↔ ∃ a, x = .ok a ∧ f a = b := by
  rcases x with e | a
  · exact iff_of_false nofun nofun
  · exact ⟨fun h ↦ ⟨a, rfl, Except.ok.inj h⟩, fun ⟨a', ha, hb⟩ ↦ by cases ha; rw [← hb]; rfl⟩

theorem exists_map_eq_ok_iff {β : Type} {x : Except Exn α} {f : α → β} {p : β → Prop} :
    (∃ b, f <$> x = .ok b ∧ p b) ↔ ∃ a, x = .ok a ∧ p (f a) := by
  simp only [map_eq_ok_iff]
  constructor
  · rintro ⟨_, ⟨a, ha, rfl⟩, hp⟩
    exact ⟨a, ha, hp⟩
  · rintro ⟨a, ha, hp⟩
    exact ⟨f a, ⟨a, ha, rfl⟩, hp⟩

/-- Two reads one after the other, where the second does not depend on the answer of the first. -/
theorem succeeds_bind_iff_and {β : Type} {x : Except Exn α} {f : α → Except Exn β} {p : Prop}
    (h : ∀ a, Succeeds (f a) ↔ p) : Succeeds (x >>= f) ↔ Succeeds x ∧ p := by
  rw [succeeds_bind_iff]
  exact ⟨fun ⟨a, hx, hf⟩ ↦ ⟨⟨a, hx⟩, (h a).mp hf⟩, fun ⟨⟨a, hx⟩, hp⟩ ↦ ⟨a, hx, (h a).mpr hp⟩⟩

/-- A list is read if its elements are. -/
theorem succeeds_mapM_iff {β : Type} {f : α → Except Exn β} {xs : List α} :
    Succeeds (xs.mapM f) ↔ ∀ x ∈ xs, Succeeds (f x) := by
  induction xs with
  | nil => simp
  | cons x xs ih =>
    rw [List.mapM_cons, succeeds_bind_iff_and fun a ↦ succeeds_bind_iff_and fun _ ↦
      iff_of_true (succeeds_pure _) trivial, ih]
    simp

theorem length_of_mapM_eq_ok {β : Type} {f : α → Except Exn β} {xs : List α} {ys : List β}
    (h : xs.mapM f = .ok ys) : xs.length = ys.length := by
  induction xs generalizing ys with
  | nil =>
    rw [List.mapM_nil] at h
    rw [← Except.ok.inj h]
    rfl
  | cons x xs ih =>
    rw [List.mapM_cons] at h
    obtain ⟨y, -, h⟩ := bind_eq_ok_iff.mp h
    obtain ⟨ys', hys, h⟩ := bind_eq_ok_iff.mp h
    rw [← Except.ok.inj h, List.length_cons, List.length_cons, ih hys]

/-- The answers of reading a list are those of its elements. -/
theorem mem_of_mapM_eq_ok {β : Type} {f : α → Except Exn β} {xs : List α} {ys : List β}
    (h : xs.mapM f = .ok ys) :
    (∀ y ∈ ys, ∃ x ∈ xs, f x = .ok y) ∧ ∀ x ∈ xs, ∃ y ∈ ys, f x = .ok y := by
  induction xs generalizing ys with
  | nil =>
    rw [List.mapM_nil] at h
    rw [← Except.ok.inj h]
    exact ⟨List.forall_mem_nil _, List.forall_mem_nil _⟩
  | cons x xs ih =>
    rw [List.mapM_cons] at h
    obtain ⟨y, hy, h⟩ := bind_eq_ok_iff.mp h
    obtain ⟨ys', hys, h⟩ := bind_eq_ok_iff.mp h
    obtain ⟨hfrom, hto⟩ := ih hys
    rw [← Except.ok.inj h]
    constructor
    · refine List.forall_mem_cons.mpr ⟨⟨x, List.mem_cons_self, hy⟩, ?_⟩
      intro y' hy'
      obtain ⟨x', hx', heq⟩ := hfrom y' hy'
      exact ⟨x', List.mem_cons_of_mem _ hx', heq⟩
    · refine List.forall_mem_cons.mpr ⟨⟨y, List.mem_cons_self, hy⟩, ?_⟩
      intro x' hx'
      obtain ⟨y', hy', heq⟩ := hto x' hx'
      exact ⟨y', List.mem_cons_of_mem _ hy', heq⟩

end

namespace Json

variable {α : Type} {get : Json → Except Exn α}

/-! ## Reads that succeed -/

theorem succeeds_getString_iff {j : Json} : Succeeds j.getString ↔ ∃ s, j = string s := by
  cases j <;> simp [getString]

theorem succeeds_getBool_iff {j : Json} : Succeeds j.getBool ↔ ∃ b, j = boolean b := by
  cases j <;> simp [getBool]

theorem succeeds_optional_iff {j : Json} {k : Str} {d : α} :
    Succeeds (j.optional k get d) ↔ ∀ v, j.find? k = some v → Succeeds (get v) := by
  rw [optional]
  rcases j.find? k with - | v <;> simp

/-- An array is read if its elements are. -/
theorem succeeds_getArray_iff {j : Json} :
    Succeeds (j.getArray get) ↔ ∃ xs, j = array xs ∧ ∀ x ∈ xs, Succeeds (get x) := by
  rcases j with - | b | i | u | f | s | xs | ms
  case array => simp [getArray, succeeds_mapM_iff]
  all_goals simp [getArray]

/-- Only the empty array is read as one. -/
theorem eq_array_nil_of_getArray {j : Json} (h : j.getArray get = .ok []) : j = .array [] := by
  cases j
  case array xs => rw [List.eq_nil_of_length_eq_zero (length_of_mapM_eq_ok h)]
  all_goals cases h

/-! ## The accessors in terms of `find?` -/

theorem atKey_eq (j : Json) (k : Str) : j.atKey k = match j.find? k with
    | some v => .ok v
    | none => .error (if j.isObject then .jsonOutOfRange 403 else .jsonTypeError 304) := by
  cases j with
  | object ms =>
    rw [atKey, find?]
    rcases AssocList.find? k ms with - | v <;> rfl
  | _ => rfl

theorem value_eq (j : Json) (k : Str) (d : α) : j.value k get d = match j.find? k with
    | some v => get v
    | none => if j.isObject then .ok d else .error (.jsonTypeError 306) := by
  cases j with
  | object ms =>
    rw [value, find?]
    rcases AssocList.find? k ms with - | v <;> rfl
  | _ => rfl

theorem succeeds_value_iff {j : Json} {k : Str} {d : α} : Succeeds (j.value k get d) ↔
    j.isObject = true ∧ ∀ v, j.find? k = some v → Succeeds (get v) := by
  rw [value_eq]
  rcases hv : j.find? k with - | v
  · by_cases hobj : j.isObject = true <;> simp [hobj]
  · simp [isObject_of_find? hv]

/-- On objects, `value` and a check with `contains` are the same. -/
theorem value_eq_optional {j : Json} (hj : j.isObject = true) (k : Str) (d : α) :
    j.value k get d = j.optional k get d := by
  cases j with
  | object ms => rw [value, optional, find?]
  | _ => simp [isObject] at hj

theorem optional_of_find? {j v : Json} {k : Str} (h : j.find? k = some v) (d : α) :
    j.optional k get d = get v := by
  rw [optional, h]

theorem optional_of_find?_none {j : Json} {k : Str} (h : j.find? k = none) (d : α) :
    j.optional k get d = .ok d := by
  rw [optional, h]

@[simp] theorem find?_object_entries (m : SortedMap Str Json) (k : Str) :
    (object m.entries).find? k = m.find? k := rfl

theorem atKey_ofMembers {m : SortedMap Str Json} {k : Str} {v : Json} (h : m.find? k = some v) :
    (ofMembers m).atKey k = .ok v :=
  atKey_of_find? ((find?_ofMembers m k).trans h)

theorem optional_ofMembers {m : SortedMap Str Json} {k : Str} {v : Json} (h : m.find? k = some v)
    (d : α) : (ofMembers m).optional k get d = get v :=
  optional_of_find? ((find?_ofMembers m k).trans h) d

theorem optional_ofMembers_none {m : SortedMap Str Json} {k : Str} (h : m.find? k = none) (d : α) :
    (ofMembers m).optional k get d = .ok d :=
  optional_of_find?_none ((find?_ofMembers m k).trans h) d

/-- A member that is only written when it differs from the default. -/
theorem optional_insertIf {m : SortedMap Str Json} {k : Str} {c : Bool} {v : Json} {a d : α}
    (h : m.find? k = if c = true then some v else none) (hget : c = true → get v = .ok a)
    (hd : c = false → d = a) : (ofMembers m).optional k get d = .ok a := by
  cases c with
  | false => rw [optional_ofMembers_none h, hd rfl]
  | true => rw [optional_ofMembers h, hget rfl]

theorem isObject_ofMembers {m : SortedMap Str Json} {k : Str} {v : Json} (h : m.find? k = some v) :
    (ofMembers m).isObject = true :=
  isObject_of_find? ((find?_ofMembers m k).trans h)

@[simp] theorem isObject_ofMembers_insert (m : SortedMap Str Json) (k : Str) (v : Json) :
    (ofMembers (m.insert k v)).isObject = true := by
  rw [ofMembers_insert]
  rfl

@[simp] theorem isObject_ofMembers_insertIf (m : SortedMap Str Json) (c : Bool) (k : Str)
    (v : Json) : (ofMembers (m.insertIf c k v)).isObject = (c || (ofMembers m).isObject) := by
  cases c with
  | false => rfl
  | true => exact isObject_ofMembers_insert m k v

/-! ## Arrays and maps -/

variable {put : α → Json}

theorem mapM_map_eq_ok {β : Type} {put : β → Json} {g : β → α} (h : ∀ b, get (put b) = .ok (g b))
    (xs : List β) : (xs.map put).mapM get = .ok (xs.map g) := by
  induction xs with
  | nil => rfl
  | cons b xs ih => rw [List.map_cons, List.mapM_cons, h, ok_bind, ih]; rfl

@[simp] theorem isArray_ofArray (xs : List α) : (ofArray put xs).isArray = true := rfl

/-- An array is read as what it was written from. -/
theorem getArray_ofArray (h : ∀ a, get (put a) = .ok a) (xs : List α) :
    (ofArray put xs).getArray get = .ok xs :=
  (mapM_map_eq_ok h xs).trans (congrArg _ (List.map_id'' (fun _ ↦ rfl) xs))

theorem getArray_ofArray_map {β : Type} {put : β → Json} {g : β → α}
    (h : ∀ b, get (put b) = .ok (g b)) (xs : List β) :
    (ofArray put xs).getArray get = .ok (xs.map g) := mapM_map_eq_ok h xs

theorem getMap_ofMap_map {β : Type} {put : β → Json} {g : β → α}
    (h : ∀ b, get (put b) = .ok (g b)) (m : SortedMap Str β) :
    (ofMap put m).getMap get = .ok (m.map g) := by
  have hmapM : ∀ es : List (Str × β), ((es.map fun e ↦ (e.1, put e.2)).mapM fun e ↦ do
      return (e.1, ← get e.2) : Except Exn (List (Str × α))) =
        .ok (es.map fun e ↦ (e.1, g e.2)) := by
    intro es
    induction es with
    | nil => rfl
    | cons e es ih => rw [List.map_cons, List.mapM_cons, ih, h]; rfl
  rw [ofMap, getMap, hmapM, ok_bind, SortedMap.ofList_eq _ (m.sorted.map g)]
  rfl

/-- A map is read as what it was written from. -/
theorem getMap_ofMap (h : ∀ a, get (put a) = .ok a) (m : SortedMap Str α) :
    (ofMap put m).getMap get = .ok m :=
  (getMap_ofMap_map h m).trans (congrArg _ (SortedMap.ext fun k ↦ by simp))

/-! ## The length of a text -/

theorem length_le_quote (s : Str) : s.length ≤ (quote s).length := by
  have hescape : ∀ s : Str, s.length ≤ (s.flatMap escapeByte).length := by
    intro s
    induction s with
    | nil => exact Nat.le_refl 0
    | cons b s ih =>
      have hpos : 0 < (escapeByte b).length := by
        rw [escapeByte]
        split_ifs <;> exact Nat.succ_pos _
      rw [List.flatMap_cons, List.length_append, List.length_cons]
      omega
  have := hescape s
  rw [quote, List.length_append, List.length_append]
  omega

theorem length_dumpText_le_of_mem_list {x : Json} {xs : List Json} (h : x ∈ xs) :
    x.dumpText.length ≤ (dumpList xs).length := by
  induction xs with
  | nil => cases h
  | cons y ys ih =>
    rcases ys with - | ⟨z, ys⟩
    · rw [List.mem_singleton.mp h, dumpList]
    · rw [dumpList, List.length_append, List.length_append]
      · rcases List.mem_cons.mp h with rfl | h
        · omega
        · have := ih h
          omega
      · exact List.cons_ne_nil z ys

theorem length_dumpText_le_of_mem_members {k : Str} {x : Json} {ms : List (Str × Json)}
    (h : (k, x) ∈ ms) : x.dumpText.length ≤ (dumpMembers ms).length := by
  induction ms with
  | nil => cases h
  | cons m ms ih =>
    obtain ⟨k', y⟩ := m
    rcases ms with - | ⟨z, ms⟩
    · obtain ⟨rfl, rfl⟩ := Prod.mk.inj (List.mem_singleton.mp h)
      rw [dumpMembers, List.length_append]
      omega
    · rw [dumpMembers, List.length_append, List.length_append]
      · rcases List.mem_cons.mp h with h | h
        · obtain ⟨rfl, rfl⟩ := Prod.mk.inj h
          rw [List.length_append]
          omega
        · have := ih h
          omega
      · exact List.cons_ne_nil z ms

/-- The text of a member is a part of the text of the object. -/
theorem length_dumpText_le_of_find? {j x : Json} {k : Str} (h : j.find? k = some x) :
    x.dumpText.length ≤ j.dumpText.length := by
  cases j with
  | object ms =>
    have := length_dumpText_le_of_mem_members (AssocList.mem_of_find? h)
    rw [dumpText, List.length_append, List.length_append]
    omega
  | _ => cases h

end Json

/-- The text of the value is read as the value. -/
def JsonText.Restores (t : JsonText) (j : Json) : Prop := t.parse (t.text j) = .ok j

/-- No text that is only the start of `s` is parsed, as for the text of an array or an object. -/
def JsonText.RefusesPrefixes (t : JsonText) (s : Str) : Prop :=
  ∀ part, part <+: s → part ≠ s → ∃ e, t.parse part = .error e

theorem refusesPrefixes_knownTexts (j : Json) : (knownTexts [j]).RefusesPrefixes j.dumpText := by
  intro part _ hne
  refine ⟨.jsonParseError, ?_⟩
  simp [knownTexts, Ne.symm hne]

theorem restores_knownTexts (j : Json) : (knownTexts [j]).Restores j := by
  simp [JsonText.Restores, knownTexts]

theorem restores_knownTexts_pair {i j : Json} (h : (i.dumpText == j.dumpText) = false) :
    (knownTexts [i, j]).Restores i ∧ (knownTexts [i, j]).Restores j := by
  simp [JsonText.Restores, knownTexts, h]

end Mtx
