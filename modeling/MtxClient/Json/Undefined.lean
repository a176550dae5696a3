import MtxClient.Json.ReadBack

/-!
# Reads that are undefined

`operator[]` on a constant object that lacks the member, and the conversion of a number that does
not fit, are undefined.  No handler catches that.  The lemmas say where in a read it happens: in the
first part whose behaviour is undefined, provided that no part before it throws.

They are about any kind of error (`Raises`), since `operator[]` on a constant value that is no
object at all is just as unchecked, although that is an exception (`Unchecked`).  What the two kinds
have in common is in `Detects`.
-/

set_option autoImplicit false

namespace Mtx

variable {α β : Type} {bad : Exn → Prop}

/-! ## Errors of a kind -/

/-- The read ends with an error that is `bad`. -/
def Raises (bad : Exn → Prop) (x : Except Exn α) : Prop := ∃ e, x = .error e ∧ bad e

@[simp] theorem raises_error_iff {e : Exn} : Raises bad (.error e : Except Exn α) ↔ bad e := by
  simp [Raises]

@[simp] theorem not_raises_ok (a : α) : ¬ Raises bad (.ok a : Except Exn α) := by
  rintro ⟨_, ⟨⟩, -⟩

@[simp] theorem not_raises_pure (a : α) : ¬ Raises bad (pure a : Except Exn α) := not_raises_ok a

theorem raises_bind_iff {x : Except Exn α} {f : α → Except Exn β} :
    Raises bad (x >>= f) ↔ Raises bad x ∨ ∃ a, x = .ok a ∧ Raises bad (f a) := by
  rcases x with e | a
  · simp
  · simp

@[simp] theorem raises_map_iff {x : Except Exn α} {f : α → β} :
    Raises bad (f <$> x) ↔ Raises bad x := by
  rcases x with e | a
  · exact raises_error_iff.trans raises_error_iff.symm
  · exact iff_of_false (not_raises_ok (f a)) (not_raises_ok a)

/-- Two reads one after the other, where it does not depend on the answer of the first whether the
second raises. -/
theorem raises_bind_iff_or {x : Except Exn α} {f : α → Except Exn β} {p : Prop}
    (h : ∀ a, Raises bad (f a) ↔ p) : Raises bad (x >>= f) ↔ Raises bad x ∨ Succeeds x ∧ p := by
  rw [raises_bind_iff]
  refine or_congr_right ⟨fun ⟨a, hx, hf⟩ ↦ ⟨⟨a, hx⟩, (h a).mp hf⟩, fun ⟨⟨a, hx⟩, hp⟩ ↦ ?_⟩
  exact ⟨a, hx, (h a).mpr hp⟩

theorem not_raises_bind {x : Except Exn α} {f : α → Except Exn β} (hx : ¬ Raises bad x)
    (hf : ∀ a, ¬ Raises bad (f a)) : ¬ Raises bad (x >>= f) := by
  rw [raises_bind_iff]
  rintro (h | ⟨a, -, h⟩)
  · exact hx h
  · exact hf a h

/-- The second of two reads, where the first does not raise. -/
theorem raises_bind_iff_and {x : Except Exn α} {f : α → Except Exn β} {p : Prop}
    (hx : ¬ Raises bad x) (hf : ∀ a, Raises bad (f a) ↔ p) :
    Raises bad (x >>= f) ↔ Succeeds x ∧ p := by
  rw [raises_bind_iff_or hf, or_iff_right hx]

/-- The first of two reads, where the second does not raise. -/
theorem raises_bind_iff_of_not {x : Except Exn α} {f : α → Except Exn β}
    (h : ∀ a, ¬ Raises bad (f a)) : Raises bad (x >>= f) ↔ Raises bad x :=
  (raises_bind_iff_or fun a ↦ iff_of_false (h a) not_false).trans (by simp)

/-- Reading the elements comes to one that is `bad`. -/
def ComesTo (read : α → Except Exn β) (bad : α → Prop) (xs : List α) : Prop :=
  ∃ before x after, xs = before ++ x :: after ∧ (∀ y ∈ before, Succeeds (read y)) ∧ bad x

/-- Of the elements, those that are `good` come before one that is `bad`. -/
def Reaches (good bad : α → Prop) (xs : List α) : Prop :=
  ∃ before x after, xs = before ++ x :: after ∧ (∀ y ∈ before, good y) ∧ bad x

theorem not_reaches_nil {good bad : α → Prop} : ¬ Reaches good bad [] := by
  rintro ⟨before, x, after, hxs, -⟩
  exact absurd hxs.symm (by simp)

theorem reaches_cons_iff {good bad : α → Prop} {x : α} {xs : List α} :
    Reaches good bad (x :: xs) ↔ bad x ∨ good x ∧ Reaches good bad xs := by
  constructor
  · rintro ⟨before, y, after, hxs, hbefore, hy⟩
    rcases before with - | ⟨z, before⟩
    · obtain ⟨rfl, -⟩ := List.cons.inj hxs
      exact Or.inl hy
    · obtain ⟨rfl, rfl⟩ := List.cons.inj hxs
      rw [List.forall_mem_cons] at hbefore
      exact Or.inr ⟨hbefore.1, before, y, after, rfl, hbefore.2, hy⟩
  · rintro (hx | ⟨hx, before, y, after, rfl, hbefore, hy⟩)
    · exact ⟨[], x, xs, rfl, nofun, hx⟩
    · exact ⟨x :: before, y, after, rfl, List.forall_mem_cons.mpr ⟨hx, hbefore⟩, hy⟩

theorem comesTo_iff_reaches {read : α → Except Exn β} {good bad : α → Prop}
    (h : ∀ a, Succeeds (read a) ↔ good a) (xs : List α) :
    ComesTo read bad xs ↔ Reaches good bad xs := by
  simp only [ComesTo, Reaches, h]

theorem comesTo_cons_iff {read : α → Except Exn β} {bad : α → Prop} {x : α} {xs : List α} :
    ComesTo read bad (x :: xs) ↔ bad x ∨ Succeeds (read x) ∧ ComesTo read bad xs :=
  reaches_cons_iff

theorem raises_mapM_iff {read : α → Except Exn β} {p : α → Prop}
    (h : ∀ a, Raises bad (read a) ↔ p a) (xs : List α) :
    Raises bad (xs.mapM read) ↔ ComesTo read p xs := by
  induction xs with
  | nil => exact iff_of_false (not_raises_ok []) not_reaches_nil
  | cons x xs ih =>
    rw [List.mapM_cons, comesTo_cons_iff, raises_bind_iff_or fun a ↦
      raises_bind_iff_of_not fun _ ↦ not_raises_pure _, h, ih]

theorem not_raises_mapM {read : α → Except Exn β} (h : ∀ a, ¬ Raises bad (read a))
    (xs : List α) : ¬ Raises bad (xs.mapM read) := by
  rw [raises_mapM_iff (p := fun _ ↦ False) fun a ↦ iff_of_false (h a) not_false]
  rintro ⟨_, _, _, -, -, hfalse⟩
  exact hfalse

/-! ## Undefined behaviour -/

/-- The behaviour of the read is undefined. -/
def Undefined (x : Except Exn α) : Prop := x = .error .undefinedBehaviour

theorem raises_undefined_iff {x : Except Exn α} :
    Raises (· = .undefinedBehaviour) x ↔ Undefined x := by
  constructor
  · rintro ⟨e, hx, rfl⟩
    exact hx
  · exact fun hx ↦ ⟨_, hx, rfl⟩

/-- The read ends with an exception. -/
def Throws (x : Except Exn α) : Prop := Raises (· ≠ .undefinedBehaviour) x

theorem not_throws_iff {x : Except Exn α} : ¬ Throws x ↔ Succeeds x ∨ Undefined x := by
  rcases x with e | a
  · simp [Throws, Undefined, Succeeds]
  · simp [Throws, Succeeds]

@[simp] theorem not_undefined_ok (a : α) : ¬ Undefined (.ok a : Except Exn α) := nofun

@[simp] theorem not_undefined_pure (a : α) : ¬ Undefined (pure a : Except Exn α) := nofun

theorem undefined_bind_iff_or {x : Except Exn α} {f : α → Except Exn β} {p : Prop}
    (h : ∀ a, Undefined (f a) ↔ p) : Undefined (x >>= f) ↔ Undefined x ∨ Succeeds x ∧ p := by
  simp only [← raises_undefined_iff] at h ⊢
  exact raises_bind_iff_or h

theorem not_undefined_bind {x : Except Exn α} {f : α → Except Exn β} (hx : ¬ Undefined x)
    (hf : ∀ a, ¬ Undefined (f a)) : ¬ Undefined (x >>= f) := by
  simp only [← raises_undefined_iff] at hx hf ⊢
  exact not_raises_bind hx hf

theorem undefined_bind_iff_of_defined {x : Except Exn α} {f : α → Except Exn β}
    (h : ∀ a, ¬ Undefined (f a)) : Undefined (x >>= f) ↔ Undefined x :=
  (undefined_bind_iff_or fun a ↦ iff_of_false (h a) not_false).trans (by simp)

/-! ## Members that are not there -/

/-- The errors of `operator[]` on a constant value. -/
def Exn.OfIndex (e : Exn) : Prop := e = .undefinedBehaviour ∨ e = .jsonTypeError 305

/-- The read ends at an `operator[]` on a constant value without the member. -/
def Unchecked (x : Except Exn α) : Prop := Raises Exn.OfIndex x

/-- The value is an object without the member `k`. -/
def Json.Lacks (j : Json) (k : List UInt8) : Prop := j.isObject = true ∧ j.find? k = none

/-- The value is no object with the member `k`. -/
def Json.HasNo (j : Json) (k : List UInt8) : Prop := j.find? k = none

/-- Of the errors of `operator[]`, those are `bad` that it raises on the values that `lack` the
member. -/
structure Detects (bad : Exn → Prop) (lacks : Json → List UInt8 → Prop) : Prop where
  /-- No other error is `bad`. -/
  ofIndex : ∀ e, bad e → e.OfIndex
  /-- `operator[]` raises one where the member is lacking. -/
  index_iff : ∀ j k, Raises bad (Json.index j k) ↔ lacks j k

theorem detects_undefined : Detects (· = .undefinedBehaviour) Json.Lacks where
  ofIndex e he := Or.inl he
  index_iff j k := by
    rw [raises_undefined_iff, Json.Lacks]
    rcases j with - | b | i | u | f | s | xs | ms
    case object =>
      rw [Json.index, Json.find?]
      rcases AssocList.find? k ms with - | v <;> simp [Undefined, Json.isObject]
    all_goals
      refine iff_of_false ?_ ?_
      · rintro ⟨⟩
      · rintro ⟨⟨⟩, -⟩

theorem detects_unchecked : Detects Exn.OfIndex Json.HasNo where
  ofIndex e he := he
  index_iff j k := by
    rw [Json.HasNo]
    rcases j with - | b | i | u | f | s | xs | ms
    case object =>
      rw [Json.index, Json.find?]
      rcases AssocList.find? k ms with - | v <;> simp [Exn.OfIndex]
    all_goals exact iff_of_true ⟨_, rfl, Or.inr rfl⟩ rfl

namespace Json

variable {lacks : Json → List UInt8 → Prop} {j : Json} {k : List UInt8}
  {get : Json → Except Exn α}

section

variable (h : Detects bad lacks)
include h

theorem not_raises_jsonTypeError {id : ℕ} (hid : id ≠ 305) :
    ¬ Raises bad (.error (.jsonTypeError id) : Except Exn α) := by
  rw [raises_error_iff]
  intro hbad
  rcases h.ofIndex _ hbad with he | he
  · cases he
  · exact hid (Exn.jsonTypeError.inj he)

theorem not_raises_jsonOutOfRange (id : ℕ) :
    ¬ Raises bad (.error (.jsonOutOfRange id) : Except Exn α) := by
  rw [raises_error_iff]
  intro hbad
  rcases h.ofIndex _ hbad with ⟨⟨⟩⟩ | ⟨⟨⟩⟩

theorem not_raises_atKey : ¬ Raises bad (j.atKey k) := by
  rw [atKey_eq]
  rcases j.find? k with - | v
  · rcases j.isObject with - | -
    · exact not_raises_jsonTypeError h (by decide)
    · exact not_raises_jsonOutOfRange h 403
  · exact not_raises_ok v

theorem not_raises_getString : ¬ Raises bad j.getString := by
  rcases j with - | b | i | u | f | s | xs | ms
  case string => exact not_raises_ok s
  all_goals exact not_raises_jsonTypeError h (by decide)

theorem not_raises_getBool : ¬ Raises bad j.getBool := by
  rcases j with - | b | i | u | f | s | xs | ms
  case boolean => exact not_raises_ok b
  all_goals exact not_raises_jsonTypeError h (by decide)

theorem raises_value_iff {d : α} :
    Raises bad (j.value k get d) ↔ ∃ v, j.find? k = some v ∧ Raises bad (get v) := by
  rw [value_eq]
  rcases j.find? k with - | v
  · rcases j.isObject with - | -
    · simp [not_raises_jsonTypeError h (α := α) (show 306 ≠ 305 by decide)]
    · simp
  · simp

theorem not_raises_value {d : α} (hget : ∀ v, ¬ Raises bad (get v)) :
    ¬ Raises bad (j.value k get d) := by
  rw [raises_value_iff h]
  rintro ⟨v, -, hv⟩
  exact hget v hv

theorem raises_getArray_iff {p : Json → Prop} (hget : ∀ x, Raises bad (get x) ↔ p x) :
    Raises bad (j.getArray get) ↔ ∃ xs, j = array xs ∧ ComesTo get p xs := by
  rcases j with - | b | i | u | f | s | xs | ms
  case array => simp [getArray, raises_mapM_iff hget]
  all_goals
    refine iff_of_false (not_raises_jsonTypeError h (by decide)) ?_
    rintro ⟨_, ⟨⟩, -⟩

theorem not_raises_getArray (hget : ∀ x, ¬ Raises bad (get x)) :
    ¬ Raises bad (j.getArray get) := by
  rcases j with - | b | i | u | f | s | xs | ms
  case array => exact not_raises_mapM hget xs
  all_goals exact not_raises_jsonTypeError h (by decide)

theorem not_raises_getMap (hget : ∀ x, ¬ Raises bad (get x)) : ¬ Raises bad (j.getMap get) := by
  rcases j with - | b | i | u | f | s | xs | ms
  case object =>
    exact not_raises_bind
      (not_raises_mapM (fun e ↦ not_raises_bind (hget e.2) fun _ ↦ not_raises_pure _) ms)
      fun _ ↦ not_raises_pure _
  all_goals exact not_raises_jsonTypeError h (by decide)

end

theorem raises_optional_iff {d : α} :
    Raises bad (j.optional k get d) ↔ ∃ v, j.find? k = some v ∧ Raises bad (get v) := by
  rw [optional]
  rcases j.find? k with - | v <;> simp

theorem not_raises_optional {d : α} (hget : ∀ v, ¬ Raises bad (get v)) :
    ¬ Raises bad (j.optional k get d) := by
  rw [raises_optional_iff]
  rintro ⟨v, -, hv⟩
  exact hget v hv

theorem not_undefined_atKey : ¬ Undefined (j.atKey k) :=
  mt raises_undefined_iff.mpr (not_raises_atKey detects_undefined)

theorem not_undefined_getString : ¬ Undefined j.getString :=
  mt raises_undefined_iff.mpr (not_raises_getString detects_undefined)

theorem not_undefined_value_getString {d : List UInt8} :
    ¬ Undefined (j.value k getString d) :=
  mt raises_undefined_iff.mpr
    (not_raises_value detects_undefined fun _ ↦ not_raises_getString detects_undefined)

theorem undefined_optional_iff {d : α} :
    Undefined (j.optional k get d) ↔ ∃ v, j.find? k = some v ∧ Undefined (get v) := by
  simp only [← raises_undefined_iff]
  exact raises_optional_iff

theorem undefined_getUInt64_iff :
    Undefined j.getUInt64 ↔
      ∃ bits, j = numberFloat bits ∧ Undefined (castFloat bits 0 (2 ^ 64 - 1)) := by
  rcases j with - | b | i | u | f | s | xs | ms
  case numberFloat =>
    show Undefined ((fun n : ℤ ↦ UInt64.ofNat n.toNat) <$> castFloat f 0 (2 ^ 64 - 1)) ↔ _
    rw [← raises_undefined_iff, raises_map_iff, raises_undefined_iff]
    simp
  all_goals simp [getUInt64, Undefined]

end Json

end Mtx
