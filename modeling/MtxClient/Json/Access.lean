import Mathlib.Algebra.Group.Int.Defs
import MtxClient.Json.Basic

/-!
# Reading and writing members

The member access of `nlohmann::json` that the library uses.  What can fail returns `Except Exn`,
with the exception the access throws:

* `atKey` is `at(key)`: type error 304 on a value that is no object, out of range 403 on a missing
  member;
* `index` is `operator[]` on a constant value, whose behaviour on a missing member is undefined;
* `set` and `setPath` assign through the mutable `operator[]`, which turns `null` into an object and
  creates the members on its way;
* `value` is `value(key, default)` and the `get…` functions are `get<T>()`;
* `find?` and `contains` never throw.

The `to_json` functions start from `null` and assign members one by one; they are written as a
`SortedMap` that is filled and then turned into a value by `ofMembers`.  All lookups reduce to
`find?`, so that a proof about an object needs only to know what `find?` answers for its keys.
-/

set_option autoImplicit false

namespace Mtx.Json

/-! ## Members -/

/-- `is_object()`. -/
def isObject : Json → Bool
  | object _ => true
  | _ => false

/-- `find(key)`: the member, if the value is an object that has it. -/
def find? (j : Json) (k : Str) : Option Json :=
  match j with
  | object ms => AssocList.find? k ms
  | _ => none

/-- `contains(key)`, and `count(key) != 0`. -/
def contains (j : Json) (k : Str) : Bool := (j.find? k).isSome

/-- `at(key)`. -/
def atKey (j : Json) (k : Str) : Except Exn Json :=
  match j with
  | object ms =>
    match AssocList.find? k ms with
    | some v => .ok v
    | none => .error (.jsonOutOfRange 403)
  | _ => .error (.jsonTypeError 304)

/-- `operator[]` on a constant value. -/
def index (j : Json) (k : Str) : Except Exn Json :=
  match j with
  | object ms =>
    match AssocList.find? k ms with
    | some v => .ok v
    | none => .error .undefinedBehaviour
  | _ => .error (.jsonTypeError 305)

/-- `obj[key] = v` on `null` or an object. -/
def put (j : Json) (k : Str) (v : Json) : Json :=
  match j with
  | null => object [(k, v)]
  | object ms => object (AssocList.insert k v ms)
  | j => j

/-- `obj[key] = v`. -/
def set (j : Json) (k : Str) (v : Json) : Except Exn Json :=
  match j with
  | null | object _ => .ok (j.put k v)
  | _ => .error (.jsonTypeError 305)

/-- `obj[k₁][k₂]… = v`. -/
def setPath (j : Json) : List Str → Json → Except Exn Json
  | [], v => .ok v
  | k :: ks, v =>
    match j with
    | null | object _ => do
      let child ← setPath ((j.find? k).getD null) ks v
      return j.put k child
    | _ => .error (.jsonTypeError 305)

/-- `if (src.contains(key)) dst[key] = src.at(key)`. -/
def copyMember (src dst : Json) (k : Str) : Except Exn Json :=
  match src.find? k with
  | some v => dst.set k v
  | none => .ok dst

/-- `erase(key)`. -/
def erase (j : Json) (k : Str) : Except Exn Json :=
  match j with
  | object ms => .ok (object (AssocList.erase k ms))
  | _ => .error (.jsonTypeError 307)

/-- An object without the member `k`. -/
def without (j : Json) (k : Str) : Json :=
  match j with
  | object ms => object (AssocList.erase k ms)
  | j => j

/-- Only the members whose keys satisfy `p`. -/
def restrict (j : Json) (p : Str → Bool) : Json :=
  match j with
  | object ms => object (AssocList.restrict p ms)
  | j => j

/-- `json == "text"`. -/
def eqString (j : Json) (s : Str) : Bool :=
  match j with
  | string t => t == s
  | _ => false

/-- The values that `for (const auto &e : obj)` goes through. -/
def elements : Json → List Json
  | null => []
  | array xs => xs
  | object ms => ms.map Prod.snd
  | j => [j]

/-- The keys and values that `for (const auto &e : obj.items())` goes through: the keys of an array
are its indices. -/
def items : Json → List (Str × Json)
  | null => []
  | array xs => xs.mapIdx fun i x ↦ (Str.lit (toString i), x)
  | object ms => ms
  | j => [([], j)]

/-- `is_null()`. -/
def isNull : Json → Bool
  | null => true
  | _ => false

/-- `is_array()`. -/
def isArray : Json → Bool
  | array _ => true
  | _ => false

/-- `is_number()`. -/
def isNumber : Json → Bool
  | numberInteger _ | numberUnsigned _ | numberFloat _ => true
  | _ => false

/-! ## `get<T>()` -/

/-- `get<std::string>()`. -/
def getString : Json → Except Exn Str
  | string s => .ok s
  | _ => .error (.jsonTypeError 302)

/-- `get<bool>()`. -/
def getBool : Json → Except Exn Bool
  | boolean b => .ok b
  | _ => .error (.jsonTypeError 302)

/-- The integral part of a finite IEEE 754 double given by its bits; `none` for infinities and
NaN. -/
def truncate (bits : UInt64) : Option ℤ :=
  let exponent := ((bits >>> 52) &&& 0x7FF).toNat
  let fraction := (bits &&& 0xFFFFFFFFFFFFF).toNat
  let magnitude : ℕ :=
    if exponent < 1023 then 0
    else if exponent < 1075 then (2 ^ 52 + fraction) / 2 ^ (1075 - exponent)
    else (2 ^ 52 + fraction) * 2 ^ (exponent - 1075)
  if exponent = 0x7FF then none
  else some (if bits >>> 63 = 1 then -(magnitude : ℤ) else magnitude)

/-- `static_cast` of a double to an integer type with values from `lo` to `hi`: undefined when the
integral part does not fit. -/
def castFloat (bits : UInt64) (lo hi : ℤ) : Except Exn ℤ :=
  match truncate bits with
  | some n => if lo ≤ n ∧ n ≤ hi then .ok n else .error .undefinedBehaviour
  | none => .error .undefinedBehaviour

/-- `get<std::int64_t>()`. -/
def getInt64 : Json → Except Exn Int64
  | numberInteger i => .ok i
  | numberUnsigned u => .ok u.toInt64
  | numberFloat bits => (castFloat bits (-2 ^ 63) (2 ^ 63 - 1)).map Int64.ofInt
  | _ => .error (.jsonTypeError 302)

/-- `get<std::uint64_t>()`. -/
def getUInt64 : Json → Except Exn UInt64
  | numberInteger i => .ok i.toUInt64
  | numberUnsigned u => .ok u
  | numberFloat bits => (castFloat bits 0 (2 ^ 64 - 1)).map fun n ↦ UInt64.ofNat n.toNat
  | _ => .error (.jsonTypeError 302)

/-- `get<std::uint32_t>()`, which also takes a boolean. -/
def getUInt32 : Json → Except Exn UInt32
  | numberInteger i => .ok i.toUInt64.toUInt32
  | numberUnsigned u => .ok u.toUInt32
  | numberFloat bits => (castFloat bits 0 (2 ^ 32 - 1)).map fun n ↦ UInt32.ofNat n.toNat
  | boolean b => .ok (if b then 1 else 0)
  | _ => .error (.jsonTypeError 302)

/-- `get<std::uint16_t>()`, which also takes a boolean. -/
def getUInt16 : Json → Except Exn UInt16
  | numberInteger i => .ok i.toUInt64.toUInt16
  | numberUnsigned u => .ok u.toUInt16
  | numberFloat bits => (castFloat bits 0 (2 ^ 16 - 1)).map fun n ↦ UInt16.ofNat n.toNat
  | boolean b => .ok (if b then 1 else 0)
  | _ => .error (.jsonTypeError 302)

/-- `get<std::uint8_t>()`, which also takes a boolean. -/
def getUInt8 : Json → Except Exn UInt8
  | numberInteger i => .ok i.toUInt64.toUInt8
  | numberUnsigned u => .ok u.toUInt8
  | numberFloat bits => (castFloat bits 0 (2 ^ 8 - 1)).map fun n ↦ UInt8.ofNat n.toNat
  | boolean b => .ok (if b then 1 else 0)
  | _ => .error (.jsonTypeError 302)

/-- `get<std::vector<T>>()`, with `get` for the elements. -/
def getArray {α : Type} (get : Json → Except Exn α) : Json → Except Exn (List α)
  | array xs => xs.mapM get
  | _ => .error (.jsonTypeError 302)

/-- `get<std::map<std::string, T>>()`, with `get` for the values. -/
def getMap {α : Type} (get : Json → Except Exn α) : Json → Except Exn (SortedMap Str α)
  | object ms => do
    let es ← ms.mapM fun e ↦ do return (e.1, ← get e.2)
    return SortedMap.ofList es
  | _ => .error (.jsonTypeError 302)

/-- `value(key, d)`, with `get` for the member. -/
def value {α : Type} (j : Json) (k : Str) (get : Json → Except Exn α) (d : α) : Except Exn α :=
  match j with
  | object ms =>
    match AssocList.find? k ms with
    | some v => get v
    | none => .ok d
  | _ => .error (.jsonTypeError 306)

/-- `if (obj.contains(key)) field = obj.at(key).get<T>()`, with the field's previous value `d`. -/
def optional {α : Type} (j : Json) (k : Str) (get : Json → Except Exn α) (d : α) : Except Exn α :=
  match j.find? k with
  | some v => get v
  | none => .ok d

/-! ## Writing objects, maps and arrays -/

/-- No members yet. -/
abbrev noMembers : SortedMap Str Json := SortedMap.empty

/-- What assigning the members `m` one by one makes of a value that starts as `null`. -/
def ofMembers (m : SortedMap Str Json) : Json :=
  match m.entries with
  | [] => null
  | ms => object ms

/-- `json` of a `std::vector`. -/
def ofArray {α : Type} (f : α → Json) (xs : List α) : Json := array (xs.map f)

/-- `json` of a `std::map<std::string, T>`. -/
def ofMap {α : Type} (f : α → Json) (m : SortedMap Str α) : Json :=
  object (m.entries.map fun e ↦ (e.1, f e.2))

/-! ## What a write changes -/

@[simp] theorem find?_null (k : Str) : null.find? k = none := rfl

theorem find?_put {j : Json} (h : j = null ∨ j.isObject = true) (k k' : Str) (v : Json) :
    (j.put k v).find? k' = if k' = k then some v else j.find? k' := by
  cases j with
  | null => simp [put, find?, AssocList.find?_cons, eq_comm]
  | object ms => simp [put, find?]
  | _ => simp [isObject] at h

theorem set_eq_ok {j : Json} (h : j = null ∨ j.isObject = true) (k : Str) (v : Json) :
    j.set k v = .ok (j.put k v) := by
  cases j with
  | null => rfl
  | object ms => rfl
  | _ => simp [isObject] at h

theorem set_eq_ok_iff {j j' : Json} {k : Str} {v : Json} :
    j.set k v = .ok j' ↔ (j = null ∨ j.isObject = true) ∧ j' = j.put k v := by
  cases j <;> simp [set, isObject, eq_comm]

theorem isObject_put {j : Json} (h : j = null ∨ j.isObject = true) (k : Str) (v : Json) :
    (j.put k v).isObject = true := by
  cases j with
  | null => rfl
  | object ms => rfl
  | _ => simp [isObject] at h

@[simp] theorem find?_ofMembers (m : SortedMap Str Json) (k : Str) :
    (ofMembers m).find? k = m.find? k := by
  rw [ofMembers, SortedMap.find?]
  split
  · next h => simp [h]
  · rfl

@[simp] theorem find?_ofMap {α : Type} (f : α → Json) (m : SortedMap Str α) (k : Str) :
    (ofMap f m).find? k = (m.find? k).map f := AssocList.find?_map f k m.entries

theorem ofMembers_insert (m : SortedMap Str Json) (k : Str) (v : Json) :
    ofMembers (m.insert k v) = object (m.insert k v).entries := by
  rw [ofMembers]
  split
  · next h => simpa [h, SortedMap.find?] using SortedMap.find?_insert m k k v
  · rfl

@[simp] theorem find?_without (j : Json) (k k' : Str) :
    (j.without k).find? k' = if k' = k then none else j.find? k' := by
  cases j <;> simp [without, find?]

theorem without_of_find?_none {j : Json} {k : Str} (h : j.find? k = none) : j.without k = j := by
  cases j with
  | object ms => exact congrArg object (AssocList.erase_of_find?_none h)
  | _ => rfl

@[simp] theorem find?_restrict (j : Json) (p : Str → Bool) (k : Str) :
    (j.restrict p).find? k = if p k then j.find? k else none := by
  cases j <;> simp [restrict, find?]

theorem erase_eq_ok {j : Json} (h : j.isObject = true) (k : Str) :
    j.erase k = .ok (j.without k) := by
  cases j <;> first | rfl | simp [isObject] at h

theorem isObject_of_find? {j v : Json} {k : Str} (h : j.find? k = some v) :
    j.isObject = true := by
  cases j <;> first | rfl | simp [find?] at h

@[simp] theorem isObject_restrict (j : Json) (p : Str → Bool) :
    (j.restrict p).isObject = j.isObject := by
  cases j <;> rfl

@[simp] theorem isObject_without (j : Json) (k : Str) : (j.without k).isObject = j.isObject := by
  cases j <;> rfl

/-! ## What a read answers -/

theorem atKey_eq_ok_iff {j v : Json} {k : Str} : j.atKey k = .ok v ↔ j.find? k = some v := by
  cases j with
  | object ms =>
    rw [atKey, find?]
    cases AssocList.find? k ms <;> simp
  | _ => simp [atKey, find?]

theorem atKey_of_find? {j v : Json} {k : Str} (h : j.find? k = some v) : j.atKey k = .ok v :=
  atKey_eq_ok_iff.mpr h

theorem index_eq_ok_iff {j v : Json} {k : Str} : j.index k = .ok v ↔ j.find? k = some v := by
  rcases j with - | b | i | u | f | s | xs | ms
  case object =>
    rw [index, find?]
    rcases AssocList.find? k ms with - | w <;> simp
  all_goals exact iff_of_false nofun nofun

theorem index_of_find? {j v : Json} {k : Str} (h : j.find? k = some v) : j.index k = .ok v :=
  index_eq_ok_iff.mpr h

/-- A lookup sees only whether the value is an object and the member it asks for. -/
theorem atKey_congr {j j' : Json} {k : Str} (hj : j.isObject = j'.isObject)
    (h : j.find? k = j'.find? k) : j.atKey k = j'.atKey k := by
  cases j <;> cases j' <;> simp_all [isObject, find?, atKey]

theorem value_congr {α : Type} {j j' : Json} {k : Str} (hj : j.isObject = j'.isObject)
    (h : j.find? k = j'.find? k) (get : Json → Except Exn α) (d : α) :
    j.value k get d = j'.value k get d := by
  cases j <;> cases j' <;> simp_all [isObject, find?, value]

theorem optional_congr {α : Type} {j j' : Json} {k : Str} (h : j.find? k = j'.find? k)
    (get : Json → Except Exn α) (d : α) : j.optional k get d = j'.optional k get d := by
  rw [optional, optional, h]

theorem value_of_find? {α : Type} {j v : Json} {k : Str} (h : j.find? k = some v)
    (get : Json → Except Exn α) (d : α) : j.value k get d = get v := by
  cases j with
  | object ms => rw [find?] at h; simp [value, h]
  | _ => simp [find?] at h

theorem value_of_find?_none {α : Type} {j : Json} {k : Str} (hj : j.isObject = true)
    (h : j.find? k = none) (get : Json → Except Exn α) (d : α) : j.value k get d = .ok d := by
  cases j with
  | object ms => rw [find?] at h; simp [value, h]
  | _ => simp [isObject] at hj

theorem getString_eq_ok_iff {j : Json} {s : Str} : j.getString = .ok s ↔ j = string s := by
  cases j <;> simp [getString]

@[simp] theorem getString_string (s : Str) : (string s).getString = .ok s := rfl

theorem contains_eq_true_iff {j : Json} {k : Str} :
    j.contains k = true ↔ ∃ v, j.find? k = some v := by
  rw [contains, Option.isSome_iff_exists]

theorem contains_eq_false_iff {j : Json} {k : Str} :
    j.contains k = false ↔ j.find? k = none := by
  rw [contains, Option.isSome_eq_false_iff, Option.isNone_iff_eq_none]

/-! ## Sorted objects

Two objects with sorted keys are equal as soon as they answer every lookup alike. -/

/-- The keys of the value itself increase strictly, if it is an object. -/
def SortedKeys : Json → Prop
  | object ms => AssocList.Sorted ms
  | _ => True

theorem SortedKeys.ext {j j' : Json} (hs : j.SortedKeys) (hs' : j'.SortedKeys)
    (hj : j.isObject = true) (hj' : j'.isObject = true) (h : ∀ k, j.find? k = j'.find? k) :
    j = j' := by
  cases j <;> cases j' <;> simp_all only [isObject, Bool.false_eq_true]
  next ms ms' => rw [AssocList.Sorted.ext hs hs' h]

theorem SortedKeys.put {j : Json} (hs : j.SortedKeys) (k : Str) (v : Json) :
    (j.put k v).SortedKeys := by
  cases j <;>
    first | trivial | exact List.pairwise_singleton .. | exact AssocList.Sorted.insert hs k v

theorem SortedKeys.without {j : Json} (hs : j.SortedKeys) (k : Str) :
    (j.without k).SortedKeys := by
  cases j <;> first | trivial | exact AssocList.Sorted.erase hs k

theorem SortedKeys.restrict {j : Json} (hs : j.SortedKeys) (p : Str → Bool) :
    (j.restrict p).SortedKeys := by
  cases j <;> first | trivial | exact AssocList.Sorted.restrict hs p

theorem sortedKeys_of_sorted {j : Json} (h : j.sorted = true) : j.SortedKeys := by
  cases j with
  | object ms => rw [sorted, Bool.and_eq_true, decide_eq_true_eq] at h; exact h.1
  | _ => trivial

theorem sorted_of_find? {j v : Json} {k : Str} (h : j.sorted = true) (hv : j.find? k = some v) :
    v.sorted = true := by
  cases j with
  | object ms =>
    rw [sorted, Bool.and_eq_true] at h
    exact (sortedMembers_iff ms).mp h.2 _ (AssocList.mem_of_find? hv)
  | _ => simp [find?] at hv

theorem sortedKeys_ofMembers (m : SortedMap Str Json) : (ofMembers m).SortedKeys := by
  rw [ofMembers]
  split
  · trivial
  · next ms h => exact m.sorted

theorem sortedKeys_ofMap {α : Type} (f : α → Json) (m : SortedMap Str α) :
    (ofMap f m).SortedKeys := m.sorted.map f

/-- The members that `p` allows, one by one. -/
theorem ofMembers_eq_restrict {j : Json} {m : SortedMap Str Json} {p : Str → Bool}
    (hs : j.SortedKeys) (hj : j.isObject = true) (hm : (ofMembers m).isObject = true)
    (hp : ∀ k, p k = (m.find? k).isSome) (h : m.All fun k v ↦ j.find? k = some v) :
    ofMembers m = j.restrict p := by
  refine (sortedKeys_ofMembers m).ext (hs.restrict p) hm ((isObject_restrict j p).trans hj)
    fun k ↦ ?_
  rw [find?_ofMembers, find?_restrict, hp]
  cases hk : m.find? k with
  | none => rfl
  | some v => exact (h k v hk).symm

/-! ## Arrays and maps of strings -/

theorem mapM_getString_eq_ok_iff {xs : List Json} {l : List Str} :
    xs.mapM getString = .ok l ↔ xs = l.map string := by
  induction xs generalizing l with
  | nil =>
    rw [List.mapM_nil]
    cases l <;> simp [pure, Except.pure]
  | cons x xs ih =>
    simp only [List.mapM_cons, bind_eq_ok_iff, getString_eq_ok_iff, ih]
    constructor
    · rintro ⟨s, rfl, l', rfl, h⟩
      rw [← Except.ok.inj h]
      rfl
    · cases l with
      | nil => intro h; cases h
      | cons s l =>
        intro h
        obtain ⟨rfl, rfl⟩ := List.cons.inj h
        exact ⟨s, rfl, l, rfl, rfl⟩

/-- An array of strings is read as what it is written from. -/
theorem getArray_getString_eq_ok_iff {j : Json} {l : List Str} :
    j.getArray getString = .ok l ↔ j = ofArray string l := by
  cases j with
  | array xs =>
    rw [getArray, mapM_getString_eq_ok_iff, ofArray]
    simp
  | _ => simp [getArray, ofArray]

theorem mapM_members_eq_ok {ms : List (Str × Json)} {es : List (Str × Str)}
    (h : (ms.mapM fun e ↦ do return (e.1, ← getString e.2)) = Except.ok es) :
    ms = es.map fun e ↦ (e.1, string e.2) := by
  induction ms generalizing es with
  | nil =>
    rw [List.mapM_nil] at h
    rw [← Except.ok.inj h]
    rfl
  | cons m ms ih =>
    simp only [List.mapM_cons, bind_eq_ok_iff, getString_eq_ok_iff] at h
    obtain ⟨e, ⟨s, hs, he⟩, es', hes', h⟩ := h
    rw [← Except.ok.inj h, ← Except.ok.inj he, ih hes', List.map_cons, ← hs]

/-- An object of strings is read as what it is written from. -/
theorem eq_ofMap_of_getMap {j : Json} (hs : j.SortedKeys) {m : SortedMap Str Str}
    (h : j.getMap getString = .ok m) : j = ofMap string m := by
  cases j with
  | object ms =>
    obtain ⟨es, hes, h⟩ := bind_eq_ok_iff.mp h
    have hms := mapM_members_eq_ok hes
    have hsorted : AssocList.Sorted es := by
      rw [SortedKeys, hms, AssocList.Sorted, List.pairwise_map] at hs
      exact hs
    rw [← Except.ok.inj h, SortedMap.ofList_eq es hsorted, ofMap, hms]
  | _ => simp [getMap] at h

end Mtx.Json
