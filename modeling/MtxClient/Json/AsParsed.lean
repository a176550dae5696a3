import MtxClient.Json.ReadBack

/-!
# Values as the parser makes them

`to_json` writes every signed integer as a `number_integer`, but the text of a number that is not
negative is parsed to a `number_unsigned`.  `Json.asParsed` is what becomes of a value that goes
through its text, as every request and every answer does.  The readers see no difference
(`getInt64_asParsed`), and the lemmas about `ofMembers`, `ofMap` and `ofArray` carry this through
whole values.
-/

set_option autoImplicit false

namespace Mtx.Json

mutual

/-- The value that the text of a value is parsed to. -/
def asParsed : Json → Json
  | numberInteger i => if i < 0 then numberInteger i else numberUnsigned i.toUInt64
  | array xs => array (asParsedList xs)
  | object ms => object (asParsedMembers ms)
  | j => j

/-- The elements of an array. -/
def asParsedList : List Json → List Json
  | [] => []
  | x :: xs => asParsed x :: asParsedList xs

/-- The members of an object. -/
def asParsedMembers : List (List UInt8 × Json) → List (List UInt8 × Json)
  | [] => []
  | (k, x) :: ms => (k, asParsed x) :: asParsedMembers ms

end

theorem asParsedMembers_eq (ms : List (Str × Json)) :
    asParsedMembers ms = ms.map fun e ↦ (e.1, e.2.asParsed) := by
  induction ms with
  | nil => rfl
  | cons e ms ih => rw [asParsedMembers, ih, List.map_cons]

@[simp] theorem asParsed_string (s : Str) : (string s).asParsed = string s := rfl

@[simp] theorem asParsed_boolean (b : Bool) : (boolean b).asParsed = boolean b := rfl

@[simp] theorem find?_asParsed (j : Json) (k : Str) :
    j.asParsed.find? k = (j.find? k).map asParsed := by
  cases j with
  | object ms =>
    rw [asParsed, asParsedMembers_eq]
    exact AssocList.find?_map asParsed k ms
  | numberInteger i =>
    rw [asParsed]
    split_ifs <;> rfl
  | _ => rfl

@[simp] theorem isObject_asParsed (j : Json) : j.asParsed.isObject = j.isObject := by
  cases j with
  | numberInteger i =>
    rw [asParsed]
    split_ifs <;> rfl
  | _ => rfl

theorem asParsed_ofMap {α : Type} (put : α → Json) (m : SortedMap Str α) :
    (ofMap put m).asParsed = ofMap (fun a ↦ (put a).asParsed) m := by
  rw [ofMap, ofMap, asParsed, asParsedMembers_eq, List.map_map]
  rfl

theorem atKey_asParsed {m : SortedMap Str Json} {k : Str} {v : Json} (h : m.find? k = some v) :
    (ofMembers m).asParsed.atKey k = .ok v.asParsed :=
  atKey_of_find? (by rw [find?_asParsed, find?_ofMembers, h, Option.map_some])

/-! ### Values without signed integers -/

/-- The parser makes the value as it is. -/
def IsParsed (j : Json) : Prop := j.asParsed = j

theorem isParsed_string (s : Str) : (string s).IsParsed := rfl

theorem isParsed_numberUnsigned (u : UInt64) : (numberUnsigned u).IsParsed := rfl

theorem isParsed_ofMembers {m : SortedMap Str Json} (h : m.All fun _ v ↦ v.IsParsed) :
    (ofMembers m).IsParsed := by
  have hentries : asParsedMembers m.entries = m.entries := by
    rw [asParsedMembers_eq]
    refine (List.map_congr_left fun e he ↦ ?_).trans (List.map_id _)
    exact Prod.ext rfl (h e.1 e.2 (SortedMap.mem_entries_iff.mp he))
  rw [IsParsed, ofMembers]
  split
  · rfl
  · rw [asParsed, hentries]

theorem isParsed_ofMap {α : Type} {put : α → Json} (h : ∀ a, (put a).IsParsed)
    (m : SortedMap Str α) : (ofMap put m).IsParsed := by
  rw [IsParsed, asParsed_ofMap]
  exact congrArg (ofMap · m) (funext h)

/-! ### Reading -/

/-- An integer is read as it was written. -/
theorem getInt64_asParsed (i : Int64) : (numberInteger i).asParsed.getInt64 = .ok i := by
  rw [asParsed]
  split_ifs
  · rfl
  · rfl

theorem getMap_asParsed {α : Type} {get : Json → Except Exn α} {put : α → Json}
    (h : ∀ a, get (put a).asParsed = .ok a) (m : SortedMap Str α) :
    (ofMap put m).asParsed.getMap get = .ok m := by
  rw [asParsed_ofMap]
  exact getMap_ofMap h m

end Mtx.Json
