import MtxClient.Json.Access

/-!
# JSON texts

`dump()` and `parse()`.  A text is all the code ever signs, encrypts or sends, but it never looks
into one: what it needs is that the text is a function of the value.  So the two directions are a
parameter, `JsonText`, and only what `dump` does to invalid UTF-8 is fixed.

`dumpText` is the text that `nlohmann::json` writes, for values without floating point numbers.
-/

set_option autoImplicit false

namespace Mtx

open Str

/-- The two directions between values and texts. -/
structure JsonText where
  /-- The text of a value whose strings are UTF-8. -/
  text : Json → Str
  /-- `json::parse`. -/
  parse : Str → Except Exn Json

/-- `dump()`, which throws type error 316 when a string is not UTF-8. -/
def JsonText.dump (t : JsonText) (j : Json) : Except Exn Str :=
  if j.validUtf8 then .ok (t.text j) else .error (.jsonTypeError 316)

theorem JsonText.dump_eq_ok_iff {t : JsonText} {j : Json} {s : Str} :
    t.dump j = .ok s ↔ j.validUtf8 = true ∧ t.text j = s := by
  rw [dump]
  split_ifs with h <;> simp [h]

theorem JsonText.dump_of_validUtf8 (t : JsonText) {j : Json} (h : j.validUtf8 = true) :
    t.dump j = .ok (t.text j) := if_pos h

/-- The text is what `dump` makes of the value that is parsed from it. -/
def JsonText.Dumped (t : JsonText) (s : Str) : Prop := ∃ j, t.parse s = .ok j ∧ t.dump j = .ok s

/-- The value that a text is parsed to. -/
def JsonText.valueOf (t : JsonText) (s : Str) : Json := (t.parse s).toOption.getD .null

theorem JsonText.Dumped.parse_eq {t : JsonText} {s : Str} (h : t.Dumped s) :
    t.parse s = .ok (t.valueOf s) := by
  obtain ⟨j, hparse, -⟩ := h
  rw [valueOf, hparse]
  rfl

theorem JsonText.Dumped.dump_eq {t : JsonText} {s : Str} (h : t.Dumped s) :
    t.dump (t.valueOf s) = .ok s := by
  obtain ⟨j, hparse, hdump⟩ := h
  rw [valueOf, hparse]
  exact hdump

namespace Json

/-! ## Values whose strings are UTF-8 -/

theorem validUtf8_of_find? {j v : Json} {k : Str} (h : j.validUtf8 = true)
    (hv : j.find? k = some v) : v.validUtf8 = true := by
  cases j with
  | object ms => exact ((validUtf8Members_iff ms).mp h _ (AssocList.mem_of_find? hv)).2
  | _ => cases hv

theorem validUtf8_put {j v : Json} {k : Str} (h : j.validUtf8 = true)
    (hk : Str.validUtf8 k = true) (hv : v.validUtf8 = true) : (j.put k v).validUtf8 = true := by
  cases j with
  | null => exact (validUtf8Members_iff _).mpr (List.forall_mem_singleton.mpr ⟨hk, hv⟩)
  | object ms =>
    refine (validUtf8Members_iff _).mpr ?_
    intro e he
    rcases AssocList.mem_insert he with rfl | he
    · exact ⟨hk, hv⟩
    · exact (validUtf8Members_iff ms).mp h e he
  | _ => exact h

theorem validUtf8_ofMap {α : Type} {f : α → Json} {m : SortedMap Str α}
    (h : m.All fun k v ↦ Str.validUtf8 k = true ∧ (f v).validUtf8 = true) :
    (ofMap f m).validUtf8 = true := by
  rw [ofMap, validUtf8, validUtf8Members_iff]
  intro e he
  obtain ⟨⟨k, v⟩, hmem, rfl⟩ := List.mem_map.mp he
  exact h k v (SortedMap.mem_entries_iff.mp hmem)

theorem validUtf8_ofMembers {m : SortedMap Str Json}
    (h : m.All fun k v ↦ Str.validUtf8 k = true ∧ v.validUtf8 = true) :
    (ofMembers m).validUtf8 = true := by
  rw [ofMembers]
  split
  · rfl
  · rw [validUtf8, validUtf8Members_iff]
    exact fun e he ↦ h e.1 e.2 (SortedMap.mem_entries_iff.mp he)

theorem validUtf8_ofArray_string {xs : List Str} (h : ∀ x ∈ xs, Str.validUtf8 x = true) :
    (ofArray string xs).validUtf8 = true := by
  rw [ofArray, validUtf8, validUtf8List_iff]
  intro j hj
  obtain ⟨x, hx, rfl⟩ := List.mem_map.mp hj
  exact h x hx

/-! ## The compact text -/

/-- Lower-case hexadecimal. -/
def hexDigit (n : UInt8) : UInt8 := if n < 10 then n + '0'.toUInt8 else n - 10 + 'a'.toUInt8

/-- A byte of a string. -/
def escapeByte (b : UInt8) : Str :=
  if b = '"'.toUInt8 ∨ b = '\\'.toUInt8 then ['\\'.toUInt8, b]
  else if b = 8 then "\\b"
  else if b = 9 then "\\t"
  else if b = 10 then "\\n"
  else if b = 12 then "\\f"
  else if b = 13 then "\\r"
  else if b < 0x20 then lit "\\u00" ++ [hexDigit (b / 16), hexDigit (b % 16)]
  else [b]

/-- A string in quotes. -/
def quote (s : Str) : Str := lit "\"" ++ s.flatMap escapeByte ++ lit "\""

mutual

/-- The text of a value. -/
def dumpText : Json → Str
  | null => "null"
  | boolean b => if b then "true" else "false"
  | numberInteger i => toString i.toInt
  | numberUnsigned u => toString u.toNat
  | numberFloat _ => "0.0"
  | string s => quote s
  | array xs => lit "[" ++ dumpList xs ++ lit "]"
  | object ms => lit "\x7b" ++ dumpMembers ms ++ lit "\x7d"

/-- The texts of the elements, with commas between them. -/
def dumpList : List Json → Str
  | [] => ""
  | [x] => dumpText x
  | x :: xs => dumpText x ++ lit "," ++ dumpList xs

/-- The texts of the members, with commas between them. -/
def dumpMembers : List (List UInt8 × Json) → Str
  | [] => ""
  | [(k, x)] => quote k ++ lit ":" ++ dumpText x
  | (k, x) :: ms => quote k ++ lit ":" ++ dumpText x ++ lit "," ++ dumpMembers ms

end

end Json

/-- A parser that knows the texts of the values `js` and of no others. -/
def knownTexts (js : List Json) : JsonText where
  text := Json.dumpText
  parse s :=
    match js.find? fun j ↦ j.dumpText == s with
    | some j => .ok j
    | none => .error .jsonParseError

end Mtx
