import Mathlib.Data.List.TakeWhile
import Mathlib.Tactic.SplitIfs
import MtxClient.Lib.Bytes

/-!
# Decimal numbers

Texts of decimal digits and the numbers they stand for, as far as programs read and write them:
`parse` is what the conversions of a C library make of a text, which may begin with spaces and a
sign, and `toString` is how a number is written.
-/

set_option autoImplicit false

namespace Decimal

open Str

/-- `isdigit`. -/
def isdigit (c : UInt8) : Bool := decide (48 ≤ c ∧ c ≤ 57)

/-- `isspace` in the default locale. -/
def isspace (c : UInt8) : Bool := c == 32 || decide (9 ≤ c ∧ c ≤ 13)

/-- The number of a text of digits. -/
def value (digits : Str) : ℕ := digits.foldl (fun n c ↦ 10 * n + (c.toNat - 48)) 0

/-- One or more digits and nothing else. -/
def isNumber (s : Str) : Bool := !s.isEmpty && s.all isdigit

/-- The sign and the number at the beginning of a text, behind spaces: is it negative, and what is
its absolute value? -/
def parse (s : Str) : Option (Bool × ℕ) :=
  let s := s.dropWhile isspace
  let (negative, s) := match s with
    | 45 :: rest => (true, rest)
    | 43 :: rest => (false, rest)
    | s => (false, s)
  let digits := s.takeWhile isdigit
  if digits.isEmpty then none else some (negative, value digits)

theorem value_snoc (a : Str) (c : UInt8) : value (a ++ [c]) = 10 * value a + (c.toNat - 48) := by
  rw [value, List.foldl_append, List.foldl_cons, List.foldl_nil, value]

theorem isNumber_iff {s : Str} : isNumber s = true ↔ s ≠ [] ∧ ∀ c ∈ s, isdigit c = true := by
  simp [isNumber]

theorem isdigit_iff {c : UInt8} : isdigit c = true ↔ 48 ≤ c ∧ c ≤ 57 := decide_eq_true_iff

/-- A text of digits is read as its number. -/
theorem parse_of_isNumber {s : Str} (h : isNumber s = true) : parse s = some (false, value s) := by
  obtain ⟨hne, hdigits⟩ := isNumber_iff.mp h
  have hall : s.takeWhile isdigit = s := List.takeWhile_eq_self_iff.mpr hdigits
  obtain ⟨c, rest, rfl⟩ := List.exists_cons_of_ne_nil hne
  obtain ⟨hlow, hhigh⟩ := isdigit_iff.mp (hdigits c List.mem_cons_self)
  have hspace : isspace c = false := by
    rw [isspace, Bool.or_eq_false_iff, beq_eq_false_iff_ne, decide_eq_false_iff_not]
    have hlow' : 48 ≤ c.toNat := hlow
    constructor
    · rintro rfl
      exact absurd hlow' (by decide)
    · rintro ⟨-, hle⟩
      have hle' : c.toNat ≤ 13 := hle
      omega
  have hminus : c ≠ 45 := by
    rintro rfl
    exact absurd hlow (by decide)
  have hplus : c ≠ 43 := by
    rintro rfl
    exact absurd hlow (by decide)
  rw [parse, List.dropWhile_cons_of_neg (by rw [hspace]; decide)]
  split
  next heq =>
    split at heq
    · exact absurd (List.cons.inj ‹_›).1 hminus
    · exact absurd (List.cons.inj ‹_›).1 hplus
    · obtain ⟨rfl, rfl⟩ := Prod.mk.inj heq
      rw [hall]
      rfl

/-! ## Writing numbers -/

theorem lit_append (a b : String) : lit (a ++ b) = lit a ++ lit b := by
  rw [lit, String.toUTF8_eq_toByteArray, String.toByteArray_append, ByteArray.toList_data_append]
  rfl

/-- What is written for a number below ten. -/
theorem lit_repr_of_lt {n : ℕ} (h : n < 10) : lit n.repr = [UInt8.ofNat (48 + n)] := by
  have hall : ∀ n : Fin 10, lit (n : ℕ).repr = [UInt8.ofNat (48 + n)] := by decide
  exact hall ⟨n, h⟩

/-- A number is written as digits that stand for it. -/
theorem isNumber_repr (n : ℕ) : isNumber (lit n.repr) = true ∧ value (lit n.repr) = n := by
  induction n using Nat.strongRecOn with
  | ind n ih =>
    have hdigit : ∀ d, d < 10 → isdigit (UInt8.ofNat (48 + d)) = true ∧
        (UInt8.ofNat (48 + d)).toNat - 48 = d := fun d hd ↦ by
      have hall : ∀ d : Fin 10, isdigit (UInt8.ofNat (48 + d)) = true ∧
          (UInt8.ofNat (48 + (d : ℕ))).toNat - 48 = d := by decide
      exact hall ⟨d, hd⟩
    by_cases h : n < 10
    · obtain ⟨hd, hv⟩ := hdigit n h
      rw [lit_repr_of_lt h]
      exact ⟨isNumber_iff.mpr ⟨List.cons_ne_nil _ _, List.forall_mem_singleton.mpr hd⟩,
        (Nat.zero_add _).trans hv⟩
    · obtain ⟨hnumber, hvalue⟩ := ih (n / 10) (by omega)
      obtain ⟨hd, hv⟩ := hdigit (n % 10) (by omega)
      rw [Nat.repr_eq_repr_append_repr (by omega), lit_append,
        lit_repr_of_lt (by omega : n % 10 < 10)]
      constructor
      · rw [isNumber_iff] at hnumber ⊢
        refine ⟨by simp, ?_⟩
        intro c hc
        rcases List.mem_append.mp hc with hc | hc
        · exact hnumber.2 c hc
        · rw [List.mem_singleton.mp hc, hd]
      · rw [value_snoc, hvalue, hv]
        omega

end Decimal
