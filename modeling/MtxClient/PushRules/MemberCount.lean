import MtxClient.Lib.Radix
import MtxClient.PushRules.Evaluator

/-!
# What a member count condition means

The member `is` of a `room_member_count` condition is a decimal number behind an optional comparison
operator.  `Means` says this of a text and a member count, with numbers of any size; a text that is
not of this form means nothing, and the condition should not hold.

The client ignores what `std::from_chars` returns.  Where there are no digits, or too many, the
count stays 0, and what comes behind the digits is not looked at.  `matches_iff_means_iff` says for
which texts the condition is right all the same, whatever the number of members.
-/

set_option autoImplicit false

namespace Mtx.PushRules

open Str

/-! ## The meaning -/

/-- The operators, and none. -/
def operators : List (Str × Comp) :=
  [("==", .eq), (">=", .ge), ("<=", .le), ("<", .lt), (">", .gt), ("", .eq)]

/-- A decimal digit. -/
def IsDigit (c : UInt8) : Prop := '0'.toUInt8 ≤ c ∧ c ≤ '9'.toUInt8

instance decidableIsDigit (c : UInt8) : Decidable (IsDigit c) := inferInstanceAs (Decidable (_ ∧ _))

/-- One or more decimal digits and nothing else. -/
def IsDecimal (text : Str) : Prop := text ≠ [] ∧ ∀ c ∈ text, IsDigit c

instance decidableIsDecimal (text : Str) : Decidable (IsDecimal text) :=
  inferInstanceAs (Decidable (_ ∧ _))

/-- The number that digits denote. -/
def decimalValue (digits : Str) : ℕ := Radix.value 10 (digits.map fun c ↦ c.toNat - 48)

/-- The comparison of natural numbers. -/
def Comp.Holds (op : Comp) (m n : ℕ) : Prop :=
  match op with
  | .eq => m = n
  | .lt => m < n
  | .le => m ≤ n
  | .ge => n ≤ m
  | .gt => n < m

instance decidableHolds : (op : Comp) → (m n : ℕ) → Decidable (op.Holds m n)
  | .eq, m, n => inferInstanceAs (Decidable (m = n))
  | .lt, m, n => inferInstanceAs (Decidable (m < n))
  | .le, m, n => inferInstanceAs (Decidable (m ≤ n))
  | .ge, m, n => inferInstanceAs (Decidable (n ≤ m))
  | .gt, m, n => inferInstanceAs (Decidable (n < m))

/-- The text is an operator and a decimal number, and the member count compares to the number. -/
def Means (is : Str) (m : UInt64) : Prop :=
  ∃ e ∈ operators, ∃ digits, is = e.1 ++ digits ∧ IsDecimal digits ∧
    e.2.Holds m.toNat (decimalValue digits)

/-! ## Operator and number -/

/-- The operator of a text, and what comes behind it. -/
def splitOperator (is : Str) : Comp × Str :=
  if is.startsWith "==" then (.eq, is.drop 2)
  else if is.startsWith ">=" then (.ge, is.drop 2)
  else if is.startsWith "<=" then (.le, is.drop 2)
  else if is.startsWith "<" then (.lt, is.drop 1)
  else if is.startsWith ">" then (.gt, is.drop 1)
  else (.eq, is)

theorem ofIs_eq (is : Str) : MemberCountCondition.ofIs is =
    { op := (splitOperator is).1, count := fromChars (splitOperator is).2 0 } :=
  rfl

/-- A text is the operator and what comes behind it. -/
theorem exists_operator (is : Str) :
    ∃ e ∈ operators, e.2 = (splitOperator is).1 ∧ is = e.1 ++ (splitOperator is).2 := by
  have hsplit : ∀ {p : Str}, is.startsWith p = true → is = p ++ is.drop p.length := by
    intro p h
    obtain ⟨rest, rfl⟩ := List.isPrefixOf_iff_prefix.mp h
    rw [List.drop_left]
  rw [splitOperator]
  split_ifs with h1 h2 h3 h4 h5
  · exact ⟨("==", .eq), by decide, rfl, hsplit h1⟩
  · exact ⟨(">=", .ge), by decide, rfl, hsplit h2⟩
  · exact ⟨("<=", .le), by decide, rfl, hsplit h3⟩
  · exact ⟨("<", .lt), by decide, rfl, hsplit h4⟩
  · exact ⟨(">", .gt), by decide, rfl, hsplit h5⟩
  · exact ⟨("", .eq), by decide, rfl, rfl⟩

theorem IsDigit.ne {c : UInt8} (h : IsDigit c) :
    c ≠ '='.toUInt8 ∧ c ≠ '<'.toUInt8 ∧ c ≠ '>'.toUInt8 := by
  refine ⟨?_, ?_, ?_⟩
  all_goals
    rintro rfl
    exact absurd h (by decide)

/-- Before digits the operator is found. -/
theorem splitOperator_append {e : Str × Comp} (he : e ∈ operators) {digits : Str}
    (hdigits : IsDecimal digits) : splitOperator (e.1 ++ digits) = (e.2, digits) := by
  obtain ⟨hne, hdigits⟩ := hdigits
  obtain ⟨c, digits, rfl⟩ := List.exists_cons_of_ne_nil hne
  obtain ⟨heq, hlt, hgt⟩ := (hdigits c List.mem_cons_self).ne
  have hbeq : ('='.toUInt8 == c) = false := beq_eq_false_iff_ne.mpr heq.symm
  have hblt : ('<'.toUInt8 == c) = false := beq_eq_false_iff_ne.mpr hlt.symm
  have hbgt : ('>'.toUInt8 == c) = false := beq_eq_false_iff_ne.mpr hgt.symm
  have hlits : lit "==" = ['='.toUInt8, '='.toUInt8] ∧ lit ">=" = ['>'.toUInt8, '='.toUInt8] ∧
      lit "<=" = ['<'.toUInt8, '='.toUInt8] ∧ lit "<" = ['<'.toUInt8] ∧ lit ">" = ['>'.toUInt8] ∧
      lit "" = [] := by decide
  obtain ⟨h1, h2, h3, h4, h5, h6⟩ := hlits
  have hsigns : ('=' : Char).toUInt8 ≠ '<'.toUInt8 ∧ ('=' : Char).toUInt8 ≠ '>'.toUInt8 ∧
      ('<' : Char).toUInt8 ≠ '>'.toUInt8 ∧ ('>' : Char).toUInt8 ≠ '<'.toUInt8 := by decide
  simp only [operators, List.mem_cons, List.not_mem_nil, or_false] at he
  rcases he with rfl | rfl | rfl | rfl | rfl | rfl
  all_goals
    simp [splitOperator, startsWith, h1, h2, h3, h4, h5, h6, hbeq, hblt, hbgt, List.isPrefixOf,
      hsigns]

/-- What a text means, by its operator and what is behind it. -/
theorem means_iff (is : Str) (m : UInt64) : Means is m ↔ IsDecimal (splitOperator is).2 ∧
    (splitOperator is).1.Holds m.toNat (decimalValue (splitOperator is).2) := by
  constructor
  · rintro ⟨e, he, digits, rfl, hdigits, hholds⟩
    rw [splitOperator_append he hdigits]
    exact ⟨hdigits, hholds⟩
  · rintro ⟨hdigits, hholds⟩
    obtain ⟨e, he, hop, his⟩ := exists_operator is
    exact ⟨e, he, _, his, hdigits, by rwa [hop]⟩

/-! ## What the client compares -/

theorem matches_iff (c : MemberCountCondition) (m : UInt64) :
    c.matches m = true ↔ c.op.Holds m.toNat c.count.toNat := by
  obtain ⟨count, op⟩ := c
  cases op with
  | eq => exact beq_iff_eq.trans UInt64.toNat_inj.symm
  | lt => exact decide_eq_true_iff
  | le => exact decide_eq_true_iff
  | ge => exact decide_eq_true_iff
  | gt => exact decide_eq_true_iff

/-- The digits that a text starts with. -/
def leadingDigits (text : Str) : Str := text.takeWhile fun c ↦ decide (IsDigit c)

theorem leadingDigits_of_isDecimal {text : Str} (h : IsDecimal text) : leadingDigits text = text :=
  List.takeWhile_eq_self_iff.mpr fun c hc ↦ decide_eq_true (h.2 c hc)

/-- The number at the start of a text is read if it fits, and otherwise as 0. -/
theorem toNat_fromChars (text : Str) : (fromChars text 0).toNat =
    if decimalValue (leadingDigits text) < 2 ^ 64 then decimalValue (leadingDigits text)
    else 0 := by
  have hvalue : (leadingDigits text).foldl (fun n c ↦ 10 * n + (c.toNat - 48)) 0 =
      decimalValue (leadingDigits text) := by
    rw [decimalValue, Radix.value, List.foldl_map]
    simp only [Nat.add_comm]
  have hfrom : fromChars text 0 =
      if (leadingDigits text).isEmpty ∨ 2 ^ 64 ≤ decimalValue (leadingDigits text) then 0
      else UInt64.ofNat (decimalValue (leadingDigits text)) := by
    rw [← hvalue]
    rfl
  rw [hfrom]
  by_cases hfits : decimalValue (leadingDigits text) < 2 ^ 64
  · rw [if_pos hfits]
    split_ifs with hempty
    · rw [List.isEmpty_iff.mp (hempty.resolve_right (not_le.mpr hfits))]
      rfl
    · exact UInt64.toNat_ofNat_of_lt' hfits
  · rw [if_neg hfits, if_pos (Or.inr (not_lt.mp hfits))]
    rfl

/-! ## When the client is right -/

/-- A number that is too large is never one that 0 can stand for: some member count tells them
apart. -/
theorem exists_of_overflow (op : Comp) {n : ℕ} (hn : 2 ^ 64 ≤ n) :
    ∃ m : UInt64, ¬ (op.Holds m.toNat 0 ↔ op.Holds m.toNat n) := by
  cases op with
  | eq => exact ⟨0, show ¬ (0 = 0 ↔ 0 = n) by omega⟩
  | lt => exact ⟨0, show ¬ (0 < 0 ↔ 0 < n) by omega⟩
  | le => exact ⟨1, show ¬ (1 ≤ 0 ↔ 1 ≤ n) by omega⟩
  | ge => exact ⟨0, show ¬ (0 ≤ 0 ↔ n ≤ 0) by omega⟩
  | gt => exact ⟨1, show ¬ (0 < 1 ↔ n < 1) by omega⟩

/-- A comparison that no member count satisfies. -/
theorem forall_not_holds_iff (op : Comp) {n : ℕ} (hn : n < 2 ^ 64) :
    (∀ m : UInt64, ¬ op.Holds m.toNat n) ↔ op = .lt ∧ n = 0 ∨ op = .gt ∧ n = 2 ^ 64 - 1 := by
  have hcount : (UInt64.ofNat n).toNat = n := UInt64.toNat_ofNat_of_lt' hn
  have hlast : (UInt64.ofNat (2 ^ 64 - 1)).toNat = 2 ^ 64 - 1 :=
    UInt64.toNat_ofNat_of_lt' (by decide)
  constructor
  · intro h
    cases op with
    | eq => exact absurd hcount (h (UInt64.ofNat n))
    | lt => exact Or.inl ⟨rfl, Nat.eq_zero_of_not_pos (h 0)⟩
    | le => exact absurd (Nat.zero_le n) (h 0)
    | ge => exact absurd hcount.ge (h (UInt64.ofNat n))
    | gt =>
      have hle := h (UInt64.ofNat (2 ^ 64 - 1))
      rw [Comp.Holds, hlast] at hle
      exact Or.inr ⟨rfl, by omega⟩
  · rintro (⟨rfl, rfl⟩ | ⟨rfl, rfl⟩) m
    · exact Nat.not_lt_zero _
    · have hm := m.toNat_lt
      rw [Comp.Holds]
      omega

/-- The number of the text fits into 64 bits; or the text means nothing, and is compared in a way
that no member count satisfies: as less than 0, or as greater than the largest count. -/
def Understood (is : Str) : Prop :=
  let (op, text) := splitOperator is
  if IsDecimal text then decimalValue text < 2 ^ 64
  else
    op = .lt ∧ (decimalValue (leadingDigits text) = 0 ∨
      2 ^ 64 ≤ decimalValue (leadingDigits text)) ∨
    op = .gt ∧ decimalValue (leadingDigits text) = 2 ^ 64 - 1

/-- **The compiled condition says what the text means exactly if** the number fits, or the text
means nothing and happens to be read as a condition that never holds. -/
theorem matches_iff_means_iff (is : Str) :
    (∀ m, (MemberCountCondition.ofIs is).matches m = true ↔ Means is m) ↔ Understood is := by
  simp only [matches_iff, means_iff, ofIs_eq, Understood]
  by_cases hdecimal : IsDecimal (splitOperator is).2
  · simp only [if_pos hdecimal, and_iff_right hdecimal, toNat_fromChars,
      leadingDigits_of_isDecimal hdecimal]
    by_cases hfits : decimalValue (splitOperator is).2 < 2 ^ 64
    · rw [if_pos hfits]
      exact iff_of_true (fun _ ↦ Iff.rfl) hfits
    · obtain ⟨m, hm⟩ := exists_of_overflow (splitOperator is).1 (not_lt.mp hfits)
      rw [if_neg hfits]
      exact iff_of_false (fun h ↦ hm (h m)) hfits
  · have hnot : ∀ m : UInt64, ¬ (IsDecimal (splitOperator is).2 ∧
        (splitOperator is).1.Holds m.toNat (decimalValue (splitOperator is).2)) :=
      fun m h ↦ hdecimal h.1
    simp only [hnot, iff_false, if_neg hdecimal]
    rw [forall_not_holds_iff _ (fromChars (splitOperator is).2 0).toNat_lt, toNat_fromChars]
    split_ifs with hfits
    · simp only [not_le.mpr hfits, or_false]
    · have hlast : decimalValue (leadingDigits (splitOperator is).2) ≠ 2 ^ 64 - 1 := by omega
      simp only [not_lt.mp hfits, hlast, or_true, and_true, and_false, or_false]

/-- Without a number a condition compares to 0, and what is behind a number is not looked at. -/
theorem matches_nonsense :
    ((MemberCountCondition.ofIs ">=").matches 5 = true ∧ ¬ Means ">=" 5) ∧
    ((MemberCountCondition.ofIs "2x").matches 2 = true ∧ ¬ Means "2x" 2) ∧
    ((MemberCountCondition.ofIs "<18446744073709551616").matches 5 = false ∧
      Means "<18446744073709551616" 5) := by
  simp only [means_iff]
  decide +kernel

end Mtx.PushRules
