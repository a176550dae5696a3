import Mathlib.Data.List.TakeWhile
import Mathlib.Data.Nat.Digits.Lemmas

/-!
# Changing the base of a number

A long number is kept as the list of its digits, least significant one first, as in `Nat.digits`.
`mulAdd` multiplies such a number by a small factor and adds a small one, digit by digit with a
carry.  Done for every digit of a number in another base, this changes the base, by Horner's rule.
-/

set_option autoImplicit false

namespace Radix

/-- `factor` times the number plus `carry`, in the same base. -/
def mulAdd (base factor : ℕ) : ℕ → List ℕ → List ℕ
  | carry, [] => base.digits carry
  | carry, d :: ds =>
    (carry + d * factor) % base :: mulAdd base factor ((carry + d * factor) / base) ds

/-- The value of a number whose most significant digit stands first. -/
def value (factor : ℕ) (ds : List ℕ) : ℕ := ds.foldl (fun v d ↦ d + factor * v) 0

theorem value_eq_ofDigits (factor : ℕ) (ds : List ℕ) :
    value factor ds = Nat.ofDigits factor ds.reverse := by
  induction ds using List.reverseRecOn with
  | nil => rfl
  | append_singleton ds d ih =>
    rw [value, List.foldl_append, ← value, ih, List.reverse_append]
    rfl

theorem value_append (factor : ℕ) (as bs : List ℕ) :
    value factor (as ++ bs) = value factor as * factor ^ bs.length + value factor bs := by
  rw [value_eq_ofDigits, value_eq_ofDigits, value_eq_ofDigits, List.reverse_append,
    Nat.ofDigits_append, List.length_reverse, Nat.mul_comm, Nat.add_comm]

/-- `mulAdd` computes the digits it should. -/
theorem mulAdd_digits {base factor : ℕ} (hbase : 1 < base) (hfactor : 0 < factor) (carry v : ℕ) :
    mulAdd base factor carry (base.digits v) = base.digits (carry + factor * v) := by
  induction v using Nat.strong_induction_on generalizing carry with
  | h v ih =>
    rcases Nat.eq_zero_or_pos v with rfl | hv
    · simp [mulAdd]
    · have hsplit : carry + factor * v =
          carry + v % base * factor + base * (factor * (v / base)) := by
        calc carry + factor * v
          _ = carry + factor * (v % base + base * (v / base)) := by rw [Nat.mod_add_div]
          _ = carry + v % base * factor + base * (factor * (v / base)) := by ring
      have hpos : 0 < carry + factor * v := Nat.add_pos_right _ (Nat.mul_pos hfactor hv)
      rw [Nat.digits_def' hbase hv, mulAdd, ih _ (Nat.div_lt_self hv hbase),
        Nat.digits_def' hbase hpos, hsplit, Nat.add_mul_mod_self_left,
        Nat.add_mul_div_left _ _ (Nat.lt_of_succ_lt hbase)]

theorem foldl_mulAdd_digits {base factor : ℕ} (hbase : 1 < base) (hfactor : 0 < factor)
    (ds : List ℕ) (v : ℕ) :
    ds.foldl (fun acc d ↦ mulAdd base factor d acc) (base.digits v) =
      base.digits (ds.foldl (fun v d ↦ d + factor * v) v) := by
  induction ds generalizing v with
  | nil => rfl
  | cons d ds ih => rw [List.foldl_cons, mulAdd_digits hbase hfactor, ih, List.foldl_cons]

/-- **Horner's rule**: the digits in the base `base` of a number given in the base `factor`. -/
theorem foldl_mulAdd {base factor : ℕ} (hbase : 1 < base) (hfactor : 0 < factor) (ds : List ℕ) :
    ds.foldl (fun acc d ↦ mulAdd base factor d acc) [] = base.digits (value factor ds) := by
  simpa [value] using foldl_mulAdd_digits hbase hfactor ds 0

/-- The same with a leading zero, which only stays if the number is zero. -/
theorem foldl_mulAdd_zero {base factor : ℕ} (hbase : 1 < base) (hfactor : 0 < factor)
    (ds : List ℕ) : ds.foldl (fun acc d ↦ mulAdd base factor d acc) [0] =
      if value factor ds = 0 then [0] else base.digits (value factor ds) := by
  have hpos : 0 < base := Nat.lt_of_succ_lt hbase
  induction ds using List.reverseRecOn with
  | nil => rfl
  | append_singleton ds d ih =>
    have hvalue : value factor (ds ++ [d]) = d + factor * value factor ds := by
      rw [value, List.foldl_append]
      rfl
    rw [List.foldl_append, ih, List.foldl_cons, List.foldl_nil, hvalue]
    by_cases hv : value factor ds = 0
    · rw [if_pos hv, hv, Nat.mul_zero, Nat.add_zero, mulAdd, Nat.zero_mul, Nat.add_zero, mulAdd]
      rcases Nat.eq_zero_or_pos d with rfl | hd
      · simp
      · rw [if_neg hd.ne', Nat.digits_def' hbase hd]
    · have hne : d + factor * value factor ds ≠ 0 := fun h ↦
        hv ((Nat.mul_eq_zero.mp (Nat.eq_zero_of_add_eq_zero_left h)).resolve_left hfactor.ne')
      rw [if_neg hv, if_neg hne, mulAdd_digits hbase hfactor]

/-- The digits of a number that has no leading zero are the ones it was given by. -/
theorem digits_value {base : ℕ} (hbase : 1 < base) {ds : List ℕ} (hlt : ∀ d ∈ ds, d < base)
    (hhead : ds.head? ≠ some 0) : (base.digits (value base ds)).reverse = ds := by
  rw [value_eq_ofDigits, Nat.digits_ofDigits base hbase ds.reverse, List.reverse_reverse]
  · exact fun d hd ↦ hlt d (List.mem_reverse.mp hd)
  · intro hne h0
    rw [List.getLast_reverse] at h0
    exact hhead (by rw [← h0, List.head?_eq_some_head])

/-- The leading digit of a number that has digits is not zero. -/
theorem head?_reverse_digits_ne (base n : ℕ) :
    (base.digits n).reverse.head? ≠ some 0 := by
  intro h0
  rw [List.head?_reverse] at h0
  rcases Nat.eq_zero_or_pos n with rfl | hn
  · rw [Nat.digits_zero] at h0
    cases h0
  · rcases hds : base.digits n with - | ⟨d, ds⟩
    · rw [hds] at h0
      cases h0
    · have hne : base.digits n ≠ [] := by rw [hds]; exact List.cons_ne_nil d ds
      rw [List.getLast?_eq_some_getLast hne] at h0
      exact Nat.getLast_digit_ne_zero base hn.ne' (Option.some.inj h0)

/-- A number of `n` digits has at most `m` digits in a base of which the `m`-th power is large
enough. -/
theorem length_digits_value_le {base factor m : ℕ} (hbase : 1 < base) {ds : List ℕ}
    (hlt : ∀ d ∈ ds, d < factor) (hfactor : 1 < factor) (hpow : factor ^ ds.length ≤ base ^ m) :
    (base.digits (value factor ds)).length ≤ m := by
  rw [Nat.digits_length_le_iff hbase, value_eq_ofDigits]
  refine lt_of_lt_of_le (Nat.ofDigits_lt_base_pow_length hfactor fun d hd ↦
    hlt d (List.mem_reverse.mp hd)) ?_
  rwa [List.length_reverse]

/-! ## Leading zeros

A list of digits is its leading zeros and its value.  `convert` keeps both, so that it can be undone
by a conversion back. -/

/-- The number of leading zeros. -/
def zeros (ds : List ℕ) : ℕ := (ds.takeWhile (· == 0)).length

/-- The digits in the base `c` for digits in the base `b`, with as many leading zeros. -/
def convert (b c : ℕ) (ds : List ℕ) : List ℕ :=
  List.replicate (zeros ds) 0 ++ (c.digits (value b ds)).reverse

theorem takeWhile_eq_replicate (ds : List ℕ) :
    ds.takeWhile (· == 0) = List.replicate (zeros ds) 0 :=
  List.eq_replicate_of_mem fun _ hd ↦ beq_iff_eq.mp (List.mem_takeWhile_imp (p := (· == 0)) hd)

@[simp] theorem value_replicate_zero_append (b n : ℕ) (ds : List ℕ) :
    value b (List.replicate n 0 ++ ds) = value b ds := by
  have hzero : value b (List.replicate n 0) = 0 := by
    induction n with
    | zero => rfl
    | succ n ih =>
      rw [List.replicate_succ', value_append, ih, Nat.zero_mul]
      rfl
  rw [value_append, hzero, Nat.zero_mul, Nat.zero_add]

theorem zeros_replicate_append (n : ℕ) {ds : List ℕ} (hhead : ds.head? ≠ some 0) :
    zeros (List.replicate n 0 ++ ds) = n := by
  have hnil : ds.takeWhile (· == 0) = [] := by
    rcases ds with - | ⟨d, ds⟩
    · rfl
    · exact List.takeWhile_cons_of_neg fun hd ↦ hhead (congrArg some (beq_iff_eq.mp hd))
  rw [zeros, List.takeWhile_append_of_pos fun d hd ↦ beq_iff_eq.mpr (List.eq_of_mem_replicate hd),
    hnil, List.append_nil, List.length_replicate]

/-- The number is zero if the digits are, and only then. -/
theorem value_eq_zero_iff {b : ℕ} (hb : 0 < b) (ds : List ℕ) :
    value b ds = 0 ↔ ∀ d ∈ ds, d = 0 := by
  induction ds using List.reverseRecOn with
  | nil => exact ⟨fun _ d hd ↦ absurd hd List.not_mem_nil, fun _ ↦ rfl⟩
  | append_singleton ds d ih =>
    have hvalue : value b (ds ++ [d]) = value b ds * b + d := by
      rw [value_append, List.length_singleton, pow_one]
      exact congrArg _ (Nat.add_zero d)
    rw [hvalue, Nat.add_eq_zero_iff, Nat.mul_eq_zero, or_iff_left hb.ne', ih,
      List.forall_mem_append, List.forall_mem_singleton]

/-- **Digits are their leading zeros and their value.** -/
theorem replicate_zeros_append {b : ℕ} (hb : 1 < b) {ds : List ℕ} (hlt : ∀ d ∈ ds, d < b) :
    List.replicate (zeros ds) 0 ++ (b.digits (value b ds)).reverse = ds := by
  have hsplit : List.replicate (zeros ds) 0 ++ ds.dropWhile (· == 0) = ds := by
    rw [← takeWhile_eq_replicate, List.takeWhile_append_dropWhile]
  have hrest : ∀ d ∈ ds.dropWhile (· == 0), d < b := fun d hd ↦
    hlt d ((List.dropWhile_sublist _).mem hd)
  have hhead : (ds.dropWhile (· == 0)).head? ≠ some 0 := by
    intro h0
    have hnot := List.head?_dropWhile_not (· == 0) ds
    rw [h0] at hnot
    cases hnot
  have hvalue : value b ds = value b (ds.dropWhile (· == 0)) := by
    rw [← value_replicate_zero_append b (zeros ds) (ds.dropWhile (· == 0)), hsplit]
  rw [hvalue, digits_value hb hrest hhead, hsplit]

theorem zeros_convert (b c : ℕ) (ds : List ℕ) : zeros (convert b c ds) = zeros ds :=
  zeros_replicate_append _ (head?_reverse_digits_ne c _)

theorem value_convert (b c : ℕ) (ds : List ℕ) : value c (convert b c ds) = value b ds := by
  rw [convert, value_replicate_zero_append, value_eq_ofDigits, List.reverse_reverse,
    Nat.ofDigits_digits]

theorem lt_of_mem_convert {b c : ℕ} (hc : 1 < c) {ds : List ℕ} : ∀ d ∈ convert b c ds, d < c := by
  intro d hd
  rcases List.mem_append.mp hd with hd | hd
  · rw [List.eq_of_mem_replicate hd]
    exact Nat.zero_lt_of_lt hc
  · exact Nat.digits_lt_base hc (List.mem_reverse.mp hd)

/-- Nothing but zeros stays as it is. -/
theorem convert_replicate_zero (b c n : ℕ) :
    convert b c (List.replicate n 0) = List.replicate n 0 := by
  have hzeros : zeros (List.replicate n 0) = n := by
    rw [← List.append_nil (List.replicate n 0)]
    exact zeros_replicate_append n fun h ↦ by cases h
  have hvalue : value b (List.replicate n 0) = 0 := by
    rw [← List.append_nil (List.replicate n 0), value_replicate_zero_append]
    rfl
  rw [convert, hzeros, hvalue, Nat.digits_zero, List.reverse_nil, List.append_nil]

/-- **Converting back undoes a conversion.** -/
theorem convert_convert {b : ℕ} (c : ℕ) (hb : 1 < b) {ds : List ℕ} (hlt : ∀ d ∈ ds, d < b) :
    convert c b (convert b c ds) = ds := by
  rw [convert, zeros_convert, value_convert, replicate_zeros_append hb hlt]

end Radix
