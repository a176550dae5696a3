import Mathlib.Data.List.Lex
import Mathlib.Data.String.Basic

/-!
# Byte strings

Strings as sequences of bytes, with the lexicographic order of unsigned bytes, literals, and the
check that a byte string is well-formed UTF-8.

A literal is written as a Lean `String` and coerced by `Str.lit`.  Since `Str.lit` is injective
(`Str.lit_eq_lit`, a simp lemma), `simp` decides whether two literals are equal by comparing the
Lean strings.
-/

set_option autoImplicit false

instance linearOrderByte : LinearOrder UInt8 where
  le_refl _ := UInt8.le_refl _
  le_trans _ _ _ := UInt8.le_trans
  le_antisymm _ _ := UInt8.le_antisymm
  le_total := UInt8.le_total
  lt_iff_le_not_ge a b := by
    simp only [UInt8.lt_iff_toNat_lt, UInt8.le_iff_toNat_le]
    omega
  toDecidableLE := inferInstance
  toDecidableLT := inferInstance
  toDecidableEq := inferInstance

/-- A byte string. -/
abbrev Str := List UInt8

namespace Str

/-- The bytes of a string literal. -/
def lit (s : String) : Str := s.toUTF8.data.toList

instance coeString : Coe String Str := ⟨lit⟩

theorem lit_empty : lit "" = [] := rfl

@[simp] theorem lit_eq_lit {a b : String} : lit a = lit b ↔ a = b := by
  refine ⟨fun h ↦ ?_, fun h ↦ congrArg lit h⟩
  exact String.toByteArray_inj.mp (ByteArray.ext (Array.toList_inj.mp h))

/-- Does `s` begin with `p`? -/
def startsWith (s p : Str) : Bool := p.isPrefixOf s

/-- A common prefix does not change the order. -/
theorem strictMono_append (p : Str) : StrictMono fun s : Str ↦ p ++ s :=
  fun _ _ h ↦ List.append_left_lt h

/-! ## UTF-8 -/

/-- A byte that continues a multi-byte sequence. -/
def isContinuation (b : UInt8) : Bool := decide (0x80 ≤ b ∧ b ≤ 0xBF)

/-- The two-byte sequences. -/
def isPair (a b : UInt8) : Bool := decide (0xC2 ≤ a ∧ a ≤ 0xDF) && isContinuation b

/-- The three-byte sequences: neither overlong nor a surrogate. -/
def isTriple (a b c : UInt8) : Bool :=
  isContinuation b && isContinuation c &&
    (decide (a = 0xE0 ∧ 0xA0 ≤ b) || decide (a = 0xED ∧ b ≤ 0x9F) ||
      decide (0xE1 ≤ a ∧ a ≤ 0xEF ∧ a ≠ 0xED))

/-- The four-byte sequences: neither overlong nor above U+10FFFF. -/
def isQuad (a b c d : UInt8) : Bool :=
  isContinuation b && isContinuation c && isContinuation d &&
    (decide (a = 0xF0 ∧ 0x90 ≤ b) || decide (a = 0xF4 ∧ b ≤ 0x8F) ||
      decide (0xF1 ≤ a ∧ a ≤ 0xF3))

/-- Is the byte string well-formed UTF-8? -/
def validUtf8 : Str → Bool
  | [] => true
  | a :: s => if a < 0x80 then validUtf8 s else
    match s with
    | [] => false
    | b :: s => if isPair a b then validUtf8 s else
      match s with
      | [] => false
      | c :: s => if isTriple a b c then validUtf8 s else
        match s with
        | [] => false
        | d :: s => isQuad a b c d && validUtf8 s

/-- Well-formed text followed by well-formed text is well-formed. -/
theorem validUtf8_append {s : Str} (hs : validUtf8 s = true) (t : Str) :
    validUtf8 (s ++ t) = validUtf8 t := by
  fun_induction validUtf8 s with
  | case1 => rfl
  | case2 a s h ih =>
    rw [List.cons_append, validUtf8.eq_def]
    simpa only [h, if_true] using ih hs
  | case3 => cases hs
  | case4 a h1 b s h2 ih =>
    rw [List.cons_append, List.cons_append, validUtf8.eq_def]
    simpa only [h1, h2, if_false, if_true] using ih hs
  | case5 => cases hs
  | case6 a h1 b h2 c s h3 ih =>
    rw [List.cons_append, List.cons_append, List.cons_append, validUtf8.eq_def]
    simpa only [h1, h2, h3, Bool.false_eq_true, if_false, if_true] using ih hs
  | case7 => cases hs
  | case8 a h1 b h2 c h3 d s ih =>
    rw [Bool.and_eq_true] at hs
    rw [List.cons_append, List.cons_append, List.cons_append, List.cons_append, validUtf8.eq_def]
    simpa only [h1, h2, h3, hs.1, Bool.false_eq_true, if_false, Bool.true_and] using ih hs.2

/-- ASCII is UTF-8. -/
theorem validUtf8_of_ascii {s : Str} (h : ∀ b ∈ s, b < 0x80) : validUtf8 s = true := by
  induction s with
  | nil => rfl
  | cons b s ih =>
    rw [validUtf8.eq_def]
    simpa only [h b List.mem_cons_self, if_true] using
      ih fun c hc ↦ h c (List.mem_cons_of_mem b hc)

end Str
