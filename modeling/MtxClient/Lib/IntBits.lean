import MtxClient.Lib.Bits

/-!
# Bit operations of int

An operand of type `uint8_t` is promoted to `int` before it is shifted, masked or combined with
another one.  An expression that takes fields of bits out of bytes and puts them side by side is the
number of the bit string that it is made of, `value`, as long as that has less than 32 bits.
-/

set_option autoImplicit false

namespace IntBits

open Bits

/-- The number that a bit string denotes, as an `int`. -/
def value (bits : List Bool) : Int32 := Int32.ofNat (toNat bits)

/-- The integral promotion of a byte. -/
def promote (b : UInt8) : Int32 := Int32.ofNat b.toNat

/-! ## Numbers that fit -/

theorem ofNat_or (n m : ℕ) : Int32.ofNat n ||| Int32.ofNat m = Int32.ofNat (n ||| m) := by
  apply Int32.toBitVec_inj.mp
  show BitVec.ofNat 32 n ||| BitVec.ofNat 32 m = BitVec.ofNat 32 (n ||| m)
  exact BitVec.ofNat_or.symm

theorem ofNat_and (n m : ℕ) : Int32.ofNat n &&& Int32.ofNat m = Int32.ofNat (n &&& m) := by
  apply Int32.toBitVec_inj.mp
  show BitVec.ofNat 32 n &&& BitVec.ofNat 32 m = BitVec.ofNat 32 (n &&& m)
  exact BitVec.ofNat_and.symm

/-- The width of a shift is taken modulo 32, which changes nothing here. -/
theorem smod_of_lt {k : ℕ} (hk : k < 32) : (BitVec.ofNat 32 k).smod 32 = BitVec.ofNat 32 k := by
  have hint : (BitVec.ofNat 32 k).toInt = k := by
    rw [BitVec.toInt_ofNat', Int.bmod_eq_of_le (by omega) (by omega)]
  apply BitVec.eq_of_toInt_eq
  rw [BitVec.toInt_smod, hint]
  exact Int.fmod_eq_of_lt (Int.natCast_nonneg k) (Int.ofNat_lt.mpr hk)

theorem ofNat_shiftLeft (n : ℕ) {k : ℕ} (hk : k < 32) :
    Int32.ofNat n <<< Int32.ofNat k = Int32.ofNat (n <<< k) := by
  apply Int32.toBitVec_inj.mp
  show BitVec.ofNat 32 n <<< (BitVec.ofNat 32 k).smod 32 = BitVec.ofNat 32 (n <<< k)
  rw [smod_of_lt hk]
  have hk' : k % 2 ^ 32 = k := Nat.mod_eq_of_lt (by omega)
  apply BitVec.eq_of_toNat_eq
  simp only [BitVec.shiftLeft_eq', BitVec.toNat_shiftLeft, BitVec.toNat_ofNat, hk',
    Nat.shiftLeft_eq, Nat.mod_mul_mod]

/-- A shift to the right is arithmetic, but the sign is positive. -/
theorem ofNat_shiftRight {n k : ℕ} (hn : n < 2 ^ 31) (hk : k < 32) :
    Int32.ofNat n >>> Int32.ofNat k = Int32.ofNat (n >>> k) := by
  apply Int32.toBitVec_inj.mp
  show (BitVec.ofNat 32 n).sshiftRight' ((BitVec.ofNat 32 k).smod 32) = BitVec.ofNat 32 (n >>> k)
  rw [smod_of_lt hk]
  have hk' : k % 2 ^ 32 = k := Nat.mod_eq_of_lt (by omega)
  have hn' : n % 2 ^ 32 = n := Nat.mod_eq_of_lt (by omega)
  have hmsb : (BitVec.ofNat 32 n).msb = false := by
    rw [BitVec.msb_eq_decide, BitVec.toNat_ofNat, hn']
    exact decide_eq_false (by omega)
  have hle : n >>> k ≤ n := Nat.shiftRight_le n k
  apply BitVec.eq_of_toNat_eq
  rw [BitVec.toNat_sshiftRight'_of_msb_false hmsb, BitVec.toNat_ofNat, BitVec.toNat_ofNat,
    BitVec.toNat_ofNat, hk', hn', Nat.mod_eq_of_lt (by omega)]

/-! ## Fields of bits -/

/-- A whole byte. -/
theorem promote_eq (b : UInt8) : promote b = value (ofNat 8 b.toNat) := by
  rw [promote, value, toNat_ofNat, Nat.mod_eq_of_lt b.toNat_lt]

/-- The upper bits of a byte. -/
theorem promote_shiftRight (b : UInt8) {upper lower : ℕ} (h : upper + lower = 8) :
    promote b >>> Int32.ofNat lower = value (ofNat upper (b.toNat / 2 ^ lower)) := by
  have hb : b.toNat < 2 ^ upper * 2 ^ lower := by
    rw [← pow_add, h]
    exact b.toNat_lt
  have hdiv : b.toNat / 2 ^ lower < 2 ^ upper :=
    (Nat.div_lt_iff_lt_mul (Nat.two_pow_pos lower)).mpr hb
  rw [promote, ofNat_shiftRight (b.toNat_lt.trans (by decide)) (by omega),
    Nat.shiftRight_eq_div_pow, value, toNat_ofNat, Nat.mod_eq_of_lt hdiv]

/-- The lower bits of a byte. -/
theorem promote_and (b : UInt8) (lower : ℕ) :
    promote b &&& Int32.ofNat (2 ^ lower - 1) = value (ofNat lower b.toNat) := by
  rw [promote, ofNat_and, Nat.and_two_pow_sub_one_eq_mod, value, toNat_ofNat]

/-- The lower bits of a byte that was shifted before: the mask takes off what is above them. -/
theorem promote_shiftLeft_and (b : UInt8) (lower : ℕ) {k : ℕ} (hk : k < 32) :
    promote b <<< Int32.ofNat k &&& Int32.ofNat (2 ^ (lower + k) - 1) =
      value (ofNat lower b.toNat) <<< Int32.ofNat k := by
  rw [promote, value, ofNat_shiftLeft _ hk, ofNat_shiftLeft _ hk, ofNat_and,
    Nat.and_two_pow_sub_one_eq_mod, toNat_ofNat, Nat.shiftLeft_eq, Nat.shiftLeft_eq, pow_add,
    Nat.mul_mod_mul_right]

/-- **Two fields side by side.** -/
theorem shiftLeft_or (a : List Bool) {b : List Bool} {k : ℕ} (hlength : b.length = k)
    (hk : k < 32) :
    value a <<< Int32.ofNat k ||| value b = value (a ++ b) := by
  have hlt : toNat b < 2 ^ k := hlength ▸ toNat_lt b
  rw [value, value, value, ofNat_shiftLeft _ hk, ofNat_or, toNat_append, hlength,
    ← Nat.shiftLeft_add_eq_or_of_lt hlt, Nat.shiftLeft_eq]

/-- The lower bits of a byte and the upper bits of the next one, put together in one byte. -/
theorem shiftLeft_and_or (a b : UInt8) {lower upper rest : ℕ} (h : upper + rest = 8) :
    (promote a <<< Int32.ofNat upper &&& Int32.ofNat (2 ^ (lower + upper) - 1)) |||
        promote b >>> Int32.ofNat rest =
      value (ofNat lower a.toNat ++ ofNat upper (b.toNat / 2 ^ rest)) := by
  rw [promote_shiftLeft_and a lower (by omega), promote_shiftRight b h,
    shiftLeft_or _ (length_ofNat upper _) (by omega)]

/-- Three fields side by side. -/
theorem shiftLeft_or_shiftLeft_or (a : List Bool) {b c : List Bool} {k l : ℕ}
    (hb : b.length = k) (hc : c.length = l) (hl : k + l < 32) :
    value a <<< Int32.ofNat (k + l) ||| value b <<< Int32.ofNat l ||| value c =
      value (a ++ b ++ c) := by
  have htwo : value a <<< Int32.ofNat (k + l) ||| value b <<< Int32.ofNat l =
      value (a ++ b) <<< Int32.ofNat l := by
    rw [← shiftLeft_or a hb (by omega), Int32.shiftLeft_or]
    congr 1
    rw [value, ofNat_shiftLeft _ hl, ofNat_shiftLeft _ (by omega), ofNat_shiftLeft _ (by omega),
      Nat.shiftLeft_add]
  rw [htwo, shiftLeft_or _ hc (by omega)]

end IntBits
