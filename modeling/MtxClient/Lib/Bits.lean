import MtxClient.Lib.Radix

/-!
# Bit strings

A number of a fixed width as a bit string, the most significant bit first, and the bytes that a bit
string is made of.  A code that regroups bits (six at a time into eight at a time, say) is described
by the bit string that both sides have in common: `ofNat_add` cuts a field of bits in two, and
`bytes_append` and `groups_append` put the next bits together.
-/

set_option autoImplicit false

namespace Bits

/-- The lowest `width` bits of a number. -/
def ofNat : ℕ → ℕ → List Bool
  | 0, _ => []
  | width + 1, n => decide (n / 2 ^ width % 2 = 1) :: ofNat width n

/-- The number that a bit string denotes. -/
def toNat (bits : List Bool) : ℕ := Radix.value 2 (bits.map Bool.toNat)

/-- The first `n` bytes of a bit string. -/
def bytes : ℕ → List Bool → List UInt8
  | 0, _ => []
  | n + 1, bits => UInt8.ofNat (toNat (bits.take 8)) :: bytes n (bits.drop 8)

@[simp] theorem length_ofNat (width n : ℕ) : (ofNat width n).length = width := by
  induction width with
  | zero => rfl
  | succ width ih => rw [ofNat, List.length_cons, ih]

@[simp] theorem length_bytes (n : ℕ) (bits : List Bool) : (bytes n bits).length = n := by
  induction n generalizing bits with
  | zero => rfl
  | succ n ih => rw [bytes, List.length_cons, ih]

/-! ## The number of a bit string -/

theorem toNat_append (a b : List Bool) : toNat (a ++ b) = toNat a * 2 ^ b.length + toNat b := by
  rw [toNat, List.map_append, Radix.value_append, List.length_map]
  rfl

theorem toNat_replicate_false (n : ℕ) : toNat (List.replicate n false) = 0 := by
  induction n with
  | zero => rfl
  | succ n ih =>
    rw [List.replicate_succ', toNat_append, ih]
    rfl

@[simp] theorem toNat_ofNat (width n : ℕ) : toNat (ofNat width n) = n % 2 ^ width := by
  induction width with
  | zero => rw [pow_zero, Nat.mod_one]; rfl
  | succ width ih =>
    have hbit : toNat [decide (n / 2 ^ width % 2 = 1)] = n / 2 ^ width % 2 := by
      rcases Nat.mod_two_eq_zero_or_one (n / 2 ^ width) with h | h <;> rw [h] <;> rfl
    rw [ofNat, ← List.singleton_append, toNat_append, hbit, length_ofNat, ih, Nat.pow_succ,
      Nat.mod_mul, Nat.mul_comm, Nat.add_comm]

theorem toNat_lt (bits : List Bool) : toNat bits < 2 ^ bits.length := by
  induction bits with
  | nil => exact Nat.zero_lt_one
  | cons b bits ih =>
    have hb : toNat [b] ≤ 1 := by cases b <;> decide
    rw [← List.singleton_append, toNat_append, List.length_append, List.length_singleton, pow_add,
      pow_one]
    have hle : toNat [b] * 2 ^ bits.length ≤ 1 * 2 ^ bits.length := Nat.mul_le_mul_right _ hb
    omega

/-- A field of bits is made of its upper and its lower bits. -/
theorem ofNat_add (upper lower n : ℕ) :
    ofNat (upper + lower) n = ofNat upper (n / 2 ^ lower) ++ ofNat lower n := by
  induction upper with
  | zero => rw [Nat.zero_add]; rfl
  | succ upper ih =>
    rw [Nat.add_right_comm, ofNat, ih, ofNat, Nat.div_div_eq_div_mul, ← pow_add,
      Nat.add_comm lower upper]
    rfl

/-- The number is zero if no bit is set, and only then. -/
theorem toNat_eq_zero_iff (bits : List Bool) : toNat bits = 0 ↔ ∀ b ∈ bits, b = false := by
  induction bits with
  | nil => exact ⟨fun _ b hb ↦ absurd hb List.not_mem_nil, fun _ ↦ rfl⟩
  | cons b bits ih =>
    rw [← List.singleton_append, toNat_append, List.singleton_append, List.forall_mem_cons, ← ih]
    cases b
    · simp [toNat, Radix.value]
    · simp [toNat, Radix.value]

/-! ## Bytes -/

/-- The next byte is made of the next eight bits. -/
theorem bytes_append {byte : List Bool} (hbyte : byte.length = 8) (n : ℕ) (bits : List Bool) :
    bytes (n + 1) (byte ++ bits) = UInt8.ofNat (toNat byte) :: bytes n bits := by
  rw [bytes, List.take_left' hbyte, List.drop_left' hbyte]

/-- The bits of a list of bytes. -/
def ofBytes (bs : List UInt8) : List Bool := bs.flatMap fun b ↦ ofNat 8 b.toNat

theorem ofBytes_cons (b : UInt8) (bs : List UInt8) :
    ofBytes (b :: bs) = ofNat 8 b.toNat ++ ofBytes bs := List.flatMap_cons

@[simp] theorem length_ofBytes (bs : List UInt8) : (ofBytes bs).length = 8 * bs.length := by
  induction bs with
  | nil => rfl
  | cons b bs ih =>
    rw [ofBytes_cons, List.length_append, length_ofNat, ih, List.length_cons, Nat.mul_succ,
      Nat.add_comm]

/-! ## Groups of bits -/

/-- The numbers that the first `n` groups of `width` bits denote. -/
def groups (width : ℕ) : ℕ → List Bool → List ℕ
  | 0, _ => []
  | n + 1, bits => toNat (bits.take width) :: groups width n (bits.drop width)

@[simp] theorem length_groups (width n : ℕ) (bits : List Bool) :
    (groups width n bits).length = n := by
  induction n generalizing bits with
  | zero => rfl
  | succ n ih => rw [groups, List.length_cons, ih]

/-- The next number is made of the next group. -/
theorem groups_append {width : ℕ} {group : List Bool} (hgroup : group.length = width) (n : ℕ)
    (bits : List Bool) :
    groups width (n + 1) (group ++ bits) = toNat group :: groups width n bits := by
  rw [groups, List.take_left' hgroup, List.drop_left' hgroup]

theorem lt_of_mem_groups {width n g : ℕ} {bits : List Bool} (h : g ∈ groups width n bits) :
    g < 2 ^ width := by
  induction n generalizing bits with
  | zero => cases h
  | succ n ih =>
    rw [groups] at h
    rcases List.mem_cons.mp h with rfl | h
    · exact (toNat_lt _).trans_le
        (Nat.pow_le_pow_right Nat.two_pos (List.length_take_le width bits))
    · exact ih h

/-- Bit strings of one length denote different numbers. -/
theorem toNat_inj {a b : List Bool} (hlength : a.length = b.length) :
    toNat a = toNat b ↔ a = b := by
  refine ⟨fun h ↦ ?_, congrArg toNat⟩
  induction a generalizing b with
  | nil => exact (List.length_eq_zero_iff.mp hlength.symm).symm
  | cons x a ih =>
    rcases b with - | ⟨y, b⟩
    · cases hlength
    · have hlength' : a.length = b.length := Nat.succ.inj hlength
      have ha := toNat_lt a
      have hb := toNat_lt b
      rw [← List.singleton_append, toNat_append, ← List.singleton_append (l := b), toNat_append]
        at h
      rw [hlength'] at ha h
      cases x
      · cases y
        · rw [ih hlength' (by simpa using h)]
        · simp [toNat, Radix.value] at h ha hb
          omega
      · cases y
        · simp [toNat, Radix.value] at h ha hb
          omega
        · rw [ih hlength' (by simpa using h)]

/-- **The groups of two bit strings are the same exactly when the bits in them are.** -/
theorem groups_eq_iff {width n : ℕ} {bits bits' : List Bool} (h : width * n ≤ bits.length)
    (h' : width * n ≤ bits'.length) : groups width n bits = groups width n bits' ↔
      bits.take (width * n) = bits'.take (width * n) := by
  induction n generalizing bits bits' with
  | zero => exact iff_of_true rfl rfl
  | succ n ih =>
    have hsplit : width * (n + 1) = width + width * n := by rw [Nat.mul_succ, Nat.add_comm]
    rw [hsplit] at h h' ⊢
    rw [groups, groups, List.cons.injEq, ih (by rw [List.length_drop]; omega)
      (by rw [List.length_drop]; omega), List.take_add, List.take_add]
    have hlength : (bits.take width).length = (bits'.take width).length := by
      rw [List.length_take, List.length_take, Nat.min_eq_left (by omega),
        Nat.min_eq_left (by omega)]
    rw [toNat_inj hlength]
    exact ⟨fun ⟨hfirst, hrest⟩ ↦ by rw [hfirst, hrest], fun heq ↦ List.append_inj heq hlength⟩

end Bits
