import MtxClient.Crypto.Encoding
import MtxClient.Lib.Bits
import Mathlib.Data.List.TakeWhile

/-!
# The base64 decoder beside the bit string it reads

What base64 says about a text: the letters that it starts with are six bits each, and the bytes are
the whole groups of eight among these bits.  `reference` is this as a definition, and `leftover` are
the bits behind the last byte, fewer than eight.

`decode_base64` pushes each byte before it is complete, and drops the last one again when there was
nothing in it.  `decodeBase64_eq` says what that comes to for every text: the bytes of `reference`,
followed by one byte that begins with the leftover bits, unless `Drops` holds.  So leftover bits
that are not zero are kept, whatever follows them, and for these the decoder is a function of the
letters alone.  Leftover bits that are all zero are dropped when the text ends there or goes on with
the padding.
-/

set_option autoImplicit false

namespace Mtx.Crypto

open Str Bits

/-! ## The reference -/

variable (alphabet : Alphabet)

/-- The letters that a text starts with. -/
def leadingLetters (s : Str) : Str := s.takeWhile (alphabet.letters.contains ·)

/-- The bit string of a list of letters. -/
def bitString (letters : Str) : List Bool :=
  letters.flatMap fun b ↦ Bits.ofNat 6 (alphabet.letters.idxOf b)

/-- The bytes of a list of letters. -/
def wholeBytes (letters : Str) : Str :=
  Bits.bytes (3 * letters.length / 4) (bitString alphabet letters)

/-- The bits of a list of letters that are behind its bytes. -/
def leftover (letters : Str) : List Bool :=
  (bitString alphabet letters).drop (8 * (3 * letters.length / 4))

/-- The byte that begins with the given bits and goes on with zeros. -/
def paddedByte (bits : List Bool) : UInt8 :=
  UInt8.ofNat (toNat (bits ++ List.replicate (8 - bits.length) false))

/-- What a text should be decoded to. -/
def reference (s : Str) : Str := wholeBytes alphabet (leadingLetters alphabet s)

/-- What comes behind the leading letters. -/
def behindLetters (s : Str) : Str := s.dropWhile (alphabet.letters.contains ·)

/-- A text that ends here, or goes on with the padding. -/
def Ends (rest : Str) : Prop := rest.head? = none ∨ rest.head? = some '='.toUInt8

instance decidableEnds (rest : Str) : Decidable (Ends rest) := inferInstanceAs (Decidable (_ ∨ _))

/-- There is no byte to be dropped, or the decoder finds it empty. -/
def Drops (letters rest : Str) : Prop :=
  letters.length % 4 = 0 ∨
    letters.length % 4 ≠ 1 ∧ (∀ b ∈ leftover alphabet letters, b = false) ∧ Ends rest

instance decidableDrops (letters rest : Str) : Decidable (Drops alphabet letters rest) :=
  inferInstanceAs (Decidable (_ ∨ _))

/-! ## Groups of letters -/

@[simp] theorem length_bitString (letters : Str) :
    (bitString alphabet letters).length = 6 * letters.length := by
  induction letters with
  | nil => rfl
  | cons b letters ih =>
    rw [bitString, List.flatMap_cons, List.length_append, length_ofNat, ← bitString, ih,
      List.length_cons]
    omega

theorem idxOf_lt {b : UInt8} (hb : b ∈ alphabet.letters) : alphabet.letters.idxOf b < 64 := by
  rw [← alphabet.length_eq]
  exact List.idxOf_lt_length_of_mem hb

theorem decodeLoop_cons_of_mem {b : UInt8} (hb : b ∈ alphabet.letters) (s : DecodeState)
    (rest : Str) : decodeLoop alphabet s (b :: rest) =
      decodeLoop alphabet (s.push (UInt8.ofNat (alphabet.letters.idxOf b))) rest := by
  have hlt := idxOf_lt alphabet hb
  have hinvert : alphabet.invert b = UInt8.ofNat (alphabet.letters.idxOf b) := if_pos hb
  have hle : ¬ UInt8.ofNat (alphabet.letters.idxOf b) > 64 := by
    rw [gt_iff_lt, UInt8.lt_iff_toNat_lt, UInt8.toNat_ofNat']
    have : (64 : UInt8).toNat = 64 := rfl
    omega
  have hpad : b ≠ '='.toUInt8 := fun h ↦ alphabet.not_mem_pad (h ▸ hb)
  rw [decodeLoop, if_neg hpad, hinvert, if_neg hle]

/-- What does not begin with a letter ends the decoding, and if it is not the padding, `d` has been
overwritten. -/
theorem decodeLoop_rest {rest : Str} (hrest : ∀ b, rest.head? = some b → b ∉ alphabet.letters)
    (s : DecodeState) :
    decodeLoop alphabet s rest = if Ends rest then s else { s with d := 0xff } := by
  rcases rest with - | ⟨b, rest⟩
  · exact (if_pos (Or.inl rfl)).symm
  · rw [decodeLoop]
    by_cases hpad : b = '='.toUInt8
    · rw [if_pos hpad, if_pos (show Ends (b :: rest) from Or.inr (congrArg some hpad))]
    · have hinvert : alphabet.invert b = 0xff := if_neg (hrest b rfl)
      have hends : ¬ Ends (b :: rest) := by
        rintro (h | h)
        · cases h
        · exact hpad (Option.some.inj h)
      rw [if_neg hpad, hinvert, if_pos (by decide), if_neg hends]

/-! ## Bytes made of two letters -/

theorem paddedByte_ofNat (n v : ℕ) :
    paddedByte (Bits.ofNat n v) = UInt8.ofNat (v % 2 ^ n * 2 ^ (8 - n)) := by
  rw [paddedByte, toNat_append, toNat_ofNat, toNat_replicate_false, List.length_replicate,
    length_ofNat, Nat.add_zero]

/-- The low bits of a number, moved to the front of a byte. -/
theorem shiftLeft_eq_paddedByte {n k : ℕ} (hn : 0 < n) (hk : n + k = 8) (v : ℕ) :
    UInt8.ofNat v <<< UInt8.ofNat k = paddedByte (Bits.ofNat n v) := by
  have hshift : k % 2 ^ 8 % 8 = k := by omega
  have hsize : 2 ^ 8 = 2 ^ n * 2 ^ k := by rw [← pow_add, hk]
  rw [paddedByte_ofNat]
  apply UInt8.toNat_inj.mp
  simp only [UInt8.toNat_shiftLeft, UInt8.toNat_ofNat', Nat.shiftLeft_eq, hshift]
  rw [show 8 - n = k by omega, Nat.mod_mul_mod, ← Nat.mul_mod_mul_right, ← hsize, Nat.mod_mod]

theorem shiftLeft_two (v : ℕ) : UInt8.ofNat v <<< 2 = paddedByte (Bits.ofNat 6 v) :=
  shiftLeft_eq_paddedByte (by decide) rfl v

theorem shiftLeft_four (v : ℕ) : UInt8.ofNat v <<< 4 = paddedByte (Bits.ofNat 4 v) :=
  shiftLeft_eq_paddedByte (by decide) rfl v

theorem shiftLeft_six (v : ℕ) : UInt8.ofNat v <<< 6 = paddedByte (Bits.ofNat 2 v) :=
  shiftLeft_eq_paddedByte (by decide) rfl v

/-- The low bits of a letter, followed by the high bits of the next one. -/
theorem byte_eq {n k m : ℕ} (hn : 0 < n) (hk : n + k = 8) (hm : k + m = 6) (v : ℕ) {w : ℕ}
    (hw : w < 64) : UInt8.ofNat v <<< UInt8.ofNat k + UInt8.ofNat w >>> UInt8.ofNat m =
      UInt8.ofNat (toNat (Bits.ofNat n v ++ Bits.ofNat k (w / 2 ^ m))) := by
  have hdiv : w / 2 ^ m < 2 ^ k := by
    rw [Nat.div_lt_iff_lt_mul (Nat.two_pow_pos m), ← pow_add, hm]
    exact hw
  have hright : UInt8.ofNat w >>> UInt8.ofNat m = UInt8.ofNat (w / 2 ^ m) := by
    have hshift : m % 2 ^ 8 % 8 = m := by omega
    have hle := Nat.div_le_self w (2 ^ m)
    apply UInt8.toNat_inj.mp
    simp only [UInt8.toNat_shiftRight, UInt8.toNat_ofNat', Nat.shiftRight_eq_div_pow, hshift]
    rw [Nat.mod_eq_of_lt (by omega), Nat.mod_eq_of_lt (by omega)]
  rw [shiftLeft_eq_paddedByte hn hk, paddedByte_ofNat, hright, toNat_append, toNat_ofNat,
    toNat_ofNat, length_ofNat, Nat.mod_eq_of_lt hdiv, ← UInt8.ofNat_add, show 8 - n = k by omega]

/-- The first byte, from six bits and two bits. -/
theorem firstByte (v : ℕ) {w : ℕ} (hw : w < 64) : UInt8.ofNat v <<< 2 + UInt8.ofNat w >>> 4 =
    UInt8.ofNat (toNat (Bits.ofNat 6 v ++ Bits.ofNat 2 (w / 2 ^ 4))) :=
  byte_eq (by decide) rfl rfl v hw

/-- The second byte, from four bits and four bits. -/
theorem secondByte (w : ℕ) {x : ℕ} (hx : x < 64) : UInt8.ofNat w <<< 4 + UInt8.ofNat x >>> 2 =
    UInt8.ofNat (toNat (Bits.ofNat 4 w ++ Bits.ofNat 4 (x / 2 ^ 2))) :=
  byte_eq (by decide) rfl rfl w hx

/-- The third byte, from two bits and six bits. -/
theorem thirdByte (x : ℕ) {y : ℕ} (hy : y < 64) : UInt8.ofNat x <<< 6 + UInt8.ofNat y =
    UInt8.ofNat (toNat (Bits.ofNat 2 x ++ Bits.ofNat 6 y)) := by
  simpa using byte_eq (n := 2) (k := 6) (m := 0) (by decide) rfl rfl x hy

/-- The byte is zero if its bits are. -/
theorem paddedByte_eq_zero_iff {bits : List Bool} (hlength : bits.length ≤ 8) :
    paddedByte bits = 0 ↔ ∀ b ∈ bits, b = false := by
  have hlt := toNat_lt (bits ++ List.replicate (8 - bits.length) false)
  have hpow : 2 ^ (bits ++ List.replicate (8 - bits.length) false).length = 256 := by
    rw [List.length_append, List.length_replicate, Nat.add_sub_cancel' hlength]
    rfl
  rw [← toNat_eq_zero_iff, paddedByte, ← UInt8.toNat_inj, UInt8.toNat_ofNat', UInt8.toNat_zero,
    Nat.mod_eq_of_lt (by omega), toNat_append, toNat_replicate_false, Nat.add_zero,
    Nat.mul_eq_zero, or_iff_left (Nat.two_pow_pos _).ne']

theorem overwritten_ne_zero : (0xff : UInt8) <<< 4 ≠ 0 ∧ (0xff : UInt8) <<< 6 ≠ 0 := by decide

/-! ## What is decoded -/

/-- The byte that the decoder returns although it is not complete. -/
def incomplete (letters rest : Str) : Str :=
  if Drops alphabet letters rest then [] else [paddedByte (leftover alphabet letters)]

theorem bitString_cons (b : UInt8) (letters : Str) : bitString alphabet (b :: letters) =
    Bits.ofNat 6 (alphabet.letters.idxOf b) ++ bitString alphabet letters :=
  List.flatMap_cons

theorem sextet_eq_two_four (w : ℕ) :
    Bits.ofNat 6 w = Bits.ofNat 2 (w / 2 ^ 4) ++ Bits.ofNat 4 w := ofNat_add 2 4 w

theorem sextet_eq_four_two (x : ℕ) :
    Bits.ofNat 6 x = Bits.ofNat 4 (x / 2 ^ 2) ++ Bits.ofNat 2 x := ofNat_add 4 2 x

/-- The bits of four letters are those of three bytes. -/
theorem sextets_eq (v w x y : ℕ) (bits : List Bool) :
    Bits.ofNat 6 v ++ (Bits.ofNat 6 w ++ (Bits.ofNat 6 x ++ (Bits.ofNat 6 y ++ bits))) =
      (Bits.ofNat 6 v ++ Bits.ofNat 2 (w / 2 ^ 4)) ++
        ((Bits.ofNat 4 w ++ Bits.ofNat 4 (x / 2 ^ 2)) ++
          ((Bits.ofNat 2 x ++ Bits.ofNat 6 y) ++ bits)) := by
  rw [sextet_eq_two_four w, sextet_eq_four_two x]
  simp only [List.append_assoc]

section

variable (a b c e : UInt8) (letters rest : Str)

theorem bytesCount_cons : 3 * (a :: b :: c :: e :: letters).length / 4 =
    3 * letters.length / 4 + 1 + 1 + 1 := by
  rw [List.length_cons, List.length_cons, List.length_cons, List.length_cons]
  omega

variable {b c e}

theorem wholeBytes_cons (hb : b ∈ alphabet.letters) (hc : c ∈ alphabet.letters)
    (he : e ∈ alphabet.letters) :
    let v := UInt8.ofNat (alphabet.letters.idxOf a)
    let w := UInt8.ofNat (alphabet.letters.idxOf b)
    let x := UInt8.ofNat (alphabet.letters.idxOf c)
    let y := UInt8.ofNat (alphabet.letters.idxOf e)
    wholeBytes alphabet (a :: b :: c :: e :: letters) = (v <<< 2 + w >>> 4) ::
      (w <<< 4 + x >>> 2) :: (x <<< 6 + y) :: wholeBytes alphabet letters := by
  dsimp only
  rw [firstByte _ (idxOf_lt alphabet hb), secondByte _ (idxOf_lt alphabet hc),
    thirdByte _ (idxOf_lt alphabet he), wholeBytes, bytesCount_cons, bitString_cons, bitString_cons,
    bitString_cons, bitString_cons, sextets_eq, bytes_append (by simp), bytes_append (by simp),
    bytes_append (by simp), wholeBytes]

/-- Two letters are a byte and four bits. -/
theorem wholeBytes_two (hb : b ∈ alphabet.letters) :
    let v := alphabet.letters.idxOf a
    let w := alphabet.letters.idxOf b
    wholeBytes alphabet [a, b] = [UInt8.ofNat v <<< 2 + UInt8.ofNat w >>> 4] ∧
      leftover alphabet [a, b] = Bits.ofNat 4 w := by
  intro v w
  have hbits : bitString alphabet [a, b] =
      (Bits.ofNat 6 v ++ Bits.ofNat 2 (w / 2 ^ 4)) ++ Bits.ofNat 4 w := by
    rw [bitString_cons, bitString_cons, sextet_eq_two_four (alphabet.letters.idxOf b), bitString,
      List.flatMap_nil, List.append_nil, List.append_assoc]
  have hcount : 3 * [a, b].length / 4 = 0 + 1 := by simp
  rw [firstByte _ (idxOf_lt alphabet hb), wholeBytes, leftover, hbits, hcount]
  exact ⟨bytes_append (by simp) 0 _, List.drop_left' (by simp)⟩

/-- Three letters are two bytes and two bits. -/
theorem wholeBytes_three (hb : b ∈ alphabet.letters) (hc : c ∈ alphabet.letters) :
    let v := alphabet.letters.idxOf a
    let w := alphabet.letters.idxOf b
    let x := alphabet.letters.idxOf c
    wholeBytes alphabet [a, b, c] =
        [UInt8.ofNat v <<< 2 + UInt8.ofNat w >>> 4, UInt8.ofNat w <<< 4 + UInt8.ofNat x >>> 2] ∧
      leftover alphabet [a, b, c] = Bits.ofNat 2 x := by
  intro v w x
  have hbits : bitString alphabet [a, b, c] =
      (Bits.ofNat 6 v ++ Bits.ofNat 2 (w / 2 ^ 4)) ++
        ((Bits.ofNat 4 w ++ Bits.ofNat 4 (x / 2 ^ 2)) ++ Bits.ofNat 2 x) := by
    rw [bitString_cons, bitString_cons, bitString_cons,
      sextet_eq_two_four (alphabet.letters.idxOf b), sextet_eq_four_two (alphabet.letters.idxOf c),
      bitString, List.flatMap_nil, List.append_nil]
    simp only [List.append_assoc]
    rfl
  have hcount : 3 * [a, b, c].length / 4 = 0 + 1 + 1 := by simp
  rw [firstByte _ (idxOf_lt alphabet hb), secondByte _ (idxOf_lt alphabet hc), wholeBytes, leftover,
    hbits, hcount]
  refine ⟨?_, ?_⟩
  · rw [bytes_append (by simp), bytes_append (by simp), bytes]
  · rw [← List.append_assoc]
    exact List.drop_left' (by simp)

variable (b c e)

theorem leftover_cons :
    leftover alphabet (a :: b :: c :: e :: letters) = leftover alphabet letters := by
  have hcount : 8 * (3 * letters.length / 4 + 1 + 1 + 1) =
      (bitString alphabet [a, b, c, e]).length + 8 * (3 * letters.length / 4) := by
    rw [length_bitString]
    simp only [List.length_cons, List.length_nil]
    omega
  have hbits : bitString alphabet (a :: b :: c :: e :: letters) =
      bitString alphabet [a, b, c, e] ++ bitString alphabet letters := by
    rw [bitString, bitString, bitString, ← List.flatMap_append]
    rfl
  rw [leftover, hbits, bytesCount_cons, hcount, List.drop_length_add_append, leftover]

theorem incomplete_cons :
    incomplete alphabet (a :: b :: c :: e :: letters) rest = incomplete alphabet letters rest := by
  have hmod : (a :: b :: c :: e :: letters).length % 4 = letters.length % 4 := by
    rw [List.length_cons, List.length_cons, List.length_cons, List.length_cons]
    omega
  have hdrops :
      Drops alphabet (a :: b :: c :: e :: letters) rest ↔ Drops alphabet letters rest := by
    rw [Drops, Drops, leftover_cons, hmod]
  rw [incomplete, incomplete, leftover_cons, if_congr hdrops rfl rfl]

end

section

variable (decoded : Str) (b d : UInt8)

/-- The last byte is dropped if there is nothing in it. -/
theorem result_cons (i : ℕ) : DecodeState.result ⟨b :: decoded, i, d⟩ = decoded.reverse ++
    if i = 2 ∧ d <<< 4 = 0 ∨ i = 3 ∧ d <<< 6 = 0 then [] else [b] := by
  rw [DecodeState.result]
  split_ifs
  · exact (List.append_nil _).symm
  · exact List.reverse_cons

theorem result_zero : DecodeState.result ⟨decoded, 0, d⟩ = decoded.reverse :=
  if_neg (by rintro (⟨h, -⟩ | ⟨h, -⟩) <;> cases h)

theorem result_one : DecodeState.result ⟨b :: decoded, 1, d⟩ = decoded.reverse ++ [b] := by
  rw [result_cons]
  simp

theorem result_two : DecodeState.result ⟨b :: decoded, 2, d⟩ =
    decoded.reverse ++ if d <<< 4 = 0 then [] else [b] := by
  rw [result_cons]
  simp

theorem result_three : DecodeState.result ⟨b :: decoded, 3, d⟩ =
    decoded.reverse ++ if d <<< 6 = 0 then [] else [b] := by
  rw [result_cons]
  simp

end

/-- What the decoder makes of letters and of what follows them, four letters at a time. -/
theorem result_decodeLoop {rest : Str} (hrest : ∀ b, rest.head? = some b → b ∉ alphabet.letters) :
    ∀ (letters decoded : Str) (d : UInt8), (∀ b ∈ letters, b ∈ alphabet.letters) →
      (decodeLoop alphabet ⟨decoded, 0, d⟩ (letters ++ rest)).result =
        decoded.reverse ++ (wholeBytes alphabet letters ++ incomplete alphabet letters rest)
  | [], decoded, d, _ => by
    have hwhole : wholeBytes alphabet [] = [] := rfl
    have hincomplete : incomplete alphabet [] rest = [] := if_pos (Or.inl rfl)
    rw [List.nil_append, decodeLoop_rest alphabet hrest, hwhole, hincomplete, List.append_nil,
      List.append_nil]
    split_ifs
    · exact result_zero decoded d
    · exact result_zero decoded 0xff
  | [a], decoded, d, h => by
    have hcount : 3 * [a].length / 4 = 0 := by simp
    have hwhole : wholeBytes alphabet [a] = [] := by rw [wholeBytes, hcount, bytes]
    have hleftover : leftover alphabet [a] = Bits.ofNat 6 (alphabet.letters.idxOf a) := by
      rw [leftover, hcount, Nat.mul_zero, List.drop_zero, bitString_cons, bitString,
        List.flatMap_nil, List.append_nil]
    have hincomplete : incomplete alphabet [a] rest = [paddedByte (leftover alphabet [a])] :=
      if_neg (by rintro (h | ⟨h, -⟩); exacts [absurd h (by simp), h rfl])
    rw [List.forall_mem_singleton] at h
    rw [List.singleton_append, decodeLoop_cons_of_mem alphabet h, decodeLoop_rest alphabet hrest,
      hwhole, hincomplete, hleftover, ← shiftLeft_two]
    split_ifs
    · exact result_one decoded _ _
    · exact result_one decoded _ 0xff
  | [a, b], decoded, d, h => by
    simp only [List.forall_mem_cons] at h
    obtain ⟨ha, hb, -⟩ := h
    obtain ⟨hwhole, hleftover⟩ := wholeBytes_two alphabet a hb
    have hdrops : Drops alphabet [a, b] rest ↔
        UInt8.ofNat (alphabet.letters.idxOf b) <<< 4 = 0 ∧ Ends rest := by
      rw [Drops, hleftover, ← paddedByte_eq_zero_iff (by simp), ← shiftLeft_four]
      simp
    simp only [List.cons_append, List.nil_append]
    rw [decodeLoop_cons_of_mem alphabet ha, decodeLoop_cons_of_mem alphabet hb,
      decodeLoop_rest alphabet hrest, incomplete, if_congr hdrops rfl rfl, hwhole, hleftover,
      ← shiftLeft_four]
    simp only [DecodeState.push, addToBack]
    by_cases hends : Ends rest
    · rw [if_pos hends, result_two]
      simp [hends]
    · rw [if_neg hends, result_two, if_neg overwritten_ne_zero.1]
      simp [hends]
  | [a, b, c], decoded, d, h => by
    simp only [List.forall_mem_cons] at h
    obtain ⟨ha, hb, hc, -⟩ := h
    obtain ⟨hwhole, hleftover⟩ := wholeBytes_three alphabet a hb hc
    have hdrops : Drops alphabet [a, b, c] rest ↔
        UInt8.ofNat (alphabet.letters.idxOf c) <<< 6 = 0 ∧ Ends rest := by
      rw [Drops, hleftover, ← paddedByte_eq_zero_iff (by simp), ← shiftLeft_six]
      simp
    simp only [List.cons_append, List.nil_append]
    rw [decodeLoop_cons_of_mem alphabet ha, decodeLoop_cons_of_mem alphabet hb,
      decodeLoop_cons_of_mem alphabet hc, decodeLoop_rest alphabet hrest, incomplete,
      if_congr hdrops rfl rfl, hwhole, hleftover, ← shiftLeft_six]
    simp only [DecodeState.push, addToBack]
    by_cases hends : Ends rest
    · rw [if_pos hends, result_three]
      simp [hends]
    · rw [if_neg hends, result_three, if_neg overwritten_ne_zero.2]
      simp [hends]
  | a :: b :: c :: e :: letters, decoded, d, h => by
    simp only [List.forall_mem_cons] at h
    obtain ⟨ha, hb, hc, he, hletters⟩ := h
    simp only [List.cons_append]
    rw [decodeLoop_cons_of_mem alphabet ha, decodeLoop_cons_of_mem alphabet hb,
      decodeLoop_cons_of_mem alphabet hc, decodeLoop_cons_of_mem alphabet he]
    simp only [DecodeState.push, addToBack]
    rw [result_decodeLoop hrest letters _ _ hletters, incomplete_cons,
      wholeBytes_cons alphabet a letters hb hc he]
    simp

theorem not_mem_of_behindLetters (s : Str) (b : UInt8)
    (h : (behindLetters alphabet s).head? = some b) : b ∉ alphabet.letters := by
  have hhead := List.head?_dropWhile_not (alphabet.letters.contains ·) s
  rw [behindLetters] at h
  rw [h] at hhead
  simpa using hhead

/-- **What is decoded**, for every text. -/
theorem decodeBase64_eq (s : Str) :
    decodeBase64 alphabet s = reference alphabet s ++
      incomplete alphabet (leadingLetters alphabet s) (behindLetters alphabet s) := by
  have hsplit : leadingLetters alphabet s ++ behindLetters alphabet s = s :=
    List.takeWhile_append_dropWhile
  have hletters : ∀ b ∈ leadingLetters alphabet s, b ∈ alphabet.letters := fun b hb ↦
    List.contains_iff_mem.mp (List.mem_takeWhile_imp hb)
  have hresult := result_decodeLoop alphabet (not_mem_of_behindLetters alphabet s)
    (leadingLetters alphabet s) [] 0 hletters
  rwa [hsplit] at hresult

/-! ## A function of the letters -/

/-- The bytes of a list of letters, and one more for leftover bits that are not all zero. -/
def decodedLetters (letters : Str) : Str :=
  wholeBytes alphabet letters ++
    if ∀ b ∈ leftover alphabet letters, b = false then []
    else [paddedByte (leftover alphabet letters)]

/-- There are leftover bits, all of them zero, and the decoder does not notice: for a single letter
it does not look, and for a text that goes on with another character it looks at the value of that
one. -/
def Overlooked (s : Str) : Prop :=
  (leadingLetters alphabet s).length % 4 ≠ 0 ∧
    (∀ b ∈ leftover alphabet (leadingLetters alphabet s), b = false) ∧
    ((leadingLetters alphabet s).length % 4 = 1 ∨ ¬ Ends (behindLetters alphabet s))

instance decidableOverlooked (s : Str) : Decidable (Overlooked alphabet s) :=
  inferInstanceAs (Decidable (_ ∧ _))

/-- A number of letters that is divisible by four leaves no bits. -/
theorem leftover_eq_nil {letters : Str} (h : letters.length % 4 = 0) :
    leftover alphabet letters = [] := by
  rw [leftover, List.drop_eq_nil_iff, length_bitString]
  omega

theorem decodeBase64_eq_decodedLetters {s : Str} (h : ¬ Overlooked alphabet s) :
    decodeBase64 alphabet s = decodedLetters alphabet (leadingLetters alphabet s) := by
  rw [decodeBase64_eq, reference, decodedLetters, incomplete]
  congr 1
  by_cases hzero : ∀ b ∈ leftover alphabet (leadingLetters alphabet s), b = false
  · have hdrops : Drops alphabet (leadingLetters alphabet s) (behindLetters alphabet s) := by
      by_contra hdrops
      rw [Drops, not_or] at hdrops
      refine h ⟨hdrops.1, hzero, ?_⟩
      by_contra hends
      rw [not_or, not_not] at hends
      exact hdrops.2 ⟨hends.1, hzero, hends.2⟩
    rw [if_pos hdrops, if_pos hzero]
  · have hdrops : ¬ Drops alphabet (leadingLetters alphabet s) (behindLetters alphabet s) := by
      rintro (hmod | ⟨-, hfalse, -⟩)
      · rw [leftover_eq_nil alphabet hmod] at hzero
        exact hzero fun b hb ↦ absurd hb List.not_mem_nil
      · exact hzero hfalse
    rw [if_neg hdrops, if_neg hzero]

/-- **The decoders return the whole bytes of the letters that a text starts with**, and one more if
the bits that are left over are not all zero. -/
theorem base64Decoders_eq (s : Str) :
    (¬ Overlooked base64Alphabet s →
      base642bin s = decodedLetters base64Alphabet (leadingLetters base64Alphabet s) ∧
        base642binUnpadded s = decodedLetters base64Alphabet (leadingLetters base64Alphabet s)) ∧
    (¬ Overlooked base64UrlsafeAlphabet s →
      base642binUrlsafeUnpadded s =
        decodedLetters base64UrlsafeAlphabet (leadingLetters base64UrlsafeAlphabet s)) :=
  ⟨fun h ↦ ⟨decodeBase64_eq_decodedLetters base64Alphabet h,
      decodeBase64_eq_decodedLetters base64Alphabet h⟩,
    decodeBase64_eq_decodedLetters base64UrlsafeAlphabet⟩

/-- Two bits are left over, and a character follows that is not a letter. -/
theorem base64Decoders_leftover : base642bin "QUJ!" = lit "AB@" ∧
    base642binUnpadded "QUJ!" = lit "AB@" ∧ base642binUrlsafeUnpadded "QUJ!" = lit "AB@" :=
  have h := base64Decoders_eq "QUJ!"
  have hstd := h.1 (by decide)
  ⟨hstd.1.trans (by decide), hstd.2.trans (by decide), (h.2 (by decide)).trans (by decide)⟩

/-- The twelve bits of two letters are one byte, but two bytes are returned. -/
theorem base642bin_ne_reference : base642bin "QR" = [0x41, 0x10] ∧
    reference base64Alphabet "QR" = [0x41] := by
  decide

end Mtx.Crypto
