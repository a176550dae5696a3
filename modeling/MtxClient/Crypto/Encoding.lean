import MtxClient.Lib.Bytes
import Mathlib.Data.Bool.AllAny
import Mathlib.Data.List.Nodup

/-!
# Base64

The base64 encoder and decoder of `encoding.cpp`.  The decoder is lenient: it stops at the first
byte that is not in its alphabet and delivers what it has until there.  What everything else relies
on is `decodeBase64_encodeBase64`, which says that it gives back what was encoded.

An `Alphabet` carries what the encoder and the decoder need to agree on: there are 64 letters, all
different, and the padding `=` is none of them.
-/

set_option autoImplicit false

namespace Mtx.Crypto

open Str

/-! ## Alphabets -/

/-- The letters of a base64 variant. -/
structure Alphabet where
  /-- The letters, in the order of their values. -/
  letters : Str
  length_eq : letters.length = 64
  nodup : letters.Nodup
  not_mem_pad : '='.toUInt8 ∉ letters

/-- `base64_alphabet`. -/
def base64Alphabet : Alphabet where
  letters := "ABCDEFGHIJKLMNOPQRSTUVWXYZabcdefghijklmnopqrstuvwxyz0123456789+/"
  length_eq := by decide
  nodup := by decide
  not_mem_pad := by decide

/-- `base64_urlsafe_alphabet`. -/
def base64UrlsafeAlphabet : Alphabet where
  letters := "ABCDEFGHIJKLMNOPQRSTUVWXYZabcdefghijklmnopqrstuvwxyz0123456789-_"
  length_eq := by decide
  nodup := by decide
  not_mem_pad := by decide

theorem ascii_base64Letters : ∀ b ∈ base64Alphabet.letters, b < 0x80 :=
  List.all_iff_forall_prop.mp (by decide +kernel)

theorem ascii_base64UrlsafeLetters : ∀ b ∈ base64UrlsafeAlphabet.letters, b < 0x80 :=
  List.all_iff_forall_prop.mp (by decide +kernel)

/-- `alphabet[v & 0b11'1111]`. -/
def Alphabet.letter (alphabet : Alphabet) (v : ℕ) : UInt8 :=
  alphabet.letters.get ⟨v % 64, by rw [alphabet.length_eq]; omega⟩

/-- `invert_alphabet`. -/
def Alphabet.invert (alphabet : Alphabet) (b : UInt8) : UInt8 :=
  if b ∈ alphabet.letters then UInt8.ofNat (alphabet.letters.idxOf b) else 0xff

/-! ## The encoder -/

/-- The four letters for three bytes. -/
def encodeGroup (alphabet : Alphabet) (a b c : UInt8) : Str :=
  let bytes := a.toNat * 2 ^ 16 + b.toNat * 2 ^ 8 + c.toNat
  [alphabet.letter (bytes / 2 ^ 18), alphabet.letter (bytes / 2 ^ 12),
    alphabet.letter (bytes / 2 ^ 6), alphabet.letter bytes]

/-- The loop of `encode_base64`: missing bytes of the last group count as zero. -/
def encodeGroups (alphabet : Alphabet) : Str → Str
  | [] => []
  | [a] => encodeGroup alphabet a 0 0
  | [a, b] => encodeGroup alphabet a b 0
  | a :: b :: c :: rest => encodeGroup alphabet a b c ++ encodeGroups alphabet rest

/-- The bytes missing to a multiple of three. -/
def missing (input : Str) : ℕ := (3 - input.length % 3) % 3

/-- `encode_base64`. -/
def encodeBase64 (pad : Bool) (alphabet : Alphabet) (input : Str) : Str :=
  let encoded := encodeGroups alphabet input
  let encoded := encoded.take (encoded.length - missing input)
  if pad then encoded ++ List.replicate (missing input) '='.toUInt8 else encoded

/-! ## The decoder -/

/-- The variables of `decode_base64`. -/
structure DecodeState where
  /-- The decoded bytes, last one first. -/
  decoded : Str := []
  bit_index : ℕ := 0
  d : UInt8 := 0

/-- `decoded.back() += v`. -/
def addToBack (v : UInt8) : Str → Str
  | [] => []
  | b :: decoded => (b + v) :: decoded

/-- The `switch` of `decode_base64`. -/
def DecodeState.push (s : DecodeState) (d : UInt8) : DecodeState :=
  match s.bit_index with
  | 0 => { decoded := (d <<< 2) :: s.decoded, bit_index := 1, d }
  | 1 => { decoded := (d <<< 4) :: addToBack (d >>> 4) s.decoded, bit_index := 2, d }
  | 2 => { decoded := (d <<< 6) :: addToBack (d >>> 2) s.decoded, bit_index := 3, d }
  | _ => { decoded := addToBack d s.decoded, bit_index := 0, d }

/-- The loop of `decode_base64`. -/
def decodeLoop (alphabet : Alphabet) (s : DecodeState) : Str → DecodeState
  | [] => s
  | b :: rest =>
    if b = '='.toUInt8 then s
    else if alphabet.invert b > 64 then { s with d := alphabet.invert b }
    else decodeLoop alphabet (s.push (alphabet.invert b)) rest

/-- What `decode_base64` returns after the loop: a last byte of zero bits only is dropped. -/
def DecodeState.result (s : DecodeState) : Str :=
  if s.bit_index = 2 ∧ s.d <<< 4 = 0 ∨ s.bit_index = 3 ∧ s.d <<< 6 = 0 then
    s.decoded.tail.reverse
  else s.decoded.reverse

/-- `decode_base64`. -/
def decodeBase64 (alphabet : Alphabet) (input : Str) : Str :=
  (decodeLoop alphabet {} input).result

/-! ## The variants -/

/-- `base642bin`. -/
def base642bin (b64 : Str) : Str := decodeBase64 base64Alphabet b64

/-- `bin2base64`. -/
def bin2base64 (bin : Str) : Str := encodeBase64 true base64Alphabet bin

/-- `base642bin_unpadded`. -/
def base642binUnpadded (b64 : Str) : Str := decodeBase64 base64Alphabet b64

/-- `bin2base64_unpadded`. -/
def bin2base64Unpadded (bin : Str) : Str := encodeBase64 false base64Alphabet bin

/-- `base642bin_urlsafe_unpadded`. -/
def base642binUrlsafeUnpadded (b64 : Str) : Str := decodeBase64 base64UrlsafeAlphabet b64

/-- `bin2base64_urlsafe_unpadded`. -/
def bin2base64UrlsafeUnpadded (bin : Str) : Str := encodeBase64 false base64UrlsafeAlphabet bin

/-! ## Letters and values -/

variable (alphabet : Alphabet)

theorem letter_mem (v : ℕ) : alphabet.letter v ∈ alphabet.letters := List.getElem_mem _

theorem letter_ne_pad (v : ℕ) : alphabet.letter v ≠ '='.toUInt8 :=
  fun h ↦ alphabet.not_mem_pad (h ▸ letter_mem alphabet v)

theorem invert_letter (v : ℕ) : alphabet.invert (alphabet.letter v) = UInt8.ofNat (v % 64) := by
  rw [Alphabet.invert, if_pos (letter_mem alphabet v), Alphabet.letter, List.get_eq_getElem,
    alphabet.nodup.idxOf_getElem]

/-- A letter is decoded to its value. -/
theorem decodeLoop_letter (s : DecodeState) (v : ℕ) (rest : Str) :
    decodeLoop alphabet s (alphabet.letter v :: rest) =
      decodeLoop alphabet (s.push (UInt8.ofNat (v % 64))) rest := by
  have hle : ¬ UInt8.ofNat (v % 64) > 64 := by
    rw [gt_iff_lt, UInt8.lt_iff_toNat_lt, UInt8.toNat_ofNat']
    have : (64 : UInt8).toNat = 64 := rfl
    omega
  rw [decodeLoop, if_neg (letter_ne_pad alphabet v), invert_letter, if_neg hle]

/-! ## Round trip -/

section

variable (a b c : UInt8)

/-- The three bytes of a group as the decoder puts them together again. -/
theorem group_bytes :
    let bytes := a.toNat * 2 ^ 16 + b.toNat * 2 ^ 8 + c.toNat
    let d₀ := UInt8.ofNat (bytes / 2 ^ 18 % 64)
    let d₁ := UInt8.ofNat (bytes / 2 ^ 12 % 64)
    let d₂ := UInt8.ofNat (bytes / 2 ^ 6 % 64)
    let d₃ := UInt8.ofNat (bytes % 64)
    d₀ <<< 2 + d₁ >>> 4 = a ∧ d₁ <<< 4 + d₂ >>> 2 = b ∧ d₂ <<< 6 + d₃ = c := by
  have ha := a.toNat_lt
  have hb := b.toNat_lt
  have hc := c.toNat_lt
  refine ⟨?_, ?_, ?_⟩ <;>
  · apply UInt8.toNat_inj.mp
    simp only [UInt8.toNat_add, UInt8.toNat_shiftLeft, UInt8.toNat_shiftRight, UInt8.toNat_ofNat',
      Nat.shiftRight_eq_div_pow, Nat.shiftLeft_eq, UInt8.reduceToNat, Nat.reduceMod, Nat.reducePow]
    omega

/-- Of the last byte that is started for a single byte nothing is left. -/
theorem single_rest : UInt8.ofNat ((a.toNat * 2 ^ 16 + (0 : UInt8).toNat * 2 ^ 8 +
    (0 : UInt8).toNat) / 2 ^ 12 % 64) <<< 4 = 0 := by
  apply UInt8.toNat_inj.mp
  simp only [UInt8.toNat_shiftLeft, UInt8.toNat_ofNat', Nat.shiftLeft_eq, UInt8.reduceToNat,
    Nat.reduceMod, Nat.reducePow]
  omega

/-- Nor of the one that is started for two bytes. -/
theorem pair_rest : UInt8.ofNat ((a.toNat * 2 ^ 16 + b.toNat * 2 ^ 8 + (0 : UInt8).toNat) /
    2 ^ 6 % 64) <<< 6 = 0 := by
  apply UInt8.toNat_inj.mp
  simp only [UInt8.toNat_shiftLeft, UInt8.toNat_ofNat', Nat.shiftLeft_eq, UInt8.reduceToNat,
    Nat.reduceMod, Nat.reducePow]
  omega

theorem decodeLoop_encodeGroup (decoded : Str) (d : UInt8) (rest : Str) :
    ∃ d', decodeLoop alphabet ⟨decoded, 0, d⟩ (encodeGroup alphabet a b c ++ rest) =
      decodeLoop alphabet ⟨c :: b :: a :: decoded, 0, d'⟩ rest := by
  obtain ⟨ha, hb, hc⟩ := group_bytes a b c
  simp only [encodeGroup, List.cons_append, List.nil_append, decodeLoop_letter,
    DecodeState.push, addToBack, ha, hb, hc]
  exact ⟨_, rfl⟩

end

theorem missing_cons (a b c : UInt8) (rest : Str) :
    missing (a :: b :: c :: rest) = missing rest := by
  rw [missing, missing, List.length_cons, List.length_cons, List.length_cons]
  omega

theorem missing_le_length (input : Str) :
    missing input ≤ (encodeGroups alphabet input).length := by
  fun_induction encodeGroups alphabet input with
  | case1 => exact Nat.le_refl 0
  | case2 a => exact Nat.le_of_ble_eq_true rfl
  | case3 a b => exact Nat.le_of_ble_eq_true rfl
  | case4 a b c rest ih =>
    rw [missing_cons, List.length_append]
    omega

theorem encodeBase64_cons (pad : Bool) (a b c : UInt8) (rest : Str) :
    encodeBase64 pad alphabet (a :: b :: c :: rest) =
      encodeGroup alphabet a b c ++ encodeBase64 pad alphabet rest := by
  have hle := missing_le_length alphabet rest
  rw [encodeBase64, encodeBase64, encodeGroups, missing_cons, List.length_append,
    Nat.add_sub_assoc hle, List.take_length_add_append]
  cases pad
  · rfl
  · exact List.append_assoc _ _ _

/-- The padding ends the decoding. -/
theorem decodeLoop_pad (pad : Bool) (s : DecodeState) (n : ℕ) :
    decodeLoop alphabet s (if pad then List.replicate n '='.toUInt8 else []) = s := by
  cases pad with
  | false => rfl
  | true =>
    cases n with
    | zero => rfl
    | succ n => exact if_pos rfl

theorem result_decodeLoop_encodeBase64 (pad : Bool) (input decoded : Str) (d : UInt8) :
    (decodeLoop alphabet ⟨decoded, 0, d⟩ (encodeBase64 pad alphabet input)).result =
      decoded.reverse ++ input := by
  induction input using encodeGroups.induct generalizing decoded d with
  | case1 =>
    have henc : encodeBase64 pad alphabet [] = [] := by cases pad <;> rfl
    rw [henc, decodeLoop, DecodeState.result, if_neg (by simp), List.append_nil]
  | case2 a =>
    have henc : encodeBase64 pad alphabet [a] = (encodeGroup alphabet a 0 0).take 2 ++
        if pad then List.replicate 2 '='.toUInt8 else [] := by cases pad <;> rfl
    obtain ⟨ha, -, -⟩ := group_bytes a 0 0
    rw [henc]
    simp only [encodeGroup, List.take_succ_cons, List.take_zero, List.cons_append,
      List.nil_append, decodeLoop_letter, decodeLoop_pad, DecodeState.push, addToBack, ha]
    rw [DecodeState.result, if_pos (Or.inl ⟨rfl, single_rest a⟩)]
    simp
  | case3 a b =>
    have henc : encodeBase64 pad alphabet [a, b] = (encodeGroup alphabet a b 0).take 3 ++
        if pad then List.replicate 1 '='.toUInt8 else [] := by cases pad <;> rfl
    obtain ⟨ha, hb, -⟩ := group_bytes a b 0
    rw [henc]
    simp only [encodeGroup, List.take_succ_cons, List.take_zero, List.cons_append,
      List.nil_append, decodeLoop_letter, decodeLoop_pad, DecodeState.push, addToBack, ha, hb]
    rw [DecodeState.result, if_pos (Or.inr ⟨rfl, pair_rest a b⟩)]
    simp
  | case4 a b c rest ih =>
    obtain ⟨d', hd'⟩ := decodeLoop_encodeGroup alphabet a b c decoded d
      (encodeBase64 pad alphabet rest)
    rw [encodeBase64_cons, hd', ih]
    simp

/-- **Decoding gives back what was encoded.** -/
theorem decodeBase64_encodeBase64 (pad : Bool) (input : Str) :
    decodeBase64 alphabet (encodeBase64 pad alphabet input) = input :=
  result_decodeLoop_encodeBase64 alphabet pad input [] 0

theorem base642bin_bin2base64 (bin : Str) : base642bin (bin2base64 bin) = bin :=
  decodeBase64_encodeBase64 base64Alphabet true bin

/-! ## The encoded text -/

theorem length_encodeGroups (input : Str) :
    (encodeGroups alphabet input).length = 4 * ((input.length + 2) / 3) := by
  fun_induction encodeGroups alphabet input with
  | case1 => rfl
  | case2 a => simp [encodeGroup]
  | case3 a b => simp [encodeGroup]
  | case4 a b c rest ih =>
    have hgroup : (encodeGroup alphabet a b c).length = 4 := rfl
    rw [List.length_append, ih, hgroup, List.length_cons, List.length_cons, List.length_cons]
    omega

/-- The length of a text without padding. -/
theorem length_encodeBase64_unpadded (input : Str) :
    (encodeBase64 false alphabet input).length = (4 * input.length + 2) / 3 := by
  have hlength : (encodeBase64 false alphabet input).length =
      (encodeGroups alphabet input).length - missing input :=
    List.length_take_of_le (Nat.sub_le _ _)
  rw [hlength, length_encodeGroups, missing]
  omega

theorem mem_letters_of_mem_encodeGroup (a b c : UInt8) :
    ∀ x ∈ encodeGroup alphabet a b c, x ∈ alphabet.letters := by
  simp [encodeGroup, letter_mem]

theorem mem_letters_of_mem_encodeGroups (input : Str) :
    ∀ x ∈ encodeGroups alphabet input, x ∈ alphabet.letters := by
  fun_induction encodeGroups alphabet input with
  | case1 => exact fun x hx ↦ absurd hx List.not_mem_nil
  | case2 a => exact mem_letters_of_mem_encodeGroup alphabet a 0 0
  | case3 a b => exact mem_letters_of_mem_encodeGroup alphabet a b 0
  | case4 a b c rest ih =>
    intro x hx
    obtain hx | hx := List.mem_append.mp hx
    · exact mem_letters_of_mem_encodeGroup alphabet a b c x hx
    · exact ih x hx

/-- A text without padding consists of letters. -/
theorem mem_letters_of_mem_encodeBase64 {input : Str} {b : UInt8}
    (h : b ∈ encodeBase64 false alphabet input) : b ∈ alphabet.letters :=
  mem_letters_of_mem_encodeGroups alphabet input b (List.mem_of_mem_take h)

theorem pad_notMem_encodeBase64 (input : Str) : '='.toUInt8 ∉ encodeBase64 false alphabet input :=
  fun h ↦ alphabet.not_mem_pad (mem_letters_of_mem_encodeBase64 alphabet h)

/-- The padding comes behind the text without padding. -/
theorem encodeBase64_padded (input : Str) : encodeBase64 true alphabet input =
    encodeBase64 false alphabet input ++ List.replicate (missing input) '='.toUInt8 :=
  rfl

/-- The length of a text with padding. -/
theorem length_encodeBase64_padded (input : Str) :
    (encodeBase64 true alphabet input).length = 4 * ((input.length + 2) / 3) := by
  rw [encodeBase64_padded, List.length_append, List.length_replicate, length_encodeBase64_unpadded,
    missing]
  omega

/-! ## The variants beside each other -/

/-- The letter of the urlsafe alphabet in the place of a letter. -/
def urlsafeLetter (b : UInt8) : UInt8 :=
  if b = '+'.toUInt8 then '-'.toUInt8 else if b = '/'.toUInt8 then '_'.toUInt8 else b

theorem letter_urlsafe (v : ℕ) :
    base64UrlsafeAlphabet.letter v = urlsafeLetter (base64Alphabet.letter v) := by
  have hletters : base64UrlsafeAlphabet.letters = base64Alphabet.letters.map urlsafeLetter := by
    decide
  rw [Alphabet.letter, Alphabet.letter, List.get_eq_getElem, List.get_eq_getElem]
  simp only [hletters, List.getElem_map]

theorem encodeGroup_urlsafe (a b c : UInt8) : encodeGroup base64UrlsafeAlphabet a b c =
    (encodeGroup base64Alphabet a b c).map urlsafeLetter := by
  simp [encodeGroup, letter_urlsafe]

theorem encodeGroups_urlsafe (input : Str) : encodeGroups base64UrlsafeAlphabet input =
    (encodeGroups base64Alphabet input).map urlsafeLetter := by
  fun_induction encodeGroups base64Alphabet input with
  | case1 => rfl
  | case2 a => exact encodeGroup_urlsafe a 0 0
  | case3 a b => exact encodeGroup_urlsafe a b 0
  | case4 a b c rest ih => rw [encodeGroups, encodeGroup_urlsafe, ih, List.map_append]

/-- The urlsafe text differs in two letters. -/
theorem bin2base64UrlsafeUnpadded_eq (bin : Str) :
    bin2base64UrlsafeUnpadded bin = (bin2base64Unpadded bin).map urlsafeLetter := by
  rw [bin2base64UrlsafeUnpadded, bin2base64Unpadded, encodeBase64, encodeBase64]
  simp only [Bool.false_eq_true, if_false]
  rw [encodeGroups_urlsafe, List.length_map, List.map_take]

/-- **Encoding is invertible and canonical**, for the three variants. -/
theorem base64_invertible (bin : Str) :
    (base642bin (bin2base64 bin) = bin ∧ base642binUnpadded (bin2base64Unpadded bin) = bin ∧
      base642binUrlsafeUnpadded (bin2base64UrlsafeUnpadded bin) = bin) ∧
    (bin2base64 bin).length = 4 * ((bin.length + 2) / 3) ∧
    bin2base64 bin = bin2base64Unpadded bin ++
      List.replicate ((3 - bin.length % 3) % 3) '='.toUInt8 ∧
    '='.toUInt8 ∉ bin2base64Unpadded bin ∧
    bin2base64UrlsafeUnpadded bin = (bin2base64Unpadded bin).map urlsafeLetter ∧
    ∀ y, (y = bin2base64 bin → bin2base64 (base642bin y) = y) ∧
      (y = bin2base64Unpadded bin → bin2base64Unpadded (base642binUnpadded y) = y) ∧
      (y = bin2base64UrlsafeUnpadded bin →
        bin2base64UrlsafeUnpadded (base642binUrlsafeUnpadded y) = y) := by
  have hpadded : base642bin (bin2base64 bin) = bin := base642bin_bin2base64 bin
  have hunpadded : base642binUnpadded (bin2base64Unpadded bin) = bin :=
    decodeBase64_encodeBase64 base64Alphabet false bin
  have hurlsafe : base642binUrlsafeUnpadded (bin2base64UrlsafeUnpadded bin) = bin :=
    decodeBase64_encodeBase64 base64UrlsafeAlphabet false bin
  refine ⟨⟨hpadded, hunpadded, hurlsafe⟩, length_encodeBase64_padded base64Alphabet bin,
    encodeBase64_padded base64Alphabet bin, pad_notMem_encodeBase64 base64Alphabet bin,
    bin2base64UrlsafeUnpadded_eq bin, fun y ↦ ⟨?_, ?_, ?_⟩⟩
  · rintro rfl
    rw [hpadded]
  · rintro rfl
    rw [hunpadded]
  · rintro rfl
    rw [hurlsafe]

end Mtx.Crypto
