import Mathlib.Data.Bool.AllAny
import MtxClient.Lib.Bytes
import MtxClient.Lib.Radix

/-!
# Base58

The base58 encoder and decoder of `encoding.cpp`, which change the base of the number that the bytes
are and keep its leading zeros: both are `Radix.convert` (`bin2base58_eq_convert`,
`base582bin_eq_convert`), so that decoding gives back what was encoded.  Where that fails,
`base58_roundTrips_iff` says: zero bytes only become one digit too many.

The decoder skips spaces, but it looks for the ones at the beginning before it does so, and it takes
every character for a digit (`base582bin_accepts_iff`).  `base582bin_bin2base58` is what is left for
a recovery key: decoding gives back what was encoded, with spaces anywhere, as long as there is no
leading zero byte.
-/

set_option autoImplicit false

namespace Mtx.Crypto

open Str Radix

/-! ## The alphabet -/

/-- `base58_alphabet`. -/
def base58Alphabet : Str := "123456789ABCDEFGHJKLMNPQRSTUVWXYZabcdefghijkmnopqrstuvwxyz"

/-- `base58_alphabet[d]`. -/
def letter58 (d : ℕ) : UInt8 := base58Alphabet.getD d 0

/-- `base58_to_int`. -/
def base58ToInt (b : UInt8) : ℕ :=
  if base58Alphabet.contains b then base58Alphabet.idxOf b else 0xff

theorem length_base58Alphabet : base58Alphabet.length = 58 := by decide

theorem letter58_eq {d : ℕ} (hd : d < base58Alphabet.length) : letter58 d = base58Alphabet[d] :=
  (List.getElem_eq_getD 0).symm

theorem letter58_mem {d : ℕ} (hd : d < 58) : letter58 d ∈ base58Alphabet := by
  rw [← length_base58Alphabet] at hd
  rw [letter58_eq hd]
  exact List.getElem_mem hd

/-- The letters are in the order of ASCII. -/
theorem nodup_base58Alphabet : base58Alphabet.Nodup := by
  have hchain : base58Alphabet.IsChain (· < ·) := by decide
  exact (List.isChain_iff_pairwise.mp hchain).imp fun h ↦ UInt8.ne_of_lt h

theorem base58ToInt_letter58 {d : ℕ} (hd : d < 58) : base58ToInt (letter58 d) = d := by
  have hmem := letter58_mem hd
  rw [← length_base58Alphabet] at hd
  rw [base58ToInt, if_pos (List.contains_iff_mem.mpr hmem), letter58_eq hd,
    nodup_base58Alphabet.idxOf_getElem]

theorem eq_zero_of_letter58 {d : ℕ} (hd : d < 58) (h : letter58 d = '1'.toUInt8) : d = 0 := by
  have hone : base58ToInt '1'.toUInt8 = 0 := by decide
  rw [← base58ToInt_letter58 hd, h, hone]

theorem letter58_base58ToInt :
    ∀ b ∈ base58Alphabet, letter58 (base58ToInt b) = b ∧ base58ToInt b < 58 := by
  intro b hb
  obtain ⟨d, hd, rfl⟩ := List.getElem_of_mem hb
  rw [← letter58_eq hd]
  rw [length_base58Alphabet] at hd
  rw [base58ToInt_letter58 hd]
  exact ⟨rfl, hd⟩

/-! ## The encoder -/

/-- The loop of `encode_base58` over the input, with the digits of the number it is. -/
def encodeDigits (input : Str) : List ℕ :=
  input.foldl (fun digits b ↦ mulAdd 58 256 b.toNat digits) [0]

/-- `encode_base58`. -/
def bin2base58 (input : Str) : Str :=
  if input.isEmpty then [] else
  -- leading zero bytes
  List.replicate (input.takeWhile (· == 0)).length '1'.toUInt8 ++
    (encodeDigits input).reverse.map letter58

/-! ## The decoder -/

/-- One round of the loop of `decode_base58`; `none` stands for `return ""`. -/
def decodeLetter (result : List ℕ) (b : UInt8) : Option (List ℕ) :=
  if b = ' '.toUInt8 then some result
  else if b = 0xff then none
  else some (mulAdd 256 58 (base58ToInt b) result)

/-- `decode_base58`. -/
def base582bin (input : Str) : Str :=
  match input.foldlM decodeLetter [] with
  | none => []
  | some result =>
    ((result.map UInt8.ofNat) ++
      List.replicate (input.takeWhile (· == '1'.toUInt8)).length 0).reverse

/-! ## The number of digits -/

theorem encodeDigits_eq (input : Str) :
    encodeDigits input = if value 256 (input.map UInt8.toNat) = 0 then [0]
      else Nat.digits 58 (value 256 (input.map UInt8.toNat)) := by
  rw [← foldl_mulAdd_zero (by decide) (by decide), List.foldl_map]
  rfl

theorem toNat_lt_of_mem {input : Str} : ∀ d ∈ input.map UInt8.toNat, d < 256 := by
  intro d hd
  obtain ⟨b, -, rfl⟩ := List.mem_map.mp hd
  exact b.toNat_lt

/-- The digits fit into the vector `digits` of `encode_base58`. -/
theorem length_encodeDigits_le (input : Str) :
    (encodeDigits input).length ≤ input.length * 138 / 100 + 1 := by
  rw [encodeDigits_eq]
  split_ifs
  · exact Nat.le_add_left 1 _
  · refine length_digits_value_le (by decide) toNat_lt_of_mem (by decide) ?_
    rw [List.length_map]
    by_contra hlt
    -- 256¹⁰⁰ is less than 58¹³⁸
    have h1 := Nat.pow_lt_pow_left (not_le.mp hlt) (show 100 ≠ 0 by decide)
    have h2 : (256 ^ input.length) ^ 100 ≤ 58 ^ (138 * input.length) := by
      calc (256 ^ input.length) ^ 100
        _ = (256 ^ 100) ^ input.length := by rw [← pow_mul, ← pow_mul, Nat.mul_comm]
        _ ≤ (58 ^ 138) ^ input.length := Nat.pow_le_pow_left (by norm_num) _
        _ = 58 ^ (138 * input.length) := by rw [← pow_mul]
    have h3 : 58 ^ (138 * input.length) ≤ (58 ^ (input.length * 138 / 100 + 1)) ^ 100 := by
      rw [← pow_mul]
      exact Nat.pow_le_pow_right (by decide) (by omega)
    omega

/-! ## What is encoded -/

/-- The number of ones at the beginning of a text. -/
def leadingOnes (text : Str) : ℕ := (text.takeWhile (· == '1'.toUInt8)).length

/-- The number of zero bytes at the beginning. -/
def leadingZeros (bin : Str) : ℕ := (bin.takeWhile (· == 0)).length

theorem zeros_map_toNat (bin : Str) : zeros (bin.map UInt8.toNat) = leadingZeros bin := by
  have hzero : (fun b : UInt8 ↦ b.toNat == 0) = (· == 0) := by
    funext b
    rw [Bool.eq_iff_iff, beq_iff_eq, beq_iff_eq, ← UInt8.toNat_inj]
    rfl
  rw [zeros, List.takeWhile_map, List.length_map, leadingZeros]
  exact congrArg (fun p ↦ (bin.takeWhile p).length) hzero

theorem leadingOnes_map_letter58 {ds : List ℕ} (hds : ∀ d ∈ ds, d < 58) :
    leadingOnes (ds.map letter58) = zeros ds := by
  induction ds with
  | nil => rfl
  | cons d ds ih =>
    rw [List.forall_mem_cons] at hds
    have hone : (letter58 d == '1'.toUInt8) = (d == 0) := by
      rw [Bool.eq_iff_iff, beq_iff_eq, beq_iff_eq]
      refine ⟨eq_zero_of_letter58 hds.1, ?_⟩
      rintro rfl
      rfl
    have ih := ih hds.2
    rw [leadingOnes, zeros] at ih
    rw [leadingOnes, zeros, List.map_cons, List.takeWhile_cons, List.takeWhile_cons, hone]
    cases d == 0
    · rfl
    · exact congrArg (· + 1) ih

theorem value_map_toNat_eq_zero_iff (bin : Str) :
    value 256 (bin.map UInt8.toNat) = 0 ↔ ∀ b ∈ bin, b = 0 := by
  rw [value_eq_zero_iff (by decide), List.forall_mem_map]
  exact forall₂_congr fun b _ ↦ UInt8.toNat_inj (b := 0)

/-- **What is encoded**: the number in the base 58, with a one for each leading zero byte; and if
there are zero bytes only, one more for the digit zero. -/
theorem bin2base58_eq_convert {bin : Str} (hne : bin ≠ []) [Decidable (∀ b ∈ bin, b = 0)] :
    bin2base58 bin = (convert 256 58 (bin.map UInt8.toNat)).map letter58 ++
      if ∀ b ∈ bin, b = 0 then ['1'.toUInt8] else [] := by
  have hempty : ¬ bin.isEmpty = true := by simpa using hne
  have hones (n : ℕ) : List.replicate n '1'.toUInt8 = (List.replicate n 0).map letter58 := by
    rw [List.map_replicate]
    rfl
  rw [bin2base58, if_neg hempty, convert, zeros_map_toNat, leadingZeros, List.map_append, ← hones,
    List.append_assoc, encodeDigits_eq]
  congr 1
  by_cases hzero : value 256 (bin.map UInt8.toNat) = 0
  · rw [if_pos hzero, if_pos ((value_map_toNat_eq_zero_iff bin).mp hzero), hzero, Nat.digits_zero]
    rfl
  · rw [if_neg hzero, if_neg (mt (value_map_toNat_eq_zero_iff bin).mpr hzero), List.append_nil]

/-! ## What is decoded -/

/-- Spaces are skipped. -/
theorem foldlM_decodeLetter_filter (input : Str) (result : List ℕ) :
    input.foldlM decodeLetter result =
      (input.filter (· != ' '.toUInt8)).foldlM decodeLetter result := by
  induction input generalizing result with
  | nil => rfl
  | cons b input ih =>
    rw [List.filter_cons, List.foldlM_cons]
    by_cases hb : b = ' '.toUInt8
    · subst hb
      exact ih result
    · rw [if_pos (bne_iff_ne.mpr hb), List.foldlM_cons]
      exact congrArg _ (funext ih)

/-- The decoder reads digits in the base 58, whatever the characters are. -/
theorem foldlM_decodeLetter_digits {text : Str} (hspace : ' '.toUInt8 ∉ text) (hff : 0xff ∉ text)
    (result : List ℕ) : text.foldlM decodeLetter result =
      some ((text.map base58ToInt).foldl (fun acc d ↦ mulAdd 256 58 d acc) result) := by
  induction text generalizing result with
  | nil => rfl
  | cons b text ih =>
    rw [List.mem_cons, not_or] at hspace hff
    rw [List.foldlM_cons, decodeLetter, if_neg (Ne.symm hspace.1), if_neg (Ne.symm hff.1)]
    exact ih hspace.2 hff.2 _

/-- **What is decoded**, unless the byte `0xff` ends the decoding: the number whose digits the
characters other than spaces are, with a zero byte for each one at the beginning. -/
theorem base582bin_eq {input : Str} (hff : 0xff ∉ input) : base582bin input =
    (List.replicate (leadingOnes input) 0 ++ (Nat.digits 256
      (value 58 ((input.filter (· != ' '.toUInt8)).map base58ToInt))).reverse).map UInt8.ofNat := by
  have hspace : ' '.toUInt8 ∉ input.filter (· != ' '.toUInt8) := fun h ↦
    bne_iff_ne.mp (List.mem_filter.mp h).2 rfl
  have hff' : 0xff ∉ input.filter (· != ' '.toUInt8) := fun h ↦ hff (List.mem_filter.mp h).1
  rw [base582bin, foldlM_decodeLetter_filter, foldlM_decodeLetter_digits hspace hff',
    foldl_mulAdd (by decide) (by decide)]
  dsimp only
  rw [List.reverse_append, List.reverse_replicate, List.map_append, List.map_reverse,
    List.map_replicate]
  rfl

theorem ff_notMem_of_letters {text : Str} (hletters : ∀ b ∈ text, b ∈ base58Alphabet) :
    0xff ∉ text := fun h ↦ absurd (hletters 0xff h) (by decide)

theorem filter_of_letters {text : Str} (hletters : ∀ b ∈ text, b ∈ base58Alphabet) :
    text.filter (· != ' '.toUInt8) = text := by
  refine List.filter_eq_self.mpr fun b hb ↦ bne_iff_ne.mpr ?_
  rintro rfl
  exact absurd (hletters _ hb) (by decide)

/-- The letters are those of their digits. -/
theorem map_letter58_map_base58ToInt {text : Str} (hletters : ∀ b ∈ text, b ∈ base58Alphabet) :
    (text.map base58ToInt).map letter58 = text := by
  rw [List.map_map]
  exact (List.map_congr_left fun b hb ↦ (letter58_base58ToInt b (hletters b hb)).1).trans
    (List.map_id _)

theorem base58ToInt_lt {text : Str} (hletters : ∀ b ∈ text, b ∈ base58Alphabet) :
    ∀ d ∈ text.map base58ToInt, d < 58 := by
  intro d hd
  obtain ⟨b, hb, rfl⟩ := List.mem_map.mp hd
  exact (letter58_base58ToInt b (hletters b hb)).2

theorem leadingOnes_eq_zeros {text : Str} (hletters : ∀ b ∈ text, b ∈ base58Alphabet) :
    leadingOnes text = zeros (text.map base58ToInt) := by
  rw [← leadingOnes_map_letter58 (base58ToInt_lt hletters), map_letter58_map_base58ToInt hletters]

/-- Letters are decoded by a conversion. -/
theorem base582bin_eq_convert {text : Str} (hletters : ∀ b ∈ text, b ∈ base58Alphabet) :
    base582bin text = (convert 58 256 (text.map base58ToInt)).map UInt8.ofNat := by
  rw [base582bin_eq (ff_notMem_of_letters hletters), filter_of_letters hletters,
    leadingOnes_eq_zeros hletters, convert]

/-- The digits that stand for bytes. -/
theorem map_toNat_map_ofNat {ds : List ℕ} (hds : ∀ d ∈ ds, d < 256) :
    (ds.map UInt8.ofNat).map UInt8.toNat = ds := by
  calc (ds.map UInt8.ofNat).map UInt8.toNat
    _ = ds.map (UInt8.toNat ∘ UInt8.ofNat) := List.map_map
    _ = ds.map id := List.map_congr_left fun d hd ↦ by simp [Nat.mod_eq_of_lt (hds d hd)]
    _ = ds := List.map_id ds

/-! ## Round trip -/

theorem mem_base58Alphabet_of_mem_map {ds : List ℕ} (hds : ∀ d ∈ ds, d < 58) :
    ∀ b ∈ ds.map letter58, b ∈ base58Alphabet := by
  intro b hb
  obtain ⟨d, hd, rfl⟩ := List.mem_map.mp hb
  exact letter58_mem (hds d hd)

theorem map_base58ToInt_map_letter58 {ds : List ℕ} (hds : ∀ d ∈ ds, d < 58) :
    (ds.map letter58).map base58ToInt = ds := by
  rw [List.map_map]
  exact (List.map_congr_left fun d hd ↦ base58ToInt_letter58 (hds d hd)).trans (List.map_id ds)

/-- The bytes come back from their digits. -/
theorem base582bin_map_letter58 (bin : Str) :
    base582bin ((convert 256 58 (bin.map UInt8.toNat)).map letter58) = bin := by
  have hlt : ∀ d ∈ convert 256 58 (bin.map UInt8.toNat), d < 58 := lt_of_mem_convert (by decide)
  rw [base582bin_eq_convert (mem_base58Alphabet_of_mem_map hlt), map_base58ToInt_map_letter58 hlt,
    convert_convert 58 (by decide) toNat_lt_of_mem, List.map_map]
  simp [Function.comp_def]

theorem bin2base58_of_ne {bin : Str} (hbin : ∃ b ∈ bin, b ≠ 0) :
    bin2base58 bin = (convert 256 58 (bin.map UInt8.toNat)).map letter58 := by
  obtain ⟨b, hb, hb0⟩ := hbin
  rw [bin2base58_eq_convert (List.ne_nil_of_mem hb), if_neg fun h ↦ hb0 (h b hb), List.append_nil]

/-- Zero bytes become ones, and there is one too many. -/
theorem bin2base58_replicate_zero (n : ℕ) : bin2base58 (List.replicate (n + 1) 0) =
    (convert 256 58 ((List.replicate (n + 2) (0 : UInt8)).map UInt8.toNat)).map letter58 := by
  have hzero : ∀ b ∈ List.replicate (n + 1) (0 : UInt8), b = 0 := fun b ↦ List.eq_of_mem_replicate
  have hone : letter58 0 = '1'.toUInt8 := rfl
  have htoNat : (0 : UInt8).toNat = 0 := rfl
  rw [bin2base58_eq_convert (by simp), if_pos hzero, List.map_replicate, List.map_replicate, htoNat,
    convert_replicate_zero, convert_replicate_zero, List.map_replicate,
    List.map_replicate, hone, List.replicate_succ' (n := n + 1)]

/-- What comes back of the bytes that are encoded. -/
theorem base582bin_bin2base58_eq {bin : Str} (hne : bin ≠ []) [Decidable (∀ b ∈ bin, b = 0)] :
    base582bin (bin2base58 bin) = bin ++ if ∀ b ∈ bin, b = 0 then [0] else [] := by
  by_cases hzero : ∀ b ∈ bin, b = 0
  · obtain ⟨n, hn⟩ := Nat.exists_eq_succ_of_ne_zero (mt List.length_eq_zero_iff.mp hne)
    have hbin : bin = List.replicate (n + 1) 0 := List.eq_replicate_iff.mpr ⟨hn, hzero⟩
    rw [if_pos hzero, hbin, bin2base58_replicate_zero, base582bin_map_letter58]
    exact List.replicate_succ'
  · rw [if_neg hzero, List.append_nil, bin2base58_of_ne (by simpa using hzero),
      base582bin_map_letter58]

/-- What comes back of the letters that are decoded. -/
theorem bin2base58_base582bin_eq {text : Str} (hletters : ∀ b ∈ text, b ∈ base58Alphabet)
    (hne : text ≠ []) [Decidable (∀ b ∈ text, b = '1'.toUInt8)] : bin2base58 (base582bin text) =
      text ++ if ∀ b ∈ text, b = '1'.toUInt8 then ['1'.toUInt8] else [] := by
  have hlt := base58ToInt_lt hletters
  have htoNat : (base582bin text).map UInt8.toNat = convert 58 256 (text.map base58ToInt) := by
    rw [base582bin_eq_convert hletters, map_toNat_map_ofNat (lt_of_mem_convert (by decide))]
  have hback : convert 256 58 ((base582bin text).map UInt8.toNat) = text.map base58ToInt := by
    rw [htoNat, convert_convert 256 (by decide) hlt]
  have hbin : base582bin text ≠ [] := by
    intro hnil
    rw [hnil] at hback
    exact hne (List.map_eq_nil_iff.mp hback.symm)
  have hzero : (∀ b ∈ base582bin text, b = 0) ↔ ∀ b ∈ text, b = '1'.toUInt8 := by
    rw [← value_map_toNat_eq_zero_iff, htoNat, value_convert, value_eq_zero_iff (by decide),
      List.forall_mem_map]
    refine forall₂_congr fun b hb ↦ ⟨fun h0 ↦ ?_, ?_⟩
    · rw [← (letter58_base58ToInt b (hletters b hb)).1, h0]
      rfl
    · rintro rfl
      decide
  rw [bin2base58_eq_convert hbin, hback, map_letter58_map_base58ToInt hletters,
    if_congr hzero rfl rfl]

/-- The ones that the encoded text starts with. -/
theorem leadingOnes_bin2base58 {bin : Str} (hne : bin ≠ []) [Decidable (∀ b ∈ bin, b = 0)] :
    leadingOnes (bin2base58 bin) = leadingZeros bin + if ∀ b ∈ bin, b = 0 then 1 else 0 := by
  by_cases hzero : ∀ b ∈ bin, b = 0
  · obtain ⟨n, hn⟩ := Nat.exists_eq_succ_of_ne_zero (mt List.length_eq_zero_iff.mp hne)
    have hbin : bin = List.replicate (n + 1) 0 := List.eq_replicate_iff.mpr ⟨hn, hzero⟩
    have hzeros (m : ℕ) : leadingZeros (List.replicate m 0) = m := by
      rw [leadingZeros, List.takeWhile_replicate, if_pos (by rfl), List.length_replicate]
    rw [if_pos hzero, hbin, bin2base58_replicate_zero,
      leadingOnes_map_letter58 (lt_of_mem_convert (by decide)), zeros_convert, zeros_map_toNat,
      hzeros, hzeros]
  · rw [if_neg hzero, bin2base58_of_ne (by simpa using hzero),
      leadingOnes_map_letter58 (lt_of_mem_convert (by decide)), zeros_convert, zeros_map_toNat]
    rfl

/-! ## Texts with spaces -/

/-- Ones behind a space do not count. -/
theorem leadingOnes_le_filter (input : Str) :
    leadingOnes input ≤ leadingOnes (input.filter (· != ' '.toUInt8)) := by
  induction input with
  | nil => exact Nat.le_refl _
  | cons b input ih =>
    rw [leadingOnes, List.takeWhile_cons]
    by_cases hb : b = '1'.toUInt8
    · subst hb
      exact Nat.succ_le_succ ih
    · rw [if_neg (by simpa using hb)]
      exact Nat.zero_le _

/-- Spaces change nothing if they are not before or between the ones at the beginning. -/
theorem base582bin_eq_filter_iff {input : Str} (hff : 0xff ∉ input) :
    base582bin input = base582bin (input.filter (· != ' '.toUInt8)) ↔
      leadingOnes input = leadingOnes (input.filter (· != ' '.toUInt8)) := by
  have hff' : 0xff ∉ input.filter (· != ' '.toUInt8) := fun h ↦ hff (List.mem_filter.mp h).1
  rw [base582bin_eq hff, base582bin_eq hff', List.filter_filter]
  simp only [Bool.and_self]
  refine ⟨fun h ↦ ?_, fun h ↦ by rw [h]⟩
  have hlength := congrArg List.length h
  simpa using hlength

/-! ## Bytes and texts without leading zeros -/

theorem base582bin_filter {input : Str}
    (hletters : ∀ b ∈ input.filter (· != ' '.toUInt8), b ∈ base58Alphabet)
    (hones : leadingOnes (input.filter (· != ' '.toUInt8)) = 0) :
    base582bin input = base582bin (input.filter (· != ' '.toUInt8)) := by
  have hff : 0xff ∉ input := fun h ↦
    ff_notMem_of_letters hletters (List.mem_filter.mpr ⟨h, by decide⟩)
  have hle := leadingOnes_le_filter input
  exact (base582bin_eq_filter_iff hff).mpr (by omega)

/-- What is encoded, if there is no leading zero byte: the digits of the number in the base 58, most
significant one first. -/
theorem bin2base58_eq {bin : Str} (hne : bin ≠ []) (hhead : bin.head? ≠ some 0) :
    bin2base58 bin =
      (Nat.digits 58 (value 256 (bin.map UInt8.toNat))).reverse.map letter58 := by
  obtain ⟨b, bin, rfl⟩ := List.exists_cons_of_ne_nil hne
  have hb : b ≠ 0 := fun hb ↦ hhead (congrArg some hb)
  have hzeros : zeros ((b :: bin).map UInt8.toNat) = 0 := by
    rw [zeros_map_toNat, leadingZeros, List.takeWhile_cons_of_neg (by simpa using hb),
      List.length_nil]
  rw [bin2base58_of_ne ⟨b, List.mem_cons_self, hb⟩, convert, hzeros, List.replicate_zero,
    List.nil_append]

/-- **Decoding gives back what was encoded**, with spaces inserted anywhere. -/
theorem base582bin_bin2base58 {bin input : Str} (hne : bin ≠ []) (hhead : bin.head? ≠ some 0)
    (h : input.filter (· != ' '.toUInt8) = bin2base58 bin) : base582bin input = bin := by
  obtain ⟨b, bin, rfl⟩ := List.exists_cons_of_ne_nil hne
  have hb : b ≠ 0 := fun hb ↦ hhead (congrArg some hb)
  have hbin : ∃ b' ∈ b :: bin, b' ≠ 0 := ⟨b, List.mem_cons_self, hb⟩
  have hnot : ¬ ∀ b' ∈ b :: bin, b' = 0 := fun h ↦ hb (h b List.mem_cons_self)
  have hletters : ∀ b' ∈ input.filter (· != ' '.toUInt8), b' ∈ base58Alphabet := by
    rw [h, bin2base58_of_ne hbin]
    exact mem_base58Alphabet_of_mem_map (lt_of_mem_convert (by decide))
  have hones : leadingOnes (input.filter (· != ' '.toUInt8)) = 0 := by
    rw [h, leadingOnes_bin2base58 hne, if_neg hnot, leadingZeros,
      List.takeWhile_cons_of_neg (by simpa using hb), List.length_nil]
  rw [base582bin_filter hletters hones, h, base582bin_bin2base58_eq hne, if_neg hnot,
    List.append_nil]

/-- **Encoding gives back the text that was decoded**, without its spaces, if that consists of
letters of which the first one is not `1`. -/
theorem bin2base58_base582bin {input : Str}
    (hletters : ∀ b ∈ input.filter (· != ' '.toUInt8), b ∈ base58Alphabet)
    (hone : (input.filter (· != ' '.toUInt8)).head? ≠ some '1'.toUInt8) :
    bin2base58 (base582bin input) = input.filter (· != ' '.toUInt8) := by
  rcases hinput : input.filter (· != ' '.toUInt8) with - | ⟨b, text⟩
  · have hones : leadingOnes (input.filter (· != ' '.toUInt8)) = 0 := by rw [hinput]; rfl
    rw [base582bin_filter hletters hones, hinput]
    rfl
  · rw [hinput] at hone
    have hb : b ≠ '1'.toUInt8 := fun hb ↦ hone (congrArg some hb)
    have hones : leadingOnes (input.filter (· != ' '.toUInt8)) = 0 := by
      rw [hinput, leadingOnes, List.takeWhile_cons_of_neg (by simpa using hb), List.length_nil]
    rw [base582bin_filter hletters hones]
    rw [hinput] at hletters ⊢
    rw [bin2base58_base582bin_eq hletters (List.cons_ne_nil _ _),
      if_neg fun h ↦ hb (h b List.mem_cons_self), List.append_nil]

/-- The encoded text is ASCII. -/
theorem ascii_bin2base58 (bin : Str) : ∀ b ∈ bin2base58 bin, b < 0x80 := by
  have hascii : ∀ b ∈ base58Alphabet, b < 0x80 :=
    List.all_iff_forall_prop.mp (by decide +kernel)
  intro b hb
  rw [bin2base58] at hb
  split_ifs at hb
  · cases hb
  · rcases List.mem_append.mp hb with hb | hb
    · rw [List.eq_of_mem_replicate hb]
      decide
    · obtain ⟨d, hd, rfl⟩ := List.mem_map.mp hb
      refine hascii _ (letter58_mem ?_)
      rw [List.mem_reverse, encodeDigits_eq] at hd
      split_ifs at hd
      · rw [List.mem_singleton.mp hd]
        decide
      · exact Nat.digits_lt_base (by decide) hd

/-! ## Leading zeros, and characters that are no letters -/

/-- One more for a text of nothing but `a` makes a difference for no other text. -/
theorem append_eq_self_iff {text : Str} {a c : UInt8} [Decidable (∀ b ∈ text, b = a)] :
    text ++ (if ∀ b ∈ text, b = a then [c] else []) = text ↔ ∃ b ∈ text, b ≠ a := by
  by_cases h : ∀ b ∈ text, b = a
  · rw [if_pos h]
    refine iff_of_false (by simp) ?_
    rintro ⟨b, hb, hne⟩
    exact hne (h b hb)
  · rw [if_neg h, List.append_nil]
    exact iff_of_true rfl (by simpa using h)

/-- **Base58 round-trips except for zero bytes**: nothing but zero bytes, or nothing but ones, comes
back longer. -/
theorem base58_roundTrips_iff (bin : Str) {text : Str}
    (hletters : ∀ b ∈ text, b ∈ base58Alphabet) :
    (base582bin (bin2base58 bin) = bin ↔ bin = [] ∨ ∃ b ∈ bin, b ≠ 0) ∧
    (bin2base58 (base582bin text) = text ↔ text = [] ∨ ∃ b ∈ text, b ≠ '1'.toUInt8) ∧
    (leadingOnes (bin2base58 bin) = leadingZeros bin ↔ bin = [] ∨ ∃ b ∈ bin, b ≠ 0) := by
  have hbytes : (∀ b ∈ bin, b = 0) ↔ ¬ ∃ b ∈ bin, b ≠ 0 := by simp
  refine ⟨?_, ?_, ?_⟩
  · rcases eq_or_ne bin [] with rfl | hne
    · exact iff_of_true rfl (Or.inl rfl)
    · rw [base582bin_bin2base58_eq hne, append_eq_self_iff, or_iff_right hne]
  · rcases eq_or_ne text [] with rfl | hne
    · exact iff_of_true rfl (Or.inl rfl)
    · rw [bin2base58_base582bin_eq hletters hne, append_eq_self_iff, or_iff_right hne]
  · rcases eq_or_ne bin [] with rfl | hne
    · exact iff_of_true rfl (Or.inl rfl)
    · rw [leadingOnes_bin2base58 hne, if_congr hbytes rfl rfl, or_iff_right hne]
      by_cases h : ∃ b ∈ bin, b ≠ 0
      · simp [h]
      · simp [h]

theorem base58_roundTrips_foo : base582bin (bin2base58 "foo") = lit "foo" ∧
    bin2base58 (base582bin "1bQbp") = lit "1bQbp" ∧
    leadingOnes (bin2base58 "foo") = leadingZeros "foo" :=
  have h := base58_roundTrips_iff "foo"
    (List.all_iff_forall_prop.mp
      (by decide +kernel : (lit "1bQbp").all (· ∈ base58Alphabet) = true))
  ⟨h.1.mpr (Or.inr ⟨'f'.toUInt8, by decide⟩), h.2.1.mpr (Or.inr ⟨'b'.toUInt8, by decide⟩),
    h.2.2.mpr (Or.inr ⟨'f'.toUInt8, by decide⟩)⟩

/-- One zero byte is encoded as two ones, which are two zero bytes. -/
theorem base58_zero_grows : base582bin (bin2base58 [0]) = [0, 0] ∧
    bin2base58 (base582bin "1") = lit "11" ∧ leadingOnes (bin2base58 [0]) = 2 := by
  have hone : lit "1" ≠ [] := by decide
  refine ⟨?_, ?_, ?_⟩
  · rw [base582bin_bin2base58_eq (List.cons_ne_nil _ _)]
    simp
  · rw [bin2base58_base582bin_eq (List.all_iff_forall_prop.mp (by decide +kernel)) hone]
    decide +kernel
  · rw [leadingOnes_bin2base58 (List.cons_ne_nil _ _)]
    simp [leadingZeros]

/-- The byte `0xff` ends the decoding. -/
theorem foldlM_decodeLetter_of_ff {input : Str} (hff : 0xff ∈ input) (result : List ℕ) :
    input.foldlM decodeLetter result = none := by
  induction input generalizing result with
  | nil => cases hff
  | cons b input ih =>
    rw [List.foldlM_cons]
    rcases List.mem_cons.mp hff with rfl | hff
    · rfl
    · rcases decodeLetter result b with - | result'
      · rfl
      · exact ih hff result'

theorem base582bin_of_ff {input : Str} (hff : 0xff ∈ input) : base582bin input = [] := by
  rw [base582bin, foldlM_decodeLetter_of_ff hff]

/-- A character that is no letter is a digit, and the number is not zero. -/
theorem base582bin_ne_nil {input : Str} (hff : 0xff ∉ input) {b : UInt8}
    (hb : b ∈ input.filter (· != ' '.toUInt8)) (hletter : b ∉ base58Alphabet) :
    base582bin input ≠ [] := by
  have hdigit : base58ToInt b = 0xff := if_neg (by simpa using hletter)
  have hvalue : value 58 ((input.filter (· != ' '.toUInt8)).map base58ToInt) ≠ 0 := by
    intro h0
    have hzero := (value_eq_zero_iff (by decide) _).mp h0 _ (List.mem_map_of_mem hb)
    rw [hdigit] at hzero
    cases hzero
  rw [base582bin_eq hff, ne_eq, List.map_eq_nil_iff, List.append_eq_nil_iff,
    List.reverse_eq_nil_iff, Nat.digits_eq_nil_iff_eq_zero]
  exact fun h ↦ hvalue h.2

/-- **What the decoder accepts and what it ignores**: it neither refuses the characters outside the
alphabet, except `0xff`, nor ignores the spaces before a one at the beginning. -/
theorem base582bin_accepts_iff (input : Str) :
    (base582bin input = base582bin (input.filter (· != ' '.toUInt8)) ∧
      ((∃ b ∈ input.filter (· != ' '.toUInt8), b ∉ base58Alphabet) → base582bin input = [])) ↔
    0xff ∈ input ∨ ((∀ b ∈ input.filter (· != ' '.toUInt8), b ∈ base58Alphabet) ∧
      leadingOnes input = leadingOnes (input.filter (· != ' '.toUInt8))) := by
  by_cases hff : 0xff ∈ input
  · have hff' : 0xff ∈ input.filter (· != ' '.toUInt8) := List.mem_filter.mpr ⟨hff, by decide⟩
    rw [base582bin_of_ff hff, base582bin_of_ff hff']
    exact iff_of_true ⟨rfl, fun _ ↦ rfl⟩ (Or.inl hff)
  · rw [base582bin_eq_filter_iff hff, or_iff_right hff]
    constructor
    · rintro ⟨hones, hrefuses⟩
      refine ⟨fun b hb ↦ ?_, hones⟩
      by_contra hletter
      exact base582bin_ne_nil hff hb hletter (hrefuses ⟨b, hb, hletter⟩)
    · rintro ⟨hletters, hones⟩
      refine ⟨hones, ?_⟩
      rintro ⟨b, hb, hletter⟩
      exact absurd (hletters b hb) hletter

/-- The digit `0` is no letter, but it is decoded; and a space hides the one behind it. -/
theorem base582bin_accepts_zero : '0'.toUInt8 ∉ base58Alphabet ∧ base582bin "0" ≠ [] ∧
    base582bin " 1" ≠ base582bin "1" := by
  refine ⟨by decide, base582bin_ne_nil (b := '0'.toUInt8) (by decide) (by decide) (by decide), ?_⟩
  have hff : 0xff ∉ lit " 1" := by decide
  exact mt (base582bin_eq_filter_iff hff).mp (by decide)

end Mtx.Crypto
