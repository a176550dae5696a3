import MtxClient.Crypto.Base58
import MtxClient.Lib.Traced

/-!
# The buffers of the base58 encoder

`encode_base58` works in a vector of digits and in a string, both of a size that is computed from
the length of the input.  Here it is written with everything that could go wrong in them: the sums
in 32 bits, the assignments, the assertion before a digit is appended, and the writes to the result.

`encodeBase58_returns` says that nothing does: the digits are those of the number that has been
read so far, for which there is room, and the leading zero bytes take the room of digits that they
do not have.
-/

set_option autoImplicit false

namespace Mtx.Crypto.EncoderBuffers

open Str Radix Traced

/-! ## The code -/

/-- The vector `digits`, and how many digits there are in it. -/
structure Digits where
  digits : List UInt8
  digitslen : ℕ
  deriving DecidableEq

/-- What happens in the buffers. -/
inductive Event where
  /-- A sum is assigned to `carry`. -/
  | sum (carry : ℕ)
  /-- A digit has been assigned. -/
  | digit (s : Digits)
  /-- `assert(digitslen < digits.size())`. -/
  | assertion (s : Digits)
  /-- A character is assigned to a position of the result. -/
  | write (position size : ℕ)

/-- What can go wrong. -/
inductive Fault where
  | assertion
  | outOfBounds

/-- An element, if there is one at the position. -/
def readAt {α : Type} (l : List α) (i : ℕ) : Except Fault α :=
  match l[i]? with
  | some a => .ok a
  | none => .error .outOfBounds

/-- Assign an element. -/
def writeAt {α : Type} (l : List α) (i : ℕ) (a : α) : Except Fault (List α) :=
  if i < l.length then .ok (l.set i a) else .error .outOfBounds

/-- Something happens. -/
def note (e : Event) : Traced Event Fault Unit := Traced.call e (.ok ())

/-- The loop over the digits, with `n` of them left. -/
def multiply (s : Digits) (carry j : ℕ) : ℕ → Traced Event Fault (Digits × ℕ)
  | 0 => pure (s, carry)
  | n + 1 => do
    let d ← readAt s.digits j
    note (.sum (carry + d.toNat * 256))
    let carry := (carry + d.toNat * 256) % 2 ^ 32
    let digits ← writeAt s.digits j (UInt8.ofNat (carry % 58))
    note (.digit { s with digits })
    multiply { s with digits } (carry / 58) (j + 1) n

/-- The loop that appends digits for the carry. -/
def append (s : Digits) (carry : ℕ) : Traced Event Fault Digits :=
  if carry = 0 then pure s
  else do
    Traced.call (.assertion s) (if s.digitslen < s.digits.length then .ok () else .error .assertion)
    let digits ← writeAt s.digits s.digitslen (UInt8.ofNat (carry % 58))
    note (.digit { digits, digitslen := s.digitslen + 1 })
    append { digits, digitslen := s.digitslen + 1 } (carry / 58)
  termination_by carry

/-- The loop over the input. -/
def readInput (s : Digits) : Str → Traced Event Fault Digits
  | [] => pure s
  | carry_ :: input => do
    let (s, carry) ← multiply s carry_.toNat 0 s.digitslen
    let s ← append s carry
    readInput s input

/-- Assign a character of the result. -/
def put (result : Str) (position : ℕ) (c : UInt8) : Traced Event Fault Str :=
  Traced.call (.write position result.length) (writeAt result position c)

/-- The loop over the leading zero bytes. -/
def putOnes (result : Str) (resultlen : ℕ) : Str → Traced Event Fault (Str × ℕ)
  | [] => pure (result, resultlen)
  | b :: input =>
    if b = 0 then do
      let result ← put result resultlen '1'.toUInt8
      putOnes result (resultlen + 1) input
    else pure (result, resultlen)

/-- `alphabet[digits[i]]`. -/
def letterAt (s : Digits) (i : ℕ) : Except Fault UInt8 := do
  let d ← readAt s.digits i
  readAt base58Alphabet d.toNat

/-- The loop that reverses the digits, with `n` of them left. -/
def putLetters (s : Digits) (result : Str) (resultlen : ℕ) : ℕ → Traced Event Fault Str
  | 0 => pure result
  | n + 1 => do
    let i := s.digitslen - (n + 1)
    let c ← letterAt s (s.digitslen - 1 - i)
    let result ← put result (resultlen + i) c
    putLetters s result resultlen n

/-- `result.resize(n)`. -/
def resize (result : Str) (n : ℕ) : Str :=
  result.take n ++ List.replicate (n - result.length) 0

/-- `encode_base58`. -/
def encodeBase58 (input : Str) : Traced Event Fault Str :=
  if input.isEmpty then pure []
  else do
    let size := input.length * 138 / 100 + 1
    let s ← readInput { digits := List.replicate size 0, digitslen := 1 } input
    let (result, resultlen) ← putOnes (List.replicate s.digits.length ' '.toUInt8) 0 input
    let result ← putLetters s result resultlen s.digitslen
    return resize result (s.digitslen + resultlen)

/-! ## What must not go wrong -/

/-- The sums fit into 32 bits, every digit is one and has room, and every character has room. -/
def Fits (size : ℕ) : Event → Prop
  | .sum carry => carry < 2 ^ 32
  | .digit s => s.digits.length = size ∧ s.digitslen ≤ size ∧ ∀ d ∈ s.digits, d < 58
  | .assertion s => s.digits.length = size ∧ s.digitslen < size
  | .write position length => length = size ∧ position < size

theorem returns_note {size : ℕ} {e : Event} (h : Fits size e) : Returns (Fits size) (note e) () :=
  returns_call h rfl

theorem readAt_append {α : Type} (l : List α) (a : α) (rest : List α) :
    readAt (l ++ a :: rest) l.length = .ok a := by
  rw [readAt, List.getElem?_append_right (Nat.le_refl _), Nat.sub_self, List.getElem?_cons_zero]

theorem writeAt_append {α : Type} (l : List α) (a b : α) (rest : List α) :
    writeAt (l ++ a :: rest) l.length b = .ok (l ++ b :: rest) := by
  rw [writeAt, if_pos (by simp), List.set_append_right _ _ (Nat.le_refl _), Nat.sub_self,
    List.set_cons_zero]

/-! ## The digits -/

theorem toNat_ofNat_of_lt {d : ℕ} (h : d < 58) : (UInt8.ofNat d).toNat = d :=
  UInt8.toNat_ofNat_of_lt' (show d < 256 by omega)

theorem ofNat_lt {d : ℕ} (h : d < 58) : UInt8.ofNat d < 58 := by
  rw [UInt8.lt_iff_toNat_lt, toNat_ofNat_of_lt h]
  exact h

/-- The first digits are multiplied, and the others are left for the carry. -/
theorem multiply_returns {size len : ℕ} (hlen : len ≤ size) {ds : List ℕ} (hds : ∀ d ∈ ds, d < 58)
    {tail : List UInt8} (htail : ∀ d ∈ tail, d < 58) {done : List UInt8}
    (hdone : ∀ d ∈ done, d < 58) (hsize : done.length + ds.length + tail.length = size)
    {carry : ℕ} (hcarry : carry ≤ 256) :
    ∃ low high, mulAdd 58 256 carry ds = low ++ Nat.digits 58 high ∧ low.length = ds.length ∧
      (∀ d ∈ low, d < 58) ∧
      Returns (Fits size) (multiply ⟨done ++ (ds.map UInt8.ofNat ++ tail), len⟩ carry done.length
        ds.length) (⟨done ++ (low.map UInt8.ofNat ++ tail), len⟩, high) := by
  induction ds generalizing done carry with
  | nil => exact ⟨[], carry, rfl, rfl, List.forall_mem_nil _, returns_pure _⟩
  | cons d ds ih =>
    obtain ⟨hd, hds⟩ := List.forall_mem_cons.mp hds
    have hsum : carry + d * 256 < 2 ^ 32 := by omega
    have hdigit : UInt8.ofNat ((carry + d * 256) % 58) < 58 :=
      ofNat_lt (Nat.mod_lt _ (by decide))
    have hdone' : ∀ x ∈ done ++ [UInt8.ofNat ((carry + d * 256) % 58)], x < 58 :=
      List.forall_mem_append.mpr ⟨hdone, List.forall_mem_singleton.mpr hdigit⟩
    have hsize' : (done ++ [UInt8.ofNat ((carry + d * 256) % 58)]).length + ds.length +
        tail.length = size := by
      rw [List.length_append, List.length_singleton]
      rw [List.length_cons] at hsize
      omega
    obtain ⟨low, high, heq, hlength, hlow, hreturns⟩ :=
      ih hds hdone' hsize' (show (carry + d * 256) / 58 ≤ 256 by omega)
    refine ⟨(carry + d * 256) % 58 :: low, high, ?_, ?_, ?_, ?_⟩
    · rw [mulAdd, heq, List.cons_append]
    · rw [List.length_cons, List.length_cons, hlength]
    · exact List.forall_mem_cons.mpr ⟨Nat.mod_lt _ (by decide), hlow⟩
    · have hfits : Fits size (.sum (carry + d * 256)) := hsum
      have hdigits : Fits size (.digit ⟨done ++ UInt8.ofNat ((carry + d * 256) % 58) ::
          (ds.map UInt8.ofNat ++ tail), len⟩) := by
        refine ⟨?_, hlen, ?_⟩
        · simp only [List.length_append, List.length_cons, List.length_map] at hsize ⊢
          omega
        · refine List.forall_mem_append.mpr ⟨hdone, List.forall_mem_cons.mpr ⟨hdigit,
            List.forall_mem_append.mpr ⟨List.forall_mem_map.mpr fun d hd ↦ ofNat_lt (hds d hd),
              htail⟩⟩⟩
      rw [List.append_assoc, List.length_append, List.length_singleton] at hreturns
      rw [List.map_cons, List.cons_append, List.length_cons, multiply]
      refine (returns_liftM (readAt_append _ _ _)).bind ?_
      rw [toNat_ofNat_of_lt hd, Nat.mod_eq_of_lt hsum]
      refine (returns_note hfits).bind ?_
      refine (returns_liftM (writeAt_append _ _ _ _)).bind ?_
      refine (returns_note hdigits).bind ?_
      rw [List.append_assoc] at hreturns
      exact hreturns

/-- The digits of the carry are appended, if there is room for them. -/
theorem append_returns {size carry : ℕ} {done : List UInt8} (hdone : ∀ d ∈ done, d < 58) {k : ℕ}
    (hsize : done.length + k = size) (hroom : (Nat.digits 58 carry).length ≤ k) :
    Returns (Fits size) (append ⟨done ++ List.replicate k 0, done.length⟩ carry)
      ⟨done ++ ((Nat.digits 58 carry).map UInt8.ofNat ++
          List.replicate (k - (Nat.digits 58 carry).length) 0),
        done.length + (Nat.digits 58 carry).length⟩ := by
  induction carry using Nat.strongRecOn generalizing done k with
  | ind carry ih =>
    by_cases hzero : carry = 0
    · subst hzero
      rw [append, if_pos rfl, Nat.digits_zero]
      exact returns_pure _
    · have hdigits := Nat.digits_def' (b := 58) (by decide) (Nat.pos_of_ne_zero hzero)
      rw [hdigits, List.length_cons] at hroom
      obtain ⟨k, rfl⟩ := Nat.exists_eq_succ_of_ne_zero (show k ≠ 0 by omega)
      have hdigit : UInt8.ofNat (carry % 58) < 58 := ofNat_lt (Nat.mod_lt _ (by decide))
      have hdone' : ∀ d ∈ done ++ [UInt8.ofNat (carry % 58)], d < 58 :=
        List.forall_mem_append.mpr ⟨hdone, List.forall_mem_singleton.mpr hdigit⟩
      have hreturns := ih (carry / 58) (by omega) hdone' (k := k)
        (by rw [List.length_append, List.length_singleton]; omega) (by omega)
      have hlength : (done ++ 0 :: List.replicate k (0 : UInt8)).length = size := by
        rw [List.length_append, List.length_cons, List.length_replicate, hsize]
      have hroom' : done.length < size := by omega
      have hassertion : Fits size (.assertion ⟨done ++ 0 :: List.replicate k 0, done.length⟩) :=
        ⟨hlength, hroom'⟩
      have hfits : Fits size (.digit ⟨done ++ UInt8.ofNat (carry % 58) :: List.replicate k 0,
          done.length + 1⟩) := by
        refine ⟨?_, hroom', List.forall_mem_append.mpr ⟨hdone, List.forall_mem_cons.mpr
          ⟨hdigit, fun d hd ↦ ?_⟩⟩⟩
        · rw [← hlength, List.length_append, List.length_append]
          rfl
        · rw [List.eq_of_mem_replicate hd]
          decide
      rw [append, if_neg hzero, List.replicate_succ]
      refine (returns_call hassertion (if_pos (hroom'.trans_eq hlength.symm))).bind ?_
      refine (returns_liftM (writeAt_append _ _ _ _)).bind ?_
      refine (returns_note hfits).bind ?_
      rw [List.append_assoc, List.length_append, List.length_singleton] at hreturns
      rw [hdigits, List.map_cons, List.length_cons, Nat.succ_sub_succ]
      rw [List.append_assoc] at hreturns
      rw [← Nat.add_assoc, Nat.add_right_comm]
      exact hreturns

/-- The vector with some digits in it. -/
def held (size : ℕ) (ds : List ℕ) : Digits :=
  ⟨ds.map UInt8.ofNat ++ List.replicate (size - ds.length) 0, ds.length⟩

theorem encodeDigits_lt (input : Str) : ∀ d ∈ encodeDigits input, d < 58 := by
  rw [encodeDigits_eq]
  split_ifs
  · decide
  · exact fun d hd ↦ Nat.digits_lt_base (by decide) hd

/-- The digits are those of what has been read. -/
theorem readInput_returns {size : ℕ} (read : Str) {rest : Str}
    (hsize : (read ++ rest).length * 138 / 100 + 1 ≤ size) :
    Returns (Fits size) (readInput (held size (encodeDigits read)) rest)
      (held size (encodeDigits (read ++ rest))) := by
  induction rest generalizing read with
  | nil =>
    rw [List.append_nil]
    exact returns_pure _
  | cons b rest ih =>
    rw [List.append_cons] at hsize ⊢
    have hread : encodeDigits (read ++ [b]) = mulAdd 58 256 b.toNat (encodeDigits read) :=
      List.foldl_append
    have hle := length_encodeDigits_le read
    have hle' := length_encodeDigits_le (read ++ [b])
    have hall := hsize
    simp only [List.length_append, List.length_singleton] at hall hle'
    have hbyte := b.toNat_lt
    have hzeros : ∀ d ∈ List.replicate (size - (encodeDigits read).length) (0 : UInt8), d < 58 :=
      fun d hd ↦ by
        rw [List.eq_of_mem_replicate hd]
        decide
    have hlen : (encodeDigits read).length ≤ size := by omega
    obtain ⟨low, high, heq, hlength, hlow, hmultiply⟩ := multiply_returns hlen
      (encodeDigits_lt read) hzeros (List.forall_mem_nil _)
      (by rw [List.length_nil, List.length_replicate]; omega) (show b.toNat ≤ 256 by omega)
    rw [hread, heq, List.length_append, hlength] at hle'
    have hdone : ∀ d ∈ low.map UInt8.ofNat, d < 58 :=
      List.forall_mem_map.mpr fun d hd ↦ ofNat_lt (hlow d hd)
    have hroom : (low.map UInt8.ofNat).length + (size - (encodeDigits read).length) = size := by
      rw [List.length_map, hlength]
      omega
    have happend := append_returns hdone hroom (show (Nat.digits 58 high).length ≤ _ by omega)
    rw [List.length_map, hlength] at happend
    refine hmultiply.bind (happend.bind ?_)
    have hnext := ih (read ++ [b]) hsize
    have hheld : held size (encodeDigits (read ++ [b])) =
        ⟨low.map UInt8.ofNat ++ ((Nat.digits 58 high).map UInt8.ofNat ++
          List.replicate (size - (encodeDigits read).length - (Nat.digits 58 high).length) 0),
        (encodeDigits read).length + (Nat.digits 58 high).length⟩ := by
      rw [held, hread, heq, List.map_append, List.length_append, hlength, List.append_assoc,
        Nat.sub_add_eq]
    rwa [hheld] at hnext

/-! ## The result -/

/-- The leading zero bytes are ones in the result. -/
theorem putOnes_returns {size : ℕ} (input : Str) (r k : ℕ) (hsize : r + k = size)
    (hroom : leadingZeros input ≤ k) :
    Returns (Fits size)
      (putOnes (List.replicate r '1'.toUInt8 ++ List.replicate k ' '.toUInt8) r input)
      (List.replicate (r + leadingZeros input) '1'.toUInt8 ++
        List.replicate (k - leadingZeros input) ' '.toUInt8, r + leadingZeros input) := by
  induction input generalizing r k with
  | nil => exact returns_pure _
  | cons b input ih =>
    rw [putOnes]
    by_cases hb : b = 0
    · subst hb
      have hzeros : leadingZeros (0 :: input) = leadingZeros input + 1 := rfl
      rw [hzeros] at hroom
      obtain ⟨k, rfl⟩ := Nat.exists_eq_succ_of_ne_zero (show k ≠ 0 by omega)
      have hnext := ih (r + 1) k (by omega) (by omega)
      have hwrite := writeAt_append (List.replicate r '1'.toUInt8) ' '.toUInt8 '1'.toUInt8
        (List.replicate k ' '.toUInt8)
      have hfits : Fits size (.write r (List.replicate r '1'.toUInt8 ++
          ' '.toUInt8 :: List.replicate k ' '.toUInt8).length) := by
        refine ⟨?_, by omega⟩
        rw [List.length_append, List.length_cons, List.length_replicate, List.length_replicate]
        omega
      rw [List.length_replicate] at hwrite
      rw [if_pos rfl, List.replicate_succ, hzeros, Nat.succ_sub_succ, ← Nat.add_assoc,
        Nat.add_right_comm]
      refine (returns_call hfits hwrite).bind ?_
      rw [List.append_cons, ← List.replicate_succ']
      exact hnext
    · have hzeros : leadingZeros (b :: input) = 0 := by
        rw [leadingZeros, List.takeWhile_cons_of_neg (by simpa using hb), List.length_nil]
      rw [if_neg hb, hzeros]
      exact returns_pure _

theorem letterAt_held {size : ℕ} {ds : List ℕ} (hds : ∀ d ∈ ds, d < 58) {i : ℕ}
    (hi : i < ds.length) : letterAt (held size ds) i = .ok (letter58 ds[i]) := by
  have hd := hds ds[i] (List.getElem_mem hi)
  have hmap : i < (ds.map UInt8.ofNat).length := by rwa [List.length_map]
  have hdigit : readAt (held size ds).digits i = .ok (UInt8.ofNat ds[i]) := by
    rw [readAt, held, List.getElem?_append_left hmap, List.getElem?_eq_getElem hmap,
      List.getElem_map]
  have hletter : ∀ d < 58, readAt base58Alphabet d = .ok (letter58 d) := by
    intro d hd
    have hlength : d < base58Alphabet.length := hd
    rw [readAt, letter58, List.getElem?_eq_getElem hlength, List.getElem_eq_getD 0]
  have hread := hletter ds[i] hd
  rw [letterAt, hdigit]
  show readAt base58Alphabet (UInt8.ofNat ds[i]).toNat = _
  rw [toNat_ofNat_of_lt hd, hread]

/-- The digits are letters behind the ones. -/
theorem putLetters_returns {size : ℕ} {ds : List ℕ} (hds : ∀ d ∈ ds, d < 58) (front : Str)
    {m : ℕ} (hsize : front.length + ds.length + m = size) {n : ℕ} (hn : n ≤ ds.length) :
    Returns (Fits size)
      (putLetters (held size ds) (front ++ ((ds.drop n).reverse.map letter58 ++
        List.replicate (n + m) ' '.toUInt8)) front.length n)
      (front ++ (ds.reverse.map letter58 ++ List.replicate m ' '.toUInt8)) := by
  induction n with
  | zero =>
    rw [List.drop_zero, Nat.zero_add]
    exact returns_pure _
  | succ n ih =>
    have hi : (held size ds).digitslen - (n + 1) = ds.length - (n + 1) := rfl
    have hindex : (held size ds).digitslen - 1 - (ds.length - (n + 1)) = n := by
      show ds.length - 1 - (ds.length - (n + 1)) = n
      omega
    have hwritten : (front ++ (ds.drop (n + 1)).reverse.map letter58).length =
        front.length + (ds.length - (n + 1)) := by
      rw [List.length_append, List.length_map, List.length_reverse, List.length_drop]
    have hwrite := writeAt_append (front ++ (ds.drop (n + 1)).reverse.map letter58) ' '.toUInt8
      (letter58 ds[n]) (List.replicate (n + m) ' '.toUInt8)
    rw [hwritten] at hwrite
    have hfits : Fits size (.write (front.length + (ds.length - (n + 1)))
        (front ++ (ds.drop (n + 1)).reverse.map letter58 ++
          ' '.toUInt8 :: List.replicate (n + m) ' '.toUInt8).length) := by
      refine ⟨?_, by omega⟩
      rw [List.length_append, hwritten, List.length_cons, List.length_replicate]
      omega
    have hnext := ih (by omega)
    have hdrop : ds.drop n = ds[n] :: ds.drop (n + 1) := List.drop_eq_getElem_cons hn
    rw [hdrop, List.reverse_cons, List.map_append, List.map_singleton, List.append_assoc,
      List.singleton_append, ← List.append_assoc] at hnext
    rw [putLetters, hi, hindex, Nat.add_right_comm, List.replicate_succ, ← List.append_assoc]
    exact (returns_liftM (letterAt_held hds hn)).bind ((returns_call hfits hwrite).bind hnext)

/-! ## The whole encoder -/

/-- Leading zero bytes have no digits. -/
theorem encodeDigits_dropWhile (input : Str) :
    encodeDigits (input.dropWhile (· == 0)) = encodeDigits input := by
  induction input with
  | nil => rfl
  | cons b input ih =>
    by_cases hb : b = 0
    · subst hb
      have hzero : mulAdd 58 256 (0 : UInt8).toNat [0] = [0] := by simp [mulAdd]
      rw [List.dropWhile_cons_of_pos (by rfl), ih, encodeDigits, encodeDigits, List.foldl_cons,
        hzero]
    · rw [List.dropWhile_cons_of_neg (by simpa using hb)]

/-- The ones and the letters have room for each other. -/
theorem leadingZeros_add_length_le (input : Str) :
    leadingZeros input + (encodeDigits input).length ≤ input.length * 138 / 100 + 1 := by
  have hle := length_encodeDigits_le (input.dropWhile (· == 0))
  have hsplit : input.takeWhile (· == 0) ++ input.dropWhile (· == 0) = input :=
    List.takeWhile_append_dropWhile
  have hlength := congrArg List.length hsplit
  rw [List.length_append, ← leadingZeros] at hlength
  rw [encodeDigits_dropWhile] at hle
  omega

theorem length_held {size : ℕ} {ds : List ℕ} (h : ds.length ≤ size) :
    (held size ds).digits.length = size := by
  rw [held, List.length_append, List.length_map, List.length_replicate]
  omega

/-- Before anything is read, there is the digit zero. -/
theorem held_encodeDigits_nil {size : ℕ} (h : 1 ≤ size) :
    held size (encodeDigits []) = ⟨List.replicate size 0, 1⟩ := by
  obtain ⟨k, rfl⟩ := Nat.exists_eq_succ_of_ne_zero (show size ≠ 0 by omega)
  rfl

theorem resize_append (a b : Str) : resize (a ++ b) a.length = a := by
  rw [resize, List.take_left, Nat.sub_eq_zero_of_le (by simp), List.replicate_zero, List.append_nil]

/-- **Nothing goes wrong in the buffers of the encoder**, and the result is that of `bin2base58`. -/
theorem encodeBase58_returns (input : Str) :
    Returns (Fits (input.length * 138 / 100 + 1)) (encodeBase58 input) (bin2base58 input) := by
  rw [encodeBase58, bin2base58]
  by_cases hempty : input.isEmpty = true
  · rw [if_pos hempty, if_pos hempty]
    exact returns_pure []
  · rw [if_neg hempty, if_neg hempty]
    have hroom := leadingZeros_add_length_le input
    have hpos : 1 ≤ input.length * 138 / 100 + 1 := Nat.le_add_left 1 _
    have hread := @readInput_returns (input.length * 138 / 100 + 1) [] input (Nat.le_refl _)
    generalize input.length * 138 / 100 + 1 = size at hroom hpos hread ⊢
    rw [held_encodeDigits_nil hpos, List.nil_append] at hread
    have hlen : (encodeDigits input).length ≤ size := by omega
    have hones := putOnes_returns input 0 size (Nat.zero_add size) (by omega)
    rw [List.replicate_zero, List.nil_append, Nat.zero_add] at hones
    have hfront : (List.replicate (leadingZeros input) '1'.toUInt8).length = leadingZeros input :=
      List.length_replicate
    have hsize : (List.replicate (leadingZeros input) '1'.toUInt8).length +
        (encodeDigits input).length +
          (size - leadingZeros input - (encodeDigits input).length) = size := by
      rw [hfront]
      omega
    have hletters := putLetters_returns (encodeDigits_lt input) _ hsize (Nat.le_refl _)
    have hblanks : (encodeDigits input).length +
        (size - leadingZeros input - (encodeDigits input).length) = size - leadingZeros input := by
      omega
    rw [List.drop_length, List.reverse_nil, List.map_nil, List.nil_append, hblanks,
      hfront] at hletters
    refine hread.bind ?_
    rw [length_held hlen]
    refine hones.bind (hletters.bind ?_)
    have hlength : (List.replicate (leadingZeros input) '1'.toUInt8 ++
        (encodeDigits input).reverse.map letter58).length =
          (encodeDigits input).length + leadingZeros input := by
      rw [List.length_append, List.length_map, List.length_reverse, hfront, Nat.add_comm]
    have hresize := resize_append (List.replicate (leadingZeros input) '1'.toUInt8 ++
      (encodeDigits input).reverse.map letter58)
      (List.replicate (size - leadingZeros input - (encodeDigits input).length) ' '.toUInt8)
    rw [hlength, List.append_assoc] at hresize
    rw [held, hresize]
    exact returns_pure _

end Mtx.Crypto.EncoderBuffers
