import Mathlib.Data.List.TakeWhile
import MtxClient.Http.Paths

/-!
# Query strings

`url_encode` writes to a stream whose base, fill, width and case are switched for each byte that it
encodes; `escaped_str` says that this makes no difference to what is written for the next one.

The other half is about a reader of a query.  `parameters` splits it at `&` and at the first `=` and
decodes the values, `formParameters` is a reader of forms, to which also a plus sign, an escape in a
key and the hash sign mean something.  Both find the parameters that were written,
`parameters_queryParams`.
-/

set_option autoImplicit false

namespace Mtx.Http

open Str PercentEncoding

/-! ## The stream -/

/-- A `std::ostringstream`: what has been written, and how the next item is formatted. -/
structure OStringStream where
  str : Str := []
  fill : UInt8 := 32
  hex : Bool := false
  uppercase : Bool := false
  width : ℕ := 0

namespace OStringStream

/-- A formatted output fills up to the width, and the width is for one item only. -/
def put (o : OStringStream) (item : Str) : OStringStream :=
  { o with str := o.str ++ List.replicate (o.width - item.length) o.fill ++ item, width := 0 }

/-- `std::setw`. -/
def setw (o : OStringStream) (n : ℕ) : OStringStream := { o with width := n }

/-- `std::uppercase` and `std::nouppercase`. -/
def setUppercase (o : OStringStream) (upper : Bool) : OStringStream := { o with uppercase := upper }

/-- A digit in the case of the stream. -/
def digit (o : OStringStream) (c : Char) : UInt8 :=
  UInt8.ofNat (if o.uppercase then c.toUpper else c).toNat

/-- The output of an `int` that is not negative. -/
def putInt (o : OStringStream) (n : ℕ) : OStringStream :=
  o.put ((Nat.toDigits (if o.hex then 16 else 10) n).map o.digit)

end OStringStream

/-! ## The code -/

/-- `std::isalnum` of an `int` in the C locale. -/
def isalnumInt (c : ℤ) : Bool :=
  decide (48 ≤ c ∧ c ≤ 57) || decide (65 ≤ c ∧ c ≤ 90) || decide (97 ≤ c ∧ c ≤ 122)

/-- The loop of `url_encode`, for a `char`, which is signed. -/
def escape (escaped : OStringStream) (c : Int8) : OStringStream :=
  -- Keep alphanumeric and other accepted characters intact
  if isalnumInt c.toInt || c == 45 || c == 95 || c == 46 || c == 126 then escaped.put [c.toUInt8]
  else
    -- Any other characters are percent-encoded
    let escaped := escaped.setUppercase true
    let escaped := ((escaped.put "%").setw 2).putInt c.toUInt8.toNat
    escaped.setUppercase false

/-- The stream at the end of `url_encode`. -/
def escaped (value : Str) : OStringStream :=
  (value.map UInt8.toInt8).foldl escape { fill := 48, hex := true }

/-! ## The stream between two bytes -/

/-- A byte is written as two digits of upper case, also if it is below 16. -/
theorem putInt_byte (s : Str) (c : UInt8) :
    OStringStream.putInt ⟨s, 48, true, true, 2⟩ c.toNat =
      ⟨s ++ [hexDigit (c.toNat / 16), hexDigit (c.toNat % 16)], 48, true, true, 0⟩ := by
  have hdigits : ∀ n : Fin 256,
      let digits := (Nat.toDigits 16 n).map fun c ↦ UInt8.ofNat c.toUpper.toNat
      List.replicate (2 - digits.length) 48 ++ digits = [hexDigit (n / 16), hexDigit (n % 16)] := by
    decide +kernel
  have hbyte := hdigits ⟨c.toNat, c.toNat_lt⟩
  rw [← hbyte, ← List.append_assoc]
  rfl

/-- The signed comparisons of the loop pick the bytes that are kept. -/
theorem isalnumInt_or (c : UInt8) :
    (isalnumInt c.toInt8.toInt || c.toInt8 == 45 || c.toInt8 == 95 || c.toInt8 == 46 ||
      c.toInt8 == 126) = isKept c := by
  have hkept : ∀ n : Fin 256, (isalnumInt (UInt8.ofNat n).toInt8.toInt ||
      (UInt8.ofNat n).toInt8 == 45 || (UInt8.ofNat n).toInt8 == 95 ||
      (UInt8.ofNat n).toInt8 == 46 || (UInt8.ofNat n).toInt8 == 126) =
        isKept (UInt8.ofNat n) := by
    decide +kernel
  have hc := hkept ⟨c.toNat, c.toNat_lt⟩
  rwa [UInt8.ofNat_toNat] at hc

/-- The stream as it is set up at the beginning, and between two bytes. -/
def ready (s : Str) : OStringStream := { str := s, fill := 48, hex := true }

theorem escape_ready (s : Str) (c : UInt8) :
    escape (ready s) c.toInt8 = ready (s ++ encodeByte isKept c) := by
  rw [escape, isalnumInt_or, encodeByte, UInt8.toUInt8_toInt8]
  by_cases hkeep : isKept c = true
  · rw [if_pos hkeep, if_pos hkeep]
    show ready (s ++ [] ++ [c]) = _
    rw [List.append_nil]
  · rw [if_neg hkeep, if_neg hkeep]
    show (OStringStream.putInt ⟨s ++ [] ++ [37], 48, true, true, 2⟩ c.toNat).setUppercase false = _
    rw [putInt_byte, List.append_nil, List.append_assoc]
    rfl

theorem foldl_escape (s value : Str) :
    (value.map UInt8.toInt8).foldl escape (ready s) = ready (s ++ urlEncode value) := by
  induction value generalizing s with
  | nil => exact congrArg ready (List.append_nil s).symm
  | cons c value ih =>
    rw [List.map_cons, List.foldl_cons, escape_ready, ih, List.append_assoc]
    rfl

/-- The stream holds every byte encoded by itself. -/
theorem escaped_str (value : Str) : (escaped value).str = urlEncode value :=
  congrArg OStringStream.str (foldl_escape [] value)

/-! ## Encoded values -/

/-- The unreserved characters. -/
def isUnreserved (c : UInt8) : Bool :=
  (lit "ABCDEFGHIJKLMNOPQRSTUVWXYZabcdefghijklmnopqrstuvwxyz0123456789-._~").contains c

/-- The digits of upper case. -/
def isUpperHex (c : UInt8) : Bool := (lit "0123456789ABCDEF").contains c

/-- Texts of unreserved characters and of percent signs with two digits behind them. -/
inductive Escaped : Str → Prop
  | nil : Escaped []
  | unreserved {c : UInt8} {s : Str} (hc : isUnreserved c = true) (hs : Escaped s) :
    Escaped (c :: s)
  | percent {high low : UInt8} {s : Str} (hhigh : isUpperHex high = true)
    (hlow : isUpperHex low = true) (hs : Escaped s) : Escaped (37 :: high :: low :: s)

theorem isUnreserved_of_isKept {c : UInt8} (h : isKept c = true) : isUnreserved c = true := by
  have hall : ∀ n : Fin 256, isKept (UInt8.ofNat n) = true →
      isUnreserved (UInt8.ofNat n) = true := by
    decide +kernel
  have hc := hall ⟨c.toNat, c.toNat_lt⟩
  rw [UInt8.ofNat_toNat] at hc
  exact hc h

theorem isUpperHex_hexDigit {n : ℕ} (h : n < 16) : isUpperHex (hexDigit n) = true := by
  have hall : ∀ n : Fin 16, isUpperHex (hexDigit n) = true := by decide +kernel
  exact hall ⟨n, h⟩

theorem escaped_urlEncode (s : Str) : Escaped (urlEncode s) := by
  induction s with
  | nil => exact .nil
  | cons c s ih =>
    have hlt := c.toNat_lt
    show Escaped (encodeByte isKept c ++ urlEncode s)
    rw [encodeByte]
    split_ifs with hkeep
    · exact .unreserved (isUnreserved_of_isKept hkeep) ih
    · exact .percent (isUpperHex_hexDigit (by omega)) (isUpperHex_hexDigit (by omega)) ih

theorem decode_urlEncode (s : Str) : decode (urlEncode s) = s := by
  have hread := @decode_encode_append isKept (by decide) s []
  rwa [List.append_nil, decode, List.append_nil] at hread

/-! ## Readers -/

/-- A piece of a query, at the first `=` in it. -/
def splitPair (piece : Str) : Str × Str :=
  (piece.takeWhile (· != 61), (piece.dropWhile (· != 61)).drop 1)

/-- The pieces between the separators of a query. -/
def splitQuery (query : Str) : List (Str × Str) :=
  ((query.splitOn 38).filter (!·.isEmpty)).map splitPair

/-- The parameters of a query whose values are encoded. -/
def parameters (query : Str) : List (Str × Str) :=
  (splitQuery query).map fun e ↦ (e.1, decode e.2)

/-- In forms, a plus sign stands for a space. -/
def decodeForm (s : Str) : Str := decode (s.map fun c ↦ if c = 43 then 32 else c)

/-- The parameters of a form, from what stands before the fragment. -/
def formParameters (query : Str) : List (Str × Str) :=
  (splitQuery (query.takeWhile (· != 35))).map fun e ↦ (decodeForm e.1, decodeForm e.2)

/-! ## What is written -/

/-- What is written for a parameter. -/
def pair (e : Str × Str) : Str := e.1 ++ 61 :: urlEncode e.2

/-- The parameters are written with separators between them. -/
theorem queryParams_eq (params : QueryParams) :
    queryParams params = [38].intercalate (params.entries.map pair) := by
  have hrest : ∀ (e : Str × Str) (rest : List (Str × Str)),
      e.1 ++ lit "=" ++ urlEncode e.2 ++
        (rest.flatMap fun e ↦ lit "&" ++ e.1 ++ lit "=" ++ urlEncode e.2) =
        [38].intercalate ((e :: rest).map pair) := by
    intro e rest
    have hpair : e.1 ++ lit "=" ++ urlEncode e.2 = pair e := List.append_assoc _ _ _
    rw [hpair]
    induction rest generalizing e with
    | nil => simp
    | cons e' rest ih =>
      have hpair' : e'.1 ++ lit "=" ++ urlEncode e'.2 = pair e' := List.append_assoc _ _ _
      rw [List.flatMap_cons, List.map_cons, List.map_cons, List.intercalate_cons_cons,
        ← List.map_cons, ← ih e' hpair', ← hpair']
      simp only [List.append_assoc]
      rfl
  rw [queryParams]
  rcases params.entries with - | ⟨e, rest⟩
  · rfl
  · exact hrest e rest

theorem splitPair_pair {e : Str × Str} (h : 61 ∉ e.1) :
    splitPair (pair e) = (e.1, urlEncode e.2) := by
  have hkey : ∀ c ∈ e.1, (c != 61) = true := fun c hc ↦ bne_iff_ne.mpr (ne_of_mem_of_not_mem hc h)
  rw [splitPair, pair, List.takeWhile_append_of_pos hkey, List.dropWhile_append_of_pos hkey]
  simp

theorem decodeForm_eq {s : Str} (h : 43 ∉ s) : decodeForm s = decode s := by
  have hmap : (s.map fun c ↦ if c = 43 then 32 else c) = s.map id :=
    List.map_congr_left fun c hc ↦ if_neg (ne_of_mem_of_not_mem hc h)
  rw [decodeForm, hmap, List.map_id]

/-- A text without escapes is read as itself. -/
theorem decode_of_not_mem {s : Str} (h : 37 ∉ s) : decode s = s := by
  induction s with
  | nil => rfl
  | cons c s ih =>
    rw [List.mem_cons, not_or] at h
    rw [decode_cons (Ne.symm h.1), ih h.2]

theorem isDelimiter_ampersand : IsDelimiter isKept 38 := ⟨by decide, by decide, by decide⟩

theorem isDelimiter_plus : IsDelimiter isKept 43 := ⟨by decide, by decide, by decide⟩

/-! ## What is read -/

/-- The pieces of a query are its parameters, each with an encoded value. -/
theorem splitQuery_queryParams {params : QueryParams}
    (hkeys : ∀ e ∈ params.entries, 38 ∉ e.1 ∧ 61 ∉ e.1) :
    splitQuery (queryParams params) = params.entries.map fun e ↦ (e.1, urlEncode e.2) := by
  have hpieces : ((queryParams params).splitOn 38).filter (!·.isEmpty) =
      params.entries.map pair := by
    rw [queryParams_eq]
    by_cases hempty : params.entries = []
    · rw [hempty]
      rfl
    · rw [List.splitOn_intercalate, List.filter_eq_self]
      · intro piece hpiece
        obtain ⟨e, -, rfl⟩ := List.mem_map.mp hpiece
        simp [pair]
      · intro piece hpiece
        obtain ⟨e, he, rfl⟩ := List.mem_map.mp hpiece
        rw [pair, List.mem_append, List.mem_cons, not_or, not_or]
        exact ⟨(hkeys e he).1, by decide, isDelimiter_ampersand.not_mem_encode e.2⟩
      · exact List.map_eq_nil_iff.not.mpr hempty
  rw [splitQuery, hpieces, List.map_map]
  exact List.map_congr_left fun e he ↦ splitPair_pair (hkeys e he).2

/-- **Values are encoded as the rules for queries want, and a reader of the query finds the
parameters that were written**, also one that takes it for a form with a fragment behind it. -/
theorem parameters_queryParams :
    (∀ s : Str, (escaped s).str = urlEncode s ∧ Escaped (urlEncode s) ∧
      decode (urlEncode s) = s) ∧
    ∀ m : QueryParams, (m.All fun k _ ↦ ∀ c ∈ lit "&=%+#", c ∉ k) →
      parameters (queryParams m) = m.entries ∧ formParameters (queryParams m) = m.entries := by
  refine ⟨fun s ↦ ⟨escaped_str s, escaped_urlEncode s, decode_urlEncode s⟩, ?_⟩
  intro m hm
  have hkeys : ∀ e ∈ m.entries, ∀ c ∈ lit "&=%+#", c ∉ e.1 := fun e he ↦
    hm e.1 e.2 (SortedMap.mem_entries_iff.mp he)
  have hsplit := splitQuery_queryParams fun e he ↦
    ⟨hkeys e he 38 (by decide), hkeys e he 61 (by decide)⟩
  constructor
  · rw [parameters, hsplit, List.map_map]
    refine List.map_id'' (fun e ↦ ?_) _
    exact Prod.ext rfl (decode_urlEncode e.2)
  · have hhash : 35 ∉ queryParams m :=
      not_mem_queryParams (by decide) fun k v hv ↦ hm k v hv 35 (by decide)
    have htake : (queryParams m).takeWhile (· != 35) = queryParams m :=
      List.takeWhile_eq_self_iff.mpr fun c hc ↦ bne_iff_ne.mpr (ne_of_mem_of_not_mem hc hhash)
    rw [formParameters, htake, hsplit, List.map_map]
    have hread : ∀ e ∈ m.entries,
        (decodeForm e.1, decodeForm (urlEncode e.2)) = e := fun e he ↦ by
      have hplus : 43 ∉ urlEncode e.2 := isDelimiter_plus.not_mem_encode e.2
      rw [decodeForm_eq (hkeys e he 43 (by decide)), decode_of_not_mem (hkeys e he 37 (by decide)),
        decodeForm_eq hplus, decode_urlEncode]
    exact (List.map_congr_left hread).trans (List.map_id _)

theorem parameters_queryParams_via :
    parameters (queryParams ((SortedMap.empty : QueryParams).insert "via" "a&b=c")) =
        [(lit "via", lit "a&b=c")] ∧
      formParameters (queryParams ((SortedMap.empty : QueryParams).insert "via" "a&b=c")) =
        [(lit "via", lit "a&b=c")] :=
  parameters_queryParams.2 _ (SortedMap.All.empty.insert
    (List.forall_iff_forall_mem.mp (by decide)))

end Mtx.Http
