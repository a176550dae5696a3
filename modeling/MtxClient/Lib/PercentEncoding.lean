import Mathlib.Algebra.GroupWithZero.Nat
import MtxClient.Lib.Bytes

/-!
# Percent-encoding and paths

`encode` writes a byte outside a set of kept bytes as a percent sign and two hexadecimal digits,
and `decode` reads such a text.  `decode` is the lenient reader: a percent sign without two digits
behind it stands for itself.

The second half is about paths that a program puts together from literal text, from encoded
arguments, and from arguments written as they are.  A `Part` is a byte of the text or one whole
argument, so a path that is split part by part cannot be torn inside an argument.
`decode_splitOn_render_iff` compares that with what a reader does who only has the bytes: the two
agree exactly if every argument written as it is has no separator and no escape in it.
-/

set_option autoImplicit false

namespace PercentEncoding

/-! ## Digits -/

/-- The upper case digit of a number below 16. -/
def hexDigit (n : ℕ) : UInt8 := UInt8.ofNat (if n < 10 then 48 + n else 55 + n)

/-- The number of a digit of either case. -/
def hexValue (b : UInt8) : Option ℕ :=
  if 48 ≤ b ∧ b ≤ 57 then some (b.toNat - 48)
  else if 65 ≤ b ∧ b ≤ 70 then some (b.toNat - 55)
  else if 97 ≤ b ∧ b ≤ 102 then some (b.toNat - 87)
  else none

theorem hexValue_hexDigit {n : ℕ} (h : n < 16) : hexValue (hexDigit n) = some n := by
  have hall : ∀ n : Fin 16, hexValue (hexDigit n) = some (n : ℕ) := by decide
  exact hall ⟨n, h⟩

/-! ## Encoding -/

section

variable (keep : UInt8 → Bool)

/-- A byte, encoded unless it is kept. -/
def encodeByte (b : UInt8) : List UInt8 :=
  if keep b then [b] else [37, hexDigit (b.toNat / 16), hexDigit (b.toNat % 16)]

/-- A text with every byte encoded that is not kept. -/
def encode (s : List UInt8) : List UInt8 := s.flatMap (encodeByte keep)

end

/-- The text that an encoded text stands for. -/
def decode : List UInt8 → List UInt8
  | [] => []
  | [b] => [b]
  | [b, c] => [b, c]
  | b :: c :: d :: s =>
    if b = 37 then
      match hexValue c, hexValue d with
      | some m, some n => UInt8.ofNat (16 * m + n) :: decode s
      | _, _ => b :: decode (c :: d :: s)
    else b :: decode (c :: d :: s)

variable {keep : UInt8 → Bool}

theorem decode_cons {b : UInt8} (h : b ≠ 37) (s : List UInt8) :
    decode (b :: s) = b :: decode s := by
  rcases s with - | ⟨c, - | ⟨d, s⟩⟩
  · rfl
  · rfl
  · rw [decode, if_neg h]

theorem decode_encodeByte_append (hkeep : keep 37 = false) (b : UInt8) (s : List UInt8) :
    decode (encodeByte keep b ++ s) = b :: decode s := by
  rw [encodeByte]
  split_ifs with hb
  · refine decode_cons ?_ s
    rintro rfl
    rw [hkeep] at hb
    exact absurd hb (by decide)
  · have hlt := b.toNat_lt
    have hhigh := hexValue_hexDigit (n := b.toNat / 16) (by omega)
    have hlow := hexValue_hexDigit (n := b.toNat % 16) (by omega)
    have hsum : 16 * (b.toNat / 16) + b.toNat % 16 = b.toNat := Nat.div_add_mod b.toNat 16
    rw [List.cons_append, List.cons_append, List.singleton_append, decode, if_pos rfl, hhigh, hlow]
    simp only [hsum, UInt8.ofNat_toNat]

/-- **An encoded text is read as the text**, whatever stands behind it. -/
theorem decode_encode_append (hkeep : keep 37 = false) (s t : List UInt8) :
    decode (encode keep s ++ t) = s ++ decode t := by
  induction s with
  | nil => rfl
  | cons b s ih =>
    rw [encode, List.flatMap_cons, List.append_assoc, decode_encodeByte_append hkeep,
      ← encode, ih, List.cons_append]

/-- A byte that is neither kept nor used for the encoding itself does not occur. -/
theorem not_mem_encode {b : UInt8} (hkeep : keep b = false) (hb : b ≠ 37)
    (hhex : hexValue b = none) (s : List UInt8) : b ∉ encode keep s := by
  have hdigit : ∀ n, n < 16 → b ≠ hexDigit n := by
    rintro n hn rfl
    rw [hexValue_hexDigit hn] at hhex
    exact Option.some_ne_none n hhex
  intro hmem
  obtain ⟨c, -, hc⟩ := List.mem_flatMap.mp hmem
  have hlt := c.toNat_lt
  rw [encodeByte] at hc
  split_ifs at hc with hkc
  · rw [List.mem_singleton] at hc
    rw [← hc, hkeep] at hkc
    exact absurd hkc (by decide)
  · simp only [List.mem_cons, List.not_mem_nil, or_false] at hc
    rcases hc with hc | hc | hc
    · exact hb hc
    · exact hdigit _ (by omega) hc
    · exact hdigit _ (by omega) hc

/-! ## Splitting -/

section

variable {α : Type} [BEq α] [LawfulBEq α]

theorem splitOn_append_of_not_mem {a : α} {s : List α} (h : a ∉ s) (t : List α) :
    (s ++ t).splitOn a = (t.splitOn a).modifyHead (s ++ ·) := by
  induction s with
  | nil =>
    obtain ⟨u, us, hu⟩ := List.exists_cons_of_ne_nil (List.splitOn_ne_nil a t)
    rw [List.nil_append, hu]
    rfl
  | cons b s ih =>
    rw [List.mem_cons, not_or] at h
    obtain ⟨hb, hs⟩ := h
    have hne : (b == a) = false := beq_eq_false_iff_ne.mpr (Ne.symm hb)
    rw [List.cons_append, List.splitOn_cons_eq_if_modifyHead, hne, ih hs]
    simp [List.modifyHead_modifyHead, Function.comp_def]

omit [LawfulBEq α] in
theorem length_splitOn (a : α) (s : List α) : (s.splitOn a).length = s.count a + 1 := by
  induction s with
  | nil => rfl
  | cons b s ih =>
    rw [List.splitOn_cons_eq_if_modifyHead, List.count_cons]
    split_ifs with h
    · rw [List.length_cons, ih]
    · rw [List.length_modifyHead, ih]

omit [LawfulBEq α] in
theorem mem_of_mem_splitOn {a b : α} {s t : List α} (ht : t ∈ s.splitOn a) (hb : b ∈ t) :
    b ∈ s := by
  induction s generalizing t with
  | nil =>
    obtain rfl : t = [] := List.mem_singleton.mp ht
    exact hb
  | cons c s ih =>
    rw [List.splitOn_cons_eq_if_modifyHead] at ht
    obtain ⟨u, us, hu⟩ := List.exists_cons_of_ne_nil (List.splitOn_ne_nil a s)
    rw [hu] at ih ht
    split_ifs at ht with hc
    · rcases List.mem_cons.mp ht with rfl | ht
      · exact absurd hb List.not_mem_nil
      · exact List.mem_cons_of_mem c (ih ht hb)
    · rcases List.mem_cons.mp ht with rfl | ht
      · rcases List.mem_cons.mp hb with rfl | hb
        · exact List.mem_cons_self
        · exact List.mem_cons_of_mem c (ih List.mem_cons_self hb)
      · exact List.mem_cons_of_mem c (ih (List.mem_cons_of_mem u ht) hb)

theorem not_mem_of_mem_splitOn {a : α} {s t : List α} (ht : t ∈ s.splitOn a) : a ∉ t := by
  induction s generalizing t with
  | nil =>
    obtain rfl : t = [] := List.mem_singleton.mp ht
    exact List.not_mem_nil
  | cons c s ih =>
    rw [List.splitOn_cons_eq_if_modifyHead] at ht
    obtain ⟨u, us, hu⟩ := List.exists_cons_of_ne_nil (List.splitOn_ne_nil a s)
    rw [hu] at ih ht
    split_ifs at ht with hc
    · rcases List.mem_cons.mp ht with rfl | ht
      · exact List.not_mem_nil
      · exact ih ht
    · rcases List.mem_cons.mp ht with rfl | ht
      · rw [List.mem_cons, not_or]
        exact ⟨fun ha ↦ hc (beq_iff_eq.mpr ha.symm), ih List.mem_cons_self⟩
      · exact ih (List.mem_cons_of_mem u ht)

/-- What is no separator is in one of the pieces. -/
theorem exists_mem_splitOn {a b : α} (hne : b ≠ a) {s : List α} (h : b ∈ s) :
    ∃ t ∈ s.splitOn a, b ∈ t := by
  induction s with
  | nil => exact absurd h List.not_mem_nil
  | cons c s ih =>
    rw [List.splitOn_cons_eq_if_modifyHead]
    obtain ⟨t, ts, hts⟩ := List.exists_cons_of_ne_nil (List.splitOn_ne_nil a s)
    rw [hts] at ih ⊢
    rcases List.mem_cons.mp h with rfl | hmem
    · rw [if_neg fun hb ↦ hne (eq_of_beq hb)]
      exact ⟨b :: t, List.mem_cons_self, List.mem_cons_self⟩
    · obtain ⟨u, hu, hb⟩ := ih hmem
      split_ifs with hc
      · exact ⟨u, List.mem_cons_of_mem _ hu, hb⟩
      · rcases List.mem_cons.mp hu with rfl | hu
        · exact ⟨c :: u, List.mem_cons_self, List.mem_cons_of_mem _ hb⟩
        · exact ⟨u, List.mem_cons_of_mem _ hu, hb⟩

end

/-! ## Paths in parts -/

/-- A byte of the literal text, or an argument that is encoded or written as it is. -/
inductive Part where
  | byte (b : UInt8)
  | encoded (s : List UInt8)
  | raw (s : List UInt8)
  deriving DecidableEq

/-- What is written for a part. -/
def Part.render (keep : UInt8 → Bool) : Part → List UInt8
  | .byte b => [b]
  | .encoded s => encode keep s
  | .raw s => s

/-- What a part stands for. -/
def Part.value : Part → List UInt8
  | .byte b => [b]
  | .encoded s => s
  | .raw s => s

/-- The bytes of a path. -/
def render (keep : UInt8 → Bool) (l : List Part) : List UInt8 := l.flatMap (Part.render keep)

/-- What a path, or a piece of it, stands for. -/
def value : List Part → List UInt8
  | [] => []
  | [x] => x.value
  | x :: y :: l => x.value ++ value (y :: l)

theorem value_cons (x : Part) (l : List Part) : value (x :: l) = x.value ++ value l := by
  rcases l with - | ⟨y, l⟩
  · exact (List.append_nil _).symm
  · rfl

/-- The arguments that are written as they are. -/
def raws : List Part → List (List UInt8)
  | [] => []
  | .raw s :: l => s :: raws l
  | .byte _ :: l => raws l
  | .encoded _ :: l => raws l

theorem mem_raws {s : List UInt8} {l : List Part} : s ∈ raws l ↔ Part.raw s ∈ l := by
  induction l with
  | nil => simp [raws]
  | cons x l ih => rcases x with b | t | t <;> simp [raws, ih]

theorem render_cons (x : Part) (l : List Part) :
    render keep (x :: l) = x.render keep ++ render keep l := rfl

/-- The bytes that separate the parts of a path: not kept, and not used by the encoding. -/
def IsDelimiter (keep : UInt8 → Bool) (b : UInt8) : Prop :=
  keep b = false ∧ b ≠ 37 ∧ hexValue b = none

theorem IsDelimiter.not_mem_encode {b : UInt8} (h : IsDelimiter keep b) (s : List UInt8) :
    b ∉ encode keep s :=
  PercentEncoding.not_mem_encode h.1 h.2.1 h.2.2 s

/-- A delimiter comes from the literal text or from an argument written as it is. -/
theorem count_render {b : UInt8} (h : IsDelimiter keep b) (l : List Part) :
    (render keep l).count b = l.count (.byte b) + ((raws l).map (List.count b)).sum := by
  induction l with
  | nil => rfl
  | cons x l ih =>
    rw [render_cons, List.count_append, ih]
    rcases x with c | s | s
    · have hone : List.count b [c] = if c = b then 1 else 0 := by simp [List.count_singleton]
      have hbyte : (Part.byte c :: l).count (.byte b) =
          l.count (.byte b) + if c = b then 1 else 0 := by simp [List.count_cons]
      rw [Part.render, hone, hbyte, raws]
      omega
    · rw [Part.render, List.count_eq_zero.mpr (h.not_mem_encode s), List.count_cons, raws]
      simp
    · rw [Part.render, List.count_cons, raws, List.map_cons, List.sum_cons]
      simp only [reduceCtorEq, beq_iff_eq, if_false]
      omega

theorem mem_render {b : UInt8} (h : IsDelimiter keep b) (l : List Part) :
    b ∈ render keep l ↔ Part.byte b ∈ l ∨ ∃ s ∈ raws l, b ∈ s := by
  have hcount := count_render h l
  rw [← List.count_pos_iff, hcount, ← List.count_pos_iff (a := Part.byte b)]
  constructor
  · intro hpos
    by_cases hl : 0 < l.count (.byte b)
    · exact Or.inl hl
    · have hsum : 0 < ((raws l).map (List.count b)).sum := by omega
      obtain ⟨n, hn, hpos⟩ := List.sum_pos_iff_exists_pos_nat.mp hsum
      obtain ⟨s, hs, rfl⟩ := List.mem_map.mp hn
      exact Or.inr ⟨s, hs, List.count_pos_iff.mp hpos⟩
  · rintro (hl | ⟨s, hs, hb⟩)
    · omega
    · have hsum : 0 < ((raws l).map (List.count b)).sum :=
        List.sum_pos_iff_exists_pos_nat.mpr
          ⟨s.count b, List.mem_map_of_mem hs, List.count_pos_iff.mpr hb⟩
      omega

/-- As long as no argument brings a separator, splitting the bytes is splitting the parts. -/
theorem splitOn_render {b : UInt8} (h : IsDelimiter keep b) {l : List Part}
    (hraws : ∀ s ∈ raws l, b ∉ s) :
    (render keep l).splitOn b = (l.splitOn (.byte b)).map (render keep) := by
  induction l with
  | nil => rfl
  | cons x l ih =>
    have hl := ih fun s hs ↦ hraws s (mem_raws.mpr (List.mem_cons_of_mem x (mem_raws.mp hs)))
    obtain ⟨t, ts, hts⟩ := List.exists_cons_of_ne_nil (List.splitOn_ne_nil (Part.byte b) l)
    rw [render_cons, List.splitOn_cons_eq_if_modifyHead]
    by_cases hx : x = .byte b
    · subst hx
      rw [if_pos (beq_self_eq_true _), Part.render, List.singleton_append,
        List.splitOn_cons_eq_if_modifyHead, if_pos (beq_self_eq_true _), hl]
      rfl
    · have hmem : b ∉ x.render keep := by
        rcases x with c | s | s
        · rw [Part.render, List.mem_singleton]
          rintro rfl
          exact hx rfl
        · exact h.not_mem_encode s
        · exact hraws s List.mem_cons_self
      rw [if_neg (by simpa using hx), splitOn_append_of_not_mem hmem, hl, hts]
      rfl

/-- Does an argument written as it is fill the piece of the path it is in? -/
def Alone (l : List Part) : Prop := raws l = [] ∨ ∃ s, l = [.raw s]

theorem decode_render {l : List Part} (hkeep : keep 37 = false) (h : Part.byte 37 ∉ l)
    (hraws : raws l = []) : decode (render keep l) = value l := by
  induction l with
  | nil => rfl
  | cons x l ih =>
    rw [List.mem_cons, not_or] at h
    obtain ⟨hx, hl⟩ := h
    rcases x with b | s | s
    · have hb : b ≠ 37 := fun hb ↦ hx (by rw [hb])
      rw [render_cons, Part.render, List.singleton_append, decode_cons hb, ih hl hraws, value_cons]
      rfl
    · rw [render_cons, Part.render, decode_encode_append hkeep, ih hl hraws, value_cons]
      rfl
    · exact absurd hraws (List.cons_ne_nil s _)

/-- **What a reader finds between the separators is what the parts stand for, exactly if every
argument written as it is has no separator in it and reads as itself.** -/
theorem decode_splitOn_render_iff {b : UInt8} (hkeep : keep 37 = false) (hb : IsDelimiter keep b)
    {l : List Part} (htext : Part.byte 37 ∉ l) (halone : ∀ t ∈ l.splitOn (.byte b), Alone t) :
    ((render keep l).splitOn b).map decode = (l.splitOn (.byte b)).map value ↔
      ∀ s ∈ raws l, b ∉ s ∧ decode s = s := by
  have hsub : ∀ t ∈ l.splitOn (.byte b), Part.byte 37 ∉ t := fun t ht hmem ↦
    htext (mem_of_mem_splitOn ht hmem)
  constructor
  · intro heq
    have hlen := congrArg List.length heq
    rw [List.length_map, List.length_map, length_splitOn, length_splitOn, count_render hb] at hlen
    have hzero : ((raws l).map (List.count b)).sum = 0 := by omega
    have hsep : ∀ s ∈ raws l, b ∉ s := fun s hs ↦ List.count_eq_zero.mp
      (List.sum_eq_zero_iff_forall_eq_nat.mp hzero _ (List.mem_map_of_mem hs))
    refine fun s hs ↦ ⟨hsep s hs, ?_⟩
    rw [splitOn_render hb hsep, List.map_map] at heq
    obtain ⟨t, ht, hst⟩ := exists_mem_splitOn (a := Part.byte b) (by simp) (mem_raws.mp hs)
    have hread : decode (render keep t) = value t := List.map_inj_left.mp heq t ht
    rcases halone t ht with hnone | ⟨s', rfl⟩
    · rw [← mem_raws, hnone] at hst
      exact absurd hst List.not_mem_nil
    · obtain rfl : s = s' := by simpa using hst
      simpa [render, value, Part.render, Part.value] using hread
  · intro hraws
    rw [splitOn_render hb fun s hs ↦ (hraws s hs).1, List.map_map]
    refine List.map_congr_left fun t ht ↦ ?_
    rcases halone t ht with hnone | ⟨s, rfl⟩
    · exact decode_render hkeep (hsub t ht) hnone
    · have hs : s ∈ raws l := mem_raws.mpr (mem_of_mem_splitOn ht (List.mem_singleton_self _))
      simpa [render, value, Part.render, Part.value] using (hraws s hs).2

end PercentEncoding
