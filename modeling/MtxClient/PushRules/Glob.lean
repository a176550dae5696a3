import MtxClient.Lib.RegExp
import MtxClient.PushRules.EventMatch

/-!
# Patterns as globs

The pattern of a condition is a glob: `*` stands for any characters, `?` for one character, and
every other character for itself.  `construct_re_from_pattern` makes a regular expression of it by
escaping the whole pattern and then replacing the escaped wildcards.

The expression it looks for is written `"\\*"` in the source, which is the expression `\*` for the
character `*`, and not for the two characters `\*` that a wildcard has become by then.  So the
backslash stays, and the expression for a wildcard is that for a literal dot.  `globs_iff` says that
only patterns without wildcards keep their meaning.

What RE2 does is assumed as it is documented (`Re2.Documented`), for texts given as characters.
-/

set_option autoImplicit false

namespace Mtx.PushRules

open Str RegExp

/-- The bytes of a text. -/
def utf8 (s : List Char) : Str := lit (String.ofList s)

@[simp] theorem utf8_inj {s t : List Char} : utf8 s = utf8 t ↔ s = t := by
  rw [utf8, utf8, lit_eq_lit, String.ofList_inj]

theorem utf8_append (s t : List Char) : utf8 (s ++ t) = utf8 s ++ utf8 t := by
  rw [utf8, String.ofList_append, lit, String.toUTF8_eq_toByteArray, String.toByteArray_append]
  exact ByteArray.toList_data_append

/-! ## Globs -/

/-- The whole text matches the glob. -/
def GlobMatches (f : CaseFolding) : List Char → List Char → Prop
  | [], s => s = []
  | c :: p, s =>
    if c = '*' then ∃ t u, s = t ++ u ∧ GlobMatches f p u
    else if c = '?' then ∃ d u, s = d :: u ∧ GlobMatches f p u
    else ∃ d u, s = d :: u ∧ f.fold d = f.fold c ∧ GlobMatches f p u

/-- A part of the text between non-word characters or the ends of the text matches the glob. -/
def GlobMatchesWord (f : CaseFolding) (p text : List Char) : Prop :=
  ∃ before s after, text = before ++ s ++ after ∧ GlobMatches f p s ∧ Bounded f before after

/-- `*` or `?`. -/
def isWildcard (c : Char) : Bool := c == '*' || c == '?'

/-- The text that the pattern is, with an `x` for each wildcard. -/
def fill (p : List Char) : List Char := p.map fun c ↦ if isWildcard c then 'x' else c

/-- The characters that stand for themselves. -/
def literals (p : List Char) : List Char := p.filter fun c ↦ !isWildcard c

variable {f : CaseFolding}

theorem globMatches_fill (p : List Char) : GlobMatches f p (fill p) := by
  induction p with
  | nil => rfl
  | cons c p ih =>
    rw [GlobMatches]
    split_ifs with h1 h2
    · exact ⟨['x'], fill p, by simp [fill, isWildcard, h1], ih⟩
    · exact ⟨'x', fill p, by simp [fill, isWildcard, h2], ih⟩
    · exact ⟨c, fill p, by simp [fill, isWildcard, h1, h2], rfl, ih⟩

theorem countP_fill (p : List Char) (q : Char → Bool) :
    (fill p).countP q = (literals p).countP q + if q 'x' then p.countP isWildcard else 0 := by
  induction p with
  | nil => simp [fill, literals]
  | cons c p ih =>
    rw [fill, literals] at ih ⊢
    rw [List.map_cons, List.countP_cons, ih, List.filter_cons, List.countP_cons]
    cases isWildcard c <;> cases hx : q 'x' <;> simp [hx, List.countP_cons] <;> omega

/-! ## RE2 as it is documented -/

/-- `RE2::QuoteMeta` of a character. -/
def quoteChar (c : Char) : List Char :=
  if c.isAsciiWord ∨ 128 ≤ c.toNat then [c]
  else if c = '\x00' then ['\\', 'x', '0', '0']
  else ['\\', c]

/-- The case folding of an expression. -/
def foldingOf (f : CaseFolding) (case_sensitive : Bool) : CaseFolding :=
  if case_sensitive then .sensitive else f

/-- What the evaluator relies on: RE2 reads expressions as `RegExp.parse` does and finds their
matches. -/
structure Re2.Documented (re2 : Re2) (f : CaseFolding) : Prop where
  quoteMeta : ∀ s, re2.quoteMeta (utf8 s) = utf8 (s.flatMap quoteChar)
  /-- An expression that is a single character is replaced wherever it occurs. -/
  globalReplace : ∀ e c text rewrite, parse e = some (.char c) → '\\' ∉ rewrite →
    re2.globalReplace (utf8 text) { pattern := utf8 e } (utf8 rewrite) =
      utf8 (text.flatMap fun d ↦ if d = c then rewrite else [d])
  fullMatch : ∀ e r case_sensitive text, parse e = some r →
    (re2.fullMatch (utf8 text) { pattern := utf8 e, case_sensitive } = true ↔
      r.FullMatch (foldingOf f case_sensitive) text)
  partialMatch : ∀ e r case_sensitive text, parse e = some r →
    (re2.partialMatch (utf8 text) { pattern := utf8 e, case_sensitive } = true ↔
      r.PartialMatch (foldingOf f case_sensitive) text)

/-! ## The expression of a pattern -/

/-- What becomes of a character of the pattern. -/
def globChar (c : Char) : List Char :=
  if c = '*' then ['\\', '.', '*'] else if c = '?' then ['\\', '.'] else quoteChar c

/-- What RE2 makes of it. -/
def globPiece (c : Char) : RegExp :=
  if c = '*' then .star (.char '.') else if c = '?' then .char '.' else .char c

/-- Replacing the escaped wildcards in an escaped pattern. -/
theorem replace_quoteChar (c : Char) :
    ((quoteChar c).flatMap fun d ↦ if d = '*' then ['.', '*'] else [d]).flatMap
      (fun d ↦ if d = '?' then ['.'] else [d]) = globChar c := by
  by_cases h1 : c = '*'
  · subst h1; decide
  · by_cases h2 : c = '?'
    · subst h2; decide
    · rw [globChar, if_neg h1, if_neg h2, quoteChar]
      split_ifs <;> simp [h1, h2]

variable {re2 : Re2}

/-- **The expression of a pattern, character by character.** -/
theorem constructReFromPattern_eq (h : re2.Documented f) (p : List Char) (field : Str) :
    constructReFromPattern re2 (utf8 p) field =
      { pattern := utf8 (if field = lit "content.body"
          then "(\\W|^)".toList ++ p.flatMap globChar ++ "(\\W|$)".toList
          else p.flatMap globChar)
        case_sensitive := false } := by
  have hstar : re2.globalReplace (utf8 (p.flatMap quoteChar)) { pattern := lit "\\*" } (lit ".*") =
      utf8 ((p.flatMap quoteChar).flatMap fun d ↦ if d = '*' then ['.', '*'] else [d]) :=
    h.globalReplace ['\\', '*'] '*' _ ['.', '*'] (by decide) (by decide)
  have hquest := fun s ↦ h.globalReplace ['\\', '?'] '?' s ['.'] (by decide) (by decide)
  have hpat : re2.globalReplace (re2.globalReplace (re2.quoteMeta (utf8 p)) { pattern := lit "\\*" }
      (lit ".*")) { pattern := lit "\\?" } (lit ".") = utf8 (p.flatMap globChar) := by
    rw [h.quoteMeta, hstar]
    refine (hquest _).trans ?_
    rw [List.flatMap_assoc, List.flatMap_assoc]
    exact congrArg utf8 (congrArg (p.flatMap ·) (funext fun c ↦ by
      rw [← List.flatMap_assoc, replace_quoteChar]))
  rw [constructReFromPattern, hpat]
  split_ifs
  · rw [wordRegex, utf8_append, utf8_append]
    rfl
  · rfl

theorem reads_globChar (c : Char) : Reads (globChar c) [globPiece c] := by
  rw [globChar, globPiece]
  split_ifs with h1 h2
  · exact fun alts pieces gs rest ↦ rfl
  · exact fun alts pieces gs rest ↦ rfl
  · rw [quoteChar]
    split_ifs with hword hzero
    · refine reads_plain fun hmem ↦ ?_
      simp only [List.mem_cons, List.not_mem_nil, or_false] at hmem
      rcases hmem with rfl | rfl | rfl | rfl | rfl | rfl | rfl | rfl | rfl | rfl | rfl | rfl <;>
        revert hword <;> decide
    · subst hzero
      exact fun alts pieces gs rest ↦ rfl
    · rw [not_or, Char.isAsciiWord, Bool.or_eq_true, not_or] at hword
      exact reads_escaped (by omega) (by simpa using hword.1.1)

theorem reads_pattern (p : List Char) : Reads (p.flatMap globChar) (p.map globPiece) :=
  Reads.flatMap reads_globChar p

theorem parse_pattern (p : List Char) :
    parse (p.flatMap globChar) = some (concat (p.map globPiece)) := (reads_pattern p).parse_eq

theorem parse_word_pattern (p : List Char) :
    parse ("(\\W|^)".toList ++ p.flatMap globChar ++ "(\\W|$)".toList) =
      some (concat (.alt .notWord .bot :: (p.map globPiece ++ [.alt .notWord .eot]))) := by
  have hbegin : Reads "(\\W|^)".toList [.alt .notWord .bot] := fun alts pieces gs rest ↦ rfl
  have hend : Reads "(\\W|$)".toList [.alt .notWord .eot] := fun alts pieces gs rest ↦ rfl
  rw [((hbegin.append (reads_pattern p)).append hend).parse_eq]
  rfl

/-- What a compiled pattern accepts. -/
theorem textMatches_iff (h : re2.Documented f) (p : List Char) (field : Str) (text : List Char) :
    textMatches re2 (utf8 p) field (utf8 text) = true ↔
      if field = lit "content.body" then
        ∃ before s after, text = before ++ s ++ after ∧
          Matches f (concat (p.map globPiece)) before s after ∧ Bounded f before after
      else Matches f (concat (p.map globPiece)) [] text [] := by
  rw [textMatches, constructReFromPattern_eq h]
  split_ifs
  · exact (h.partialMatch _ _ false text (parse_word_pattern p)).trans partialMatch_word_iff
  · exact h.fullMatch _ _ false text (parse_pattern p)

/-! ## Patterns without wildcards -/

variable {before s after : List Char}

theorem eq_of_fold_newline {d : Char} (h : f.fold d = f.fold '\n') : d = '\n' :=
  f.eq_of_fold_eq '\n' d (by decide) (by decide) h

theorem eq_of_fold_dot {d : Char} (h : f.fold d = f.fold '.') : d = '.' :=
  f.eq_of_fold_eq '.' d (by decide) (by decide) h

/-- Without wildcards the expression matches what the glob matches. -/
theorem matches_literals_iff {p : List Char} (hp : '*' ∉ p ∧ '?' ∉ p) :
    Matches f (concat (p.map globPiece)) before s after ↔ GlobMatches f p s := by
  induction p generalizing before s with
  | nil => exact matches_empty_iff
  | cons c p ih =>
    simp only [List.mem_cons, not_or] at hp
    rw [List.map_cons, matches_concat_cons_iff, GlobMatches, if_neg (Ne.symm hp.1.1),
      if_neg (Ne.symm hp.2.1), globPiece, if_neg (Ne.symm hp.1.1), if_neg (Ne.symm hp.2.1)]
    constructor
    · rintro ⟨t, u, rfl, hc, hmatch⟩
      obtain ⟨d, rfl, hd⟩ := matches_char_iff.mp hc
      exact ⟨d, u, rfl, hd, (ih ⟨hp.1.2, hp.2.2⟩).mp hmatch⟩
    · rintro ⟨d, u, rfl, hd, hmatch⟩
      exact ⟨[d], u, rfl, .char hd, (ih ⟨hp.1.2, hp.2.2⟩).mpr hmatch⟩

/-- A line end in the pattern asks for a line end in the text. -/
theorem newline_mem_of_matches {p : List Char} (hp : '\n' ∈ p)
    (h : Matches f (concat (p.map globPiece)) before s after) : '\n' ∈ s := by
  induction p generalizing before s with
  | nil => cases hp
  | cons c p ih =>
    obtain ⟨t, u, rfl, hc, h⟩ := matches_concat_cons_iff.mp h
    rcases List.mem_cons.mp hp with rfl | hp
    · obtain ⟨d, rfl, hd⟩ := matches_char_iff.mp hc
      exact List.mem_append_left _ (List.mem_singleton.mpr (eq_of_fold_newline hd).symm)
    · exact List.mem_append_right _ (ih hp h)

theorem newline_mem_of_globMatches {p : List Char} (hp : '\n' ∈ p) (h : GlobMatches f p s) :
    '\n' ∈ s := by
  induction p generalizing s with
  | nil => cases hp
  | cons c p ih =>
    have hrest : ∀ t u, s = t ++ u → '\n' ∈ p → GlobMatches f p u → '\n' ∈ s := by
      rintro t u rfl hp h
      exact List.mem_append_right _ (ih hp h)
    rw [GlobMatches] at h
    split_ifs at h with h1 h2
    · obtain ⟨t, u, hs, h⟩ := h
      exact hrest t u hs ((List.mem_cons.mp hp).resolve_left (by rw [h1]; decide)) h
    · obtain ⟨d, u, hs, h⟩ := h
      exact hrest [d] u hs ((List.mem_cons.mp hp).resolve_left (by rw [h2]; decide)) h
    · obtain ⟨d, u, hs, hd, h⟩ := h
      rcases List.mem_cons.mp hp with rfl | hp
      · rw [hs, eq_of_fold_newline hd]
        exact List.mem_cons_self
      · exact hrest [d] u hs hp h

/-! ## Patterns with wildcards -/

theorem countP_eq_length_of_forall {q : Char → Bool} {c : Char}
    (hq : ∀ a b, f.fold a = f.fold b → q a = q b) (hs : ∀ d ∈ s, f.fold d = f.fold c) :
    s.countP q = if q c then s.length else 0 := by
  split_ifs with hc
  · exact List.countP_eq_length.mpr fun d hd ↦ (hq d c (hs d hd)).trans hc
  · exact List.countP_eq_zero.mpr fun d hd ↦ by rw [hq d c (hs d hd)]; exact hc

/-- What the expression matches has the characters of the pattern that stand for themselves, and
some dots. -/
theorem exists_dots {p : List Char} (h : Matches f (concat (p.map globPiece)) before s after) :
    ∃ k, ∀ q : Char → Bool, (∀ a b, f.fold a = f.fold b → q a = q b) →
      s.countP q = (literals p).countP q + if q '.' then k else 0 := by
  induction p generalizing before s with
  | nil =>
    obtain rfl := matches_empty_iff.mp h
    exact ⟨0, fun q _ ↦ by simp [literals]⟩
  | cons c p ih =>
    obtain ⟨t, u, rfl, hc, h⟩ := matches_concat_cons_iff.mp h
    obtain ⟨k, hk⟩ := ih h
    have hdots : isWildcard c = true → ∀ d ∈ t, f.fold d = f.fold '.' := by
      intro hw
      rcases Bool.or_eq_true_iff.mp hw with h | h <;> obtain rfl := beq_iff_eq.mp h
      · exact matches_star_char_iff.mp hc
      · obtain ⟨d, rfl, hd⟩ := matches_char_iff.mp hc
        exact List.forall_mem_singleton.mpr hd
    rcases hw : isWildcard c with - | -
    · have hpiece : globPiece c = .char c := by
        rw [isWildcard, Bool.or_eq_false_iff, beq_eq_false_iff_ne, beq_eq_false_iff_ne] at hw
        rw [globPiece, if_neg hw.1, if_neg hw.2]
      obtain ⟨d, rfl, hd⟩ := matches_char_iff.mp (hpiece ▸ hc)
      have hlits : literals (c :: p) = c :: literals p :=
        List.filter_cons_of_pos (by rw [hw]; rfl)
      refine ⟨k, fun q hq ↦ ?_⟩
      rw [List.countP_append, hk q hq, List.countP_singleton, hq d c hd, hlits, List.countP_cons]
      omega
    · have hlits : literals (c :: p) = literals p :=
        List.filter_cons_of_neg (by rw [hw]; decide)
      refine ⟨t.length + k, fun q hq ↦ ?_⟩
      rw [List.countP_append, hk q hq, countP_eq_length_of_forall hq (hdots hw), hlits]
      split_ifs <;> omega

/-- Is it a variant of `c`? -/
def isVariant (f : CaseFolding) (c d : Char) : Bool := f.fold d == f.fold c

theorem isVariant_congr (c : Char) {a b : Char} (h : f.fold a = f.fold b) :
    isVariant f c a = isVariant f c b := by
  rw [isVariant, isVariant, h]

theorem fold_dot_ne_fold_x : f.fold '.' ≠ f.fold 'x' := fun h ↦
  absurd (eq_of_fold_dot h.symm) (by decide)

/-- The expression of a pattern with wildcards does not occur as a word in the text that has an `x`
for each of them. -/
theorem not_matches_in_fill {p : List Char} (hp : p.countP isWildcard ≠ 0)
    (h : fill p = before ++ s ++ after) (hbounded : Bounded f before after) :
    ¬ Matches f (concat (p.map globPiece)) before s after := by
  intro hmatch
  obtain ⟨k, hk⟩ := exists_dots hmatch
  have hcount := fun q ↦ (countP_fill p q).symm.trans (congrArg (List.countP q) h)
  simp only [List.countP_append] at hcount
  have hdots := hcount (isVariant f '.')
  have hx := hcount (isVariant f 'x')
  have hall := hcount fun _ ↦ true
  rw [hk _ fun a b ↦ isVariant_congr '.'] at hdots
  rw [hk _ fun a b ↦ isVariant_congr 'x'] at hx
  rw [hk _ fun _ _ _ ↦ rfl] at hall
  have hxdot : isVariant f '.' 'x' = false := beq_eq_false_iff_ne.mpr fold_dot_ne_fold_x.symm
  have hdotx : isVariant f 'x' '.' = false := beq_eq_false_iff_ne.mpr fold_dot_ne_fold_x
  have hdotdot : isVariant f '.' '.' = true := beq_self_eq_true _
  have hxx : isVariant f 'x' 'x' = true := beq_self_eq_true _
  simp only [hxdot, hdotx, hdotdot, hxx, if_true, Bool.false_eq_true, if_false] at hdots hx hall
  rw [List.countP_true] at hall
  -- around the match there is nothing but variants of `x`, at least one of them
  have hbefore := List.countP_le_length (p := isVariant f 'x') (l := before)
  have hafter := List.countP_le_length (p := isVariant f 'x') (l := after)
  have hword : ∀ c : Char, isVariant f 'x' c = true → f.IsWord c := fun c hc ↦
    ⟨'x', by decide, (beq_iff_eq.mp hc).symm⟩
  have hbeforeall : ∀ c ∈ before, isVariant f 'x' c = true :=
    List.countP_eq_length.mp (by omega)
  have hafterall : ∀ c ∈ after, isVariant f 'x' c = true :=
    List.countP_eq_length.mp (by omega)
  rcases List.eq_nil_or_concat' before with rfl | ⟨l, c, rfl⟩
  · rcases after with - | ⟨c, l⟩
    · simp at hx hall hdots
      omega
    · exact hbounded.2 c rfl (hword c (hafterall c List.mem_cons_self))
  · exact hbounded.1 c List.getLast?_concat (hword c (hbeforeall c (by simp)))

/-- **When patterns are globs.**  A compiled pattern accepts the newline-free texts that match the
glob, if and only if the glob has no wildcards (or matches no newline-free text, because it has a
line end itself). -/
theorem globs_iff (re2 : Re2) (f : CaseFolding) (h : re2.Documented f) (p : List Char)
    (field : Str) :
    (∀ text, '\n' ∉ text → (textMatches re2 (utf8 p) field (utf8 text) = true ↔
      if field = lit "content.body" then GlobMatchesWord f p text else GlobMatches f p text)) ↔
    ('*' ∉ p ∧ '?' ∉ p) ∨ '\n' ∈ p := by
  constructor
  · intro hglob
    by_contra hp
    rw [not_or] at hp
    have hwild : p.countP isWildcard ≠ 0 := by
      rw [Ne, List.countP_eq_zero]
      intro hnone
      exact hp.1 ⟨fun hmem ↦ hnone _ hmem (by decide), fun hmem ↦ hnone _ hmem (by decide)⟩
    have hnewline : '\n' ∉ fill p := by
      rw [fill, List.mem_map]
      rintro ⟨c, hc, heq⟩
      split_ifs at heq
      · exact absurd heq (by decide)
      · exact hp.2 (heq ▸ hc)
    have hfill := hglob (fill p) hnewline
    rw [textMatches_iff h] at hfill
    split_ifs at hfill
    · obtain ⟨before, s, after, htext, hmatch, hbounded⟩ := hfill.mpr
        ⟨[], fill p, [], by simp, globMatches_fill p, by simp [Bounded]⟩
      exact not_matches_in_fill hwild htext hbounded hmatch
    · exact not_matches_in_fill hwild (by simp) (by simp [Bounded])
        (hfill.mpr (globMatches_fill p))
  · rintro (hp | hp) text htext <;> rw [textMatches_iff h]
    · split_ifs
      · simp only [GlobMatchesWord, matches_literals_iff hp]
      · exact matches_literals_iff hp
    · split_ifs
      · refine iff_of_false ?_ ?_
        · rintro ⟨before, s, after, rfl, hmatch, -⟩
          have := newline_mem_of_matches hp hmatch
          simp [this] at htext
        · rintro ⟨before, s, after, rfl, hmatch, -⟩
          have := newline_mem_of_globMatches hp hmatch
          simp [this] at htext
      · exact iff_of_false (fun hmatch ↦ htext (newline_mem_of_matches hp hmatch))
          fun hmatch ↦ htext (newline_mem_of_globMatches hp hmatch)

/-! ## Examples -/

theorem isAlpha_lower {d : Char} (h : d.isUpper = true) :
    (Char.ofNat (d.toNat + 32)).isAlpha = true := by
  have hall : ∀ n < 91, 65 ≤ n → (Char.ofNat (n + 32)).isAlpha = true := by decide
  have hrange : 65 ≤ d.toNat ∧ d.toNat ≤ 90 := by
    obtain ⟨hlow, hhigh⟩ := of_decide_eq_true h
    exact ⟨UInt32.le_iff_toNat_le.mp hlow, UInt32.le_iff_toNat_le.mp hhigh⟩
  exact hall d.toNat (Nat.lt_succ_of_le hrange.2) hrange.1

/-- Upper and lower case of ASCII. -/
def asciiFolding : CaseFolding where
  fold d := if d.isUpper then Char.ofNat (d.toNat + 32) else d
  eq_of_fold_eq c d _ hc h := by
    have hupper : c.isUpper = false := (Bool.or_eq_false_iff.mp hc).1
    simp only [hupper, Bool.false_eq_true, if_false] at h
    split_ifs at h with hd
    · rw [← h, isAlpha_lower hd] at hc
      cases hc
    · exact h

/-- The text that the bytes stand for. -/
noncomputable def chars : Str → List Char := Function.invFun utf8

@[simp] theorem chars_utf8 (s : List Char) : chars (utf8 s) = s :=
  Function.leftInverse_invFun (fun _ _ h ↦ utf8_inj.mp h) s

open Classical in
/-- RE2 as it is documented. -/
noncomputable def documentedRe2 (f : CaseFolding) : Re2 where
  quoteMeta s := utf8 ((chars s).flatMap quoteChar)
  globalReplace text re rewrite :=
    match parse (chars re.pattern) with
    | some (.char c) =>
      utf8 ((chars text).flatMap fun d ↦ if d = c then chars rewrite else [d])
    | _ => text
  fullMatch text re := decide (∃ r, parse (chars re.pattern) = some r ∧
    r.FullMatch (foldingOf f re.case_sensitive) (chars text))
  partialMatch text re := decide (∃ r, parse (chars re.pattern) = some r ∧
    r.PartialMatch (foldingOf f re.case_sensitive) (chars text))

theorem documentedRe2_documented (f : CaseFolding) : (documentedRe2 f).Documented f where
  quoteMeta s := by simp [documentedRe2]
  globalReplace e c text rewrite he _ := by simp [documentedRe2, he]
  fullMatch e r case_sensitive text he := by simp [documentedRe2, he]
  partialMatch e r case_sensitive text he := by simp [documentedRe2, he]

/-- A name is found as a word of the body. -/
theorem globs_iff_alice : (documentedRe2 asciiFolding).Documented asciiFolding ∧
    ∀ text, '\n' ∉ text →
      (textMatches (documentedRe2 asciiFolding) (utf8 "alice".toList) (lit "content.body")
        (utf8 text) = true ↔ GlobMatchesWord asciiFolding "alice".toList text) :=
  ⟨documentedRe2_documented asciiFolding, fun text htext ↦
    (globs_iff (documentedRe2 asciiFolding) asciiFolding (documentedRe2_documented asciiFolding)
      "alice".toList (lit "content.body")).mpr (Or.inl (by decide)) text htext⟩

/-- **The pattern `alice*` does not accept `alicex`**, neither as a whole text nor as a word. -/
theorem wildcard_not_glob : (documentedRe2 asciiFolding).Documented asciiFolding ∧
    GlobMatches asciiFolding "alice*".toList "alicex".toList ∧
    textMatches (documentedRe2 asciiFolding) (utf8 "alice*".toList) (lit "sender")
      (utf8 "alicex".toList) = false ∧
    GlobMatchesWord asciiFolding "alice*".toList "alicex".toList ∧
    textMatches (documentedRe2 asciiFolding) (utf8 "alice*".toList) (lit "content.body")
      (utf8 "alicex".toList) = false := by
  have hglob : GlobMatches asciiFolding "alice*".toList "alicex".toList :=
    globMatches_fill "alice*".toList
  have hwild : "alice*".toList.countP isWildcard ≠ 0 := by decide
  have hfill : fill "alice*".toList = "alicex".toList := by decide
  refine ⟨documentedRe2_documented _, hglob, ?_,
    ⟨[], _, [], by simp, hglob, by simp [Bounded]⟩, ?_⟩
  · rw [← Bool.not_eq_true, textMatches_iff (documentedRe2_documented _), if_neg (by decide)]
    exact not_matches_in_fill hwild (by rw [hfill]; simp) (by simp [Bounded])
  · rw [← Bool.not_eq_true, textMatches_iff (documentedRe2_documented _), if_pos rfl]
    rintro ⟨before, s, after, htext, hmatch, hbounded⟩
    exact not_matches_in_fill hwild (hfill.trans htext) hbounded hmatch

end Mtx.PushRules
