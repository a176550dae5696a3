import Mathlib.Data.List.Basic

/-!
# Regular expressions with anchors

The part of the syntax of regular expressions that has literals, `.`, `\W`, the anchors `^` and `$`,
groups, alternatives and `*`, what such expressions match, and a parser for it.

Because of the anchors a match depends on its surroundings: `Matches r before s after` says that
`r` matches the part `s` of the text `before ++ s ++ after`.  Upper and lower case are a parameter,
`CaseFolding`: expressions that ignore case cannot tell characters apart that fold to the same one.

`parse` reads an expression from left to right, with the open groups on a stack.  What it does with
a text that consists of pieces is said by `Reads`: a text that reads as `rs` adds the pieces `rs` to
the innermost open group, whatever follows it.
-/

set_option autoImplicit false

/-- Which characters are variants of each other in upper and lower case. -/
structure CaseFolding where
  /-- The character that stands for all its variants. -/
  fold : Char → Char
  /-- Among the ASCII characters, only letters have variants. -/
  eq_of_fold_eq : ∀ c d, c.toNat < 128 → c.isAlpha = false → fold d = fold c → d = c

/-- Case matters. -/
def CaseFolding.sensitive : CaseFolding := ⟨id, fun _ _ _ _ h ↦ h⟩

/-- A regular expression. -/
inductive RegExp where
  /-- Nothing. -/
  | empty
  /-- A character, up to case. -/
  | char (c : Char)
  /-- `.`: any character that does not end a line. -/
  | any
  /-- `\W`: any character that is no word character. -/
  | notWord
  /-- `^`: the beginning of the text. -/
  | bot
  /-- `$`: the end of the text. -/
  | eot
  | seq (r s : RegExp)
  | alt (r s : RegExp)
  | star (r : RegExp)
  deriving DecidableEq

/-! ## Matching -/

/-- A letter, a digit or an underscore of ASCII. -/
def Char.isAsciiWord (c : Char) : Bool := c.isAlphanum || c == '_'

namespace CaseFolding

variable (f : CaseFolding)

/-- A word character or a variant of one. -/
def IsWord (d : Char) : Prop := ∃ c : Char, c.isAsciiWord = true ∧ f.fold c = f.fold d

end CaseFolding

namespace RegExp

/-- The expression matches the middle one of the three parts of a text. -/
inductive Matches (f : CaseFolding) : RegExp → List Char → List Char → List Char → Prop where
  | empty {before after} : Matches f .empty before [] after
  | char {before after} {c d : Char} (h : f.fold d = f.fold c) :
    Matches f (.char c) before [d] after
  | any {before after} {d : Char} (h : d ≠ '\n') : Matches f .any before [d] after
  | notWord {before after} {d : Char} (h : ¬ f.IsWord d) : Matches f .notWord before [d] after
  | bot {after} : Matches f .bot [] [] after
  | eot {before} : Matches f .eot before [] []
  | seq {before after s t r r'} (h : Matches f r before s (t ++ after))
    (h' : Matches f r' (before ++ s) t after) : Matches f (.seq r r') before (s ++ t) after
  | altLeft {before after s r r'} (h : Matches f r before s after) :
    Matches f (.alt r r') before s after
  | altRight {before after s r r'} (h : Matches f r' before s after) :
    Matches f (.alt r r') before s after
  | starNil {before after r} : Matches f (.star r) before [] after
  | starCons {before after s t r} (h : Matches f r before s (t ++ after))
    (h' : Matches f (.star r) (before ++ s) t after) : Matches f (.star r) before (s ++ t) after

/-- The expression matches the whole text. -/
def FullMatch (f : CaseFolding) (r : RegExp) (text : List Char) : Prop := r.Matches f [] text []

/-- The expression matches a part of the text. -/
def PartialMatch (f : CaseFolding) (r : RegExp) (text : List Char) : Prop :=
  ∃ before s after, text = before ++ s ++ after ∧ r.Matches f before s after

variable {f : CaseFolding} {before s after : List Char}

theorem matches_empty_iff : Matches f .empty before s after ↔ s = [] := by
  constructor
  · rintro ⟨⟩
    rfl
  · rintro rfl
    exact .empty

theorem matches_char_iff {c : Char} :
    Matches f (.char c) before s after ↔ ∃ d, s = [d] ∧ f.fold d = f.fold c := by
  constructor
  · intro h
    cases h with
    | char h => exact ⟨_, rfl, h⟩
  · rintro ⟨d, rfl, h⟩
    exact .char h

theorem matches_seq_iff {r r' : RegExp} : Matches f (.seq r r') before s after ↔
    ∃ t t', s = t ++ t' ∧ Matches f r before t (t' ++ after) ∧
      Matches f r' (before ++ t) t' after := by
  constructor
  · intro h
    cases h with
    | seq h h' => exact ⟨_, _, rfl, h, h'⟩
  · rintro ⟨t, t', rfl, h, h'⟩
    exact .seq h h'

theorem matches_bot_iff : Matches f .bot before s after ↔ s = [] ∧ before = [] := by
  constructor
  · intro h
    cases h with
    | bot => exact ⟨rfl, rfl⟩
  · rintro ⟨rfl, rfl⟩
    exact .bot

theorem matches_eot_iff : Matches f .eot before s after ↔ s = [] ∧ after = [] := by
  constructor
  · intro h
    cases h with
    | eot => exact ⟨rfl, rfl⟩
  · rintro ⟨rfl, rfl⟩
    exact .eot

/-- A character outside of words, or something else. -/
theorem matches_notWord_or_iff {r : RegExp} : Matches f (.alt .notWord r) before s after ↔
    (∃ d, s = [d] ∧ ¬ f.IsWord d) ∨ Matches f r before s after := by
  constructor
  · intro h
    cases h with
    | altLeft h =>
      cases h with
      | notWord h => exact Or.inl ⟨_, rfl, h⟩
    | altRight h => exact Or.inr h
  · rintro (⟨d, rfl, h⟩ | h)
    · exact .altLeft (.notWord h)
    · exact .altRight h

/-- A character repeated any number of times. -/
theorem matches_star_char_iff {c : Char} : Matches f (.star (.char c)) before s after ↔
    ∀ d ∈ s, f.fold d = f.fold c := by
  constructor
  · intro h
    generalize hr : RegExp.star (.char c) = r at h
    induction h with
    | starNil => simp
    | starCons h h' _ ih =>
      obtain rfl := RegExp.star.inj hr
      obtain ⟨d, rfl, hd⟩ := matches_char_iff.mp h
      rw [List.forall_mem_append, List.forall_mem_singleton]
      exact ⟨hd, ih rfl⟩
    | _ => cases hr
  · intro h
    induction s generalizing before with
    | nil => exact .starNil
    | cons d s ih =>
      rw [List.forall_mem_cons] at h
      exact .starCons (s := [d]) (.char h.1) (ih h.2)

/-! ## Sequences -/

/-- One expression after the other. -/
def concat : List RegExp → RegExp
  | [] => .empty
  | [r] => r
  | r :: s :: rs => .seq r (concat (s :: rs))

theorem matches_concat_cons_iff {r : RegExp} {rs : List RegExp} :
    Matches f (concat (r :: rs)) before s after ↔
      ∃ t t', s = t ++ t' ∧ Matches f r before t (t' ++ after) ∧
        Matches f (concat rs) (before ++ t) t' after := by
  rcases rs with - | ⟨r', rs⟩
  · constructor
    · intro h
      exact ⟨s, [], (List.append_nil s).symm, h, .empty⟩
    · rintro ⟨t, t', rfl, h, h'⟩
      obtain rfl := matches_empty_iff.mp h'
      rwa [List.append_nil]
  · exact matches_seq_iff

theorem matches_concat_append_iff {rs rs' : List RegExp} :
    Matches f (concat (rs ++ rs')) before s after ↔
      ∃ t t', s = t ++ t' ∧ Matches f (concat rs) before t (t' ++ after) ∧
        Matches f (concat rs') (before ++ t) t' after := by
  induction rs generalizing before s with
  | nil =>
    constructor
    · intro h
      exact ⟨[], s, rfl, .empty, by rwa [List.append_nil]⟩
    · rintro ⟨t, t', rfl, h, h'⟩
      obtain rfl := matches_empty_iff.mp h
      rwa [List.append_nil] at h'
  | cons r rs ih =>
    rw [List.cons_append, matches_concat_cons_iff]
    constructor
    · rintro ⟨t, u, rfl, h, h'⟩
      obtain ⟨t', u', rfl, h', h''⟩ := ih.mp h'
      rw [List.append_assoc] at h h''
      exact ⟨t ++ t', u', (List.append_assoc t t' u').symm,
        matches_concat_cons_iff.mpr ⟨t, t', rfl, h, h'⟩, h''⟩
    · rintro ⟨t, u, rfl, h, h'⟩
      obtain ⟨t', u', rfl, h, h''⟩ := matches_concat_cons_iff.mp h
      rw [← List.append_assoc] at h'
      rw [← List.append_assoc] at h
      exact ⟨t', u' ++ u, List.append_assoc t' u' u, h, ih.mpr ⟨u', u, rfl, h'', h'⟩⟩

/-- What stands on both sides of a word of the text. -/
def Bounded (f : CaseFolding) (before after : List Char) : Prop :=
  (∀ c, before.getLast? = some c → ¬ f.IsWord c) ∧ ∀ c, after.head? = some c → ¬ f.IsWord c

/-- An expression between `\W|^` and `\W|$` matches words. -/
theorem partialMatch_word_iff {rs : List RegExp} {text : List Char} :
    PartialMatch f (concat (.alt .notWord .bot :: (rs ++ [.alt .notWord .eot]))) text ↔
      ∃ before s after, text = before ++ s ++ after ∧ Matches f (concat rs) before s after ∧
        Bounded f before after := by
  constructor
  · rintro ⟨before, s, after, rfl, h⟩
    obtain ⟨l, t, rfl, hl, h⟩ := matches_concat_cons_iff.mp h
    obtain ⟨t, r, rfl, h, hr⟩ := matches_concat_append_iff.mp h
    refine ⟨before ++ l, t, r ++ after, by simp, h, ?_, ?_⟩
    · rcases matches_notWord_or_iff.mp hl with ⟨d, rfl, hd⟩ | hbot
      · intro c hc
        rw [List.getLast?_concat] at hc
        rwa [← Option.some.inj hc]
      · obtain ⟨rfl, rfl⟩ := matches_bot_iff.mp hbot
        simp
    · rcases matches_notWord_or_iff.mp hr with ⟨d, rfl, hd⟩ | heot
      · intro c hc
        rwa [← Option.some.inj hc]
      · obtain ⟨rfl, rfl⟩ := matches_eot_iff.mp heot
        simp
  · rintro ⟨before, s, after, rfl, h, hbefore, hafter⟩
    -- the characters next to the word become part of the match
    obtain ⟨before', l, rfl, hl⟩ : ∃ before' l, before = before' ++ l ∧ ∀ after,
        Matches f (.alt .notWord .bot) before' l after := by
      rcases List.eq_nil_or_concat' before with rfl | ⟨before', c, rfl⟩
      · exact ⟨[], [], rfl, fun _ ↦ .altRight .bot⟩
      · exact ⟨before', [c], rfl, fun _ ↦
          .altLeft (.notWord (hbefore c List.getLast?_concat))⟩
    obtain ⟨r, after', rfl, hr⟩ : ∃ r after', after = r ++ after' ∧ ∀ before,
        Matches f (.alt .notWord .eot) before r after' := by
      rcases after with - | ⟨c, after⟩
      · exact ⟨[], [], rfl, fun _ ↦ .altRight .eot⟩
      · exact ⟨[c], after, rfl, fun _ ↦ .altLeft (.notWord (hafter c rfl))⟩
    refine ⟨before', l ++ (s ++ r), after', by simp, matches_concat_cons_iff.mpr
      ⟨l, s ++ r, rfl, hl _, matches_concat_append_iff.mpr ⟨s, r, rfl, ?_, hr _⟩⟩⟩
    exact h

/-! ## Parsing -/

/-- A group that is still open: the alternatives that are complete, and the pieces of the current
one, last piece first. -/
structure Group where
  alternatives : List RegExp := []
  pieces : List RegExp := []

/-- Another piece. -/
def Group.push (g : Group) (r : RegExp) : Group := { g with pieces := r :: g.pieces }

/-- The current alternative is complete. -/
def Group.bar (g : Group) : Group := { alternatives := concat g.pieces.reverse :: g.alternatives }

/-- The expression that the group stands for. -/
def Group.close (g : Group) : RegExp :=
  g.alternatives.foldl (fun r a ↦ .alt a r) (concat g.pieces.reverse)

/-- `*` behind the last piece.  There must be a piece, and not one that is repeated already. -/
def Group.repeatLast (g : Group) : Option Group :=
  match g.pieces with
  | [] | .star _ :: _ => none
  | r :: rs => some { g with pieces := .star r :: rs }

/-- A hexadecimal digit. -/
def hexValue (c : Char) : Option ℕ :=
  if '0' ≤ c ∧ c ≤ '9' then some (c.toNat - '0'.toNat)
  else if 'a' ≤ c ∧ c ≤ 'f' then some (c.toNat - 'a'.toNat + 10)
  else if 'A' ≤ c ∧ c ≤ 'F' then some (c.toNat - 'A'.toNat + 10)
  else none

/-- The rest of an expression inside the groups `g :: gs`. -/
def parseIn (g : Group) (gs : List Group) : List Char → Option RegExp
  | [] => if gs.isEmpty then some g.close else none
  | '(' :: s => parseIn {} (g :: gs) s
  | ')' :: s =>
    match gs with
    | [] => none
    | g' :: gs => parseIn (g'.push g.close) gs s
  | '|' :: s => parseIn g.bar gs s
  | '*' :: s =>
    match g.repeatLast with
    | some g => parseIn g gs s
    | none => none
  | '.' :: s => parseIn (g.push .any) gs s
  | '^' :: s => parseIn (g.push .bot) gs s
  | '$' :: s => parseIn (g.push .eot) gs s
  | '\\' :: 'W' :: s => parseIn (g.push .notWord) gs s
  | '\\' :: 'x' :: a :: b :: s =>
    match hexValue a, hexValue b with
    | some m, some n => parseIn (g.push (.char (Char.ofNat (16 * m + n)))) gs s
    | _, _ => none
  -- a backslash before a punctuation character makes it a literal
  | '\\' :: c :: s =>
    if c.toNat < 128 ∧ c.isAlphanum = false then parseIn (g.push (.char c)) gs s else none
  | c :: s =>
    if c ∈ ['\\', '?', '+', '[', '{'] then none else parseIn (g.push (.char c)) gs s

/-- The expression that a text denotes; `none` if it is none of this syntax. -/
def parse (s : List Char) : Option RegExp := parseIn {} [] s

/-- The text adds the pieces `rs` to the innermost open group. -/
def Reads (s : List Char) (rs : List RegExp) : Prop := ∀ alts pieces gs rest,
  parseIn ⟨alts, pieces⟩ gs (s ++ rest) = parseIn ⟨alts, rs.reverse ++ pieces⟩ gs rest

theorem Reads.append {s s' : List Char} {rs rs' : List RegExp} (h : Reads s rs)
    (h' : Reads s' rs') : Reads (s ++ s') (rs ++ rs') := fun alts pieces gs rest ↦ by
  rw [List.append_assoc, h, h', List.reverse_append, List.append_assoc]

theorem Reads.flatMap {α : Type} {g : α → List Char} {r : α → RegExp}
    (h : ∀ a, Reads (g a) [r a]) (xs : List α) : Reads (xs.flatMap g) (xs.map r) := by
  induction xs with
  | nil => exact fun _ _ _ _ ↦ rfl
  | cons a xs ih => exact (h a).append ih

theorem Reads.parse_eq {s : List Char} {rs : List RegExp} (h : Reads s rs) :
    parse s = some (concat rs) := by
  have hparse := h [] [] [] []
  rw [List.append_nil] at hparse
  rw [parse, show ({} : Group) = ⟨[], []⟩ from rfl, hparse, parseIn]
  simp [Group.close]

/-- A character without a meaning of its own. -/
theorem reads_plain {c : Char}
    (h : c ∉ ['(', ')', '|', '*', '.', '^', '$', '\\', '?', '+', '[', '{']) :
    Reads [c] [.char c] := fun alts pieces gs rest ↦ by
  simp only [List.mem_cons, List.not_mem_nil, or_false, not_or] at h
  rw [List.singleton_append, parseIn.eq_def]
  simp [h, Group.push]

/-- A character behind a backslash. -/
theorem reads_escaped {c : Char} (hc : c.toNat < 128) (halpha : c.isAlphanum = false) :
    Reads ['\\', c] [.char c] := fun alts pieces gs rest ↦ by
  have hW : c ≠ 'W' := by rintro rfl; cases halpha
  have hx : c ≠ 'x' := by rintro rfl; cases halpha
  rw [List.cons_append, List.singleton_append, parseIn]
  · rw [if_pos ⟨hc, halpha⟩]
    rfl
  · exact hW
  · exact fun a b s h _ ↦ hx h

end RegExp
