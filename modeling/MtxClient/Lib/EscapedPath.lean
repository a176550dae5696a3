import Mathlib.Data.List.Basic

/-!
# Paths as escaped text

A path is a list of keys.  Its text joins the keys by a separator and puts an escape character
before every separator inside a key, but leaves the escape characters inside a key as they are.

So the text of a path does not determine it: a key that ends in the escape character swallows the
separator behind it.  `merge` does with a path what a reader of its text cannot avoid doing, namely
join such a key with the next one.  `encode_eq_iff` says that this is all that gets lost: two
paths have the same text exactly if they are equal after merging.  `decode` is that reader.
-/

set_option autoImplicit false

namespace EscapedPath

variable {α : Type} {esc sep : α}

/-! ## Lists of keys -/

/-- `s` in front of the first key. -/
def appendHead (s : List α) : List (List α) → List (List α)
  | [] => [s]
  | k :: ks => (s ++ k) :: ks

theorem appendHead_append (s t : List α) (p : List (List α)) :
    appendHead (s ++ t) p = appendHead s (appendHead t p) := by
  rcases p with - | ⟨k, ks⟩ <;> simp [appendHead]

@[simp] theorem appendHead_ne_nil (s : List α) (p : List (List α)) : appendHead s p ≠ [] := by
  rcases p with - | ⟨k, ks⟩ <;> simp [appendHead]

theorem appendHead_nil {p : List (List α)} (h : p ≠ []) : appendHead [] p = p := by
  rcases p with - | ⟨k, ks⟩
  · exact absurd rfl h
  · rfl

/-- No key but the last ends in the escape character. -/
def Merged (esc : α) : List (List α) → Prop
  | [] => True
  | [_] => True
  | k :: k' :: ks => k.getLast? ≠ some esc ∧ Merged esc (k' :: ks)

theorem merged_cons {k : List α} {p : List (List α)} (hk : k.getLast? ≠ some esc)
    (hp : Merged esc p) : Merged esc (k :: p) := by
  rcases p with - | ⟨k', ks⟩
  · trivial
  · exact ⟨hk, hp⟩

theorem merged_appendHead {s : List α} (hs : s.getLast? ≠ some esc) {p : List (List α)}
    (hp : Merged esc p) : Merged esc (appendHead s p) := by
  rcases p with - | ⟨k, - | ⟨k', ks⟩⟩
  · trivial
  · trivial
  · refine ⟨?_, hp.2⟩
    rw [List.getLast?_append]
    rcases hk : k.getLast? with - | c
    · simpa using hs
    · rw [Option.some_or]
      exact fun h ↦ hp.1 (hk.trans h)

/-! ## Texts and how they are read -/

variable [DecidableEq α]

section

variable (esc sep)

/-- A key with the escape character before every separator. -/
def escape (key : List α) : List α := key.flatMap fun c ↦ if c = sep then [esc, c] else [c]

/-- The text of a path. -/
def encode : List (List α) → List α
  | [] => []
  | k :: ks => escape esc sep k ++ ks.flatMap fun k ↦ sep :: escape esc sep k

/-- The path that a text is read as. -/
def decode : List α → List (List α)
  | [] => [[]]
  | [c] => if c = sep then [[], []] else [[c]]
  | c :: d :: s =>
    if c = esc ∧ d = sep then appendHead [sep] (decode s)
    else if c = sep then [] :: decode (d :: s)
    else appendHead [c] (decode (d :: s))

/-- Join every key that ends in the escape character with the next one, with a separator in place of
the escape character. -/
def merge : List (List α) → List (List α)
  | [] => []
  | [k] => [k]
  | k :: k' :: ks =>
    if k.getLast? = some esc then appendHead (k.dropLast ++ [sep]) (merge (k' :: ks))
    else k :: merge (k' :: ks)

end

@[simp] theorem escape_nil : escape esc sep [] = [] := rfl

theorem escape_cons (c : α) (key : List α) :
    escape esc sep (c :: key) = (if c = sep then [esc, c] else [c]) ++ escape esc sep key := rfl

theorem escape_append (s t : List α) :
    escape esc sep (s ++ t) = escape esc sep s ++ escape esc sep t :=
  List.flatMap_append

theorem escape_singleton_of_ne {c : α} (h : c ≠ sep) : escape esc sep [c] = [c] := by
  rw [escape_cons, if_neg h, escape_nil, List.append_nil]

theorem encode_cons (k k' : List α) (ks : List (List α)) :
    encode esc sep (k :: k' :: ks) =
      escape esc sep k ++ sep :: encode esc sep (k' :: ks) := by
  rw [encode, encode, List.flatMap_cons, List.cons_append]

theorem encode_appendHead (s : List α) (p : List (List α)) :
    encode esc sep (appendHead s p) = escape esc sep s ++ encode esc sep p := by
  rcases p with - | ⟨k, ks⟩
  · simp [appendHead, encode]
  · rw [appendHead, encode, encode, escape_append, List.append_assoc]

theorem decode_ne_nil (s : List α) : decode esc sep s ≠ [] := by
  fun_cases decode esc sep s <;> simp

/-! ## Merging -/

theorem merge_ne_nil {p : List (List α)} (h : p ≠ []) : merge esc sep p ≠ [] := by
  fun_cases merge esc sep p with
  | case1 => exact absurd rfl h
  | case2 k => simp
  | case3 k k' ks hk => exact appendHead_ne_nil _ _
  | case4 k k' ks hk => simp

/-- Merging does not change the text. -/
theorem encode_merge (hne : esc ≠ sep) (p : List (List α)) :
    encode esc sep (merge esc sep p) = encode esc sep p := by
  fun_induction merge esc sep p with
  | case1 => rfl
  | case2 k => rfl
  | case3 k k' ks hk ih =>
    obtain ⟨s, rfl⟩ := List.getLast?_eq_some_iff.mp hk
    have hsep : escape esc sep [sep] = [esc, sep] := by rw [escape_cons, if_pos rfl]; rfl
    rw [encode_appendHead, ih, encode_cons, List.dropLast_concat, escape_append, escape_append,
      escape_singleton_of_ne hne, hsep, List.append_assoc, List.append_assoc]
    rfl
  | case4 k k' ks hk ih =>
    have hne' : merge esc sep (k' :: ks) ≠ [] := merge_ne_nil (List.cons_ne_nil k' ks)
    obtain ⟨m, ms, hm⟩ := List.exists_cons_of_ne_nil hne'
    rw [hm] at ih ⊢
    rw [encode_cons, ih, encode_cons]

theorem merged_merge (hne : esc ≠ sep) (p : List (List α)) : Merged esc (merge esc sep p) := by
  fun_induction merge esc sep p with
  | case1 => trivial
  | case2 k => trivial
  | case3 k k' ks hk ih =>
    refine merged_appendHead ?_ ih
    rw [List.getLast?_concat]
    exact fun h ↦ hne (Option.some.inj h).symm
  | case4 k k' ks hk ih => exact merged_cons hk ih

/-! ## Reading -/

/-- A character that is no separator is part of the first key, unless it escapes a separator. -/
theorem decode_cons {c : α} (hc : c ≠ sep) {s : List α} (hs : c = esc → s.head? ≠ some sep) :
    decode esc sep (c :: s) = appendHead [c] (decode esc sep s) := by
  rcases s with - | ⟨d, s⟩
  · simp [decode, hc, appendHead]
  · rw [decode, if_neg fun h ↦ hs h.1 (by rw [List.head?_cons, h.2]), if_neg hc]

theorem decode_sep (hne : esc ≠ sep) (s : List α) :
    decode esc sep (sep :: s) = [] :: decode esc sep s := by
  rcases s with - | ⟨d, s⟩
  · simp [decode]
  · rw [decode, if_neg fun h ↦ hne h.1.symm, if_pos rfl]

theorem head?_escape_append (hne : esc ≠ sep) {k t : List α}
    (h : (escape esc sep k ++ t).head? = some sep) : k = [] ∧ t.head? = some sep := by
  rcases k with - | ⟨c, k⟩
  · exact ⟨rfl, h⟩
  · rw [escape_cons] at h
    split_ifs at h with hc
    · exact absurd (Option.some.inj h) hne
    · exact absurd (Option.some.inj h) hc

/-- The text of a key is read as that key, unless it swallows a separator. -/
theorem decode_escape_append (hne : esc ≠ sep) {k t : List α}
    (ht : k.getLast? = some esc → t.head? ≠ some sep) :
    decode esc sep (escape esc sep k ++ t) = appendHead k (decode esc sep t) := by
  induction k with
  | nil => rw [escape_nil, List.nil_append, appendHead_nil (decode_ne_nil t)]
  | cons c k ih =>
    have hk : k.getLast? = some esc → t.head? ≠ some sep := fun h ↦
      ht (by rw [List.getLast?_cons, h]; rfl)
    rw [show c :: k = [c] ++ k from rfl, appendHead_append, ← ih hk, List.singleton_append,
      escape_cons]
    split_ifs with hc
    · subst hc
      rw [List.append_assoc, List.cons_append, List.cons_append, List.nil_append, decode,
        if_pos ⟨rfl, rfl⟩]
    · rw [List.append_assoc, List.singleton_append]
      refine decode_cons hc fun hesc hhead ↦ ?_
      obtain ⟨rfl, hsep⟩ := head?_escape_append hne hhead
      exact ht (by rw [hesc]; rfl) hsep

/-- **A merged path is what its text is read as.** -/
theorem decode_encode (hne : esc ≠ sep) {p : List (List α)} (hp : Merged esc p) (h : p ≠ []) :
    decode esc sep (encode esc sep p) = p := by
  induction p with
  | nil => exact absurd rfl h
  | cons k p ih =>
    rcases p with - | ⟨k', ks⟩
    · rw [encode, List.flatMap_nil, decode_escape_append hne fun _ ↦ by simp]
      simp [decode, appendHead]
    · rw [encode_cons, decode_escape_append hne fun hk ↦ absurd hk hp.1, decode_sep hne,
        ih hp.2 (List.cons_ne_nil _ _), appendHead, List.append_nil]

/-- **Two paths have the same text exactly if they are equal after merging.** -/
theorem encode_eq_iff (hne : esc ≠ sep) {p q : List (List α)} (hp : p ≠ []) (hq : q ≠ []) :
    encode esc sep p = encode esc sep q ↔ merge esc sep p = merge esc sep q := by
  constructor
  · intro h
    rw [← decode_encode hne (merged_merge hne p) (merge_ne_nil hp),
      ← decode_encode hne (merged_merge hne q) (merge_ne_nil hq), encode_merge hne,
      encode_merge hne, h]
  · intro h
    rw [← encode_merge hne p, ← encode_merge hne q, h]

theorem encode_ne_nil {k : List α} {ks : List (List α)} (h : k ≠ []) :
    encode esc sep (k :: ks) ≠ [] := by
  obtain ⟨c, k, rfl⟩ := List.exists_cons_of_ne_nil h
  rw [encode, escape_cons]
  split_ifs <;> simp

end EscapedPath
