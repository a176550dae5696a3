import MtxClient.Crypto.KeyFile
import MtxClient.Http.Callback

/-!
# The name of a downloaded file

`Client::download` reports the name that the server gives for a file in `Content-Disposition`.  The
name is the value of the last parameter, `filename`, with or without quotes.

The code takes it out by positions.  It never throws, but a name in quotes loses its last byte, and
a name without quotes is only found if no other parameter stands before it.
-/

set_option autoImplicit false

namespace Mtx.Http

open Str
open Mtx.Crypto (indexOf? indexOf?_first not_mem_of_indexOf?_singleton)

/-! ## Positions -/

/-- `std::string::npos`. -/
def npos : ℕ := 2 ^ 64 - 1

/-- The value of an expression of type `size_t`. -/
def sizeT (n : ℤ) : ℕ := (n % 2 ^ 64).toNat

/-- `s.find(p, pos)`. -/
def find (s p : Str) (pos : ℕ) : Option ℕ :=
  if s.length < pos then none else (indexOf? p (s.drop pos)).map (· + pos)

/-- `s.substr(pos, count)`, where the rest of the string is meant without a `count`. -/
def substr (s : Str) (pos : ℕ) (count : ℕ := s.length) : Except Exn Str :=
  if s.length < pos then .error (.outOfRange "basic_string::substr")
  else .ok ((s.drop pos).take count)

/-! ## The code -/

/-- `original_filename`, from the value of `Content-Disposition`. -/
def originalFilename (value : Str) : Except Exn Str :=
  match find value "filename" 0 with
  | some pos =>
    match find value "\"" pos with
    | some start =>
      let end_ := (find value "\"" (start + 1)).getD npos
      substr value (start + 1) (sizeT (end_ - start - 2))
    | none =>
      match find value "=" 0 with
      | some start => substr value (start + 1)
      | none => .ok ""
  | none => .ok ""

/-- What the user callback of a download is called with. -/
structure Download where
  res : Str
  content_type : Str
  original_filename : Str
  err : Option ClientError

/-- The lambda `cb` of `download` up to the call of the user callback.  `header` is how a header is
looked up, where capital letters do not count. -/
def downloadCb (header : List (Str × Str) → Str → Option Str) (call : Call Str) :
    Except Exn Download := do
  let content_type := (call.headers.bind (header · "Content-Type")).getD ""
  let disposition := call.headers.bind (header · "Content-Disposition")
  let original_filename ← disposition.elim (.ok []) originalFilename
  return { res := call.response, content_type, original_filename, err := call.err }

/-! ## It never throws -/

theorem lt_of_find {s p : Str} (hp : p ≠ []) {pos i : ℕ} (h : find s p pos = some i) :
    i < s.length := by
  rw [find] at h
  split_ifs at h with hpos
  obtain ⟨j, hj, rfl⟩ := Option.map_eq_some_iff.mp h
  have hle := Mtx.Crypto.length_of_indexOf? hj
  have hlen := List.length_pos_iff.mpr hp
  rw [List.length_drop] at hle
  omega

theorem succeeds_substr {s : Str} {pos : ℕ} (h : pos ≤ s.length) (count : ℕ) :
    substr s pos count = .ok ((s.drop pos).take count) := if_neg (by omega)

theorem succeeds_originalFilename (value : Str) : Succeeds (originalFilename value) := by
  rw [originalFilename]
  rcases find value "filename" 0 with - | pos
  · exact succeeds_ok _
  · dsimp only
    rcases hquote : find value "\"" pos with - | start
    · dsimp only
      rcases hequals : find value "=" 0 with - | start
      · exact succeeds_ok _
      · exact ⟨_, succeeds_substr (lt_of_find (by decide) hequals) _⟩
    · exact ⟨_, succeeds_substr (lt_of_find (by decide) hquote) _⟩

/-- The name is taken out of any header without an exception. -/
theorem succeeds_downloadCb (header : List (Str × Str) → Str → Option Str) (call : Call Str) :
    Succeeds (downloadCb header call) := by
  rw [downloadCb]
  refine succeeds_bind_iff.mpr ?_
  rcases call.headers.bind (header · "Content-Disposition") with - | value
  · exact ⟨_, rfl, succeeds_pure _⟩
  · obtain ⟨name, hname⟩ := succeeds_originalFilename value
    exact ⟨name, hname, succeeds_pure _⟩

/-! ## What is found -/

/-- What stands before the name: the type, and parameters that have no quotes. -/
structure Disposition where
  type : Str
  params : List (Str × Str)
  type_unquoted : 34 ∉ type
  params_unquoted : ∀ param ∈ params, 34 ∉ param.1 ∧ 34 ∉ param.2

namespace Disposition

/-- The header up to the last parameter, without its semicolon. -/
def before (d : Disposition) : Str :=
  d.type ++ d.params.flatMap fun param ↦ lit "; " ++ param.1 ++ lit "=" ++ param.2

/-- The header up to the name. -/
def start (d : Disposition) : Str := d.before ++ lit "; filename="

/-- The header with the name in quotes. -/
def quoted (d : Disposition) (f : Str) : Str := d.start ++ lit "\"" ++ f ++ lit "\""

/-- The header with the name as it is. -/
def unquoted (d : Disposition) (f : Str) : Str := d.start ++ f

theorem not_mem_before (d : Disposition) : 34 ∉ d.before := by
  rw [before, List.mem_append, not_or]
  refine ⟨d.type_unquoted, ?_⟩
  intro h
  obtain ⟨param, hparam, hmem⟩ := List.mem_flatMap.mp h
  obtain ⟨hname, hvalue⟩ := d.params_unquoted param hparam
  simp only [List.mem_append] at hmem
  rcases hmem with ((hmem | hmem) | hmem) | hmem
  · exact absurd hmem (by decide)
  · exact hname hmem
  · exact absurd hmem (by decide)
  · exact hvalue hmem

theorem not_mem_start (d : Disposition) : 34 ∉ d.start := by
  rw [start, List.mem_append, not_or]
  exact ⟨d.not_mem_before, by decide⟩

end Disposition

theorem find_of_le {s : Str} {pos : ℕ} (h : pos ≤ s.length) (p : Str) :
    find s p pos = (indexOf? p (s.drop pos)).map (· + pos) := if_neg (by omega)

/-- A byte is found where it is for the first time behind a position. -/
theorem find_behind {c : UInt8} (u : Str) {v : Str} (hv : c ∉ v) (w : Str) :
    find (u ++ (v ++ c :: w)) [c] u.length = some (u.length + v.length) := by
  rw [find_of_le (by rw [List.length_append]; omega), List.drop_left, indexOf?_first hv,
    Option.map_some, Nat.add_comm]

theorem find_first {c : UInt8} {u : Str} (hu : c ∉ u) (w : Str) {pos : ℕ} (hpos : pos ≤ u.length) :
    find (u ++ c :: w) [c] pos = some u.length := by
  have hdrop : c ∉ u.drop pos := fun h ↦ hu (List.mem_of_mem_drop h)
  have hfind := find_behind (u.take pos) hdrop w
  rw [← List.append_assoc, List.take_append_drop, List.length_take, List.length_drop,
    Nat.min_eq_left hpos] at hfind
  rw [hfind]
  congr 1
  omega

/-- A byte is not found where it is not. -/
theorem find_of_not_mem {c : UInt8} {s : Str} (h : c ∉ s) (pos : ℕ) : find s [c] pos = none := by
  rw [find]
  split_ifs
  · rfl
  · rw [Option.map_eq_none_iff, Option.eq_none_iff_forall_ne_some]
    intro i hi
    exact h (List.mem_of_mem_drop (Mtx.Crypto.mem_of_indexOf? hi c (List.mem_singleton_self c)))

/-- A text is found where it is, or before. -/
theorem exists_find {p : Str} (u v : Str) : ∃ i ≤ u.length, find (u ++ (p ++ v)) p 0 = some i := by
  have hindex : ∃ i ≤ u.length, indexOf? p (u ++ (p ++ v)) = some i := by
    induction u with
    | nil =>
      refine ⟨0, Nat.le_refl 0, ?_⟩
      rw [List.nil_append]
      rcases p with - | ⟨b, p⟩
      · rcases v with - | ⟨b, v⟩ <;> rfl
      · exact Mtx.Crypto.indexOf?_self_append (List.cons_ne_nil b p) v
    | cons b u ih =>
      obtain ⟨i, hi, hfind⟩ := ih
      rw [List.cons_append, indexOf?]
      split_ifs
      · exact ⟨0, Nat.zero_le _, rfl⟩
      · exact ⟨i + 1, Nat.succ_le_succ hi, by rw [hfind]; rfl⟩
  obtain ⟨i, hi, hfind⟩ := hindex
  refine ⟨i, hi, ?_⟩
  rw [find_of_le (Nat.zero_le _), List.drop_zero, hfind]
  rfl

namespace Disposition

variable (d : Disposition)

/-- The text `filename` is found before the name. -/
theorem exists_find_filename (t : Str) :
    ∃ i ≤ d.start.length, find (d.start ++ t) "filename" 0 = some i := by
  have hstart : d.start ++ t = (d.before ++ lit "; ") ++ (lit "filename" ++ (lit "=" ++ t)) := by
    rw [start, show lit "; filename=" = lit "; " ++ (lit "filename" ++ lit "=") by decide]
    simp only [List.append_assoc]
  obtain ⟨i, hi, hfind⟩ := exists_find (p := lit "filename") (d.before ++ lit "; ") (lit "=" ++ t)
  refine ⟨i, ?_, hstart ▸ hfind⟩
  have hlen : (lit "; ").length = 2 := by decide
  have hlen' : (lit "; filename=").length = 11 := by decide
  rw [List.length_append] at hi
  rw [start, List.length_append]
  omega

/-- What is taken for a name in quotes. -/
theorem originalFilename_quoted {f : Str} (hf : 34 ∉ f) : originalFilename (d.quoted f) =
    .ok ((f ++ lit "\"").take (sizeT (f.length - 1))) := by
  have hquote : lit "\"" = [34] := by decide
  have hquoted : d.quoted f = d.start ++ 34 :: (f ++ [34]) := by
    rw [quoted, hquote]
    simp
  obtain ⟨pos, hpos, hfind⟩ := d.exists_find_filename (34 :: (f ++ [34]))
  have hopen := find_first d.not_mem_start (f ++ [34]) hpos
  have hclose := find_behind (d.start ++ [34]) hf []
  rw [List.append_assoc, List.singleton_append, List.length_append, List.length_singleton]
    at hclose
  have hlen : d.start.length + 1 ≤ (d.start ++ 34 :: (f ++ [34])).length := by
    rw [List.length_append, List.length_cons]
    omega
  have hdrop : (d.start ++ 34 :: (f ++ [34])).drop (d.start.length + 1) = f ++ [34] := by
    rw [List.drop_length_add_append, List.drop_one, List.tail_cons]
  rw [hquoted, originalFilename, hfind]
  dsimp only
  rw [hquote, hopen]
  dsimp only
  rw [hclose, Option.getD_some, succeeds_substr hlen, hdrop]
  congr 3
  push_cast
  omega

/-- A name in quotes never comes out. -/
theorem originalFilename_quoted_ne {f : Str} (hf : 34 ∉ f) :
    originalFilename (d.quoted f) ≠ .ok f := by
  rw [d.originalFilename_quoted hf]
  intro h
  have hlen := congrArg List.length (Except.ok.inj h)
  rw [List.length_take, List.length_append, sizeT] at hlen
  have hquote : (lit "\"").length = 1 := by decide
  rw [hquote] at hlen
  omega

/-- A name without quotes comes out if there is no equals sign before its own. -/
theorem originalFilename_unquoted_iff {f : Str} (hf : 34 ∉ f) :
    originalFilename (d.unquoted f) = .ok f ↔ 61 ∉ d.before := by
  have hquote : lit "\"" = [34] := by decide
  have hequals : lit "=" = [61] := by decide
  have hnone : 34 ∉ d.unquoted f := by
    rw [unquoted, List.mem_append, not_or]
    exact ⟨d.not_mem_start, hf⟩
  obtain ⟨pos, -, hfind⟩ := d.exists_find_filename f
  have hcode : ∀ {u w : Str}, d.unquoted f = u ++ 61 :: w → 61 ∉ u →
      originalFilename (d.unquoted f) = .ok w := fun {u w} heq hu ↦ by
    have hpos : u.length + 1 ≤ (u ++ 61 :: w).length := by
      rw [List.length_append, List.length_cons]
      omega
    rw [originalFilename, show find (d.unquoted f) "filename" 0 = some pos from hfind]
    dsimp only
    rw [hquote, find_of_not_mem hnone, hequals, heq]
    dsimp only
    rw [find_first hu w (Nat.zero_le _)]
    dsimp only
    rw [succeeds_substr hpos, List.drop_length_add_append, List.drop_one, List.tail_cons,
      List.take_of_length_le (by rw [List.length_append, List.length_cons]; omega)]
  have hsplit : d.start = d.before ++ lit "; filename" ++ [61] := by
    rw [start, List.append_assoc]
    rfl
  by_cases hbefore : 61 ∈ d.before
  · refine iff_of_false ?_ (fun h ↦ h hbefore)
    obtain ⟨u, v, huv, hu⟩ := List.eq_append_cons_of_mem hbefore
    rw [hcode (u := u) (w := v ++ (lit "; filename" ++ [61]) ++ f) (by
      rw [unquoted, hsplit, huv]; simp only [List.append_assoc, List.cons_append]) hu]
    intro h
    have hlen := congrArg List.length (Except.ok.inj h)
    simp only [List.length_append, List.length_singleton] at hlen
    omega
  · refine iff_of_true ?_ hbefore
    have hu : 61 ∉ d.before ++ lit "; filename" := by
      rw [List.mem_append, not_or]
      exact ⟨hbefore, by decide⟩
    refine hcode (u := d.before ++ lit "; filename") ?_ hu
    rw [unquoted, hsplit, List.append_assoc (d.before ++ lit "; filename"), List.singleton_append]

/-- An equals sign is in front of the name if there is a parameter. -/
theorem not_mem_before_iff : 61 ∉ d.before ↔ 61 ∉ d.type ∧ d.params = [] := by
  have hequals : lit "=" = [61] := by decide
  rw [before, List.mem_append, not_or]
  refine and_congr_right' ?_
  rcases d.params with - | ⟨param, params⟩
  · simp
  · refine iff_of_false (fun h ↦ h ?_) (List.cons_ne_nil param params)
    rw [List.flatMap_cons, hequals]
    simp

end Disposition

/-! ## What a download reports -/

section

variable (header : List (Str × Str) → Str → Option Str)

/-- The answer has this value of `Content-Disposition`. -/
def HasDisposition (call : Call Str) (value : Str) : Prop :=
  call.headers.bind (header · "Content-Disposition") = some value

/-- The user callback is called with this name. -/
def ReportsName (call : Call Str) (f : Str) : Prop :=
  ∃ r, downloadCb header call = .ok r ∧ r.original_filename = f

variable {header}

theorem reportsName_iff {call : Call Str} {value : Str} (h : HasDisposition header call value)
    (f : Str) : ReportsName header call f ↔ originalFilename value = .ok f := by
  rw [HasDisposition] at h
  rw [ReportsName, downloadCb, h, Option.elim_some]
  constructor
  · rintro ⟨r, hr, rfl⟩
    obtain ⟨name, hname, hr⟩ := bind_eq_ok_iff.mp hr
    rw [hname, ← Except.ok.inj hr]
  · intro hname
    exact ⟨_, by rw [hname]; rfl, rfl⟩

variable (header)

/-- **The name of a download is reported if it has no quotes and there is no other parameter**, and
never with quotes.  Nothing is thrown for any header. -/
theorem download_name_iff (d : Disposition) {f : Str} (hf : 34 ∉ f) :
    (∀ call, HasDisposition header call (d.quoted f) → ¬ ReportsName header call f) ∧
    (∀ call, HasDisposition header call (d.unquoted f) →
      (ReportsName header call f ↔ 61 ∉ d.type ∧ d.params = [])) ∧
    ∀ call, Succeeds (downloadCb header call) := by
  refine ⟨?_, ?_, succeeds_downloadCb header⟩
  · intro call h
    rw [reportsName_iff h]
    exact d.originalFilename_quoted_ne hf
  · intro call h
    rw [reportsName_iff h, d.originalFilename_unquoted_iff hf, d.not_mem_before_iff]

end

/-- An attachment with nothing but its name. -/
def attachment : Disposition where
  type := "attachment"
  params := []
  type_unquoted := by decide
  params_unquoted := by decide

/-- An attachment with its size. -/
def sizedAttachment : Disposition where
  type := "attachment"
  params := [("size", "24")]
  type_unquoted := by decide
  params_unquoted := by decide

/-- An answer with a name for the file. -/
def named (value : Str) : Call Str where
  response := "This is some random text"
  headers := some [("Content-Disposition", value)]
  err := none

/-- Looking up a header by its exact name. -/
def byName (fields : List (Str × Str)) (name : Str) : Option Str := AssocList.find? name fields

theorem hasDisposition_named (value : Str) : HasDisposition byName (named value) value := by
  rw [HasDisposition, named, Option.bind_some, byName, AssocList.find?_cons, if_pos rfl]

theorem download_name_attachment :
    ReportsName byName (named (attachment.unquoted "doc.txt")) "doc.txt" :=
  ((download_name_iff byName attachment (f := "doc.txt") (by decide)).2.1 _
    (hasDisposition_named _)).mpr ⟨by decide, rfl⟩

/-- In quotes the last letter is missing and an empty name is a quote, and without quotes the first
parameter is taken. -/
theorem download_name_lost :
    originalFilename (attachment.quoted "doc.txt") = .ok (lit "doc.tx") ∧
    originalFilename (attachment.quoted []) = .ok (lit "\"") ∧
    originalFilename (sizedAttachment.unquoted "doc.txt") = .ok (lit "24; filename=doc.txt") ∧
    ¬ ReportsName byName (named (attachment.quoted "doc.txt")) "doc.txt" ∧
    ¬ ReportsName byName (named (sizedAttachment.unquoted "doc.txt")) "doc.txt" := by
  rw [reportsName_iff (hasDisposition_named _), reportsName_iff (hasDisposition_named _)]
  decide

end Mtx.Http
