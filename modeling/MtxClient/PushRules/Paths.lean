import MtxClient.Lib.EscapedPath
import MtxClient.PushRules.Flatten

/-!
# Paths of a flattened event

`flattenImpl` walks through an event and stores every value it meets under the text of its path.
Here the walk is first taken apart from the storing: `nodes` lists what is met, with its path as a
list of keys, and `flattenEvent` stores the nodes one after the other (`flattenImpl_eq`).

The texts are escaped paths in the sense of `EscapedPath`, with two twists: the escape character is
not escaped, and the text of an empty path is not told from no path, so that empty keys at the
beginning leave no trace.  `normalize` undoes both, and `flatKey_eq_iff` says that nothing else gets
lost.  What follows for the flattened events is `collisionFree_iff`.
-/

set_option autoImplicit false

namespace Mtx

open Str

/-- The value that a path of keys leads to. -/
def Json.atPath? (j : Json) : List Str → Option Json
  | [] => some j
  | k :: p =>
    match j.find? k with
    | some v => v.atPath? p
    | none => none

theorem Json.atPath?_cons_eq_some_iff {j x : Json} {k : Str} {p : List Str} :
    j.atPath? (k :: p) = some x ↔ ∃ v, j.find? k = some v ∧ v.atPath? p = some x := by
  rw [atPath?]
  rcases j.find? k with - | v <;> simp

namespace PushRules

/-! ## The walk -/

mutual

/-- The values `flatten_impl` meets, with their paths. -/
def nodes (value : Json) (depth : ℕ) : List (List Str × Json) :=
  if depth > 100 then [] else
  match value with
  | .object ms => ([], .object ms) :: nodesMembers ms (depth + 1)
  | value => [([], value)]

/-- The values below the members of an object. -/
def nodesMembers (ms : List (List UInt8 × Json)) (depth : ℕ) : List (List Str × Json) :=
  match ms with
  | [] => []
  | (key, value) :: ms =>
    (nodes value depth).map (fun n ↦ (key :: n.1, n.2)) ++ nodesMembers ms depth

end

/-- The variable `prefix` of `flatten_impl`. -/
def keyPrefix (path : Str) : Str := if path.isEmpty then [] else path ++ lit "."

/-- The `current_path` of a path below `path`. -/
def flatKeyFrom (path : Str) (p : List Str) : Str :=
  p.foldl (fun path key ↦ keyPrefix path ++ escapeKey key) path

/-- The `current_path` with which `flatten_impl` comes to a path. -/
def flatKey (p : List Str) : Str := flatKeyFrom [] p

/-- The value that is stored for a value of an event that is neither an object nor a floating point
number. -/
def leafValue : Json → Option PushValue
  | .array xs => some (.array (xs.filterMap nonCompound))
  | .string s => some (.string s)
  | .null => some .null
  | .boolean b => some (.bool b)
  | .numberInteger i => some (.int i)
  | .numberUnsigned u => some (.int u.toInt64)
  | .numberFloat _ | .object _ => none

/-- The key under which the presence of `m.mentions` is recorded. -/
def mentionsKey : Str := lit "content.m\\.mentions"

/-- What `flatten_impl` stores for a node. -/
def stored (path : Str) (n : List Str × Json) : Option (Str × PushValue) :=
  if n.2.isObject then
    if flatKeyFrom path n.1 = mentionsKey then some (mentionsKey, .null) else none
  else (leafValue n.2).map fun v ↦ (flatKeyFrom path n.1, v)

/-- Store entries one after the other. -/
def storeAll (result : FlatEvent) (es : List (Str × PushValue)) : FlatEvent :=
  es.foldl (fun m e ↦ m.insert e.1 e.2) result

theorem storeAll_append (result : FlatEvent) (es fs : List (Str × PushValue)) :
    storeAll result (es ++ fs) = storeAll (storeAll result es) fs := List.foldl_append

mutual

/-- **Flattening stores the nodes it meets, one after the other.** -/
theorem flattenImpl_eq (value : Json) (result : FlatEvent) (path : Str) (depth : ℕ) :
    flattenImpl value result path depth =
      storeAll result ((nodes value depth).filterMap (stored path)) := by
  rw [flattenImpl.eq_def, nodes.eq_def]
  split
  · rfl
  · rcases value with - | b | i | u | f | s | xs | ms
    case object =>
      have hpath : stored path ([], .object ms) =
          if path = mentionsKey then some (mentionsKey, .null) else none := rfl
      dsimp only
      rw [List.filterMap_cons, hpath]
      rw [show (if path.isEmpty then [] else path ++ lit ".") = keyPrefix path from rfl,
        flattenMembers_eq ms _ path (depth + 1)]
      by_cases h : path = mentionsKey
      · subst h; rfl
      · have hne : (path == lit "content.m\\.mentions") = false := beq_eq_false_iff_ne.mpr h
        rw [if_neg h, hne]
        rfl
    all_goals rfl

theorem flattenMembers_eq (ms : List (List UInt8 × Json)) (result : FlatEvent) (path : Str)
    (depth : ℕ) : flattenMembers ms result (keyPrefix path) depth =
      storeAll result ((nodesMembers ms depth).filterMap (stored path)) := by
  match ms with
  | [] => rw [flattenMembers, nodesMembers]; rfl
  | (key, value) :: ms =>
    rw [flattenMembers, nodesMembers, List.filterMap_append, storeAll_append, List.filterMap_map,
      flattenImpl_eq value, flattenMembers_eq ms]
    rfl

end

mutual

/-- What is met is what the paths of at most 100 keys lead to. -/
theorem mem_nodes_iff (value : Json) (hv : value.sorted = true) (depth : ℕ) (p : List Str)
    (x : Json) : (p, x) ∈ nodes value depth ↔
      value.atPath? p = some x ∧ depth + p.length ≤ 100 := by
  rw [nodes.eq_def]
  split
  · simp only [List.not_mem_nil, false_iff, not_and]
    omega
  · rcases value with - | b | i | u | f | s | xs | ms
    case object =>
      have hsorted := Json.sortedKeys_of_sorted hv
      rw [Json.sorted, Bool.and_eq_true] at hv
      dsimp only
      rw [List.mem_cons, mem_nodesMembers_iff ms hv.2]
      rcases p with - | ⟨k, p⟩
      · constructor
        · rintro (h | ⟨k', p', v, hp, -⟩)
          · obtain ⟨-, rfl⟩ := Prod.mk.inj h
            exact ⟨rfl, by rw [List.length_nil]; omega⟩
          · cases hp
        · rintro ⟨hat, -⟩
          exact Or.inl (congrArg _ (Option.some.inj hat).symm)
      · rw [Json.atPath?_cons_eq_some_iff, List.length_cons]
        constructor
        · rintro (h | ⟨k', p', v, hp, hmem, hat, hlen⟩)
          · simp at h
          · obtain ⟨rfl, rfl⟩ := List.cons.inj hp
            exact ⟨⟨v, AssocList.Sorted.find?_of_mem hsorted hmem, hat⟩, by omega⟩
        · rintro ⟨⟨v, hfind, hat⟩, hlen⟩
          exact Or.inr ⟨k, p, v, rfl, AssocList.mem_of_find? hfind, hat, by omega⟩
    all_goals
      rcases p with - | ⟨k, p⟩
      · simp only [List.mem_singleton, Prod.mk.injEq, true_and, Json.atPath?, Option.some.injEq,
          List.length_nil, eq_comm (a := x), iff_self_and]
        omega
      · simp [Json.atPath?, Json.find?]

theorem mem_nodesMembers_iff (ms : List (List UInt8 × Json)) (hms : Json.sortedMembers ms = true)
    (depth : ℕ) (p : List Str) (x : Json) : (p, x) ∈ nodesMembers ms depth ↔
      ∃ k p' v, p = k :: p' ∧ (k, v) ∈ ms ∧ v.atPath? p' = some x ∧ depth + p'.length ≤ 100 := by
  match ms with
  | [] => simp [nodesMembers]
  | (key, value) :: ms =>
    rw [Json.sortedMembers, Bool.and_eq_true] at hms
    have hvalue := mem_nodes_iff value hms.1 depth
    have hmembers := mem_nodesMembers_iff ms hms.2 depth p x
    rw [nodesMembers, List.mem_append, hmembers, List.mem_map]
    constructor
    · rintro (⟨⟨p', y⟩, hmem, h⟩ | ⟨k, p', v, rfl, hmem, hat⟩)
      · obtain ⟨rfl, rfl⟩ := Prod.mk.inj h
        exact ⟨key, p', value, rfl, List.mem_cons_self, (hvalue p' y).mp hmem⟩
      · exact ⟨k, p', v, rfl, List.mem_cons_of_mem _ hmem, hat⟩
    · rintro ⟨k, p', v, rfl, hmem, hat⟩
      rcases List.mem_cons.mp hmem with h | hmem
      · obtain ⟨rfl, rfl⟩ := Prod.mk.inj h
        exact Or.inl ⟨(p', x), (hvalue p' x).mpr hat, rfl⟩
      · exact Or.inr ⟨k, p', v, rfl, hmem, hat⟩

end

/-- A key that is only ever stored with one value keeps that value. -/
theorem find?_storeAll {key : Str} {v : PushValue} (es : List (Str × PushValue))
    (hes : ∀ e ∈ es, e.1 = key → e.2 = v) (result : FlatEvent)
    (h : (key, v) ∈ es ∨ result.find? key = some v) :
    (storeAll result es).find? key = some v := by
  induction es generalizing result with
  | nil => exact h.resolve_left List.not_mem_nil
  | cons e es ih =>
    refine ih (fun e' he' ↦ hes e' (List.mem_cons_of_mem e he')) _ ?_
    rw [SortedMap.find?_insert]
    by_cases hkey : key = e.1
    · right
      rw [if_pos hkey, hes e List.mem_cons_self hkey.symm]
    · rw [if_neg hkey]
      refine h.imp_left fun hmem ↦ (List.mem_cons.mp hmem).resolve_left ?_
      rintro rfl
      exact hkey rfl

/-! ## The texts of paths -/

/-- What is left of a path in its text: there are no empty keys at the beginning, and a key that
ends in a backslash is joined with the next one by a dot in place of the backslash. -/
def normalize (p : List Str) : List Str :=
  EscapedPath.merge '\\'.toUInt8 '.'.toUInt8 (p.dropWhile List.isEmpty)

theorem flatKeyFrom_eq_append (p : List Str) {path : Str} (h : path ≠ []) :
    flatKeyFrom path p = path ++ p.flatMap fun k ↦ '.'.toUInt8 :: escapeKey k := by
  induction p generalizing path with
  | nil => rw [List.flatMap_nil, List.append_nil]; rfl
  | cons k p ih =>
    have hprefix : keyPrefix path = path ++ ['.'.toUInt8] := if_neg (by simpa using h)
    rw [show flatKeyFrom path (k :: p) = flatKeyFrom (keyPrefix path ++ escapeKey k) p from rfl,
      hprefix, ih (by simp), List.flatMap_cons]
    simp only [List.append_assoc, List.cons_append, List.nil_append]

theorem flatKey_eq_encode (p : List Str) :
    flatKey p = EscapedPath.encode '\\'.toUInt8 '.'.toUInt8 (p.dropWhile List.isEmpty) := by
  induction p with
  | nil => rfl
  | cons k p ih =>
    by_cases hk : k = []
    · subst hk
      rw [List.dropWhile_cons_of_pos rfl, ← ih]
      rfl
    · rw [List.dropWhile_cons_of_neg (by simpa using hk)]
      exact flatKeyFrom_eq_append p (escapeKey_ne_nil hk)

/-- The keys after the empty ones at the beginning. -/
theorem dropWhile_isEmpty_eq (p : List Str) : p.dropWhile List.isEmpty = [] ∨
    ∃ k ks, k ≠ [] ∧ p.dropWhile List.isEmpty = k :: ks := by
  rcases h : p.dropWhile List.isEmpty with - | ⟨k, ks⟩
  · exact Or.inl rfl
  · have hhead := List.head?_dropWhile_not List.isEmpty p
    rw [h] at hhead
    exact Or.inr ⟨k, ks, by simpa using hhead, rfl⟩

/-- **Two paths have the same text exactly if they have the same normal form.** -/
theorem flatKey_eq_iff (p q : List Str) : flatKey p = flatKey q ↔ normalize p = normalize q := by
  have hne : '\\'.toUInt8 ≠ '.'.toUInt8 := by decide
  have hmerge : ∀ (k : Str) ks,
      EscapedPath.merge '\\'.toUInt8 '.'.toUInt8 (k :: ks) ≠ [] := fun k ks ↦
    EscapedPath.merge_ne_nil (List.cons_ne_nil k ks)
  rw [flatKey_eq_encode, flatKey_eq_encode, normalize, normalize]
  rcases dropWhile_isEmpty_eq p with hp | ⟨k, ks, hk, hp⟩ <;>
    rcases dropWhile_isEmpty_eq q with hq | ⟨l, ls, hl, hq⟩ <;> rw [hp, hq]
  · simp
  · exact iff_of_false (EscapedPath.encode_ne_nil hl).symm (hmerge l ls).symm
  · exact iff_of_false (EscapedPath.encode_ne_nil hk) (hmerge k ks)
  · exact EscapedPath.encode_eq_iff hne (List.cons_ne_nil k ks) (List.cons_ne_nil l ls)

/-! ## Collisions -/

/-- The path leads to a value that is neither an object nor a floating point number, through at most
100 keys. -/
def LeafAt (j : Json) (p : List Str) (v : PushValue) : Prop :=
  ∃ x, j.atPath? p = some x ∧ leafValue x = some v ∧ p.length ≤ 100

/-- The path leads to an object, through at most 100 keys. -/
def ObjectAt (j : Json) (p : List Str) : Prop :=
  ∃ ms, j.atPath? p = some (.object ms) ∧ p.length ≤ 100

/-- The path of the member `m.mentions`. -/
def mentionsPath : List Str := ["content", "m.mentions"]

/-- Every flattened key denotes exactly one path, and the key of `m.mentions` denotes that of
`m.mentions`. -/
structure CollisionFree (j : Json) : Prop where
  /-- No value is overwritten. -/
  found : ∀ p v, LeafAt j p v → (flattenEvent j).find? (flatKey p) = some v
  /-- Different paths have different keys. -/
  injective : ∀ p q v w, LeafAt j p v → LeafAt j q w → flatKey p = flatKey q → p = q
  /-- Nothing but `m.mentions` appears as `m.mentions`. -/
  mentions : ∀ p, (∃ v, LeafAt j p v) ∨ ObjectAt j p → flatKey p = mentionsKey → p = mentionsPath

/-- The paths stay different without empty keys at the beginning and with keys that end in a
backslash joined with the next one. -/
structure NormallyDistinct (j : Json) : Prop where
  injective : ∀ p q v w, LeafAt j p v → LeafAt j q w → normalize p = normalize q → p = q
  mentions : ∀ p, (∃ v, LeafAt j p v) ∨ ObjectAt j p → normalize p = mentionsPath →
    p = mentionsPath

theorem flatKey_eq_mentionsKey_iff (p : List Str) :
    flatKey p = mentionsKey ↔ normalize p = mentionsPath := by
  have hkey : flatKey mentionsPath = mentionsKey := by decide
  have hnormal : normalize mentionsPath = mentionsPath := by decide
  rw [← hkey, flatKey_eq_iff, hnormal]

theorem mem_stored_nodes_iff {j : Json} (hj : j.sorted = true) {key : Str} {w : PushValue} :
    (key, w) ∈ (nodes j 0).filterMap (stored []) ↔
      (∃ p, LeafAt j p w ∧ flatKey p = key) ∨
      (∃ p, ObjectAt j p ∧ flatKey p = mentionsKey ∧ key = mentionsKey ∧ w = .null) := by
  rw [List.mem_filterMap]
  constructor
  · rintro ⟨⟨p, x⟩, hmem, hstored⟩
    obtain ⟨hat, hlen⟩ := (mem_nodes_iff j hj 0 p x).mp hmem
    rw [Nat.zero_add] at hlen
    rw [stored] at hstored
    split_ifs at hstored with hobject hkey
    · obtain ⟨rfl, rfl⟩ := Prod.mk.inj (Option.some.inj hstored)
      rcases x with - | b | i | u | f | s | xs | ms <;> try cases hobject
      exact Or.inr ⟨p, ⟨ms, hat, hlen⟩, hkey, rfl, rfl⟩
    · obtain ⟨v, hv, h⟩ := Option.map_eq_some_iff.mp hstored
      obtain ⟨rfl, rfl⟩ := Prod.mk.inj h
      exact Or.inl ⟨p, ⟨x, hat, hv, hlen⟩, rfl⟩
  · rintro (⟨p, ⟨x, hat, hv, hlen⟩, rfl⟩ | ⟨p, ⟨ms, hat, hlen⟩, hkey, rfl, rfl⟩)
    · have hobject : x.isObject = false := by
        rcases x with - | b | i | u | f | s | xs | ms <;> first | rfl | cases hv
      refine ⟨(p, x), (mem_nodes_iff j hj 0 p x).mpr ⟨hat, by omega⟩, ?_⟩
      rw [stored, if_neg (by simp [hobject]), hv]
      rfl
    · refine ⟨(p, .object ms), (mem_nodes_iff j hj 0 p _).mpr ⟨hat, by omega⟩, ?_⟩
      exact (if_pos rfl).trans (if_pos hkey)

theorem LeafAt.unique {j : Json} {p : List Str} {v w : PushValue} (hv : LeafAt j p v)
    (hw : LeafAt j p w) : v = w := by
  obtain ⟨x, hx, hv, -⟩ := hv
  obtain ⟨y, hy, hw, -⟩ := hw
  obtain rfl := Option.some.inj (hx.symm.trans hy)
  exact Option.some.inj (hv.symm.trans hw)

theorem LeafAt.not_objectAt {j : Json} {p : List Str} {v : PushValue} (hv : LeafAt j p v) :
    ¬ ObjectAt j p := by
  rintro ⟨ms, hms, -⟩
  obtain ⟨x, hx, hv, -⟩ := hv
  obtain rfl := Option.some.inj (hx.symm.trans hms)
  cases hv

/-- **When flattening an event is free of collisions.** -/
theorem collisionFree_iff (j : Json) (hj : j.sorted = true) :
    CollisionFree j ↔ NormallyDistinct j := by
  constructor
  · intro h
    exact ⟨fun p q v w hp hq hnormal ↦ h.injective p q v w hp hq ((flatKey_eq_iff p q).mpr hnormal),
      fun p hp hnormal ↦ h.mentions p hp ((flatKey_eq_mentionsKey_iff p).mpr hnormal)⟩
  · intro h
    have hinjective : ∀ p q v w, LeafAt j p v → LeafAt j q w → flatKey p = flatKey q → p = q :=
      fun p q v w hp hq hkey ↦ h.injective p q v w hp hq ((flatKey_eq_iff p q).mp hkey)
    have hmentions : ∀ p, (∃ v, LeafAt j p v) ∨ ObjectAt j p → flatKey p = mentionsKey →
        p = mentionsPath :=
      fun p hp hkey ↦ h.mentions p hp ((flatKey_eq_mentionsKey_iff p).mp hkey)
    refine ⟨fun p v hp ↦ ?_, hinjective, hmentions⟩
    rw [flattenEvent, flattenImpl_eq]
    refine find?_storeAll _ ?_ _ (Or.inl ((mem_stored_nodes_iff hj).mpr (Or.inl ⟨p, hp, rfl⟩)))
    rintro ⟨key, w⟩ hmem rfl
    rcases (mem_stored_nodes_iff hj).mp hmem with ⟨q, hq, hkey⟩ | ⟨q, hq, hkey, hp', -⟩
    · obtain rfl := hinjective q p w v hq hp hkey
      exact hq.unique hp
    · -- the mark of an object and a value would both stand for `m.mentions`
      have hqpath := hmentions q (Or.inr hq) hkey
      have hppath := hmentions p (Or.inl ⟨v, hp⟩) hp'
      rw [hqpath, ← hppath] at hq
      exact absurd hq hp.not_objectAt

/-! ## Examples -/

theorem path_mem_nodes {j : Json} (hj : j.sorted = true) {p : List Str}
    (hp : (∃ v, LeafAt j p v) ∨ ObjectAt j p) : p ∈ (nodes j 0).map Prod.fst := by
  rcases hp with ⟨v, x, hat, -, hlen⟩ | ⟨ms, hat, hlen⟩
  · exact List.mem_map.mpr ⟨(p, x), (mem_nodes_iff j hj 0 p x).mpr ⟨hat, by omega⟩, rfl⟩
  · exact List.mem_map.mpr ⟨(p, .object ms), (mem_nodes_iff j hj 0 p _).mpr ⟨hat, by omega⟩, rfl⟩

/-- It is enough to compare the paths that are met. -/
theorem normallyDistinct_of_nodes {j : Json} (hj : j.sorted = true)
    (h : ∀ p ∈ (nodes j 0).map Prod.fst, (∀ q ∈ (nodes j 0).map Prod.fst,
      normalize p = normalize q → p = q) ∧ (normalize p = mentionsPath → p = mentionsPath)) :
    NormallyDistinct j where
  injective p q v w hp hq :=
    (h p (path_mem_nodes hj (Or.inl ⟨v, hp⟩))).1 q (path_mem_nodes hj (Or.inl ⟨w, hq⟩))
  mentions p hp := (h p (path_mem_nodes hj hp)).2

/-- `"content":{"a.b":"c","m.mentions":{}},"sender":"@alice:example.org"`. -/
def dottedEvent : Json :=
  .object [
    ("content", .object [("a.b", .string "c"), ("m.mentions", .object [])]),
    ("sender", .string "@alice:example.org")]

/-- Dots alone do no harm. -/
theorem collisionFree_dottedEvent : dottedEvent.sorted = true ∧ CollisionFree dottedEvent :=
  ⟨by decide, (collisionFree_iff dottedEvent (by decide)).mpr
    (normallyDistinct_of_nodes (by decide) (by decide))⟩

/-- `"a.b":1,"a\\":{"b":2},"content":{"m\\":{"mentions":true}}`. -/
def forgedEvent : Json :=
  .object [
    ("a.b", .numberUnsigned 1),
    ("a\\", .object [("b", .numberUnsigned 2)]),
    ("content", .object [("m\\", .object [("mentions", .boolean true)])])]

/-- **A key that ends in a backslash overwrites another value, and makes `m.mentions` appear in an
event without it.** -/
theorem forgedEvent_collides : forgedEvent.sorted = true ∧ ¬ CollisionFree forgedEvent ∧
    (flattenEvent forgedEvent).find? (flatKey ["a.b"]) = some (.int 2) ∧
    (flattenEvent forgedEvent).find? mentionsKey = some (.bool true) := by
  refine ⟨by decide, fun h ↦ ?_, by decide, by decide⟩
  have hpath := h.injective ["a.b"] ["a\\", "b"] (.int 1) (.int 2)
    ⟨.numberUnsigned 1, by rfl, rfl, by decide⟩ ⟨.numberUnsigned 2, by rfl, rfl, by decide⟩
    (by decide)
  exact absurd hpath (by decide)

end PushRules

end Mtx
