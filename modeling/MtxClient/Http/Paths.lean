import MtxClient.Http.Endpoints

/-!
# Request paths keep identifiers intact

An endpoint is intact if its segments, split at the slashes before the question mark and decoded,
are those of its route, and if it has no question mark but the builder's own and no fragment.

`Request.intact_iff_kept` settles this for all builders at once.  An encoded argument never does any
harm.  An argument that is written as it is must be `Safe`, and this is left to the caller by the
builders of account data and, for the media of a content uri, by those of thumbnails.
`report_event` forgets the slash in front of the room, so that its room is never found.
-/

set_option autoImplicit false

namespace Mtx.Http

open Str PercentEncoding
open Mtx.Events (EventType)

/-! ## What is expected -/

/-- The decoded segments in front of the question mark. -/
def segments (url : Str) : List Str := ((url.takeWhile (· != 63)).splitOn 47).map decode

/-- The endpoint addresses its route, and no argument adds a query or a fragment to it. -/
structure Endpoint.Intact (e : Endpoint) : Prop where
  segments : segments e.url = lit "" :: e.route
  query : e.url.count 63 = if e.query.isSome then 1 else 0
  fragment : 35 ∉ e.url

instance (e : Endpoint) : Decidable e.Intact :=
  decidable_of_iff (Http.segments e.url = lit "" :: e.route ∧
    e.url.count 63 = (if e.query.isSome then 1 else 0) ∧ e.url.elem 35 = false)
    ⟨fun ⟨h, h', h''⟩ ↦ ⟨h, h', by simpa using h''⟩, fun ⟨h, h', h''⟩ ↦ ⟨h, h', by simpa using h''⟩⟩

/-- A string without question marks, number signs and escapes. -/
def Clean (s : Str) : Prop := 63 ∉ s ∧ 35 ∉ s ∧ decode s = s

/-- A string that can stand in a path as it is. -/
def Safe (s : Str) : Prop := 47 ∉ s ∧ Clean s

instance (s : Str) : Decidable (Clean s) := inferInstanceAs (Decidable (_ ∧ _))

instance (s : Str) : Decidable (Safe s) := inferInstanceAs (Decidable (_ ∧ _))

/-- The condition under which a builder keeps its arguments intact. -/
def Request.Kept : Request → Prop
  | .reportEvent .. => False
  | .putAccountData _ type | .getAccountData _ type
  | .putRoomAccountData _ _ type | .getRoomAccountData _ _ type => Safe type
  | .getThumbnail opts | .getThumbnailFallback opts =>
    Clean (parseMxcUrl opts.mxc_url).server ∧ Clean (parseMxcUrl opts.mxc_url).media_id
  | _ => True

/-! ## Encoded strings -/

/-- The bytes that end a segment, a path or a query. -/
def delimiters : List UInt8 := [47, 63, 35]

theorem forall_delimiters {p : UInt8 → Prop} (hslash : p 47) (hquestion : p 63) (hhash : p 35) :
    ∀ b ∈ delimiters, p b := by
  intro b hb
  rw [delimiters, List.mem_cons, List.mem_cons, List.mem_singleton] at hb
  rcases hb with rfl | rfl | rfl
  · exact hslash
  · exact hquestion
  · exact hhash

theorem isDelimiter {b : UInt8} (h : b ∈ delimiters) : IsDelimiter isKept b := by
  have hall : ∀ b ∈ delimiters, isKept b = false ∧ b ≠ 37 ∧ hexValue b = none :=
    forall_delimiters (by decide) (by decide) (by decide)
  exact hall b h

theorem not_mem_urlEncode {b : UInt8} (h : b ∈ delimiters) (s : Str) : b ∉ urlEncode s :=
  (isDelimiter h).not_mem_encode s

/-- No argument of a query can end it. -/
theorem not_mem_queryParams {b : UInt8} (h : b ∈ delimiters) {params : SortedMap Str Str}
    (hkeys : params.All fun k _ ↦ b ∉ k) : b ∉ queryParams params := by
  have hsign : ∀ b ∈ delimiters, b ∉ lit "=" ∧ b ∉ lit "&" :=
    forall_delimiters (by decide) (by decide) (by decide)
  obtain ⟨hequals, hand⟩ := hsign b h
  have hentry : ∀ e ∈ params.entries, b ∉ e.1 := fun e he ↦
    hkeys e.1 e.2 (SortedMap.mem_entries_iff.mp he)
  unfold queryParams
  rcases hentries : params.entries with - | ⟨e, rest⟩
  · exact List.not_mem_nil
  · rw [hentries] at hentry
    have hrest : ∀ e ∈ rest, b ∉ e.1 := fun e he ↦ hentry e (List.mem_cons_of_mem _ he)
    simp only [List.mem_append, List.mem_flatMap, not_or, not_exists, not_and]
    exact ⟨⟨⟨hentry e List.mem_cons_self, hequals⟩, not_mem_urlEncode h _⟩,
      fun e he ↦ ⟨⟨⟨hand, hrest e he⟩, hequals⟩, not_mem_urlEncode h _⟩⟩

theorem not_mem_viaQuery {b : UInt8} (h : b ∈ delimiters) {key : String} (hkey : b ∉ lit key)
    (via : List Str) : b ∉ Endpoint.viaQuery key via := by
  have hand : ∀ b ∈ delimiters, b ∉ lit "&" :=
    forall_delimiters (by decide) (by decide) (by decide)
  rcases via with - | ⟨v, rest⟩
  · exact List.not_mem_nil
  · simp only [Endpoint.viaQuery, List.mem_append, List.mem_flatMap, not_or, not_exists, not_and]
    exact ⟨⟨hkey, not_mem_urlEncode h v⟩,
      fun w _ ↦ ⟨⟨hand b h, hkey⟩, not_mem_urlEncode h w⟩⟩

theorem not_mem_joinQuery {b : UInt8} (h : b ∈ delimiters) {via : List Str} {query : Str}
    (hquery : Endpoint.joinQuery via = some query) : b ∉ query := by
  have hkeys : ∀ b ∈ delimiters, b ∉ lit "server_name=" ∧ b ∉ lit "&via=" :=
    forall_delimiters (by decide) (by decide) (by decide)
  unfold Endpoint.joinQuery at hquery
  split_ifs at hquery
  cases hquery
  simp only [List.mem_append, List.mem_flatMap, not_or, not_exists, not_and]
  exact ⟨not_mem_viaQuery h (hkeys b h).1 via,
    fun v _ ↦ ⟨(hkeys b h).2, not_mem_urlEncode h v⟩⟩

/-! ## Paths as parts -/

/-- The parts of a piece. -/
def Piece.parts : Piece → List Part
  | .text s => s.map .byte
  | .encoded s => [.encoded s]
  | .raw s => [.raw s]

theorem Piece.render_parts (p : Piece) : render isKept p.parts = p.bytes := by
  rcases p with s | s | s
  · simp [render, parts, bytes, List.flatMap_map, Part.render]
  · exact List.append_nil _
  · exact List.append_nil _

namespace Endpoint

/-- The parts of the path. -/
def parts (e : Endpoint) : List Part := e.path.flatMap Piece.parts

theorem render_parts (e : Endpoint) :
    render isKept e.parts = e.path.flatMap Piece.bytes := by
  unfold parts render
  rw [List.flatMap_assoc]
  exact List.flatMap_congr fun p _ ↦ p.render_parts

/-- The parts between the slashes. -/
def pieces (e : Endpoint) : List (List Part) := e.parts.splitOn (.byte 47)

/-- No byte that the builder writes itself can end the path or start an escape. -/
def plain : Part → Bool
  | .byte b => b != 37 && b != 35 && b != 63
  | _ => true

def isRaw : Part → Bool
  | .raw _ => true
  | _ => false

/-- Does an argument that is written as it is fill the segment it is in? -/
def alone : List Part → Bool
  | [.raw _] => true
  | l => l.all fun p ↦ !isRaw p

theorem alone_iff {l : List Part} (h : alone l = true) : Alone l := by
  unfold alone at h
  split at h
  · exact Or.inr ⟨_, rfl⟩
  · refine Or.inl (List.eq_nil_iff_forall_not_mem.mpr fun s hs ↦ ?_)
    exact absurd (List.all_eq_true.mp h _ (mem_raws.mp hs)) (by simp [isRaw])

/-- The conditions on the literal text of a path and on what the builder puts behind it. -/
structure Tidy (e : Endpoint) : Prop where
  plain : e.parts.all plain = true
  alone : e.pieces.all alone = true
  query : ∀ q, e.query = some q → 63 ∉ q ∧ 35 ∉ q

variable {e : Endpoint}

theorem Tidy.byte_not_mem (h : e.Tidy) {b : UInt8} (hb : b = 37 ∨ b = 35 ∨ b = 63) :
    Part.byte b ∉ e.parts := by
  intro hmem
  have hplain := List.all_eq_true.mp h.plain _ hmem
  rcases hb with rfl | rfl | rfl <;> exact absurd hplain (by decide)

/-- A question mark or a number sign in the path comes from an argument written as it is. -/
theorem Tidy.mem_path (h : e.Tidy) {b : UInt8} (hb : b = 35 ∨ b = 63) :
    b ∈ e.path.flatMap Piece.bytes ↔ ∃ s ∈ raws e.parts, b ∈ s := by
  have hdel : b ∈ delimiters := by rcases hb with rfl | rfl <;> decide
  rw [← render_parts, mem_render (isDelimiter hdel)]
  exact or_iff_right (h.byte_not_mem (Or.inr hb))

theorem segments_url (h : 63 ∉ e.path.flatMap Piece.bytes) :
    segments e.url = ((render isKept e.parts).splitOn 47).map decode := by
  have hpath : ∀ b ∈ e.path.flatMap Piece.bytes, (b != 63) = true := fun b hb ↦
    bne_iff_ne.mpr fun hb' ↦ h (hb' ▸ hb)
  rw [render_parts, segments, url, List.takeWhile_append_of_pos hpath]
  rcases e.query with - | q
  · rw [List.takeWhile_nil, List.append_nil]
  · rw [List.takeWhile_cons_of_neg (by decide), List.append_nil]

/-- The question marks of an endpoint. -/
theorem Tidy.count_query (h : e.Tidy) :
    e.url.count 63 =
      (e.path.flatMap Piece.bytes).count 63 + if e.query.isSome then 1 else 0 := by
  rw [url, List.count_append]
  rcases hq : e.query with - | q
  · rfl
  · have hnone : q.count 63 = 0 := List.count_eq_zero.mpr (h.query q hq).1
    simp [hnone]

theorem Tidy.fragment_iff (h : e.Tidy) : 35 ∉ e.url ↔ 35 ∉ e.path.flatMap Piece.bytes := by
  rw [url, List.mem_append, not_or]
  refine and_iff_left ?_
  rcases hq : e.query with - | q
  · exact List.not_mem_nil
  · have hnone := (h.query q hq).2
    simp [hnone]

/-- When the slashes of the path are those of its parts. -/
theorem Tidy.read_iff (h : e.Tidy) :
    ((render isKept e.parts).splitOn 47).map decode = e.pieces.map value ↔
      ∀ s ∈ raws e.parts, 47 ∉ s ∧ decode s = s := by
  have hkeep : isKept 37 = false := by decide
  have hslash : IsDelimiter isKept 47 := isDelimiter (by decide)
  have halone : ∀ t ∈ e.parts.splitOn (.byte 47), Alone t := fun t ht ↦
    alone_iff (List.all_eq_true.mp h.alone t ht)
  exact decode_splitOn_render_iff hkeep hslash (h.byte_not_mem (Or.inl rfl)) halone

/-- If all arguments are encoded, the segments are what the parts stand for. -/
theorem Tidy.segments_url_of_raws_nil (h : e.Tidy) (hraws : raws e.parts = []) :
    Http.segments e.url = e.pieces.map value := by
  have hnone : ∀ s ∈ raws e.parts, 47 ∉ s ∧ decode s = s := fun s hs ↦ by
    rw [hraws] at hs
    exact absurd hs List.not_mem_nil
  rw [segments_url fun hb ↦ ?_, h.read_iff.mpr hnone]
  obtain ⟨s, hs, -⟩ := (h.mem_path (Or.inr rfl)).mp hb
  rw [hraws] at hs
  exact List.not_mem_nil hs

/-- **An endpoint whose parts are those of its route is intact exactly if every argument that is
written as it is can stand in a path.** -/
theorem Tidy.intact_iff_safe (h : e.Tidy) (hroute : e.pieces.map value = lit "" :: e.route) :
    e.Intact ↔ ∀ s ∈ raws e.parts, Safe s := by
  have hread := h.read_iff
  rw [hroute] at hread
  have hquery := h.mem_path (b := 63) (Or.inr rfl)
  have hfragment := h.mem_path (b := 35) (Or.inl rfl)
  constructor
  · intro hintact
    have hcount := hintact.query
    rw [h.count_query] at hcount
    have hno : 63 ∉ e.path.flatMap Piece.bytes := List.count_eq_zero.mp (by omega)
    have hno' := h.fragment_iff.mp hintact.fragment
    have hsegments := hread.mp ((segments_url hno).symm.trans hintact.segments)
    exact fun s hs ↦ ⟨(hsegments s hs).1, fun hb ↦ hno (hquery.mpr ⟨s, hs, hb⟩),
      fun hb ↦ hno' (hfragment.mpr ⟨s, hs, hb⟩), (hsegments s hs).2⟩
  · intro hsafe
    have hno : 63 ∉ e.path.flatMap Piece.bytes := fun hb ↦ by
      obtain ⟨s, hs, hb⟩ := hquery.mp hb
      exact (hsafe s hs).2.1 hb
    refine ⟨?_, ?_, h.fragment_iff.mpr fun hb ↦ ?_⟩
    · rw [segments_url hno, hread.mpr fun s hs ↦ ⟨(hsafe s hs).1, (hsafe s hs).2.2.2⟩]
    · rw [h.count_query, List.count_eq_zero.mpr hno, Nat.zero_add]
    · obtain ⟨s, hs, hb⟩ := hfragment.mp hb
      exact (hsafe s hs).2.2.1 hb

end Endpoint

/-! ## The builders -/

/-- No part of a content uri has a slash in it. -/
theorem slash_not_mem_parseMxcUrl (url : Str) :
    47 ∉ (parseMxcUrl url).server ∧ 47 ∉ (parseMxcUrl url).media_id := by
  have hpart : ∀ part ∈ (url.drop 6).splitOn 47, 47 ∉ part := fun part hpart ↦
    not_mem_of_mem_splitOn hpart
  unfold parseMxcUrl
  split_ifs
  · split
    · rename_i server media_id heq
      rw [heq] at hpart
      exact ⟨hpart server (by simp), hpart media_id (by simp)⟩
    · obtain ⟨part, rest, heq⟩ :=
        List.exists_cons_of_ne_nil (List.splitOn_ne_nil 47 (url.drop 6))
      rw [heq] at hpart ⊢
      exact ⟨hpart part List.mem_cons_self, List.not_mem_nil⟩
  · exact ⟨List.not_mem_nil, List.not_mem_nil⟩

namespace Request

/-- The arguments that a builder writes as they are. -/
def raws : Request → List Str
  | .putAccountData _ type | .getAccountData _ type
  | .putRoomAccountData _ _ type | .getRoomAccountData _ _ type => [type]
  | .sendRoomMessage _ event_type _ | .sendStateEvent _ event_type _ => [event_type.toStr]
  | .getThumbnail opts | .getThumbnailFallback opts =>
    [(parseMxcUrl opts.mxc_url).server, (parseMxcUrl opts.mxc_url).media_id]
  | _ => []

theorem raws_parts (r : Request) : PercentEncoding.raws r.endpoint.parts = r.raws := by
  cases r <;> rfl

theorem not_mem_query {b : UInt8} (hb : b ∈ delimiters) (r : Request) {query : Str}
    (h : r.endpoint.query = some query) : b ∉ query := by
  have hkeys : ∀ b ∈ delimiters, ∀ key ∈ (["at", "dir", "filter", "from", "height", "limit",
    "max_depth", "membership", "method", "not_membership", "suggested_only", "to", "version",
    "via=", "width"] : List Str), b ∉ key :=
    forall_delimiters (by decide) (by decide) (by decide)
  have hkey := hkeys b hb
  have hempty : (SortedMap.empty : QueryParams).All fun k _ ↦ b ∉ k := SortedMap.All.empty
  cases r with
  | joinRoom room via | knockRoom room via => exact not_mem_joinQuery hb h
  | members room_id at_ membership not_membership =>
    cases h
    exact not_mem_queryParams hb (((hempty.insertIf (hkey _ (by simp))).insertIf
      (hkey _ (by simp))).insertIf (hkey _ (by simp)))
  | messages opts =>
    cases h
    exact not_mem_queryParams hb (((((hempty.insert (hkey _ (by simp))).insertIf
      (hkey _ (by simp))).insertIf (hkey _ (by simp))).insertIf
      (hkey _ (by simp))).insertIf (hkey _ (by simp)))
  | getHierarchy room_id from_ limit max_depth suggested_only =>
    unfold endpoint Endpoint.getHierarchy at h
    dsimp only at h
    split_ifs at h
    cases h
    exact not_mem_queryParams hb ((((hempty.insertIf (hkey _ (by simp))).insertIf
      (hkey _ (by simp))).insertIf (hkey _ (by simp))).insertIf (hkey _ (by simp)))
  | getSummary room_id via =>
    unfold endpoint Endpoint.getSummary at h
    dsimp only at h
    split_ifs at h
    cases h
    exact not_mem_viaQuery hb (hkey _ (by simp)) via
  | roomKeys version room_id session_id | putRoomKeys version room_id session_id
  | roomKeysOfRoom version room_id | putRoomKeysOfRoom version room_id =>
    cases h
    exact not_mem_queryParams hb (hempty.insert (hkey _ (by simp)))
  | getThumbnail opts | getThumbnailFallback opts =>
    cases h
    exact not_mem_queryParams hb (((hempty.insert (hkey _ (by simp))).insert
      (hkey _ (by simp))).insert (hkey _ (by simp)))
  | _ => exact absurd h.symm (Option.some_ne_none query)

theorem tidy (r : Request) : r.endpoint.Tidy where
  plain := by cases r <;> rfl
  alone := by cases r <;> rfl
  query := fun q hq ↦ ⟨r.not_mem_query (by decide) hq, r.not_mem_query (by decide) hq⟩

/-- All builders but one write the parts of their route. -/
theorem value_pieces (r : Request) (h : ∀ room_id event_id, r ≠ reportEvent room_id event_id) :
    r.endpoint.pieces.map value = lit "" :: r.endpoint.route := by
  cases r with
  | reportEvent room_id event_id => exact absurd rfl (h room_id event_id)
  | _ => rfl

theorem safe_toStr (type : EventType) : Safe type.toStr := by
  cases type <;> decide

/-- In `report_event` the room is part of the segment in front of it. -/
theorem not_intact_reportEvent (room_id event_id : Str) :
    ¬(reportEvent room_id event_id).endpoint.Intact := by
  intro hintact
  have hread := (reportEvent room_id event_id).tidy.segments_url_of_raws_nil rfl
  have hlen := congrArg List.length (hread.symm.trans hintact.segments)
  rw [List.length_map] at hlen
  exact absurd (show 6 = 7 from hlen) (by decide)

/-- **A builder keeps its arguments intact exactly under its condition**: they are segments of their
own, decode to what was given, and add neither a query nor a fragment. -/
theorem intact_iff_kept (r : Request) : r.endpoint.Intact ↔ r.Kept := by
  have hkept (h : ∀ room_id event_id, r ≠ reportEvent room_id event_id) :
      r.endpoint.Intact ↔ ∀ s ∈ r.raws, Safe s := by
    rw [r.tidy.intact_iff_safe (r.value_pieces h), raws_parts]
  cases r with
  | reportEvent room_id event_id =>
    exact iff_false_intro (not_intact_reportEvent room_id event_id)
  | putAccountData user_id_ type | getAccountData user_id_ type
  | putRoomAccountData user_id_ room_id type | getRoomAccountData user_id_ room_id type =>
    rw [hkept (by simp), raws, List.forall_mem_singleton, Kept]
  | getThumbnail opts | getThumbnailFallback opts =>
    have hslash := slash_not_mem_parseMxcUrl opts.mxc_url
    rw [hkept (by simp), raws, Kept, List.forall_mem_cons, List.forall_mem_singleton]
    exact and_congr (and_iff_right hslash.1) (and_iff_right hslash.2)
  | sendRoomMessage room_id event_type txn_id | sendStateEvent room_id event_type state_key =>
    rw [hkept (by simp), raws, List.forall_mem_singleton]
    exact iff_true_intro (safe_toStr event_type)
  | _ => exact (hkept (by simp)).trans (iff_true_intro fun s hs ↦ absurd hs List.not_mem_nil)

/-- A report that misses its room, account data whose type has a slash in it, and a thumbnail whose
id begins a query. -/
theorem not_intact :
    ¬(reportEvent "!room:example.org" "$event").endpoint.Intact ∧
      ¬(putAccountData "@user:example.org" "org.example/settings").endpoint.Intact ∧
      ¬(getThumbnail { mxc_url := "mxc://example.org/id?width=9999" }).endpoint.Intact := by
  decide

end Request

end Mtx.Http
