import MtxClient.Crypto.Encoding
import MtxClient.Json.ReadBack

/-!
# Key files

The files that sessions are exported to: base64 between a header and a trailer line, and in it a
format byte, a salt, an initialization vector, the number of rounds of the key derivation, the
encrypted sessions and an HMAC of all that.  `readKeyFile` takes a file apart as
`decrypt_exported_sessions` does, and `ExportedSessionKeys.fromJson` reads what was encrypted.
-/

set_option autoImplicit false

namespace Mtx.Crypto

open Str

/-! ## Removing the header and the trailer -/

/-- `s.find(p)`. -/
def indexOf? (p : Str) : Str → Option ℕ
  | [] => if p.isEmpty then some 0 else none
  | b :: s => if p.isPrefixOf (b :: s) then some 0 else (indexOf? p s).map (· + 1)

/-- The loop of `remove_substrs`, run at most `fuel` times. -/
def removeLoop (p : Str) : ℕ → Str → Str
  | 0, s => s
  | fuel + 1, s =>
    match indexOf? p s with
    | some i => removeLoop p fuel (s.take i ++ s.drop (i + p.length))
    | none => s

/-- `remove_substrs`.  Each round removes a byte at least. -/
def removeSubstrs (s p : Str) : Str := removeLoop p s.length s

/-- `unpack_key_file`. -/
def unpackKeyFile (data : Str) : Str :=
  let unpacked := removeSubstrs data "-----BEGIN MEGOLM SESSION DATA-----"
  let unpacked := removeSubstrs unpacked "-----END MEGOLM SESSION DATA-----"
  removeSubstrs unpacked "\n"

theorem length_of_indexOf? {p s : Str} {i : ℕ} (h : indexOf? p s = some i) :
    i + p.length ≤ s.length := by
  induction s generalizing i with
  | nil =>
    rw [indexOf?] at h
    split_ifs at h with hp
    rw [← Option.some.inj h, List.isEmpty_iff.mp hp]
    exact Nat.le_refl 0
  | cons b s ih =>
    rw [indexOf?] at h
    split_ifs at h with hp
    · rw [← Option.some.inj h, Nat.zero_add]
      exact (List.isPrefixOf_iff_prefix.mp hp).length_le
    · obtain ⟨j, hj, rfl⟩ := Option.map_eq_some_iff.mp h
      have := ih hj
      rw [List.length_cons]
      omega

/-- With as many rounds as there are bytes, the loop ends because nothing is left to remove. -/
theorem indexOf?_removeLoop {p : Str} (hp : p ≠ []) (fuel : ℕ) (s : Str) (hs : s.length ≤ fuel) :
    indexOf? p (removeLoop p fuel s) = none := by
  induction fuel generalizing s with
  | zero =>
    rw [removeLoop, List.length_eq_zero_iff.mp (Nat.le_zero.mp hs), indexOf?, if_neg]
    rwa [List.isEmpty_iff]
  | succ fuel ih =>
    rw [removeLoop]
    split
    · next i hi =>
      have hlength := length_of_indexOf? hi
      have hpos := List.length_pos_iff.mpr hp
      refine ih _ ?_
      rw [List.length_append, List.length_take, List.length_drop]
      omega
    · next hnone => exact hnone

/-- **Nothing that was to be removed is left.** -/
theorem indexOf?_removeSubstrs (s : Str) {p : Str} (hp : p ≠ []) :
    indexOf? p (removeSubstrs s p) = none :=
  indexOf?_removeLoop hp s.length s (Nat.le_refl _)

/-- What is found consists of bytes of the text. -/
theorem mem_of_indexOf? {p s : Str} {i : ℕ} (h : indexOf? p s = some i) : ∀ b ∈ p, b ∈ s := by
  induction s generalizing i with
  | nil =>
    rw [indexOf?] at h
    split_ifs at h with hp
    simp [List.isEmpty_iff.mp hp]
  | cons b s ih =>
    rw [indexOf?] at h
    split_ifs at h with hp
    · exact fun c hc ↦ (List.isPrefixOf_iff_prefix.mp hp).mem hc
    · obtain ⟨j, hj, -⟩ := Option.map_eq_some_iff.mp h
      exact fun c hc ↦ List.mem_cons_of_mem b (ih hj c hc)

theorem removeSubstrs_of_none {p s : Str} (h : indexOf? p s = none) : removeSubstrs s p = s := by
  rw [removeSubstrs]
  rcases s.length with - | n
  · rfl
  · rw [removeLoop, h]

/-- Nothing is found before the first byte of what is looked for. -/
theorem indexOf?_append {c : UInt8} {u : Str} (hu : c ∉ u) (p s : Str) :
    indexOf? (c :: p) (u ++ s) = (indexOf? (c :: p) s).map (u.length + ·) := by
  induction u with
  | nil => simp
  | cons b u ih =>
    rw [List.mem_cons, not_or] at hu
    have hprefix : (c :: p).isPrefixOf (b :: u ++ s) = false := by
      simp [List.isPrefixOf, hu.1]
    rw [List.cons_append, indexOf?, ← List.cons_append, hprefix, if_neg Bool.false_ne_true,
      ih hu.2, Option.map_map]
    congr 1
    funext i
    rw [List.length_cons, Function.comp_apply]
    omega

theorem indexOf?_self_append {p : Str} (hp : p ≠ []) (s : Str) : indexOf? p (p ++ s) = some 0 := by
  obtain ⟨c, p, rfl⟩ := List.exists_cons_of_ne_nil hp
  rw [List.cons_append, indexOf?, if_pos]
  exact List.isPrefixOf_iff_prefix.mpr (List.prefix_append (c :: p) s)

/-- Something that stands in a text once. -/
theorem removeSubstrs_append {c : UInt8} {p u v : Str} (hu : c ∉ u)
    (hv : indexOf? (c :: p) v = none) : removeSubstrs (u ++ (c :: p ++ v)) (c :: p) = u ++ v := by
  have hfind : indexOf? (c :: p) (u ++ (c :: p ++ v)) = some u.length := by
    rw [indexOf?_append hu, indexOf?_self_append (List.cons_ne_nil c p)]
    rfl
  have hnone : indexOf? (c :: p) (u ++ v) = none := by
    rw [indexOf?_append hu, hv]
    rfl
  obtain ⟨n, hn⟩ : ∃ n, (u ++ (c :: p ++ v)).length = n + 1 :=
    ⟨u.length + (p ++ v).length, by simp; omega⟩
  rw [removeSubstrs, hn, removeLoop, hfind]
  dsimp only
  rw [List.take_left, ← List.drop_drop, List.drop_left, List.drop_left]
  rcases n with - | n
  · rfl
  · rw [removeLoop, hnone]

theorem indexOf?_first {c : UInt8} {u : Str} (hu : c ∉ u) (v : Str) :
    indexOf? [c] (u ++ c :: v) = some u.length := by
  rw [indexOf?_append hu, show c :: v = [c] ++ v from rfl,
    indexOf?_self_append (List.cons_ne_nil c [])]
  rfl

theorem not_mem_of_indexOf?_singleton {c : UInt8} {s : Str} (h : indexOf? [c] s = none) :
    c ∉ s := fun hc ↦ by
  obtain ⟨u, v, rfl, hu⟩ := List.eq_append_cons_of_mem hc
  rw [indexOf?_first hu] at h
  cases h

theorem filter_removeLoop (c : UInt8) (fuel : ℕ) (s : Str) :
    (removeLoop [c] fuel s).filter (· != c) = s.filter (· != c) := by
  induction fuel generalizing s with
  | zero => rfl
  | succ fuel ih =>
    rw [removeLoop]
    split
    · next i hi =>
      obtain ⟨u, v, rfl, hu⟩ :=
        List.eq_append_cons_of_mem (mem_of_indexOf? hi c List.mem_cons_self)
      rw [indexOf?_first hu] at hi
      obtain rfl := Option.some.inj hi
      rw [ih]
      simp
    · rfl

/-- Removing a byte. -/
theorem removeSubstrs_singleton (s : Str) (c : UInt8) :
    removeSubstrs s [c] = s.filter (· != c) := by
  have hmem : c ∉ removeSubstrs s [c] :=
    not_mem_of_indexOf?_singleton (indexOf?_removeSubstrs s (List.cons_ne_nil c []))
  rw [← filter_removeLoop c s.length s]
  refine (List.filter_eq_self.mpr fun b hb ↦ bne_iff_ne.mpr ?_).symm
  rintro rfl
  exact hmem hb

/-! ## The parts of a file -/

/-- A key file. -/
structure KeyFile where
  salt : Str
  iv : Str
  rounds : UInt32
  /-- The encrypted sessions. -/
  json : Str
  hmac : Str
  /-- Everything before the HMAC. -/
  signed : Str
  deriving DecidableEq

/-- `uint8_to_uint32`. -/
def uint8ToUint32 (b : Str) : UInt32 :=
  (b.getD 0 0).toUInt32 <<< 24 ||| (b.getD 1 0).toUInt32 <<< 16 ||| (b.getD 2 0).toUInt32 <<< 8 |||
    (b.getD 3 0).toUInt32

/-- `uint32_to_uint8`. -/
def uint32ToUint8 (u32 : UInt32) : Str :=
  [(u32 >>> 24).toUInt8, (u32 >>> 16).toUInt8, (u32 >>> 8).toUInt8, u32.toUInt8]

/-- The first half of `decrypt_exported_sessions`. -/
def readKeyFile (data : Str) : Except Exn KeyFile := do
  let binary_str := base642bin (unpackKeyFile data)
  throwIf (binary_str.length < 1 + 16 + 16 + 4 + 32 + 2)
    (.cryptoException "decrypt_exported_sessions" "Invalid session file: too short")
  throwIf (binary_str.head? ≠ some 0x01)
    (.cryptoException "decrypt_exported_sessions" "Unsupported backup file format.")
  let json_end := binary_str.length - 32
  return {
    salt := (binary_str.drop 1).take 16
    iv := (binary_str.drop 17).take 16
    rounds := uint8ToUint32 ((binary_str.drop 33).take 4)
    json := (binary_str.take json_end).drop 37
    hmac := binary_str.drop json_end
    signed := binary_str.take json_end }

/-! ## Exported sessions -/

/-- `ExportedSession`. -/
structure ExportedSession where
  sender_claimed_keys : SortedMap Str Str := SortedMap.empty
  forwarding_curve25519_key_chain : List Str := []
  algorithm : Str := "m.megolm.v1.aes-sha2"
  room_id : Str
  sender_key : Str
  session_id : Str
  session_key : Str
  deriving DecidableEq

/-- `from_json(ExportedSession)`. -/
def ExportedSession.fromJson (obj : Json) : Except Exn ExportedSession := do
  let room_id ← (← obj.atKey "room_id").getString
  let sender_key ← (← obj.atKey "sender_key").getString
  let session_id ← (← obj.atKey "session_id").getString
  let session_key ← (← obj.atKey "session_key").getString
  let sender_claimed_keys ←
    obj.optional "sender_claimed_keys" (Json.getMap Json.getString) SortedMap.empty
  let forwarding_curve25519_key_chain ←
    obj.optional "forwarding_curve25519_key_chain" (Json.getArray Json.getString) []
  return { sender_claimed_keys, forwarding_curve25519_key_chain, room_id, sender_key, session_id,
           session_key }

/-- `to_json(ExportedSession)`. -/
def ExportedSession.toJson (s : ExportedSession) : Json :=
  Json.ofMembers <| Json.noMembers
    |>.insert "sender_claimed_keys" (Json.ofMap .string s.sender_claimed_keys)
    |>.insert "forwarding_curve25519_key_chain"
      (Json.ofArray .string s.forwarding_curve25519_key_chain)
    |>.insert "algorithm" (.string s.algorithm)
    |>.insert "room_id" (.string s.room_id)
    |>.insert "sender_key" (.string s.sender_key)
    |>.insert "session_id" (.string s.session_id)
    |>.insert "session_key" (.string s.session_key)

/-- What is read back of a session: the algorithm is not. -/
def ExportedSession.reread (s : ExportedSession) : ExportedSession :=
  { s with algorithm := "m.megolm.v1.aes-sha2" }

theorem ExportedSession.fromJson_toJson (s : ExportedSession) :
    ExportedSession.fromJson s.toJson = .ok s.reread := by
  have hroom : s.toJson.atKey "room_id" = .ok (.string s.room_id) := Json.atKey_ofMembers (by simp)
  have hsender : s.toJson.atKey "sender_key" = .ok (.string s.sender_key) :=
    Json.atKey_ofMembers (by simp)
  have hid : s.toJson.atKey "session_id" = .ok (.string s.session_id) :=
    Json.atKey_ofMembers (by simp)
  have hkey : s.toJson.atKey "session_key" = .ok (.string s.session_key) :=
    Json.atKey_ofMembers (by simp)
  have hclaimed : s.toJson.optional "sender_claimed_keys" (Json.getMap Json.getString)
      SortedMap.empty = .ok s.sender_claimed_keys :=
    (Json.optional_ofMembers (v := Json.ofMap .string s.sender_claimed_keys) (by simp) _).trans
      (Json.getMap_ofMap Json.getString_string _)
  have hchain : s.toJson.optional "forwarding_curve25519_key_chain" (Json.getArray Json.getString)
      [] = .ok s.forwarding_curve25519_key_chain :=
    (Json.optional_ofMembers (v := Json.ofArray .string s.forwarding_curve25519_key_chain)
      (by simp) _).trans (Json.getArray_ofArray Json.getString_string _)
  rw [fromJson, hroom, hsender, hid, hkey, hclaimed, hchain]
  rfl

/-- `ExportedSessionKeys`. -/
structure ExportedSessionKeys where
  sessions : List ExportedSession
  deriving DecidableEq

/-- `from_json(ExportedSessionKeys)`. -/
def ExportedSessionKeys.fromJson (obj : Json) : Except Exn ExportedSessionKeys :=
  match obj.getArray ExportedSession.fromJson with
  | .ok sessions => .ok { sessions }
  | .error e =>
    if e.isJson then do
      -- might be the old format
      let sessions ← (← obj.atKey "sessions").getArray ExportedSession.fromJson
      return { sessions }
    else .error e

/-- `to_json(ExportedSessionKeys)`. -/
def ExportedSessionKeys.toJson (keys : ExportedSessionKeys) : Json :=
  Json.ofArray ExportedSession.toJson keys.sessions

theorem ExportedSessionKeys.fromJson_toJson (keys : ExportedSessionKeys) :
    ExportedSessionKeys.fromJson keys.toJson = .ok ⟨keys.sessions.map ExportedSession.reread⟩ := by
  have harray : keys.toJson.getArray ExportedSession.fromJson =
      .ok (keys.sessions.map ExportedSession.reread) :=
    Json.mapM_map_eq_ok ExportedSession.fromJson_toJson keys.sessions
  rw [fromJson, harray]

/-- In the old format the sessions are a member of an object. -/
theorem ExportedSessionKeys.fromJson_old (keys : ExportedSessionKeys) {obj : Json}
    (h : obj.find? "sessions" = some keys.toJson) :
    ExportedSessionKeys.fromJson obj = .ok ⟨keys.sessions.map ExportedSession.reread⟩ := by
  have hobject : obj.getArray ExportedSession.fromJson = .error (.jsonTypeError 302) := by
    have hobj := Json.isObject_of_find? h
    cases obj with
    | object ms => rfl
    | _ => cases hobj
  have harray : keys.toJson.getArray ExportedSession.fromJson =
      .ok (keys.sessions.map ExportedSession.reread) :=
    Json.mapM_map_eq_ok ExportedSession.fromJson_toJson keys.sessions
  rw [fromJson, hobject]
  dsimp only
  rw [if_pos (show (Exn.jsonTypeError 302).isJson = true from rfl), Json.atKey_of_find? h, ok_bind,
    harray]
  rfl

theorem ExportedSession.reread_eq_self_iff (s : ExportedSession) :
    s.reread = s ↔ s.algorithm = "m.megolm.v1.aes-sha2" := by
  obtain ⟨claimed, chain, algorithm, room_id, sender_key, session_id, session_key⟩ := s
  simp [reread, eq_comm]

/-- The sessions are read as they were written, by themselves and in the old format. -/
structure ExportedSessionKeys.Kept (keys : ExportedSessionKeys) : Prop where
  array : ExportedSessionKeys.fromJson keys.toJson = .ok keys
  old : ∀ obj : Json, obj.find? "sessions" = some keys.toJson →
    ExportedSessionKeys.fromJson obj = .ok keys

/-- **Exported sessions keep their members** if they have the algorithm that every session is read
with. -/
theorem ExportedSessionKeys.kept_iff (keys : ExportedSessionKeys) :
    keys.Kept ↔ ∀ s ∈ keys.sessions, s.algorithm = "m.megolm.v1.aes-sha2" := by
  have hsame : (⟨keys.sessions.map ExportedSession.reread⟩ : ExportedSessionKeys) = keys ↔
      ∀ s ∈ keys.sessions, s.algorithm = "m.megolm.v1.aes-sha2" := by
    obtain ⟨sessions⟩ := keys
    have hmap := List.map_inj_left (f := ExportedSession.reread) (g := id) (l := sessions)
    rw [List.map_id] at hmap
    rw [ExportedSessionKeys.mk.injEq, hmap]
    simp only [id, ExportedSession.reread_eq_self_iff]
  rw [← hsame]
  constructor
  · intro h
    exact Except.ok.inj (keys.fromJson_toJson.symm.trans h.array)
  · intro h
    refine ⟨by rw [keys.fromJson_toJson, h], ?_⟩
    intro obj hobj
    rw [keys.fromJson_old hobj, h]

/-- A session with another algorithm. -/
def otherSession : ExportedSession where
  algorithm := "m.megolm.v2.aes-sha2"
  room_id := "!room:example.com"
  sender_key := "k"
  session_id := "s"
  session_key := "m"

/-- It is read as one with the usual algorithm. -/
theorem not_kept_otherSession : ¬ (ExportedSessionKeys.mk [otherSession]).Kept := by
  intro h
  have hread := (ExportedSessionKeys.mk [otherSession]).fromJson_toJson.symm.trans h.array
  have hsessions := congrArg ExportedSessionKeys.sessions (Except.ok.inj hread)
  have halgorithm := (otherSession.reread_eq_self_iff).mp (List.cons.inj hsessions).1
  exact absurd halgorithm (by decide)

end Mtx.Crypto
