import MtxClient.Events.State
import MtxClient.Json.ReadBack
import MtxClient.Lib.Decimal

/-!
# The creators of a room

From room version 12 on, the sender of the create event and the additional creators have power
without limit.  `PowerLevels::user_level` gives them the largest number there is, and tells the
versions apart by the length of their name and two exceptions.

`userLevel_creators` is about every way to write levels down: integers are in the range of Matrix,
and a floating point number cannot be the largest level, which is odd and has 63 bits.
-/

set_option autoImplicit false

namespace Mtx.Events

open Str

/-! ## Levels -/

/-- An integer is a level that Matrix allows. -/
def LevelInRange : Json → Prop
  | .numberInteger i => i.toInt.natAbs ≤ 2 ^ 53 - 1
  | .numberUnsigned u => u.toNat ≤ 2 ^ 53 - 1
  | _ => True

/-- The members that are levels. -/
def levelKeys : List Str :=
  ["ban", "invite", "kick", "redact", "events_default", "users_default", "state_default"]

/-- The members that are maps of levels. -/
def levelMapKeys : List Str := ["events", "users", "notifications"]

/-- Every integer that is written as a level is one that Matrix allows. -/
structure LevelsInRange (obj : Json) : Prop where
  levels : ∀ key ∈ levelKeys, ∀ v, obj.find? key = some v → LevelInRange v
  maps : ∀ key ∈ levelMapKeys, ∀ ms, obj.find? key = some (.object ms) → ∀ e ∈ ms, LevelInRange e.2

/-- The absolute value of a floating point number without what is behind the point. -/
def magnitude (exponent fraction : ℕ) : ℕ :=
  if exponent < 1023 then 0
  else if exponent < 1075 then (2 ^ 52 + fraction) / 2 ^ (1075 - exponent)
  else (2 ^ 52 + fraction) * 2 ^ (exponent - 1075)

/-- The fraction of a floating point number is too short for the largest level. -/
theorem magnitude_ne (exponent : ℕ) {fraction : ℕ} (h : fraction < 2 ^ 52) :
    magnitude exponent fraction ≠ 2 ^ 63 - 1 := by
  rw [magnitude]
  split_ifs with hsmall hshort
  · decide
  · have hle := Nat.div_le_self (2 ^ 52 + fraction) (2 ^ (1075 - exponent))
    omega
  · rcases hshift : exponent - 1075 with - | shift
    · omega
    · -- the largest level is odd
      have heven : (2 ^ 52 + fraction) * 2 ^ (shift + 1) =
          (2 ^ 52 + fraction) * 2 ^ shift * 2 := by
        rw [pow_succ 2 shift, Nat.mul_assoc]
      omega

theorem truncate_ne {bits : UInt64} {n : ℤ} (h : Json.truncate bits = some n) :
    n ≠ 2 ^ 63 - 1 := by
  have hfraction : (bits &&& 0xFFFFFFFFFFFFF).toNat < 2 ^ 52 := by
    rw [UInt64.toNat_and]
    exact Nat.and_lt_two_pow _ (by decide)
  have hne := magnitude_ne ((bits >>> 52) &&& 0x7FF).toNat hfraction
  have htruncate : Json.truncate bits =
      if ((bits >>> 52) &&& 0x7FF).toNat = 0x7FF then none
      else some (if bits >>> 63 = 1 then
          -(magnitude ((bits >>> 52) &&& 0x7FF).toNat (bits &&& 0xFFFFFFFFFFFFF).toNat : ℤ)
        else magnitude ((bits >>> 52) &&& 0x7FF).toNat (bits &&& 0xFFFFFFFFFFFFF).toNat) := rfl
  rw [htruncate] at h
  generalize magnitude _ _ = m at h hne
  split_ifs at h
  · obtain rfl := Option.some.inj h
    omega
  · obtain rfl := Option.some.inj h
    omega

/-- No level that is read is the one of the creators. -/
theorem lt_creatorLevel {j : Json} {level : Int64} (h : j.getInt64 = .ok level)
    (hrange : LevelInRange j) : level < creatorLevel := by
  rw [Int64.lt_iff_toInt_lt]
  have hmax : creatorLevel.toInt = 2 ^ 63 - 1 := rfl
  have hle := level.toInt_le
  rcases j with - | b | i | u | bits | t | xs | ms
  case numberInteger =>
    obtain rfl := Except.ok.inj h
    have hrange' : i.toInt.natAbs ≤ 2 ^ 53 - 1 := hrange
    omega
  case numberUnsigned =>
    obtain rfl := Except.ok.inj h
    have hrange' : u.toNat ≤ 2 ^ 53 - 1 := hrange
    have hint : u.toInt64.toInt = u.toNat := BitVec.toInt_eq_toNat_of_lt (by
      show 2 * u.toNat < 2 ^ 64
      omega)
    omega
  case numberFloat =>
    rw [Json.getInt64, Json.castFloat] at h
    rcases htruncate : Json.truncate bits with - | n
    · rw [htruncate] at h
      cases h
    · rw [htruncate] at h
      dsimp only at h
      split_ifs at h with hfits
      · obtain rfl := Except.ok.inj h
        have hne := truncate_ne htruncate
        rw [Int64.toInt_ofInt_of_le hfits.1 (by omega)]
        omega
      · cases h
  all_goals cases h

/-- The values of a map that is read are those of the object. -/
theorem getMap_all {α : Type} {get : Json → Except Exn α} {j : Json} {m : SortedMap Str α}
    (h : j.getMap get = .ok m) :
    ∃ ms, j = .object ms ∧ m.All fun _ a ↦ ∃ e ∈ ms, get e.2 = .ok a := by
  rcases j with - | b | i | u | bits | t | xs | ms
  case object =>
    obtain ⟨es, hes, hm⟩ := bind_eq_ok_iff.mp h
    obtain rfl := Except.ok.inj hm
    refine ⟨ms, rfl, SortedMap.all_ofList fun e he ↦ ?_⟩
    obtain ⟨x, hx, hread⟩ := (mem_of_mapM_eq_ok hes).1 e he
    obtain ⟨a, ha, hpair⟩ := bind_eq_ok_iff.mp hread
    obtain rfl := Except.ok.inj hpair
    exact ⟨x, hx, ha⟩
  all_goals cases h

/-- The levels that are read are below the one of the creators. -/
structure PowerLevels.BelowCreators (p : PowerLevels) : Prop where
  users_default : p.users_default < creatorLevel
  users : p.users.All fun _ level ↦ level < creatorLevel

theorem PowerLevels.belowCreators_of_fromJson {obj : Json} {p : PowerLevels}
    (h : PowerLevels.fromJson obj = .ok p) (hrange : LevelsInRange obj) : p.BelowCreators := by
  obtain ⟨ban, -, h⟩ := bind_eq_ok_iff.mp h
  obtain ⟨invite, -, h⟩ := bind_eq_ok_iff.mp h
  obtain ⟨kick, -, h⟩ := bind_eq_ok_iff.mp h
  obtain ⟨redact, -, h⟩ := bind_eq_ok_iff.mp h
  obtain ⟨events, -, h⟩ := bind_eq_ok_iff.mp h
  obtain ⟨users, husers, h⟩ := bind_eq_ok_iff.mp h
  obtain ⟨events_default, -, h⟩ := bind_eq_ok_iff.mp h
  obtain ⟨users_default, husers_default, h⟩ := bind_eq_ok_iff.mp h
  obtain ⟨state_default, -, h⟩ := bind_eq_ok_iff.mp h
  obtain ⟨notifications, -, h⟩ := bind_eq_ok_iff.mp h
  obtain rfl := Except.ok.inj h
  constructor
  · rw [Json.optional] at husers_default
    rcases hfind : obj.find? "users_default" with - | v
    · rw [hfind] at husers_default
      obtain rfl := Except.ok.inj husers_default
      show (0 : Int64) < creatorLevel
      decide
    · rw [hfind] at husers_default
      exact lt_creatorLevel husers_default (hrange.levels _ (by decide) v hfind)
  · rw [Json.optional] at husers
    rcases hfind : obj.find? "users" with - | v
    · rw [hfind] at husers
      obtain rfl := Except.ok.inj husers
      exact SortedMap.All.empty
    · rw [hfind] at husers
      obtain ⟨ms, rfl, hall⟩ := getMap_all husers
      intro user level hlevel
      obtain ⟨e, he, hread⟩ := hall user level hlevel
      exact lt_creatorLevel hread (hrange.maps _ (by decide) ms hfind e he)

/-! ## Versions -/

/-- The name of a room version that is a number is told apart from the ones before version 12. -/
theorem infinitePower_iff {c : Create} {n : ℕ} (h : c.room_version = lit (toString n)) :
    c.roomVersionCreatorsWithInfinitePower = true ↔ 12 ≤ n := by
  have hne : ∀ m : ℕ, lit n.repr = lit m.repr ↔ n = m := fun m ↦ by
    constructor
    · intro heq
      rw [← (Decimal.isNumber_repr n).2, heq, (Decimal.isNumber_repr m).2]
    · rintro rfl
      rfl
  have hlength : 1 < (lit n.repr).length ↔ 10 ≤ n := by
    by_cases hlt : n < 10
    · rw [Decimal.lit_repr_of_lt hlt, List.length_singleton]
      omega
    · have hpos := List.length_pos_of_ne_nil
        (Decimal.isNumber_iff.mp (Decimal.isNumber_repr (n / 10)).1).1
      rw [Nat.repr_eq_repr_append_repr (by omega), Decimal.lit_append, List.length_append,
        Decimal.lit_repr_of_lt (by omega : n % 10 < 10), List.length_singleton]
      omega
  have hten := hne 10
  have heleven := hne 11
  have hversion : c.room_version = lit n.repr := h
  rw [Create.roomVersionCreatorsWithInfinitePower, hversion, Bool.and_eq_true, Bool.and_eq_true,
    decide_eq_true_iff, bne_iff_ne, bne_iff_ne, gt_iff_lt, hlength]
  show (10 ≤ n ∧ ¬ lit n.repr = lit (10 : ℕ).repr) ∧ ¬ lit n.repr = lit (11 : ℕ).repr ↔ 12 ≤ n
  rw [hten, heleven]
  omega

/-! ## Power -/

/-- The sender of the create event and the additional creators. -/
def IsCreator (create : StateEvent Create) (user_id : Str) : Prop :=
  user_id = create.sender ∨ user_id ∈ create.content.additional_creators

/-- What a level is required for. -/
inductive Requirement where
  | ban
  | kick
  | invite
  | redact
  | event (event_type : Str)
  | state (event_type : Str)
  | notification (notification_key : Str)

/-- The level that is required. -/
def PowerLevels.required (p : PowerLevels) : Requirement → Int64
  | .ban => p.ban
  | .kick => p.kick
  | .invite => p.invite
  | .redact => p.redact
  | .event event_type => p.eventLevel event_type
  | .state event_type => p.stateLevel event_type
  | .notification notification_key => p.notificationLevel notification_key

theorem userLevel_of_isCreator (p : PowerLevels) {create : StateEvent Create} {user_id : Str}
    (hversion : create.content.roomVersionCreatorsWithInfinitePower = true)
    (h : IsCreator create user_id) : p.userLevel user_id create = creatorLevel := by
  rw [PowerLevels.userLevel, hversion, Bool.true_and, if_pos]
  rw [Bool.or_eq_true, beq_iff_eq, List.contains_iff_mem]
  exact h.imp_left Eq.symm

theorem userLevel_of_not {p : PowerLevels} {create : StateEvent Create} {user_id : Str}
    (h : create.content.roomVersionCreatorsWithInfinitePower = true →
      ¬ IsCreator create user_id) :
    p.userLevel user_id create = (p.users.find? user_id).getD p.users_default := by
  rw [PowerLevels.userLevel, if_neg]
  rw [Bool.and_eq_true, Bool.or_eq_true, beq_iff_eq, List.contains_iff_mem]
  rintro ⟨hversion, hcreator⟩
  exact h hversion (hcreator.imp_left Eq.symm)

/-- Who is not a creator has a level that was written down. -/
theorem PowerLevels.BelowCreators.listed_lt {p : PowerLevels} (h : p.BelowCreators)
    (user_id : Str) : (p.users.find? user_id).getD p.users_default < creatorLevel := by
  rcases hfind : p.users.find? user_id with - | level
  · exact h.users_default
  · exact h.users user_id level hfind

/-- **From version 12 on, every creator reaches every level that can be required and is above
everyone else, whatever the power levels say; before, only the power levels count.** -/
theorem userLevel_creators {obj : Json} {p : PowerLevels} (hp : PowerLevels.fromJson obj = .ok p)
    (hrange : LevelsInRange obj) {create : StateEvent Create} {n : ℕ}
    (hversion : create.content.room_version = lit (toString n)) :
    (12 ≤ n → ∀ user_id, IsCreator create user_id →
      (∀ r, p.required r ≤ p.userLevel user_id create) ∧
        ∀ other, ¬ IsCreator create other →
          p.userLevel other create < p.userLevel user_id create) ∧
    (n < 12 → ∀ user_id,
      p.userLevel user_id create = (p.users.find? user_id).getD p.users_default) := by
  have hinfinite := infinitePower_iff hversion
  constructor
  · intro hn user_id hcreator
    rw [userLevel_of_isCreator p (hinfinite.mpr hn) hcreator]
    refine ⟨fun r ↦ Int64.le_iff_toInt_le.mpr (p.required r).toInt_le, fun other hother ↦ ?_⟩
    rw [userLevel_of_not fun _ ↦ hother]
    exact (PowerLevels.belowCreators_of_fromJson hp hrange).listed_lt other
  · intro hn user_id
    refine userLevel_of_not fun hversion' ↦ ?_
    exact absurd (hinfinite.mp hversion') (by omega)

theorem userLevel_creators_demoted :
    let p : PowerLevels := { users := SortedMap.empty.insert "@alice:example.org" 0 }
    let create : StateEvent Create := {
      type := .roomCreate, sender := "@alice:example.org", content := { room_version := "12" }
      event_id := "$create", room_id := "!room", origin_server_ts := 0, unsigned_data := {}
      state_key := "" }
    (∀ r, p.required r ≤ p.userLevel "@alice:example.org" create) ∧
      ∀ other, ¬ IsCreator create other →
        p.userLevel other create < p.userLevel "@alice:example.org" create := by
  intro p create
  have hp : PowerLevels.fromJson
      (.object [("users", .object [("@alice:example.org", .numberInteger 0)])]) = .ok p := rfl
  have hrange : LevelsInRange
      (.object [("users", .object [("@alice:example.org", .numberInteger 0)])]) := by
    constructor
    · intro key hkey v hv
      have hnone : ∀ key ∈ levelKeys, key ≠ lit "users" := by decide
      rw [Json.find?, AssocList.find?_cons, if_neg (hnone key hkey).symm] at hv
      cases hv
    · intro key hkey ms hms e he
      rw [Json.find?, AssocList.find?_cons] at hms
      split_ifs at hms
      · cases hms
        obtain rfl := List.mem_singleton.mp he
        show (0 : ℕ) ≤ 2 ^ 53 - 1
        decide
      · cases hms
  exact (userLevel_creators hp hrange (n := 12) rfl).1 (by decide) _ (Or.inl rfl)

end Mtx.Events
