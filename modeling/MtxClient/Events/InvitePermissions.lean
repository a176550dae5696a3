import MtxClient.Events.AccountData
import MtxClient.Lib.DecisionList

/-!
# Invites

`invite_allowed` looks for an invite in the lists of users, of rooms and of servers, in this order,
and in each of them first in the list of those that are denied.  The first list that has it decides,
so what the lists mean is a decision list, `expected`.

`invite_allowed` is one too, but it answers `false` for a server that is allowed.  `honoured_iff`
says for which invites that makes no difference.
-/

set_option autoImplicit false

namespace Mtx.Events.AccountData

open Str DecisionList

variable {json : JsonText}

/-! ## The code -/

/-- `m.contains(k)`. -/
def lists (m : SortedMap Str Str) (k : Str) : Bool := (m.find? k).isSome

/-- What is behind the position that `find_first_of(':')` answers. -/
def afterColon : Str → Option Str
  | [] => none
  | b :: s => if b = ':'.toUInt8 then some s else afterColon s

/-- `InvitePermissions::invite_allowed`. -/
def InvitePermissions.inviteAllowed (p : InvitePermissions json) (room_id inviter : Str) : Bool :=
  if lists p.user_deny inviter then false
  else if lists p.user_allow inviter then true
  else if lists p.room_deny room_id then false
  else if lists p.room_allow room_id then true
  else match afterColon inviter with
    | some server =>
      if lists p.server_deny server then false
      else if lists p.server_allow server then false
      else p.default_ != "deny"
    | none => p.default_ != "deny"

/-! ## What the lists mean -/

/-- What the entries of a list name. -/
inductive Subset where
  | user
  | room
  | server
  deriving DecidableEq

/-- An invite to a room by a user of a server. -/
structure Invite where
  room_id : Str
  localpart : Str
  server : Str
  not_mem : ':'.toUInt8 ∉ localpart

/-- The id of the user. -/
def Invite.inviter (i : Invite) : Str := i.localpart ++ ':'.toUInt8 :: i.server

/-- What a list would have to have for the invite. -/
def Invite.key (i : Invite) : Subset → Str
  | .user => i.inviter
  | .room => i.room_id
  | .server => i.server

namespace InvitePermissions

/-- The six lists: those that allow and those that do not. -/
def list (p : InvitePermissions json) : Subset × Bool → SortedMap Str Str
  | (.user, true) => p.user_allow
  | (.user, false) => p.user_deny
  | (.room, true) => p.room_allow
  | (.room, false) => p.room_deny
  | (.server, true) => p.server_allow
  | (.server, false) => p.server_deny

/-- The permissions with one more entry in a list. -/
def add (p : InvitePermissions json) (rule : Subset × Bool) (k v : Str) : InvitePermissions json :=
  match rule with
  | (.user, true) => { p with user_allow := p.user_allow.insert k v }
  | (.user, false) => { p with user_deny := p.user_deny.insert k v }
  | (.room, true) => { p with room_allow := p.room_allow.insert k v }
  | (.room, false) => { p with room_deny := p.room_deny.insert k v }
  | (.server, true) => { p with server_allow := p.server_allow.insert k v }
  | (.server, false) => { p with server_deny := p.server_deny.insert k v }

/-- Does the list have the invite? -/
def applies (p : InvitePermissions json) (i : Invite) (rule : Subset × Bool) : Bool :=
  lists (p.list rule) (i.key rule.1)

/-- The lists before that of the servers that are allowed, the most specific ones first. -/
def before : List (Subset × Bool) :=
  [(.user, false), (.user, true), (.room, false), (.room, true), (.server, false)]

/-- The most specific list that has the invite decides, and otherwise the default. -/
def expected (p : InvitePermissions json) (i : Invite) : Bool :=
  (answer? (p.applies i) Prod.snd (before ++ [(.server, true)])).getD (p.default_ != "deny")

/-- The lists are honoured for an invite: it is decided as they say, and one more entry in a list
never does the opposite of what the list is for. -/
structure Honoured (p : InvitePermissions json) (i : Invite) : Prop where
  decided : p.inviteAllowed i.room_id i.inviter = p.expected i
  allow : ∀ subset k v, p.inviteAllowed i.room_id i.inviter = true →
    (p.add (subset, true) k v).inviteAllowed i.room_id i.inviter = true
  deny : ∀ subset k v, p.inviteAllowed i.room_id i.inviter = false →
    (p.add (subset, false) k v).inviteAllowed i.room_id i.inviter = false

/-! ## The code as a decision list -/

theorem afterColon_inviter (i : Invite) : afterColon i.inviter = some i.server := by
  have h : ∀ s : Str, ':'.toUInt8 ∉ s →
      afterColon (s ++ ':'.toUInt8 :: i.server) = some i.server := by
    intro s hs
    induction s with
    | nil => rfl
    | cons b s ih =>
      rw [List.mem_cons, not_or] at hs
      rw [List.cons_append, afterColon, if_neg (Ne.symm hs.1), ih hs.2]
  exact h i.localpart i.not_mem

/-- What the code answers for the lists, which is wrong for the last one. -/
def written (rule : Subset × Bool) : Bool := rule.2 && decide (rule.1 ≠ .server)

theorem inviteAllowed_eq (p : InvitePermissions json) (i : Invite) :
    p.inviteAllowed i.room_id i.inviter =
      ((answer? (p.applies i) Prod.snd before).or
        (answer? (p.applies i) written [(.server, true)])).getD (p.default_ != "deny") := by
  rw [inviteAllowed, afterColon_inviter]
  simp only [before, answer?_cons, applies, list, Invite.key]
  split_ifs <;> simp_all [written]

theorem expected_eq (p : InvitePermissions json) (i : Invite) :
    p.expected i = ((answer? (p.applies i) Prod.snd before).or
      (answer? (p.applies i) Prod.snd [(.server, true)])).getD (p.default_ != "deny") := by
  rw [expected, answer?_append]

theorem default_add (p : InvitePermissions json) (rule : Subset × Bool) (k v : Str) :
    (p.add rule k v).default_ = p.default_ := by
  obtain ⟨subset, allow⟩ := rule
  cases subset <;> cases allow <;> rfl

theorem list_add (p : InvitePermissions json) (rule rule' : Subset × Bool) (k v : Str) :
    (p.add rule k v).list rule' =
      if rule' = rule then (p.list rule).insert k v else p.list rule' := by
  obtain ⟨subset, allow⟩ := rule
  obtain ⟨subset', allow'⟩ := rule'
  cases subset <;> cases allow <;> cases subset' <;> cases allow' <;> rfl

theorem applies_add (p : InvitePermissions json) (i : Invite) (rule rule' : Subset × Bool)
    (k v : Str) : (p.add rule k v).applies i rule' =
      (p.applies i rule' || decide (rule' = rule ∧ i.key rule'.1 = k)) := by
  rw [applies, list_add, applies]
  by_cases hrule : rule' = rule
  · subst hrule
    rw [if_pos rfl, lists, SortedMap.find?_insert, lists]
    by_cases hk : i.key rule'.1 = k <;> simp [hk]
  · simp [hrule]

/-- An entry of a list with the answer `b` leaves the answer of other lists, or makes it `b`. -/
theorem answer?_add {answer : Subset × Bool → Bool} (rules : List (Subset × Bool))
    {rule : Subset × Bool} {b : Bool} (hb : rule ∈ rules → answer rule = b)
    (p : InvitePermissions json) (i : Invite) (k v : Str) :
    answer? ((p.add rule k v).applies i) answer rules = answer? (p.applies i) answer rules ∨
      answer? ((p.add rule k v).applies i) answer rules = some b := by
  refine answer?_of_extended rules ?_ ?_
  · intro r _ h
    rw [applies_add, h, Bool.true_or]
  · intro r hr h
    rw [applies_add, Bool.or_eq_true, decide_eq_true_eq] at h
    rcases h with h | ⟨rfl, -⟩
    · exact Or.inl h
    · exact Or.inr (hb hr)

/-! ## When they are honoured -/

/-- A list before that of the servers that are allowed has the invite. -/
def Decided (p : InvitePermissions json) (i : Invite) : Prop :=
  ∃ rule ∈ before, p.applies i rule = true

variable {p : InvitePermissions json} {i : Invite}

theorem not_decided_iff :
    ¬ p.Decided i ↔ answer? (p.applies i) Prod.snd before = none := by
  rw [Decided, answer?, Option.map_eq_none_iff, List.find?_eq_none]
  simp only [not_exists, not_and]

/-- An entry in a list of those that are denied never lets an invite through. -/
theorem inviteAllowed_add_deny (subset : Subset) (k v : Str)
    (h : p.inviteAllowed i.room_id i.inviter = false) :
    (p.add (subset, false) k v).inviteAllowed i.room_id i.inviter = false := by
  rw [inviteAllowed_eq] at h ⊢
  rw [default_add]
  have hlast : answer? ((p.add (subset, false) k v).applies i) written [(.server, true)] =
      answer? (p.applies i) written [(.server, true)] := by
    rw [answer?_cons, answer?_cons, applies_add]
    simp
  have hdenied : ∀ rule : Subset × Bool, rule = (subset, false) → rule.2 = false := by
    rintro rule rfl
    rfl
  rcases answer?_add before (fun _ ↦ hdenied _ rfl) p i k v with hsame | hfalse
  · rw [hsame, hlast, h]
  · rw [hfalse]
    rfl

theorem exists_answer_of_decided (hdecided : p.Decided i) :
    ∃ b, answer? (p.applies i) Prod.snd before = some b := by
  refine Option.ne_none_iff_exists'.mp ?_
  intro hnone
  exact not_decided_iff.mpr hnone hdecided

/-- If an earlier list decides, an entry in a list of those that are allowed never stops one. -/
theorem inviteAllowed_add_allow (hdecided : p.Decided i) (subset : Subset) (k v : Str)
    (h : p.inviteAllowed i.room_id i.inviter = true) :
    (p.add (subset, true) k v).inviteAllowed i.room_id i.inviter = true := by
  obtain ⟨b, hb⟩ := exists_answer_of_decided hdecided
  rw [inviteAllowed_eq, hb] at h
  rw [inviteAllowed_eq]
  rcases answer?_add before (fun _ ↦ rfl) p i k v with hsame | htrue
  · rw [hsame, hb]
    exact h
  · rw [htrue]
    rfl

/-- **The lists are honoured** if an earlier list than that of the allowed servers has the invite,
or if that one does not have it either and the default is to deny. -/
theorem honoured_iff (p : InvitePermissions json) (i : Invite) :
    p.Honoured i ↔ p.Decided i ∨ (lists p.server_allow i.server = false ∧ p.default_ = "deny") := by
  by_cases hdecided : p.Decided i
  · refine iff_of_true ⟨?_, fun subset k v ↦ inviteAllowed_add_allow hdecided subset k v,
      fun subset k v ↦ inviteAllowed_add_deny subset k v⟩ (Or.inl hdecided)
    obtain ⟨b, hb⟩ := exists_answer_of_decided hdecided
    rw [inviteAllowed_eq, expected_eq, hb]
    rfl
  · have hbefore := not_decided_iff.mp hdecided
    have hallowed := p.inviteAllowed_eq i
    have hexpected := p.expected_eq i
    rw [hbefore, Option.none_or, answer?_cons, answer?_nil] at hallowed hexpected
    have hserver : p.applies i (.server, true) = lists p.server_allow i.server := rfl
    rw [hserver] at hallowed hexpected
    rw [or_iff_right hdecided]
    by_cases hlisted : lists p.server_allow i.server = true
    · refine iff_of_false ?_ ?_
      · intro h
        have hdecided := h.decided
        rw [hallowed, hexpected, if_pos hlisted, if_pos hlisted] at hdecided
        cases hdecided
      · rintro ⟨hnot, -⟩
        rw [hlisted] at hnot
        cases hnot
    · rw [if_neg hlisted] at hallowed hexpected
      rw [Bool.not_eq_true] at hlisted
      rw [and_iff_right hlisted]
      constructor
      · intro h
        by_contra hdefault
        have hentry := h.allow .server i.server "" (by
          rw [hallowed]
          exact bne_iff_ne.mpr hdefault)
        have hsame : answer? ((p.add (.server, true) i.server "").applies i) Prod.snd before =
            none := by
          rw [← hbefore]
          refine answer?_congr before ?_
          intro r hr
          rw [applies_add, Bool.or_eq_left_iff_imp, decide_eq_true_eq]
          rintro ⟨rfl, -⟩
          exact absurd hr (by decide)
        rw [inviteAllowed_eq, hsame, Option.none_or, answer?_cons, applies_add] at hentry
        simp [Invite.key, written] at hentry
      · intro hdefault
        refine ⟨by rw [hallowed, hexpected], ?_, fun subset k v ↦ inviteAllowed_add_deny subset k v⟩
        intro subset k v h
        rw [hallowed, hdefault] at h
        cases h

end InvitePermissions

/-! ## An example -/

/-- Only the server of the user is listed, as one that may invite. -/
def oneServer : InvitePermissions (knownTexts []) where
  default_ := "allow"
  server_allow := SortedMap.empty.insert "example.org" "\x7b\x7d"

/-- An invite by a user of that server. -/
def sampleInvite : Invite where
  room_id := "!room:example.com"
  localpart := "@alice"
  server := "example.org"
  not_mem := by decide

/-- The invite is rejected, although its server is allowed. -/
theorem not_honoured_oneServer : ¬ oneServer.Honoured sampleInvite := by
  intro h
  have hdecided := h.decided
  exact absurd hdecided (by decide)

end Mtx.Events.AccountData
