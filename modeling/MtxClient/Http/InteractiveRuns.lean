import Mathlib.Data.List.Perm.Subperm
import MtxClient.Http.InteractiveAuth
import MtxClient.Lib.Runs

/-!
# Running user-interactive authentication

The handler of a request carries the function that sends it again, so that a prompt can go on with
`next`, at once or whenever the user has answered, and more than once.  A `Session` is what such a
request came to so far; the server and the user act on it in any order (`session`).

`Orderly` says what holds then: an answer leads to one prompt or to one call of the final callback,
the final callback is the end if no prompt goes on twice, and a request is the original one with the
authentication of the prompt it comes from.  `orderly_of_run` proves it by counting: every request
without an answer, every prompt that did not go on and every final callback stands for one use of
`next` or for the first request.
-/

set_option autoImplicit false

namespace Mtx.Http

open Str

/-- `empty()`. -/
def isEmpty : Json → Bool
  | .null => true
  | .array xs => xs.isEmpty
  | .object ms => ms.isEmpty
  | _ => false

/-- What a request came to so far. -/
structure Session (ρ : Type) where
  /-- The bodies that were sent, in their order. -/
  sent : List Json := []
  /-- How many requests have no answer yet. -/
  outstanding : ℕ := 0
  /-- What the user was prompted for. -/
  prompts : List Unauthorized := []
  /-- The prompts that went on, in the order of these calls of `next`. -/
  used : List ℕ := []
  /-- The calls of the final callback. -/
  finals : List (ρ × Option ClientError) := []

/-- What happens in a session. -/
inductive Action where
  /-- A request is answered, and the callback of the user throws `thrown` in the end. -/
  | respond (thrown : Except StdException Unit) (answer : Answer)
  /-- The handler of the prompt `i` is told to go on. -/
  | next (i : ℕ) (auth : Auth)

variable {ρ : Type} (t : JsonText) (what : Exn → Str)

/-- A callback of the user is called. -/
def Session.trigger (s : Session ρ) : Outcome ρ → Session ρ
  | .prompt unauthorized => { s with prompts := s.prompts ++ [unauthorized] }
  | .final response err => { s with finals := s.finals ++ [(response, err)] }

/-- `post`, which throws for a body that has no text. -/
def Session.post (s : Session ρ) (body : Json) : Except Exn (Session ρ) := do
  let _ ← t.dump body
  return { s with sent := s.sent ++ [body], outstanding := s.outstanding + 1 }

/-- The body of a request with authentication. -/
def Interactive.body (r : Interactive) (auth : Json) : Except Exn Json :=
  if isEmpty auth then .ok r.req else r.req.set "auth" auth

/-- `uia_handler.next_`. -/
def Interactive.next_ (r : Interactive) (s : Session r.Response) (auth : Json) :
    Except Exn (Session r.Response) := do
  s.post t (← r.body auth)

/-- `uia_handler.next_(uia_handler, {})`. -/
def Interactive.start (r : Interactive) : Except Exn (Session r.Response) := r.next_ t {} .null

/-- One action.  What `next` throws is thrown to the user. -/
def Interactive.step (r : Interactive) (s : Session r.Response) :
    Action → Except Exn (Session r.Response)
  | .respond thrown answer => do
    let outcomes ← r.complete t what thrown answer
    return outcomes.foldl Session.trigger { s with outstanding := s.outstanding - 1 }
  | .next i auth =>
    let s := { s with used := s.used ++ [i] }
    match r.next_ t s auth.toJson with
    | .ok s' => .ok s'
    | .error _ => .ok s

/-- The server answers requests, and prompts go on. -/
def Interactive.session (r : Interactive) : Machine (Session r.Response) Action Exn where
  possible s
    | .respond _ _ => 0 < s.outstanding
    | .next i _ => i < s.prompts.length
  step := r.step t what

/-! ## What one action does -/

variable {r : Interactive}

/-- The body of the request that a prompt goes on with. -/
def Interactive.authBody (r : Interactive) (auth : Auth) : Json := r.req.put "auth" auth.toJson

theorem null_or_isObject_ofMembers (m : SortedMap Str Json) :
    Json.ofMembers m = .null ∨ (Json.ofMembers m).isObject = true := by
  rw [Json.ofMembers]
  split
  · exact Or.inl rfl
  · exact Or.inr rfl

theorem null_or_isObject_req (hr : IsInteractive r) :
    r.req = .null ∨ r.req.isObject = true := by
  rcases hr with - | - | - | -
  · exact null_or_isObject_ofMembers _
  · exact Or.inr rfl
  · exact Or.inr rfl
  · exact null_or_isObject_ofMembers _

theorem find?_insertKeys {m : SortedMap Str Json} {key k : Str} (h : k ≠ key)
    (keys : Option Crypto.CrossSigningKeys) : (insertKeys m key keys).find? k = m.find? k := by
  rcases keys with - | keys
  · rfl
  · rw [insertKeys, SortedMap.find?_insert, if_neg h]

/-- The original request has no authentication. -/
theorem find?_req_auth (hr : IsInteractive r) : r.req.find? "auth" = none := by
  rcases hr with ⟨user, pass, name⟩ | - | - | keys
  · simp [registration]
  · simp [deleteDevice]
  · simp [deleteDevices]
  · rw [deviceSigningUpload, DeviceSigningUpload.toJson, Json.find?_ofMembers,
      find?_insertKeys (by decide), find?_insertKeys (by decide), find?_insertKeys (by decide)]
    rfl

theorem isEmpty_auth (auth : Auth) : isEmpty auth.toJson = false := by
  have h := auth.find?_toJson_session
  rcases hj : auth.toJson with - | b | i | u | f | s | xs | ms
  case object =>
    rw [hj, Json.find?] at h
    rcases ms with - | ⟨m, ms⟩
    · cases h
    · rfl
  all_goals rw [hj] at h; cases h

theorem body_auth (hr : IsInteractive r) (auth : Auth) :
    r.body auth.toJson = .ok (r.authBody auth) := by
  rw [Interactive.body, isEmpty_auth]
  exact Json.set_eq_ok (null_or_isObject_req hr) _ _

/-- An answer calls one callback of the user. -/
theorem step_respond (hr : IsInteractive r) {s s' : Session r.Response}
    {thrown : Except StdException Unit} {answer : Answer}
    (h : r.step t what s (.respond thrown answer) = .ok s') :
    ∃ o, s' = Session.trigger { s with outstanding := s.outstanding - 1 } o := by
  by_cases hdefined : answer.IsUndefined t
  · rw [Interactive.step, complete_of_undefined t what hdefined] at h
    cases h
  · obtain ⟨c, hc, -⟩ := complete_eq_ok t what thrown hr hdefined
    rw [Interactive.step, hc] at h
    exact ⟨r.outcome c, (Except.ok.inj h).symm⟩

/-- A prompt that goes on sends the request with its authentication, if that has a text. -/
theorem step_next (hr : IsInteractive r) {s s' : Session r.Response} {i : ℕ} {auth : Auth}
    (h : r.step t what s (.next i auth) = .ok s') :
    s'.prompts = s.prompts ∧ s'.finals = s.finals ∧ s'.used = s.used ++ [i] ∧
      s'.sent = s.sent ++ [r.authBody auth].filter Json.validUtf8 ∧
      s'.outstanding ≤ s.outstanding + 1 := by
  rw [Interactive.step, Interactive.next_, body_auth hr, ok_bind, Session.post, JsonText.dump] at h
  by_cases hutf8 : (r.authBody auth).validUtf8 = true
  · rw [if_pos hutf8] at h
    obtain rfl := Except.ok.inj h
    exact ⟨rfl, rfl, rfl, by simp [hutf8], Nat.le_refl _⟩
  · rw [if_neg hutf8] at h
    obtain rfl := Except.ok.inj h
    exact ⟨rfl, rfl, rfl, by simp [hutf8], Nat.le_succ _⟩

/-! ## What holds in a session -/

/-- The answer, if it is one, is read without undefined behaviour. -/
def Action.IsDefined : Action → Prop
  | .respond _ answer => ¬ answer.IsUndefined t
  | .next _ _ => True

/-- The number of answers. -/
def answers (actions : List Action) : ℕ :=
  actions.countP fun
    | .respond _ _ => true
    | .next _ _ => false

/-- The authentication values that prompts went on with. -/
def auths (actions : List Action) : List Auth :=
  actions.filterMap fun
    | .respond _ _ => none
    | .next _ auth => some auth

/-- What every session keeps. -/
structure Kept (r : Interactive) (actions : List Action) (s : Session r.Response) : Prop where
  answered : s.prompts.length + s.finals.length = answers actions
  sent : s.sent = r.req :: ((auths actions).map r.authBody).filter Json.validUtf8
  used : ∀ i ∈ s.used, i < s.prompts.length
  /-- A use of `next` makes one request, which leads to one prompt or final callback. -/
  count : s.outstanding + s.prompts.length + s.finals.length ≤ s.used.length + 1

theorem Kept.respond (hr : IsInteractive r) {actions : List Action} {s s' : Session r.Response}
    (h : Kept r actions s) (hpossible : 0 < s.outstanding) {thrown : Except StdException Unit}
    {answer : Answer} (hstep : r.step t what s (.respond thrown answer) = .ok s') :
    Kept r (actions ++ [.respond thrown answer]) s' := by
  have hanswers : answers (actions ++ [.respond thrown answer]) = answers actions + 1 := by
    simp [answers]
  have hauths : auths (actions ++ [.respond thrown answer]) = auths actions := by simp [auths]
  have hanswered := h.answered
  have hcount := h.count
  obtain ⟨unauthorized | ⟨response, err⟩, rfl⟩ := step_respond t what hr hstep
  · refine ⟨?_, by rw [hauths]; exact h.sent, fun i hi ↦ ?_, ?_⟩
    · simp only [Session.trigger, List.length_append, List.length_singleton]
      omega
    · have := h.used i hi
      simp only [Session.trigger, List.length_append, List.length_singleton]
      omega
    · simp only [Session.trigger, List.length_append, List.length_singleton]
      omega
  · refine ⟨?_, by rw [hauths]; exact h.sent, h.used, ?_⟩
    · simp only [Session.trigger, List.length_append, List.length_singleton]
      omega
    · simp only [Session.trigger, List.length_append, List.length_singleton]
      omega

theorem Kept.next (hr : IsInteractive r) {actions : List Action} {s s' : Session r.Response}
    (h : Kept r actions s) {i : ℕ} (hpossible : i < s.prompts.length) {auth : Auth}
    (hstep : r.step t what s (.next i auth) = .ok s') :
    Kept r (actions ++ [.next i auth]) s' := by
  obtain ⟨hprompts, hfinals, hused, hsent, houtstanding⟩ := step_next t what hr hstep
  have hcount := h.count
  refine ⟨?_, ?_, fun j hj ↦ ?_, ?_⟩
  · rw [hprompts, hfinals, h.answered]
    simp [answers]
  · rw [hsent, h.sent]
    simp [auths]
  · rw [hused] at hj
    rw [hprompts]
    rcases List.mem_append.mp hj with hj | hj
    · exact h.used j hj
    · exact List.mem_singleton.mp hj ▸ hpossible
  · rw [hprompts, hfinals, hused, List.length_append, List.length_singleton]
    omega

theorem kept_of_run (hr : IsInteractive r) {s₀ s : Session r.Response}
    (hstart : r.start t = .ok s₀) {actions : List Action}
    (hrun : (r.session t what).Run s₀ actions s) : Kept r actions s := by
  refine hrun.invariant ?_ fun actions s₁ a s₂ _ hkept hpossible hstep ↦ ?_
  · rw [Interactive.start, Interactive.next_] at hstart
    obtain ⟨body, hbody, hstart⟩ := bind_eq_ok_iff.mp hstart
    obtain rfl : r.req = body := Except.ok.inj hbody
    obtain ⟨text, -, hstart⟩ := bind_eq_ok_iff.mp hstart
    obtain rfl := Except.ok.inj hstart
    exact ⟨rfl, rfl, nofun, Nat.le_refl _⟩
  · rcases a with ⟨thrown, answer⟩ | ⟨i, auth⟩
    · exact hkept.respond t what hr hpossible hstep
    · exact hkept.next t what hr hpossible hstep

/-- No prompt went on twice. -/
def Session.OncePerPrompt (s : Session ρ) : Prop := s.used.Nodup

theorem length_le_of_nodup {n : ℕ} {is : List ℕ} (h : ∀ i ∈ is, i < n) (hnodup : is.Nodup) :
    is.length ≤ n := by
  have hsub : is ⊆ List.range n := fun i hi ↦ List.mem_range.mpr (h i hi)
  simpa using (hnodup.subperm hsub).length_le

/-- What an orderly session looks like after `actions`. -/
structure Orderly (r : Interactive) (s₀ : Session r.Response) (actions : List Action)
    (s : Session r.Response) : Prop where
  /-- Every answer led to one prompt or one call of the final callback. -/
  answered : s.prompts.length + s.finals.length = answers actions
  /-- There is at most one call of the final callback. -/
  final : s.OncePerPrompt → s.finals.length ≤ 1
  /-- Nothing is sent after it. -/
  silent : s.OncePerPrompt → ∀ before after s₁, actions = before ++ after →
    (r.session t what).Run s₀ before s₁ → s₁.finals ≠ [] → s.sent = s₁.sent
  /-- The first request has no authentication. -/
  first : r.req.find? "auth" = none
  /-- The others have that of their prompt, and are sent if they have a text. -/
  sent : s.sent = r.req :: ((auths actions).map r.authBody).filter Json.validUtf8

/-- After the final callback nothing can happen without a prompt going on twice. -/
theorem Kept.silent (hr : IsInteractive r) {s₀ s₁ s₂ : Session r.Response}
    (hstart : r.start t = .ok s₀) {before after : List Action}
    (hbefore : (r.session t what).Run s₀ before s₁) (hfinals : s₁.finals ≠ [])
    (hafter : (r.session t what).Run s₁ after s₂) : s₂.OncePerPrompt → s₂ = s₁ := by
  refine hafter.invariant (P := fun _ s ↦ s.OncePerPrompt → s = s₁) (fun _ ↦ rfl)
    fun _ s a s' _ ih hpossible hstep honce ↦ ?_
  have hkept := kept_of_run t what hr hstart hbefore
  have hpos := List.length_pos_iff.mpr hfinals
  have hcount := hkept.count
  rcases a with ⟨thrown, answer⟩ | ⟨i, auth⟩
  · -- no request is left to answer
    obtain ⟨o, rfl⟩ := step_respond t what hr hstep
    have hs : s = s₁ := ih (by rcases o <;> exact honce)
    have hpossible : 0 < s.outstanding := hpossible
    subst hs
    have honce : s.used.Nodup := by rcases o <;> exact honce
    have hlength := length_le_of_nodup hkept.used honce
    omega
  · -- every prompt went on already
    obtain ⟨hprompts, -, hused, -, -⟩ := step_next t what hr hstep
    rw [Session.OncePerPrompt, hused] at honce
    have hs : s = s₁ := ih (List.nodup_append.mp honce).1
    have hpossible : i < s.prompts.length := hpossible
    subst hs
    have hlength : (s.used ++ [i]).length ≤ s.prompts.length :=
      length_le_of_nodup (fun j hj ↦ by
        rcases List.mem_append.mp hj with hj | hj
        · exact hkept.used j hj
        · exact List.mem_singleton.mp hj ▸ hpossible) honce
    rw [List.length_append, List.length_singleton] at hlength
    omega

/-- **A session is orderly whatever the server answers and the prompts go on with**, as long as the
answers are read without undefined behaviour: then every answer leads on, and all the while the
session is orderly. -/
theorem orderly_of_run (hr : IsInteractive r) {s₀ : Session r.Response}
    (hstart : r.start t = .ok s₀) :
    (r.session t what).Proceeds (Action.IsDefined t) s₀ ∧
      ∀ actions s, (r.session t what).Run s₀ actions s → Orderly t what r s₀ actions s := by
  refine ⟨fun actions s hrun a hpossible hdefined ↦ ?_, fun actions s hrun ↦ ?_⟩
  · rcases a with ⟨thrown, answer⟩ | ⟨i, auth⟩
    · obtain ⟨c, hc, -⟩ := complete_eq_ok t what thrown hr hdefined
      show ∃ s', r.step t what s (.respond thrown answer) = .ok s'
      rw [Interactive.step, hc]
      exact ⟨_, rfl⟩
    · show ∃ s', r.step t what s (.next i auth) = .ok s'
      rw [Interactive.step]
      rcases r.next_ t { s with used := s.used ++ [i] } auth.toJson with e | s' <;> exact ⟨_, rfl⟩
  · have hkept := kept_of_run t what hr hstart hrun
    refine ⟨hkept.answered, fun honce ↦ ?_, fun honce before after s₁ hactions hbefore hfinals ↦ ?_,
      find?_req_auth hr, hkept.sent⟩
    · have hlength := length_le_of_nodup hkept.used honce
      have hcount := hkept.count
      omega
    · subst hactions
      obtain ⟨s₂, hbefore₂, hafter⟩ := hrun.of_append
      obtain rfl := hbefore.unique hbefore₂
      rw [Kept.silent t what hr hstart hbefore hfinals hafter honce]

theorem orderly_deleteDevice : ∃ s₀,
    ((deleteDevice "device").session (knownTexts []) fun _ ↦ "").Proceeds
        (Action.IsDefined (knownTexts [])) s₀ ∧
      ∀ actions s, ((deleteDevice "device").session (knownTexts []) fun _ ↦ "").Run s₀ actions s →
        Orderly (knownTexts []) (fun _ ↦ "") (deleteDevice "device") s₀ actions s :=
  ⟨_, orderly_of_run (knownTexts []) (fun _ ↦ "") (.deleteDevice "device") rfl⟩

/-- An answer with a flow that has no stages leads nowhere. -/
theorem session_stuck_emptyFlow : ∃ s₀,
    (deleteDevice "device").start (knownTexts [emptyFlow]) = .ok s₀ ∧
      ((deleteDevice "device").session (knownTexts [emptyFlow]) fun _ ↦ "").possible s₀
        (.respond (.ok ()) { body := emptyFlow.dumpText, status_code := 401 }) ∧
      ((deleteDevice "device").session (knownTexts [emptyFlow]) fun _ ↦ "").step s₀
        (.respond (.ok ()) { body := emptyFlow.dumpText, status_code := 401 }) =
          .error .undefinedBehaviour :=
  ⟨_, rfl, Nat.one_pos, rfl⟩

end Mtx.Http
