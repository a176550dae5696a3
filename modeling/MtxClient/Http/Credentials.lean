import MtxClient.Http.Accounts
import MtxClient.Http.Callback
import MtxClient.Lib.Runs

/-!
# The credentials of a client

The user id, the device id and the access token of a client are set by the completions of `login`
and `registration` and cleared by that of `logout`.  Any number of these requests can be outstanding
and be answered in any order (`credentials`).

`clear` forgets the user id, and a logout that is answered late clears whatever login succeeded in
the meantime.  `consistent_iff` says that nothing else can go wrong.
-/

set_option autoImplicit false

namespace Mtx.Http

open Str

/-- The members of `Client` that completions write. -/
structure Client where
  /-- The user ID of the client. -/
  user_id : User := {}
  /-- The device that this session is associated with. -/
  device_id : Str := ""
  /-- The access token that would be used for authentication. -/
  access_token : Str := ""
  /-- The token that will be used as the 'since' parameter on the next sync request. -/
  next_batch_token : Str := ""
  /-- The homeserver to connect to. -/
  server : Str := ""
  /-- The port of the homeserver. -/
  port : UInt16 := 443

/-- `Client::clear`. -/
def Client.clear (client : Client) : Client :=
  { client with device_id := "", access_token := "", next_batch_token := "", server := "",
                port := 443 }

/-- What identifies a session to the homeserver. -/
structure Credentials where
  user_id : User := {}
  device_id : Str := ""
  access_token : Str := ""
  deriving DecidableEq

/-- The credentials of a client. -/
def Client.credentials (client : Client) : Credentials where
  user_id := client.user_id
  device_id := client.device_id
  access_token := client.access_token

/-- The credentials in the response to a login. -/
def Login.credentials (resp : Login) : Credentials where
  user_id := resp.user_id
  device_id := resp.device_id
  access_token := resp.access_token

/-- The credentials in the response to a registration. -/
def Register.credentials (r : Register) : Credentials where
  user_id := r.user_id
  device_id := r.device_id
  access_token := r.access_token

/-- The three assignments of a successful login or registration. -/
def Client.setCredentials (client : Client) (c : Credentials) : Client :=
  { client with user_id := c.user_id, device_id := c.device_id, access_token := c.access_token }

/-! ## Completions -/

/-- The credentials that the completion of `login` sets. -/
def loginResult (resp : Login) (err : Option ClientError) : Option Credentials :=
  if err.isNone && !resp.access_token.isEmpty then some resp.credentials else none

/-- The credentials that the completion of `registration` sets, which prompts on a 401. -/
def registrationResult (r : Register) (err : Option ClientError) : Option Credentials :=
  match err with
  | some _ => none
  | none => if !r.access_token.isEmpty then some r.credentials else none

/-- A request without an answer. -/
inductive Pending where
  | login
  | registration
  /-- A logout, which was sent when this many logins or registrations had succeeded. -/
  | logout (sentAfter : ℕ)
  deriving DecidableEq

/-- A client with its outstanding requests. -/
structure World where
  client : Client
  outstanding : List Pending := []
  /-- The credentials of the successful logins and registrations, in their order. -/
  successes : List Credentials := []
  /-- The one of them that the client has its credentials from. -/
  holder : Option ℕ := none

/-- What can happen. -/
inductive Event where
  | login
  | registration
  | logout
  | loginDone (i : ℕ) (resp : Login) (err : Option ClientError)
  | registrationDone (i : ℕ) (r : Register) (err : Option ClientError)
  | logoutDone (i : ℕ) (err : Option ClientError)

namespace World

/-- A request is sent. -/
def send (w : World) (p : Pending) : World := { w with outstanding := w.outstanding ++ [p] }

/-- A login or a registration is answered. -/
def succeed (w : World) (result : Option Credentials) : World :=
  match result with
  | some c =>
    { w with
      client := w.client.setCredentials c
      successes := w.successes ++ [c]
      holder := some w.successes.length }
  | none => w

/-- The outstanding request `i` got its answer. -/
def answered (w : World) (i : ℕ) : World := { w with outstanding := w.outstanding.eraseIdx i }

/-- A logout is answered. -/
def loggedOut (w : World) (err : Option ClientError) : World :=
  if err.isNone then { w with client := w.client.clear, holder := none } else w

/-- One event. -/
def next (w : World) : Event → World
  | .login => w.send .login
  | .registration => w.send .registration
  | .logout => w.send (.logout w.successes.length)
  | .loginDone i resp err => (w.answered i).succeed (loginResult resp err)
  | .registrationDone i r err => (w.answered i).succeed (registrationResult r err)
  | .logoutDone i err => (w.answered i).loggedOut err

end World

/-- Requests are sent and answered in any order. -/
def credentials : Machine World Event Empty where
  possible w
    | .login | .registration | .logout => True
    | .loginDone i _ _ => w.outstanding[i]? = some .login
    | .registrationDone i _ _ => w.outstanding[i]? = some .registration
    | .logoutDone i _ => ∃ n, w.outstanding[i]? = some (.logout n)
  step w e := .ok (w.next e)

/-! ## Consistency -/

/-- The credentials of the client belong together: there are none, or they are those the client
started with, or those of one successful login or registration. -/
def Consistent (start : Client) (w : World) : Prop :=
  w.client.credentials = {} ∨ w.client.credentials = start.credentials ∨
    w.client.credentials ∈ w.successes

variable {start : Client} {w : World}

theorem Consistent.succeed (h : Consistent start w) (result : Option Credentials) :
    Consistent start (w.succeed result) := by
  rcases result with - | c
  · exact h
  · exact Or.inr (Or.inr (List.mem_append_right _ (List.mem_singleton_self c)))

/-- Clearing leaves nothing if there is no user. -/
theorem consistent_loggedOut (h : w.client.user_id = {}) : Consistent start (w.loggedOut none) := by
  left
  show Credentials.mk w.client.user_id [] [] = {}
  rw [h]
  rfl

/-- What holds in every state, whatever happens. -/
structure World.Kept (w : World) : Prop where
  /-- The holder is the one whose credentials the client has. -/
  held : ∀ k, w.holder = some k → w.successes[k]? = some w.client.credentials
  /-- Only non-empty tokens count as a success. -/
  token : ∀ c ∈ w.successes, c.access_token ≠ []

theorem World.Kept.succeed (h : w.Kept) {result : Option Credentials}
    (hresult : ∀ c ∈ result, c.access_token ≠ []) : (w.succeed result).Kept := by
  rcases result with - | c
  · exact h
  · refine ⟨fun k hk ↦ ?_, fun c' hc' ↦ ?_⟩
    · obtain rfl := Option.some.inj hk
      exact List.getElem?_concat_length ..
    · rcases List.mem_append.mp hc' with hc' | hc'
      · exact h.token c' hc'
      · exact List.mem_singleton.mp hc' ▸ hresult c rfl

theorem token_of_loginResult (resp : Login) (err : Option ClientError) :
    ∀ c ∈ loginResult resp err, c.access_token ≠ [] := by
  intro c hc
  rw [loginResult] at hc
  split_ifs at hc with h
  · rw [Bool.and_eq_true, Bool.not_eq_true', List.isEmpty_eq_false_iff] at h
    exact Option.some.inj hc ▸ h.2
  · cases hc

theorem token_of_registrationResult (r : Register) (err : Option ClientError) :
    ∀ c ∈ registrationResult r err, c.access_token ≠ [] := by
  intro c hc
  rcases err with - | err
  · rw [registrationResult] at hc
    split_ifs at hc with h
    · rw [Bool.not_eq_true', List.isEmpty_eq_false_iff] at h
      exact Option.some.inj hc ▸ h
    · cases hc
  · cases hc

theorem World.Kept.next (h : w.Kept) (e : Event) : (w.next e).Kept := by
  rcases e with - | - | - | ⟨i, resp, err⟩ | ⟨i, r, err⟩ | ⟨i, err⟩
  · exact ⟨h.held, h.token⟩
  · exact ⟨h.held, h.token⟩
  · exact ⟨h.held, h.token⟩
  · exact World.Kept.succeed (w := w.answered i) ⟨h.held, h.token⟩ (token_of_loginResult resp err)
  · exact World.Kept.succeed (w := w.answered i) ⟨h.held, h.token⟩
      (token_of_registrationResult r err)
  · rcases err with - | err
    · exact ⟨nofun, h.token⟩
    · exact ⟨h.held, h.token⟩

/-- The state of a client before anything was sent. -/
def World.initial (start : Client) : World := { client := start }

theorem kept_of_credentials_run {events : List Event}
    (hrun : credentials.Run (.initial start) events w) : w.Kept := by
  refine hrun.invariant (P := fun _ w ↦ w.Kept) ⟨nofun, nofun⟩ fun _ w e w' _ h _ hstep ↦ ?_
  rw [← Except.ok.inj hstep]
  exact h.next e

/-! ## When it holds -/

/-- A successful logout is answered in the state `w`, and it was sent after `n` successes. -/
def LogsOut (start : Client) (events : List Event) (w : World) (i n : ℕ) : Prop :=
  ∃ before after, events = before ++ .logoutDone i none :: after ∧
    credentials.Run (.initial start) before w ∧ w.outstanding[i]? = some (.logout n)

/-- Nothing went wrong with the credentials of a client while it went through `events`. -/
structure CredentialsKept (start : Client) (events : List Event) : Prop where
  /-- They belong together in every state. -/
  consistent : ∀ before after w, events = before ++ after →
    credentials.Run (.initial start) before w → Consistent start w
  /-- No user id remains after a successful logout. -/
  noUser : ∀ w i n, LogsOut start events w i n →
    (w.next (.logoutDone i none)).client.user_id = {}
  /-- A logout does not clear the credentials of a login that succeeded after it was sent. -/
  newer : ∀ w i n, LogsOut start events w i n → ∀ k, w.holder = some k → n ≤ k →
    (w.next (.logoutDone i none)).client.credentials = w.client.credentials

/-- Every successful logout is answered when the client has no user id, and no credentials that are
newer than the logout. -/
def Harmless (start : Client) (events : List Event) : Prop :=
  ∀ w i n, LogsOut start events w i n →
    w.client.user_id = {} ∧ ∀ k, w.holder = some k → k < n

/-- **The credentials of a client stay consistent exactly when** no successful logout is answered
while the client has a user id or credentials that are newer than the logout. -/
theorem consistent_iff (start : Client) (events : List Event) :
    CredentialsKept start events ↔ Harmless start events := by
  constructor
  · intro h w i n hlogout
    refine ⟨h.noUser w i n hlogout, fun k hk ↦ ?_⟩
    by_contra hlt
    obtain ⟨before, after, -, hrun, -⟩ := id hlogout
    have hkept := kept_of_credentials_run hrun
    -- the credentials of the holder have a token, which is cleared
    have htoken := hkept.token _ (List.mem_of_getElem? (hkept.held k hk))
    have hsame := h.newer w i n hlogout k hk (Nat.le_of_not_lt hlt)
    rw [← hsame] at htoken
    exact htoken rfl
  · intro h
    refine ⟨fun before after w hevents hrun ↦ ?_, fun w i n hlogout ↦ (h w i n hlogout).1,
      fun w i n hlogout k hk hle ↦ absurd ((h w i n hlogout).2 k hk) (Nat.not_lt.mpr hle)⟩
    refine hrun.invariant (P := fun before w ↦ (∃ after, events = before ++ after) →
      Consistent start w) (fun _ ↦ Or.inr (Or.inl rfl)) ?_ ⟨after, hevents⟩
    rintro before w e w' hrun ih hpossible hstep ⟨after, hevents⟩
    rw [List.append_assoc, List.singleton_append] at hevents
    have hconsistent := ih ⟨_, hevents⟩
    rw [← Except.ok.inj hstep]
    rcases e with - | - | - | ⟨i, resp, err⟩ | ⟨i, r, err⟩ | ⟨i, err⟩
    · exact hconsistent
    · exact hconsistent
    · exact hconsistent
    · exact Consistent.succeed (w := w.answered i) hconsistent _
    · exact Consistent.succeed (w := w.answered i) hconsistent _
    · rcases err with - | err
      · obtain ⟨n, hn⟩ := hpossible
        exact consistent_loggedOut (w := w.answered i)
          (h w i n ⟨before, after, hevents, hrun, hn⟩).1
      · exact hconsistent

theorem run_next {s : Client} {events : List Event} (e : Event)
    (hrun : credentials.Run (.initial s) events w) (hpossible : credentials.possible w e) :
    credentials.Run (.initial s) (events ++ [e]) (w.next e) :=
  hrun.snoc hpossible rfl

/-- The answer to a login. -/
def aliceLogin : Login where
  user_id := { localpart := "a", hostname := "b", id := "@a:b" }
  access_token := "t"
  device_id := "d"

/-- A client that logged in and out has a user id and nothing else, and one that logged in while a
logout was outstanding has nothing but the user id of its new session. -/
theorem user_id_remains :
    (∃ w, credentials.Run (.initial {})
      [.login, .loginDone 0 aliceLogin none, .logout, .logoutDone 0 none] w ∧
        w.client.user_id = aliceLogin.user_id ∧ ¬ Consistent {} w) ∧
    ∃ w, credentials.Run (.initial {})
      [.logout, .login, .loginDone 1 aliceLogin none, .logoutDone 0 none] w ∧
        w.successes = [aliceLogin.credentials] ∧ w.client.access_token = [] := by
  have hlogin := run_next (s := {}) .login .nil trivial
  have hlogout := run_next (s := {}) .logout .nil trivial
  have hloggedIn := run_next .logout (run_next (.loginDone 0 aliceLogin none) hlogin rfl) trivial
  have hloggedIn' := run_next (.loginDone 1 aliceLogin none) (run_next .login hlogout trivial) rfl
  refine ⟨⟨_, run_next (.logoutDone 0 none) hloggedIn ⟨_, rfl⟩, rfl, ?_⟩,
    _, run_next (.logoutDone 0 none) hloggedIn' ⟨_, rfl⟩, rfl, rfl⟩
  rw [Consistent]
  decide

end Mtx.Http
