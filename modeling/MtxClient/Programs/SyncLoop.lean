import MtxClient.Http.Query
import MtxClient.Lib.Runs
import MtxClient.Programs.Callbacks
import MtxClient.Responses.Sync

/-!
# The sync loop

The example programs that follow an account all have the same loop: one request to `/sync` is
outstanding, and the callback that gets its answer parses it and sends the next request, from where
the answer ended.  A request that fails is repeated.

`alive_or_stopped` is about the loop of a program with any state: whatever requests fail and
however, the program handles the batches that the other requests are answered with (`seen`), each of
them once, as if none had failed.  It only stops where parsing a batch throws, since that skips the
next request.
-/

set_option autoImplicit false

namespace Mtx.Programs

open Str Http Responses Events Stateful

/-! ## The request -/

/-- The options of `Client::sync`. -/
structure SyncOpts where
  /-- Filter to apply. -/
  filter : Str := ""
  /-- Sync pagination token. -/
  since : Str := ""
  /-- The amount of msecs to wait for long polling. -/
  timeout : UInt16 := 30000
  /-- Wheter to include the full state of each room. -/
  full_state : Bool := false
  /-- Explicitly set the presence of the user. -/
  set_presence : Option PresenceState := none

/-- The parameters of `Client::sync`. -/
def SyncOpts.params (opts : SyncOpts) : QueryParams := (SortedMap.empty : QueryParams)
  |>.insertIf (opts.filter != "") "filter" opts.filter
  |>.insertIf (opts.since != "") "since" opts.since
  |>.insertIf opts.full_state "full_state" "true"
  |>.insertIf opts.set_presence.isSome "set_presence"
    ((opts.set_presence.map PresenceState.toStr).getD "")
  |>.insert "timeout" (toString opts.timeout.toNat)

/-- The endpoint of `Client::sync`. -/
def syncEndpoint (opts : SyncOpts) : Endpoint where
  path := ["/client/v3/sync"]
  query := some (queryParams opts.params)
  route := ["client", "v3", "sync"]

/-- The token that a homeserver finds in a request. -/
def sinceOf (url : Str) : Option Str :=
  (parameters ((url.dropWhile (· != 63)).drop 1)).lookup (lit "since")

/-! ## The program -/

/-- The callbacks that a `/sync` request has. -/
inductive Handler where
  | initialSyncHandler
  | syncHandler
  deriving DecidableEq

/-- What a program does with the batches that it gets, and with anything else that happens to it. -/
structure App (json : JsonText) (σ ι : Type) where
  /-- What `initial_sync_handler` does with a batch. -/
  first : Sync json → Stateful Exn σ Unit
  /-- What `sync_handler` does with a batch. -/
  next : Sync json → Stateful Exn σ Unit
  other : ι → σ → Except Exn σ

/-- A program with the request to `/sync` that is outstanding. -/
structure Loop (σ : Type) where
  next_batch_token : Str := ""
  syncing : Option (Str × Handler) := none
  app : σ

variable {json : JsonText} {σ ι : Type}

/-- `client->sync(opts, &handler)`. -/
def Loop.sync (l : Loop σ) (opts : SyncOpts) (handler : Handler) : Loop σ :=
  { l with syncing := some ((syncEndpoint opts).url, handler) }

/-- The handlers, for a batch that `parse` is done with. -/
def proceed (parse : Stateful Exn σ Unit) (next_batch : Str) : Stateful Exn (Loop σ) Unit := fun l ↦
  match parse l.app with
  | (.ok (), app) => (.ok (), { l with app, next_batch_token := next_batch }.sync
      { since := next_batch } .syncHandler)
  | (.error e, app) => (.error e, { l with app })

/-- `sync_handler`. -/
def syncHandler (a : App json σ ι) (res : Sync json) (err : Option ClientError) :
    Stateful Exn (Loop σ) Unit :=
  match err with
  | some _ => update fun l ↦ l.sync { since := l.next_batch_token } .syncHandler
  | none => proceed (a.next res) res.next_batch

/-- `initial_sync_handler`. -/
def initialSyncHandler (a : App json σ ι) (res : Sync json) (err : Option ClientError) :
    Stateful Exn (Loop σ) Unit :=
  match err with
  | some err =>
    if err.status_code ≠ 200 then update fun l ↦ l.sync { timeout := 0 } .initialSyncHandler
    else pure ()
  | none => proceed (a.first res) res.next_batch

/-- The callback of a request. -/
def Handler.run (a : App json σ ι) (handler : Handler) (call : Call (Sync json)) :
    Stateful Exn (Loop σ) Unit :=
  match handler with
  | .initialSyncHandler => Programs.initialSyncHandler a call.response call.err
  | .syncHandler => Programs.syncHandler a call.response call.err

instance : Inhabited (Sync json) := ⟨{ next_batch := "" }⟩

/-- What can happen to the program. -/
inductive Action (ι : Type) where
  /-- The request to `/sync` is answered. -/
  | answered (answer : HttpAnswer)
  | other (i : ι)

/-- The answer to the outstanding request. -/
def Loop.answered (what : Exn → Str) (a : App json σ ι) (l : Loop σ) (answer : HttpAnswer) :
    Except Exn (Loop σ) :=
  match l.syncing with
  | none => .ok l
  | some (_, handler) =>
    complete json what (deserializeJson json (Sync.fromJson json)) (handler.run a) answer
      { l with syncing := none }

/-- After the login. -/
def Loop.start (app : σ) : Loop σ := { app : Loop σ }.sync { timeout := 0 } .initialSyncHandler

/-! ## The homeserver -/

/-- What a homeserver answers: its tokens stand for positions in what happens, and an answer tells
what happened between two of them. -/
structure Homeserver (json : JsonText) where
  token : ℕ → Str
  token_ne_nil (i : ℕ) : token i ≠ []
  token_injective : Function.Injective token
  tells : ℕ → ℕ → Sync json → Prop

namespace Homeserver

/-- A batch that answers a request. -/
def Answers (h : Homeserver json) (url : Str) (res : Sync json) : Prop :=
  match sinceOf url with
  | none => ∃ j, res.next_batch = h.token j
  | some since => ∀ i, since = h.token i → ∃ j, i ≤ j ∧ res.next_batch = h.token j ∧ h.tells i j res

/-- The requests that do not fail are answered. -/
def Honest (h : Homeserver json) (l : Loop σ) : Action ι → Prop
  | .answered answer => ∃ url handler, l.syncing = some (url, handler) ∧
    ∀ res, received (deserializeJson json (Sync.fromJson json)) answer = some res →
      h.Answers url res
  | .other _ => True

end Homeserver

/-- Where what happens to a program leads. -/
def Loop.step (what : Exn → Str) (a : App json σ ι) (l : Loop σ) :
    Action ι → Except Exn (Loop σ)
  | .answered answer => l.answered what a answer
  | .other i => do
    let app ← a.other i l.app
    return { l with app }

/-- The loop of a program. -/
def loop (what : Exn → Str) (h : Homeserver json) (a : App json σ ι) :
    Machine (Loop σ) (Action ι) Exn where
  possible := h.Honest
  step := Loop.step what a

/-! ## Without failures -/

/-- What a program sees. -/
inductive Seen (json : JsonText) (ι : Type) where
  | batch (res : Sync json)
  | other (i : ι)

/-- What the program sees of an action: the batch that answers a request, and nothing of a request
that fails. -/
def Action.seen (json : JsonText) : Action ι → Option (Seen json ι)
  | .answered answer =>
    (received (deserializeJson json (Sync.fromJson json)) answer).map .batch
  | .other i => some (.other i)

/-- What the program sees of a run. -/
def seen (json : JsonText) (actions : List (Action ι)) : List (Seen json ι) :=
  actions.filterMap (Action.seen json)

/-- The batches among what is seen. -/
def batches (l : List (Seen json ι)) : List (Sync json) :=
  l.filterMap fun
    | .batch res => some res
    | .other _ => none

/-- How far a program has got: from which position on it sees what happens, and up to which. -/
abbrev Position := Option (ℕ × ℕ)

/-- The program comes to a state by what it sees, one batch after the other. -/
inductive Follows (h : Homeserver json) (a : App json σ ι) (start : σ) :
    List (Seen json ι) → σ → Position → Prop
  | start : Follows h a start [] start none
  | first {l : List (Seen json ι)} {s s' : σ} {res : Sync json} {i : ℕ}
    (hs : Follows h a start l s none) (htoken : res.next_batch = h.token i)
    (hfirst : a.first res s = (.ok (), s')) :
    Follows h a start (l ++ [.batch res]) s' (some (i, i))
  | next {l : List (Seen json ι)} {s s' : σ} {res : Sync json} {i j k : ℕ}
    (hs : Follows h a start l s (some (i, j))) (hle : j ≤ k) (htoken : res.next_batch = h.token k)
    (htells : h.tells j k res) (hnext : a.next res s = (.ok (), s')) :
    Follows h a start (l ++ [.batch res]) s' (some (i, k))
  | other {l : List (Seen json ι)} {s s' : σ} {p : Position} {x : ι}
    (hs : Follows h a start l s p) (hother : a.other x s = .ok s') :
    Follows h a start (l ++ [.other x]) s' p

/-- The program has handled what it saw, and waits for the batch behind. -/
def Alive (h : Homeserver json) (a : App json σ ι) (start : σ) (l : List (Seen json ι))
    (p : Loop σ) : Prop :=
  (Follows h a start l p.app none ∧
    p.syncing = some ((syncEndpoint { timeout := 0 }).url, .initialSyncHandler)) ∨
  ∃ i j, Follows h a start l p.app (some (i, j)) ∧ p.next_batch_token = h.token j ∧
    p.syncing = some ((syncEndpoint { since := h.token j }).url, .syncHandler)

/-- The handler of a batch throws, and leaves a state. -/
def ThrowsAt (h : Homeserver json) (a : App json σ ι) (start : σ) (l : List (Seen json ι))
    (res : Sync json) (e : Exn) (s' : σ) : Prop :=
  ∃ s, (Follows h a start l s none ∧ a.first res s = (.error e, s')) ∨
    ∃ i j k, Follows h a start l s (some (i, j)) ∧ h.tells j k res ∧ a.next res s = (.error e, s')

/-- The program waits for nothing: it threw when it handled the last batch that it saw. -/
def Stopped (h : Homeserver json) (a : App json σ ι) (start : σ) (l : List (Seen json ι))
    (p : Loop σ) : Prop :=
  p.syncing = none ∧ ∃ (before : List (Seen json ι)) (res : Sync json) (after : List ι) (e : Exn)
    (s' : σ), l = before ++ .batch res :: after.map .other ∧ ThrowsAt h a start before res e s' ∧
      after.foldlM (fun s x ↦ a.other x s) s' = .ok p.app

/-! ## The request is understood -/

theorem parameters_url (opts : SyncOpts) :
    parameters (((syncEndpoint opts).url.dropWhile (· != 63)).drop 1) = opts.params.entries := by
  have hkeys : opts.params.All fun k _ ↦ 38 ∉ k ∧ 61 ∉ k := by
    have hempty : (SortedMap.empty : QueryParams).All fun k _ ↦ 38 ∉ k ∧ 61 ∉ k := .empty
    exact ((((hempty.insertIf (by decide)).insertIf (by decide)).insertIf (by decide)).insertIf
      (by decide)).insert (by decide)
  have hquery : (syncEndpoint opts).url = lit "/client/v3/sync" ++ 63 :: queryParams opts.params :=
    rfl
  have hpath : ∀ c ∈ lit "/client/v3/sync", (c != 63) = true := by decide +kernel
  rw [hquery, List.dropWhile_append_of_pos hpath, List.dropWhile_cons_of_neg (by decide),
    List.drop_one, List.tail_cons, parameters, splitQuery_queryParams fun e he ↦
      hkeys e.1 e.2 (SortedMap.mem_entries_iff.mp he), List.map_map]
  refine List.map_id'' (fun e ↦ ?_) _
  exact Prod.ext rfl (decode_urlEncode e.2)

/-- A map is looked up like the list of its entries. -/
theorem lookup_entries {κ ν : Type} [LinearOrder κ] [BEq κ] [LawfulBEq κ] (m : SortedMap κ ν)
    (k : κ) :
    m.entries.lookup k = m.find? k := by
  rw [SortedMap.find?]
  induction m.entries with
  | nil => rfl
  | cons e entries ih =>
    rw [List.lookup_cons, AssocList.find?_cons, ih]
    by_cases h : e.1 = k
    · rw [if_pos h, h, beq_self_eq_true]
    · rw [if_neg h, beq_false_of_ne (Ne.symm h)]

/-- A homeserver finds the token that a request is sent with. -/
theorem sinceOf_url (opts : SyncOpts) :
    sinceOf (syncEndpoint opts).url = if opts.since = [] then none else some opts.since := by
  rw [sinceOf, parameters_url, lookup_entries]
  by_cases h : opts.since = []
  · simp [SyncOpts.params, h, show lit "" = [] from rfl]
  · simp [SyncOpts.params, h, show lit "" = [] from rfl]

variable {what : Exn → Str} {a : App json σ ι} {h : Homeserver json} {start : σ} {l l' : Loop σ}

theorem answers_initial_iff {res : Sync json} :
    h.Answers (syncEndpoint { timeout := 0 }).url res ↔ ∃ j, res.next_batch = h.token j := by
  rw [Homeserver.Answers, sinceOf_url, if_pos (show lit "" = [] from rfl)]

theorem answers_since_iff {res : Sync json} {i : ℕ} :
    h.Answers (syncEndpoint { since := h.token i }).url res ↔
      ∃ j, i ≤ j ∧ res.next_batch = h.token j ∧ h.tells i j res := by
  rw [Homeserver.Answers, sinceOf_url, if_neg (h.token_ne_nil i)]
  refine ⟨fun hres ↦ hres i rfl, fun hres k hk ↦ ?_⟩
  rwa [← h.token_injective hk]

/-! ## One answer -/

/-- What an answer does: the handler runs with the batch that is received, or with an error, and
then it is the handler that decides what is outstanding. -/
theorem answered_eq_ok {url : Str} {handler : Handler} (hsyncing : l.syncing = some (url, handler))
    {answer : HttpAnswer} (hstep : l.answered what a answer = .ok l') :
    (∃ call, call.err = none ∧
      received (deserializeJson json (Sync.fromJson json)) answer = some call.response ∧
      l' = (handler.run a call { l with syncing := none }).2) ∨
    ∃ call err, call.err = some err ∧ err.status_code ≠ 200 ∧
      received (deserializeJson json (Sync.fromJson json)) answer = none ∧
      l' = (handler.run a call { l with syncing := none }).2 := by
  rw [Loop.answered, hsyncing] at hstep
  obtain ⟨call, hcall, hl'⟩ := complete_eq_ok hstep
  rcases hcall with ⟨hnone, hres⟩ | ⟨err, hsome, hstatus, hres⟩
  · exact .inl ⟨call, hnone, hres, hl'⟩
  · exact .inr ⟨call, err, hsome, hstatus, hres, hl'⟩

theorem isSuccess_ok : IsSuccess 200 := ⟨by decide, by decide⟩

/-- A batch that arrives. -/
theorem run_batch {actions : List (Action ι)} {l₀ : Loop σ}
    (hrun : (loop what h a).Run l₀ actions l) {url : Str} {handler : Handler}
    (hsyncing : l.syncing = some (url, handler)) {j : Json} (hrestores : json.Restores j)
    {res : Sync json} (hres : Sync.fromJson json j = .ok res) (hanswers : h.Answers url res)
    {l' : Loop σ} (hhandled : handler.run a { response := res, headers := none, err := none }
      { l with syncing := none } = (.ok (), l')) :
    (loop what h a).Run l₀ (actions ++ [.answered { body := json.text j }]) l' := by
  have hread : deserializeJson json (Sync.fromJson json) (json.text j) = .ok res := by
    rw [deserializeJson, parseBody, hrestores, ← hres]
    rfl
  refine hrun.snoc ⟨url, handler, hsyncing, fun res' hres' ↦ ?_⟩ ?_
  · obtain ⟨-, -, hread'⟩ := received_eq_some_iff.mp hres'
    rwa [← Except.ok.inj (hread.symm.trans hread')]
  · show l.answered what a _ = _
    rw [Loop.answered, hsyncing]
    exact (complete_of_success isSuccess_ok rfl hread).trans (afterCall_of_ok hhandled)

/-- A request that does not reach the homeserver. -/
theorem run_lost {actions : List (Action ι)} {l₀ : Loop σ}
    (hrun : (loop what h a).Run l₀ actions l) {url : Str} {handler : Handler}
    (hsyncing : l.syncing = some (url, handler)) {err_code : ℤ} (herr : err_code ≠ 0)
    {l' : Loop σ} (hhandled : handler.run a
      { response := default, headers := none, err := some { error_code := err_code } }
      { l with syncing := none } = (.ok (), l')) :
    (loop what h a).Run l₀ (actions ++ [.answered { err_code }]) l' := by
  refine hrun.snoc ⟨url, handler, hsyncing, fun _ hres ↦
    absurd (received_eq_some_iff.mp hres).1 herr⟩ ?_
  show l.answered what a _ = _
  rw [Loop.answered, hsyncing]
  exact (complete_of_transport herr).trans (afterCall_of_ok hhandled)

/-! ## Invariants of the program -/

theorem app_proceed (l : Loop σ) (next_batch : Str) (parse : Stateful Exn σ Unit) :
    (proceed parse next_batch l).2.app = (parse l.app).2 := by
  rw [proceed]
  rcases parse l.app with ⟨e | -, app⟩ <;> rfl

/-- What holds of the state of a program, and is kept by all that the program does, is kept by the
loop around it. -/
theorem Loop.step_keeps {I : σ → Prop}
    (hfirst : ∀ body res, deserializeJson json (Sync.fromJson json) body = .ok res →
      Keeps I (a.first res))
    (hnext : ∀ body res, deserializeJson json (Sync.fromJson json) body = .ok res →
      Keeps I (a.next res))
    (hother : ∀ x s s', I s → a.other x s = .ok s' → I s')
    {action : Action ι} (hl : I l.app) (hstep : l.step what a action = .ok l') : I l'.app := by
  cases action with
  | other x =>
    obtain ⟨app, happ, hl'⟩ := bind_eq_ok_iff.mp hstep
    rw [← Except.ok.inj hl']
    exact hother x l.app app hl happ
  | answered answer =>
    rw [Loop.step, Loop.answered] at hstep
    cases hsyncing : l.syncing with
    | none =>
      rw [hsyncing] at hstep
      rwa [← Except.ok.inj hstep]
    | some request =>
      rw [hsyncing] at hstep
      obtain ⟨call, hcall, rfl⟩ := complete_eq_ok hstep
      rcases hcall with ⟨hnone, hres⟩ | ⟨err, hsome, hne, -⟩
      · cases request.2 with
        | initialSyncHandler =>
          rw [Handler.run, hnone, initialSyncHandler, app_proceed]
          exact (hfirst _ _ (received_eq_some_iff.mp hres).2.2 l.app hl).1
        | syncHandler =>
          rw [Handler.run, hnone, syncHandler, app_proceed]
          exact (hnext _ _ (received_eq_some_iff.mp hres).2.2 l.app hl).1
      · cases request.2 with
        | initialSyncHandler =>
          rw [Handler.run, hsome, initialSyncHandler, if_pos hne]
          exact hl
        | syncHandler =>
          rw [Handler.run, hsome, syncHandler]
          exact hl

/-! ## The loop -/

/-- What remains to be done after a batch was parsed. -/
theorem proceed_eq (l : Loop σ) (next_batch : Str) (parse : Stateful Exn σ Unit) :
    (∃ app, parse l.app = (.ok (), app) ∧ (proceed parse next_batch l).2 =
      { next_batch_token := next_batch, app
        syncing := some ((syncEndpoint { since := next_batch }).url, .syncHandler) }) ∨
    ∃ e app, parse l.app = (.error e, app) ∧ (proceed parse next_batch l).2 = { l with app } := by
  rw [proceed]
  rcases parse l.app with ⟨e | -, app⟩
  · exact .inr ⟨e, app, rfl, rfl⟩
  · exact .inl ⟨app, rfl, rfl⟩

variable {before : List (Seen json ι)}

theorem seen_answered {answer : HttpAnswer} {res : Sync json}
    (h : received (deserializeJson json (Sync.fromJson json)) answer = some res) :
    seen json [Action.answered (ι := ι) answer] = [.batch res] := by
  rw [seen, List.filterMap_cons, Action.seen, h]
  rfl

theorem seen_failed {answer : HttpAnswer}
    (h : received (deserializeJson json (Sync.fromJson json)) answer = none) :
    seen json [Action.answered (ι := ι) answer] = [] := by
  rw [seen, List.filterMap_cons, Action.seen, h]
  rfl

/-- A batch that is handled, or at which the handler throws. -/
theorem stopped_of_throws {res : Sync json} {e : Exn} {app : σ}
    (hthrows : ThrowsAt h a start before res e app) (hnone : l.syncing = none)
    (happ : l.app = app) : Stopped h a start (before ++ [.batch res]) l :=
  ⟨hnone, before, res, [], e, app, rfl, hthrows, congrArg Except.ok happ.symm⟩

/-- An answer before the first batch. -/
theorem alive_or_stopped_of_first (hs : Follows h a start before l.app none)
    (hsyncing : l.syncing = some ((syncEndpoint { timeout := 0 }).url, .initialSyncHandler))
    {answer : HttpAnswer}
    (hanswers : ∀ res, received (deserializeJson json (Sync.fromJson json)) answer = some res →
      h.Answers (syncEndpoint { timeout := 0 }).url res)
    (hstep : l.answered what a answer = .ok l') :
    Alive h a start (before ++ seen json [.answered answer]) l' ∨
      Stopped h a start (before ++ seen json [.answered answer]) l' := by
  rcases answered_eq_ok hsyncing hstep with
    ⟨call, hnone, hres, rfl⟩ | ⟨call, err, hsome, hne, hres, rfl⟩
  · obtain ⟨j, htoken⟩ := answers_initial_iff.mp (hanswers call.response hres)
    rw [Handler.run, hnone, initialSyncHandler, seen_answered hres]
    rcases proceed_eq { l with syncing := none } call.response.next_batch (a.first call.response)
      with ⟨app, hfirst, hl⟩ | ⟨e, app, hthrown, hl⟩
    · refine .inl (.inr ⟨j, j, ?_⟩)
      rw [hl, ← htoken]
      exact ⟨.first hs htoken hfirst, rfl, rfl⟩
    · refine .inr (stopped_of_throws ⟨l.app, .inl ⟨hs, hthrown⟩⟩ ?_ ?_) <;> rw [hl]
  · rw [Handler.run, hsome, initialSyncHandler, if_pos hne, seen_failed hres, List.append_nil]
    exact .inl (.inl ⟨hs, rfl⟩)

/-- An answer behind the first batch. -/
theorem alive_or_stopped_of_next {i j : ℕ} (hs : Follows h a start before l.app (some (i, j)))
    (htoken : l.next_batch_token = h.token j)
    (hsyncing : l.syncing = some ((syncEndpoint { since := h.token j }).url, .syncHandler))
    {answer : HttpAnswer}
    (hanswers : ∀ res, received (deserializeJson json (Sync.fromJson json)) answer = some res →
      h.Answers (syncEndpoint { since := h.token j }).url res)
    (hstep : l.answered what a answer = .ok l') :
    Alive h a start (before ++ seen json [.answered answer]) l' ∨
      Stopped h a start (before ++ seen json [.answered answer]) l' := by
  rcases answered_eq_ok hsyncing hstep with
    ⟨call, hnone, hres, rfl⟩ | ⟨call, err, hsome, -, hres, rfl⟩
  · obtain ⟨k, hle, hnext, htells⟩ := answers_since_iff.mp (hanswers call.response hres)
    rw [Handler.run, hnone, syncHandler, seen_answered hres]
    rcases proceed_eq { l with syncing := none } call.response.next_batch (a.next call.response)
      with ⟨app, happ, hl⟩ | ⟨e, app, hthrown, hl⟩
    · refine .inl (.inr ⟨i, k, ?_⟩)
      rw [hl, ← hnext]
      exact ⟨.next hs hle hnext htells happ, rfl, rfl⟩
    · refine .inr (stopped_of_throws ⟨l.app, .inr ⟨i, j, k, hs, htells, hthrown⟩⟩ ?_ ?_) <;> rw [hl]
  · rw [Handler.run, hsome, syncHandler, seen_failed hres, List.append_nil]
    refine .inl (.inr ⟨i, j, hs, htoken, ?_⟩)
    rw [← htoken]
    rfl

/-- One thing that happens to the loop. -/
theorem alive_or_stopped_of_step {action : Action ι}
    (hl : Alive h a start before l ∨ Stopped h a start before l)
    (hpossible : (loop what h a).possible l action) (hstep : l.step what a action = .ok l') :
    Alive h a start (before ++ seen json [action]) l' ∨
      Stopped h a start (before ++ seen json [action]) l' := by
  cases action with
  | answered answer =>
    obtain ⟨url, handler, hsyncing, hanswers⟩ := hpossible
    rcases hl with (⟨hs, hfirst⟩ | ⟨i, j, hs, htoken, hnext⟩) | ⟨hnone, -⟩
    · obtain ⟨rfl, -⟩ := Prod.mk.inj (Option.some.inj (hsyncing.symm.trans hfirst))
      exact alive_or_stopped_of_first hs hfirst hanswers hstep
    · obtain ⟨rfl, -⟩ := Prod.mk.inj (Option.some.inj (hsyncing.symm.trans hnext))
      exact alive_or_stopped_of_next hs htoken hnext hanswers hstep
    · rw [hnone] at hsyncing
      cases hsyncing
  | other x =>
    obtain ⟨app, hother, hl'⟩ := bind_eq_ok_iff.mp hstep
    obtain rfl := Except.ok.inj hl'
    rcases hl with (⟨hs, hfirst⟩ | ⟨i, j, hs, htoken, hnext⟩) |
      ⟨hnone, before, res, after, e, s', rfl, hthrows, hafter⟩
    · exact .inl (.inl ⟨.other hs hother, hfirst⟩)
    · exact .inl (.inr ⟨i, j, .other hs hother, htoken, hnext⟩)
    · refine .inr ⟨hnone, before, res, after ++ [x], e, s', ?_, hthrows, ?_⟩
      · rw [List.append_assoc, List.cons_append, List.map_append]
        rfl
      · rw [List.foldlM_append, hafter, ok_bind]
        exact bind_eq_ok_iff.mpr ⟨app, hother, rfl⟩

/-- What happens to the loop from then on. -/
theorem alive_or_stopped_of_run {actions : List (Action ι)}
    (hl : Alive h a start before l ∨ Stopped h a start before l)
    (hrun : (loop what h a).Run l actions l') :
    Alive h a start (before ++ seen json actions) l' ∨
      Stopped h a start (before ++ seen json actions) l' := by
  refine hrun.invariant (P := fun actions l ↦ Alive h a start (before ++ seen json actions) l ∨
    Stopped h a start (before ++ seen json actions) l) ?_ ?_
  · rwa [seen, List.filterMap_nil, List.append_nil]
  · intro actions l action l' _ hl hpossible hstep
    rw [seen, List.filterMap_append, ← List.append_assoc]
    exact alive_or_stopped_of_step hl hpossible hstep

theorem batches_append_batch (l : List (Seen json ι)) (res : Sync json) :
    batches (l ++ [.batch res]) = batches l ++ [res] := by
  rw [batches, List.filterMap_append]
  rfl

theorem batches_append_other (l : List (Seen json ι)) (x : ι) :
    batches (l ++ [.other x]) = batches l := by
  rw [batches, List.filterMap_append]
  exact List.append_nil _

/-- A program sees what happens from the first batch on, up to the last. -/
theorem Follows.position {l : List (Seen json ι)} {s : σ} {p : Position}
    (hs : Follows h a start l s p) : p.elim (batches l = []) fun p ↦
      (∃ res, (batches l).head? = some res ∧ res.next_batch = h.token p.1) ∧
        ∃ res, (batches l).getLast? = some res ∧ res.next_batch = h.token p.2 := by
  induction hs with
  | start => rfl
  | first _ htoken _ ih =>
    rw [batches_append_batch, show _ = [] from ih]
    exact ⟨⟨_, rfl, htoken⟩, _, rfl, htoken⟩
  | next _ _ htoken _ _ ih =>
    obtain ⟨⟨res, hfirst, hi⟩, -⟩ := ih
    rw [batches_append_batch]
    refine ⟨⟨res, ?_, hi⟩, _, List.getLast?_concat, htoken⟩
    rw [List.head?_append, hfirst]
    rfl
  | other _ _ ih => rwa [batches_append_other]

/-- The program waits for its first batch after the login. -/
theorem alive_start (h : Homeserver json) (a : App json σ ι) (start : σ) :
    Alive h a start [] (.start start) := .inl ⟨.start, rfl⟩

/-- A batch in which nothing happened. -/
def sampleBatch : Json := .object [(lit "next_batch", .string "s")]

/-- The homeserver whose tokens are `s`, `ss` and so on. -/
def sampleServer (json : JsonText) : Homeserver json where
  token i := List.replicate (i + 1) 's'.toUInt8
  token_ne_nil i := by simp
  token_injective i j h := by simpa using congrArg List.length h
  tells _ _ _ := True

/-- A program that counts the batches. -/
def counter (json : JsonText) : App json ℕ Empty where
  first _ := update (· + 1)
  next _ := update (· + 1)
  other x := x.elim

end Mtx.Programs
