import MtxClient.Http.Disposition
import MtxClient.Http.Endpoints
import MtxClient.Http.InteractiveAuth
import MtxClient.Lib.Runs
import MtxClient.Responses.Lookups

/-!
# Requests with fallbacks

Servers differ in where they have media and summaries of rooms, so four requests try another
endpoint when the first one is missing: `preview_url`, `get_thumbnail`, `download` and
`get_summary`.  Their callbacks make further requests, with callbacks of their own.

What a callback does is a value here, `Effects`: the calls of the user callback and the requests.  A
`Conversation` is what such a request came to so far, and the server answers its requests in any
order (`conversation`).

`fallbacks_answer_once` says that each of them ends with one call of the user callback.  A request
`Answers` within some number of further requests if its callback calls the user or makes one that
does, and every state on a run is `Waiting` for such a request or is done.
-/

set_option autoImplicit false

namespace Mtx.Http

open Str
open Mtx.Responses (RoomId PublicRoomsChunk HierarchyRooms URLPreview)

/-! ## Callbacks that make requests -/

/-- A request without an answer, where `γ` are the arguments of the user callback. -/
inductive OpenRequest (γ : Type) where
  /-- `reads` says whether the body is a response of the request, and `answered` what an answer
  leads to: calls of the user callback and requests. -/
  | mk (endpoint : Str) (reads : Str → Except Exn Unit)
    (answered : Answer → Except Exn (List γ × List (OpenRequest γ)))

namespace OpenRequest

variable {γ : Type}

def endpoint : OpenRequest γ → Str
  | mk endpoint _ _ => endpoint

def reads : OpenRequest γ → Str → Except Exn Unit
  | mk _ reads _ => reads

def answered : OpenRequest γ → Answer → Except Exn (List γ × List (OpenRequest γ))
  | mk _ _ answered => answered

end OpenRequest

/-- What a callback does. -/
structure Effects (γ : Type) where
  /-- How it ends. -/
  ended : Except StdException Unit := .ok ()
  /-- What it calls the user callback with. -/
  calls : List γ := []
  /-- The requests that it makes. -/
  requests : List (OpenRequest γ) := []

section

variable {γ : Type}

/-- The callback makes a request. -/
def Effects.request (r : OpenRequest γ) : Effects γ where
  requests := [r]

/-- The callback throws an exception before it does anything. -/
def Effects.throw (e : Exn) : Effects γ where
  ended := if h : isStd e = true then .error ⟨e, h⟩ else .ok ()

/-- The user callback is called, and may throw an exception. -/
def Effects.call (callback : γ → Except StdException Unit) (argument : γ) : Effects γ where
  ended := callback argument
  calls := [argument]

variable (t : JsonText) (what : Exn → Str)

/-- `get<Response>(endpoint, callback)`, where the answer goes to `prepare_callback`. -/
def get_ {ρ : Type} [Inhabited ρ] (deserialize : Str → Except Exn ρ) (endpoint : Str)
    (callback : Call ρ → Effects γ) : OpenRequest γ :=
  .mk endpoint (fun body ↦ (deserialize body).map fun _ ↦ ()) fun a ↦
    match completeRequest t what deserialize (fun call ↦ (callback call).ended) a.headers a.body
        a.err_code a.status_code with
    | (.ok _, calls) =>
      .ok (calls.flatMap fun call ↦ (callback call).calls,
        calls.flatMap fun call ↦ (callback call).requests)
    | (.error e, _) => .error e

/-- `deserialize<std::string>`. -/
def deserializeString (body : Str) : Except Exn Str := .ok body

/-- `err && (err->status_code == 404 || err->status_code == 400)`: the server does not have the
endpoint. -/
def isMissing (err : Option ClientError) : Bool :=
  match err with
  | some e => e.status_code == 404 || e.status_code == 400
  | none => false

/-- `err && err->status_code == 404`. -/
def isNotFound (err : Option ClientError) : Bool :=
  match err with
  | some e => e.status_code == 404
  | none => false

/-! ## Previews -/

/-- `Client::preview_url`. -/
def previewUrl (timestamp : Option Int64) (url : Str)
    (callback : URLPreview × Option ClientError → Except StdException Unit) :
    OpenRequest (URLPreview × Option ClientError) :=
  let params : QueryParams := (SortedMap.empty : QueryParams)
    |>.insertIf timestamp.isSome "ts" (toString (timestamp.getD 0).toInt)
    |>.insert "url" url
  let deserialize := deserializeJson t URLPreview.fromJson
  get_ t what deserialize (lit "/client/v1/media/preview_url?" ++ queryParams params) fun call ↦
    if !isMissing call.err then Effects.call callback (call.response, call.err)
    else Effects.request <|
      get_ t what deserialize (lit "/media/v3/preview_url?" ++ queryParams params) fun call ↦
        Effects.call callback (call.response, call.err)

/-! ## Media -/

variable (header : List (Str × Str) → Str → Option Str)

/-- `Client::download`, where `header` is how a header is looked up. -/
def download (server media_id : Str) (callback : Download → Effects γ) : OpenRequest γ :=
  let cb (call : Call Str) : Effects γ :=
    match downloadCb header call with
    | .ok d => callback d
    | .error e => Effects.throw e
  get_ t what deserializeString (Endpoint.download server media_id).url fun call ↦
    if !isMissing call.err then cb call
    else Effects.request <|
      get_ t what deserializeString (Endpoint.downloadFallback server media_id).url cb

/-- `Client::get_thumbnail`. -/
def getThumbnail (opts : Endpoint.ThumbOpts)
    (callback : Str × Option ClientError → Except StdException Unit) (try_download : Bool) :
    OpenRequest (Str × Option ClientError) :=
  let mxc := parseMxcUrl opts.mxc_url
  let downloaded := download t what header mxc.server mxc.media_id fun d ↦
    Effects.call callback (d.res, d.err)
  get_ t what deserializeString (Endpoint.getThumbnail opts).url fun call ↦
    if !isMissing call.err then Effects.call callback (call.response, call.err)
    else if try_download && isNotFound call.err then Effects.request downloaded
    else Effects.request <|
      get_ t what deserializeString (Endpoint.getThumbnailFallback opts).url fun call ↦
        if try_download && isNotFound call.err then Effects.request downloaded
        else Effects.call callback (call.response, call.err)

/-! ## Summaries -/

/-- `Client::resolve_room_alias`. -/
def resolveRoomAlias (alias_ : Str) (cb : RoomId × Option ClientError → Effects γ) :
    OpenRequest γ :=
  get_ t what (deserializeJson t RoomId.fromJson) (Endpoint.resolveRoomAlias alias_).url
    fun call ↦ cb (call.response, call.err)

/-- `Client::get_hierarchy`, from the first room on. -/
def getHierarchy (room_id : Str) (limit : ℕ)
    (cb : HierarchyRooms t × Option ClientError → Effects γ) : OpenRequest γ :=
  get_ t what (deserializeJson t (HierarchyRooms.fromJson t))
    (Endpoint.getHierarchy room_id "" limit 0 false).url fun call ↦ cb (call.response, call.err)

/-- `Client::get_summary`. -/
def getSummary (room_id : Str)
    (cb : PublicRoomsChunk t × Option ClientError → Except StdException Unit) (via : List Str) :
    OpenRequest (PublicRoomsChunk t × Option ClientError) :=
  let fromHierarchy (room_id : Str) := getHierarchy t what room_id 1 fun (res, err) ↦
    match res.rooms with
    | [] => Effects.call cb (default, err)
    | room :: _ => Effects.call cb (room, err)
  get_ t what (deserializeJson t (PublicRoomsChunk.fromJson t))
    (Endpoint.getSummary room_id via).url fun call ↦
    if !isMissing call.err then Effects.call cb (call.response, call.err)
    else if room_id.head? = some 35 then Effects.request <|
      resolveRoomAlias t what room_id fun (room, err) ↦
        if room.room_id.isEmpty then Effects.call cb (default, err)
        else Effects.request (fromHierarchy room.room_id)
    else Effects.request (fromHierarchy room_id)

/-! ## Conversations with the server -/

/-- What a request of the client came to so far. -/
structure Conversation (γ : Type) where
  /-- The requests without an answer. -/
  pending : List (OpenRequest γ)
  /-- How many requests were made. -/
  made : ℕ
  /-- The calls of the user callback. -/
  calls : List γ := []
  /-- The last answer, and the request that it is for. -/
  last : Option (OpenRequest γ × Answer) := none

/-- The request is made. -/
def Conversation.start (r : OpenRequest γ) : Conversation γ where
  pending := [r]
  made := 1

/-- The request `i` is answered. -/
def Conversation.respond (s : Conversation γ) (i : ℕ) (a : Answer) :
    Except Exn (Conversation γ) :=
  match s.pending[i]? with
  | some r => do
    let (calls, requests) ← r.answered a
    return { pending := s.pending.eraseIdx i ++ requests, made := s.made + requests.length
             calls := s.calls ++ calls, last := some (r, a) }
  | none => .ok s

/-- The server answers the requests in any order, with whatever can be read without undefined
behaviour. -/
def conversation : Machine (Conversation γ) (ℕ × Answer) Exn where
  possible s x := ∃ r, s.pending[x.1]? = some r ∧
    ¬ UndefinedAnswer t r.reads x.2.body x.2.err_code x.2.status_code
  step s x := s.respond x.1 x.2

/-- The error of an answer. -/
def errorOf (r : OpenRequest γ) (a : Answer) : Option ClientError :=
  if a.err_code ≠ 0 then some { error_code := a.err_code }
  else if a.status_code < 200 ∨ 300 ≤ a.status_code then
    some (failedError t what a.body a.status_code)
  else match r.reads a.body with
    | .ok _ => none
    | .error e => some { parse_error := what e ++ lit ": " ++ a.body }

/-- The request succeeded. -/
def Succeeded (r : OpenRequest γ) (a : Answer) : Prop :=
  a.err_code = 0 ∧ IsSuccess a.status_code ∧ Succeeds (r.reads a.body)

theorem errorOf_eq_none_iff {r : OpenRequest γ} {a : Answer} :
    errorOf t what r a = none ↔ Succeeded r a := by
  rw [errorOf, Succeeded, IsSuccess]
  by_cases herr : a.err_code = 0
  · rw [if_neg (not_not.mpr herr), and_iff_right herr]
    by_cases hstatus : a.status_code < 200 ∨ 300 ≤ a.status_code
    · rw [if_pos hstatus]
      refine iff_of_false (Option.some_ne_none _) ?_
      rintro ⟨⟨hlow, hhigh⟩, -⟩
      omega
    · rw [if_neg hstatus, and_iff_right (by omega)]
      rcases r.reads a.body with e | u
      · exact iff_of_false (Option.some_ne_none _) (not_succeeds_error e)
      · exact iff_of_true rfl (succeeds_ok u)
  · rw [if_pos herr]
    exact iff_of_false (Option.some_ne_none _) fun h ↦ herr h.1

/-- What is to hold after `n` answers: there are no more requests than `limit`, either one of them
is waiting for its answer or the user was called once, and the user got the error of the last
request. -/
structure Settled (errOf : γ → Option ClientError) (limit n : ℕ) (s : Conversation γ) : Prop where
  made_le : s.made ≤ limit
  answered : n + s.pending.length = s.made
  once : s.pending.length + s.calls.length = 1
  error : ∀ c ∈ s.calls, ∃ r a, s.last = some (r, a) ∧ errOf c = errorOf t what r a ∧
    (errOf c = none → Succeeded r a)

/-- Whatever the server answers, the request ends with one call of the user callback. -/
def AnswersOnce (errOf : γ → Option ClientError) (limit : ℕ) (r : OpenRequest γ) : Prop :=
  (∀ as s, (conversation t).Run (.start r) as s → Settled t what errOf limit as.length s) ∧
    (conversation t).Proceeds (fun _ ↦ True) (.start r)

/-! ## One answer -/

variable {t what} {errOf : γ → Option ClientError}

/-- A defined answer leads to one call of the callback, with the error of the answer. -/
theorem answered_get_ {ρ : Type} [Inhabited ρ] {deserialize : Str → Except Exn ρ} {endpoint : Str}
    {callback : Call ρ → Effects γ} {a : Answer}
    (h : ¬ UndefinedAnswer t (get_ t what deserialize endpoint callback).reads a.body a.err_code
      a.status_code) :
    ∃ call, (get_ t what deserialize endpoint callback).answered a =
        .ok ((callback call).calls, (callback call).requests) ∧
      call.err = errorOf t what (get_ t what deserialize endpoint callback) a := by
  have hreads : ∀ body, (get_ t what deserialize endpoint callback).reads body =
      (deserialize body).map fun _ ↦ () := fun _ ↦ rfl
  have hone : ∀ call, completeRequest t what deserialize (fun call ↦ (callback call).ended)
      a.headers a.body a.err_code a.status_code = (.ok (), [call]) →
      (get_ t what deserialize endpoint callback).answered a =
        .ok ((callback call).calls, (callback call).requests) := fun call hcall ↦ by
    rw [get_, OpenRequest.answered, hcall]
    simp
  rw [UndefinedAnswer, hreads, not_and, ← undefined_readError_iff] at h
  rw [errorOf, hreads]
  by_cases herr : a.err_code = 0
  · have hdefined := h herr
    rw [not_or, not_and] at hdefined
    have hresponse : ¬ Undefined (deserialize a.body) := by
      intro hu
      rw [hu] at hdefined
      exact hdefined.1 rfl
    rw [if_neg (not_not.mpr herr)]
    rw [herr] at hone
    by_cases hstatus : a.status_code < 200 ∨ 300 ≤ a.status_code
    · have hfail : ¬ IsSuccess a.status_code := by rw [IsSuccess]; omega
      rw [if_pos hstatus]
      exact ⟨_, hone _ (completeRequest_of_failure t what deserialize _ a.headers a.body hfail
        hresponse (hdefined.2 hfail)), rfl⟩
    · have hsuccess : IsSuccess a.status_code := by rw [IsSuccess]; omega
      rw [if_neg hstatus]
      refine ⟨_, hone _ (completeRequest_of_success t what deserialize _ a.headers a.body hsuccess
        hresponse), ?_⟩
      rcases deserialize a.body with e | r <;> rfl
  · rw [if_pos herr]
    exact ⟨_, hone _ (completeRequest_of_transport t what deserialize _ a.headers a.body herr _),
      rfl⟩

/-- An answer that is not defined leads to nothing else. -/
theorem answered_get_of_undefined {ρ : Type} [Inhabited ρ] {deserialize : Str → Except Exn ρ}
    {endpoint : Str} {callback : Call ρ → Effects γ} {a : Answer} (herr : a.err_code = 0)
    (h : Undefined (deserialize a.body) ∨
      ¬ IsSuccess a.status_code ∧ Undefined (readError t a.body)) :
    (get_ t what deserialize endpoint callback).answered a = .error .undefinedBehaviour := by
  have hcode := completeRequest_of_undefined t what deserialize
    (fun call ↦ (callback call).ended) a.headers a.body h
  rw [get_, OpenRequest.answered, herr]
  rcases hrequest : completeRequest t what deserialize (fun call ↦ (callback call).ended) a.headers
      a.body 0 a.status_code with ⟨e | u, calls⟩
  · rw [hrequest] at hcode
    rw [Except.error.inj hcode]
  · rw [hrequest] at hcode
    cases hcode

variable (t what errOf)

/-- A request that ends with one call of the user callback after `n` answers at most. -/
def Answers : ℕ → OpenRequest γ → Prop
  | 0, _ => False
  | n + 1, r => ∀ a, ¬ UndefinedAnswer t r.reads a.body a.err_code a.status_code →
    (∃ c, r.answered a = .ok ([c], []) ∧ errOf c = errorOf t what r a) ∨
      ∃ r', r.answered a = .ok ([], [r']) ∧ Answers n r'

/-- A callback that calls the user callback with `err` or makes one more request. -/
def Continues (n : ℕ) (err : Option ClientError) (e : Effects γ) : Prop :=
  (∃ c, e.calls = [c] ∧ e.requests = [] ∧ errOf c = err) ∨
    ∃ r, e.calls = [] ∧ e.requests = [r] ∧ Answers t what errOf n r

variable {t what errOf}

theorem answers_succ {n : ℕ} {r : OpenRequest γ} (h : Answers t what errOf n r) :
    Answers t what errOf (n + 1) r := by
  induction n generalizing r with
  | zero => exact h.elim
  | succ n ih =>
    intro a ha
    rcases h a ha with hcall | ⟨r', hr', h'⟩
    · exact Or.inl hcall
    · exact Or.inr ⟨r', hr', ih h'⟩

/-- A request whose callback goes on. -/
theorem answers_get_ {ρ : Type} [Inhabited ρ] {deserialize : Str → Except Exn ρ} {endpoint : Str}
    {callback : Call ρ → Effects γ} {n : ℕ}
    (h : ∀ call, Continues t what errOf n call.err (callback call)) :
    Answers t what errOf (n + 1) (get_ t what deserialize endpoint callback) := by
  intro a ha
  obtain ⟨call, hanswered, herr⟩ := answered_get_ ha
  rcases h call with ⟨c, hcalls, hrequests, hc⟩ | ⟨r, hcalls, hrequests, hr⟩
  · rw [hcalls, hrequests] at hanswered
    exact Or.inl ⟨c, hanswered, hc.trans herr⟩
  · rw [hcalls, hrequests] at hanswered
    exact Or.inr ⟨r, hanswered, hr⟩

theorem continues_call {n : ℕ} {callback : γ → Except StdException Unit} {c : γ}
    {err : Option ClientError} (h : errOf c = err) :
    Continues t what errOf n err (Effects.call callback c) := Or.inl ⟨c, rfl, rfl, h⟩

theorem continues_request {n : ℕ} {r : OpenRequest γ} {err : Option ClientError}
    (h : Answers t what errOf n r) : Continues t what errOf n err (Effects.request r) :=
  Or.inr ⟨r, rfl, rfl, h⟩

/-! ## The four requests -/

theorem answers_previewUrl (timestamp : Option Int64) (url : Str)
    (callback : URLPreview × Option ClientError → Except StdException Unit) :
    Answers t what Prod.snd 2 (previewUrl t what timestamp url callback) := by
  refine answers_get_ fun call ↦ ?_
  split_ifs
  · exact continues_call rfl
  · exact continues_request (answers_get_ fun call ↦ continues_call rfl)

theorem answers_download {header : List (Str × Str) → Str → Option Str} {server media_id : Str}
    {callback : Download → Effects γ}
    (h : ∀ n d, Continues t what errOf n d.err (callback d)) :
    Answers t what errOf 2 (download t what header server media_id callback) := by
  have hcb : ∀ (n : ℕ) (call : Call Str), Continues t what errOf n call.err
      (match downloadCb header call with
        | .ok d => callback d
        | .error e => Effects.throw e) := by
    intro n call
    obtain ⟨d, hd⟩ := succeeds_downloadCb header call
    have herr : d.err = call.err := by
      rw [downloadCb] at hd
      obtain ⟨name, -, hd⟩ := bind_eq_ok_iff.mp hd
      rw [← Except.ok.inj hd]
    rw [hd, ← herr]
    exact h n d
  refine answers_get_ fun call ↦ ?_
  dsimp only
  split_ifs
  · exact hcb 1 call
  · exact continues_request (answers_get_ (hcb 0))

theorem answers_getThumbnail (header : List (Str × Str) → Str → Option Str)
    (opts : Endpoint.ThumbOpts) (callback : Str × Option ClientError → Except StdException Unit)
    (try_download : Bool) :
    Answers t what Prod.snd 4 (getThumbnail t what header opts callback try_download) := by
  have hdownload : Answers t what Prod.snd 2 (download t what header
      (parseMxcUrl opts.mxc_url).server (parseMxcUrl opts.mxc_url).media_id
      fun d ↦ Effects.call callback (d.res, d.err)) :=
    answers_download fun n d ↦ continues_call rfl
  refine answers_get_ fun call ↦ ?_
  split_ifs
  · exact continues_call rfl
  · exact continues_request (answers_succ hdownload)
  · refine continues_request (answers_get_ fun call ↦ ?_)
    split_ifs
    · exact continues_request hdownload
    · exact continues_call rfl

theorem answers_getSummary (room_id : Str)
    (cb : PublicRoomsChunk t × Option ClientError → Except StdException Unit) (via : List Str) :
    Answers t what Prod.snd 3 (getSummary t what room_id cb via) := by
  have hhierarchy : ∀ room_id, Answers t what Prod.snd 1
      (getHierarchy t what room_id 1 fun (res, err) ↦ match res.rooms with
        | [] => Effects.call cb (default, err)
        | room :: _ => Effects.call cb (room, err)) := fun room_id ↦ by
    refine answers_get_ fun call ↦ ?_
    dsimp only
    rcases call.response.rooms with - | ⟨room, rooms⟩
    · exact continues_call rfl
    · exact continues_call rfl
  refine answers_get_ fun call ↦ ?_
  split_ifs
  · exact continues_call rfl
  · refine continues_request (answers_get_ fun call ↦ ?_)
    dsimp only
    split_ifs
    · exact continues_call rfl
    · exact continues_request (hhierarchy _)
  · exact continues_request (answers_succ (hhierarchy room_id))

/-! ## Runs -/

variable (t what errOf)

/-- The state between two answers: one request is waiting that needs `m` more answers at most, or
the user was called. -/
def Waiting (limit : ℕ) (s : Conversation γ) : Prop :=
  (∃ r m, s.pending = [r] ∧ s.calls = [] ∧ Answers t what errOf m r ∧ s.made + m ≤ limit + 1) ∨
    s.pending = [] ∧ s.made ≤ limit ∧
      ∃ c r a, s.calls = [c] ∧ s.last = some (r, a) ∧ errOf c = errorOf t what r a

variable {t what errOf}

/-- One answer. -/
theorem Waiting.respond {limit : ℕ} {s : Conversation γ} (h : Waiting t what errOf limit s)
    {x : ℕ × Answer} (hpossible : (conversation t).possible s x) :
    ∃ s', s.respond x.1 x.2 = .ok s' ∧ Waiting t what errOf limit s' ∧
      s'.pending.length + s.made + 1 = s'.made + s.pending.length := by
  obtain ⟨r, hr, hdefined⟩ := hpossible
  rcases h with ⟨r', m, hpending, hcalls, hanswers, hmade⟩ | ⟨hpending, -⟩
  · rw [hpending, List.getElem?_singleton] at hr
    split_ifs at hr with hi
    obtain rfl := Option.some.inj hr
    rcases m with - | m
    · exact hanswers.elim
    · rw [Conversation.respond, hpending, hi, List.getElem?_cons_zero]
      dsimp only
      rcases hanswers x.2 hdefined with ⟨c, hc, herr⟩ | ⟨r'', hr'', h''⟩
      · rw [hc]
        refine ⟨_, rfl, Or.inr ⟨rfl, ?_, c, _, _, ?_, rfl, herr⟩, ?_⟩
        · show s.made + 0 ≤ limit
          omega
        · rw [hcalls]
          rfl
        · show 0 + s.made + 1 = s.made + 0 + 1
          omega
      · rw [hr'']
        refine ⟨_, rfl, Or.inl ⟨r'', m, rfl, ?_, h'', ?_⟩, ?_⟩
        · rw [hcalls]
          rfl
        · show s.made + 1 + m ≤ limit + 1
          omega
        · show 1 + s.made + 1 = s.made + 1 + 1
          omega
  · rw [hpending] at hr
    cases hr

/-- A run from the first request on. -/
theorem waiting_of_run {limit : ℕ} {r : OpenRequest γ} (h : Answers t what errOf limit r)
    {as : List (ℕ × Answer)} {s : Conversation γ} (hrun : (conversation t).Run (.start r) as s) :
    Waiting t what errOf limit s ∧ as.length + s.pending.length = s.made := by
  refine hrun.invariant (P := fun as s ↦ Waiting t what errOf limit s ∧
    as.length + s.pending.length = s.made) ⟨Or.inl ⟨r, limit, rfl, rfl, h, ?_⟩, rfl⟩ ?_
  · show 1 + limit ≤ limit + 1
    omega
  · intro as s₁ x s₂ _ hinv hpossible hstep
    obtain ⟨hwaiting, hcount⟩ := hinv
    obtain ⟨s', hs', hwaiting', hcount'⟩ := hwaiting.respond hpossible
    obtain rfl := Except.ok.inj (hs'.symm.trans hstep)
    refine ⟨hwaiting', ?_⟩
    rw [List.length_append, List.length_singleton]
    omega

theorem answersOnce_of_answers {limit : ℕ} {r : OpenRequest γ} (h : Answers t what errOf limit r) :
    AnswersOnce t what errOf limit r := by
  refine ⟨?_, ?_⟩
  · intro as s hrun
    obtain ⟨hwaiting, hcount⟩ := waiting_of_run h hrun
    rcases hwaiting with ⟨r', m, hpending, hcalls, hanswers, hmade⟩ |
      ⟨hpending, hmade, c, r', a, hcalls, hlast, herr⟩
    · have hm : 0 < m := by
        rcases m with - | m
        · exact hanswers.elim
        · exact Nat.succ_pos m
      refine ⟨by omega, hcount, by rw [hpending, hcalls]; rfl, ?_⟩
      rw [hcalls]
      exact fun c hc ↦ absurd hc List.not_mem_nil
    · refine ⟨hmade, hcount, by rw [hpending, hcalls]; rfl, ?_⟩
      rw [hcalls]
      intro c' hc'
      obtain rfl := List.mem_singleton.mp hc'
      refine ⟨r', a, hlast, herr, ?_⟩
      rw [herr]
      exact (errorOf_eq_none_iff t what).mp
  · intro as s hrun x hpossible _
    obtain ⟨s', hs', -⟩ := (waiting_of_run h hrun).1.respond hpossible
    exact ⟨s', hs'⟩

variable (t what)

/-- **The four requests end with one call of the user callback**, after two, four, two and three
requests at most, and with the error of the last one. -/
theorem fallbacks_answer_once (header : List (Str × Str) → Str → Option Str) :
    (∀ timestamp url callback,
      AnswersOnce t what Prod.snd 2 (previewUrl t what timestamp url callback)) ∧
    (∀ opts callback try_download,
      AnswersOnce t what Prod.snd 4 (getThumbnail t what header opts callback try_download)) ∧
    (∀ server media_id callback, AnswersOnce t what Download.err 2
      (download t what header server media_id (Effects.call callback))) ∧
    ∀ room_id cb via, AnswersOnce t what Prod.snd 3 (getSummary t what room_id cb via) :=
  ⟨fun timestamp url callback ↦ answersOnce_of_answers (answers_previewUrl timestamp url callback),
    fun opts callback try_download ↦
      answersOnce_of_answers (answers_getThumbnail header opts callback try_download),
    fun _ _ _ ↦ answersOnce_of_answers (answers_download fun _ _ ↦ continues_call rfl),
    fun room_id cb via ↦ answersOnce_of_answers (answers_getSummary room_id cb via)⟩

end

/-- An answer with a flow that has no stages. -/
def emptyFlowAnswer : Answer where
  body := emptyFlow.dumpText
  status_code := 401

/-- After such an answer the behaviour is undefined, and the user is not called. -/
theorem not_answered_emptyFlow :
    (Conversation.start (download (knownTexts [emptyFlow]) (fun _ ↦ []) byName "example.org" "abc"
      (Effects.call fun _ ↦ .ok ()))).respond 0 emptyFlowAnswer = .error .undefinedBehaviour := by
  have hundefined : Undefined (readError (knownTexts [emptyFlow]) emptyFlowAnswer.body) := rfl
  have hstatus : ¬ IsSuccess emptyFlowAnswer.status_code := by
    rw [IsSuccess]
    decide
  rw [Conversation.respond, Conversation.start, List.getElem?_cons_zero]
  dsimp only
  rw [download, answered_get_of_undefined rfl (Or.inr ⟨hstatus, hundefined⟩)]
  rfl

end Mtx.Http
