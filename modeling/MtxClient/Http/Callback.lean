import Mathlib.Tactic.SplitIfs
import MtxClient.Http.Errors

/-!
# Completing a request

When a request is done, the HTTP library calls back with the body, the error code of the transport
and the status code.  `prepare_callback` makes the callback of a request out of the user's one: it
classifies the answer, and it lets no exception of the user escape into the HTTP library.

The two are run in `Run`, with the variables of the lambda as its state; what an assignment did
before an exception stays done.  `reported_iff` is the payoff: the user callback is called exactly
once and with the right error, unless reading the answer is undefined.
-/

set_option autoImplicit false

namespace Mtx.Http

open Str

/-- Is the exception a `std::exception`? -/
def isStd (e : Exn) : Bool := e ≠ .undefinedBehaviour

/-- What a callback of the user may throw. -/
abbrev StdException := { e : Exn // isStd e = true }

/-- What the client reports when a request fails. -/
structure ClientError where
  /-- Matrix client api related error. -/
  matrix_error : Error := {}
  /-- Error code if a network related error occured. -/
  error_code : ℤ := 0
  /-- Status code of the associated http response. -/
  status_code : ℤ := 0
  /-- Parsing response error. -/
  parse_error : Str := ""

/-- The headers of an answer. -/
abbrev Headers := Option (List (Str × Str))

/-! ## Runs -/

/-- The variables of a running callback: the response, of type `ρ`, the error, and the arguments of
the user callback, of type `γ`, for every time it was called. -/
structure Completion (ρ γ : Type) where
  response_data : ρ
  client_error : ClientError
  calls : List γ := []

/-- A piece of a callback. -/
abbrev Run (ρ γ α : Type) := ExceptT Exn (StateM (Completion ρ γ)) α

namespace Run

variable {ρ γ α : Type}

/-- A computation that touches no variable. -/
def lift (x : Except Exn α) : Run ρ γ α := fun s ↦ (x, s)

/-- `try { x } catch (E &e) { handler }`, for the exceptions that `p` allows. -/
def catching (p : Exn → Bool) (x : Run ρ γ α) (handler : Exn → Run ρ γ α) : Run ρ γ α := fun s ↦
  match x s with
  | (.ok a, s) => (.ok a, s)
  | (.error e, s) => if p e then handler e s else (.error e, s)

/-- `response_data = r;`. -/
def setResponse (r : ρ) : Run ρ γ Unit := fun s ↦ (.ok (), { s with response_data := r })

/-- An assignment to a member of `client_error`. -/
def setError (f : ClientError → ClientError) : Run ρ γ Unit := fun s ↦
  (.ok (), { s with client_error := f s.client_error })

/-- Calling the user callback. -/
def call (callback : γ → Except StdException Unit) (argument : γ) : Run ρ γ Unit := fun s ↦
  ((callback argument).mapError Subtype.val, { s with calls := s.calls ++ [argument] })

/-- Running a callback from its first line. -/
def complete (x : Run ρ γ Unit) (response_data : ρ) (client_error : ClientError) :
    Except Exn Unit × List γ :=
  let (r, s) := x { response_data, client_error }
  (r, s.calls)

@[simp] theorem bind_apply {β : Type} (x : Run ρ γ α) (f : α → Run ρ γ β) (s : Completion ρ γ) :
    (x >>= f) s = match x s with
      | (.ok a, s) => f a s
      | (.error e, s) => (.error e, s) := by
  show (match x s with | (r, s') => ExceptT.bindCont f r s') = _
  rcases x s with ⟨e | a, s'⟩ <;> rfl

@[simp] theorem pure_apply (a : α) (s : Completion ρ γ) : (pure a : Run ρ γ α) s = (.ok a, s) := rfl

@[simp] theorem lift_apply (x : Except Exn α) (s : Completion ρ γ) :
    (lift x : Run ρ γ α) s = (x, s) := rfl

@[simp] theorem setResponse_apply (r : ρ) (s : Completion ρ γ) :
    (setResponse r : Run ρ γ Unit) s = (.ok (), { s with response_data := r }) := rfl

@[simp] theorem setError_apply (f : ClientError → ClientError) (s : Completion ρ γ) :
    (setError f : Run ρ γ Unit) s = (.ok (), { s with client_error := f s.client_error }) := rfl

@[simp] theorem get_apply (s : Completion ρ γ) : (get : Run ρ γ _) s = (.ok s, s) := rfl

end Run

/-! ## Reading the answer -/

variable (t : JsonText) (what : Exn → Str)

/-- `nlohmann::json::parse(body)`, which throws nothing but parse errors. -/
def parseBody (body : Str) : Except Exn Json :=
  match t.parse body with
  | .ok j => .ok j
  | .error _ => .error .jsonParseError

/-- `nlohmann::json::parse(body).get<mtx::errors::Error>()`. -/
def readError (body : Str) : Except Exn Error := do Error.fromJson t (← parseBody t body)

/-- `deserialize`, for the types that are read from JSON. -/
def deserializeJson {ρ : Type} (fromJson : Json → Except Exn ρ) (body : Str) : Except Exn ρ := do
  fromJson (← parseBody t body)

/-- `deserialize<mtx::responses::Empty>`: any JSON will do. -/
def deserializeEmpty : Str → Except Exn Unit := deserializeJson t fun _ ↦ .ok ()

/-! ## The callback of a request -/

/-- What the user callback of a request is called with. -/
structure Call (ρ : Type) where
  response : ρ
  headers : Headers
  err : Option ClientError

variable {ρ : Type} [Inhabited ρ] (deserialize : Str → Except Exn ρ)
  (callback : Call ρ → Except StdException Unit)

/-- `invoke_callback`, which swallows all errors. -/
def invokeCallback (headers : Headers) (err : Option ClientError) : Run ρ (Call ρ) Unit := do
  let response := (← get).response_data
  Run.catching isStd (Run.call callback { response, headers, err }) fun _ ↦ pure ()

/-- The lambda of `prepare_callback`.  `deserialize` reads the response, and `what` is the text of
an exception. -/
def prepareCallback (headers : Headers) (body : Str) (err_code status_code : ℤ) :
    Run ρ (Call ρ) Unit := do
  if err_code ≠ 0 then
    Run.setError fun e ↦ { e with error_code := err_code }
    invokeCallback callback headers (some (← get).client_error)
  else if status_code < 200 ∨ 300 ≤ status_code then
    Run.setError fun e ↦ { e with status_code }
    -- in case the endpoint doesn't return an error struct for non 200 requests
    Run.catching isStd (do Run.setResponse (← Run.lift (deserialize body))) fun _ ↦ pure ()
    Run.catching isStd
      (do
        let matrix_error ← Run.lift (readError t body)
        Run.setError fun e ↦ { e with matrix_error })
      fun e ↦ Run.setError fun err ↦
        { err with
          parse_error := what e ++ lit " [while parsing error]: " ++ body
          error_code := 42 }
    invokeCallback callback headers (some (← get).client_error)
  else
    let returned ← Run.catching isStd
      (do
        Run.setResponse (← Run.lift (deserialize body))
        invokeCallback callback headers none
        pure true)
      fun e ↦ do
        Run.setError fun err ↦ { err with parse_error := what e ++ lit ": " ++ body }
        pure false
    if returned then pure ()
    else invokeCallback callback headers (some (← get).client_error)

/-- What comes of an answer: how the callback ends, and the calls of the user callback. -/
def completeRequest (headers : Headers) (body : Str) (err_code status_code : ℤ) :
    Except Exn Unit × List (Call ρ) :=
  (prepareCallback t what deserialize callback headers body err_code status_code).complete
    default {}

/-! ## One lemma for each kind of answer -/

/-- Only a status of 2xx counts as success. -/
def IsSuccess (status_code : ℤ) : Prop := 200 ≤ status_code ∧ status_code < 300

instance : DecidablePred IsSuccess := fun _ ↦ inferInstanceAs (Decidable (_ ∧ _))

variable (headers : Headers) (body : Str)

omit [Inhabited ρ] in
/-- The user callback is called and its exceptions go no further. -/
theorem invokeCallback_apply (err : Option ClientError) (s : Completion ρ (Call ρ)) :
    invokeCallback callback headers err s = (.ok (), { s with
      calls := s.calls ++ [{ response := s.response_data, headers, err }] }) := by
  simp only [invokeCallback, Run.bind_apply, Run.get_apply, Run.catching, Run.call]
  rcases callback { response := s.response_data, headers, err } with e | -
  · simp [Except.mapError, e.2]
  · rfl

theorem completeRequest_of_transport {err_code : ℤ} (h : err_code ≠ 0) (status_code : ℤ) :
    completeRequest t what deserialize callback headers body err_code status_code =
      (.ok (), [{ response := default, headers, err := some { error_code := err_code } }]) := by
  simp [completeRequest, Run.complete, prepareCallback, h, Run.setError, invokeCallback_apply]

/-- The response of a failed request, if its body is one all the same. -/
def failedResponse : ρ :=
  match deserialize body with
  | .ok r => r
  | .error _ => default

/-- The error of a failed request. -/
def failedError (status_code : ℤ) : ClientError :=
  match readError t body with
  | .ok matrix_error => { matrix_error, status_code }
  | .error e =>
    { status_code
      error_code := 42
      parse_error := what e ++ lit " [while parsing error]: " ++ body }

@[simp] theorem status_code_failedError (status_code : ℤ) :
    (failedError t what body status_code).status_code = status_code := by
  rw [failedError]
  rcases readError t body with e | m <;> rfl

theorem isStd_of_not_undefined {α : Type} {e : Exn}
    (h : ¬ Undefined (.error e : Except Exn α)) : isStd e = true :=
  decide_eq_true fun he ↦ h (congrArg _ he)

theorem completeRequest_of_failure {status_code : ℤ} (h : ¬ IsSuccess status_code)
    (hresponse : ¬ Undefined (deserialize body)) (herror : ¬ Undefined (readError t body)) :
    completeRequest t what deserialize callback headers body 0 status_code =
      (.ok (), [{ response := failedResponse deserialize body, headers,
                  err := some (failedError t what body status_code) }]) := by
  have hstatus : status_code < 200 ∨ 300 ≤ status_code := by rw [IsSuccess] at h; omega
  simp only [completeRequest, Run.complete, prepareCallback, hstatus, failedResponse, failedError,
    Run.bind_apply, Run.catching, ne_eq, not_true, if_false, if_true, Run.setError_apply]
  rcases hr : deserialize body with e | r <;> rcases he : readError t body with e' | m
  · simp [isStd_of_not_undefined (hr ▸ hresponse), isStd_of_not_undefined (he ▸ herror),
      invokeCallback_apply]
  · simp [isStd_of_not_undefined (hr ▸ hresponse), invokeCallback_apply]
  · simp [isStd_of_not_undefined (he ▸ herror), invokeCallback_apply]
  · simp [invokeCallback_apply]

theorem completeRequest_of_success {status_code : ℤ} (h : IsSuccess status_code)
    (hresponse : ¬ Undefined (deserialize body)) :
    completeRequest t what deserialize callback headers body 0 status_code =
      (.ok (), [match deserialize body with
        | .ok response => { response, headers, err := none }
        | .error e =>
          { response := default, headers
            err := some { parse_error := what e ++ lit ": " ++ body } }]) := by
  have hstatus : ¬(status_code < 200 ∨ 300 ≤ status_code) := by rw [IsSuccess] at h; omega
  simp only [completeRequest, Run.complete, prepareCallback, hstatus, Run.bind_apply,
    Run.catching, ne_eq, not_true, if_false]
  rcases hr : deserialize body with e | r
  · simp [isStd_of_not_undefined (hr ▸ hresponse), invokeCallback_apply]
  · simp [invokeCallback_apply]

/-- Undefined behaviour is all that comes of an answer that is read as undefined. -/
theorem completeRequest_of_undefined {status_code : ℤ}
    (h : Undefined (deserialize body) ∨ ¬ IsSuccess status_code ∧ Undefined (readError t body)) :
    (completeRequest t what deserialize callback headers body 0 status_code).1 =
      .error .undefinedBehaviour := by
  simp only [completeRequest, Run.complete, prepareCallback, ne_eq, not_true, if_false]
  by_cases hstatus : status_code < 200 ∨ 300 ≤ status_code
  · rcases hr : deserialize body with e | r
    · by_cases he : e = .undefinedBehaviour
      · simp [hstatus, he, Run.catching, isStd]
      · have herror : readError t body = .error .undefinedBehaviour :=
          (h.resolve_left fun hu ↦ he (Except.error.inj (hr.symm.trans hu))).2
        simp [hstatus, he, herror, Run.catching, isStd]
    · have herror : readError t body = .error .undefinedBehaviour :=
        (h.resolve_left fun hu ↦ by rw [hr] at hu; cases hu).2
      simp [hstatus, herror, Run.catching, isStd]
  · have hresponse : deserialize body = .error .undefinedBehaviour :=
      h.resolve_right fun h ↦ h.1 (by rw [IsSuccess]; omega)
    simp [hstatus, hresponse, Run.catching, isStd]

/-! ## The classification -/

/-- The user callback is called exactly once, with an error that says how the request failed if it
did, and nothing escapes. -/
def Reported (err_code status_code : ℤ) : Prop :=
  ∃ call, completeRequest t what deserialize callback headers body err_code status_code =
      (.ok (), [call]) ∧
    (call.err = none ↔ err_code = 0 ∧ IsSuccess status_code ∧ Succeeds (deserialize body)) ∧
    (err_code ≠ 0 → ∃ err, call.err = some err ∧ err.error_code = err_code) ∧
    (err_code = 0 → ¬ IsSuccess status_code → ∃ err, call.err = some err ∧
      err.status_code = status_code ∧
      ∀ matrix_error, readError t body = .ok matrix_error → err.matrix_error = matrix_error)

/-- The body of an answer makes the behaviour of its reader undefined: that of the response, or,
with a failure, that of the error. -/
def UndefinedAnswer (err_code status_code : ℤ) : Prop :=
  err_code = 0 ∧ (Undefined (deserialize body) ∨
    ¬ IsSuccess status_code ∧ ∃ j, t.parse body = .ok j ∧ UndefinedError t j)

theorem undefined_readError_iff :
    Undefined (readError t body) ↔ ∃ j, t.parse body = .ok j ∧ UndefinedError t j := by
  rw [readError, parseBody]
  rcases t.parse body with e | j
  · exact iff_of_false nofun nofun
  · simp [error_undefined_iff]

/-- **A completion is reported exactly once and classified correctly** unless the reader of the
response or of the error comes to undefined behaviour. -/
theorem reported_iff (err_code status_code : ℤ) :
    Reported t what deserialize callback headers body err_code status_code ↔
      ¬ UndefinedAnswer t deserialize body err_code status_code := by
  rw [UndefinedAnswer, ← undefined_readError_iff]
  by_cases herr : err_code = 0
  · subst herr
    by_cases hundefined : Undefined (deserialize body) ∨
        ¬ IsSuccess status_code ∧ Undefined (readError t body)
    · refine iff_of_false ?_ fun h ↦ h ⟨rfl, hundefined⟩
      rintro ⟨call, hcall, -⟩
      have := completeRequest_of_undefined t what deserialize callback headers body hundefined
      rw [hcall] at this
      cases this
    · refine iff_of_true ?_ fun h ↦ hundefined h.2
      obtain ⟨hresponse, herror⟩ := not_or.mp hundefined
      by_cases hstatus : IsSuccess status_code
      · refine ⟨_, completeRequest_of_success t what deserialize callback headers body hstatus
          hresponse, ?_, fun h ↦ absurd rfl h, fun _ h ↦ absurd hstatus h⟩
        rcases deserialize body with e | r
        · simp
        · simp [hstatus]
      · refine ⟨_, completeRequest_of_failure t what deserialize callback headers body hstatus
          hresponse fun h ↦ herror ⟨hstatus, h⟩, ?_, fun h ↦ absurd rfl h, fun _ _ ↦
          ⟨_, rfl, status_code_failedError t what body status_code, fun m hm ↦ ?_⟩⟩
        · simp [hstatus]
        · rw [failedError, hm]
  · refine iff_of_true ?_ fun h ↦ herr h.1
    exact ⟨_, completeRequest_of_transport t what deserialize callback headers body herr
      status_code, by simp [herr], fun _ ↦ ⟨_, rfl, rfl⟩, fun h ↦ absurd h herr⟩

/-- A flow without stages. -/
def emptyFlow : Json := .object [(lit "flows", .array [.object []])]

/-- An answer with a flow that has no stages is never reported. -/
theorem not_reported_emptyFlow :
    ¬ Reported (knownTexts [emptyFlow]) (fun _ ↦ "") (deserializeEmpty (knownTexts [emptyFlow]))
      (fun _ ↦ .ok ()) none emptyFlow.dumpText 0 401 := by
  rintro ⟨call, hcall, -⟩
  have hundefined : _ = Except.ok () := congrArg Prod.fst hcall
  exact absurd hundefined (by decide)

end Mtx.Http
