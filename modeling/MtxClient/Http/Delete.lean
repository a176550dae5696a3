import MtxClient.Http.Callback

/-!
# DELETE requests

`Client::delete_` does not use `prepare_callback` and classifies the answer itself.  It starts from
an error that is not initialised, never says that the body of an error could not be parsed, and
calls the user outside of its handler.  `alike_iff` says when nobody can tell the difference: when
the request succeeds and the user callback does not throw.
-/

set_option autoImplicit false

namespace Mtx.Http

open Str

/-- The members of a `ClientError` without initialiser. -/
structure Uninitialised where
  error_code : ℤ
  status_code : ℤ
  retry_after : UInt64

/-- `mtx::http::ClientError client_error;`. -/
def Uninitialised.clientError (uninit : Uninitialised) : ClientError where
  matrix_error := { retry_after := uninit.retry_after }
  error_code := uninit.error_code
  status_code := uninit.status_code

variable (t : JsonText) (what : Exn → Str) (uninit : Uninitialised)
  (callback : Option ClientError → Except StdException Unit) (body : Str)

/-- The lambda of `delete_`. -/
def delete_ (err_code status_code : ℤ) : Run Unit (Option ClientError) Unit := do
  if err_code ≠ 0 then
    Run.setError fun e ↦ { e with error_code := err_code }
    Run.call callback (some (← get).client_error)
  else
    Run.setError fun e ↦ { e with status_code }
    if status_code < 200 ∨ 300 ≤ status_code then
      Run.catching Exn.isJson
        (do
          let matrix_error ← Run.lift (readError t body)
          Run.setError fun e ↦ { e with matrix_error })
        fun e ↦ Run.setError fun err ↦ { err with parse_error := what e ++ lit ": " ++ body }
      Run.call callback (some (← get).client_error)
    else
      Run.call callback none

/-- What comes of the answer to a DELETE. -/
def completeDelete (err_code status_code : ℤ) : Except Exn Unit × List (Option ClientError) :=
  (delete_ t what callback body err_code status_code).complete () uninit.clientError

/-- What would come of it with `prepare_callback<Empty>`, as with the other requests. -/
def completeEmpty (headers : Headers) (err_code status_code : ℤ) :
    Except Exn Unit × List (Option ClientError) :=
  let (r, calls) := completeRequest t what (deserializeEmpty t) (fun c ↦ callback c.err) headers
    body err_code status_code
  (r, calls.map Call.err)

/-- The two report the same and let nothing escape. -/
def Alike (headers : Headers) (err_code status_code : ℤ) : Prop :=
  ∃ err err', completeDelete t what uninit callback body err_code status_code = (.ok (), [err]) ∧
    completeEmpty t what callback body headers err_code status_code = (.ok (), [err']) ∧
    (Succeeds (deserializeEmpty t body) → (err = none ↔ err' = none)) ∧
    ∀ e ∈ err, ∀ e' ∈ err', e.error_code = e'.error_code ∧ e.status_code = e'.status_code ∧
      e.matrix_error = e'.matrix_error

theorem not_undefined_deserializeEmpty : ¬ Undefined (deserializeEmpty t body) := by
  rw [deserializeEmpty, deserializeJson, parseBody]
  rcases t.parse body with e | j
  · rintro ⟨⟩
  · exact not_undefined_ok ()

variable {callback}

/-- A request that succeeded. -/
theorem completeDelete_of_success {status_code : ℤ} (h : IsSuccess status_code) :
    completeDelete t what uninit callback body 0 status_code =
      ((callback none).mapError Subtype.val, [none]) := by
  have hstatus : ¬(status_code < 200 ∨ 300 ≤ status_code) := by rw [IsSuccess] at h; omega
  simp [completeDelete, Run.complete, delete_, hstatus, Run.call]

/-- The code of the transport is all that is known of a request that failed there. -/
theorem completeDelete_of_transport {err_code : ℤ} (h : err_code ≠ 0) (status_code : ℤ) :
    (completeDelete t what uninit callback body err_code status_code).2 =
      [some { uninit.clientError with error_code := err_code }] := by
  simp [completeDelete, Run.complete, delete_, h, Run.call]

/-- The error code of a request that failed otherwise is not initialised. -/
theorem error_code_of_completeDelete {status_code : ℤ} (h : ¬ IsSuccess status_code)
    {err : Option ClientError}
    (herr : err ∈ (completeDelete t what uninit callback body 0 status_code).2) :
    ∃ e, err = some e ∧ e.error_code = uninit.error_code := by
  have hstatus : status_code < 200 ∨ 300 ≤ status_code := by rw [IsSuccess] at h; omega
  rw [completeDelete, Run.complete, delete_] at herr
  rcases hr : readError t body with e | m
  · by_cases he : e.isJson = true
    · simp [hstatus, hr, he, Run.catching, Run.call] at herr
      exact ⟨_, herr, rfl⟩
    · simp [hstatus, hr, he, Run.catching] at herr
  · simp [hstatus, hr, Run.catching, Run.call] at herr
    exact ⟨_, herr, rfl⟩

/-! ## The other requests -/

theorem completeEmpty_of_transport (headers : Headers) {err_code : ℤ} (h : err_code ≠ 0)
    (status_code : ℤ) : completeEmpty t what callback body headers err_code status_code =
      (.ok (), [some { error_code := err_code }]) := by
  rw [completeEmpty, completeRequest_of_transport _ _ _ _ _ _ h]
  rfl

theorem completeEmpty_of_success (headers : Headers) {status_code : ℤ} (h : IsSuccess status_code) :
    completeEmpty t what callback body headers 0 status_code =
      (.ok (), [match deserializeEmpty t body with
        | .ok _ => none
        | .error e => some { parse_error := what e ++ lit ": " ++ body }]) := by
  rw [completeEmpty,
    completeRequest_of_success _ _ _ _ _ _ h (not_undefined_deserializeEmpty t body)]
  rcases deserializeEmpty t body with e | - <;> rfl

/-- A failure is reported with one of two error codes. -/
theorem error_code_of_completeEmpty (headers : Headers) {status_code : ℤ}
    (h : ¬ IsSuccess status_code) {err : Option ClientError}
    (hrun : completeEmpty t what callback body headers 0 status_code = (.ok (), [err])) :
    ∃ e, err = some e ∧ (e.error_code = 0 ∨ e.error_code = 42) := by
  by_cases hundefined : Undefined (readError t body)
  · have := completeRequest_of_undefined t what (deserializeEmpty t) (fun c ↦ callback c.err)
      headers body (Or.inr ⟨h, hundefined⟩)
    rw [show (completeRequest t what (deserializeEmpty t) (fun c ↦ callback c.err) headers body 0
      status_code).1 = Except.ok () from congrArg Prod.fst hrun] at this
    cases this
  · rw [completeEmpty, completeRequest_of_failure _ _ _ _ _ _ h
      (not_undefined_deserializeEmpty t body) hundefined] at hrun
    obtain ⟨-, hcalls⟩ := Prod.mk.inj hrun
    obtain ⟨rfl, -⟩ := List.cons.inj hcalls
    refine ⟨_, rfl, ?_⟩
    rw [failedError]
    rcases readError t body with e | m
    · exact Or.inr rfl
    · exact Or.inl rfl

/-! ## When they agree -/

variable (callback)

/-- **DELETE requests report like the others exactly when** they succeed and the user callback does
not throw: the rest of the time what is not initialised, or an exception, can get to the outside. -/
theorem alike_iff (headers : Headers) (err_code status_code : ℤ) :
    (∀ uninit, Alike t what uninit callback body headers err_code status_code) ↔
      err_code = 0 ∧ IsSuccess status_code ∧ callback none = .ok () := by
  constructor
  · intro h
    by_cases herr : err_code = 0
    · subst herr
      by_cases hstatus : IsSuccess status_code
      · refine ⟨rfl, hstatus, ?_⟩
        obtain ⟨err, err', hdelete, -⟩ := h ⟨0, 0, 0⟩
        rw [completeDelete_of_success t what _ body hstatus] at hdelete
        rcases hcallback : callback none with e | u
        · rw [hcallback] at hdelete
          cases hdelete
        · rfl
      · obtain ⟨err, err', hdelete, hempty, -, hagree⟩ := h ⟨7, 0, 0⟩
        have hmem : err ∈ (completeDelete t what ⟨7, 0, 0⟩ callback body 0 status_code).2 := by
          rw [hdelete]
          exact List.mem_singleton.mpr rfl
        obtain ⟨e, rfl, he⟩ := error_code_of_completeDelete t what ⟨7, 0, 0⟩ body hstatus hmem
        obtain ⟨e', rfl, he'⟩ := error_code_of_completeEmpty t what body headers hstatus hempty
        have hcode : (7 : ℤ) = e'.error_code := he.symm.trans (hagree e rfl e' rfl).1
        omega
    · obtain ⟨err, err', hdelete, hempty, -, hagree⟩ := h ⟨0, 1, 0⟩
      rw [completeEmpty_of_transport t what body headers herr] at hempty
      obtain ⟨rfl, -⟩ := List.cons.inj (Prod.mk.inj hempty).2
      have hcalls := (congrArg Prod.snd hdelete).symm.trans
        (completeDelete_of_transport t what ⟨0, 1, 0⟩ body herr status_code)
      obtain ⟨rfl, -⟩ := List.cons.inj hcalls
      have hstatus : (1 : ℤ) = 0 := (hagree _ rfl _ rfl).2.1
      omega
  · rintro ⟨rfl, hstatus, hcallback⟩ uninit
    refine ⟨none, _, ?_, completeEmpty_of_success t what body headers hstatus, fun hbody ↦ ?_,
      nofun⟩
    · rw [completeDelete_of_success t what uninit body hstatus, hcallback]
      rfl
    · obtain ⟨u, hu⟩ := hbody
      rw [hu]

/-- An exception of the user gets out of a DELETE, and the error of one whose answer is no JSON has
another code even where nothing is left uninitialised. -/
theorem delete_differs :
    (completeDelete (knownTexts []) (fun _ ↦ "") ⟨0, 0, 0⟩
        (fun _ ↦ .error ⟨.runtimeError "what", rfl⟩) "" 0 200).1 = .error (.runtimeError "what") ∧
      ¬ Alike (knownTexts []) (fun _ ↦ "") ⟨0, 0, 0⟩ (fun _ ↦ .ok ()) "" none 0 502 := by
  refine ⟨rfl, ?_⟩
  rintro ⟨err, err', hdelete, hempty, -, hagree⟩
  obtain ⟨rfl, -⟩ := List.cons.inj (Prod.mk.inj hdelete).2
  obtain ⟨rfl, -⟩ := List.cons.inj (Prod.mk.inj hempty).2
  exact absurd (hagree _ rfl _ rfl).1 (by decide)

end Mtx.Http
