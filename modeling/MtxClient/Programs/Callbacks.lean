import MtxClient.Http.Callback
import MtxClient.Lib.Stateful

/-!
# Callbacks of a program

What an answer does to a program: the client classifies it and calls the callback of the request,
which works on the state of the program.  The client catches what a callback throws, and what the
callback did before that stays done.
-/

set_option autoImplicit false

namespace Mtx.Programs

open Str Http

/-- An answer of a homeserver. -/
structure HttpAnswer where
  headers : Headers := none
  body : Str := ""
  err_code : ℤ := 0
  status_code : ℤ := 200

variable {json : JsonText} {ρ σ : Type}

/-- What the client catches of what a callback does. -/
def caught (x : Except Exn Unit) : Except StdException Unit :=
  match x with
  | .ok () => .ok ()
  | .error e => if h : isStd e = true then .error ⟨e, h⟩ else .ok ()

/-- The state that a callback leaves. -/
def afterCall (callback : Call ρ → Stateful Exn σ Unit) (s : σ) (call : Call ρ) : Except Exn σ :=
  match callback call s with
  | (.error .undefinedBehaviour, _) => .error .undefinedBehaviour
  | (_, s') => .ok s'

/-- What an answer does to the state of a program. -/
def complete [Inhabited ρ] (json : JsonText) (what : Exn → Str) (deserialize : Str → Except Exn ρ)
    (callback : Call ρ → Stateful Exn σ Unit) (answer : HttpAnswer) (s : σ) : Except Exn σ :=
  match completeRequest json what deserialize (fun call ↦ caught (callback call s).1)
    answer.headers answer.body answer.err_code answer.status_code with
  | (.error e, _) => .error e
  | (.ok (), calls) => calls.foldlM (afterCall callback) s

/-! ## The callback is called once -/

theorem afterCall_eq_ok {callback : Call ρ → Stateful Exn σ Unit} {s s' : σ} {call : Call ρ}
    (h : afterCall callback s call = .ok s') : s' = (callback call s).2 := by
  rw [afterCall] at h
  split at h
  · cases h
  · rename_i hcall
    rw [← Except.ok.inj h, hcall]

theorem afterCall_of_ok {callback : Call ρ → Stateful Exn σ Unit} {s s' : σ} {call : Call ρ}
    (h : callback call s = (.ok (), s')) : afterCall callback s call = .ok s' := by
  rw [afterCall, h]

variable [Inhabited ρ] {what : Exn → Str} {deserialize : Str → Except Exn ρ}
  {callback : Call ρ → Stateful Exn σ Unit} {answer : HttpAnswer} {s s' : σ}

/-- The response of a request that succeeds, if it can be read. -/
def received (deserialize : Str → Except Exn ρ) (answer : HttpAnswer) : Option ρ :=
  if answer.err_code = 0 ∧ IsSuccess answer.status_code then
    (deserialize answer.body).toOption
  else none

omit [Inhabited ρ] in
theorem received_eq_some_iff {deserialize : Str → Except Exn ρ} {answer : HttpAnswer} {res : ρ} :
    received deserialize answer = some res ↔ answer.err_code = 0 ∧
      IsSuccess answer.status_code ∧ deserialize answer.body = .ok res := by
  rw [received]
  split_ifs with h
  · rw [and_iff_right h.1, and_iff_right h.2]
    rcases deserialize answer.body with e | r <;> simp [Except.toOption]
  · exact iff_of_false nofun fun h' ↦ h ⟨h'.1, h'.2.1⟩

/-- The response was received, or there is an error that is no success. -/
def Classified (deserialize : Str → Except Exn ρ) (answer : HttpAnswer) (call : Call ρ) : Prop :=
  (call.err = none ∧ received deserialize answer = some call.response) ∨
  ∃ err, call.err = some err ∧ err.status_code ≠ 200 ∧ received deserialize answer = none

theorem zero_ne_status : (0 : ℤ) ≠ 200 := by decide

theorem call_of_completeRequest {callback : Call ρ → Except StdException Unit}
    {calls : List (Call ρ)} (h : completeRequest json what deserialize callback answer.headers
      answer.body answer.err_code answer.status_code = (.ok (), calls)) :
    ∃ call, calls = [call] ∧ Classified deserialize answer call := by
  obtain ⟨headers, body, err_code, status_code⟩ := answer
  by_cases herr : err_code = 0
  · subst herr
    by_cases hundefined : Undefined (deserialize body) ∨
        ¬ IsSuccess status_code ∧ Undefined (readError json body)
    · have hthrown := completeRequest_of_undefined json what deserialize callback headers body
        hundefined
      rw [h] at hthrown
      cases hthrown
    · obtain ⟨hresponse, herror⟩ := not_or.mp hundefined
      by_cases hstatus : IsSuccess status_code
      · rw [completeRequest_of_success json what deserialize callback headers body hstatus
          hresponse] at h
        refine ⟨_, (Prod.mk.inj h).2.symm, ?_⟩
        rw [Classified, received, if_pos ⟨rfl, hstatus⟩]
        cases hread : deserialize body with
        | error e => exact .inr ⟨_, rfl, zero_ne_status, rfl⟩
        | ok res => exact .inl ⟨rfl, rfl⟩
      · rw [completeRequest_of_failure json what deserialize callback headers body hstatus hresponse
          fun hu ↦ herror ⟨hstatus, hu⟩] at h
        refine ⟨_, (Prod.mk.inj h).2.symm, .inr ⟨_, rfl, ?_, if_neg fun h ↦ hstatus h.2⟩⟩
        rw [status_code_failedError]
        rintro rfl
        exact hstatus ⟨by decide, by decide⟩
  · rw [completeRequest_of_transport json what deserialize callback headers body herr] at h
    exact ⟨_, (Prod.mk.inj h).2.symm, .inr ⟨_, rfl, zero_ne_status, if_neg fun h ↦ herr h.1⟩⟩

/-- An answer leads to the state that the callback leaves. -/
theorem complete_eq_ok (h : complete json what deserialize callback answer s = .ok s') :
    ∃ call, Classified deserialize answer call ∧ s' = (callback call s).2 := by
  rw [complete] at h
  split at h
  · cases h
  · rename_i calls hcomplete
    obtain ⟨call, rfl, hcall⟩ := call_of_completeRequest hcomplete
    obtain ⟨s₁, hafter, hs₁⟩ := bind_eq_ok_iff.mp h
    rw [← Except.ok.inj hs₁]
    exact ⟨call, hcall, afterCall_eq_ok hafter⟩

/-- A response that is read. -/
theorem complete_of_success (hstatus : IsSuccess answer.status_code) (herr : answer.err_code = 0)
    {response : ρ} (hread : deserialize answer.body = .ok response) :
    complete json what deserialize callback answer s =
      afterCall callback s { response, headers := answer.headers, err := none } := by
  have hdefined : ¬ Undefined (deserialize answer.body) := by
    rw [hread]
    exact fun h ↦ by cases h
  rw [complete, herr, completeRequest_of_success json what deserialize _ _ _ hstatus hdefined,
    hread]
  exact List.foldlM_cons.trans (bind_pure _)

/-- A request that fails on the way. -/
theorem complete_of_transport (herr : answer.err_code ≠ 0) :
    complete json what deserialize callback answer s = afterCall callback s
      { response := default, headers := answer.headers,
        err := some { error_code := answer.err_code } } := by
  rw [complete, completeRequest_of_transport json what deserialize _ _ _ herr]
  exact List.foldlM_cons.trans (bind_pure _)

end Mtx.Programs
