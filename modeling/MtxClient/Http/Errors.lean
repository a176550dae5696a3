import MtxClient.Json.Undefined

/-!
# Errors of the homeserver

The error object that a homeserver answers with, and the data for user-interactive authentication
that a 401 carries in it.

Flows and terms are read with `operator[]` on constant values, so that a flow without `stages`, or
terms without `policies`, is no error: the behaviour is undefined.  `error_undefined_iff` says which
objects that happens for.
-/

set_option autoImplicit false

namespace Mtx.Http

open Str

/-! ## The data -/

/-- A Matrix error code. -/
inductive ErrorCode where
  | M_UNRECOGNIZED | M_UNKNOWN | M_FORBIDDEN | M_UNKNOWN_TOKEN | M_BAD_JSON | M_NOT_JSON
  | M_NOT_FOUND | M_LIMIT_EXCEEDED | M_USER_IN_USE | M_INVALID_USERNAME | M_ROOM_IN_USE
  | M_INVALID_ROOM_STATE | M_THREEPID_IN_USE | M_THREEPID_NOT_FOUND | M_SERVER_NOT_TRUSTED
  | M_MISSING_TOKEN | M_BAD_PAGINATION | M_INVALID_SIGNATURE | M_EXCLUSIVE
  deriving DecidableEq, Repr

/-- `to_string(ErrorCode)`. -/
def ErrorCode.toStr : ErrorCode → Str
  | M_UNRECOGNIZED => "M_UNRECOGNIZED"
  | M_FORBIDDEN => "M_FORBIDDEN"
  | M_UNKNOWN_TOKEN => "M_UNKNOWN_TOKEN"
  | M_BAD_JSON => "M_BAD_JSON"
  | M_NOT_JSON => "M_NOT_JSON"
  | M_NOT_FOUND => "M_NOT_FOUND"
  | M_LIMIT_EXCEEDED => "M_LIMIT_EXCEEDED"
  | M_USER_IN_USE => "M_USER_IN_USE"
  | M_INVALID_USERNAME => "M_INVALID_USERNAME"
  | M_ROOM_IN_USE => "M_ROOM_IN_USE"
  | M_INVALID_ROOM_STATE => "M_INVALID_ROOM_STATE"
  | M_BAD_PAGINATION => "M_BAD_PAGINATION"
  | M_THREEPID_IN_USE => "M_THREEPID_IN_USE"
  | M_THREEPID_NOT_FOUND => "M_THREEPID_NOT_FOUND"
  | M_SERVER_NOT_TRUSTED => "M_SERVER_NOT_TRUSTED"
  | M_MISSING_TOKEN => "M_MISSING_TOKEN"
  | M_INVALID_SIGNATURE => "M_INVALID_SIGNATURE"
  | M_EXCLUSIVE => "M_EXCLUSIVE"
  | M_UNKNOWN => "M_UNKNOWN"

/-- `from_string`: what is not known is unrecognised. -/
def ErrorCode.ofStr (code : Str) : ErrorCode :=
  ([.M_FORBIDDEN, .M_UNKNOWN_TOKEN, .M_BAD_JSON, .M_NOT_JSON, .M_NOT_FOUND, .M_LIMIT_EXCEEDED,
    .M_USER_IN_USE, .M_INVALID_USERNAME, .M_ROOM_IN_USE, .M_INVALID_ROOM_STATE,
    .M_BAD_PAGINATION, .M_THREEPID_IN_USE, .M_THREEPID_NOT_FOUND, .M_SERVER_NOT_TRUSTED,
    .M_MISSING_TOKEN, .M_INVALID_SIGNATURE, .M_EXCLUSIVE, .M_UNKNOWN].find?
      fun c : ErrorCode ↦ c.toStr == code).getD .M_UNRECOGNIZED

/-- An error code is read from its own name. -/
theorem ErrorCode.ofStr_toStr (c : ErrorCode) : ofStr c.toStr = c := by
  cases c <;> rfl

/-- A flow composed of a list of stages. -/
structure Flow where
  /-- The stages to complete. -/
  stages : List Str

/-- The description of one policy in the terms and conditions. -/
structure PolicyDescription where
  /-- Language specific name. -/
  name : Str
  /-- Language specific link. -/
  url : Str

/-- A policy in the terms and conditions. -/
structure Policy where
  /-- Version of this policy. -/
  version : Str
  /-- Two letter language code to policy name and link. -/
  langToPolicy : SortedMap Str PolicyDescription

/-- The parameters of a stage. -/
inductive Params where
  /-- Parameters for oauth2. -/
  | oauth2 (uri : Str)
  /-- Parameters for the stage requiring you to accept terms and conditions. -/
  | terms (policies : SortedMap Str Policy)
  /-- The text of any other parameters. -/
  | other (text : Str)

/-- What requests failing with 401 carry. -/
structure Unauthorized where
  /-- Completed stages. -/
  completed : List Str := []
  /-- Session key to provide to further stages. -/
  session : Str := ""
  /-- The flows which can be used to complete the authentication. -/
  flows : List Flow := []
  /-- The parameters of the stages. -/
  params : SortedMap Str Params := SortedMap.empty

/-- A Matrix related error. -/
structure Error where
  /-- Error code. -/
  errcode : ErrorCode := .M_UNRECOGNIZED
  /-- Human readable version of the error. -/
  error : Str := ""
  /-- Auth flows in case of 401. -/
  unauthorized : Unauthorized := {}
  /-- Retry delay in case of 429, in milliseconds. -/
  retry_after : UInt64 := 0

/-! ## Reading -/

/-- `from_json(PolicyDescription)`. -/
def PolicyDescription.fromJson (obj : Json) : Except Exn PolicyDescription := do
  let name ← obj.value "name" Json.getString ""
  let url ← obj.value "url" Json.getString ""
  return { name, url }

/-- `from_json(Policy)`. -/
def Policy.fromJson (obj : Json) : Except Exn Policy := do
  let version ← (← obj.atKey "version").getString
  let langs ← (obj.items.filter (·.1 != lit "version")).mapM fun e ↦ do
    return (e.1, ← PolicyDescription.fromJson e.2)
  return { version, langToPolicy := SortedMap.ofList langs }

/-- `from_json(TermsParams)`. -/
def termsFromJson (obj : Json) : Except Exn (SortedMap Str Policy) := do
  (← obj.index "policies").getMap Policy.fromJson

/-- `from_json(OAuth2Params)`. -/
def oauth2FromJson (obj : Json) : Except Exn Str := obj.value "uri" Json.getString ""

/-- `from_json(Flow)`. -/
def Flow.fromJson (obj : Json) : Except Exn Flow := do
  return { stages := ← (← obj.index "stages").getArray Json.getString }

variable (t : JsonText)

/-- The parameters of one stage, by the name of the stage. -/
def Params.fromItem (e : Str × Json) : Except Exn Params :=
  if e.1 = lit "m.login.terms" then terms <$> termsFromJson e.2
  else if e.1 = lit "m.login.oauth2" then oauth2 <$> oauth2FromJson e.2
  else other <$> t.dump e.2

/-- The parameters of all stages. -/
def paramsFromJson (obj : Json) : Except Exn (SortedMap Str Params) := do
  let params ← obj.items.mapM fun e ↦ do return (e.1, ← Params.fromItem t e)
  return SortedMap.ofList params

/-- `from_json(Unauthorized)`. -/
def Unauthorized.fromJson (obj : Json) : Except Exn Unauthorized := do
  let completed ← obj.optional "completed" (·.getArray Json.getString) []
  let session ← obj.value "session" Json.getString ""
  let flows ← (← obj.atKey "flows").getArray Flow.fromJson
  let params ← obj.optional "params" (paramsFromJson t) SortedMap.empty
  return { completed, session, flows, params }

/-- `if (obj.contains("flows")) error.unauthorized = obj.get<user_interactive::Unauthorized>();`. -/
def unauthorizedFromJson (obj : Json) : Except Exn Unauthorized :=
  if obj.contains "flows" then Unauthorized.fromJson t obj else .ok {}

/-- `from_json(Error)`. -/
def Error.fromJson (obj : Json) : Except Exn Error := do
  let errcode ← obj.value "errcode" Json.getString ""
  let error ← obj.value "error" Json.getString ""
  let unauthorized ← unauthorizedFromJson t obj
  let retry_after ← obj.optional "retry_after_ms" Json.getUInt64 0
  return { errcode := .ofStr errcode, error, unauthorized, retry_after }

/-! ## Where reading an error is undefined -/

/-- Reading the authentication data comes to a flow without `stages` or to terms without
`policies`. -/
def UndefinedAuth (obj : Json) : Prop :=
  Succeeds (obj.optional "completed" (·.getArray Json.getString) []) ∧
  Succeeds (obj.value "session" Json.getString "") ∧
  ∃ flows, obj.find? "flows" = some flows ∧
    ((∃ xs, flows = .array xs ∧ ComesTo Flow.fromJson (·.Lacks "stages") xs) ∨
      Succeeds (flows.getArray Flow.fromJson) ∧
      ∃ params, obj.find? "params" = some params ∧
        ComesTo (Params.fromItem t)
          (fun e ↦ e.1 = lit "m.login.terms" ∧ e.2.Lacks "policies") params.items)

/-- The retry delay is a number that does not fit. -/
def UndefinedDelay (obj : Json) : Prop :=
  ∃ bits, obj.find? "retry_after_ms" = some (.numberFloat bits) ∧
    Undefined (Json.castFloat bits 0 (2 ^ 64 - 1))

/-- Reading the error comes to undefined behaviour. -/
def UndefinedError (obj : Json) : Prop :=
  Succeeds (obj.value "errcode" Json.getString "") ∧
  Succeeds (obj.value "error" Json.getString "") ∧
  (UndefinedAuth t obj ∨ Succeeds (unauthorizedFromJson t obj) ∧ UndefinedDelay obj)

section

variable {bad : Exn → Prop} {lacks : Json → Str → Prop} (h : Detects bad lacks)
include h

theorem raises_flow_iff (obj : Json) : Raises bad (Flow.fromJson obj) ↔ lacks obj "stages" := by
  rw [Flow.fromJson, raises_bind_iff_of_not, h.index_iff]
  exact fun _ ↦ not_raises_bind
    (Json.not_raises_getArray h fun _ ↦ Json.not_raises_getString h) fun _ ↦ not_raises_pure _

theorem not_raises_policyDescription (obj : Json) :
    ¬ Raises bad (PolicyDescription.fromJson obj) :=
  not_raises_bind (Json.not_raises_value h fun _ ↦ Json.not_raises_getString h) fun _ ↦
    not_raises_bind (Json.not_raises_value h fun _ ↦ Json.not_raises_getString h) fun _ ↦
      not_raises_pure _

theorem not_raises_policy (obj : Json) : ¬ Raises bad (Policy.fromJson obj) := by
  have hlangs : ∀ es : List (Str × Json), ¬ Raises bad (es.mapM fun e ↦ do
      return (e.1, ← PolicyDescription.fromJson e.2) : Except Exn (List (Str × _))) :=
    not_raises_mapM fun e ↦
      not_raises_bind (not_raises_policyDescription h e.2) fun _ ↦ not_raises_pure _
  exact not_raises_bind (Json.not_raises_atKey h) fun _ ↦
    not_raises_bind (Json.not_raises_getString h) fun _ ↦
      not_raises_bind (hlangs _) fun _ ↦ not_raises_pure _

theorem raises_terms_iff (obj : Json) :
    Raises bad (termsFromJson obj) ↔ lacks obj "policies" := by
  rw [termsFromJson, raises_bind_iff_of_not, h.index_iff]
  exact fun _ ↦ Json.not_raises_getMap h (not_raises_policy h)

theorem raises_item_iff (e : Str × Json) : Raises bad (Params.fromItem t e) ↔
    e.1 = lit "m.login.terms" ∧ lacks e.2 "policies" := by
  rw [Params.fromItem]
  split_ifs with h1 h2
  · simp [h1, raises_terms_iff h]
  · refine iff_of_false ?_ fun hitem ↦ h1 hitem.1
    rw [raises_map_iff]
    exact Json.not_raises_value h fun _ ↦ Json.not_raises_getString h
  · refine iff_of_false ?_ fun hitem ↦ h1 hitem.1
    rw [raises_map_iff, JsonText.dump]
    split_ifs
    · exact not_raises_ok _
    · exact Json.not_raises_jsonTypeError h (by decide)

theorem raises_params_iff (obj : Json) : Raises bad (paramsFromJson t obj) ↔
    ComesTo (Params.fromItem t) (fun e ↦ e.1 = lit "m.login.terms" ∧ lacks e.2 "policies")
      obj.items := by
  have hitem : ∀ e : Str × Json, Raises bad (do return (e.1, ← Params.fromItem t e) :
      Except Exn (Str × Params)) ↔ e.1 = lit "m.login.terms" ∧ lacks e.2 "policies" := fun e ↦ by
    rw [raises_bind_iff_of_not fun _ ↦ not_raises_pure _, raises_item_iff t h]
  rw [paramsFromJson, raises_bind_iff_of_not fun _ ↦ not_raises_pure _, raises_mapM_iff hitem]
  have hsucceeds : ∀ e : Str × Json, Succeeds (do return (e.1, ← Params.fromItem t e) :
      Except Exn (Str × Params)) ↔ Succeeds (Params.fromItem t e) := fun e ↦ by
    exact succeeds_bind_iff.trans (by simp [exists_eq_ok_iff])
  simp only [ComesTo, hsucceeds]

theorem raises_unauthorized_iff (obj : Json) : Raises bad (Unauthorized.fromJson t obj) ↔
    Succeeds (obj.optional "completed" (·.getArray Json.getString) []) ∧
    Succeeds (obj.value "session" Json.getString "") ∧
    ∃ flows, obj.find? "flows" = some flows ∧
      ((∃ xs, flows = .array xs ∧ ComesTo Flow.fromJson (lacks · "stages") xs) ∨
        Succeeds (flows.getArray Flow.fromJson) ∧
        ∃ params, obj.find? "params" = some params ∧ ComesTo (Params.fromItem t)
          (fun e ↦ e.1 = lit "m.login.terms" ∧ lacks e.2 "policies") params.items) := by
  have hcompleted : ¬ Raises bad (obj.optional "completed" (·.getArray Json.getString) []) :=
    Json.not_raises_optional fun _ ↦
      Json.not_raises_getArray h fun _ ↦ Json.not_raises_getString h
  have hsession : ¬ Raises bad (obj.value "session" Json.getString "") :=
    Json.not_raises_value h fun _ ↦ Json.not_raises_getString h
  -- the parameters are read last
  have hparams : ∀ f : SortedMap Str Params → Unauthorized,
      Raises bad (do return f (← obj.optional "params" (paramsFromJson t) SortedMap.empty)) ↔
      ∃ params, obj.find? "params" = some params ∧ ComesTo (Params.fromItem t)
        (fun e ↦ e.1 = lit "m.login.terms" ∧ lacks e.2 "policies") params.items := fun f ↦ by
    rw [raises_bind_iff_of_not fun _ ↦ not_raises_pure _, Json.raises_optional_iff]
    simp only [raises_params_iff t h]
  have hflows : ∀ f : List Flow → SortedMap Str Params → Unauthorized, Raises bad (do
        let flows ← (← obj.atKey "flows").getArray Flow.fromJson
        return f flows (← obj.optional "params" (paramsFromJson t) SortedMap.empty)) ↔ _ := fun f ↦
    raises_bind_iff.trans (or_congr_right (exists_congr fun flows ↦
      and_congr_right' (raises_bind_iff_or fun xs ↦ hparams (f xs))))
  rw [Unauthorized.fromJson, raises_bind_iff_and hcompleted fun _ ↦
    raises_bind_iff_and hsession fun _ ↦ hflows fun _ _ ↦ _]
  simp only [Json.not_raises_atKey h, false_or, Json.atKey_eq_ok_iff,
    Json.raises_getArray_iff h (raises_flow_iff h)]

end

theorem undefined_unauthorized_iff (obj : Json) :
    Undefined (Unauthorized.fromJson t obj) ↔ UndefinedAuth t obj := by
  rw [← raises_undefined_iff]
  exact raises_unauthorized_iff t detects_undefined obj

/-- **Reading an error is undefined** where a flow has no `stages`, the terms have no `policies`, or
the retry delay is a number that does not fit. -/
theorem error_undefined_iff (obj : Json) :
    Undefined (Error.fromJson t obj) ↔ UndefinedError t obj := by
  have hauth : Undefined (unauthorizedFromJson t obj) ↔ UndefinedAuth t obj := by
    rw [unauthorizedFromJson]
    split_ifs with h
    · exact undefined_unauthorized_iff t obj
    · rw [Json.contains_eq_true_iff] at h
      exact iff_of_false nofun fun ⟨_, _, flows, hflows, _⟩ ↦ h ⟨flows, hflows⟩
  -- the delay is read last
  have hdelay : ∀ f : UInt64 → Error,
      Undefined (do return f (← obj.optional "retry_after_ms" Json.getUInt64 0)) ↔
        UndefinedDelay obj := fun f ↦ by
    rw [undefined_bind_iff_of_defined fun _ ↦ not_undefined_pure _, Json.undefined_optional_iff]
    simp only [Json.undefined_getUInt64_iff, UndefinedDelay]
    exact ⟨fun ⟨_, hv, bits, hbits, h⟩ ↦ ⟨bits, hbits ▸ hv, h⟩,
      fun ⟨bits, hv, h⟩ ↦ ⟨_, hv, bits, rfl, h⟩⟩
  rw [Error.fromJson, undefined_bind_iff_or fun _ ↦ undefined_bind_iff_or fun _ ↦
    undefined_bind_iff_or fun _ ↦ hdelay _]
  simp only [Json.not_undefined_value_getString, false_or, hauth]
  rfl

end Mtx.Http
