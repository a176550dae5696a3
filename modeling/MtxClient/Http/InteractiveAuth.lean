import MtxClient.Crypto.DeviceKeys
import MtxClient.Http.Accounts
import MtxClient.Http.Callback

/-!
# User-interactive authentication

Four requests may be answered with a 401 that asks the user to authenticate.  Each has its own copy
of the decision whether to prompt the user or to hand the answer to the final callback.
`classified_iff` says for which answers the four decide alike, namely to prompt when the server
offers a flow: the copy of `registration` forgets to look for one.
-/

set_option autoImplicit false

namespace Mtx.Http

open Str

/-! ## Completing a stage -/

/-- Third party identifier for Email or MSISDN stages. -/
structure ThreePIDCred where
  /-- Identity server session id. -/
  sid : Str
  /-- Identity server client secret. -/
  client_secret : Str
  /-- Url of the identity server authed with. -/
  id_server : Str
  /-- Access token previously registered with the identity server. -/
  id_access_token : Str

/-- `to_json(ThreePIDCred)`. -/
def ThreePIDCred.toJson (cred : ThreePIDCred) : Json :=
  Json.ofMembers <| Json.noMembers
    |>.insert "sid" (.string cred.sid)
    |>.insert "client_secret" (.string cred.client_secret)
    |>.insertIf (!cred.id_server.isEmpty) "id_server" (.string cred.id_server)
    |>.insertIf (!cred.id_server.isEmpty) "id_access_token" (.string cred.id_access_token)

/-- Who a password belongs to. -/
inductive PasswordOwner where
  /-- A Matrix user. -/
  | userId (user : Str)
  /-- A third party identifier. -/
  | thirdPartyId (medium address : Str)

/-- The content of an auth request. -/
inductive AuthContent where
  | password (word : Str) (owner : PasswordOwner)
  | reCaptcha (response : Str)
  | token (text txn_id : Str)
  | emailIdentity (threepidCred : ThreePIDCred)
  | msisdn (threepidCred : ThreePIDCred)
  | oauth2 | terms | sso | dummy
  | registrationToken (text : Str)
  | fallback

/-- The auth request to complete a stage. -/
structure Auth where
  /-- The session id. -/
  session : Str
  /-- The content, depends on type. -/
  content : AuthContent

/-- The identifier of a password request. -/
def PasswordOwner.toJson : PasswordOwner → Json
  | userId user => Json.ofMembers <| Json.noMembers
      |>.insert "type" (.string "m.id.user")
      |>.insert "user" (.string user)
  | thirdPartyId medium address => Json.ofMembers <| Json.noMembers
      |>.insert "type" (.string "m.id.thirdparty")
      |>.insert "medium" (.string medium)
      |>.insert "address" (.string address)

/-- What `to_json(Auth)` assigns beside the session. -/
def AuthContent.assign (m : SortedMap Str Json) : AuthContent → SortedMap Str Json
  | password word owner => m
      |>.insert "type" (.string "m.login.password")
      |>.insert "password" (.string word)
      |>.insert "identifier" owner.toJson
  | reCaptcha response => m
      |>.insert "type" (.string "m.login.recaptcha")
      |>.insert "response" (.string response)
  | token text txn_id => m
      |>.insert "type" (.string "m.login.token")
      |>.insert "token" (.string text)
      |>.insert "txn_id" (.string txn_id)
  | emailIdentity cred => m
      |>.insert "type" (.string "m.login.email.identity")
      |>.insert "threepid_creds" cred.toJson
  | msisdn cred => m
      |>.insert "type" (.string "m.login.msisdn")
      |>.insert "threepid_creds" cred.toJson
  | registrationToken text => m
      |>.insert "type" (.string "m.login.registration_token")
      |>.insert "token" (.string text)
  | oauth2 => m.insert "type" (.string "m.login.oauth2")
  | sso => m.insert "type" (.string "m.login.sso")
  | terms => m.insert "type" (.string "m.login.terms")
  | dummy => m.insert "type" (.string "m.login.dummy")
  | fallback => m

/-- `to_json(Auth)`. -/
def Auth.toJson (auth : Auth) : Json :=
  Json.ofMembers <| auth.content.assign <| Json.noMembers |>.insert "session" (.string auth.session)

/-- An auth request always says for which session it is. -/
theorem Auth.find?_toJson_session (auth : Auth) :
    auth.toJson.find? "session" = some (.string auth.session) := by
  obtain ⟨session, content⟩ := auth
  rcases content <;> simp [toJson, AuthContent.assign]

/-! ## The endpoints -/

/-- The keys of `device_signing_upload`. -/
structure DeviceSigningUpload where
  /-- The user's master key. -/
  master_key : Option Crypto.CrossSigningKeys := none
  /-- The user's self-signing key. -/
  self_signing_key : Option Crypto.CrossSigningKeys := none
  /-- The user's user-signing key. -/
  user_signing_key : Option Crypto.CrossSigningKeys := none

/-- `if (member) obj[key] = member.value();`. -/
def insertKeys (m : SortedMap Str Json) (key : Str) (keys : Option Crypto.CrossSigningKeys) :
    SortedMap Str Json :=
  match keys with
  | some keys => m.insert key keys.toJson
  | none => m

/-- `to_json(DeviceSigningUpload)`. -/
def DeviceSigningUpload.toJson (keys : DeviceSigningUpload) : Json :=
  let m := insertKeys Json.noMembers "master_key" keys.master_key
  let m := insertKeys m "self_signing_key" keys.self_signing_key
  Json.ofMembers (insertKeys m "user_signing_key" keys.user_signing_key)

/-- A request that may need user-interactive authentication. -/
structure Interactive where
  /-- The type of its response. -/
  Response : Type
  /-- A response before anything was read. -/
  initial : Response
  /-- The path it is posted to. -/
  endpoint : Str
  /-- Its body without authentication. -/
  req : Json
  /-- Reading its response. -/
  fromJson : Json → Except Exn Response
  /-- The condition under which the user is prompted. -/
  asks : ClientError → Bool

instance (r : Interactive) : Inhabited r.Response := ⟨r.initial⟩

/-- `e->status_code == 401 && !e->matrix_error.unauthorized.flows.empty()`. -/
def offersFlow (e : ClientError) : Bool :=
  e.status_code == 401 && !e.matrix_error.unauthorized.flows.isEmpty

/-- `Client::registration`, which leaves the flows out of its condition.  On success it also sets
the credentials of the client. -/
def registration (user pass initial_device_display_name : Str) : Interactive where
  Response := Register
  initial := {}
  endpoint := "/client/v3/register"
  req := Json.ofMembers <| Json.noMembers
    |>.insert "username" (.string user)
    |>.insert "password" (.string pass)
    |>.insertIf (!initial_device_display_name.isEmpty) "initial_device_display_name"
      (.string initial_device_display_name)
  fromJson := Register.fromJson
  asks e := e.status_code == 401

/-- `Client::delete_devices`. -/
def deleteDevices (device_ids : List Str) : Interactive where
  Response := Unit
  initial := ()
  endpoint := "/client/v3/delete_devices"
  req := Json.ofMembers <| Json.noMembers |>.insert "devices" (Json.ofArray .string device_ids)
  fromJson _ := .ok ()
  asks := offersFlow

/-- `Client::delete_device`. -/
def deleteDevice (device_id : Str) : Interactive where
  Response := Unit
  initial := ()
  endpoint := "/client/v3/delete_devices"
  req := Json.ofMembers <| Json.noMembers |>.insert "devices" (.array [.string device_id])
  fromJson _ := .ok ()
  asks := offersFlow

/-- `Client::device_signing_upload`. -/
def deviceSigningUpload (deviceKeys : DeviceSigningUpload) : Interactive where
  Response := Unit
  initial := ()
  endpoint := "/client/v3/keys/device_signing/upload"
  req := deviceKeys.toJson
  fromJson _ := .ok ()
  asks := offersFlow

/-- The four requests. -/
inductive IsInteractive : Interactive → Prop
  | registration (user pass name : Str) : IsInteractive (registration user pass name)
  | deleteDevice (device_id : Str) : IsInteractive (deleteDevice device_id)
  | deleteDevices (device_ids : List Str) : IsInteractive (deleteDevices device_ids)
  | deviceSigningUpload (deviceKeys : DeviceSigningUpload) :
    IsInteractive (deviceSigningUpload deviceKeys)

/-! ## Answers -/

/-- An answer of the server, as the HTTP library reports it. -/
structure Answer where
  headers : Headers := none
  body : Str
  err_code : ℤ := 0
  status_code : ℤ

/-- What an answer leads to. -/
inductive Outcome (ρ : Type) where
  /-- `h.prompt(h, unauthorized)`. -/
  | prompt (unauthorized : Unauthorized)
  /-- `cb(response, err)`. -/
  | final (response : ρ) (err : Option ClientError)

/-- The callback of the request. -/
def Interactive.outcome (r : Interactive) (c : Call r.Response) : Outcome r.Response :=
  match c.err with
  | some e =>
    if r.asks e then .prompt e.matrix_error.unauthorized else .final c.response (some e)
  | none => .final c.response none

variable (t : JsonText) (what : Exn → Str)

/-- What an answer leads to, one entry for every time a callback of the user is called.  `thrown` is
what that callback throws, if anything. -/
def Interactive.complete (r : Interactive) (thrown : Except StdException Unit) (answer : Answer) :
    Except Exn (List (Outcome r.Response)) :=
  match completeRequest t what (deserializeJson t r.fromJson) (fun _ ↦ thrown) answer.headers
      answer.body answer.err_code answer.status_code with
  | (.ok _, calls) => .ok (calls.map r.outcome)
  | (.error e, _) => .error e

/-- The server answers with a failure whose body is read as undefined behaviour. -/
def Answer.IsUndefined (answer : Answer) : Prop :=
  answer.err_code = 0 ∧ ¬ IsSuccess answer.status_code ∧
    ∃ j, t.parse answer.body = .ok j ∧ UndefinedError t j

/-- The request failed. -/
def Answer.IsFailure (r : Interactive) (answer : Answer) : Prop :=
  answer.err_code ≠ 0 ∨ ¬ IsSuccess answer.status_code ∨
    ¬ Succeeds (deserializeJson t r.fromJson answer.body)

/-- The request failed with status 401, and its error carries a flow. -/
def Answer.OffersFlow (answer : Answer) : Prop :=
  answer.err_code = 0 ∧ answer.status_code = 401 ∧
    ∃ e, readError t answer.body = .ok e ∧ e.unauthorized.flows ≠ []

variable {r : Interactive} {thrown : Except StdException Unit} {answer : Answer}

theorem not_undefined_response (hr : IsInteractive r) (body : Str) :
    ¬ Undefined (deserializeJson t r.fromJson body) := by
  have hread : ∀ j, ¬ Undefined (r.fromJson j) := by
    rcases hr with ⟨user, pass, name⟩ | - | - | -
    · exact not_undefined_register
    all_goals exact fun j ↦ not_undefined_ok ()
  refine not_undefined_bind ?_ hread
  rw [parseBody]
  rcases t.parse body with e | j
  · rintro ⟨⟩
  · exact not_undefined_ok j

/-- Only a 401 prompts the user. -/
theorem status_code_of_asks (hr : IsInteractive r) {e : ClientError} (h : r.asks e = true) :
    e.status_code = 401 := by
  revert h
  rcases hr with - | - | - | -
  · exact beq_iff_eq.mp
  all_goals exact fun h ↦ beq_iff_eq.mp (Bool.and_eq_true_iff.mp h).1

theorem offersFlow_failedError (body : Str) : offersFlow (failedError t what body 401) = true ↔
    ∃ e, readError t body = .ok e ∧ e.unauthorized.flows ≠ [] := by
  rw [failedError, offersFlow]
  rcases readError t body with e | m
  · simp
  · simp

/-- The answer to a request whose reading is defined calls one callback. -/
theorem complete_eq_ok (thrown : Except StdException Unit) (hr : IsInteractive r)
    (hdefined : ¬ answer.IsUndefined t) :
    ∃ c, r.complete t what thrown answer = .ok [r.outcome c] ∧
      (c.err = none ↔ ¬ answer.IsFailure t r) ∧
      (∀ e ∈ c.err, e.status_code = 401 → answer.err_code = 0 ∧ answer.status_code = 401) ∧
      (answer.err_code = 0 → answer.status_code = 401 →
        c.err = some (failedError t what answer.body 401)) := by
  obtain ⟨headers, body, err_code, status_code⟩ := answer
  have hresponse := not_undefined_response t hr body
  simp only [Interactive.complete, Answer.IsFailure, Answer.IsUndefined] at hdefined ⊢
  by_cases herr : err_code = 0
  · subst herr
    by_cases hstatus : IsSuccess status_code
    · have h401 : status_code ≠ 401 := by rw [IsSuccess] at hstatus; omega
      rw [completeRequest_of_success _ _ _ _ _ _ hstatus hresponse]
      refine ⟨_, rfl, ?_, ?_, fun _ h ↦ absurd h h401⟩
      · rcases deserializeJson t r.fromJson body with e | a <;> simp [hstatus]
      · rcases deserializeJson t r.fromJson body with e | a
        · intro e he h
          rw [← Option.some.inj he] at h
          have hzero : (0 : ℤ) = 401 := h
          omega
        · intro e he
          cases he
    · have herror : ¬ Undefined (readError t body) := by
        rw [undefined_readError_iff]
        exact fun h ↦ hdefined ⟨rfl, hstatus, h⟩
      rw [completeRequest_of_failure _ _ _ _ _ _ hstatus hresponse herror]
      refine ⟨_, rfl, by simp [hstatus], fun e he h ↦ ⟨rfl, ?_⟩, fun _ h ↦ by rw [h]⟩
      rwa [← Option.some.inj he, status_code_failedError] at h
  · rw [completeRequest_of_transport _ _ _ _ _ _ herr]
    refine ⟨_, rfl, by simp [herr], fun e he h ↦ ?_, fun h ↦ absurd h herr⟩
    rw [← Option.some.inj he] at h
    have hzero : (0 : ℤ) = 401 := h
    omega

/-- What is undefined calls nobody. -/
theorem complete_of_undefined (hundefined : answer.IsUndefined t) :
    r.complete t what thrown answer = .error .undefinedBehaviour := by
  obtain ⟨hzero, hstatus, hbody⟩ := hundefined
  have hfst := completeRequest_of_undefined t what (deserializeJson t r.fromJson)
    (fun _ : Call r.Response ↦ thrown) answer.headers answer.body
    (Or.inr ⟨hstatus, (undefined_readError_iff t answer.body).mpr hbody⟩)
  rw [Interactive.complete, hzero]
  generalize completeRequest t what (deserializeJson t r.fromJson) (fun _ ↦ thrown) answer.headers
    answer.body 0 answer.status_code = result at hfst ⊢
  obtain ⟨result, calls⟩ := result
  obtain rfl : result = _ := hfst
  rfl

/-! ## The classification -/

/-- The user is prompted. -/
def Interactive.Prompts (r : Interactive) (thrown : Except StdException Unit) (answer : Answer) :
    Prop := ∃ u, r.complete t what thrown answer = .ok [.prompt u]

/-- The final callback is called with an error. -/
def Interactive.Fails (r : Interactive) (thrown : Except StdException Unit) (answer : Answer) :
    Prop := ∃ response e, r.complete t what thrown answer = .ok [.final response (some e)]

theorem prompts_iff (hr : IsInteractive r) (hdefined : ¬ answer.IsUndefined t) :
    r.Prompts t what thrown answer ↔ answer.err_code = 0 ∧ answer.status_code = 401 ∧
      r.asks (failedError t what answer.body 401) = true := by
  obtain ⟨c, hc, -, h401, herr⟩ := complete_eq_ok t what thrown hr hdefined
  rw [Interactive.Prompts, hc, Interactive.outcome]
  constructor
  · rintro ⟨u, hu⟩
    rcases hcall : c.err with - | e
    · rw [hcall] at hu
      cases hu
    · rw [hcall] at hu
      by_cases hasks : r.asks e = true
      · obtain ⟨hzero, hstatus⟩ := h401 e hcall (status_code_of_asks hr hasks)
        rw [hcall] at herr
        exact ⟨hzero, hstatus, Option.some.inj (herr hzero hstatus) ▸ hasks⟩
      · simp [hasks] at hu
  · rintro ⟨hzero, hstatus, hasks⟩
    rw [herr hzero hstatus]
    refine ⟨(failedError t what answer.body 401).matrix_error.unauthorized, ?_⟩
    simp only [hasks, if_true]

/-- A failure that does not prompt the user goes to the final callback. -/
theorem fails_of_not_prompts (hr : IsInteractive r) (hdefined : ¬ answer.IsUndefined t)
    (hfailure : answer.IsFailure t r) (h : ¬ r.Prompts t what thrown answer) :
    r.Fails t what thrown answer := by
  obtain ⟨c, hc, hnone, -, -⟩ := complete_eq_ok t what thrown hr hdefined
  obtain ⟨e, he⟩ := Option.ne_none_iff_exists'.mp fun h ↦ hnone.mp h hfailure
  have hasks : ¬ r.asks e = true := fun hasks ↦ h ⟨e.matrix_error.unauthorized, by
    rw [hc, Interactive.outcome, he]
    simp only [hasks, if_true]⟩
  refine ⟨c.response, e, ?_⟩
  rw [hc, Interactive.outcome, he]
  simp only [hasks]
  rfl

/-- The four requests decide alike: they prompt exactly when the server offers a flow, and any other
failure goes to the final callback. -/
structure Classified (user pass name device_id : Str) (device_ids : List Str)
    (deviceKeys : DeviceSigningUpload) (thrown : Except StdException Unit) (answer : Answer) :
    Prop where
  deleteDevice : (registration user pass name).Prompts t what thrown answer ↔
    (deleteDevice device_id).Prompts t what thrown answer
  deleteDevices : (registration user pass name).Prompts t what thrown answer ↔
    (deleteDevices device_ids).Prompts t what thrown answer
  deviceSigningUpload : (registration user pass name).Prompts t what thrown answer ↔
    (deviceSigningUpload deviceKeys).Prompts t what thrown answer
  offersFlow : (registration user pass name).Prompts t what thrown answer ↔ answer.OffersFlow t
  /-- Any other failure. -/
  fails : ∀ r ∈ [registration user pass name, Http.deleteDevice device_id,
      Http.deleteDevices device_ids, Http.deviceSigningUpload deviceKeys],
    answer.IsFailure t r → ¬ answer.OffersFlow t → r.Fails t what thrown answer

/-- A 401 without a flow that could be completed. -/
def Answer.IsDeadEnd (answer : Answer) : Prop :=
  answer.err_code = 0 ∧ answer.status_code = 401 ∧
    ∀ e, readError t answer.body = .ok e → e.unauthorized.flows = []

/-- **The four requests classify an answer alike** unless it is a 401 without flows, for which only
`registration` prompts, or its error is read as undefined behaviour. -/
theorem classified_iff (user pass name device_id : Str) (device_ids : List Str)
    (deviceKeys : DeviceSigningUpload) (thrown : Except StdException Unit) (answer : Answer) :
    Classified t what user pass name device_id device_ids deviceKeys thrown answer ↔
      ¬ answer.IsUndefined t ∧ ¬ answer.IsDeadEnd t := by
  have hregistration := IsInteractive.registration user pass name
  have hasks : (registration user pass name).asks (failedError t what answer.body 401) = true :=
    beq_iff_eq.mpr (status_code_failedError ..)
  constructor
  · intro h
    have hdefined : ¬ answer.IsUndefined t := fun hundefined ↦ by
      -- nobody is called, although the request failed
      have hno : ¬ answer.OffersFlow t := by
        rintro ⟨-, -, e, he, -⟩
        have hread := (undefined_readError_iff t answer.body).mpr hundefined.2.2
        rw [Undefined, he] at hread
        cases hread
      obtain ⟨response, e, hcomplete⟩ := h.fails _ (List.mem_cons_self ..)
        (Or.inr (Or.inl hundefined.2.1)) hno
      rw [complete_of_undefined t what hundefined] at hcomplete
      cases hcomplete
    refine ⟨hdefined, ?_⟩
    rintro ⟨hzero, hstatus, hflows⟩
    obtain ⟨-, -, e, he, hne⟩ := h.offersFlow.mp
      ((prompts_iff t what hregistration hdefined).mpr ⟨hzero, hstatus, hasks⟩)
    exact hne (hflows e he)
  · rintro ⟨hdefined, hdead⟩
    have hflow : ∀ {r}, IsInteractive r → r.asks = offersFlow →
        (r.Prompts t what thrown answer ↔ answer.OffersFlow t) := fun hr hsame ↦ by
      rw [prompts_iff t what hr hdefined, hsame, offersFlow_failedError]
      rfl
    have hprompts : (registration user pass name).Prompts t what thrown answer ↔
        answer.OffersFlow t := by
      rw [prompts_iff t what hregistration hdefined]
      constructor
      · rintro ⟨hzero, hstatus, -⟩
        refine ⟨hzero, hstatus, ?_⟩
        by_contra hno
        exact hdead ⟨hzero, hstatus, fun e he ↦ by_contra fun hne ↦ hno ⟨e, he, hne⟩⟩
      · rintro ⟨hzero, hstatus, -⟩
        exact ⟨hzero, hstatus, hasks⟩
    have hdevice := hflow (IsInteractive.deleteDevice device_id) rfl
    have hdevices := hflow (IsInteractive.deleteDevices device_ids) rfl
    have hupload := hflow (IsInteractive.deviceSigningUpload deviceKeys) rfl
    refine ⟨hprompts.trans hdevice.symm, hprompts.trans hdevices.symm,
      hprompts.trans hupload.symm, hprompts, fun r hr hfailure hno ↦ ?_⟩
    simp only [List.mem_cons, List.not_mem_nil, or_false] at hr
    obtain rfl | rfl | rfl | rfl := hr
    · exact fails_of_not_prompts t what hregistration hdefined hfailure (hno ∘ hprompts.mp)
    · exact fails_of_not_prompts t what (.deleteDevice _) hdefined hfailure (hno ∘ hdevice.mp)
    · exact fails_of_not_prompts t what (.deleteDevices _) hdefined hfailure (hno ∘ hdevices.mp)
    · exact fails_of_not_prompts t what (.deviceSigningUpload _) hdefined hfailure
        (hno ∘ hupload.mp)

/-- The error of a token that is not known. -/
def unknownToken : Json := .object [(lit "errcode", .string "M_UNKNOWN_TOKEN")]

/-- An unknown token makes `registration` prompt for a flow that does not exist, and
`delete_device` report the error. -/
theorem registration_prompts_unknownToken :
    (registration "user" "pass" "").Prompts (knownTexts [unknownToken]) (fun _ ↦ "") (.ok ())
        { body := unknownToken.dumpText, status_code := 401 } ∧
      (deleteDevice "device").Fails (knownTexts [unknownToken]) (fun _ ↦ "") (.ok ())
        { body := unknownToken.dumpText, status_code := 401 } :=
  ⟨⟨_, rfl⟩, _, _, rfl⟩

end Mtx.Http
