import MtxClient.Programs.BotRuns

/-!
# The life of the encrypting bot

The bot is started, logs in, uploads its keys and follows its account until it is shut down; then it
is started again, with what it left in its files.  This is a machine whose runs go through any
number of such processes, with every answer that a homeserver may give, in any order.  A process may
also end without `shutdown_handler`, as only `SIGINT` is handled; then the files are as they were.

Two things hold of all of them.  Whenever the bot is shut down, it manages to save what it has, and
the next process begins with just that (`starts_as_shut_down`).  And what it has only grows
(`grows_of_run`): what the files had is never lost, nor is what a process had, unless that or a
later one ends without saving it.
-/

set_option autoImplicit false

namespace Mtx.Programs

open Str Http Responses Crypto Stateful

/-! ## Processes -/

/-- How far the process has come. -/
inductive BotProcess (olm : SessionOlm) where
  | down
  /-- The login has not been answered. -/
  | loggingIn (b : CryptoBot olm)
  /-- The upload of the first keys has not been answered. -/
  | uploading (b : CryptoBot olm)
  /-- Behind the start; there may be no request to `/sync`. -/
  | looping (l : Loop (CryptoBot olm))

/-- The state of the bot, as long as there is a process. -/
def BotProcess.bot {olm : SessionOlm} : BotProcess olm → Option (CryptoBot olm)
  | down => none
  | loggingIn b | uploading b => some b
  | looping l => some l.app

/-- The bot with its files. -/
structure BotLife (olm : SessionOlm) where
  files : BotFiles := {}
  process : BotProcess olm := .down

/-- What happens to the bot. -/
inductive BotEvent where
  | started (world : Crypto.World)
  /-- The login is answered: with a user and a device, or with an error. -/
  | loggedIn (login : Option (Str × Str))
  /-- The upload of the first keys is answered. -/
  | uploaded (answer : HttpAnswer)
  | looped (action : Action BotAnswer)
  | shutdown
  /-- The process ends without `shutdown_handler`: `main` returns, or it is killed. -/
  | ended

variable (json : JsonText) {olm : SessionOlm} (what : Exn → Str)

/-- Where what happens leads. -/
def BotLife.step (life : BotLife olm) : BotEvent → Except Exn (BotLife olm)
  | .started world =>
    match life.process with
    | .down => do return { life with process := .loggingIn (← start json life.files world) }
    | _ => .ok life
  | .loggedIn login =>
    match life.process, login with
    | .loggingIn b, some (user_id, device_id) =>
      match loginCb json user_id device_id b with
      | (.ok (), b) => .ok { life with process := .uploading b }
      | (.error .undefinedBehaviour, _) => .error .undefinedBehaviour
      | (.error _, b) => .ok { life with process := .looping { app := b } }
    | .loggingIn b, none => .ok { life with process := .looping { app := b } }
    | _, _ => .ok life
  | .uploaded answer =>
    match life.process with
    | .uploading b => do
      let l ← complete json what (deserializeJson json UploadKeys.fromJson) firstKeysUploaded answer
        { app := b }
      return { life with process := .looping l }
    | _ => .ok life
  | .looped action =>
    match life.process with
    | .looping l => do
      return { life with process := .looping (← l.step what (cryptoBot json olm what) action) }
    | _ => .ok life
  | .shutdown =>
    match life.process.bot with
    | some b => do return { files := ← shutdownHandler json b, process := .down }
    | none => .ok life
  | .ended => .ok { life with process := .down }

/-- The files of the bot can be read back. -/
structure Restorable (b : CryptoBot olm) : Prop where
  storage : json.Restores b.storage.written
  account : ∀ pickled, b.olm_client.save storageKey = .ok pickled →
    json.Restores (accountJson pickled)

/-- The life of the bot, with files that can be read back. -/
def botLife (olm : SessionOlm) : Machine (BotLife olm) BotEvent Exn where
  possible life
    | .shutdown => ∀ b, life.process.bot = some b → Restorable json b
    | _ => True
  step := BotLife.step json what

variable {json what}

/-! ## Starting -/

theorem account_of_startAccount {account : Str} {client : OlmClient olm.toLibolm}
    {w w' : Crypto.World}
    (h : startAccount json account w = .ok (client, w')) :
    ∃ account, client.account_ = some account := by
  rw [startAccount] at h
  split_ifs at h
  · obtain ⟨account, w₁, -, h⟩ := olmM_bind_eq_ok_iff.mp h
    obtain ⟨rfl, -⟩ := Prod.mk.inj (Except.ok.inj h)
    exact ⟨account, rfl⟩
  · obtain ⟨data, w₁, -, h⟩ := olmM_bind_eq_ok_iff.mp h
    obtain ⟨v, w₂, -, h⟩ := olmM_bind_eq_ok_iff.mp h
    obtain ⟨pickled, w₃, -, h⟩ := olmM_bind_eq_ok_iff.mp h
    obtain ⟨hload, -⟩ := olmM_liftM_eq_ok_iff.mp h
    obtain ⟨account, -, hclient⟩ := bind_eq_ok_iff.mp hload
    rw [← Except.ok.inj hclient]
    exact ⟨account, rfl⟩

theorem inv_of_start {files : BotFiles} {world : Crypto.World} {b : CryptoBot olm}
    (h : start json files world = .ok b) {s : Storage olm}
    (hload : Storage.load json files.db = .ok s) {s₀ : Storage olm} (hs : Storage.Steps s₀ s) :
    Inv s₀ Anything b := by
  obtain ⟨⟨client, w⟩, haccount, h⟩ := bind_eq_ok_iff.mp h
  obtain ⟨storage, hstorage, h⟩ := bind_eq_ok_iff.mp h
  obtain rfl := Except.ok.inj (hload.symm.trans hstorage)
  rw [← Except.ok.inj h]
  exact ⟨hs, trivial, fun _ _ _ hmem ↦ absurd hmem List.not_mem_nil,
    account_of_startAccount haccount⟩

/-! ## What a process does -/

variable {s₀ : Storage olm}

theorem keeps_loginCb (user_id device_id : Str) :
    Keeps (Inv s₀ Anything) (loginCb json user_id device_id : BotM olm Unit) := by
  refine Maintains.andThen (keeps_update fun b hb ↦ ⟨hb.steps, hb.holds, hb.requests, hb.account⟩)
    fun _ ↦ ?_
  refine (keeps_withClient _).andThen fun _ ↦ (keeps_withClient _).andThen fun _ ↦ ?_
  refine Maintains.andThen (keeps_update fun b hb ↦ ⟨hb.steps, hb.holds, hb.requests, hb.account⟩)
    fun _ ↦ ?_
  refine Maintains.bind (Q := fun client ↦ ∃ account, client.account_ = some account)
    (maintains_withClient fun _ _ _ _ _ h ↦ account_of_generateOneTimeKeys h)
    fun client hclient ↦ (keeps_setClient hclient).andThen fun _ ↦ ?_
  exact (keeps_withClient _).andThen fun _ ↦ maintains_pure trivial

theorem inv_firstKeysUploaded {call : Call Responses.UploadKeys} {l : Loop (CryptoBot olm)}
    (hl : Inv s₀ Anything l.app) : Inv s₀ Anything (firstKeysUploaded call l).2.app := by
  rw [firstKeysUploaded]
  cases herr : call.err with
  | some err => exact hl
  | none =>
    have happ := (keeps_keysUploadedCb call l.app hl).1
    dsimp only
    rcases hcall : keysUploadedCb call l.app with ⟨e | u, app⟩ <;> rwa [hcall] at happ

/-- The callbacks of the bot keep its invariant. -/
theorem inv_of_step (hs₀ : s₀.Utf8) (laws : BotLaws olm json) {l l' : Loop (CryptoBot olm)}
    {action : Action BotAnswer} (hl : Inv s₀ Anything l.app)
    (h : l.step what (cryptoBot json olm what) action = .ok l') : Inv s₀ Anything l'.app := by
  have hrooms : ∀ body res, deserializeJson json (Sync.fromJson json) body = .ok res →
      res.rooms.join.All JoinedRoom.Utf8 := fun body res hres ↦ by
    obtain ⟨j, hj, hread⟩ := valid_of_deserialize laws hres
    exact Sync.joined_utf8 hj hread
  refine Loop.step_keeps (fun body res hres ↦ ?_) (fun body res hres ↦ ?_) (fun x b b' hb hx ↦ ?_)
    hl h
  · exact (keeps_parseMessages hs₀ laws (hrooms body res hres)).andThen fun _ ↦
      keeps_firstMembers (hrooms body res hres)
  · exact keeps_parseMessages hs₀ laws (hrooms body res hres)
  · exact inv_answered hs₀ laws hb hx

/-! ## Shutting down -/

/-- What is saved is what the next process begins with. -/
theorem shutdown_then_start (plaws : PickleLaws olm) (hempty : ∀ j, json.parse [] ≠ .ok j)
    {b : CryptoBot olm} (hutf8 : b.storage.Utf8) {account : olm.Account}
    (haccount : b.olm_client.account_ = some account) (hrestorable : Restorable json b) :
    ∃ files, shutdownHandler json b = .ok files ∧
      Storage.load json files.db = .ok b.storage ∧
      ∀ world, startAccount json files.account world =
        .ok ({ user_id_ := "", device_id_ := "", account_ := some account }, world) := by
  obtain ⟨db, hsave, hload⟩ := load_save plaws hempty hutf8 hrestorable.storage
  obtain ⟨pickled, hpickle, hvalid, hunpickle⟩ := plaws.accounts account storageKey
  have hpickled : b.olm_client.save storageKey = .ok pickled := by
    rw [OlmClient.save, haccount]
    simp only [Pickling.pickled, hpickle]
  have hrestores := hrestorable.account pickled hpickled
  have hdump : json.dump (accountJson pickled) = .ok (json.text (accountJson pickled)) := by
    have hnone : Json.noMembers.All fun k v ↦ validUtf8 k = true ∧ v.validUtf8 = true := .empty
    exact json.dump_of_validUtf8 (Json.validUtf8_ofMembers (hnone.insert ⟨by decide, hvalid⟩))
  refine ⟨{ account := json.text (accountJson pickled), db }, ?_, hload, fun world ↦ ?_⟩
  · rw [shutdownHandler, hsave, ok_bind, hpickled, ok_bind, hdump]
    rfl
  · have hunpickled : olm.accounts.unpickled pickled storageKey = .ok account := by
      rw [Pickling.unpickled, hunpickle]
    have hkey : (accountJson pickled).atKey "account" = .ok (.string pickled) :=
      Json.atKey_of_find? (by simp [accountJson])
    have hclient : ({ user_id_ := "", device_id_ := "", account_ := none } :
        OlmClient olm.toLibolm).load pickled storageKey =
          .ok { user_id_ := "", device_id_ := "", account_ := some account } := by
      rw [OlmClient.load, hunpickled]
      rfl
    rw [startAccount, isEmpty_text hempty hrestores, if_neg Bool.false_ne_true,
      olmM_bind_of_ok (olmM_liftM_eq_ok_iff.mpr ⟨hrestores, rfl⟩),
      olmM_bind_of_ok (olmM_liftM_eq_ok_iff.mpr ⟨hkey, rfl⟩),
      olmM_bind_of_ok (olmM_liftM_eq_ok_iff.mpr ⟨Json.getString_string pickled, rfl⟩)]
    exact olmM_liftM_eq_ok_iff.mpr ⟨hclient, rfl⟩

/-! ## One event -/

/-- What the process has came from `s₀` by steps. -/
def BotLife.Runs (s₀ : Storage olm) (life : BotLife olm) : Prop :=
  ∀ b, life.process.bot = some b → Inv s₀ Anything b

/-- The process goes on, or there is none, and the files are as they were. -/
structure BotLife.GoesOn (life life' : BotLife olm) : Prop where
  files : life'.files = life.files
  runs : life'.process.bot.isSome = life.process.bot.isSome
  keeps : ∀ s₀ : Storage olm, s₀.Utf8 → life.Runs s₀ → life'.Runs s₀

theorem BotLife.GoesOn.refl (life : BotLife olm) : life.GoesOn life := ⟨rfl, rfl, fun _ _ h ↦ h⟩

/-- A callback that keeps the invariant of the bot. -/
theorem BotLife.GoesOn.of_keeps {files : BotFiles} {process process' : BotProcess olm}
    {b b' : CryptoBot olm} (hb : process.bot = some b) (hb' : process'.bot = some b')
    (h : ∀ s₀ : Storage olm, s₀.Utf8 → Inv s₀ Anything b → Inv s₀ Anything b') :
    BotLife.GoesOn { files, process } { files, process := process' } where
  files := rfl
  runs := by
    dsimp only
    rw [hb, hb', Option.isSome_some, Option.isSome_some]
  keeps s₀ hs₀ hruns b₁ hb₁ := by
    rw [← Option.some.inj (hb'.symm.trans hb₁)]
    exact h s₀ hs₀ (hruns b hb)

/-- What an event does: the process goes on, is started, is shut down or ends. -/
theorem BotLife.step_cases (laws : BotLaws olm json) {life life' : BotLife olm} {event : BotEvent}
    (hstep : life.step json what event = .ok life') :
    life.GoesOn life' ∨
    (∃ world b, life.process.bot = none ∧ start json life.files world = .ok b ∧
      life' = { life with process := .loggingIn b }) ∨
    (event = .shutdown ∧ ∃ b files, life.process.bot = some b ∧
      shutdownHandler json b = .ok files ∧ life' = { files, process := .down }) ∨
    (event = .ended ∧ life' = { life with process := .down }) := by
  obtain ⟨files, process⟩ := life
  cases event with
  | started world =>
    cases process with
    | down =>
      obtain ⟨b, hb, hlife⟩ := bind_eq_ok_iff.mp hstep
      exact .inr (.inl ⟨world, b, rfl, hb, (Except.ok.inj hlife).symm⟩)
    | _ => exact .inl (Except.ok.inj hstep ▸ .refl _)
  | loggedIn login =>
    cases process with
    | loggingIn b =>
      cases login with
      | none =>
        rw [← Except.ok.inj hstep]
        exact .inl (.of_keeps (rfl : BotProcess.bot (.loggingIn b) = some b) rfl fun _ _ h ↦ h)
      | some login =>
        have hinv : ∀ s₀ : Storage olm, Inv s₀ Anything b →
            Inv s₀ Anything (loginCb json login.1 login.2 b).2 := fun s₀ hb ↦
          (keeps_loginCb login.1 login.2 b hb).1
        simp only [BotLife.step] at hstep
        split at hstep
        · rename_i hcb
          rw [hcb] at hinv
          rw [← Except.ok.inj hstep]
          exact .inl (.of_keeps rfl rfl fun s₀ _ ↦ hinv s₀)
        · cases hstep
        · rename_i hcb
          rw [hcb] at hinv
          rw [← Except.ok.inj hstep]
          exact .inl (.of_keeps rfl rfl fun s₀ _ ↦ hinv s₀)
    | _ => exact .inl (Except.ok.inj hstep ▸ .refl _)
  | uploaded answer =>
    cases process with
    | uploading b =>
      obtain ⟨l, hl, hlife⟩ := bind_eq_ok_iff.mp hstep
      obtain ⟨call, -, rfl⟩ := complete_eq_ok hl
      rw [← Except.ok.inj hlife]
      exact .inl (.of_keeps rfl rfl fun _ _ hb ↦ inv_firstKeysUploaded (l := { app := b }) hb)
    | _ => exact .inl (Except.ok.inj hstep ▸ .refl _)
  | looped action =>
    cases process with
    | looping l =>
      obtain ⟨l', hl, hlife⟩ := bind_eq_ok_iff.mp hstep
      rw [← Except.ok.inj hlife]
      exact .inl (.of_keeps rfl rfl fun _ hs₀ hb ↦ inv_of_step hs₀ laws hb hl)
    | _ => exact .inl (Except.ok.inj hstep ▸ .refl _)
  | shutdown =>
    simp only [BotLife.step] at hstep
    cases hbot : process.bot with
    | none =>
      rw [hbot] at hstep
      exact .inl (Except.ok.inj hstep ▸ .refl _)
    | some b =>
      rw [hbot] at hstep
      obtain ⟨files', hfiles, hlife⟩ := bind_eq_ok_iff.mp hstep
      exact .inr (.inr (.inl ⟨rfl, b, files', rfl, hfiles, (Except.ok.inj hlife).symm⟩))
  | ended => exact .inr (.inr (.inr ⟨rfl, (Except.ok.inj hstep).symm⟩))

/-! ## What it has -/

/-- What the files have came from `s₀` by steps, and what the process has came from that. -/
def BotLife.Saved (json : JsonText) (s₀ : Storage olm) (life : BotLife olm) : Prop :=
  ∃ s, Storage.load json life.files.db = .ok s ∧ Storage.Steps s₀ s ∧ life.Runs s

/-- What the bot has came from `s₀` by steps: in the process, or in the file if there is none. -/
def BotLife.Since (json : JsonText) (s₀ : Storage olm) (life : BotLife olm) : Prop :=
  match life.process.bot with
  | some b => Inv s₀ Anything b
  | none => ∃ s, Storage.load json life.files.db = .ok s ∧ Storage.Steps s₀ s

section

variable (hs₀ : s₀.Utf8) (laws : BotLaws olm json) (plaws : PickleLaws olm)
  (hempty : ∀ j, json.parse [] ≠ .ok j)

include hs₀ plaws hempty

/-- `shutdown_handler` writes what the process has. -/
theorem load_of_shutdown {b : CryptoBot olm} (hb : Inv s₀ Anything b)
    (hrestorable : Restorable json b) {files : BotFiles}
    (hshutdown : shutdownHandler json b = .ok files) :
    Storage.load json files.db = .ok b.storage := by
  obtain ⟨account, haccount⟩ := hb.account
  obtain ⟨files', hshutdown', hload, -⟩ :=
    shutdown_then_start plaws hempty (hb.steps.utf8 hs₀) haccount hrestorable
  rwa [Except.ok.inj (hshutdown.symm.trans hshutdown')]

include laws

theorem saved_step {life life' : BotLife olm} {event : BotEvent} (hsaved : life.Saved json s₀)
    (hpossible : (botLife json what olm).possible life event)
    (hstep : life.step json what event = .ok life') : life'.Saved json s₀ := by
  obtain ⟨s, hload, hs, hruns⟩ := hsaved
  rcases BotLife.step_cases laws hstep with
    hgoes | ⟨world, b, -, hb, rfl⟩ | ⟨rfl, b, files, hb, hshutdown, rfl⟩ | ⟨-, rfl⟩
  · exact ⟨s, hgoes.files ▸ hload, hs, hgoes.keeps s (hs.utf8 hs₀) hruns⟩
  · refine ⟨s, hload, hs, fun b' hb' ↦ ?_⟩
    rw [← Option.some.inj hb']
    exact inv_of_start hb hload .refl
  · have hinv := hruns b hb
    exact ⟨b.storage, load_of_shutdown (hs.utf8 hs₀) plaws hempty hinv (hpossible b hb) hshutdown,
      hs.trans hinv.steps, fun _ h ↦ nomatch h⟩
  · exact ⟨s, hload, hs, fun _ h ↦ nomatch h⟩

theorem since_step {life life' : BotLife olm} {event : BotEvent} (hsince : life.Since json s₀)
    (hended : event ≠ .ended) (hpossible : (botLife json what olm).possible life event)
    (hstep : life.step json what event = .ok life') : life'.Since json s₀ := by
  rw [BotLife.Since] at hsince
  rcases BotLife.step_cases laws hstep with
    hgoes | ⟨world, b, hnone, hb, rfl⟩ | ⟨rfl, b, files, hb, hshutdown, rfl⟩ | ⟨rfl, -⟩
  · have hruns := hgoes.runs
    rw [BotLife.Since]
    cases hbot : life.process.bot with
    | none =>
      rw [hbot] at hsince hruns
      rw [Option.isNone_iff_eq_none.mp (Option.isSome_eq_false_iff.mp hruns), hgoes.files]
      exact hsince
    | some b =>
      rw [hbot] at hsince hruns
      obtain ⟨b', hbot'⟩ := Option.isSome_iff_exists.mp hruns
      rw [hbot']
      refine hgoes.keeps s₀ hs₀ (fun b₁ hb₁ ↦ ?_) b' hbot'
      rwa [← Option.some.inj (hbot.symm.trans hb₁)]
  · rw [hnone] at hsince
    obtain ⟨s, hload, hs⟩ := hsince
    exact inv_of_start hb hload hs
  · rw [hb] at hsince
    exact ⟨b.storage, load_of_shutdown hs₀ plaws hempty hsince (hpossible b hb) hshutdown,
      hsince.steps⟩
  · exact absurd rfl hended

theorem saved_run {life life' : BotLife olm} {events : List BotEvent}
    (hrun : (botLife json what olm).Run life events life') (hsaved : life.Saved json s₀) :
    life'.Saved json s₀ := by
  refine hrun.invariant (P := fun _ life ↦ life.Saved json s₀) hsaved ?_
  exact fun _ _ _ _ _ hl hpossible hstep ↦ saved_step hs₀ laws plaws hempty hl hpossible hstep

theorem since_run {life life' : BotLife olm} {events : List BotEvent}
    (hrun : (botLife json what olm).Run life events life') (hsince : life.Since json s₀)
    (hended : .ended ∉ events) : life'.Since json s₀ := by
  refine hrun.invariant (P := fun events life ↦ .ended ∉ events → life.Since json s₀)
    (fun _ ↦ hsince) (fun _ _ event _ _ hl hpossible hstep hended ↦ ?_) hended
  rw [List.mem_append, List.mem_singleton, not_or] at hended
  exact since_step hs₀ laws plaws hempty (hl hended.1) (Ne.symm hended.2) hpossible hstep

end

/-- The bot that never ran has nothing. -/
theorem saved_nothing (json : JsonText) (olm : SessionOlm) :
    BotLife.Saved json ({} : Storage olm) {} := ⟨{}, rfl, .refl, fun _ h ↦ nomatch h⟩

theorem Storage.utf8_empty (olm : SessionOlm) : ({} : Storage olm).Utf8 where
  devices := .empty
  device_keys := .empty
  encrypted_rooms := .empty
  members := .empty
  olm_inbound_sessions := .empty
  olm_outbound_sessions := .empty
  inbound_group_sessions := .empty
  outbound_group_session_data := .empty
  outbound_group_sessions := .empty

/-- What a process of the bot has came from nothing by steps, and from what is in the files. -/
theorem inv_of_run (laws : BotLaws olm json) (plaws : PickleLaws olm)
    (hempty : ∀ j, json.parse [] ≠ .ok j) {events : List BotEvent} {life : BotLife olm}
    (hrun : (botLife json what olm).Run {} events life) {b : CryptoBot olm}
    (hb : life.process.bot = some b) :
    ∃ s, Storage.load json life.files.db = .ok s ∧ s.Utf8 ∧ Inv s Anything b ∧
      b.storage.Utf8 := by
  obtain ⟨s, hload, hs, hruns⟩ :=
    saved_run (Storage.utf8_empty olm) laws plaws hempty hrun (saved_nothing json olm)
  have hutf8 := hs.utf8 (Storage.utf8_empty olm)
  exact ⟨s, hload, hutf8, hruns b hb, (hruns b hb).steps.utf8 hutf8⟩

/-- **Nothing is lost when the bot is shut down.**  Whatever happened since it was started for the
first time, over any number of processes, it manages to write its files, and the process that is
started with them has the same storage and the same account. -/
theorem starts_as_shut_down (laws : BotLaws olm json) (plaws : PickleLaws olm)
    (hempty : ∀ j, json.parse [] ≠ .ok j) {events : List BotEvent} {life : BotLife olm}
    (hrun : (botLife json what olm).Run {} events life) {b : CryptoBot olm}
    (hb : life.process.bot = some b) (hrestorable : Restorable json b) :
    ∃ files, shutdownHandler json b = .ok files ∧ ∀ world, ∃ b',
      start json files world = .ok b' ∧ b'.storage = b.storage ∧
        b'.olm_client.account_ = b.olm_client.account_ := by
  obtain ⟨s, -, -, hinv, hutf8⟩ := inv_of_run laws plaws hempty hrun hb
  obtain ⟨account, haccount⟩ := hinv.account
  obtain ⟨files, hshutdown, hload, hstart⟩ :=
    shutdown_then_start plaws hempty hutf8 haccount hrestorable
  refine ⟨files, hshutdown, fun world ↦ ?_⟩
  refine ⟨{ olm_client := { user_id_ := "", device_id_ := "", account_ := some account },
            user_id := "", device_id := "", storage := b.storage, world }, ?_, rfl, haccount.symm⟩
  rw [start, hstart world, ok_bind, hload]
  rfl

/-- What the bot does to its storage between two moments, if no process between them ends without
saving it. -/
theorem steps_of_run (laws : BotLaws olm json) (plaws : PickleLaws olm)
    (hempty : ∀ j, json.parse [] ≠ .ok j) {events events' : List BotEvent}
    {life life' : BotLife olm} (hrun : (botLife json what olm).Run {} events life)
    (hrun' : (botLife json what olm).Run life events' life') (hended : .ended ∉ events')
    {b b' : CryptoBot olm} (hb : life.process.bot = some b) (hb' : life'.process.bot = some b') :
    Storage.Steps b.storage b'.storage := by
  obtain ⟨s, -, -, hinv, hutf8⟩ := inv_of_run laws plaws hempty hrun hb
  have hsince : life.Since json b.storage := by
    rw [BotLife.Since, hb]
    exact ⟨.refl, trivial, hinv.requests, hinv.account⟩
  have hinv' := since_run hutf8 laws plaws hempty hrun' hsince hended
  rw [BotLife.Since, hb'] at hinv'
  exact hinv'.steps

/-- **What the bot has only grows.**  Of two moments in its life, with any number of processes
between them, all that its files had at the first it still has at the second, and if every process
between them was shut down, also all that it had itself: the devices of a user and the keys of a
device are those that it saw first, and a group session is the one that it was, moved on by the
messages it was used for.  Where it had made an Olm session it still has one, if not the same. -/
theorem grows_of_run (laws : BotLaws olm json) (plaws : PickleLaws olm)
    (hempty : ∀ j, json.parse [] ≠ .ok j) {events events' : List BotEvent}
    {life life' : BotLife olm} (hrun : (botLife json what olm).Run {} events life)
    (hrun' : (botLife json what olm).Run life events' life') {b' : CryptoBot olm}
    (hb' : life'.process.bot = some b') :
    (∃ saved, Storage.load json life.files.db = .ok saved ∧ saved.Grows b'.storage) ∧
    ∀ b, life.process.bot = some b → .ended ∉ events' → b.storage.Grows b'.storage := by
  refine ⟨?_, fun b hb hended ↦
    (steps_of_run laws plaws hempty hrun hrun' hended hb hb').grows⟩
  obtain ⟨s, hload, hs, hruns⟩ :=
    saved_run (Storage.utf8_empty olm) laws plaws hempty hrun (saved_nothing json olm)
  obtain ⟨s', -, hs', hruns'⟩ := saved_run (hs.utf8 (Storage.utf8_empty olm)) laws plaws hempty
    hrun' ⟨s, hload, .refl, hruns⟩
  exact ⟨s, hload, Storage.Steps.grows (hs'.trans (hruns' b' hb').steps)⟩

/-! ## An example -/

/-- The storage of objects of which there is only one. -/
def samplePickling : Pickling Unit where
  pickle _ _ := some "AQ"
  unpickle _ _ := some ()

theorem lossless_samplePickling : Pickling.Lossless samplePickling :=
  fun _ _ ↦ ⟨"AQ", rfl, by decide, rfl⟩

/-- A library whose accounts have no one-time keys. -/
def sampleSessions : SessionOlm where
  toLibolm := { sampleOlm with createAccountRandomLength := 0, createAccount := fun _ ↦ some () }
  InboundGroupSession := Unit
  accounts := samplePickling
  sessions := samplePickling
  inboundGroupSessions := samplePickling
  outboundGroupSessions := samplePickling
  accountGenerateOneTimeKeysRandomLength _ _ := 0
  accountGenerateOneTimeKeys _ _ _ := some ()
  accountGenerateFallbackKeyRandomLength _ := 0
  accountGenerateFallbackKey _ _ := some ()
  accountOneTimeKeysLength _ := 17
  accountOneTimeKeys _ := some "\x7b\"curve25519\":\x7b\x7d\x7d"
  accountUnpublishedFallbackKeyLength _ := 17
  accountUnpublishedFallbackKey _ := some "\x7b\"curve25519\":\x7b\x7d\x7d"
  accountMarkKeysAsPublished _ := ()
  encryptMessageType _ := 0
  encryptMessageLength _ plaintext_length := plaintext_length
  encryptRandomLength _ := 0
  encrypt _ plaintext _ := if validUtf8 plaintext then some (plaintext, ()) else none
  createInboundSession _ _ := some ()
  removeOneTimeKeys _ _ := some ()
  matchesInboundSessionFrom _ _ _ := some true
  decryptMaxPlaintextLength _ _ message := some message.length
  decrypt _ _ message := some (message, ())
  outboundGroupSessionId _ := "id"
  outboundGroupSessionKey _ := "key"
  groupEncryptMessageLength _ plaintext_length := plaintext_length
  groupEncrypt _ plaintext := some (plaintext, ())
  initInboundGroupSession _ := some ()
  groupDecryptMaxPlaintextLength _ message := some message.length
  groupDecrypt _ message := some ((message, 0), ())

theorem pickleLaws_sampleSessions : PickleLaws sampleSessions :=
  ⟨lossless_samplePickling, lossless_samplePickling, lossless_samplePickling,
    lossless_samplePickling⟩

/-- A batch in which `@a:b` has joined a room. -/
def joinedBatch : Json := .object [
  ("next_batch", .string "s"),
  ("rooms", .object [("join", .object [("!r:b", .object [("state", .object [("events", .array [
    .object [
      ("content", .object [("membership", .string "join")]),
      ("event_id", .string "$e"),
      ("origin_server_ts", .numberUnsigned 1),
      ("sender", .string "@a:b"),
      ("state_key", .string "@a:b"),
      ("type", .string "m.room.member")]])])])])])]

/-- What is stored then. -/
def joinedStorage : Storage sampleSessions where
  members := SortedMap.empty.insert (lit "!r:b") (SortedMap.empty.insert (lit "@a:b") true)

/-- The answer to an upload of keys. -/
def sampleCounts : Json := .object [("one_time_key_counts", .object [])]

/-- What is parsed on the way. -/
def lifeValues : List Json := [
  .object [("curve25519", .string sampleIdentityKey), ("ed25519", .string sampleFingerprint)],
  .object [("curve25519", .object [])],
  sampleCounts, joinedBatch, joinedStorage.written, accountJson "AQ"]

theorem botLaws_knownTexts {js : List Json} (hvalid : js.all Json.validUtf8 = true) :
    BotLaws sampleSessions (knownTexts js) where
  session_id _ := (by decide : validUtf8 "id" = true)
  session_key _ := (by decide : validUtf8 "key" = true)
  parse s j h := by
    dsimp only [knownTexts] at h
    split at h
    · rename_i hfind
      rw [Except.ok.inj h] at hfind
      exact List.all_eq_true.mp hvalid j (List.mem_of_find?_eq_some hfind)
    · cases h

theorem botLaws_lifeValues : BotLaws sampleSessions (knownTexts lifeValues) :=
  botLaws_knownTexts (by decide +kernel)

/-- A value whose text is found first is read back. -/
theorem restores_of_findIdx? {js : List Json} {j : Json} {n : ℕ}
    (hfind : js.findIdx? (fun i ↦ i.dumpText == j.dumpText) = some n) (hn : js[n]? = some j) :
    (knownTexts js).Restores j := by
  rw [JsonText.Restores]
  dsimp only [knownTexts]
  rw [List.find?_eq_bind_findIdx?_getElem?, hfind, Option.bind_some, hn]

/-- The first process until it saw the batch. -/
def joinedEvents (world : Crypto.World) : List BotEvent := [
  .started world, .loggedIn (some ("@u:b", "D")), .uploaded { body := sampleCounts.dumpText },
  .looped (.answered { body := joinedBatch.dumpText })]

/-- Nothing is stored but members. -/
def Storage.onlyMembers (members : SortedMap Str (SortedMap Str Bool)) (s : Storage olm) : Bool :=
  decide (s.members = members) && s.devices.entries.isEmpty && s.device_keys.entries.isEmpty &&
    s.encrypted_rooms.entries.isEmpty && s.olm_inbound_sessions.entries.isEmpty &&
    s.olm_outbound_sessions.entries.isEmpty && s.inbound_group_sessions.entries.isEmpty &&
    s.outbound_group_session_data.entries.isEmpty && s.outbound_group_sessions.entries.isEmpty

theorem eq_empty_of_isEmpty {α : Type} {m : SortedMap Str α} (h : m.entries.isEmpty = true) :
    m = SortedMap.empty :=
  SortedMap.ext fun k ↦ by rw [SortedMap.find?, List.isEmpty_iff.mp h]; rfl

theorem Storage.eq_of_onlyMembers {members : SortedMap Str (SortedMap Str Bool)} {s : Storage olm}
    (h : s.onlyMembers members = true) : s = { members } := by
  simp only [Storage.onlyMembers, Bool.and_eq_true, decide_eq_true_eq] at h
  obtain ⟨⟨⟨⟨⟨⟨⟨⟨h₁, h₂⟩, h₃⟩, h₄⟩, h₅⟩, h₆⟩, h₇⟩, h₈⟩, h₉⟩ := h
  cases s
  congr 1
  exacts [eq_empty_of_isEmpty h₂, eq_empty_of_isEmpty h₃, eq_empty_of_isEmpty h₄,
    eq_empty_of_isEmpty h₅, eq_empty_of_isEmpty h₆, eq_empty_of_isEmpty h₇, eq_empty_of_isEmpty h₈,
    eq_empty_of_isEmpty h₉]

/-- The life of the bot with these texts. -/
abbrev sampleLife : Machine (BotLife sampleSessions) BotEvent Exn :=
  botLife (knownTexts lifeValues) (fun _ ↦ "") sampleSessions

/-- The process runs, with an account, and with the members and nothing else in its storage. -/
def hasJoined (x : Except Exn (BotLife sampleSessions)) : Bool :=
  match x with
  | .ok life => (life.process.bot.map fun b ↦
      b.olm_client.account_.isSome && b.storage.onlyMembers joinedStorage.members).getD false
  | .error _ => false

theorem exists_of_hasJoined {x : Except Exn (BotLife sampleSessions)} (h : hasJoined x = true) :
    ∃ life b account, x = .ok life ∧ life.process.bot = some b ∧
      b.olm_client.account_ = some account ∧ b.storage = joinedStorage := by
  cases x with
  | error e => cases h
  | ok life =>
    rw [hasJoined] at h
    cases hbot : life.process.bot with
    | none =>
      rw [hbot] at h
      cases h
    | some b =>
      rw [hbot] at h
      obtain ⟨haccount, hmembers⟩ := Bool.and_eq_true_iff.mp h
      obtain ⟨account, haccount⟩ := Option.isSome_iff_exists.mp haccount
      exact ⟨life, b, account, rfl, hbot, haccount, Storage.eq_of_onlyMembers hmembers⟩

/-- A generator of zeros. -/
def zeroWorld : Crypto.World := { rng := { stream := fun _ ↦ 0, succeeds := fun _ ↦ true } }

/-- The first process. -/
theorem joined_run : ∃ life b, sampleLife.Run {} (joinedEvents zeroWorld) life ∧
    sampleLife.execute {} (joinedEvents zeroWorld) = .ok life ∧ life.process.bot = some b ∧
    b.storage = joinedStorage ∧ Restorable (knownTexts lifeValues) b := by
  have hrun : hasJoined (sampleLife.execute {} (joinedEvents zeroWorld)) = true := by decide +kernel
  obtain ⟨life, b, account, hlife, hbot, haccount, hstorage⟩ := exists_of_hasJoined hrun
  refine ⟨life, b, Machine.Run.of_execute .nil ?_ hlife, hlife, hbot, hstorage, ?_⟩
  · intro event hevent life
    simp only [List.mem_cons, List.not_mem_nil, or_false] at hevent
    obtain rfl | rfl | rfl | rfl := hevent <;> trivial
  · constructor
    · rw [hstorage]
      exact restores_of_findIdx? (n := 4) (by decide +kernel) rfl
    · intro pickled hpickled
      rw [OlmClient.save, haccount] at hpickled
      obtain rfl : lit "AQ" = pickled := Except.ok.inj hpickled
      exact restores_of_findIdx? (n := 5) (by decide +kernel) rfl

theorem starts_as_shut_down_joined : ∃ (life : BotLife sampleSessions)
    (b : CryptoBot sampleSessions), sampleLife.Run {} (joinedEvents zeroWorld) life ∧
      life.process.bot = some b ∧ b.storage = joinedStorage ∧
      ∃ files, shutdownHandler (knownTexts lifeValues) b = .ok files ∧ ∀ world, ∃ b',
        start (knownTexts lifeValues) files world = .ok b' ∧ b'.storage = b.storage ∧
          b'.olm_client.account_ = b.olm_client.account_ := by
  obtain ⟨life, b, hrun, -, hbot, hstorage, hrestorable⟩ := joined_run
  refine ⟨life, b, hrun, hbot, hstorage, ?_⟩
  exact starts_as_shut_down botLaws_lifeValues pickleLaws_sampleSessions
    (fun j h ↦ by cases h) hrun hbot hrestorable

/-- What was stored is still there in the second process, and what was saved then is still there in
the third, although the second just ended. -/
theorem grows_of_run_joined : ∃ (life₂ : BotLife sampleSessions)
    (b₁ b₂ b₃ : CryptoBot sampleSessions), b₁.storage = joinedStorage ∧
      life₂.process.bot = some b₂ ∧ b₁.storage.Grows b₂.storage ∧
      ∃ saved, Storage.load (knownTexts lifeValues) life₂.files.db = .ok saved ∧
        saved.Grows b₃.storage := by
  obtain ⟨life₁, b₁, hrun₁, hexecute, hbot₁, hstorage, hrestorable⟩ := joined_run
  have hsecond : hasJoined (sampleLife.execute {}
      (joinedEvents zeroWorld ++ [.shutdown, .started zeroWorld])) = true := by decide +kernel
  obtain ⟨life₂, b₂, -, hlife₂, hbot₂, -⟩ := exists_of_hasJoined hsecond
  have hthird : hasJoined (sampleLife.execute {} (joinedEvents zeroWorld ++
      [.shutdown, .started zeroWorld] ++ [.ended, .started zeroWorld])) = true := by
    decide +kernel
  obtain ⟨life₃, b₃, -, hlife₃, hbot₃, -⟩ := exists_of_hasJoined hthird
  rw [Machine.execute_append, hlife₂, ok_bind] at hlife₃
  rw [Machine.execute_append, hexecute, ok_bind] at hlife₂
  obtain ⟨down, hdown, hstarted⟩ := bind_eq_ok_iff.mp hlife₂
  have hshutdown : sampleLife.Run life₁ [.shutdown] down := Machine.Run.nil.snoc (fun b hb ↦ by
    rwa [Option.some.inj (hb.symm.trans hbot₁)]) hdown
  have hrun₂ : sampleLife.Run life₁ [.shutdown, .started zeroWorld] life₂ :=
    Machine.Run.of_execute hshutdown (List.forall_mem_singleton.mpr fun _ ↦ trivial) hstarted
  have hrun₃ : sampleLife.Run life₂ [.ended, .started zeroWorld] life₃ :=
    Machine.Run.of_execute .nil (fun event hevent life ↦ by
      obtain rfl | rfl := List.mem_pair.mp hevent <;> trivial) hlife₃
  refine ⟨life₂, b₁, b₂, b₃, hstorage, hbot₂, ?_, ?_⟩
  · refine (grows_of_run botLaws_lifeValues pickleLaws_sampleSessions (fun j h ↦ by cases h)
      hrun₁ hrun₂ hbot₂).2 b₁ hbot₁ ?_
    simp
  · exact (grows_of_run botLaws_lifeValues pickleLaws_sampleSessions (fun j h ↦ by cases h)
      (hrun₁.append hrun₂) hrun₃ hbot₃).1

end Mtx.Programs
