import MtxClient.Lib.Runs
import MtxClient.Crypto.Wrappers

/-!
# What becomes of stored pickles

A function of libolm that works in place destroys the buffer it is handed.  All wrappers but one
hand it a copy, so that the caller's strings survive whatever libolm does with it (`spares_run`).
The exception is `unpickle`, which restoring an account goes through: it casts away that the string
is constant and hands over the string itself.

`pickles_kept` says what follows.  A call keeps the caller's strings exactly if it does not restore
an object, or libolm happens to leave the string as it found it.  For a pickle it never does, so
that a single attempt, even with the right key, is enough to lose it.
-/

set_option autoImplicit false

namespace Mtx.Crypto

open Str Buffers.Program

variable {olm : InPlaceOlm} {json : JsonText} {α : Type}

/-! ## The wrappers that copy -/

section

variable {base : List (List UInt8)}

theorem spares_createBuffer (nbytes : ℕ) :
    Spares base (Wrapper.createBuffer nbytes : Wrapper olm ℕ) fun p ↦ base.length ≤ p :=
  (spares_access _).andThen fun buf ↦ spares_alloc buf

theorem spares_call (f : olm.State → α × olm.State) :
    Spares base (call f : Wrapper olm α) fun _ ↦ True :=
  spares_access _

theorem spares_callIn {p : ℕ} (h : base.length ≤ p) (f : Str → olm.State → α × Str × olm.State) :
    Spares base (callIn p f : Wrapper olm α) fun _ ↦ True :=
  spares_inPlace h _

theorem spares_check (func : String) (success : Bool) :
    Spares base (check func success : Wrapper olm Unit) fun _ ↦ True := by
  rw [check]
  split_ifs
  · exact spares_pure trivial
  · exact spares_fail _

theorem spares_copyOf (message : ℕ) :
    Spares base (copyOf message : Wrapper olm ℕ) fun p ↦ base.length ≤ p :=
  (spares_read message).andThen fun bytes ↦
    (spares_createBuffer bytes.length).bind fun _ htmp ↦
      (spares_copy htmp).andThen fun _ ↦ spares_pure htmp

theorem spares_byValue (s : ℕ) :
    Spares base (byValue s : Wrapper olm ℕ) fun p ↦ base.length ≤ p :=
  (spares_read s).andThen fun bytes ↦ spares_alloc bytes

theorem spares_binaryCopyOf (message : ℕ) :
    Spares base (binaryCopyOf message : Wrapper olm ℕ) fun p ↦ base.length ≤ p :=
  (spares_read message).andThen fun _ ↦ (spares_alloc _).bind fun _ htmp ↦
    (spares_copy htmp).andThen fun _ ↦ spares_pure htmp

theorem spares_trimmed {plaintext : ℕ} (h : base.length ≤ plaintext) (text : Str) :
    Spares base (trimmed plaintext text : Wrapper olm Str) fun _ ↦ True :=
  (spares_overwrite h text).andThen fun _ ↦
    (spares_createBuffer text.length).bind fun output houtput ↦
      (spares_read plaintext).andThen fun _ ↦
        (spares_overwrite houtput _).andThen fun _ ↦ spares_read output

theorem spares_decryptGroupMessage (session : Option olm.Handle) (message : ℕ) :
    Spares base (Wrapper.decryptGroupMessage session message) fun _ ↦ True := by
  refine (spares_orFail _ session).andThen fun session ↦
    (spares_copyOf message).bind fun tmp htmp ↦ (spares_callIn htmp _).andThen fun length ↦ ?_
  refine (spares_orFail _ length).andThen fun plaintext_len ↦
    (spares_createBuffer plaintext_len).bind fun plaintext hplaintext ↦ ?_
  refine (spares_copyOf message).bind fun tmp htmp ↦ (spares_callIn htmp _).andThen fun result ↦ ?_
  exact (spares_orFail _ result).andThen fun r ↦
    (spares_trimmed hplaintext r.1).andThen fun data ↦ spares_pure trivial

theorem spares_decryptMessage (session : olm.Handle) (msgtype message : ℕ) :
    Spares base (Wrapper.decryptMessage session msgtype message) fun _ ↦ True := by
  refine (spares_copyOf message).bind fun tmp htmp ↦ (spares_callIn htmp _).andThen fun length ↦ ?_
  refine (spares_orFail _ length).andThen fun declen ↦
    (spares_createBuffer declen).bind fun decrypted hdecrypted ↦ ?_
  refine (spares_copy htmp).andThen fun _ ↦ (spares_callIn htmp _).andThen fun result ↦ ?_
  exact (spares_orFail _ result).andThen fun text ↦ spares_trimmed hdecrypted text

theorem spares_curve25519AesSha2Decrypt (ciphertext privateKey ephemeral mac : ℕ) :
    Spares base (Wrapper.curve25519AesSha2Decrypt ciphertext privateKey ephemeral mac :
      Wrapper olm Str) fun _ ↦ True := by
  refine (spares_byValue ciphertext).bind fun copied hcopied ↦ ?_
  refine (spares_call _).andThen fun ctx ↦ (spares_read privateKey).andThen fun key ↦
    (spares_call _).andThen fun _ ↦ ?_
  exact (spares_read ephemeral).andThen fun _ ↦ (spares_read mac).andThen fun _ ↦
    (spares_callIn hcopied _).andThen fun result ↦ spares_orFail _ result

theorem spares_newInboundSession (func remove : String)
    (create : olm.Handle → Option olm.Handle → Str → olm.State → Bool × Str × olm.State)
    (message : ℕ) :
    Spares base (newInboundSession func remove create message) fun _ ↦ True := by
  refine (spares_call _).andThen fun session ↦ (spares_copyOf message).bind fun tmp htmp ↦ ?_
  refine (spares_access _).andThen fun account ↦ (spares_callIn htmp _).andThen fun success ↦ ?_
  exact (spares_check func success).andThen fun _ ↦ (spares_call _).andThen fun success ↦
    (spares_check remove success).andThen fun _ ↦ spares_pure trivial

theorem spares_ed25519VerifySignature (signing_key : ℕ) (obj : Json) (signature : ℕ) :
    Spares base (Wrapper.ed25519VerifySignature json signing_key obj signature : Wrapper olm Bool)
      fun _ ↦ True := by
  refine (spares_byValue signing_key).bind fun signing_key _ ↦
    (spares_byValue signature).bind fun signature hsignature ↦
      (spares_read signature).andThen fun bytes ↦ ?_
  split_ifs
  · exact spares_pure trivial
  · rcases canonicalJson json obj with e | canonical_json
    · exact spares_pure trivial
    · exact (spares_call _).andThen fun utility ↦ (spares_read signing_key).andThen fun key ↦
        spares_callIn hsignature _

theorem spares_ignoring {x : Wrapper olm α} (h : Spares base x fun _ ↦ True) :
    Spares base (ignoring x) fun _ ↦ True :=
  h.andThen fun _ ↦ spares_pure trivial

/-- **Calls that do not restore an object spare the strings of their caller**, whatever libolm
leaves in the buffers it is handed. -/
theorem spares_run {c : Call olm} (h : c.unpickled = none) :
    Spares base (c.run json) fun _ ↦ True := by
  cases c with
  | unpickle kind pickled key => cases h
  | restoreAccount saved_data key => cases h
  | load data key => cases h
  | decryptGroupMessage session message =>
    exact spares_ignoring (spares_decryptGroupMessage session message)
  | decryptMessage session msgtype message =>
    exact spares_ignoring (spares_decryptMessage session msgtype message)
  | curve25519AesSha2Decrypt ciphertext privateKey ephemeral mac =>
    exact spares_ignoring (spares_curve25519AesSha2Decrypt ciphertext privateKey ephemeral mac)
  | createInboundSessionFromBuffer their_curve25519 message =>
    exact spares_ignoring ((spares_read their_curve25519).andThen fun _ ↦
      spares_newInboundSession _ _ _ message)
  | createInboundSessionFrom their_curve25519 message =>
    exact spares_ignoring ((spares_binaryCopyOf message).bind fun tmp _ ↦
      (spares_read their_curve25519).andThen fun _ ↦ spares_newInboundSession _ _ _ tmp)
  | createInboundSessionBuffer message =>
    exact spares_ignoring (spares_newInboundSession _ _ _ message)
  | createInboundSession message =>
    exact spares_ignoring ((spares_binaryCopyOf message).bind fun tmp _ ↦
      spares_newInboundSession _ _ _ tmp)
  | matchesInboundSession session message =>
    exact spares_ignoring ((spares_copyOf message).bind fun tmp htmp ↦
      (spares_callIn htmp _).andThen fun _ ↦ spares_pure trivial)
  | matchesInboundSessionFrom session id_key message =>
    exact spares_ignoring ((spares_copyOf message).bind fun tmp htmp ↦
      (spares_read id_key).andThen fun _ ↦ (spares_callIn htmp _).andThen fun _ ↦
        spares_pure trivial)
  | ed25519VerifySignature signing_key obj signature =>
    exact spares_ignoring (spares_ed25519VerifySignature signing_key obj signature)
  | setTheirKey sas their_public_key =>
    exact (spares_byValue their_public_key).bind fun buffer hbuffer ↦
      (spares_callIn hbuffer _).andThen fun success ↦ spares_check _ success

end

/-! ## Restoring an object -/

variable {w w' : Buffers.World (ClientState olm)} {kind : PickledObject} {pickled key : ℕ}

/-- What libolm does when `unpickle` hands it the string: whether it accepts the key, what it leaves
of the string, and its state. -/
def restoring (w : Buffers.World (ClientState olm)) (kind : PickledObject) (pickled key : ℕ) :
    Bool × Str × olm.State :=
  olm.unpickle kind (olm.allocate (.pickled kind) w.rest.library).1 (w.memory.getD key [])
    (w.memory.getD pickled []) (olm.allocate (.pickled kind) w.rest.library).2

/-- `unpickle`, after libolm has worked in the string. -/
theorem unpickle_apply : unpickle kind pickled key w =
    (check "unpickle" (restoring w kind pickled key).1 >>= fun _ ↦
      pure (olm.allocate (.pickled kind) w.rest.library).1)
      { memory := w.memory.set pickled (restoring w kind pickled key).2.1
        rest := { w.rest with library := (restoring w kind pickled key).2.2 } } :=
  rfl

theorem memory_unpickle : (unpickle kind pickled key w).2.memory =
    w.memory.set pickled (restoring w kind pickled key).2.1 := by
  rw [unpickle_apply]
  rcases (restoring w kind pickled key).1 with - | - <;> rfl

theorem unpickle_of_accepted (h : (restoring w kind pickled key).1 = true) :
    ∃ object, (unpickle kind pickled key w).1 = .ok object := by
  rw [unpickle_apply, h]
  exact ⟨_, rfl⟩

/-- The three calls that restore an object leave of the string what libolm leaves. -/
theorem memory_run {c : Call olm} (h : c.unpickled = some (kind, pickled, key)) :
    (c.run json w).2.memory = w.memory.set pickled (restoring w kind pickled key).2.1 := by
  have hthen : ∀ {β : Type} (f : olm.Handle → Wrapper olm β),
      (∀ object v, (f object v).2.memory = v.memory) →
      ((unpickle kind pickled key >>= f) w).2.memory =
        w.memory.set pickled (restoring w kind pickled key).2.1 := fun f hf ↦ by
    rw [← memory_unpickle]
    rcases hrun : unpickle kind pickled key w with ⟨e | object, v⟩
    · rw [bind_of_error hrun]
    · rw [bind_of_ok hrun, hf]
  cases c with
  | unpickle kind' pickled' key' | restoreAccount pickled' key' | load pickled' key' =>
    cases h
    exact hthen _ fun object v ↦ rfl
  | _ => cases h

/-! ## Which calls keep the strings -/

/-- The string of a call that restores an object exists. -/
def Call.Valid (c : Call olm) (w : Buffers.World (ClientState olm)) : Prop :=
  ∀ kind pickled key, c.unpickled = some (kind, pickled, key) → pickled < w.memory.length

/-- If the call restores an object, libolm leaves the string as it found it. -/
def Call.Harmless (c : Call olm) (w : Buffers.World (ClientState olm)) : Prop :=
  ∀ kind pickled key, c.unpickled = some (kind, pickled, key) →
    (restoring w kind pickled key).2.1 = w.memory.getD pickled []

/-- A call keeps the strings of its caller exactly if it is harmless. -/
theorem prefix_run_iff {c : Call olm} (h : c.Valid w) :
    w.memory <+: (c.run json w).2.memory ↔ c.Harmless w := by
  obtain hnone | ⟨⟨kind, pickled, key⟩, hsome⟩ := Option.eq_none_or_eq_some c.unpickled
  · refine iff_of_true (prefix_of_spares (fun base ↦ spares_run hnone) w)
      fun kind pickled key hc ↦ ?_
    rw [hnone] at hc
    cases hc
  · rw [memory_run hsome, prefix_set_iff (h kind pickled key hsome), Call.Harmless, hsome]
    constructor
    · rintro hkept kind' pickled' key' ⟨⟩
      exact hkept
    · exact fun hharmless ↦ hharmless kind pickled key rfl

/-- The machine whose steps are harmless calls, which may throw. -/
def harmlessCalls (olm : InPlaceOlm) (json : JsonText) :
    Machine (Buffers.World (ClientState olm)) (Call olm) Thrown where
  possible w c := c.Valid w ∧ c.Harmless w
  step w c := .ok (c.run json w).2

/-- Along harmless calls the strings are kept. -/
theorem prefix_of_run {calls : List (Call olm)} (h : (harmlessCalls olm json).Run w calls w') :
    w.memory <+: w'.memory := by
  refine h.invariant (P := fun _ v ↦ w.memory <+: v.memory) List.prefix_rfl ?_
  intro calls v c v' _ hkept hpossible hstep
  cases Except.ok.inj hstep
  exact hkept.trans ((prefix_run_iff hpossible.1).mpr hpossible.2)

/-! ## Pickles -/

/-- The string is a pickle that was made under the key. -/
def IsPickle (olm : InPlaceOlm) (kind : PickledObject) (key pickled : Str) : Prop :=
  ∃ object s, olm.pickle kind object key s = some pickled

/-- What the documentation of libolm says about pickles. -/
structure InPlaceOlm.Contract (olm : InPlaceOlm) : Prop where
  /-- A pickle can be restored with the key it was made under. -/
  restores : ∀ kind key pickled, IsPickle olm kind key pickled → ∀ object s,
    (olm.unpickle kind object key pickled s).1 = true
  /-- It is decoded in place, whether the key is the right one or not. -/
  overwrites : ∀ kind key pickled, IsPickle olm kind key pickled → ∀ kind' object key' s,
    (olm.unpickle kind' object key' pickled s).2.1 ≠ pickled

theorem getD_of_prefix {m m' : List Str} (h : m <+: m') {p : ℕ} (hp : p < m.length) :
    m'.getD p [] = m.getD p [] := by
  obtain ⟨t, rfl⟩ := h
  rw [List.getD_eq_getElem?_getD, List.getD_eq_getElem?_getD, List.getElem?_append_left hp]

/-- **A call keeps the strings of its caller exactly if it is harmless**, and as long as all calls
are, every pickle can be restored with its key in the end.  No call is harmless that restores an
object from a pickle, with whatever key. -/
theorem pickles_kept (h : olm.Contract) :
    (∀ (w : Buffers.World (ClientState olm)) (c : Call olm), c.Valid w →
      (w.memory <+: (c.run json w).2.memory ↔ c.Harmless w)) ∧
    (∀ w calls w', (harmlessCalls olm json).Run w calls w' → w.memory <+: w'.memory ∧
      ∀ kind pickled key, pickled < w.memory.length → key < w.memory.length →
        IsPickle olm kind (w.memory.getD key []) (w.memory.getD pickled []) →
        ∃ object, (unpickle kind pickled key w').1 = .ok object) ∧
    ∀ (w : Buffers.World (ClientState olm)) (c : Call olm) kind pickled key,
      c.unpickled = some (kind, pickled, key) →
      (∃ kind' key', IsPickle olm kind' key' (w.memory.getD pickled [])) → ¬ c.Harmless w := by
  refine ⟨fun w c hvalid ↦ prefix_run_iff hvalid, fun w calls w' hrun ↦ ?_, ?_⟩
  · have hkept := prefix_of_run hrun
    refine ⟨hkept, fun kind pickled key hpickled hkey hp ↦ unpickle_of_accepted ?_⟩
    rw [restoring, getD_of_prefix hkept hpickled, getD_of_prefix hkept hkey]
    exact h.restores kind _ _ hp _ _
  · rintro w c kind pickled key hc ⟨kind', key', hp⟩ hharmless
    exact h.overwrites kind' key' _ hp kind _ _ _ (hharmless kind pickled key hc)

/-! ## An example -/

/-- A stand-in for libolm.  A pickle is the encoded key behind a mark, and as in libolm it is
decoded in place before the key is compared.  Messages are wiped. -/
def sampleInPlaceOlm : InPlaceOlm where
  State := Unit
  Handle := Unit
  allocate _ _ := ((), ())
  pickle _ _ key _ := some (bin2base64Unpadded (80 :: 75 :: 76 :: key))
  unpickle _ _ key pickled _ :=
    let raw := base642binUnpadded pickled
    (raw == 80 :: 75 :: 76 :: key, raw ++ pickled.drop raw.length, ())
  groupDecryptMaxPlaintextLength _ message _ := (some message.length, message.map fun _ ↦ 0, ())
  groupDecrypt _ message _ := (none, message.map fun _ ↦ 0, ())
  decryptMaxPlaintextLength _ _ message _ := (some message.length, message.map fun _ ↦ 0, ())
  decrypt _ _ message _ := (none, message.map fun _ ↦ 0, ())
  createInboundSessionFrom _ _ _ message _ := (false, message.map fun _ ↦ 0, ())
  createInboundSession _ _ message _ := (false, message.map fun _ ↦ 0, ())
  removeOneTimeKeys _ _ _ := (true, ())
  matchesInboundSession _ message _ := (0, message.map fun _ ↦ 0, ())
  matchesInboundSessionFrom _ _ message _ := (0, message.map fun _ ↦ 0, ())
  ed25519Verify _ _ _ signature _ := (false, signature.map fun _ ↦ 0, ())
  sasSetTheirKey _ their_key _ := (true, their_key.map fun _ ↦ 0, ())
  pkKeyFromPrivate _ _ _ := ((), ())
  pkDecrypt _ _ _ ciphertext _ := (none, ciphertext.map fun _ ↦ 0, ())

theorem contract_sampleInPlaceOlm : sampleInPlaceOlm.Contract where
  restores := by
    rintro kind key pickled ⟨object, s, hp⟩ object' s'
    cases hp
    have hraw : base642binUnpadded (bin2base64Unpadded (80 :: 75 :: 76 :: key)) =
        80 :: 75 :: 76 :: key := decodeBase64_encodeBase64 base64Alphabet false _
    exact beq_iff_eq.mpr hraw
  overwrites := by
    rintro kind key pickled ⟨object, s, hp⟩ kind' object' key' s' hleft
    cases hp
    have hraw : base642binUnpadded (bin2base64Unpadded (80 :: 75 :: 76 :: key)) =
        80 :: 75 :: 76 :: key := decodeBase64_encodeBase64 base64Alphabet false _
    -- the pickle begins with a letter, and what is left of it with the mark
    have hpickle : (bin2base64Unpadded (80 :: 75 :: 76 :: key)).head? = some 85 := by
      rw [bin2base64Unpadded, encodeBase64_cons]
      rfl
    have hhead := congrArg List.head? hleft
    rw [hpickle] at hhead
    dsimp only [sampleInPlaceOlm] at hhead
    rw [hraw] at hhead
    exact absurd (show some (80 : UInt8) = some 85 from hhead) (by decide)

/-- The strings of a program that stored its account: the pickle, a wrong key and the right one. -/
def storedAccount : Buffers.World (ClientState sampleInPlaceOlm) where
  memory := [bin2base64Unpadded (80 :: 75 :: 76 :: lit "right"), lit "wrong", lit "right"]
  rest := { library := (), rng := ones.rng }

/-- **An attempt with a wrong key destroys the pickle**, so that the right key is rejected
afterwards. -/
theorem pickle_lost :
    (unpickle .account 0 2 storedAccount).1 = .ok () ∧
      (unpickle .account 0 1 storedAccount).1 = .error (.olmException "unpickle") ∧
      ¬ storedAccount.memory <+: ((Call.load 0 1).run (knownTexts []) storedAccount).2.memory ∧
      (unpickle .account 0 2 ((Call.load 0 1).run (knownTexts []) storedAccount).2).1 =
        .error (.olmException "unpickle") :=
  ⟨rfl, rfl, by decide, rfl⟩

/-- A message of the caller survives its decryption, but not its pickle a restored account. -/
theorem pickles_kept_storedAccount :
    storedAccount.memory <+:
        ((Call.decryptMessage () 0 1).run (knownTexts []) storedAccount).2.memory ∧
      ¬ (Call.load 0 2).Harmless storedAccount := by
  have h := @pickles_kept sampleInPlaceOlm (knownTexts []) contract_sampleInPlaceOlm
  have hvalid : (Call.decryptMessage () 0 1).Valid storedAccount := fun _ _ _ hc ↦ by cases hc
  have hharmless : (Call.decryptMessage () 0 1).Harmless storedAccount :=
    fun _ _ _ hc ↦ by cases hc
  exact ⟨(h.1 storedAccount _ hvalid).mpr hharmless,
    h.2.2 storedAccount (.load 0 2) .account 0 2 rfl ⟨.account, lit "right", (), (), rfl⟩⟩

end Mtx.Crypto
