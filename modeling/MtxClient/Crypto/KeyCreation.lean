import MtxClient.Crypto.Olm

/-!
# Creating keys

The operations that create secret keys: each asks libolm how many random bytes it needs, fills a
buffer with them and hands it over.  `Fresh` says that what is handed over are the next bytes of the
generator, and `fresh_iff` when that is so.  It goes wrong in two ways: nobody notices that the
generator failed, and the constructor of `SAS` makes its buffer without the generator.
-/

set_option autoImplicit false

namespace Mtx.Crypto

variable (olm : Libolm)

/-! ## The operations -/

/-- `OlmClient::create_new_account`. -/
def createNewAccount : OlmM olm.Account := do
  let tmp_buf ← newBuffer olm.createAccountRandomLength
  handOver tmp_buf
  orOlmException "create_new_account" (olm.createAccount tmp_buf)

/-- `OlmClient::create_outbound_session`. -/
def createOutboundSession (account : olm.Account) (identity_key one_time_key : Str) :
    OlmM olm.Session := do
  let random_buf ← newBuffer olm.createOutboundSessionRandomLength
  handOver random_buf
  orOlmException "create_outbound_session"
    (olm.createOutboundSession account identity_key one_time_key random_buf)

/-- `OlmClient::init_outbound_group_session`. -/
def initOutboundGroupSession : OlmM olm.OutboundGroupSession := do
  let tmp_buf ← newBuffer olm.initOutboundGroupSessionRandomLength
  handOver tmp_buf
  orOlmException "init_outbound_group_session" (olm.initOutboundGroupSession tmp_buf)

/-- `SAS::SAS`, whose buffer is a plain `BinaryBuf`. -/
def newSas : OlmM olm.Sas := do
  let random_buf := List.replicate olm.createSasRandomLength 0
  handOver random_buf
  orOlmException "create_sas_instance" (olm.createSas random_buf)

/-- `PkSigning`. -/
structure PkSigning where
  seed : Str
  public_key : Str
  signing : olm.PkSigning

/-- `PkSigning::from_seed`. -/
def PkSigning.fromSeed (seed : Str) : OlmM (PkSigning olm) := do
  let seed_ := base642bin seed
  handOver seed_
  let (signing, public_key) ← orOlmException "signing_from_seed" (olm.pkSigningKeyFromSeed seed_)
  return { seed, public_key, signing }

/-- `PkSigning::new_key`. -/
def PkSigning.newKey : OlmM (PkSigning olm) := do
  let buf ← newBuffer olm.pkSigningSeedLength
  PkSigning.fromSeed olm (bin2base64 buf)

/-! ## Fresh random arguments -/

/-- The operations that create secret keys, with their arguments. -/
inductive EntryPoint where
  | sas
  | createNewAccount
  | createOutboundSession (account : olm.Account) (identity_key one_time_key : Str)
  | initOutboundGroupSession
  | newKey

variable {olm}

/-- The length of the random argument libolm asks for. -/
def EntryPoint.randomLength : EntryPoint olm → ℕ
  | sas => olm.createSasRandomLength
  | createNewAccount => olm.createAccountRandomLength
  | createOutboundSession .. => olm.createOutboundSessionRandomLength
  | initOutboundGroupSession => olm.initOutboundGroupSessionRandomLength
  | newKey => olm.pkSigningSeedLength

/-- The operation, without the object it creates. -/
def EntryPoint.run : EntryPoint olm → OlmM Unit
  | sas => discard (newSas olm)
  | createNewAccount => discard (Crypto.createNewAccount olm)
  | createOutboundSession account identity_key one_time_key =>
    discard (Crypto.createOutboundSession olm account identity_key one_time_key)
  | initOutboundGroupSession => discard (Crypto.initOutboundGroupSession olm)
  | newKey => discard (PkSigning.newKey olm)

/-- What the constructor does with a random argument. -/
def EntryPoint.accepts (random : Str) : EntryPoint olm → Bool
  | sas => (olm.createSas random).isSome
  | createNewAccount => (olm.createAccount random).isSome
  | createOutboundSession account identity_key one_time_key =>
    (olm.createOutboundSession account identity_key one_time_key random).isSome
  | initOutboundGroupSession => (olm.initOutboundGroupSession random).isSome
  | newKey => (olm.pkSigningKeyFromSeed random).isSome

/-- **The operation throws, or hands over exactly the next bytes of the generator.** -/
def Fresh (e : EntryPoint olm) (w : World) : Prop :=
  match e.run w with
  | .ok (_, w') =>
    ∃ bytes, w.rng.next? e.randomLength = some bytes ∧ w'.handed = w.handed ++ [bytes]
  | .error _ => True

/-! ## What is handed over -/

/-- The random argument the operation hands over. -/
def EntryPoint.random (e : EntryPoint olm) (rng : Rng) : Str :=
  match e with
  | sas => List.replicate olm.createSasRandomLength 0
  | e => (createBuffer e.randomLength rng).1

/-- A computation that begins with a new buffer goes on with what `create_buffer` delivers. -/
theorem discard_newBuffer_bind {α : Type} (n : ℕ) (f : Str → OlmM α) (w : World) :
    discard (newBuffer n >>= f) w =
      discard (f (createBuffer n w.rng).1) { w with rng := (createBuffer n w.rng).2 } := rfl

/-- Handing over `random` and letting the constructor decide. -/
theorem run_of_construct {α : Type} {func : String} {random : Str} {ret : Option α} {w : World} :
    discard (handOver random >>= fun _ ↦ orOlmException func ret) w =
      if ret.isSome then .ok ((), { w with handed := w.handed ++ [random] })
      else .error (.olmException func) := by
  cases ret <;> rfl

/-- The seed of a new key is encoded and decoded again on its way. -/
theorem discard_fromSeed (buf : Str) (w : World) :
    discard (PkSigning.fromSeed olm (bin2base64 buf)) w =
      if (olm.pkSigningKeyFromSeed buf).isSome then .ok ((), { w with handed := w.handed ++ [buf] })
      else .error (.olmException "signing_from_seed") := by
  rw [PkSigning.fromSeed, base642bin_bin2base64]
  cases olm.pkSigningKeyFromSeed buf <;> rfl

/-- **What an operation does**: it hands over its random argument and goes on or throws. -/
theorem run_eq (e : EntryPoint olm) (w : World) :
    ∃ rng' func, e.run w =
      if e.accepts (e.random w.rng) then .ok ((), ⟨rng', w.handed ++ [e.random w.rng]⟩)
      else .error (.olmException func) := by
  cases e with
  | sas => exact ⟨_, _, run_of_construct⟩
  | createNewAccount =>
    refine ⟨(createBuffer olm.createAccountRandomLength w.rng).2, "create_new_account", ?_⟩
    rw [EntryPoint.run, createNewAccount, discard_newBuffer_bind, run_of_construct]
    rfl
  | createOutboundSession account identity_key one_time_key =>
    refine ⟨(createBuffer olm.createOutboundSessionRandomLength w.rng).2,
      "create_outbound_session", ?_⟩
    rw [EntryPoint.run, createOutboundSession, discard_newBuffer_bind, run_of_construct]
    rfl
  | initOutboundGroupSession =>
    refine ⟨(createBuffer olm.initOutboundGroupSessionRandomLength w.rng).2,
      "init_outbound_group_session", ?_⟩
    rw [EntryPoint.run, initOutboundGroupSession, discard_newBuffer_bind, run_of_construct]
    rfl
  | newKey =>
    refine ⟨(createBuffer olm.pkSigningSeedLength w.rng).2, "signing_from_seed", ?_⟩
    rw [EntryPoint.run, PkSigning.newKey, discard_newBuffer_bind, discard_fromSeed]
    rfl

/-! ## When it is fresh -/

/-- What the operations rely on: the random arguments are short, and libolm does not look at them to
decide whether it accepts the other arguments. -/
structure RandomLaws (olm : Libolm) : Prop where
  short : ∀ e : EntryPoint olm, e.randomLength < 2 ^ 31
  accepts : ∀ (e : EntryPoint olm) (random random' : Str), random.length = e.randomLength →
    random'.length = e.randomLength → e.accepts random = e.accepts random'

/-- libolm refuses the other arguments of the operation, such as keys that are too short. -/
def EntryPoint.Refused (e : EntryPoint olm) : Prop :=
  ∀ random : Str, random.length = e.randomLength → e.accepts random = false

theorem length_random (laws : RandomLaws olm) (e : EntryPoint olm) (rng : Rng) :
    (e.random rng).length = e.randomLength := by
  cases e with
  | sas => exact List.length_replicate
  | createNewAccount => exact length_createBuffer (laws.short .createNewAccount) rng
  | createOutboundSession account identity_key one_time_key =>
    exact length_createBuffer
      (laws.short (.createOutboundSession account identity_key one_time_key)) rng
  | initOutboundGroupSession => exact length_createBuffer (laws.short .initOutboundGroupSession) rng
  | newKey => exact length_createBuffer (laws.short .newKey) rng

/-- An operation hands over what the generator delivers if that does not fail, and if the operation
asks it at all. -/
theorem next?_eq_random_iff (laws : RandomLaws olm) (e : EntryPoint olm) (rng : Rng) :
    rng.next? e.randomLength = some (e.random rng) ↔
      rng.succeeds 0 = true ∧
        (e = .sas → rng.take e.randomLength = List.replicate e.randomLength 0) := by
  rw [Rng.next?]
  cases hs : rng.succeeds 0 with
  | false => simp
  | true =>
    have hbuf : ∀ n, n < 2 ^ 31 → (createBuffer n rng).1 = rng.take n := fun n hn ↦ by
      rw [createBuffer_eq hn, Rng.next?, if_pos hs, Option.getD_some]
    cases e with
    | sas => simp [EntryPoint.random, EntryPoint.randomLength]
    | createNewAccount =>
      simpa [EntryPoint.random] using (hbuf _ (laws.short .createNewAccount)).symm
    | createOutboundSession account identity_key one_time_key =>
      simpa [EntryPoint.random] using
        (hbuf _ (laws.short (.createOutboundSession account identity_key one_time_key))).symm
    | initOutboundGroupSession =>
      simpa [EntryPoint.random] using (hbuf _ (laws.short .initOutboundGroupSession)).symm
    | newKey => simpa [EntryPoint.random] using (hbuf _ (laws.short .newKey)).symm

/-- **An operation hands over fresh random bytes, or throws, exactly if libolm refuses its other
arguments, or the generator does not fail and the operation is not the constructor of `SAS`**,
unless the stream consists of the zeros which that hands over. -/
theorem fresh_iff (olm : Libolm) (laws : RandomLaws olm) (e : EntryPoint olm) (w : World) :
    Fresh e w ↔
      e.Refused ∨
        w.rng.succeeds 0 = true ∧
          (e = .sas → w.rng.take e.randomLength = List.replicate e.randomLength 0) := by
  have hlength := length_random laws e w.rng
  obtain ⟨rng', func, hrun⟩ := run_eq e w
  rw [Fresh, hrun, ← next?_eq_random_iff laws]
  cases haccepts : e.accepts (e.random w.rng) with
  | false =>
    refine iff_of_true trivial (Or.inl fun random hrandom ↦ ?_)
    rw [laws.accepts e random (e.random w.rng) hrandom hlength, haccepts]
  | true =>
    have hrefused : ¬ e.Refused := fun h ↦ by
      have := h _ hlength
      rw [haccepts] at this
      cases this
    simp only [if_true, hrefused, false_or]
    constructor
    · rintro ⟨bytes, hnext, hhanded⟩
      rw [List.append_cancel_left_eq, List.cons.injEq] at hhanded
      rw [hnext, hhanded.1]
    · exact fun hnext ↦ ⟨_, hnext, rfl⟩

/-! ## What freshness means for two runs -/

section

variable {e : EntryPoint olm} {w w' v v' : World}

/-- A fresh operation that goes on hands over the next bytes of the stream. -/
theorem Fresh.handed_eq (h : Fresh e w) (hrun : e.run w = .ok ((), w')) :
    w'.handed = w.handed ++ [w.rng.take e.randomLength] := by
  rw [Fresh, hrun] at h
  obtain ⟨bytes, hnext, hhanded⟩ := h
  rw [Rng.next?] at hnext
  split_ifs at hnext
  rw [hhanded, Option.some.inj hnext]

/-- **Fresh operations hand over different bytes if the streams differ in the bytes asked for.** -/
theorem Fresh.handed_ne (h : Fresh e w) (h' : Fresh e w') (hrun : e.run w = .ok ((), v))
    (hrun' : e.run w' = .ok ((), v')) (hsame : w.handed = w'.handed)
    (hne : w.rng.take e.randomLength ≠ w'.rng.take e.randomLength) : v.handed ≠ v'.handed := by
  rw [h.handed_eq hrun, h'.handed_eq hrun', hsame]
  exact fun heq ↦ hne (List.singleton_inj.mp (List.append_cancel_left heq))

/-- **A fresh operation hands over zeros only if the stream has them.** -/
theorem Fresh.take_eq_zeros (h : Fresh e w) (hrun : e.run w = .ok ((), w'))
    (hzeros : w'.handed = w.handed ++ [List.replicate e.randomLength 0]) :
    w.rng.take e.randomLength = List.replicate e.randomLength 0 :=
  List.singleton_inj.mp (List.append_cancel_left ((h.handed_eq hrun).symm.trans hzeros))

end

/-! ## Examples -/

theorem randomLaws_sampleOlm : RandomLaws sampleOlm where
  short e := by cases e <;> simp [EntryPoint.randomLength, sampleOlm]
  accepts e random random' h h' := by
    cases e <;> simp_all [EntryPoint.accepts, EntryPoint.randomLength, sampleOlm]

/-- A new account gets the ones. -/
theorem fresh_createNewAccount :
    RandomLaws sampleOlm ∧ Fresh (.createNewAccount : EntryPoint sampleOlm) ones :=
  ⟨randomLaws_sampleOlm,
    (fresh_iff sampleOlm randomLaws_sampleOlm .createNewAccount ones).mpr
      (Or.inr ⟨rfl, fun h ↦ by cases h⟩)⟩

/-- **The constructor of `SAS` hands over zeros although the generator delivers ones.** -/
theorem not_fresh_sas :
    (EntryPoint.sas : EntryPoint sampleOlm).run ones =
        .ok ((), { ones with handed := [List.replicate 32 0] }) ∧
      ones.rng.next? 32 = some (List.replicate 32 1) ∧
      ¬ Fresh (.sas : EntryPoint sampleOlm) ones := by
  have hrun : (EntryPoint.sas : EntryPoint sampleOlm).run ones =
      .ok ((), { ones with handed := [List.replicate 32 0] }) := by rfl
  refine ⟨hrun, by decide, fun h ↦ ?_⟩
  rw [Fresh, hrun] at h
  obtain ⟨bytes, hnext, hhanded⟩ := h
  have hbytes : bytes = List.replicate 32 1 := by
    have hones : ones.rng.next? 32 = some (List.replicate 32 1) := by decide
    exact Option.some.inj (hnext.symm.trans hones)
  rw [hbytes] at hhanded
  exact absurd hhanded (by decide)

end Mtx.Crypto
