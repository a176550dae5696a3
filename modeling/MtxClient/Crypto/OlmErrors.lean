import MtxClient.Crypto.StoredPickles

/-!
# Errors of libolm

The functions of libolm report an error by a length that no buffer can have, `olm_error()`, and the
code that calls them is expected to turn it into an `olm_exception`.  Both decryptions call two such
functions: one for the length of the plaintext and one for the plaintext.

`decrypt_group_message` looks at both results.  `decrypt_message` only looks at the second one, and
asks for a buffer of whatever length it got from the first: then a `std::length_error` is thrown,
which callers do not expect.
-/

set_option autoImplicit false

namespace Mtx.Crypto

open Buffers.Program

/-! ## Running the steps -/

variable {olm : InPlaceOlm} {w : Buffers.World (ClientState olm)}

/-- A buffer has the length asked for, however long it is. -/
theorem length_createBuffer_any (n : ℕ) (rng : Rng) : (createBuffer n rng).1.length = n := by
  have hle := castInt_le n
  rw [createBuffer, randBytes]
  split_ifs with hneg
  · exact List.length_replicate
  · rcases h : rng.next? (castInt n).toNat with - | bytes
    · exact List.length_replicate
    · rw [Rng.next?] at h
      split_ifs at h
      obtain rfl := Option.some.inj h
      simp only [List.length_append, Rng.length_take, List.length_drop, List.length_replicate]
      omega

theorem getD_append_left {m t : List Str} {p : ℕ} (hp : p < m.length) :
    (m ++ t).getD p [] = m.getD p [] :=
  getD_of_prefix (List.prefix_append m t) hp

theorem getD_append_length (m : List Str) (bytes : Str) :
    (m ++ [bytes]).getD m.length [] = bytes := by
  rw [List.getD_eq_getElem?_getD, List.getElem?_concat_length, Option.getD_some]

theorem set_append_length (m : List Str) (bytes bytes' : Str) :
    (m ++ [bytes]).set m.length bytes' = m ++ [bytes'] := by
  rw [List.set_append_right _ _ le_rfl, Nat.sub_self]
  rfl

theorem getD_set {m : List Str} {p : ℕ} (hp : p < m.length) (bytes : Str) :
    (m.set p bytes).getD p [] = bytes := by
  rw [List.getD_eq_getElem?_getD, List.getElem?_set_self hp, Option.getD_some]

theorem read_apply (p : ℕ) : (read p : Wrapper olm Str) w = (.ok (w.memory.getD p []), w) := rfl

theorem overwrite_apply (p : ℕ) (bytes : Str) :
    ∃ w', (overwrite p bytes : Wrapper olm Unit) w = (.ok (), w') ∧ w'.rest = w.rest ∧
      w'.memory = w.memory.set p (bytes ++ (w.memory.getD p []).drop bytes.length) :=
  ⟨_, rfl, rfl, rfl⟩

theorem callIn_apply {α : Type} (p : ℕ) (f : Str → olm.State → α × Str × olm.State) :
    ∃ w', (callIn p f : Wrapper olm α) w = (.ok (f (w.memory.getD p []) w.rest.library).1, w') ∧
      w'.memory = w.memory.set p (f (w.memory.getD p []) w.rest.library).2.1 ∧
      w'.rest.library = (f (w.memory.getD p []) w.rest.library).2.2 :=
  ⟨_, rfl, rfl, rfl⟩

theorem createBuffer_apply (nbytes : ℕ) :
    ∃ buf w', (Wrapper.createBuffer nbytes : Wrapper olm ℕ) w = (.ok w.memory.length, w') ∧
      buf.length = nbytes ∧ w'.memory = w.memory ++ [buf] ∧ w'.rest.library = w.rest.library :=
  ⟨_, _, rfl, length_createBuffer_any nbytes w.rest.rng, rfl, rfl⟩

/-- A copy has what is copied in a new buffer. -/
theorem copyOf_apply {m : ℕ} (h : m < w.memory.length) :
    ∃ w', (copyOf m : Wrapper olm ℕ) w = (.ok w.memory.length, w') ∧
      w'.memory = w.memory ++ [w.memory.getD m []] ∧ w'.rest.library = w.rest.library := by
  obtain ⟨buf, w₁, hcreate, hlength, hmemory₁, hlibrary₁⟩ :=
    createBuffer_apply (w := w) (w.memory.getD m []).length
  obtain ⟨w₂, hoverwrite, hrest₂, hmemory₂⟩ :=
    overwrite_apply (w := w₁) w.memory.length (w.memory.getD m [])
  have hread : w₁.memory.getD m [] = w.memory.getD m [] := by
    rw [hmemory₁, getD_append_left h]
  have hcopy : (copy m w.memory.length : Wrapper olm Unit) w₁ = (.ok (), w₂) := by
    rw [copy, bind_of_ok (read_apply m), hread, hoverwrite]
  refine ⟨w₂, ?_, ?_, by rw [hrest₂, hlibrary₁]⟩
  · rw [copyOf, bind_of_ok (read_apply m), bind_of_ok hcreate, bind_of_ok hcopy]
    rfl
  · rw [hmemory₂, hmemory₁, getD_append_length, set_append_length,
      List.drop_eq_nil_of_le hlength.le, List.append_nil]

/-- The plaintext is what was written. -/
theorem trimmed_apply {p : ℕ} (h : p < w.memory.length) (text : Str) :
    ∃ w', (trimmed p text : Wrapper olm Str) w = (.ok text, w') := by
  obtain ⟨w₁, hwrite, -, hmemory₁⟩ := overwrite_apply (w := w) p text
  obtain ⟨buf, w₂, hcreate, hlength, hmemory₂, -⟩ := createBuffer_apply (w := w₁) text.length
  obtain ⟨w₃, hcopy, -, hmemory₃⟩ := overwrite_apply (w := w₂) w₁.memory.length text
  have htake : (w₂.memory.getD p []).take text.length = text := by
    rw [hmemory₂, getD_append_left (by rwa [hmemory₁, List.length_set]), hmemory₁, getD_set h,
      List.take_left]
  have hoverwritten : w₃.memory.getD w₁.memory.length [] = text := by
    rw [hmemory₃, hmemory₂, getD_append_length, set_append_length, getD_append_length,
      List.drop_eq_nil_of_le hlength.le, List.append_nil]
  refine ⟨w₃, ?_⟩
  rw [trimmed, bind_of_ok hwrite, bind_of_ok hcreate, bind_of_ok (read_apply p), htake,
    bind_of_ok hcopy, read_apply, hoverwritten]

/-! ## What surfaces -/

/-- The program returns something of which `Q` holds, or throws an `olm_exception`. -/
def Surfaces {α : Type} (x : Wrapper olm α) (w : Buffers.World (ClientState olm)) (Q : α → Prop) :
    Prop :=
  (∃ a, (x w).1 = .ok a ∧ Q a) ∨ ∃ func, (x w).1 = .error (.olmException func)

/-- What libolm decrypts of the ciphertext, after it was asked for the length. -/
def groupDecrypted (olm : InPlaceOlm) (session : olm.Handle) (message : Str) (s : olm.State) :
    Option (Str × UInt32) :=
  (olm.groupDecrypt session message
    (olm.groupDecryptMaxPlaintextLength session message s).2.2).1

@[inherit_doc groupDecrypted]
def decrypted (olm : InPlaceOlm) (session : olm.Handle) (msgtype : ℕ) (message : Str)
    (s : olm.State) : Option Str :=
  (olm.decrypt session msgtype message
    (olm.decryptMaxPlaintextLength session msgtype message s).2.2).1

section

variable {α β : Type} {Q : β → Prop}

theorem surfaces_pure {b : β} (h : Q b) : Surfaces (pure b : Wrapper olm β) w Q :=
  Or.inl ⟨b, rfl, h⟩

/-- The rule for a step that succeeds. -/
theorem Surfaces.bind {x : Wrapper olm α} {f : α → Wrapper olm β} {a : α}
    {v : Buffers.World (ClientState olm)} (hx : x w = (.ok a, v)) (hf : Surfaces (f a) v Q) :
    Surfaces (x >>= f) w Q := by
  rw [Surfaces, bind_of_ok hx]
  exact hf

/-- The rule for a result that is looked at. -/
theorem surfaces_orFail {func : String} {ret : Option α} {f : α → Wrapper olm β}
    (hf : ∀ a, ret = some a → Surfaces (f a) w Q) :
    Surfaces (orFail (.olmException func) ret >>= f) w Q := by
  cases ret with
  | none => exact Or.inr ⟨func, rfl⟩
  | some a => exact hf a rfl

end

/-- **`decrypt_group_message` returns what libolm decrypted, or throws an `olm_exception`.** -/
theorem surfaces_decryptGroupMessage {session : olm.Handle} {message : ℕ}
    (h : message < w.memory.length) :
    Surfaces (Wrapper.decryptGroupMessage (some session) message) w fun r ↦
      groupDecrypted olm session (w.memory.getD message []) w.rest.library =
        some (r.data, r.message_index) := by
  obtain ⟨w₁, hcopy₁, hmemory₁, hlibrary₁⟩ := copyOf_apply h
  obtain ⟨w₂, hcall₂, hmemory₂, hlibrary₂⟩ := callIn_apply (w := w₁) w.memory.length
    (olm.groupDecryptMaxPlaintextLength session)
  rw [hmemory₁, set_append_length, getD_append_length, hlibrary₁] at hmemory₂
  rw [hmemory₁, getD_append_length, hlibrary₁] at hlibrary₂
  refine .bind (v := w) rfl (.bind hcopy₁ (.bind hcall₂ (surfaces_orFail fun length _ ↦ ?_)))
  obtain ⟨buf, w₃, hcreate₃, -, hmemory₃, hlibrary₃⟩ := createBuffer_apply (w := w₂) length
  have hmessage : message < w₂.memory.length := by
    rw [hmemory₂, List.length_append]
    omega
  have hread : w₃.memory.getD message [] = w.memory.getD message [] := by
    rw [hmemory₃, getD_append_left hmessage, hmemory₂, getD_append_left h]
  obtain ⟨w₄, hcopy₄, hmemory₄, hlibrary₄⟩ := copyOf_apply (w := w₃) (m := message) (by
    rw [hmemory₃, List.length_append]
    omega)
  obtain ⟨w₅, hcall₅, hmemory₅, -⟩ := callIn_apply (w := w₄) w₃.memory.length
    (olm.groupDecrypt session)
  rw [hmemory₄, getD_append_length, hread, hlibrary₄, hlibrary₃, hlibrary₂] at hcall₅
  refine .bind hcreate₃ (.bind hcopy₄ (.bind hcall₅ (surfaces_orFail fun r hr ↦ ?_)))
  obtain ⟨w₆, htrimmed⟩ := trimmed_apply (w := w₅) (p := w₂.memory.length) (by
    rw [hmemory₅, List.length_set, hmemory₄, hmemory₃, List.length_append, List.length_append,
      List.length_singleton]
    omega) r.1
  exact .bind htrimmed (surfaces_pure hr)

/-- libolm does not change the size of the buffer in which it looks for the length. -/
def InPlaceOlm.KeepsSize (olm : InPlaceOlm) : Prop :=
  ∀ session msgtype message s,
    (olm.decryptMaxPlaintextLength session msgtype message s).2.1.length = message.length

/-- Whether libolm finds the length of the plaintext. -/
def HasLength (session : olm.Handle) (msgtype message : ℕ) (w : Buffers.World (ClientState olm)) :
    Prop :=
  (olm.decryptMaxPlaintextLength session msgtype (w.memory.getD message [])
    w.rest.library).1.isSome = true

/-- **`decrypt_message` does the same if libolm finds the length.** -/
theorem surfaces_decryptMessage (hsize : olm.KeepsSize) {session : olm.Handle}
    {msgtype message : ℕ} (h : message < w.memory.length)
    (hlength : HasLength session msgtype message w) :
    Surfaces (Wrapper.decryptMessage session msgtype message) w fun text ↦
      decrypted olm session msgtype (w.memory.getD message []) w.rest.library = some text := by
  obtain ⟨w₁, hcopy₁, hmemory₁, hlibrary₁⟩ := copyOf_apply h
  obtain ⟨w₂, hcall₂, hmemory₂, hlibrary₂⟩ := callIn_apply (w := w₁) w.memory.length
    (olm.decryptMaxPlaintextLength session msgtype)
  rw [hmemory₁, getD_append_length, hlibrary₁] at hcall₂ hlibrary₂
  rw [hmemory₁, set_append_length, getD_append_length, hlibrary₁] at hmemory₂
  obtain ⟨declen, hdeclen⟩ := Option.isSome_iff_exists.mp hlength
  rw [hdeclen] at hcall₂
  obtain ⟨buf, w₃, hcreate₃, -, hmemory₃, hlibrary₃⟩ := createBuffer_apply (w := w₂) declen
  have hlt : w.memory.length < w₂.memory.length := by
    rw [hmemory₂, List.length_append, List.length_singleton]
    omega
  have hread : w₃.memory.getD message [] = w.memory.getD message [] := by
    rw [hmemory₃, getD_append_left (h.trans hlt), hmemory₂, getD_append_left h]
  -- the buffer that libolm has worked in is used again
  obtain ⟨w₄, hoverwrite₄, hrest₄, hmemory₄⟩ :=
    overwrite_apply (w := w₃) w.memory.length (w.memory.getD message [])
  have hcopy₄ : (copy message w.memory.length : Wrapper olm Unit) w₃ = (.ok (), w₄) := by
    rw [copy, bind_of_ok (read_apply message), hread, hoverwrite₄]
  rw [hmemory₃, getD_append_left hlt, hmemory₂, getD_append_length,
    List.drop_eq_nil_of_le (hsize session msgtype _ _).le, List.append_nil, ← hmemory₂] at hmemory₄
  have htmp : w₄.memory.getD w.memory.length [] = w.memory.getD message [] := by
    rw [hmemory₄, getD_set]
    rw [List.length_append]
    omega
  obtain ⟨w₅, hcall₅, hmemory₅, -⟩ := callIn_apply (w := w₄) w.memory.length
    (olm.decrypt session msgtype)
  rw [htmp, hrest₄, hlibrary₃, hlibrary₂] at hcall₅
  refine .bind hcopy₁ (.bind hcall₂ (.bind (v := w₂) rfl (.bind hcreate₃ (.bind hcopy₄ ?_))))
  refine .bind hcall₅ (surfaces_orFail fun text htext ↦ ?_)
  obtain ⟨w₆, htrimmed⟩ := trimmed_apply (w := w₅) (p := w₂.memory.length) (by
    rw [hmemory₅, List.length_set, hmemory₄, List.length_set, List.length_append,
      List.length_singleton]
    omega) text
  exact Or.inl ⟨text, by rw [htrimmed], htext⟩

/-- **Otherwise a length error escapes.** -/
theorem decryptMessage_of_not_hasLength {session : olm.Handle} {msgtype message : ℕ}
    (h : message < w.memory.length) (hlength : ¬ HasLength session msgtype message w) :
    (Wrapper.decryptMessage session msgtype message w).1 = .error .lengthError := by
  obtain ⟨w₁, hcopy₁, hmemory₁, hlibrary₁⟩ := copyOf_apply h
  obtain ⟨w₂, hcall₂, -, -⟩ := callIn_apply (w := w₁) w.memory.length
    (olm.decryptMaxPlaintextLength session msgtype)
  rw [hmemory₁, getD_append_length, hlibrary₁,
    Option.not_isSome_iff_eq_none.mp hlength] at hcall₂
  rw [Wrapper.decryptMessage, bind_of_ok hcopy₁, bind_of_ok hcall₂]
  rfl

/-- **Both decryptions return what libolm decrypted or throw an `olm_exception`, except for
`decrypt_message` when libolm does not find the length of the plaintext.** -/
theorem olmErrors_iff (olm : InPlaceOlm) (hsize : olm.KeepsSize)
    (w : Buffers.World (ClientState olm)) (message : ℕ) (h : message < w.memory.length)
    (session : olm.Handle) :
    (Surfaces (Wrapper.decryptGroupMessage (some session) message) w fun r ↦
      groupDecrypted olm session (w.memory.getD message []) w.rest.library =
        some (r.data, r.message_index)) ∧
    ∀ msgtype, (Surfaces (Wrapper.decryptMessage session msgtype message) w fun text ↦
        decrypted olm session msgtype (w.memory.getD message []) w.rest.library = some text) ↔
      HasLength session msgtype message w := by
  refine ⟨surfaces_decryptGroupMessage h, fun msgtype ↦ ⟨fun hsurfaces ↦ ?_, fun hlength ↦ ?_⟩⟩
  · by_contra hlength
    have hescapes := decryptMessage_of_not_hasLength h hlength
    rcases hsurfaces with ⟨text, htext, -⟩ | ⟨func, hfunc⟩
    · cases hescapes.symm.trans htext
    · cases hescapes.symm.trans hfunc
  · exact surfaces_decryptMessage hsize h hlength

/-! ## Examples -/

/-- A stand-in for libolm that refuses the message `A`, which is not base64. -/
def refusingOlm : InPlaceOlm :=
  { sampleInPlaceOlm with decryptMaxPlaintextLength := fun _ _ message _ ↦
      if message = Str.lit "A" then (none, message, ()) else (some message.length, message, ()) }

theorem keepsSize_refusingOlm : refusingOlm.KeepsSize := by
  intro session msgtype message s
  simp only [refusingOlm]
  split_ifs <;> rfl

/-- A client that received the message `A`. -/
def received : Buffers.World (ClientState refusingOlm) where
  memory := [Str.lit "A"]
  rest := { library := (), rng := ones.rng }

theorem olmErrors_received :
    (Surfaces (Wrapper.decryptGroupMessage (some ()) 0) received fun r ↦
      groupDecrypted refusingOlm () (received.memory.getD 0 []) received.rest.library =
        some (r.data, r.message_index)) ∧
    ∀ msgtype, (Surfaces (Wrapper.decryptMessage () msgtype 0) received fun text ↦
        decrypted refusingOlm () msgtype (received.memory.getD 0 []) received.rest.library =
          some text) ↔ HasLength () msgtype 0 received :=
  olmErrors_iff refusingOlm keepsSize_refusingOlm received 0 Nat.zero_lt_one ()

/-- **The message ends in a length error.** -/
theorem not_surfaces_received :
    (Wrapper.decryptMessage () 1 0 received).1 = .error .lengthError ∧
      ¬ Surfaces (Wrapper.decryptMessage () 1 0) received fun text ↦
        decrypted refusingOlm () 1 (received.memory.getD 0 []) received.rest.library =
          some text := by
  have hescapes : (Wrapper.decryptMessage () 1 0 received).1 = .error .lengthError :=
    decryptMessage_of_not_hasLength Nat.zero_lt_one Bool.false_ne_true
  refine ⟨hescapes, ?_⟩
  rintro (⟨text, htext, -⟩ | ⟨func, hfunc⟩)
  · cases hescapes.symm.trans htext
  · cases hescapes.symm.trans hfunc

end Mtx.Crypto
