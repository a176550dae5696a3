import MtxClient.Lib.Buffers
import MtxClient.Crypto.Verification

/-!
# The wrappers of functions that work in place

Some functions of libolm decode and decrypt in the buffer they are handed.  Here such a function
maps the contents of the buffer to a result and to what it leaves behind, and the code that calls it
is a program over buffers: a string that a caller passes by reference is a buffer of the caller, and
a local copy is a new buffer.

Objects of libolm are handles, and their contents are part of the state of libolm.
-/

set_option autoImplicit false

namespace Mtx.Crypto

open Buffers (Program)
open Buffers.Program

/-! ## libolm -/

/-- The objects that can be stored as a pickle. -/
inductive PickledObject where
  | account
  | session
  | inboundSession
  | outboundSession

/-- The objects that the wrappers create. -/
inductive ObjectKind where
  | pickled (kind : PickledObject)
  | utility
  | pkDecryption

/-- The functions of libolm that the wrappers call.  Those that work in place take the contents of
the buffer and the state last, and return what they leave of both. -/
structure InPlaceOlm where
  /-- The contents of all objects. -/
  State : Type
  /-- Pointers to objects. -/
  Handle : Type
  /-- `T::allocate`. -/
  allocate (kind : ObjectKind) (s : State) : Handle × State
  /-- `T::pickle`: what is written to the buffer. -/
  pickle (kind : PickledObject) (object : Handle) (key : Str) (s : State) : Option Str
  /-- `T::unpickle`. -/
  unpickle (kind : PickledObject) (object : Handle) (key pickled : Str) (s : State) :
    Bool × Str × State
  /-- `olm_group_decrypt_max_plaintext_length`. -/
  groupDecryptMaxPlaintextLength (session : Handle) (message : Str) (s : State) :
    Option ℕ × Str × State
  /-- `olm_group_decrypt`: the plaintext and the message index. -/
  groupDecrypt (session : Handle) (message : Str) (s : State) :
    Option (Str × UInt32) × Str × State
  /-- `olm_decrypt_max_plaintext_length`. -/
  decryptMaxPlaintextLength (session : Handle) (msgtype : ℕ) (message : Str) (s : State) :
    Option ℕ × Str × State
  /-- `olm_decrypt`: the plaintext. -/
  decrypt (session : Handle) (msgtype : ℕ) (message : Str) (s : State) : Option Str × Str × State
  /-- `olm_create_inbound_session_from`, which gets a null pointer if there is no account. -/
  createInboundSessionFrom (their_key : Str) (session : Handle) (account : Option Handle)
    (message : Str) (s : State) : Bool × Str × State
  /-- `olm_create_inbound_session`. -/
  createInboundSession (session : Handle) (account : Option Handle) (message : Str) (s : State) :
    Bool × Str × State
  /-- `olm_remove_one_time_keys`. -/
  removeOneTimeKeys (account : Option Handle) (session : Handle) (s : State) : Bool × State
  /-- `olm_matches_inbound_session`. -/
  matchesInboundSession (session : Handle) (message : Str) (s : State) : ℕ × Str × State
  /-- `olm_matches_inbound_session_from`. -/
  matchesInboundSessionFrom (id_key : Str) (session : Handle) (message : Str) (s : State) :
    ℕ × Str × State
  /-- `olm_ed25519_verify(…) == 0`. -/
  ed25519Verify (utility : Handle) (key message signature : Str) (s : State) : Bool × Str × State
  /-- `olm_sas_set_their_key`. -/
  sasSetTheirKey (sas : Handle) (their_key : Str) (s : State) : Bool × Str × State
  /-- `olm_pk_key_from_private`, whose result is not looked at. -/
  pkKeyFromPrivate (ctx : Handle) (private_key : Str) (s : State) : Unit × State
  /-- `olm_pk_decrypt`: the plaintext. -/
  pkDecrypt (ctx : Handle) (ephemeral mac ciphertext : Str) (s : State) :
    Option Str × Str × State

/-! ## Programs -/

/-- What the wrappers throw. -/
inductive Thrown where
  /-- `olm_exception`, with the function it names. -/
  | olmException (func : String)
  /-- `std::length_error`, of a vector that would be too long. -/
  | lengthError
  deriving DecidableEq

/-- The state of libolm, the random number generator, and the account of the client. -/
structure ClientState (olm : InPlaceOlm) where
  library : olm.State
  rng : Rng
  account_ : Option olm.Handle := none

/-- A wrapper of functions of libolm. -/
abbrev Wrapper (olm : InPlaceOlm) (α : Type) := Program (ClientState olm) Thrown α

variable {olm : InPlaceOlm} {α : Type}

/-- A call of libolm that works in a buffer. -/
def callIn (p : ℕ) (f : Str → olm.State → α × Str × olm.State) : Wrapper olm α :=
  inPlace p fun bytes s ↦
    ((f bytes s.library).1, (f bytes s.library).2.1, { s with library := (f bytes s.library).2.2 })

/-- Any other call of libolm. -/
def call (f : olm.State → α × olm.State) : Wrapper olm α :=
  access fun s ↦ ((f s.library).1, { s with library := (f s.library).2 })

/-- `if (ret == olm_error()) throw olm_exception(func, …)`, for calls without another result. -/
def check (func : String) (success : Bool) : Wrapper olm Unit :=
  if success then pure () else fail (.olmException func)

/-- `create_buffer`. -/
def Wrapper.createBuffer (nbytes : ℕ) : Wrapper olm ℕ := do
  let buf ← access fun s ↦
    ((Crypto.createBuffer nbytes s.rng).1, { s with rng := (Crypto.createBuffer nbytes s.rng).2 })
  alloc buf

/-- `create_olm_object`. -/
def Wrapper.createOlmObject (kind : ObjectKind) : Wrapper olm olm.Handle := call (olm.allocate kind)

/-- A buffer from `create_buffer` with a copy of another buffer in it. -/
def copyOf (message : ℕ) : Wrapper olm ℕ := do
  let bytes ← read message
  let tmp ← Wrapper.createBuffer bytes.length
  copy message tmp
  return tmp

/-- A copy of a string: an argument that is passed by value, or the result of `to_binary_buf`. -/
def byValue (s : ℕ) : Wrapper olm ℕ := do
  let bytes ← read s
  alloc bytes

/-- `BinaryBuf tmp(size)` and `memcpy`. -/
def binaryCopyOf (message : ℕ) : Wrapper olm ℕ := do
  let bytes ← read message
  let tmp ← alloc (List.replicate bytes.length 0)
  copy message tmp
  return tmp

/-! ## Stored objects -/

/-- `unpickle`, which hands the caller's string to libolm. -/
def unpickle (kind : PickledObject) (pickled key : ℕ) : Wrapper olm olm.Handle := do
  let object ← Wrapper.createOlmObject (.pickled kind)
  let keyBytes ← read key
  let success ← callIn pickled (olm.unpickle kind object keyBytes)
  check "unpickle" success
  return object

/-- `OlmClient::restore_account`. -/
def Wrapper.restoreAccount (saved_data key : ℕ) : Wrapper olm Unit := do
  let object ← unpickle .account saved_data key
  access fun s ↦ ((), { s with account_ := some object })

/-- `OlmClient::load`. -/
def load (data key : ℕ) : Wrapper olm Unit := do
  let object ← unpickle .account data key
  access fun s ↦ ((), { s with account_ := some object })

/-! ## Decryption -/

/-- The end of the two decryptions: what was written to the buffer for the plaintext is copied to a
buffer of its length. -/
def trimmed (plaintext : ℕ) (text : Str) : Wrapper olm Str := do
  overwrite plaintext text
  let output ← Wrapper.createBuffer text.length
  let bytes ← read plaintext
  overwrite output (bytes.take text.length)
  read output

/-- `GroupPlaintext`. -/
structure GroupPlaintext where
  data : Str
  message_index : UInt32

/-- `OlmClient::decrypt_group_message`. -/
def Wrapper.decryptGroupMessage (session : Option olm.Handle) (message : ℕ) :
    Wrapper olm GroupPlaintext := do
  let session ← orFail (.olmException "decrypt_group_message") session
  let tmp_msg ← copyOf message
  let length ← callIn tmp_msg (olm.groupDecryptMaxPlaintextLength session)
  let plaintext_len ←
    orFail (.olmException "olm_group_decrypt_max_plaintext_length: invalid ciphertext") length
  let plaintext ← Wrapper.createBuffer plaintext_len
  let tmp_msg ← copyOf message
  let result ← callIn tmp_msg (olm.groupDecrypt session)
  let (text, message_index) ← orFail (.olmException "olm_group_decrypt") result
  let data ← trimmed plaintext text
  return { data, message_index }

/-- `OlmClient::decrypt_message`, which does not look for an error in the length. -/
def Wrapper.decryptMessage (session : olm.Handle) (msgtype : ℕ) (one_time_key_message : ℕ) :
    Wrapper olm Str := do
  let tmp ← copyOf one_time_key_message
  let length ← callIn tmp (olm.decryptMaxPlaintextLength session msgtype)
  let declen ← orFail .lengthError length
  let decrypted ← Wrapper.createBuffer declen
  copy one_time_key_message tmp
  let result ← callIn tmp (olm.decrypt session msgtype)
  let text ← orFail (.olmException "olm_decrypt") result
  trimmed decrypted text

/-- `CURVE25519_AES_SHA2_Decrypt`. -/
def Wrapper.curve25519AesSha2Decrypt (base64_ciphertext privateKey ephemeral mac : ℕ) :
    Wrapper olm Str := do
  let base64_ciphertext ← byValue base64_ciphertext
  let ctx ← Wrapper.createOlmObject .pkDecryption
  let private_key ← read privateKey
  call (olm.pkKeyFromPrivate ctx private_key)
  let ephemeral ← read ephemeral
  let mac ← read mac
  let result ← callIn base64_ciphertext (olm.pkDecrypt ctx ephemeral mac)
  orFail (.olmException "CURVE25519_AES_SHA2_Decrypt") result

/-! ## Inbound sessions -/

/-- The two ways to create an inbound session. -/
def newInboundSession (func remove : String)
    (create : olm.Handle → Option olm.Handle → Str → olm.State → Bool × Str × olm.State)
    (one_time_key_message : ℕ) : Wrapper olm olm.Handle := do
  let session ← Wrapper.createOlmObject (.pickled .session)
  let tmp ← copyOf one_time_key_message
  let account ← access fun s ↦ (s.account_, s)
  let success ← callIn tmp (create session account)
  check func success
  let success ← call (olm.removeOneTimeKeys account session)
  check remove success
  return session

/-- `OlmClient::create_inbound_session_from`, for a buffer. -/
def Wrapper.createInboundSessionFromBuffer (their_curve25519 one_time_key_message : ℕ) :
    Wrapper olm olm.Handle := do
  let their_key ← read their_curve25519
  newInboundSession "create_inbound_session_from" "inbound_session_from_remove_one_time_keys"
    (olm.createInboundSessionFrom their_key) one_time_key_message

/-- `OlmClient::create_inbound_session_from`, for a string. -/
def Wrapper.createInboundSessionFrom (their_curve25519 one_time_key_message : ℕ) :
    Wrapper olm olm.Handle := do
  let tmp ← binaryCopyOf one_time_key_message
  Wrapper.createInboundSessionFromBuffer their_curve25519 tmp

/-- `OlmClient::create_inbound_session`, for a buffer. -/
def Wrapper.createInboundSessionBuffer (one_time_key_message : ℕ) : Wrapper olm olm.Handle :=
  newInboundSession "create_inbound_session" "inbound_session_remove_one_time_keys"
    olm.createInboundSession one_time_key_message

/-- `OlmClient::create_inbound_session`, for a string. -/
def Wrapper.createInboundSession (one_time_key_message : ℕ) : Wrapper olm olm.Handle := do
  let tmp ← binaryCopyOf one_time_key_message
  Wrapper.createInboundSessionBuffer tmp

/-- `matches_inbound_session`. -/
def Wrapper.matchesInboundSession (session : olm.Handle) (one_time_key_message : ℕ) :
    Wrapper olm Bool := do
  let tmp ← copyOf one_time_key_message
  let ret ← callIn tmp (olm.matchesInboundSession session)
  return ret != 0

/-- `matches_inbound_session_from`. -/
def Wrapper.matchesInboundSessionFrom (session : olm.Handle) (id_key one_time_key_message : ℕ) :
    Wrapper olm Bool := do
  let tmp ← copyOf one_time_key_message
  let id_key ← read id_key
  let ret ← callIn tmp (olm.matchesInboundSessionFrom id_key session)
  return ret != 0

/-! ## Verification -/

/-- `ed25519_verify_signature`, whose arguments are passed by value.  Without a canonical text an
exception of the JSON library is caught. -/
def Wrapper.ed25519VerifySignature (json : JsonText) (signing_key : ℕ) (obj : Json)
    (signature : ℕ) : Wrapper olm Bool := do
  let signing_key ← byValue signing_key
  let signature ← byValue signature
  let bytes ← read signature
  if bytes.isEmpty then return false
  match canonicalJson json obj with
  | .error _ => return false
  | .ok canonical_json =>
    let utility ← Wrapper.createOlmObject .utility
    let key ← read signing_key
    callIn signature (olm.ed25519Verify utility key canonical_json)

/-- `SAS::set_their_key`. -/
def Wrapper.setTheirKey (sas : olm.Handle) (their_public_key : ℕ) : Wrapper olm Unit := do
  let pub_key_buffer ← byValue their_public_key
  let success ← callIn pub_key_buffer (olm.sasSetTheirKey sas)
  check "get_public_key" success

/-! ## Calls -/

/-- A call of one of the wrappers, with references to the caller's strings. -/
inductive Call (olm : InPlaceOlm) where
  | unpickle (kind : PickledObject) (pickled key : ℕ)
  | restoreAccount (saved_data key : ℕ)
  | load (data key : ℕ)
  | decryptGroupMessage (session : Option olm.Handle) (message : ℕ)
  | decryptMessage (session : olm.Handle) (msgtype one_time_key_message : ℕ)
  | curve25519AesSha2Decrypt (base64_ciphertext privateKey ephemeral mac : ℕ)
  | createInboundSessionFromBuffer (their_curve25519 one_time_key_message : ℕ)
  | createInboundSessionFrom (their_curve25519 one_time_key_message : ℕ)
  | createInboundSessionBuffer (one_time_key_message : ℕ)
  | createInboundSession (one_time_key_message : ℕ)
  | matchesInboundSession (session : olm.Handle) (one_time_key_message : ℕ)
  | matchesInboundSessionFrom (session : olm.Handle) (id_key one_time_key_message : ℕ)
  | ed25519VerifySignature (signing_key : ℕ) (obj : Json) (signature : ℕ)
  | setTheirKey (sas : olm.Handle) (their_public_key : ℕ)

/-- A program without its result. -/
def ignoring (x : Wrapper olm α) : Wrapper olm Unit := do
  let _ ← x
  return ()

/-- What a call does. -/
def Call.run (json : JsonText) : Call olm → Wrapper olm Unit
  | .unpickle kind pickled key => ignoring (Crypto.unpickle kind pickled key)
  | .restoreAccount saved_data key => Wrapper.restoreAccount saved_data key
  | .load data key => Crypto.load data key
  | .decryptGroupMessage session message =>
    ignoring (Wrapper.decryptGroupMessage session message)
  | .decryptMessage session msgtype message =>
    ignoring (Wrapper.decryptMessage session msgtype message)
  | .curve25519AesSha2Decrypt ciphertext privateKey ephemeral mac =>
    ignoring (Wrapper.curve25519AesSha2Decrypt ciphertext privateKey ephemeral mac)
  | .createInboundSessionFromBuffer their_curve25519 message =>
    ignoring (Wrapper.createInboundSessionFromBuffer their_curve25519 message)
  | .createInboundSessionFrom their_curve25519 message =>
    ignoring (Wrapper.createInboundSessionFrom their_curve25519 message)
  | .createInboundSessionBuffer message =>
    ignoring (Wrapper.createInboundSessionBuffer message)
  | .createInboundSession message => ignoring (Wrapper.createInboundSession message)
  | .matchesInboundSession session message =>
    ignoring (Wrapper.matchesInboundSession session message)
  | .matchesInboundSessionFrom session id_key message =>
    ignoring (Wrapper.matchesInboundSessionFrom session id_key message)
  | .ed25519VerifySignature signing_key obj signature =>
    ignoring (Wrapper.ed25519VerifySignature json signing_key obj signature)
  | .setTheirKey sas their_public_key => Wrapper.setTheirKey sas their_public_key

/-- The kind of the object, the pickle and the key of a call that restores an object. -/
def Call.unpickled : Call olm → Option (PickledObject × ℕ × ℕ)
  | .unpickle kind pickled key => some (kind, pickled, key)
  | .restoreAccount saved_data key => some (.account, saved_data, key)
  | .load data key => some (.account, data, key)
  | _ => none

end Mtx.Crypto
