import MtxClient.Crypto.Sas
import MtxClient.Events.DeviceContents
import MtxClient.Http.Accounts

/-!
# Authenticating keys

Two devices that verify each other exchange public keys, compare the numbers that both of them make
of the shared secret, and then each sends a mac for each of its keys, and one for the list of their
ids.  The other one computes the same macs for the keys that it knows.

`macs_agree` says what a device can conclude if they agree: the keys are the same, and so is the
string in which the two devices and the transaction are written, or two of the macs belong to
different texts.  That string has no separators between its parts.
-/

set_option autoImplicit false

namespace Mtx.Crypto

open Str Events.Msg

/-! ## The code -/

/-- libolm with the functions of `OlmSAS` for keys and macs. -/
structure MacOlm extends SasOlm where
  /-- `olm_sas_get_pubkey`. -/
  sasGetPubkey (sas : Sas) : Option Str
  /-- `olm_sas_set_their_key`: the object that has the shared secret. -/
  sasSetTheirKey (sas : Sas) (their_key : Str) : Option Sas
  /-- `olm_sas_calculate_mac`. -/
  sasCalculateMac (sas : Sas) (input info : Str) : Option Str
  /-- `olm_sas_calculate_mac_fixed_base64`. -/
  sasCalculateMacFixedBase64 (sas : Sas) (input info : Str) : Option Str

/-- `if (ret == olm_error()) throw olm_exception(func, …)`. -/
def orThrow {α : Type} (func : String) (ret : Option α) : Except Exn α :=
  match ret with
  | some a => .ok a
  | none => .error (.olmException func)

namespace SAS

def macMethodAlgV1 : Str := "hkdf-hmac-sha256"

def macMethodAlgV2 : Str := "hkdf-hmac-sha256.v2"

variable {olm : MacOlm}

/-- `SAS::public_key`. -/
def publicKey (sas : olm.Sas) : Except Exn Str := orThrow "get_public_key" (olm.sasGetPubkey sas)

/-- `SAS::set_their_key`. -/
def setTheirKey (sas : olm.Sas) (their_public_key : Str) : Except Exn olm.Sas :=
  orThrow "get_public_key" (olm.sasSetTheirKey sas their_public_key)

/-- `SAS::calculate_mac_v`. -/
def calculateMacV (sas : olm.Sas) (input_data info mac_version : Str) : Except Exn Str :=
  if mac_version = macMethodAlgV1 then
    orThrow "calculate_mac" (olm.sasCalculateMac sas input_data info)
  else if mac_version = macMethodAlgV2 then
    orThrow "calculate_mac" (olm.sasCalculateMacFixedBase64 sas input_data info)
  else .error (.olmException "calculate_mac unsupported mac version")

/-- The device that sends the macs and the one that gets them. -/
structure Parties where
  sender : Http.User
  senderDevice : Str
  receiver : Http.User
  receiverDevice : Str
  transactionId : Str

/-- The string that all macs are about. -/
def Parties.info (p : Parties) : Str :=
  lit "MATRIX_KEY_VERIFICATION_MAC" ++ p.sender.id ++ p.senderDevice ++ p.receiver.id ++
    p.receiverDevice ++ p.transactionId

/-- The variables of the loop of `SAS::calculate_mac`. -/
structure MacLoop where
  mac : SortedMap Str Str := SortedMap.empty
  key_list : Str := ""
  first : Bool := true

/-- The body of the loop. -/
def addMac (sas : olm.Sas) (mac_version info : Str) (s : MacLoop) (e : Str × Str) :
    Except Exn MacLoop := do
  let mac ← calculateMacV sas e.2 (info ++ e.1) mac_version
  let key_list := if !s.first then s.key_list ++ lit "," else s.key_list
  return { mac := s.mac.insert e.1 mac, key_list := key_list ++ e.1, first := false }

/-- `SAS::calculate_mac`. -/
def calculateMac (sas : olm.Sas) (mac_version : Str) (p : Parties) (keys : SortedMap Str Str) :
    Except Exn KeyVerificationMac := do
  let s ← keys.entries.foldlM (addMac sas mac_version p.info) {}
  let keys ← calculateMacV sas s.key_list (p.info ++ lit "KEY_IDS") mac_version
  return { mac := s.mac, keys }

/-! ## The macs of a message -/

/-- The ids of the keys, with commas between them. -/
def keyIds (keys : SortedMap Str Str) : Str := (lit ",").intercalate (keys.entries.map Prod.fst)

/-- What the macs of a message are computed from: the list of the ids and the keys, each with the
string that it is about. -/
def macInputs (p : Parties) (keys : SortedMap Str Str) : List (Str × Str) :=
  (keyIds keys, p.info ++ lit "KEY_IDS") :: keys.entries.map fun e ↦ (e.2, p.info ++ e.1)

theorem intercalate_append_cons {α : Type} (sep x y : List α) (l : List (List α)) :
    sep.intercalate ((x ++ sep ++ y) :: l) = sep.intercalate (x :: y :: l) := by
  cases l <;> simp [List.intercalate]

/-- The loop puts a comma before each id but the first. -/
theorem key_list_of_foldlM {sas : olm.Sas} {mac_version info : Str} {entries : List (Str × Str)}
    {s s' : MacLoop} (h : entries.foldlM (addMac sas mac_version info) s = .ok s')
    (hfirst : s.first = true → s.key_list = []) :
    s'.key_list = (lit ",").intercalate
      (if s.first then entries.map Prod.fst else s.key_list :: entries.map Prod.fst) := by
  induction entries generalizing s with
  | nil =>
    rw [← Except.ok.inj h]
    cases hs : s.first with
    | true => exact hfirst hs
    | false => simp [List.intercalate]
  | cons e entries ih =>
    obtain ⟨s₁, hstep, hrest⟩ := bind_eq_ok_iff.mp h
    obtain ⟨m, -, hs₁⟩ := bind_eq_ok_iff.mp hstep
    obtain rfl := Except.ok.inj hs₁
    rw [ih hrest fun hfalse ↦ nomatch hfalse]
    cases hs : s.first with
    | true => simp [hfirst hs]
    | false => exact intercalate_append_cons (lit ",") s.key_list e.1 (entries.map Prod.fst)

/-- The loop leaves a mac for each key. -/
theorem find?_of_foldlM {sas : olm.Sas} {mac_version info : Str} {entries : List (Str × Str)}
    (hsorted : AssocList.Sorted entries) {s s' : MacLoop}
    (h : entries.foldlM (addMac sas mac_version info) s = .ok s') (id : Str) :
    match AssocList.find? id entries with
    | some key => ∃ m, calculateMacV sas key (info ++ id) mac_version = .ok m ∧
      s'.mac.find? id = some m
    | none => s'.mac.find? id = s.mac.find? id := by
  induction entries generalizing s with
  | nil => rw [Except.ok.inj h]; rfl
  | cons e entries ih =>
    obtain ⟨hlt, hsorted⟩ := List.pairwise_cons.mp hsorted
    obtain ⟨s₁, hstep, hrest⟩ := bind_eq_ok_iff.mp h
    obtain ⟨m, hm, hs₁⟩ := bind_eq_ok_iff.mp hstep
    obtain rfl := Except.ok.inj hs₁
    have hind := ih hsorted hrest
    rw [AssocList.find?_cons]
    by_cases hid : e.1 = id
    · subst hid
      have hnone : AssocList.find? e.1 entries = none :=
        AssocList.find?_eq_none_iff.mpr fun e' he' ↦ (hlt e' he').ne'
      rw [hnone] at hind
      rw [if_pos rfl]
      exact ⟨m, hm, by rw [hind, SortedMap.find?_insert, if_pos rfl]⟩
    · rw [if_neg hid]
      rw [SortedMap.find?_insert, if_neg (Ne.symm hid)] at hind
      exact hind

/-! ## What is expected of libolm -/

/-- Two objects that were given the public key of each other. -/
def Paired (a b : olm.Sas) : Prop :=
  ∃ (a₀ b₀ : olm.Sas) (aKey bKey : Str), publicKey a₀ = .ok aKey ∧ publicKey b₀ = .ok bKey ∧
    setTheirKey a₀ bKey = .ok a ∧ setTheirKey b₀ aKey = .ok b

/-- The outputs depend on the secret that both objects share. -/
structure MacLaws (olm : MacOlm) : Prop where
  generateBytes {a b : olm.Sas} (h : Paired a b) (info : Str) (n : ℕ) :
    olm.sasGenerateBytes a info n = olm.sasGenerateBytes b info n
  calculateMac {a b : olm.Sas} (h : Paired a b) (input info : Str) :
    olm.sasCalculateMac a input info = olm.sasCalculateMac b input info
  calculateMacFixedBase64 {a b : olm.Sas} (h : Paired a b) (input info : Str) :
    olm.sasCalculateMacFixedBase64 a input info = olm.sasCalculateMacFixedBase64 b input info

/-- Both devices compute the same mac. -/
theorem MacLaws.calculateMacV_eq (laws : MacLaws olm) {a b : olm.Sas} (h : Paired a b)
    (input info mac_version : Str) :
    calculateMacV a input info mac_version = calculateMacV b input info mac_version := by
  rw [calculateMacV, calculateMacV, laws.calculateMac h, laws.calculateMacFixedBase64 h]

/-! ## Two devices -/

/-- What a device computes depends on the shared secret only. -/
theorem MacLaws.calculateMac_eq (laws : MacLaws olm) {a b : olm.Sas} (h : Paired a b)
    (mac_version : Str) (p : Parties) (keys : SortedMap Str Str) :
    SAS.calculateMac a mac_version p keys = SAS.calculateMac b mac_version p keys := by
  have hadd : addMac a mac_version p.info = addMac b mac_version p.info := by
    funext s e
    rw [addMac, addMac, laws.calculateMacV_eq h]
  rw [SAS.calculateMac, SAS.calculateMac, hadd]
  simp only [laws.calculateMacV_eq h]

/-- Two different inputs, one of each message, have the same mac. -/
def Collision (sas : olm.Sas) (mac_version : Str) (inputs inputs' : List (Str × Str)) : Prop :=
  ∃ x ∈ inputs, ∃ x' ∈ inputs', x ≠ x' ∧ ∃ m,
    calculateMacV sas x.1 x.2 mac_version = .ok m ∧ calculateMacV sas x'.1 x'.2 mac_version = .ok m

/-- Inputs with the same mac are the same, if there is no collision. -/
theorem eq_of_calculateMacV_eq {sas : olm.Sas} {mac_version : Str}
    {inputs inputs' : List (Str × Str)} (hcollision : ¬ Collision sas mac_version inputs inputs')
    {x x' : Str × Str} {m : Str} (hx : x ∈ inputs) (hx' : x' ∈ inputs')
    (h : calculateMacV sas x.1 x.2 mac_version = .ok m)
    (h' : calculateMacV sas x'.1 x'.2 mac_version = .ok m) : x = x' := by
  by_contra hne
  exact hcollision ⟨x, hx, x', hx', hne, m, h, h'⟩

theorem mem_macInputs {p : Parties} {keys : SortedMap Str Str} {id key : Str}
    (h : keys.find? id = some key) : (key, p.info ++ id) ∈ macInputs p keys :=
  List.mem_cons_of_mem _ (List.mem_map.mpr ⟨(id, key), SortedMap.mem_entries_iff.mpr h, rfl⟩)

/-- The macs of a message. -/
theorem macs_of_calculateMac {sas : olm.Sas} {mac_version : Str} {p : Parties}
    {keys : SortedMap Str Str} {req : KeyVerificationMac}
    (h : calculateMac sas mac_version p keys = .ok req) :
    calculateMacV sas (keyIds keys) (p.info ++ lit "KEY_IDS") mac_version = .ok req.keys ∧
      ∀ id, match keys.find? id with
        | some key => ∃ m, calculateMacV sas key (p.info ++ id) mac_version = .ok m ∧
          req.mac.find? id = some m
        | none => req.mac.find? id = none := by
  obtain ⟨s, hs, hkeys⟩ := bind_eq_ok_iff.mp h
  obtain ⟨m, hm, hreq⟩ := bind_eq_ok_iff.mp hkeys
  rw [← Except.ok.inj hreq]
  have hlist := key_list_of_foldlM hs fun _ ↦ rfl
  rw [if_pos rfl] at hlist
  rw [hlist] at hm
  exact ⟨hm, find?_of_foldlM keys.sorted hs⟩

/-- The same object computes the same macs only for the same keys and the same string about the
parties, if there is no collision. -/
theorem eq_of_calculateMac_eq {sas : olm.Sas} {mac_version : Str} {p p' : Parties}
    {keys keys' : SortedMap Str Str} {req : KeyVerificationMac}
    (h : calculateMac sas mac_version p keys = .ok req)
    (h' : calculateMac sas mac_version p' keys' = .ok req)
    (hcollision : ¬ Collision sas mac_version (macInputs p keys) (macInputs p' keys')) :
    keys = keys' ∧ p.info = p'.info := by
  obtain ⟨hids, hmacs⟩ := macs_of_calculateMac h
  obtain ⟨hids', hmacs'⟩ := macs_of_calculateMac h'
  have hlists := eq_of_calculateMacV_eq hcollision List.mem_cons_self List.mem_cons_self hids hids'
  refine ⟨SortedMap.ext fun id ↦ ?_, List.append_cancel_right (Prod.mk.inj hlists).2⟩
  have hmac := hmacs id
  have hmac' := hmacs' id
  cases hkey : keys.find? id with
  | none =>
    rw [hkey] at hmac
    cases hkey' : keys'.find? id with
    | none => rfl
    | some key' =>
      rw [hkey'] at hmac'
      obtain ⟨_, -, hsome⟩ := hmac'
      cases (show req.mac.find? id = none from hmac).symm.trans hsome
  | some key =>
    rw [hkey] at hmac
    obtain ⟨m, hm, hsome⟩ := hmac
    cases hkey' : keys'.find? id with
    | none =>
      rw [hkey'] at hmac'
      cases (show req.mac.find? id = none from hmac').symm.trans hsome
    | some key' =>
      rw [hkey'] at hmac'
      obtain ⟨m', hm', hsome'⟩ := hmac'
      obtain rfl := Option.some.inj (hsome.symm.trans hsome')
      have hinputs :=
        eq_of_calculateMacV_eq hcollision (mem_macInputs hkey) (mem_macInputs hkey') hm hm'
      rw [(Prod.mk.inj hinputs).1]

/-- What is sent is what is read. -/
theorem toJson_fromJson_of_calculateMac {a : olm.Sas} {mac_version : Str} {p : Parties}
    {keys : SortedMap Str Str} {req : KeyVerificationMac}
    (h : SAS.calculateMac a mac_version p keys = .ok req) :
    req.toJson >>= KeyVerificationMac.fromJson = .ok req := by
  obtain ⟨s, -, hkeys⟩ := bind_eq_ok_iff.mp h
  obtain ⟨m, -, hreq⟩ := bind_eq_ok_iff.mp hkeys
  obtain rfl := Except.ok.inj hreq
  exact KeyVerificationMac.toJson_fromJson
    ⟨rfl, fun r hr ↦ (List.not_mem_nil hr).elim, fun r hr ↦ (List.not_mem_nil hr).elim⟩

/-- **Two devices that exchanged their keys show the same numbers, and the macs that one of them
sends are those that the other one computes if they are about the same keys**, between parties that
are written in the same way; and only then, unless two of the macs belong to different inputs. -/
theorem macs_agree (olm : MacOlm) (laws : MacLaws olm) (a b : olm.Sas) (h : Paired a b)
    (info : Str) (mac_version : Str) (p p' : Parties) (keys keys' : SortedMap Str Str)
    (sent computed : KeyVerificationMac)
    (hsent : SAS.calculateMac a mac_version p keys = .ok sent)
    (hcomputed : SAS.calculateMac b mac_version p' keys' = .ok computed) :
    @generateBytesDecimal olm.toSasOlm a info = @generateBytesDecimal olm.toSasOlm b info ∧
      @generateBytesEmoji olm.toSasOlm a info = @generateBytesEmoji olm.toSasOlm b info ∧
      (keys = keys' → p.info = p'.info →
        sent.toJson >>= KeyVerificationMac.fromJson = .ok computed) ∧
      (sent.toJson >>= KeyVerificationMac.fromJson = .ok computed →
        (keys = keys' ∧ p.info = p'.info) ∨
          Collision a mac_version (macInputs p keys) (macInputs p' keys')) := by
  rw [toJson_fromJson_of_calculateMac hsent]
  rw [← laws.calculateMac_eq h] at hcomputed
  refine ⟨?_, ?_, ?_, ?_⟩
  · rw [generateBytesDecimal, generateBytesDecimal, laws.generateBytes h]
  · rw [generateBytesEmoji, generateBytesEmoji, laws.generateBytes h]
  · rintro rfl hinfo
    rw [SAS.calculateMac, hinfo] at hsent
    exact hsent.symm.trans hcomputed
  · intro heq
    rw [Except.ok.inj heq] at hsent
    by_cases hcollision : Collision a mac_version (macInputs p keys) (macInputs p' keys')
    · exact .inr hcollision
    · exact .inl (eq_of_calculateMac_eq hsent hcomputed hcollision)

/-! ## An example -/

/-- A mac of one letter, which depends on the places of the bytes. -/
def sampleMac (input info : Str) : Str :=
  [((lit "A").headD 0) + ((input ++ info).foldl (fun h b ↦ 5 * h + b) 0) % 26]

/-- A stand-in for libolm in which there is only one secret. -/
def sampleMacOlm : MacOlm :=
  { sampleSasOlm with
    sasGetPubkey := fun _ ↦ some "key"
    sasSetTheirKey := fun _ _ ↦ some ()
    sasCalculateMac := fun _ input info ↦ some (sampleMac input info)
    sasCalculateMacFixedBase64 := fun _ input info ↦ some (sampleMac input info) }

theorem laws_sampleMacOlm : MacLaws sampleMacOlm where
  generateBytes _ _ _ := rfl
  calculateMac _ _ _ := rfl
  calculateMacFixedBase64 _ _ _ := rfl

/-- What Alice's device sends to Bob's. -/
def sampleParties (receiverDevice transactionId : Str) : Parties where
  sender := { id := "@a:x" }
  senderDevice := "A"
  receiver := { id := "@b:x" }
  receiverDevice
  transactionId

/-- A key of Alice's device. -/
def sampleKey (key : Str) : SortedMap Str Str := SortedMap.empty.insert (lit "ed25519:A") key

/-- A device that knows another key does not accept the macs. -/
theorem macs_agree_sample :
    ∃ sent computed,
      @SAS.calculateMac sampleMacOlm () macMethodAlgV2 (sampleParties "B" "t")
        (sampleKey "k") = .ok sent ∧
      @SAS.calculateMac sampleMacOlm () macMethodAlgV2 (sampleParties "B" "t")
        (sampleKey "l") = .ok computed ∧
      sent.toJson >>= KeyVerificationMac.fromJson ≠ .ok computed := by
  obtain ⟨sent, hsent⟩ : ∃ sent, @SAS.calculateMac sampleMacOlm () macMethodAlgV2
      (sampleParties "B" "t") (sampleKey "k") = .ok sent := ⟨_, rfl⟩
  obtain ⟨computed, hcomputed⟩ : ∃ computed, @SAS.calculateMac sampleMacOlm () macMethodAlgV2
      (sampleParties "B" "t") (sampleKey "l") = .ok computed := ⟨_, rfl⟩
  refine ⟨sent, computed, hsent, hcomputed, fun h ↦ ?_⟩
  have hpaired : @Paired sampleMacOlm () () := ⟨(), (), lit "key", lit "key", rfl, rfl, rfl, rfl⟩
  rcases (macs_agree sampleMacOlm laws_sampleMacOlm () () hpaired "" _ _ _ _ _ _ _ hsent
    hcomputed).2.2.2 h with ⟨hkeys, -⟩ | ⟨x, hx, x', hx', hne, m, hm, hm'⟩
  · exact absurd (congrArg (fun keys ↦ keys.find? (lit "ed25519:A")) hkeys) (by decide)
  · have hnone : ∀ x ∈ macInputs (sampleParties "B" "t") (sampleKey "k"),
        ∀ x' ∈ macInputs (sampleParties "B" "t") (sampleKey "l"), x ≠ x' →
          sampleMac x.1 x.2 ≠ sampleMac x'.1 x'.2 := by decide +kernel
    exact hnone x hx x' hx' hne (Except.ok.inj (hm.trans hm'.symm))

/-- A device and a transaction that are written in the same way are not told apart. -/
example : (sampleParties "B" "Ct").info = (sampleParties "BC" "t").info := by decide

end SAS

end Mtx.Crypto
