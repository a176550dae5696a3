import MtxClient.Crypto.SecretStorage

/-!
# Which recovery keys are accepted

`key_from_recoverykey` checks the prefix and the parity of the bytes that it decodes, and the key
against its description.  It does not encode the key again to compare the texts, so that all depends
on the decoder: a text that decodes to the bytes of another one is accepted like that one.

There are such texts.  `decode_base58` compares the byte of the text with `0xff`, which is how its
table marks the bytes that are no letters, instead of the entry of the table; so each of those
counts as a digit 255.  And it only looks for ones at the start of the text, so that they do not
count behind a space.
-/

set_option autoImplicit false

namespace Mtx.Crypto

open Str

/-! ## What is accepted -/

/-- The bytes have the length, the prefix and the parity of a recovery key. -/
def Framed (tempKey : Str) : Prop :=
  3 ≤ tempKey.length ∧ tempKey.getD 0 0 = 0x8b ∧ tempKey.getD 1 0 = 0x01 ∧
    tempKey.dropLast.foldl (· ^^^ ·) 0 = tempKey.getLastD 0

instance decidableFramed (tempKey : Str) : Decidable (Framed tempKey) :=
  inferInstanceAs (Decidable (_ ∧ _ ∧ _ ∧ _))

/-- The two checks of `key_from_recoverykey` in one. -/
theorem ite_framed {α : Type} (tempKey : Str) (x y : α) :
    (if tempKey.length < 3 ∨ tempKey.getD 0 0 ≠ 0x8b ∨ tempKey.getD 1 0 ≠ 0x01 then x
      else if tempKey.dropLast.foldl (· ^^^ ·) 0 ≠ tempKey.getLastD 0 then x else y) =
      if Framed tempKey then y else x := by
  split_ifs with hmarks hframed hparity hframed hframed
  · rcases hmarks with h | h | h
    · exact absurd hframed.1 (not_le.mpr h)
    · exact absurd hframed.2.1 h
    · exact absurd hframed.2.2.1 h
  · rfl
  · exact absurd hframed.2.2.2 hparity
  · rfl
  · rfl
  · rw [not_or, not_or, not_lt, not_not, not_not] at hmarks
    exact (hframed ⟨hmarks.1, hmarks.2.1, hmarks.2.2, not_not.mp hparity⟩).elim

/-- The key between the prefix and the parity. -/
def framedKey (tempKey : Str) : Str := tempKey.dropLast.drop 2

theorem framed_iff {tempKey : Str} : Framed tempKey ↔
    ∃ key : Str, tempKey = 0x8b :: 0x01 :: key ++ [key.foldl (· ^^^ ·) (0x8b ^^^ 0x01)] := by
  constructor
  · rintro ⟨hlength, h0, h1, hparity⟩
    rcases tempKey.eq_nil_or_concat' with rfl | ⟨front, last, rfl⟩
    · cases hlength
    · rw [List.dropLast_concat, List.getLastD_concat] at hparity
      rcases front with - | ⟨a, - | ⟨b, key⟩⟩
      · simp at hlength
      · simp at hlength
      · obtain rfl : a = 0x8b := h0
        obtain rfl : b = 0x01 := h1
        exact ⟨key, by rw [← hparity, foldl_xor_prefix]⟩
  · rintro ⟨key, rfl⟩
    refine ⟨?_, rfl, rfl, ?_⟩
    · rw [List.length_append, List.length_cons, List.length_cons, List.length_singleton]
      omega
    · rw [List.dropLast_concat, List.getLastD_concat, foldl_xor_prefix]

theorem framedKey_append (key : Str) (parity : UInt8) :
    framedKey (0x8b :: 0x01 :: key ++ [parity]) = key := by
  rw [framedKey, List.dropLast_concat]
  rfl

/-- The recovery key of the key between prefix and parity. -/
theorem keyToRecoverykey_framedKey {tempKey : Str} (h : Framed tempKey) :
    keyToRecoverykey (framedKey tempKey) = bin2base58 tempKey := by
  obtain ⟨key, rfl⟩ := framed_iff.mp h
  rw [framedKey_append]
  rfl

/-- A recovery key has no leading zero byte. -/
theorem Framed.head?_ne {tempKey : Str} (h : Framed tempKey) :
    tempKey ≠ [] ∧ tempKey.head? ≠ some 0 := by
  obtain ⟨key, rfl⟩ := framed_iff.mp h
  exact ⟨List.cons_ne_nil _ _, by simp⟩

variable {openssl : Openssl}

/-- What it takes that `key_from_recoverykey` returns a key. -/
theorem keyFromRecoverykey_eq_some_iff {recoverykey key : Str}
    {parameters : AesHmacSha2KeyDescription} :
    keyFromRecoverykey openssl recoverykey parameters = .ok (some key) ↔
      Framed (base582bin recoverykey) ∧ framedKey (base582bin recoverykey) = key ∧
        checkKey openssl parameters key = .ok true := by
  rw [keyFromRecoverykey]
  dsimp only
  rw [ite_framed, framedKey]
  split_ifs with hframed
  · rw [bind_eq_ok_iff, and_iff_right hframed]
    constructor
    · rintro ⟨ok, hcheck, h⟩
      cases ok with
      | false => cases h
      | true =>
        obtain rfl := Option.some.inj (Except.ok.inj h)
        exact ⟨rfl, hcheck⟩
    · rintro ⟨rfl, hcheck⟩
      exact ⟨true, hcheck, rfl⟩
  · refine iff_of_false (fun h ↦ by cases h) ?_
    rintro ⟨h, -⟩
    exact hframed h

/-- What it takes that the behaviour of `key_from_recoverykey` is undefined. -/
theorem undefined_keyFromRecoverykey_iff {recoverykey : Str}
    {parameters : AesHmacSha2KeyDescription} :
    Undefined (keyFromRecoverykey openssl recoverykey parameters) ↔
      Framed (base582bin recoverykey) ∧
        Undefined (checkKey openssl parameters (framedKey (base582bin recoverykey))) := by
  rw [keyFromRecoverykey]
  dsimp only
  rw [ite_framed, framedKey]
  split_ifs with hframed
  · rw [and_iff_right hframed, undefined_bind_iff_of_defined]
    intro ok
    cases ok
    · exact not_undefined_pure _
    · exact not_undefined_pure _
  · exact iff_of_false (not_undefined_pure _) fun h ↦ hframed h.1

/-! ## When only genuine keys are accepted -/

/-- A key is only returned for its own recovery key, up to spaces, and if it fits the
description.  Where the behaviour is undefined any key may be returned. -/
def Genuine (openssl : Openssl) (recoverykey : Str) (parameters : AesHmacSha2KeyDescription) :
    Prop :=
  ¬ Undefined (keyFromRecoverykey openssl recoverykey parameters) ∧
  ∀ key, keyFromRecoverykey openssl recoverykey parameters = .ok (some key) →
    recoverykey.filter (· != ' '.toUInt8) = keyToRecoverykey key ∧
      checkKey openssl parameters key = .ok true

/-- Apart from spaces, the text consists of base58 letters and does not start with `1`. -/
def InBase58 (text : Str) : Prop :=
  (∀ b ∈ text.filter (· != ' '.toUInt8), b ∈ base58Alphabet) ∧
    (text.filter (· != ' '.toUInt8)).head? ≠ some '1'.toUInt8

/-- A recovery key is written in base58. -/
theorem inBase58_of_filter_eq {text bin : Str} (hne : bin ≠ []) (hhead : bin.head? ≠ some 0)
    (h : text.filter (· != ' '.toUInt8) = bin2base58 bin) : InBase58 text := by
  rw [InBase58, h, bin2base58_eq hne hhead]
  constructor
  · intro b hb
    obtain ⟨d, hd, rfl⟩ := List.mem_map.mp hb
    exact letter58_mem (Nat.digits_lt_base (by decide) (List.mem_reverse.mp hd))
  · intro h0
    rw [List.head?_map] at h0
    obtain ⟨d, hd, h1⟩ := Option.map_eq_some_iff.mp h0
    have hmem := List.mem_reverse.mp (List.mem_of_head? hd)
    have hlt : d < 58 := Nat.digits_lt_base (by decide) hmem
    rw [eq_zero_of_letter58 hlt h1] at hd
    exact Radix.head?_reverse_digits_ne _ _ hd

/-- **Only genuine recovery keys are accepted exactly if what the text decodes to is no key**, or
the check of that key is defined and refuses it, unless the text is written in base58. -/
theorem genuine_iff (openssl : Openssl) (recoverykey : Str)
    (parameters : AesHmacSha2KeyDescription) :
    Genuine openssl recoverykey parameters ↔ ¬ Framed (base582bin recoverykey) ∨
      ¬ Undefined (checkKey openssl parameters (framedKey (base582bin recoverykey))) ∧
        (InBase58 recoverykey ∨
          checkKey openssl parameters (framedKey (base582bin recoverykey)) ≠ .ok true) := by
  constructor
  · rintro ⟨hdefined, h⟩
    refine or_iff_not_imp_left.mpr fun hframed ↦ ?_
    rw [not_not] at hframed
    rw [undefined_keyFromRecoverykey_iff, and_iff_right hframed] at hdefined
    refine ⟨hdefined, or_iff_not_imp_right.mpr fun hcheck ↦ ?_⟩
    obtain ⟨htext, -⟩ :=
      h _ (keyFromRecoverykey_eq_some_iff.mpr ⟨hframed, rfl, not_not.mp hcheck⟩)
    rw [keyToRecoverykey_framedKey hframed] at htext
    exact inBase58_of_filter_eq hframed.head?_ne.1 hframed.head?_ne.2 htext
  · intro h
    constructor
    · intro hundefined
      obtain ⟨hframed, hcheck⟩ := undefined_keyFromRecoverykey_iff.mp hundefined
      exact (h.resolve_left (not_not.mpr hframed)).1 hcheck
    · intro key hkey
      obtain ⟨hframed, rfl, hcheck⟩ := keyFromRecoverykey_eq_some_iff.mp hkey
      have htext := (h.resolve_left (not_not.mpr hframed)).2
      obtain ⟨hletters, hone⟩ := htext.resolve_right (not_not.mpr hcheck)
      rw [keyToRecoverykey_framedKey hframed, bin2base58_base582bin hletters hone]
      exact ⟨rfl, hcheck⟩

/-! ## Examples -/

/-- The key that is derived from the passphrase `secret`. -/
def secretKey : Str := base642bin "kfjkV/Np1Vmzm1p6eQwdFixz71fGbykp7Xyb+rkN/HA="

/-- Its description. -/
def secretDescription : AesHmacSha2KeyDescription where
  name := ""
  algorithm := "m.secret_storage.v1.aes-hmac-sha2"
  passphrase := none
  iv := "AQEBAQEBAQEBAQEBAQEBAQ=="
  mac := "K6KjMWLjddL4sbYMiZk/qqzrD7NTOQSvz64GpuHEIGY="

theorem checkKey_secretDescription :
    checkKey onesOpenssl secretDescription secretKey = .ok true := by
  decide +kernel

/-- Its recovery key, with `g0` where that has `kQ`. -/
def foreignRecoverykey : Str := "EsTkLiqinLCMED8WmNYfrSmg02k4uswRBJBtQVyKejiRAuNV"

/-- Its recovery key behind a space and a `1`. -/
def longRecoverykey : Str := " 1EsTkLiqinLCMED8WmNYfrSmkQ2k4uswRBJBtQVyKejiRAuNV"

theorem base582bin_sampleRecoverykeys :
    base582bin foreignRecoverykey = 0x8b :: 0x01 :: secretKey ++ [0xb6] ∧
      base582bin longRecoverykey = 0x8b :: 0x01 :: secretKey ++ [0xb6] := by
  decide +kernel

/-- **Both are accepted although neither is the recovery key.** -/
theorem not_genuine_sampleRecoverykeys :
    keyFromRecoverykey onesOpenssl foreignRecoverykey secretDescription = .ok (some secretKey) ∧
      ¬ Genuine onesOpenssl foreignRecoverykey secretDescription ∧
    keyFromRecoverykey onesOpenssl longRecoverykey secretDescription = .ok (some secretKey) ∧
      ¬ Genuine onesOpenssl longRecoverykey secretDescription := by
  have hframed : Framed (0x8b :: 0x01 :: secretKey ++ [0xb6]) :=
    framed_iff.mpr ⟨secretKey, by decide +kernel⟩
  have hkey : ∀ text, base582bin text = 0x8b :: 0x01 :: secretKey ++ [0xb6] →
      keyFromRecoverykey onesOpenssl text secretDescription = .ok (some secretKey) := by
    intro text htext
    rw [keyFromRecoverykey_eq_some_iff, htext]
    exact ⟨hframed, framedKey_append _ _, checkKey_secretDescription⟩
  have hforeign := hkey _ base582bin_sampleRecoverykeys.1
  have hlong := hkey _ base582bin_sampleRecoverykeys.2
  refine ⟨hforeign, fun h ↦ ?_, hlong, fun h ↦ ?_⟩
  · exact absurd (h.2 _ hforeign).1 (by decide +kernel)
  · exact absurd (h.2 _ hlong).1 (by decide +kernel)

end Mtx.Crypto
