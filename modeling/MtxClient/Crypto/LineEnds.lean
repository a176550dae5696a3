import MtxClient.Crypto.KeyExport

/-!
# Key files with other line ends

A key file that went through a system with other line ends has `\r\n` where it had `\n`.
`unpack_key_file` removes the `\n`, and the first `\r` that is left ends the base64 text.

`lineEnds_iff` says for which files that makes no difference: the base64 text has to end in its
first line, or it has to be refused either way.
-/

set_option autoImplicit false

namespace Mtx.Crypto

open Str

/-! ## Other line ends -/

/-- The text with `\r\n` for every `\n`. -/
def crlf (s : Str) : Str :=
  s.flatMap fun b ↦ if b = '\n'.toUInt8 then ['\r'.toUInt8, '\n'.toUInt8] else [b]

theorem crlf_append (s t : Str) : crlf (s ++ t) = crlf s ++ crlf t := List.flatMap_append

theorem crlf_cons_lf (s : Str) :
    crlf ('\n'.toUInt8 :: s) = '\r'.toUInt8 :: '\n'.toUInt8 :: crlf s := rfl

theorem crlf_cons {b : UInt8} (h : b ≠ '\n'.toUInt8) (s : Str) : crlf (b :: s) = b :: crlf s := by
  rw [crlf, List.flatMap_cons, if_neg h]
  rfl

/-- A text without line ends. -/
structure SingleLine (p : Str) : Prop where
  lf : '\n'.toUInt8 ∉ p
  cr : '\r'.toUInt8 ∉ p

theorem crlf_of_singleLine {p : Str} (hp : SingleLine p) : crlf p = p := by
  obtain ⟨hlf, -⟩ := hp
  induction p with
  | nil => rfl
  | cons b p ih =>
    rw [List.mem_cons, not_or] at hlf
    rw [crlf_cons (Ne.symm hlf.1), ih hlf.2]

/-! ## Removing lines commutes with it -/

section

variable {p : Str} (hp : SingleLine p)

include hp

theorem isPrefixOf_crlf (s : Str) : p.isPrefixOf (crlf s) = p.isPrefixOf s := by
  induction p generalizing s with
  | nil => rfl
  | cons c p ih =>
    obtain ⟨hlf, hcr⟩ := hp
    rw [List.mem_cons, not_or] at hlf hcr
    rcases s with - | ⟨b, s⟩
    · rfl
    · by_cases hb : b = '\n'.toUInt8
      · subst hb
        rw [crlf_cons_lf, List.isPrefixOf, List.isPrefixOf, beq_eq_false_iff_ne.mpr (Ne.symm hcr.1),
          beq_eq_false_iff_ne.mpr (Ne.symm hlf.1)]
        rfl
      · rw [crlf_cons hb, List.isPrefixOf, List.isPrefixOf, ih ⟨hlf.2, hcr.2⟩]

/-- What is found is where it was. -/
theorem indexOf?_crlf (hne : p ≠ []) (s : Str) :
    indexOf? p (crlf s) = (indexOf? p s).map fun i ↦ (crlf (s.take i)).length := by
  have hstart : ∀ {b : UInt8} (s : Str), b ∉ p → p.isPrefixOf (b :: s) = false := by
    intro b s hb
    obtain ⟨c, p, rfl⟩ := List.exists_cons_of_ne_nil hne
    rw [List.mem_cons, not_or] at hb
    rw [List.isPrefixOf, beq_eq_false_iff_ne.mpr (Ne.symm hb.1)]
    rfl
  induction s with
  | nil =>
    rw [crlf, List.flatMap_nil, indexOf?, if_neg (by simpa using hne)]
    rfl
  | cons b s ih =>
    by_cases hb : b = '\n'.toUInt8
    · subst hb
      rw [crlf_cons_lf, indexOf?, hstart _ hp.cr, if_neg Bool.false_ne_true, indexOf?,
        hstart _ hp.lf, if_neg Bool.false_ne_true, ih, indexOf?, hstart _ hp.lf,
        if_neg Bool.false_ne_true, Option.map_map, Option.map_map, Option.map_map]
      rfl
    · have hprefix := isPrefixOf_crlf hp (b :: s)
      rw [crlf_cons hb] at hprefix ⊢
      rw [indexOf?, indexOf?, hprefix]
      split_ifs with h
      · rfl
      · rw [ih, Option.map_map, Option.map_map]
        congr 1
        funext i
        rw [Function.comp_apply, Function.comp_apply, List.take_succ_cons, crlf_cons hb,
          List.length_cons]

omit hp in
/-- What is found stands there. -/
theorem drop_of_indexOf? {s : Str} {i : ℕ} (h : indexOf? p s = some i) :
    s.drop i = p ++ s.drop (i + p.length) := by
  have hprefix : p <+: s.drop i := by
    induction s generalizing i with
    | nil =>
      rw [indexOf?] at h
      split_ifs at h with hp
      rw [List.isEmpty_iff.mp hp]
      exact List.nil_prefix
    | cons b s ih =>
      rw [indexOf?] at h
      split_ifs at h with hp
      · rw [← Option.some.inj h]
        exact List.isPrefixOf_iff_prefix.mp hp
      · obtain ⟨j, hj, rfl⟩ := Option.map_eq_some_iff.mp h
        exact ih hj
  obtain ⟨rest, hrest⟩ := hprefix
  rw [← List.drop_drop, ← hrest, List.drop_left]

theorem removeLoop_crlf (hne : p ≠ []) (fuel : ℕ) (s : Str) :
    removeLoop p fuel (crlf s) = crlf (removeLoop p fuel s) := by
  induction fuel generalizing s with
  | zero => rfl
  | succ fuel ih =>
    rw [removeLoop, removeLoop, indexOf?_crlf hp hne]
    rcases hi : indexOf? p s with - | i
    · rfl
    · have hsplit : crlf s =
          crlf (s.take i) ++ (p ++ crlf (s.drop (i + p.length))) := by
        conv_lhs => rw [← List.take_append_drop i s, drop_of_indexOf? hi]
        rw [crlf_append, crlf_append, crlf_of_singleLine hp]
      have hcut : (crlf s).take (crlf (s.take i)).length ++
          (crlf s).drop ((crlf (s.take i)).length + p.length) =
            crlf (s.take i ++ s.drop (i + p.length)) := by
        rw [hsplit, List.take_left, ← List.drop_drop, List.drop_left, List.drop_left, crlf_append]
      rw [Option.map_some]
      dsimp only
      rw [hcut, ih]

end

theorem removeLoop_add (p : Str) (m n : ℕ) (s : Str) :
    removeLoop p (m + n) s = removeLoop p n (removeLoop p m s) := by
  induction m generalizing s with
  | zero => rw [Nat.zero_add, removeLoop]
  | succ m ih =>
    rw [Nat.succ_add, removeLoop, removeLoop]
    rcases hi : indexOf? p s with - | i
    · dsimp only
      rcases n with - | n
      · rfl
      · rw [removeLoop, hi]
    · exact ih _

/-- More rounds than there are bytes make no difference. -/
theorem removeLoop_of_le {p : Str} (hne : p ≠ []) {fuel : ℕ} {s : Str} (h : s.length ≤ fuel) :
    removeLoop p fuel s = removeSubstrs s p := by
  obtain ⟨n, rfl⟩ := Nat.exists_eq_add_of_le h
  rw [removeLoop_add, ← removeSubstrs]
  have hnone := indexOf?_removeSubstrs s hne
  rcases n with - | n
  · rfl
  · rw [removeLoop, hnone]

theorem length_le_length_crlf (s : Str) : s.length ≤ (crlf s).length := by
  induction s with
  | nil => exact Nat.le_refl 0
  | cons b s ih =>
    by_cases hb : b = '\n'.toUInt8
    · subst hb
      rw [crlf_cons_lf, List.length_cons, List.length_cons, List.length_cons]
      omega
    · rw [crlf_cons hb, List.length_cons, List.length_cons]
      omega

/-- **A line is removed from a text with other line ends** as it is from the text itself. -/
theorem removeSubstrs_crlf {p : Str} (hp : SingleLine p) (hne : p ≠ []) (s : Str) :
    removeSubstrs (crlf s) p = crlf (removeSubstrs s p) := by
  rw [removeSubstrs, removeLoop_crlf hp hne, removeLoop_of_le hne (length_le_length_crlf s)]

/-! ## What is decoded -/

/-- A key file without its header and trailer lines. -/
def stripped (data : Str) : Str := removeSubstrs (removeSubstrs data headerLine) trailerLine

/-- A text up to its first line end, which is `\r`. -/
def firstLine (s : Str) : Str :=
  s.takeWhile (· != '\n'.toUInt8) ++ if s.contains '\n'.toUInt8 then ['\r'.toUInt8] else []

theorem firstLine_cons {b : UInt8} (h : b ≠ '\n'.toUInt8) (s : Str) :
    firstLine (b :: s) = b :: firstLine s := by
  have hne : (b != '\n'.toUInt8) = true := bne_iff_ne.mpr h
  rw [firstLine, List.takeWhile_cons, hne, if_pos rfl, firstLine, List.cons_append]
  simp [Ne.symm h]

theorem unpackKeyFile_eq (data : Str) :
    unpackKeyFile data = (stripped data).filter (· != '\n'.toUInt8) :=
  removeSubstrs_singleton _ _

theorem unpackKeyFile_crlf (data : Str) :
    unpackKeyFile (crlf data) = (crlf (stripped data)).filter (· != '\n'.toUInt8) := by
  have hheader : SingleLine headerLine := ⟨by decide, by decide⟩
  have htrailer : SingleLine trailerLine := ⟨by decide, by decide⟩
  rw [unpackKeyFile_eq, stripped, removeSubstrs_crlf hheader (List.cons_ne_nil _ _),
    removeSubstrs_crlf htrailer (List.cons_ne_nil _ _), stripped]

/-- The decoder stops at the first `\r`. -/
theorem decodeLoop_crlf (state : DecodeState) (s : Str) :
    decodeLoop base64Alphabet state ((crlf s).filter (· != '\n'.toUInt8)) =
      decodeLoop base64Alphabet state (firstLine s) := by
  have hcr : base64Alphabet.invert '\r'.toUInt8 > 64 ∧ '\r'.toUInt8 ≠ '='.toUInt8 := by decide
  induction s generalizing state with
  | nil => rfl
  | cons b s ih =>
    by_cases hb : b = '\n'.toUInt8
    · subst hb
      have hline : firstLine ('\n'.toUInt8 :: s) = ['\r'.toUInt8] := by simp [firstLine]
      rw [crlf_cons_lf, List.filter_cons_of_pos (by decide), hline, decodeLoop, if_neg hcr.2,
        if_pos hcr.1, decodeLoop, if_neg hcr.2, if_pos hcr.1]
    · have hne : (b != '\n'.toUInt8) = true := bne_iff_ne.mpr hb
      rw [crlf_cons hb, List.filter_cons, hne, if_pos rfl, firstLine_cons hb]
      rw [decodeLoop, decodeLoop, ih]

/-- **Of a file with other line ends only the first line is decoded.** -/
theorem base642bin_unpackKeyFile_crlf (data : Str) :
    base642bin (unpackKeyFile (crlf data)) = base642bin (firstLine (stripped data)) := by
  rw [unpackKeyFile_crlf, base642bin, decodeBase64, decodeLoop_crlf, base642bin, decodeBase64]

/-! ## Opening the bytes -/

/-- The bytes have the parts of a key file. -/
structure Openable (bytes : Str) : Prop where
  head : bytes.head? = some 0x01
  long : 71 ≤ bytes.length

/-- The parts that a file is read as. -/
structure PartsOf (bytes : Str) (file : KeyFile) : Prop where
  head : bytes.head? = some 0x01
  long : 71 ≤ bytes.length
  parts : file.signed ++ file.hmac = bytes
  iv : file.iv.length = 16
  json : file.json.length = bytes.length - 69
  hmac : file.hmac.length = 32

theorem partsOf_of_readKeyFile {data : Str} {file : KeyFile} (h : readKeyFile data = .ok file) :
    PartsOf (base642bin (unpackKeyFile data)) file := by
  simp only [readKeyFile, bind_eq_ok_iff, throwIf_eq_ok_iff, not_not] at h
  obtain ⟨_, hlength, _, hhead, h⟩ := h
  obtain rfl := Except.ok.inj h
  refine ⟨hhead, by omega, List.take_append_drop _ _, ?_, ?_, ?_⟩
  all_goals
    simp only [List.length_take, List.length_drop]
    omega

theorem exists_readKeyFile {data : Str} (h : Openable (base642bin (unpackKeyFile data))) :
    ∃ file, readKeyFile data = .ok file := by
  have hlong := h.long
  rw [readKeyFile]
  dsimp only
  rw [throwIf_of_not (by omega), ok_bind, throwIf_of_not (not_not.mpr h.head)]
  exact ⟨_, rfl⟩

variable (openssl : Openssl) (json : JsonText)

/-- Files that are decoded to the same bytes have the same sessions. -/
theorem decryptExportedSessions_congr {data data' : Str} (pass : Str)
    (h : base642bin (unpackKeyFile data) = base642bin (unpackKeyFile data')) :
    decryptExportedSessions openssl json data pass =
      decryptExportedSessions openssl json data' pass := by
  rw [decryptExportedSessions, decryptExportedSessions, readKeyFile, readKeyFile, h]

/-- What cannot be opened is refused. -/
theorem throws_decryptExportedSessions {data : Str} (pass : Str)
    (h : ¬ Openable (base642bin (unpackKeyFile data))) :
    Throws (decryptExportedSessions openssl json data pass) := by
  have hbytes : (base642bin (unpackKeyFile data)).length < 71 ∨
      (base642bin (unpackKeyFile data)).head? ≠ some 0x01 := by
    by_contra hboth
    rw [not_or, not_lt, not_not] at hboth
    exact h ⟨hboth.2, hboth.1⟩
  obtain ⟨what, hrefused⟩ := refuses openssl json data pass (hbytes.imp_right Or.inl)
  exact ⟨_, hrefused, nofun⟩

/-! ## Telling files apart -/

/-- A stand-in for OpenSSL that gives the bytes `signed` the HMAC `hmac` and all others a different
one than `other`. -/
def accepting (signed hmac other : Str) : Openssl where
  pbkdf2 _ _ _ keylen := List.replicate keylen 0
  length_pbkdf2 _ _ _ _ := List.length_replicate
  hmac _ data := (if data = signed then hmac else other.map (· + 1)).takeD 32 0
  hkdf _ _ _ := .error "EVP_PKEY_derive"
  aesCtr text _ _ := text

theorem laws_accepting (signed hmac other : Str) : (accepting signed hmac other).Laws where
  aesCtr_aesCtr _ _ _ := rfl
  length_aesCtr _ _ _ := rfl
  length_hmac _ _ := List.takeD_length _ _ _

/-- A parser that reads every text as the same value. -/
def constantText (j : Json) : JsonText where
  text _ := []
  parse _ := .ok j

theorem map_add_one_ne {s : Str} (h : s ≠ []) : s.map (· + 1) ≠ s := by
  obtain ⟨b, s, rfl⟩ := List.exists_cons_of_ne_nil h
  intro hsame
  have hb : b + 1 = b := (List.cons.inj hsame).1
  have hb' := congrArg (· - b) hb
  simp [UInt8.add_comm b 1] at hb'

/-- **A file that can be opened is told from one that is decoded to other bytes** by an OpenSSL that
has authenticated the first. -/
theorem exists_telling {data data' : Str} (h : Openable (base642bin (unpackKeyFile data)))
    (hne : base642bin (unpackKeyFile data') ≠ base642bin (unpackKeyFile data)) :
    ∃ (openssl : Openssl) (json : JsonText), openssl.Laws ∧ ∀ pass,
      ¬ Throws (decryptExportedSessions openssl json data pass) ∧
        Throws (decryptExportedSessions openssl json data' pass) := by
  obtain ⟨file, hfile⟩ := exists_readKeyFile h
  have hparts := partsOf_of_readKeyFile hfile
  have haccepts : ∀ (other pass : Str), ¬ Throws (decryptExportedSessions
      (accepting file.signed file.hmac other) (constantText (.array [])) data pass) := by
    intro other pass
    have hmac : (accepting file.signed file.hmac other).hmac
        (((pbkdf2HmacSha512 (accepting file.signed file.hmac other) pass file.salt
          file.rounds 64).drop 32).take 32) file.signed = file.hmac := by
      show List.takeD 32 (if file.signed = file.signed then file.hmac else _) 0 = file.hmac
      rw [if_pos rfl, List.takeD_eq_take _ hparts.hmac.ge, List.take_of_length_le hparts.hmac.le]
    rw [decryptExportedSessions, hfile, ok_bind, openKeyFile]
    rw [throwIf_of_not (not_not.mpr hmac), ok_bind, not_throws_iff]
    -- a length that is cast to a negative number is all that can go wrong
    rcases hplain : aesCtr256 _ file.json _ file.iv with e | plaintext
    · obtain rfl := eq_undefinedBehaviour_of_aesCtr256 hplain
      exact Or.inr rfl
    · exact Or.inl ⟨_, rfl⟩
  by_cases hopenable : Openable (base642bin (unpackKeyFile data'))
  · obtain ⟨file', hfile'⟩ := exists_readKeyFile hopenable
    have hparts' := partsOf_of_readKeyFile hfile'
    refine ⟨accepting file.signed file.hmac file'.hmac, constantText (.array []),
      laws_accepting _ _ _, ?_⟩
    intro pass
    refine ⟨haccepts file'.hmac pass, ?_⟩
    have hmac : ∀ key, (accepting file.signed file.hmac file'.hmac).hmac key file'.signed ≠
        file'.hmac := by
      intro key
      show List.takeD 32 (if file'.signed = file.signed then _ else _) 0 ≠ _
      split_ifs with hsigned
      · rw [List.takeD_eq_take _ hparts.hmac.ge, List.take_of_length_le hparts.hmac.le]
        intro hsame
        exact hne (by rw [← hparts'.parts, ← hparts.parts, hsigned, hsame])
      · have hlength : (file'.hmac.map (· + 1)).length = 32 := by
          rw [List.length_map, hparts'.hmac]
        rw [List.takeD_eq_take _ hlength.ge, List.take_of_length_le hlength.le]
        refine map_add_one_ne ?_
        intro hnil
        have hempty := hparts'.hmac
        rw [hnil] at hempty
        cases hempty
    rw [decryptExportedSessions, hfile', ok_bind, openKeyFile]
    rw [throwIf, if_pos (hmac _)]
    refine ⟨_, rfl, fun h ↦ ?_⟩
    cases h
  · exact ⟨accepting file.signed file.hmac [], constantText (.array []), laws_accepting _ _ _,
      fun pass ↦ ⟨haccepts [] pass, throws_decryptExportedSessions _ _ pass hopenable⟩⟩

/-! ## When the line ends make no difference -/

/-- The file has the same sessions with other line ends, or is refused like it. -/
def SameOutcome (data pass : Str) : Prop :=
  decryptExportedSessions openssl json (crlf data) pass =
      decryptExportedSessions openssl json data pass ∨
    Throws (decryptExportedSessions openssl json (crlf data) pass) ∧
      Throws (decryptExportedSessions openssl json data pass)

variable {openssl json} in
theorem SameOutcome.throws_iff {data pass : Str} (h : SameOutcome openssl json data pass) :
    Throws (decryptExportedSessions openssl json (crlf data) pass) ↔
      Throws (decryptExportedSessions openssl json data pass) := by
  rcases h with h | ⟨hcrlf, hdata⟩
  · rw [h]
  · exact iff_of_true hcrlf hdata

/-- The first line is decoded to the same bytes as the whole text, or neither can be opened. -/
def EndsInFirstLine (data : Str) : Prop :=
  base642bin (firstLine (stripped data)) = base642bin (unpackKeyFile data) ∨
    ¬ Openable (base642bin (firstLine (stripped data))) ∧
      ¬ Openable (base642bin (unpackKeyFile data))

/-- **Line ends make no difference**, whatever OpenSSL answers, exactly for the files whose base64
text ends in its first line, and for those that cannot be opened at all. -/
theorem lineEnds_iff (data pass : Str) :
    (∀ (openssl : Openssl) (json : JsonText), openssl.Laws → SameOutcome openssl json data pass) ↔
      EndsInFirstLine data := by
  have hbytes := base642bin_unpackKeyFile_crlf data
  rw [EndsInFirstLine, ← hbytes]
  constructor
  · intro h
    by_contra hnot
    rw [not_or, not_and_or, not_not, not_not] at hnot
    obtain ⟨hne, hopenable | hopenable⟩ := hnot
    · obtain ⟨openssl, json, laws, htells⟩ := exists_telling hopenable (Ne.symm hne)
      exact (htells pass).1 ((h openssl json laws).throws_iff.mpr (htells pass).2)
    · obtain ⟨openssl, json, laws, htells⟩ := exists_telling hopenable hne
      exact (htells pass).1 ((h openssl json laws).throws_iff.mp (htells pass).2)
  · rintro (hsame | ⟨hline, hwhole⟩) openssl json -
    · exact Or.inl (decryptExportedSessions_congr openssl json pass hsame)
    · exact Or.inr ⟨throws_decryptExportedSessions openssl json pass hline,
        throws_decryptExportedSessions openssl json pass hwhole⟩

/-- A key file without sessions for the passphrase `secret`, with line ends after the header line
and after the base64 text. -/
def exportedFile : Str :=
  headerLine ++ lit "\n" ++ bin2base64 (0x01 :: List.replicate 32 0x01 ++ uint32ToUint8 100000 ++
    [0x35, 0x63] ++ secretHmac) ++ lit "\n" ++ trailerLine ++ lit "\n"

/-- It is opened, but not with other line ends. -/
theorem not_sameOutcome_exportedFile :
    ¬ SameOutcome secretOpenssl (knownTexts [.array []]) exportedFile "secret" := by
  have hcrlf : decryptExportedSessions secretOpenssl (knownTexts [.array []]) (crlf exportedFile)
      "secret" = .error (.cryptoException "decrypt_exported_sessions"
        "Invalid session file: too short") := by
    decide +kernel
  have hdata : decryptExportedSessions secretOpenssl (knownTexts [.array []]) exportedFile
      "secret" = .ok ⟨[]⟩ := by
    decide +kernel
  intro h
  have hthrows := h.throws_iff.mp ⟨_, hcrlf, nofun⟩
  rw [hdata] at hthrows
  exact absurd hthrows (not_raises_ok _)

end Mtx.Crypto
