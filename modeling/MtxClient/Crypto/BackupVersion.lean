import Mathlib.Logic.Function.Iterate
import MtxClient.Json.ReadBack
import MtxClient.Lib.Runs

/-!
# The version of a key backup

What the server says about a key backup, and what is sent to update it.  Two members are kept as
texts: `auth_data`, which is parsed again when it is written, and `etag`, which is not, so that it
is written as a string with the text in it.  That is right for an integer, and puts a string into
quotes, one more pair each time the data is read and written (`etag_of_run`).
-/

set_option autoImplicit false

namespace Mtx.Crypto

open Str

/-- `BackupVersion`. -/
structure BackupVersion where
  /-- The algorithm used for storing backups. -/
  algorithm : Str
  /-- Algorithm-dependent data, as the text of a value. -/
  auth_data : Str
  /-- The number of keys stored in the backup. -/
  count : Int64
  /-- An opaque string representing stored keys in the backup. -/
  etag : Str
  /-- The backup version. -/
  version : Str
  deriving DecidableEq

variable (t : JsonText)

/-- `from_json(BackupVersion)`.  Old servers send the etag as an integer. -/
def BackupVersion.fromJson (obj : Json) : Except Exn BackupVersion := do
  let algorithm ← (← obj.atKey "algorithm").getString
  let auth_data ← t.dump (← obj.atKey "auth_data")
  let count ← (← obj.atKey "count").getInt64
  let etag ← t.dump (← obj.atKey "etag")
  let version ← (← obj.atKey "version").getString
  return { algorithm, auth_data, count, etag, version }

/-- `to_json(BackupVersion)`. -/
def BackupVersion.toJson (response : BackupVersion) : Except Exn Json := do
  let auth_data ← t.parse response.auth_data
  return Json.ofMembers <| Json.noMembers
    |>.insert "algorithm" (.string response.algorithm)
    |>.insert "auth_data" auth_data
    |>.insert "count" (.numberInteger response.count)
    |>.insert "etag" (.string response.etag)
    |>.insert "version" (.string response.version)

/-- Reading the data and writing it, which is what `backup_version` and `update_backup_version` do
one after the other. -/
def rewriting : Machine Json Unit Exn where
  possible _ _ := True
  step j _ := BackupVersion.fromJson t j >>= BackupVersion.toJson t

/-! ## What is kept -/

/-- The number that an integer stands for. -/
def integer? : Json → Option ℤ
  | .numberInteger i => some i.toInt
  | .numberUnsigned u => some u.toNat
  | _ => none

@[simp] theorem integer?_numberInteger (i : Int64) :
    integer? (.numberInteger i) = some i.toInt := rfl

/-- The data of a backup: an object with its five members, in which the etag may be an integer. -/
structure IsBackupVersion (j : Json) : Prop where
  algorithm : ∃ s, j.find? "algorithm" = some (.string s)
  auth_data : ∃ v, j.find? "auth_data" = some v
  count : ∃ v n, j.find? "count" = some v ∧ integer? v = some n
  etag : ∃ v, j.find? "etag" = some v ∧ ((∃ s, v = .string s) ∨ ∃ n, integer? v = some n)
  version : ∃ s, j.find? "version" = some (.string s)

/-- An etag as it should be written: an integer as its decimal string, a string as it is. -/
def writtenEtag (etag : Json) : Json :=
  match integer? etag with
  | some n => .string (toString n)
  | none => etag

/-- The same data, up to writing the etag as a string. -/
structure SameBackup (j j' : Json) : Prop where
  algorithm : j'.find? "algorithm" = j.find? "algorithm"
  auth_data : j'.find? "auth_data" = j.find? "auth_data"
  count : (j'.find? "count").bind integer? = (j.find? "count").bind integer?
  etag : j'.find? "etag" = (j.find? "etag").map writtenEtag
  version : j'.find? "version" = j.find? "version"

/-- The data survives being read and written. -/
def Survives (j : Json) : Prop := ∃ j', (rewriting t).Run j [()] j' ∧ SameBackup j j'

/-- Reading and writing the data any number of times makes the same of it as doing it once. -/
def Stable (j : Json) : Prop :=
  ∃ j', (rewriting t).Run j [()] j' ∧
    ∀ times, times ≠ [] → (rewriting t).Run j times j'

/-- What `dump()` writes for a string and for an integer. -/
structure DumpsScalars : Prop where
  string : ∀ s, t.text (.string s) = Json.quote s
  integer : ∀ v n, integer? v = some n → t.text v = toString n

variable {t} {j j' : Json}

/-- What a round of reading and writing makes of the data. -/
theorem rewriting_step_iff : (rewriting t).step j () = .ok j' ↔
    ∃ (algorithm version : Str) (auth_data count etag parsed : Json) (n : Int64),
      j.find? "algorithm" = some (.string algorithm) ∧
      j.find? "auth_data" = some auth_data ∧ auth_data.validUtf8 = true ∧
      t.parse (t.text auth_data) = .ok parsed ∧
      j.find? "count" = some count ∧ count.getInt64 = .ok n ∧
      j.find? "etag" = some etag ∧ etag.validUtf8 = true ∧
      j.find? "version" = some (.string version) ∧
      j' = Json.ofMembers (Json.noMembers
        |>.insert "algorithm" (.string algorithm)
        |>.insert "auth_data" parsed
        |>.insert "count" (.numberInteger n)
        |>.insert "etag" (.string (t.text etag))
        |>.insert "version" (.string version)) := by
  simp only [rewriting, BackupVersion.fromJson, BackupVersion.toJson, bind_eq_ok_iff,
    Json.atKey_eq_ok_iff, Json.getString_eq_ok_iff, JsonText.dump_eq_ok_iff]
  constructor
  · rintro ⟨data, ⟨_, halgorithm, algorithm, rfl, auth_data, hauth, text, ⟨hvalid, rfl⟩, count,
      hcount, n, hn, etag, hetag, _, ⟨hevalid, rfl⟩, _, hversion, version, rfl, hdata⟩, parsed,
      hparsed, hj⟩
    cases Except.ok.inj hdata
    exact ⟨algorithm, version, auth_data, count, etag, parsed, n, halgorithm, hauth, hvalid,
      hparsed, hcount, hn, hetag, hevalid, hversion, (Except.ok.inj hj).symm⟩
  · rintro ⟨algorithm, version, auth_data, count, etag, parsed, n, halgorithm, hauth, hvalid,
      hparsed, hcount, hn, hetag, hevalid, hversion, rfl⟩
    exact ⟨_, ⟨_, halgorithm, algorithm, rfl, auth_data, hauth, _, ⟨hvalid, rfl⟩, count, hcount, n,
      hn, etag, hetag, _, ⟨hevalid, rfl⟩, _, hversion, version, rfl, rfl⟩, parsed, hparsed, rfl⟩

theorem run_singleton_iff : (rewriting t).Run j [()] j' ↔ (rewriting t).step j () = .ok j' := by
  constructor
  · intro h
    rw [← List.nil_append [()]] at h
    obtain ⟨j₁, hrun, -, hstep⟩ := h.of_append_singleton
    rwa [hrun.of_eq_nil] at hstep
  · exact fun h ↦ Machine.Run.snoc .nil trivial h

theorem length_lt_quote (s : Str) : s.length < (Json.quote s).length := by
  have hbytes : s.length ≤ (s.flatMap Json.escapeByte).length := by
    induction s with
    | nil => exact Nat.zero_le _
    | cons b s ih =>
      have hbyte : 1 ≤ (Json.escapeByte b).length := by
        rw [Json.escapeByte]
        split_ifs
        all_goals first | decide | exact Nat.le_add_left 1 _
      rw [List.flatMap_cons, List.length_append, List.length_cons]
      omega
  rw [Json.quote, List.length_append, List.length_append]
  have : (lit "\"").length = 1 := rfl
  omega

/-- An integer is read as itself if it fits. -/
theorem getInt64_of_integer? {v : Json} {n : ℤ} (h : integer? v = some n) :
    ∃ i, v.getInt64 = .ok i ∧ (i.toInt = n ↔ n < 2 ^ 63) := by
  rcases v with - | b | i | u | f | s | xs | ms
  case numberInteger =>
    cases Option.some.inj h
    exact ⟨i, rfl, iff_of_true rfl i.toInt_lt⟩
  case numberUnsigned =>
    cases Option.some.inj h
    refine ⟨u.toInt64, rfl, ?_⟩
    have hcond : u.toInt64.toInt =
        if 2 * u.toNat < 2 ^ 64 then (u.toNat : ℤ) else u.toNat - 2 ^ 64 :=
      BitVec.toInt_eq_toNat_cond u.toBitVec
    rw [hcond]
    split_ifs <;> omega
  all_goals cases h

theorem validUtf8_of_integer? {v : Json} {n : ℤ} (h : integer? v = some n) :
    v.validUtf8 = true := by
  rcases v with - | b | i | u | f | s | xs | ms
  case numberInteger => rfl
  case numberUnsigned => rfl
  all_goals cases h

/-- The data survives once if its etag is an integer and its count fits. -/
theorem survives_iff (ht : DumpsScalars t) (hj : IsBackupVersion j)
    (hauth : ∀ v, j.find? "auth_data" = some v → v.validUtf8 = true ∧ t.Restores v) :
    Survives t j ↔ (∃ etag n, j.find? "etag" = some etag ∧ integer? etag = some n) ∧
      ∃ count n, j.find? "count" = some count ∧ integer? count = some n ∧ n < 2 ^ 63 := by
  obtain ⟨⟨algorithm, halgorithm⟩, ⟨auth_data, hdata⟩, ⟨count, n, hcount, hn⟩,
    ⟨etag, hetag, hkind⟩, ⟨version, hversion⟩⟩ := hj
  obtain ⟨hvalid, hrestores⟩ := hauth auth_data hdata
  obtain ⟨i, hi, hfits⟩ := getInt64_of_integer? hn
  constructor
  · rintro ⟨j', hrun, hsame⟩
    obtain ⟨_, _, _, count', etag', _, i', -, -, -, -, hcount', hi', hetag', -, -, rfl⟩ :=
      rewriting_step_iff.mp (run_singleton_iff.mp hrun)
    obtain rfl := Option.some.inj (hcount.symm.trans hcount')
    obtain rfl := Except.ok.inj (hi.symm.trans hi')
    obtain rfl := Option.some.inj (hetag.symm.trans hetag')
    refine ⟨?_, count, n, hcount, hn, hfits.mp (by simpa [hcount, hn] using hsame.count)⟩
    have hwritten : Json.string (t.text etag) = writtenEtag etag := by
      simpa [hetag] using hsame.etag
    rcases hkind with ⟨s, rfl⟩ | ⟨m, hm⟩
    · -- a string would have to be its own text
      rw [ht.string] at hwritten
      exact absurd (congrArg List.length (Json.string.inj hwritten)) (length_lt_quote s).ne'
    · exact ⟨etag, m, hetag, hm⟩
  · rintro ⟨⟨etag', m, hetag', hm⟩, count', n', hcount', hn', hlt⟩
    obtain rfl := Option.some.inj (hcount.symm.trans hcount')
    obtain rfl := Option.some.inj (hetag.symm.trans hetag')
    obtain rfl := Option.some.inj (hn.symm.trans hn')
    refine ⟨_, run_singleton_iff.mpr (rewriting_step_iff.mpr ⟨algorithm, version, auth_data, count,
      etag, auth_data, i, halgorithm, hdata, hvalid, hrestores, hcount, hi, hetag,
      validUtf8_of_integer? hm, hversion, rfl⟩), ?_, ?_, ?_, ?_, ?_⟩
    · simp [halgorithm]
    · simp [hdata]
    · simp [hcount, hn, hfits.mpr hlt]
    · simp [hetag, writtenEtag, hm, ht.integer etag m hm]
    · simp [hversion]

/-- However often the data is read and written, its etag becomes a string with quotes around it. -/
theorem etag_of_run (ht : DumpsScalars t) {etag : Json} (hetag : j.find? "etag" = some etag)
    {times : List Unit} (hrun : (rewriting t).Run j times j') :
    (times = [] → j' = j) ∧ ∀ n, times.length = n + 1 →
      j'.find? "etag" = some (.string (Json.quote^[n] (t.text etag))) := by
  refine hrun.invariant (P := fun times j' ↦ (times = [] → j' = j) ∧
    ∀ n, times.length = n + 1 →
      j'.find? "etag" = some (.string (Json.quote^[n] (t.text etag)))) ⟨fun _ ↦ rfl, nofun⟩ ?_
  intro times j₁ _ j₂ _ ih _ hstep
  obtain ⟨_, _, _, _, etag₁, _, _, -, -, -, -, -, -, hetag₁, -, -, rfl⟩ :=
    rewriting_step_iff.mp hstep
  refine ⟨by simp, fun n hn ↦ ?_⟩
  rw [List.length_append, List.length_singleton, Nat.add_right_cancel_iff] at hn
  have htext : t.text etag₁ = Json.quote^[n] (t.text etag) := by
    rcases n with - | n
    · rw [ih.1 (List.eq_nil_of_length_eq_zero hn), hetag] at hetag₁
      rw [Option.some.inj hetag₁]
      rfl
    · rw [ih.2 n hn] at hetag₁
      rw [← Option.some.inj hetag₁, ht.string, Function.iterate_succ_apply']
  simp [htext]

/-- The second time puts the etag into quotes again. -/
theorem not_stable (ht : DumpsScalars t) (j : Json) : ¬ Stable t j := by
  rintro ⟨j', hrun, hall⟩
  obtain ⟨_, _, _, _, etag, _, _, -, -, -, -, -, -, hetag, -, -, -⟩ :=
    rewriting_step_iff.mp (run_singleton_iff.mp hrun)
  have honce := (etag_of_run ht hetag hrun).2 0 rfl
  have htwice := (etag_of_run ht hetag (hall [(), ()] (List.cons_ne_nil _ _))).2 1 rfl
  have heq := Json.string.inj (Option.some.inj (honce.symm.trans htwice))
  exact absurd (congrArg List.length heq) (length_lt_quote _).ne

/-- **What reading and writing makes of the data**: at first it survives if its etag is an integer
and its count fits, and the second time changes it, whatever it is. -/
theorem backupVersion_survives_iff (ht : DumpsScalars t) (hj : IsBackupVersion j)
    (hauth : ∀ v, j.find? "auth_data" = some v → v.validUtf8 = true ∧ t.Restores v) :
    (Survives t j ↔ (∃ etag n, j.find? "etag" = some etag ∧ integer? etag = some n) ∧
      ∃ count n, j.find? "count" = some count ∧ integer? count = some n ∧ n < 2 ^ 63) ∧
    ¬ (Survives t j ∧ Stable t j) :=
  ⟨survives_iff ht hj hauth, fun h ↦ not_stable ht j h.2⟩

/-- The data of a backup with one key. -/
def oneKeyBackup (etag : Json) : Json :=
  .object [(lit "algorithm", .string "m.megolm_backup.v1.curve25519-aes-sha2"),
    (lit "auth_data", .object []), (lit "count", .numberUnsigned 1), (lit "etag", etag),
    (lit "version", .string "1")]

theorem dumpsScalars_knownTexts (js : List Json) : DumpsScalars (knownTexts js) where
  string _ := rfl
  integer v n h := by
    rcases v with - | b | i | u | f | s | xs | ms
    case numberInteger =>
      rw [← Option.some.inj h]
      rfl
    case numberUnsigned =>
      rw [← Option.some.inj h]
      rfl
    all_goals cases h

/-- The data of an old server survives once. -/
theorem backupVersion_survives_integer :
    Survives (knownTexts [.object []]) (oneKeyBackup (.numberUnsigned 5)) :=
  (backupVersion_survives_iff (dumpsScalars_knownTexts _)
    ⟨⟨_, rfl⟩, ⟨_, rfl⟩, ⟨_, _, rfl, rfl⟩, ⟨_, rfl, Or.inr ⟨_, rfl⟩⟩, ⟨_, rfl⟩⟩
    (fun v hv ↦ by
      rw [← Option.some.inj hv]
      exact ⟨rfl, restores_knownTexts _⟩)).1.mpr
    ⟨⟨_, _, rfl, rfl⟩, _, _, rfl, rfl, by decide⟩

/-- That of a new one does not: its etag `5` is written with quotes around it. -/
theorem not_survives_string :
    ¬ Survives (knownTexts [.object []]) (oneKeyBackup (.string "5")) ∧
      (rewriting (knownTexts [.object []])).step (oneKeyBackup (.string "5")) () =
        .ok (.object [(lit "algorithm", .string "m.megolm_backup.v1.curve25519-aes-sha2"),
          (lit "auth_data", .object []), (lit "count", .numberInteger 1),
          (lit "etag", .string "\"5\""), (lit "version", .string "1")]) := by
  have hstep : (rewriting (knownTexts [.object []])).step (oneKeyBackup (.string "5")) () =
      .ok (.object [(lit "algorithm", .string "m.megolm_backup.v1.curve25519-aes-sha2"),
        (lit "auth_data", .object []), (lit "count", .numberInteger 1),
        (lit "etag", .string "\"5\""), (lit "version", .string "1")]) := rfl
  refine ⟨?_, hstep⟩
  rintro ⟨j', hrun, hsame⟩
  rw [run_singleton_iff, hstep] at hrun
  cases Except.ok.inj hrun
  have hetag : some (Json.string "\"5\"") = some (.string "5") := hsame.etag
  exact absurd (Json.string.inj (Option.some.inj hetag)) (by decide)

end Mtx.Crypto
