import MtxClient.Lib.IntBits
import MtxClient.Crypto.KeyCreation

/-!
# Short authentication strings

Two devices that verify each other derive the same bytes from a shared secret, and the users compare
a few numbers or emoji that stand for them.  Here is how `SAS` takes these numbers out of the bytes.

A number is a group of the bits of the output, from the most significant bit of its first byte on
(`Carries`), so that no bit of the groups is lost: the numbers are the same exactly when the groups
are (`shortAuthenticationStrings`).
-/

set_option autoImplicit false

namespace Mtx.Crypto

open Bits IntBits

/-! ## The code -/

/-- libolm with `olm_sas_generate_bytes`, which fills the whole output buffer.  It fails as long as
the key of the other party is not set. -/
structure SasOlm extends Libolm where
  /-- `olm_sas_generate_bytes`: what it writes to an output buffer of the length. -/
  sasGenerateBytes (sas : Sas) (info : Str) (output_length : ℕ) :
    Option (Vector UInt8 output_length)

namespace SAS

/-- The three assignments of `SAS::generate_bytes_decimal`. -/
def decimals (output_buffer : Vector UInt8 5) : List Int32 :=
  [((promote output_buffer[0] <<< 5) ||| (promote output_buffer[1] >>> 3)) + 1000,
    (((promote output_buffer[1] &&& 0x07) <<< 10) ||| (promote output_buffer[2] <<< 2) |||
      (promote output_buffer[3] >>> 6)) + 1000,
    (((promote output_buffer[3] &&& 0x3F) <<< 7) ||| (promote output_buffer[4] >>> 1)) + 1000]

/-- The seven assignments of `SAS::generate_bytes_emoji`. -/
def emoji (output_buffer : Vector UInt8 6) : List Int32 :=
  [promote output_buffer[0] >>> 2,
    ((promote output_buffer[0] <<< 4) &&& (0x3f : Int32)) ||| (promote output_buffer[1] >>> 4),
    ((promote output_buffer[1] <<< 2) &&& (0x3f : Int32)) ||| (promote output_buffer[2] >>> 6),
    promote output_buffer[2] &&& 0x3f,
    promote output_buffer[3] >>> 2,
    ((promote output_buffer[3] <<< 4) &&& (0x3f : Int32)) ||| (promote output_buffer[4] >>> 4),
    ((promote output_buffer[4] <<< 2) &&& (0x3f : Int32)) ||| (promote output_buffer[5] >>> 6)]

variable {olm : SasOlm}

/-- `SAS::generate_bytes_decimal`. -/
def generateBytesDecimal (sas : olm.Sas) (info : Str) : Except Exn (List Int32) :=
  match olm.sasGenerateBytes sas info 5 with
  | some output_buffer => .ok (decimals output_buffer)
  | none => .error (.olmException "get_bytes_decimal")

/-- `SAS::generate_bytes_emoji`. -/
def generateBytesEmoji (sas : olm.Sas) (info : Str) : Except Exn (List Int32) :=
  match olm.sasGenerateBytes sas info 6 with
  | some output_buffer => .ok (emoji output_buffer)
  | none => .error (.olmException "get_bytes_emoji")

/-! ## What the numbers should be -/

/-- The numbers are the first `count` groups of `width` bits, counted from `first`. -/
structure Carries (width count first : ℕ) (bits : List Bool) (numbers : List Int32) : Prop where
  eq_groups : numbers.map Int32.toInt = (groups width count bits).map fun g : ℕ ↦ (first : ℤ) + g
  length : numbers.length = count
  range : ∀ n ∈ numbers, (first : ℤ) ≤ n.toInt ∧ n.toInt < first + 2 ^ width

/-- The groups of bits as values of type `int`. -/
theorem carries_of_eq {width count first : ℕ} {bits : List Bool} {numbers : List Int32}
    (hfits : first + 2 ^ width ≤ 2 ^ 31)
    (h : numbers = (groups width count bits).map fun g ↦ Int32.ofNat (first + g)) :
    Carries width count first bits numbers := by
  have hint : ∀ g ∈ groups width count bits, (Int32.ofNat (first + g)).toInt = first + g := by
    intro g hg
    have hlt := lt_of_mem_groups hg
    rw [Int32.toInt_ofNat_of_lt (by omega), Nat.cast_add]
  rw [h]
  refine ⟨?_, by simp, ?_⟩
  · rw [List.map_map]
    exact List.map_congr_left hint
  · intro n hn
    obtain ⟨g, hg, rfl⟩ := List.mem_map.mp hn
    have hlt : (g : ℤ) < 2 ^ width := by exact_mod_cast lt_of_mem_groups hg
    rw [hint g hg]
    omega

/-- **Numbers are the same exactly when the bits that they carry are.** -/
theorem Carries.eq_iff {width count first : ℕ} {bits bits' : List Bool}
    {numbers numbers' : List Int32} (h : Carries width count first bits numbers)
    (h' : Carries width count first bits' numbers') (hlength : width * count ≤ bits.length)
    (hlength' : width * count ≤ bits'.length) :
    numbers = numbers' ↔ bits.take (width * count) = bits'.take (width * count) := by
  have hint : Function.Injective Int32.toInt := fun _ _ ↦ Int32.toInt.inj
  have hfirst : Function.Injective fun g : ℕ ↦ (first : ℤ) + g := fun g g' hg ↦ by
    dsimp only at hg
    omega
  rw [← groups_eq_iff hlength hlength', ← (List.map_injective_iff.mpr hint).eq_iff, h.eq_groups,
    h'.eq_groups, (List.map_injective_iff.mpr hfirst).eq_iff]

/-! ## The decimals -/

/-- The bits of five bytes are three groups of 13 bits, and one bit that is left over. -/
theorem ofBytes_thirteens (a b c d e : UInt8) : ofBytes [a, b, c, d, e] =
    (ofNat 8 a.toNat ++ ofNat 5 (b.toNat / 2 ^ 3)) ++
      ((ofNat 3 b.toNat ++ ofNat 8 c.toNat ++ ofNat 2 (d.toNat / 2 ^ 6)) ++
        ((ofNat 6 d.toNat ++ ofNat 7 (e.toNat / 2 ^ 1)) ++ ofNat 1 e.toNat)) := by
  have hb : ofNat 8 b.toNat = ofNat 5 (b.toNat / 2 ^ 3) ++ ofNat 3 b.toNat := ofNat_add 5 3 _
  have hd : ofNat 8 d.toNat = ofNat 2 (d.toNat / 2 ^ 6) ++ ofNat 6 d.toNat := ofNat_add 2 6 _
  have he : ofNat 8 e.toNat = ofNat 7 (e.toNat / 2 ^ 1) ++ ofNat 1 e.toNat := ofNat_add 7 1 _
  simp only [ofBytes, List.flatMap_cons, List.flatMap_nil, hb, hd, he, List.append_assoc,
    List.append_nil]

theorem firstDecimal (a b : UInt8) : (promote a <<< 5) ||| (promote b >>> 3) =
    value (ofNat 8 a.toNat ++ ofNat 5 (b.toNat / 2 ^ 3)) := by
  have hb : promote b >>> 3 = value (ofNat 5 (b.toNat / 2 ^ 3)) := promote_shiftRight b rfl
  rw [promote_eq, hb]
  exact shiftLeft_or _ (length_ofNat 5 _) (by decide)

theorem secondDecimal (b c d : UInt8) :
    ((promote b &&& 0x07) <<< 10) ||| (promote c <<< 2) ||| (promote d >>> 6) =
      value (ofNat 3 b.toNat ++ ofNat 8 c.toNat ++ ofNat 2 (d.toNat / 2 ^ 6)) := by
  have hb : promote b &&& 0x07 = value (ofNat 3 b.toNat) := promote_and b 3
  have hd : promote d >>> 6 = value (ofNat 2 (d.toNat / 2 ^ 6)) := promote_shiftRight d rfl
  have hten : (10 : Int32) = Int32.ofNat (8 + 2) := rfl
  have htwo : (2 : Int32) = Int32.ofNat 2 := rfl
  rw [hb, promote_eq c, hd, hten, htwo,
    shiftLeft_or_shiftLeft_or _ (length_ofNat 8 _) (length_ofNat 2 _) (by decide)]

theorem thirdDecimal (d e : UInt8) : ((promote d &&& 0x3F) <<< 7) ||| (promote e >>> 1) =
    value (ofNat 6 d.toNat ++ ofNat 7 (e.toNat / 2 ^ 1)) := by
  have hd : promote d &&& 0x3F = value (ofNat 6 d.toNat) := promote_and d 6
  have he : promote e >>> 1 = value (ofNat 7 (e.toNat / 2 ^ 1)) := promote_shiftRight e rfl
  rw [hd, he]
  exact shiftLeft_or _ (length_ofNat 7 _) (by decide)

theorem value_add (bits : List Bool) :
    value bits + 1000 = Int32.ofNat (1000 + toNat bits) := by
  have hthousand : (1000 : Int32) = Int32.ofNat 1000 := rfl
  rw [value, hthousand, ← Int32.ofNat_add, Nat.add_comm]

theorem decimals_eq (v : Vector UInt8 5) : decimals v =
    (groups 13 3 (ofBytes v.toList)).map fun g ↦ Int32.ofNat (1000 + g) := by
  have hlist : v.toList = [v[0], v[1], v[2], v[3], v[4]] := by
    have hv : v = #v[v[0], v[1], v[2], v[3], v[4]] := by
      ext i hi
      interval_cases i <;> rfl
    exact congrArg Vector.toList hv
  rw [decimals, firstDecimal, secondDecimal, thirdDecimal, hlist, ofBytes_thirteens,
    groups_append (by simp), groups_append (by simp), groups_append (by simp), groups]
  simp only [List.map_cons, List.map_nil, value_add]

/-- **The decimals carry the first 39 bits.** -/
theorem carries_decimals (output_buffer : Vector UInt8 5) :
    Carries 13 3 1000 (ofBytes output_buffer.toList) (decimals output_buffer) :=
  carries_of_eq (by decide) (decimals_eq output_buffer)

/-! ## The emoji -/

/-- The bits of six bytes are seven groups of 6 bits, and six bits that are left over. -/
theorem ofBytes_sextets (a b c d e f : UInt8) : ofBytes [a, b, c, d, e, f] =
    ofNat 6 (a.toNat / 2 ^ 2) ++
      ((ofNat 2 a.toNat ++ ofNat 4 (b.toNat / 2 ^ 4)) ++
        ((ofNat 4 b.toNat ++ ofNat 2 (c.toNat / 2 ^ 6)) ++
          (ofNat 6 c.toNat ++
            (ofNat 6 (d.toNat / 2 ^ 2) ++
              ((ofNat 2 d.toNat ++ ofNat 4 (e.toNat / 2 ^ 4)) ++
                ((ofNat 4 e.toNat ++ ofNat 2 (f.toNat / 2 ^ 6)) ++ ofNat 6 f.toNat)))))) := by
  have hsix (x : UInt8) : ofNat 8 x.toNat = ofNat 6 (x.toNat / 2 ^ 2) ++ ofNat 2 x.toNat :=
    ofNat_add 6 2 _
  have hfour (x : UInt8) : ofNat 8 x.toNat = ofNat 4 (x.toNat / 2 ^ 4) ++ ofNat 4 x.toNat :=
    ofNat_add 4 4 _
  have htwo (x : UInt8) : ofNat 8 x.toNat = ofNat 2 (x.toNat / 2 ^ 6) ++ ofNat 6 x.toNat :=
    ofNat_add 2 6 _
  simp only [ofBytes, List.flatMap_cons, List.flatMap_nil, List.append_nil]
  rw [hsix a, hfour b, htwo c, hsix d, hfour e, htwo f]
  simp only [List.append_assoc]

theorem emoji_eq (v : Vector UInt8 6) : emoji v =
    (groups 6 7 (ofBytes v.toList)).map fun g ↦ Int32.ofNat (0 + g) := by
  have hlist : v.toList = [v[0], v[1], v[2], v[3], v[4], v[5]] := by
    have hv : v = #v[v[0], v[1], v[2], v[3], v[4], v[5]] := by
      ext i hi
      interval_cases i <;> rfl
    exact congrArg Vector.toList hv
  have hupper (b : UInt8) : promote b >>> 2 = value (ofNat 6 (b.toNat / 2 ^ 2)) :=
    promote_shiftRight b rfl
  have hlower (b : UInt8) : promote b &&& 0x3f = value (ofNat 6 b.toNat) := promote_and b 6
  have hfour (a b : UInt8) : ((promote a <<< 4) &&& (0x3f : Int32)) ||| (promote b >>> 4) =
      value (ofNat 2 a.toNat ++ ofNat 4 (b.toNat / 2 ^ 4)) :=
    @shiftLeft_and_or a b 2 4 4 rfl
  have htwo (a b : UInt8) : ((promote a <<< 2) &&& (0x3f : Int32)) ||| (promote b >>> 6) =
      value (ofNat 4 a.toNat ++ ofNat 2 (b.toNat / 2 ^ 6)) :=
    @shiftLeft_and_or a b 4 2 6 rfl
  rw [emoji, hupper, hupper, hlower, hfour, hfour, htwo, htwo, hlist, ofBytes_sextets,
    groups_append (by simp), groups_append (by simp), groups_append (by simp),
    groups_append (by simp), groups_append (by simp), groups_append (by simp),
    groups_append (by simp), groups]
  simp only [List.map_cons, List.map_nil, Nat.zero_add, value]

/-- **The emoji carry the first 42 bits.** -/
theorem carries_emoji (output_buffer : Vector UInt8 6) :
    Carries 6 7 0 (ofBytes output_buffer.toList) (emoji output_buffer) :=
  carries_of_eq (by decide) (emoji_eq output_buffer)

/-! ## What the users compare -/

theorem generateBytesDecimal_eq {sas : olm.Sas} {info : Str} {output_buffer : Vector UInt8 5}
    (h : olm.sasGenerateBytes sas info 5 = some output_buffer) :
    generateBytesDecimal sas info = .ok (decimals output_buffer) := by
  rw [generateBytesDecimal, h]

theorem generateBytesEmoji_eq {sas : olm.Sas} {info : Str} {output_buffer : Vector UInt8 6}
    (h : olm.sasGenerateBytes sas info 6 = some output_buffer) :
    generateBytesEmoji sas info = .ok (emoji output_buffer) := by
  rw [generateBytesEmoji, h]

/-- **Short authentication strings carry exactly the shared bits.**  The decimals are the first
three groups of 13 bits, each plus 1000, and the emoji the first seven groups of 6 bits.  So two
outputs give the same decimals exactly when they agree on their first 39 bits, and the same emoji
exactly when they agree on their first 42. -/
theorem shortAuthenticationStrings (olm : SasOlm) :
    (∀ (sas : olm.Sas) (info : Str) (output_buffer : Vector UInt8 5),
      olm.sasGenerateBytes sas info 5 = some output_buffer →
        ∃ output_list, generateBytesDecimal sas info = .ok output_list ∧
          Carries 13 3 1000 (ofBytes output_buffer.toList) output_list) ∧
    (∀ (sas : olm.Sas) (info : Str) (output_buffer : Vector UInt8 6),
      olm.sasGenerateBytes sas info 6 = some output_buffer →
        ∃ output_list, generateBytesEmoji sas info = .ok output_list ∧
          Carries 6 7 0 (ofBytes output_buffer.toList) output_list) ∧
    (∀ (sas sas' : olm.Sas) (info info' : Str) (output_buffer output_buffer' : Vector UInt8 5),
      olm.sasGenerateBytes sas info 5 = some output_buffer →
      olm.sasGenerateBytes sas' info' 5 = some output_buffer' →
        (generateBytesDecimal sas info = generateBytesDecimal sas' info' ↔
          (ofBytes output_buffer.toList).take 39 = (ofBytes output_buffer'.toList).take 39)) ∧
    (∀ (sas sas' : olm.Sas) (info info' : Str) (output_buffer output_buffer' : Vector UInt8 6),
      olm.sasGenerateBytes sas info 6 = some output_buffer →
      olm.sasGenerateBytes sas' info' 6 = some output_buffer' →
        (generateBytesEmoji sas info = generateBytesEmoji sas' info' ↔
          (ofBytes output_buffer.toList).take 42 = (ofBytes output_buffer'.toList).take 42)) := by
  refine ⟨?_, ?_, ?_, ?_⟩
  · intro sas info output_buffer h
    exact ⟨_, generateBytesDecimal_eq h, carries_decimals output_buffer⟩
  · intro sas info output_buffer h
    exact ⟨_, generateBytesEmoji_eq h, carries_emoji output_buffer⟩
  · intro sas sas' info info' output_buffer output_buffer' h h'
    rw [generateBytesDecimal_eq h, generateBytesDecimal_eq h', Except.ok.injEq]
    -- one of the 40 bits is left over
    exact (carries_decimals output_buffer).eq_iff (carries_decimals output_buffer')
      (by simp) (by simp)
  · intro sas sas' info info' output_buffer output_buffer' h h'
    rw [generateBytesEmoji_eq h, generateBytesEmoji_eq h', Except.ok.injEq]
    -- six of the 48 bits are left over
    exact (carries_emoji output_buffer).eq_iff (carries_emoji output_buffer') (by simp) (by simp)

/-- A libolm whose shared bits are the information that they are asked for with. -/
def sampleSasOlm : SasOlm :=
  { sampleOlm with sasGenerateBytes := fun _ info _ ↦ some (Vector.ofFn fun i ↦ info.getD i 0) }

/-- The last bit of five bytes and the last six of six bytes are not compared. -/
theorem shortAuthenticationStrings_sampleSasOlm :
    (∃ output_list, @generateBytesDecimal sampleSasOlm () [1, 2, 3, 4, 5] = .ok output_list ∧
      Carries 13 3 1000 (ofBytes [1, 2, 3, 4, 5]) output_list) ∧
    (∃ output_list, @generateBytesEmoji sampleSasOlm () [1, 2, 3, 4, 5, 6] = .ok output_list ∧
      Carries 6 7 0 (ofBytes [1, 2, 3, 4, 5, 6]) output_list) ∧
    @generateBytesDecimal sampleSasOlm () [1, 2, 3, 4, 4] =
      @generateBytesDecimal sampleSasOlm () [1, 2, 3, 4, 5] ∧
    @generateBytesDecimal sampleSasOlm () [1, 2, 3, 4, 7] ≠
      @generateBytesDecimal sampleSasOlm () [1, 2, 3, 4, 5] ∧
    @generateBytesEmoji sampleSasOlm () [1, 2, 3, 4, 5, 63] =
      @generateBytesEmoji sampleSasOlm () [1, 2, 3, 4, 5, 6] := by
  obtain ⟨hdecimals, hemoji, hdecimals_iff, hemoji_iff⟩ := shortAuthenticationStrings sampleSasOlm
  refine ⟨hdecimals () _ #v[1, 2, 3, 4, 5] (by decide),
    hemoji () _ #v[1, 2, 3, 4, 5, 6] (by decide), ?_, ?_, ?_⟩
  · exact (hdecimals_iff () () _ _ #v[1, 2, 3, 4, 4] #v[1, 2, 3, 4, 5] (by decide)
      (by decide)).mpr (by decide)
  · exact fun h ↦ absurd ((hdecimals_iff () () _ _ #v[1, 2, 3, 4, 7] #v[1, 2, 3, 4, 5] (by decide)
      (by decide)).mp h) (by decide)
  · exact (hemoji_iff () () _ _ #v[1, 2, 3, 4, 5, 63] #v[1, 2, 3, 4, 5, 6] (by decide)
      (by decide)).mpr (by decide)

end SAS

end Mtx.Crypto
