import MtxClient.Events.Voip

/-!
# Calls read back

The seven contents of calls are one family: a content is written as it is read, except that
version 0 leaves out the members about parties, and a type of a session description that is not
known is read as the first value of the enumeration.  `CallCodec` is a member of the family, and
`keeps_iff` says for which values the two exceptions matter.
-/

set_option autoImplicit false

namespace Mtx.Events.Voip

open Str

/-! ## Contents read back -/

/-- Version 0 does not tell the party. -/
def NoParty (version party_id : Str) : Prop := version = "0" → party_id = ""

theorem readPartyId_toJson {j : Json} {version party_id : Str} (h : NoParty version party_id)
    (hj : version ≠ "0" → j.find? "party_id" = some (.string party_id)) :
    readPartyId j version = .ok party_id := by
  rw [readPartyId]
  by_cases hv : version = "0"
  · rw [if_neg (not_not.mpr hv), h hv]
    rfl
  · rw [if_pos hv, Json.atKey_of_find? (hj hv)]
    rfl

theorem CallInvite.fromJson_toJson {c : CallInvite} (hparty : NoParty c.version c.party_id)
    (hinvitee : NoParty c.version c.invitee) : CallInvite.fromJson c.toJson = .ok c := by
  have hversion := version_of_find? (j := c.toJson) (v := c.version) (by simp [toJson])
  obtain ⟨call_id, party_id, offer, version, lifetime, invitee⟩ := c
  rw [CallInvite.fromJson, hversion]
  by_cases hv : version = "0"
  · obtain rfl := hparty hv
    obtain rfl := hinvitee hv
    simp [Json.atKey_eq, toJson, hv, Json.getUInt32, RTCSessionDescriptionInit.fromJson_toJson,
      lit_empty]
  · simp [Json.atKey_eq, Json.optional, toJson, hv, Json.getUInt32,
      RTCSessionDescriptionInit.fromJson_toJson]

theorem CallCandidates.fromJson_toJson {c : CallCandidates} (h : NoParty c.version c.party_id) :
    CallCandidates.fromJson c.toJson = .ok c := by
  have hid : c.toJson.find? "call_id" = some (.string c.call_id) := by simp [toJson]
  have hcandidates : c.toJson.find? "candidates" =
      some (Json.ofArray Candidate.toJson c.candidates) := by simp [toJson]
  have hversion := version_of_find? (j := c.toJson) (v := c.version) (by simp [toJson])
  have hparty := readPartyId_toJson (j := c.toJson) h fun hv ↦ by simp [toJson, hv]
  rw [CallCandidates.fromJson, Json.atKey_of_find? hid, ok_bind, Json.getString_string, ok_bind,
    Json.atKey_of_find? hcandidates, ok_bind, Json.getArray_ofArray Candidate.fromJson_toJson,
    ok_bind, hversion, ok_bind, hparty]
  rfl

theorem CallAnswer.fromJson_toJson {c : CallAnswer} (h : NoParty c.version c.party_id) :
    CallAnswer.fromJson c.toJson = .ok c := by
  have hid : c.toJson.find? "call_id" = some (.string c.call_id) := by simp [toJson]
  have hanswer : c.toJson.find? "answer" = some c.answer.toJson := by simp [toJson]
  have hversion := version_of_find? (j := c.toJson) (v := c.version) (by simp [toJson])
  have hparty := readPartyId_toJson (j := c.toJson) h fun hv ↦ by simp [toJson, hv]
  rw [CallAnswer.fromJson, Json.atKey_of_find? hid, ok_bind, Json.getString_string, ok_bind,
    Json.atKey_of_find? hanswer, ok_bind, RTCSessionDescriptionInit.fromJson_toJson, ok_bind,
    hversion, ok_bind, hparty]
  rfl

theorem CallHangUp.fromJson_toJson {c : CallHangUp} (h : NoParty c.version c.party_id) :
    CallHangUp.fromJson c.toJson = .ok c := by
  have hid : c.toJson.find? "call_id" = some (.string c.call_id) := by simp [toJson]
  have hversion := version_of_find? (j := c.toJson) (v := c.version) (by simp [toJson])
  have hparty := readPartyId_toJson (j := c.toJson) h fun hv ↦ by simp [toJson, hv]
  have hreason : Reason.fromJson c.toJson = .ok c.reason :=
    Reason.fromJson_insertReason (by simp) c.reason
  rw [CallHangUp.fromJson, Json.atKey_of_find? hid, ok_bind, Json.getString_string, ok_bind,
    hversion, ok_bind, hparty, ok_bind, hreason]
  rfl

theorem CallSelectAnswer.fromJson_toJson (c : CallSelectAnswer) :
    CallSelectAnswer.fromJson c.toJson = .ok c := by
  have hversion := version_of_find? (j := c.toJson) (v := c.version) (by simp [toJson])
  rw [CallSelectAnswer.fromJson, hversion]
  simp [Json.atKey_eq, toJson]

theorem CallReject.fromJson_toJson (c : CallReject) : CallReject.fromJson c.toJson = .ok c := by
  have hversion := version_of_find? (j := c.toJson) (v := c.version) (by simp [toJson])
  rw [CallReject.fromJson, hversion]
  simp [Json.atKey_eq, toJson]

theorem CallNegotiate.fromJson_toJson (c : CallNegotiate) :
    CallNegotiate.fromJson c.toJson = .ok c := by
  simp [fromJson, Json.atKey_eq, toJson, Json.getUInt32,
    RTCSessionDescriptionInit.fromJson_toJson]

/-! ## What is accepted -/

/-- The member is a string. -/
def HasString (j : Json) (key : Str) : Prop := ∃ s, j.find? key = some (.string s)

/-- The version is a number or a string. -/
def HasVersion (j : Json) : Prop :=
  ∃ v, j.find? "version" = some v ∧ (v.isNumber = true ∨ ∃ s, v = .string s)

/-- The version is one that tells the party. -/
def TellsParty (j : Json) : Prop := ∃ s, j.find? "version" = some (.string s) ∧ s ≠ "0"

/-- The member is a session description. -/
def HasDescription (j : Json) (key : Str) : Prop :=
  ∃ d, j.find? key = some d ∧ HasString d "sdp" ∧ HasString d "type"

/-- The lifetime is a number that fits. -/
def HasLifetime (j : Json) : Prop := ∃ v, j.find? "lifetime" = some v ∧ Succeeds v.getUInt32

/-- Two reads one after the other, where it does not depend on the answer of the first whether the
second succeeds. -/
theorem succeeds_bind_iff_of {α β : Type} {x : Except Exn α} {f : α → Except Exn β} {p : Prop}
    (h : ∀ a, x = .ok a → (Succeeds (f a) ↔ p)) : Succeeds (x >>= f) ↔ Succeeds x ∧ p := by
  rw [succeeds_bind_iff]
  constructor
  · rintro ⟨a, hx, hf⟩
    exact ⟨⟨a, hx⟩, (h a hx).mp hf⟩
  · rintro ⟨⟨a, hx⟩, hp⟩
    exact ⟨a, hx, (h a hx).mpr hp⟩

theorem succeeds_member_iff {α β : Type} {j : Json} {key : Str} {get : Json → Except Exn α}
    {f : α → Except Exn β} {p : Prop} (h : ∀ a, Succeeds (f a) ↔ p) :
    Succeeds (do let a ← get (← j.atKey key); f a) ↔
      (∃ v, j.find? key = some v ∧ Succeeds (get v)) ∧ p := by
  simp only [succeeds_bind_iff, Json.atKey_eq_ok_iff, h]
  constructor
  · rintro ⟨v, hv, a, ha, hp⟩
    exact ⟨⟨v, hv, a, ha⟩, hp⟩
  · rintro ⟨⟨v, hv, a, ha⟩, hp⟩
    exact ⟨v, hv, a, ha, hp⟩

theorem succeeds_string_iff {α : Type} {j : Json} {key : Str} {f : Str → Except Exn α} {p : Prop}
    (h : ∀ s, Succeeds (f s) ↔ p) :
    Succeeds (do let s ← (← j.atKey key).getString; f s) ↔ HasString j key ∧ p := by
  rw [succeeds_member_iff h, HasString]
  simp [Json.succeeds_getString_iff]

theorem succeeds_version_iff {j : Json} : Succeeds (version j) ↔ HasVersion j := by
  rw [version, succeeds_bind_iff, HasVersion]
  refine exists_congr fun v ↦ and_congr Json.atKey_eq_ok_iff ?_
  cases hv : v.isNumber with
  | true => simp
  | false => simp [Json.succeeds_getString_iff]

theorem succeeds_description_iff {α : Type} {j : Json} {key : Str}
    {f : RTCSessionDescriptionInit → Except Exn α} {p : Prop} (h : ∀ r, Succeeds (f r) ↔ p) :
    Succeeds (do let r ← RTCSessionDescriptionInit.fromJson (← j.atKey key); f r) ↔
      HasDescription j key ∧ p := by
  rw [succeeds_member_iff h, HasDescription]
  refine and_congr_left' (exists_congr fun d ↦ and_congr_right fun _ ↦ ?_)
  rw [RTCSessionDescriptionInit.fromJson]
  exact succeeds_string_iff fun _ ↦ (succeeds_string_iff fun _ ↦
    iff_of_true (succeeds_pure _) trivial).trans (Iff.of_eq (and_true _))

theorem succeeds_version_bind_iff {α : Type} {j : Json} {f : Str → Except Exn α} {p : Prop}
    (h : ∀ version, Voip.version j = .ok version → (Succeeds (f version) ↔ p)) :
    Succeeds (Voip.version j >>= f) ↔ HasVersion j ∧ p := by
  rw [succeeds_bind_iff_of h, succeeds_version_iff]

theorem tellsParty_iff {j : Json} {version : Str} (h : Voip.version j = .ok version) :
    TellsParty j ↔ version ≠ "0" := by
  obtain ⟨v, hv, h⟩ := bind_eq_ok_iff.mp h
  rw [Json.atKey_eq_ok_iff] at hv
  rw [TellsParty, hv]
  split_ifs at h with hnumber
  · obtain rfl := Except.ok.inj h
    refine iff_of_false ?_ fun h ↦ h rfl
    rintro ⟨s, hs, -⟩
    obtain rfl := Option.some.inj hs
    cases hnumber
  · obtain rfl := Json.getString_eq_ok_iff.mp h
    simp

theorem succeeds_party_iff {j : Json} {version : Str} (h : Voip.version j = .ok version) :
    Succeeds (readPartyId j version) ↔ (TellsParty j → HasString j "party_id") := by
  rw [tellsParty_iff h, readPartyId]
  by_cases hv : version = "0"
  · rw [if_neg (not_not.mpr hv)]
    exact iff_of_true (succeeds_pure _) fun h ↦ absurd hv h
  · rw [if_pos hv]
    simp [hv, succeeds_bind_iff, Json.atKey_eq_ok_iff, Json.succeeds_getString_iff, HasString]

/-- A session description is written with the type that it was read with, if the type is known. -/
theorem RTCSessionDescriptionInit.find?_type {d : Json} {r : RTCSessionDescriptionInit}
    (h : RTCSessionDescriptionInit.fromJson d = .ok r) :
    ∃ type, d.find? "type" = some (.string type) ∧
      (type = "offer" ∨ type = "answer" → r.toJson.find? "type" = some (.string type)) := by
  obtain ⟨v, -, h⟩ := bind_eq_ok_iff.mp h
  obtain ⟨sdp, -, h⟩ := bind_eq_ok_iff.mp h
  obtain ⟨w, hw, h⟩ := bind_eq_ok_iff.mp h
  obtain ⟨type, htype, h⟩ := bind_eq_ok_iff.mp h
  obtain rfl := Json.getString_eq_ok_iff.mp htype
  obtain rfl := Except.ok.inj h
  refine ⟨type, Json.atKey_eq_ok_iff.mp hw, ?_⟩
  rintro (rfl | rfl)
  · simp [RTCSessionDescriptionInit.toJson]
  · simp [RTCSessionDescriptionInit.toJson]

/-! ## What is accepted and kept, content by content -/

theorem noParty_of_readPartyId {j : Json} {version party_id : Str}
    (h : readPartyId j version = .ok party_id) : NoParty version party_id := by
  intro hv
  rw [readPartyId, if_neg (not_not.mpr hv)] at h
  exact (Except.ok.inj h).symm

/-- The members of an invitation. -/
def CallInvite.Readable (j : Json) : Prop :=
  HasString j "call_id" ∧ HasDescription j "offer" ∧ HasVersion j ∧ HasLifetime j ∧
    (TellsParty j → HasString j "party_id" ∧ (j.find? "invitee" = none ∨ HasString j "invitee"))

theorem CallInvite.succeeds_iff (j : Json) : Succeeds (CallInvite.fromJson j) ↔ Readable j := by
  refine succeeds_string_iff fun call_id ↦ succeeds_description_iff fun offer ↦
    succeeds_version_bind_iff fun version hversion ↦ succeeds_member_iff fun lifetime ↦ ?_
  rw [tellsParty_iff hversion]
  split_ifs with hv
  · rw [forall_prop_of_true hv]
    refine succeeds_string_iff fun party_id ↦ ?_
    rw [succeeds_bind_iff_and fun _ ↦ iff_of_true (succeeds_pure _) trivial, and_true,
      Json.succeeds_optional_iff, HasString]
    rcases j.find? "invitee" with - | v
    · simp
    · simp [Json.succeeds_getString_iff]
  · exact iff_of_true (succeeds_pure _) fun h ↦ absurd h hv

theorem CallInvite.of_fromJson {j : Json} {c : CallInvite} (h : CallInvite.fromJson j = .ok c) :
    (NoParty c.version c.party_id ∧ NoParty c.version c.invitee) ∧
      ∃ d, j.find? "offer" = some d ∧ RTCSessionDescriptionInit.fromJson d = .ok c.offer := by
  obtain ⟨_, -, h⟩ := bind_eq_ok_iff.mp h
  obtain ⟨call_id, -, h⟩ := bind_eq_ok_iff.mp h
  obtain ⟨d, hd, h⟩ := bind_eq_ok_iff.mp h
  obtain ⟨offer, hoffer, h⟩ := bind_eq_ok_iff.mp h
  obtain ⟨version, -, h⟩ := bind_eq_ok_iff.mp h
  obtain ⟨_, -, h⟩ := bind_eq_ok_iff.mp h
  obtain ⟨lifetime, -, h⟩ := bind_eq_ok_iff.mp h
  have hdescription := And.intro (Json.atKey_eq_ok_iff.mp hd) hoffer
  split_ifs at h with hv
  · obtain ⟨_, -, h⟩ := bind_eq_ok_iff.mp h
    obtain ⟨party_id, -, h⟩ := bind_eq_ok_iff.mp h
    obtain ⟨invitee, -, h⟩ := bind_eq_ok_iff.mp h
    obtain rfl := Except.ok.inj h
    exact ⟨⟨fun h ↦ absurd h hv, fun h ↦ absurd h hv⟩, d, hdescription⟩
  · obtain rfl := Except.ok.inj h
    exact ⟨⟨fun _ ↦ rfl, fun _ ↦ rfl⟩, d, hdescription⟩

theorem CallCandidates.noParty_of_fromJson {j : Json} {c : CallCandidates}
    (h : CallCandidates.fromJson j = .ok c) : NoParty c.version c.party_id := by
  obtain ⟨_, -, h⟩ := bind_eq_ok_iff.mp h
  obtain ⟨call_id, -, h⟩ := bind_eq_ok_iff.mp h
  obtain ⟨_, -, h⟩ := bind_eq_ok_iff.mp h
  obtain ⟨candidates, -, h⟩ := bind_eq_ok_iff.mp h
  obtain ⟨version, -, h⟩ := bind_eq_ok_iff.mp h
  obtain ⟨party_id, hparty, h⟩ := bind_eq_ok_iff.mp h
  obtain rfl := Except.ok.inj h
  exact noParty_of_readPartyId hparty

/-- The members of an answer. -/
def CallAnswer.Readable (j : Json) : Prop :=
  HasString j "call_id" ∧ HasDescription j "answer" ∧ HasVersion j ∧
    (TellsParty j → HasString j "party_id")

theorem CallAnswer.succeeds_iff (j : Json) : Succeeds (CallAnswer.fromJson j) ↔ Readable j := by
  refine succeeds_string_iff fun call_id ↦ succeeds_description_iff fun answer ↦
    succeeds_version_bind_iff fun version hversion ↦ ?_
  rw [succeeds_bind_iff_and fun _ ↦ iff_of_true (succeeds_pure _) trivial, and_true,
    succeeds_party_iff hversion]

theorem CallAnswer.of_fromJson {j : Json} {c : CallAnswer} (h : CallAnswer.fromJson j = .ok c) :
    NoParty c.version c.party_id ∧
      ∃ d, j.find? "answer" = some d ∧ RTCSessionDescriptionInit.fromJson d = .ok c.answer := by
  obtain ⟨_, -, h⟩ := bind_eq_ok_iff.mp h
  obtain ⟨call_id, -, h⟩ := bind_eq_ok_iff.mp h
  obtain ⟨d, hd, h⟩ := bind_eq_ok_iff.mp h
  obtain ⟨answer, hanswer, h⟩ := bind_eq_ok_iff.mp h
  obtain ⟨version, -, h⟩ := bind_eq_ok_iff.mp h
  obtain ⟨party_id, hparty, h⟩ := bind_eq_ok_iff.mp h
  obtain rfl := Except.ok.inj h
  exact ⟨noParty_of_readPartyId hparty, d, Json.atKey_eq_ok_iff.mp hd, hanswer⟩

theorem CallHangUp.noParty_of_fromJson {j : Json} {c : CallHangUp}
    (h : CallHangUp.fromJson j = .ok c) : NoParty c.version c.party_id := by
  obtain ⟨_, -, h⟩ := bind_eq_ok_iff.mp h
  obtain ⟨call_id, -, h⟩ := bind_eq_ok_iff.mp h
  obtain ⟨version, -, h⟩ := bind_eq_ok_iff.mp h
  obtain ⟨party_id, hparty, h⟩ := bind_eq_ok_iff.mp h
  obtain ⟨reason, -, h⟩ := bind_eq_ok_iff.mp h
  obtain rfl := Except.ok.inj h
  exact noParty_of_readPartyId hparty

/-- The members of a negotiation. -/
def CallNegotiate.Readable (j : Json) : Prop :=
  HasString j "call_id" ∧ HasString j "party_id" ∧ HasLifetime j ∧ HasDescription j "description"

theorem CallNegotiate.succeeds_iff (j : Json) :
    Succeeds (CallNegotiate.fromJson j) ↔ Readable j := by
  refine succeeds_string_iff fun call_id ↦ succeeds_string_iff fun party_id ↦
    succeeds_member_iff fun lifetime ↦ ?_
  exact (succeeds_description_iff fun _ ↦ iff_of_true (succeeds_pure _) trivial).trans
    (Iff.of_eq (and_true _))

theorem CallNegotiate.of_fromJson {j : Json} {c : CallNegotiate}
    (h : CallNegotiate.fromJson j = .ok c) : ∃ d, j.find? "description" = some d ∧
      RTCSessionDescriptionInit.fromJson d = .ok c.description := by
  obtain ⟨_, -, h⟩ := bind_eq_ok_iff.mp h
  obtain ⟨call_id, -, h⟩ := bind_eq_ok_iff.mp h
  obtain ⟨_, -, h⟩ := bind_eq_ok_iff.mp h
  obtain ⟨party_id, -, h⟩ := bind_eq_ok_iff.mp h
  obtain ⟨_, -, h⟩ := bind_eq_ok_iff.mp h
  obtain ⟨lifetime, -, h⟩ := bind_eq_ok_iff.mp h
  obtain ⟨d, hd, h⟩ := bind_eq_ok_iff.mp h
  obtain ⟨description, hdescription, h⟩ := bind_eq_ok_iff.mp h
  obtain rfl := Except.ok.inj h
  exact ⟨d, Json.atKey_eq_ok_iff.mp hd, hdescription⟩

/-! ## The family -/

/-- A content of calls, with how it is read and written. -/
structure CallCodec where
  Content : Type
  fromJson : Json → Except Exn Content
  toJson : Content → Json
  /-- Is everything written that is in the content? -/
  Complete : Content → Prop
  /-- The member that is a session description. -/
  descriptionKey : Option Str
  /-- What is needed for a content with a session description to be read. -/
  Readable : Json → Prop

/-- The type that a content writes for its session description. -/
def CallCodec.descriptionType (k : CallCodec) (j : Json) : Option Json :=
  k.descriptionKey.bind fun key ↦ (j.find? key).bind (·.find? "type")

/-- A complete content is read as it was written, and what is accepted is read again as it was read,
with the type of its session description, of which only two are accepted. -/
structure CallCodec.Keeps (k : CallCodec) (j : Json) : Prop where
  roundTrip : ∀ c, k.Complete c → k.fromJson (k.toJson c) = .ok c
  reread : ∀ c, k.fromJson j = .ok c → k.fromJson (k.toJson c) = .ok c ∧
    k.descriptionType (k.toJson c) = k.descriptionType j
  rejected : ∀ type, k.descriptionType j = some (.string type) → type ≠ "offer" →
    type ≠ "answer" → ¬ Succeeds (k.fromJson j)

/-- Everything can be read, and there is a session description of a type that is not known. -/
def CallCodec.Misreads (k : CallCodec) (j : Json) : Prop :=
  k.Readable j ∧ ∃ type, k.descriptionType j = some (.string type) ∧ type ≠ "offer" ∧
    type ≠ "answer"

/-- What the members of the family have in common. -/
structure CallCodec.Lawful (k : CallCodec) : Prop where
  roundTrip : ∀ c, k.Complete c → k.fromJson (k.toJson c) = .ok c
  complete : ∀ j c, k.fromJson j = .ok c → k.Complete c
  readable : ∀ key, k.descriptionKey = some key → ∀ j, Succeeds (k.fromJson j) ↔ k.Readable j
  description : ∀ key, k.descriptionKey = some key → ∀ j c, k.fromJson j = .ok c →
    ∃ d r, j.find? key = some d ∧ RTCSessionDescriptionInit.fromJson d = .ok r ∧
      (k.toJson c).find? key = some r.toJson

namespace CallCodec

variable {k : CallCodec}

theorem Lawful.of_descriptionKey_eq_none (hkey : k.descriptionKey = none)
    (roundTrip : ∀ c, k.Complete c → k.fromJson (k.toJson c) = .ok c)
    (complete : ∀ j c, k.fromJson j = .ok c → k.Complete c) : k.Lawful where
  roundTrip
  complete
  readable key h := absurd (hkey.symm.trans h) (Option.some_ne_none key).symm
  description key h := absurd (hkey.symm.trans h) (Option.some_ne_none key).symm

/-- **A lawful content is kept exactly if its session description is of a known type.** -/
theorem Lawful.keeps_iff (h : k.Lawful) (j : Json) : k.Keeps j ↔ ¬ k.Misreads j := by
  constructor
  · rintro hkeeps ⟨hreadable, type, htype, hoffer, hanswer⟩
    obtain ⟨key, hkey, -⟩ := Option.bind_eq_some_iff.mp htype
    exact hkeeps.rejected type htype hoffer hanswer ((h.readable key hkey j).mpr hreadable)
  · intro hknown
    refine ⟨h.roundTrip, fun c hc ↦ ⟨h.roundTrip c (h.complete j c hc), ?_⟩, ?_⟩
    · rw [CallCodec.Misreads, CallCodec.descriptionType] at hknown
      rw [CallCodec.descriptionType, CallCodec.descriptionType]
      rcases hkey : k.descriptionKey with - | key
      · rfl
      · obtain ⟨d, r, hd, hr, hwritten⟩ := h.description key hkey j c hc
        obtain ⟨type, htype, hkept⟩ := RTCSessionDescriptionInit.find?_type hr
        have hreadable := (h.readable key hkey j).mp ⟨c, hc⟩
        rw [hkey, Option.bind_some, hd, Option.bind_some, htype] at hknown
        rw [Option.bind_some, Option.bind_some, hd, hwritten, Option.bind_some, Option.bind_some,
          htype]
        refine hkept ?_
        by_contra hne
        rw [not_or] at hne
        exact hknown ⟨hreadable, type, rfl, hne⟩
    · intro type htype hoffer hanswer hread
      obtain ⟨key, hkey, -⟩ := Option.bind_eq_some_iff.mp htype
      exact hknown ⟨(h.readable key hkey j).mp hread, type, htype, hoffer, hanswer⟩

end CallCodec

/-! ## The members -/

/-- `CallInvite`. -/
def CallInvite.codec : CallCodec where
  Content := CallInvite
  fromJson := CallInvite.fromJson
  toJson := CallInvite.toJson
  Complete c := NoParty c.version c.party_id ∧ NoParty c.version c.invitee
  descriptionKey := some "offer"
  Readable := CallInvite.Readable

/-- `CallCandidates`. -/
def CallCandidates.codec : CallCodec where
  Content := CallCandidates
  fromJson := CallCandidates.fromJson
  toJson := CallCandidates.toJson
  Complete c := NoParty c.version c.party_id
  descriptionKey := none
  Readable _ := True

/-- `CallAnswer`. -/
def CallAnswer.codec : CallCodec where
  Content := CallAnswer
  fromJson := CallAnswer.fromJson
  toJson := CallAnswer.toJson
  Complete c := NoParty c.version c.party_id
  descriptionKey := some "answer"
  Readable := CallAnswer.Readable

/-- `CallHangUp`. -/
def CallHangUp.codec : CallCodec where
  Content := CallHangUp
  fromJson := CallHangUp.fromJson
  toJson := CallHangUp.toJson
  Complete c := NoParty c.version c.party_id
  descriptionKey := none
  Readable _ := True

/-- `CallSelectAnswer`. -/
def CallSelectAnswer.codec : CallCodec where
  Content := CallSelectAnswer
  fromJson := CallSelectAnswer.fromJson
  toJson := CallSelectAnswer.toJson
  Complete _ := True
  descriptionKey := none
  Readable _ := True

/-- `CallReject`. -/
def CallReject.codec : CallCodec where
  Content := CallReject
  fromJson := CallReject.fromJson
  toJson := CallReject.toJson
  Complete _ := True
  descriptionKey := none
  Readable _ := True

/-- `CallNegotiate`. -/
def CallNegotiate.codec : CallCodec where
  Content := CallNegotiate
  fromJson := CallNegotiate.fromJson
  toJson := CallNegotiate.toJson
  Complete _ := True
  descriptionKey := some "description"
  Readable := CallNegotiate.Readable

/-- The seven contents. -/
inductive CallKind where
  | invite
  | candidates
  | answer
  | hangUp
  | selectAnswer
  | reject
  | negotiate

/-- The codec of a content. -/
def CallKind.codec : CallKind → CallCodec
  | .invite => CallInvite.codec
  | .candidates => CallCandidates.codec
  | .answer => CallAnswer.codec
  | .hangUp => CallHangUp.codec
  | .selectAnswer => CallSelectAnswer.codec
  | .reject => CallReject.codec
  | .negotiate => CallNegotiate.codec

theorem CallInvite.find?_offer (c : CallInvite) : c.toJson.find? "offer" = some c.offer.toJson := by
  simp [toJson]

theorem CallAnswer.find?_answer (c : CallAnswer) :
    c.toJson.find? "answer" = some c.answer.toJson := by
  simp [toJson]

theorem CallNegotiate.find?_description (c : CallNegotiate) :
    c.toJson.find? "description" = some c.description.toJson := by
  simp [toJson]

theorem CallKind.lawful (kind : CallKind) : kind.codec.Lawful := by
  cases kind with
  | invite =>
    refine ⟨fun c h ↦ CallInvite.fromJson_toJson h.1 h.2,
      fun j c h ↦ (CallInvite.of_fromJson h).1, fun _ _ j ↦ CallInvite.succeeds_iff j, ?_⟩
    rintro key hkey j c h
    obtain rfl := Option.some.inj hkey
    obtain ⟨-, d, hd, hoffer⟩ := CallInvite.of_fromJson h
    exact ⟨d, _, hd, hoffer, c.find?_offer⟩
  | candidates =>
    exact .of_descriptionKey_eq_none rfl (fun c h ↦ CallCandidates.fromJson_toJson h)
      fun j c h ↦ CallCandidates.noParty_of_fromJson h
  | answer =>
    refine ⟨fun c h ↦ CallAnswer.fromJson_toJson h, fun j c h ↦ (CallAnswer.of_fromJson h).1,
      fun _ _ j ↦ CallAnswer.succeeds_iff j, ?_⟩
    rintro key hkey j c h
    obtain rfl := Option.some.inj hkey
    obtain ⟨-, d, hd, hanswer⟩ := CallAnswer.of_fromJson h
    exact ⟨d, _, hd, hanswer, c.find?_answer⟩
  | hangUp =>
    exact .of_descriptionKey_eq_none rfl (fun c h ↦ CallHangUp.fromJson_toJson h)
      fun j c h ↦ CallHangUp.noParty_of_fromJson h
  | selectAnswer =>
    exact .of_descriptionKey_eq_none rfl (fun c _ ↦ c.fromJson_toJson) fun _ _ _ ↦ trivial
  | reject =>
    exact .of_descriptionKey_eq_none rfl (fun c _ ↦ c.fromJson_toJson) fun _ _ _ ↦ trivial
  | negotiate =>
    refine ⟨fun c _ ↦ c.fromJson_toJson, fun _ _ _ ↦ trivial,
      fun _ _ j ↦ CallNegotiate.succeeds_iff j, ?_⟩
    rintro key hkey j c h
    obtain rfl := Option.some.inj hkey
    obtain ⟨d, hd, hdescription⟩ := CallNegotiate.of_fromJson h
    exact ⟨d, _, hd, hdescription, c.find?_description⟩

/-- **The contents of calls are kept exactly if the type of a session description is known**, as
long as everything else of the content can be read. -/
theorem calls_kept_iff (kind : CallKind) (j : Json) :
    kind.codec.Keeps j ↔ ¬ kind.codec.Misreads j :=
  kind.lawful.keeps_iff j

/-- An answer that takes back an offer. -/
def rollback : Json :=
  .object [("answer", .object [("sdp", .string ""), ("type", .string "rollback")]),
    ("call_id", .string "1"), ("version", .numberUnsigned 0)]

theorem not_kept_rollback : ¬ CallKind.answer.codec.Keeps rollback := by
  intro h
  refine h.rejected "rollback" ?_ (by decide) (by decide) ⟨_, rfl⟩
  rfl

end Mtx.Events.Voip
