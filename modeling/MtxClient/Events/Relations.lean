import MtxClient.Json.Access

/-!
# Relations between events

`parse_relations` reads the relations of an event from its content and `add_relations` writes them
back.  Both work on two slots, `m.relates_to` and, for an edit, `m.new_content.m.relates_to`.

`StandardForm content w` says that these slots hold what the specification lets clients write: `w`
lists what stands there, and `StandardContent.answers w` what the five accessors should then answer.
`parseRelations_of_standardForm` computes the relations the code reads from such a content, and
`faithful_iff` says for which `w` reading is right and survives being written and read again.  It
goes wrong for an edit whose own relation is a reply: the code fills in the event it replies to in
`r`, which is in the list already, and appends the empty `r2`.
-/

set_option autoImplicit false

namespace Mtx.Events

open Str

/-! ## Relations -/

/-- Definition of rel_type for relations. -/
inductive RelationType where
  | annotation | reference | replace | inReplyTo | thread | unsupported
  deriving DecidableEq, Repr

/-- `to_json(RelationType)`. -/
def RelationType.toStr : RelationType → Str
  | annotation => "m.annotation"
  | reference => "m.reference"
  | replace => "m.replace"
  | inReplyTo => "im.nheko.relations.v1.in_reply_to"
  | thread => "m.thread"
  | unsupported => "unsupported"

/-- The relation type a string names. -/
def RelationType.ofStr (s : Str) : RelationType :=
  if s = "m.annotation" then annotation
  else if s = "m.reference" then reference
  else if s = "m.replace" then replace
  else if s = "im.nheko.relations.v1.in_reply_to" ∨ s = "m.in_reply_to" then inReplyTo
  else if s = "m.thread" then thread
  else unsupported

/-- `from_json(RelationType)`. -/
def RelationType.fromJson (obj : Json) : Except Exn RelationType := ofStr <$> obj.getString

/-- A relation can be used to refer to a different event. -/
structure Relation where
  /-- Type of relation. -/
  rel_type : RelationType := .unsupported
  /-- Event id being reacted to. -/
  event_id : Str := ""
  /-- The reaction itself. -/
  key : Option Str := none
  /-- Is this a fallback for something else? -/
  is_fallback : Bool := false
  deriving DecidableEq

/-- `from_json(Relation)`. -/
def Relation.fromJson (obj : Json) : Except Exn Relation := do
  let rel_type ← obj.optional "rel_type" RelationType.fromJson .unsupported
  let event_id ← obj.optional "event_id" Json.getString ""
  let key ← obj.optional "key" (fun j ↦ some <$> j.getString) none
  let is_fallback ← obj.optional "im.nheko.relations.v1.is_fallback" Json.getBool false
  return { rel_type, event_id, key, is_fallback }

/-- `to_json(Relation)`. -/
def Relation.toJson (r : Relation) : Json :=
  Json.ofMembers <| Json.noMembers
    |>.insert "rel_type" (.string r.rel_type.toStr)
    |>.insert "event_id" (.string r.event_id)
    |>.insertIf r.key.isSome "key" (.string (r.key.getD ""))
    |>.insertIf r.is_fallback "im.nheko.relations.v1.is_fallback" (.boolean true)

/-- Multiple relations for an event. -/
structure Relations where
  /-- All the relations for this event. -/
  relations : List Relation := []
  /-- Were they generated from `m.relates_to`? -/
  synthesized : Bool := false
  deriving DecidableEq

namespace Relations

variable (rels : Relations) (include_fallback : Bool)

/-- `return_first_relation_matching`. -/
def firstMatching (t : RelationType) : Option Relation :=
  rels.relations.find? fun r ↦ r.rel_type == t && (include_fallback || r.is_fallback == false)

/-- `Relations::reply_to`. -/
def replyTo : Option Str := (firstMatching rels include_fallback .inReplyTo).map (·.event_id)

/-- `Relations::replaces`. -/
def replaces : Option Str := (firstMatching rels include_fallback .replace).map (·.event_id)

/-- `Relations::references`. -/
def references : Option Str := (firstMatching rels include_fallback .reference).map (·.event_id)

/-- `Relations::thread`. -/
def thread : Option Str := (firstMatching rels include_fallback .thread).map (·.event_id)

/-- `Relations::annotates`. -/
def annotates : Option Relation := firstMatching rels include_fallback RelationType.annotation

end Relations

/-! ## Reading -/

/-- The branch of `parse_relations` for an `m.relates_to` with an `m.in_reply_to`. -/
def parseReply (relates_to : Json) : Except Exn Relations := do
  let event_id ← (← (← relates_to.atKey "m.in_reply_to").atKey "event_id").getString
  let inThread := match relates_to.find? "rel_type" with
    | some thread_type => thread_type.eqString "m.thread" && relates_to.contains "event_id"
    | none => false
  if inThread then
    let is_fallback ← relates_to.value "is_falling_back" Json.getBool false
    let thread ← Relation.fromJson relates_to
    return { relations := [thread, { rel_type := .inReplyTo, event_id, is_fallback }],
             synthesized := true }
  else
    return { relations := [{ rel_type := .inReplyTo, event_id }], synthesized := true }

/-- The relation an edit has itself, if any, as `parse_relations` appends it. -/
def parseEdited (content : Json) : Except Exn (List Relation) :=
  match (content.find? "m.new_content").bind (·.find? "m.relates_to") with
  | some secondRel =>
    if secondRel.contains "m.in_reply_to" then do
      -- type and event id are assigned to `r`, not to the `r2` that is appended
      let _ ← (← (← secondRel.atKey "m.in_reply_to").atKey "event_id").getString
      return [{}]
    else do
      return [← Relation.fromJson secondRel]
  | none => .ok []

/-- `parse_relations`.  Its `catch (nlohmann::json &)` names the value type, not the type of the
exceptions, so that nothing is caught. -/
def parseRelations (content : Json) : Except Exn Relations :=
  match content.find? "im.nheko.relations.v1.relations" with
  | some list => do
    return { relations := ← list.getArray Relation.fromJson, synthesized := false }
  | none =>
    match content.find? "m.relates_to" with
    | some relates_to =>
      if relates_to.contains "m.in_reply_to" then parseReply relates_to
      else do
        let r ← Relation.fromJson relates_to
        let edited ← if r.rel_type = .replace then parseEdited content else pure []
        return { relations := r :: edited, synthesized := true }
    | none => .ok {}

/-! ## Writing -/

/-- The three relations `add_relations` distinguishes. -/
structure Slots where
  edit : Option Relation := none
  not_edit : Option Relation := none
  reply : Option Relation := none

/-- One round of the loop of `add_relations` that sorts the relations. -/
def Slots.assign (s : Slots) (r : Relation) : Slots :=
  match r.rel_type with
  | .replace => { s with edit := some r }
  | .inReplyTo => { s with reply := some r }
  | _ => { s with not_edit := some r }

/-- `obj[key].push_back(v)`. -/
def pushBack (obj : Json) (key : Str) (v : Json) : Except Exn Json :=
  match obj.find? key with
  | none | some .null => obj.set key (.array [v])
  | some (.array xs) => obj.set key (.array (xs ++ [v]))
  | some _ => .error (.jsonTypeError 308)

/-- `if (not_edit) …` of `add_relations`. -/
def addNotEdit (content : Json) (not_edit : Option Relation) : Except Exn Json :=
  match not_edit with
  | some r => content.set "m.relates_to" r.toJson
  | none => .ok content

/-- `if (reply) …` of `add_relations`. -/
def addReply (content : Json) (reply not_edit : Option Relation) : Except Exn Json :=
  match reply with
  | some r => do
    let content ← content.setPath ["m.relates_to", "m.in_reply_to", "event_id"] (.string r.event_id)
    if r.is_fallback && not_edit.any (·.rel_type == .thread) then
      content.setPath ["m.relates_to", "is_falling_back"] (.boolean true)
    else
      return content
  | none => .ok content

/-- `if (edit) …` of `add_relations`. -/
def addEdit (content : Json) (edit not_edit : Option Relation) : Except Exn Json :=
  match edit with
  | some r =>
    match not_edit with
    | some _ => do
      let content ← content.setPath ["m.new_content", "m.relates_to"]
        ((content.find? "m.relates_to").getD .null)
      content.set "m.relates_to" r.toJson
    | none => content.set "m.relates_to" r.toJson
  | none => .ok content

/-- `add_relations`. -/
def addRelations (content : Json) (relations : Relations) : Except Exn Json := do
  if relations.relations.isEmpty then return content
  let slots := relations.relations.foldl Slots.assign {}
  let content ← addNotEdit content slots.not_edit
  let content ← addReply content slots.reply slots.not_edit
  let content ← addEdit content slots.edit slots.not_edit
  if relations.synthesized then return content
  (relations.relations.filter (·.rel_type != .unsupported)).foldlM
    (fun content r ↦ pushBack content "im.nheko.relations.v1.relations" r.toJson) content

/-! ## What clients write -/

/-- The types of a relation that stands in `rel_type`. -/
inductive LinkType where
  | annotation | reference | replace | thread
  deriving DecidableEq, Repr

/-- The relation type of the code. -/
def LinkType.toRelationType : LinkType → RelationType
  | annotation => RelationType.annotation
  | reference => .reference
  | replace => .replace
  | thread => .thread

/-- What stands in an `m.relates_to`. -/
inductive StandardRelation where
  /-- A relation with a type, an event and, for reactions, a key. -/
  | link (type : LinkType) (event_id : Str) (key : Option Str)
  /-- A reply and nothing else. -/
  | reply (event_id : Str)
  /-- A reply inside a thread. -/
  | threadReply (event_id thread : Str) (key : Option Str) (is_falling_back : Option Bool)
  deriving DecidableEq

/-- The object `j` is a standard `m.relates_to` that says `s`.  Members of other names may stand
beside. -/
def StandardRelation.Holds (j : Json) : StandardRelation → Prop
  | link type event_id key =>
    j.find? "m.in_reply_to" = none ∧
      j.find? "rel_type" = some (.string type.toRelationType.toStr) ∧
      j.find? "event_id" = some (.string event_id) ∧ j.find? "key" = key.map .string ∧
      j.find? "im.nheko.relations.v1.is_fallback" = none
  | reply event_id =>
    (j.find? "m.in_reply_to").bind (·.find? "event_id") = some (.string event_id) ∧
      j.find? "rel_type" = none
  | threadReply event_id thread key is_falling_back =>
    (j.find? "m.in_reply_to").bind (·.find? "event_id") = some (.string event_id) ∧
      j.find? "rel_type" = some (.string "m.thread") ∧
      j.find? "event_id" = some (.string thread) ∧ j.find? "key" = key.map .string ∧
      j.find? "im.nheko.relations.v1.is_fallback" = none ∧
      j.find? "is_falling_back" = is_falling_back.map .boolean

/-- What the five accessors answer. -/
structure Answers where
  replyTo : Option Str := none
  replaces : Option Str := none
  references : Option Str := none
  thread : Option Str := none
  annotates : Option Relation := none
  deriving DecidableEq

/-- The answers of the accessors, fallbacks included as is their default. -/
def Relations.answers (rels : Relations) : Answers where
  replyTo := rels.replyTo true
  replaces := rels.replaces true
  references := rels.references true
  thread := rels.thread true
  annotates := rels.annotates true

/-- What the accessors should answer about an `m.relates_to`. -/
def StandardRelation.answers : StandardRelation → Answers
  | link LinkType.annotation event_id key =>
    { annotates := some { rel_type := RelationType.annotation, event_id, key } }
  | link .reference event_id _ => { references := some event_id }
  | link .replace event_id _ => { replaces := some event_id }
  | link .thread event_id _ => { thread := some event_id }
  | reply event_id => { replyTo := some event_id }
  | threadReply event_id thread _ _ => { replyTo := some event_id, thread := some thread }

/-- The two answers together, the first one where both have one. -/
def Answers.or (a b : Answers) : Answers where
  replyTo := a.replyTo.or b.replyTo
  replaces := a.replaces.or b.replaces
  references := a.references.or b.references
  thread := a.thread.or b.thread
  annotates := a.annotates.or b.annotates

/-- The relations that stand in a content. -/
structure StandardContent where
  /-- What stands in `m.relates_to`. -/
  outer : StandardRelation
  /-- What stands in `m.new_content.m.relates_to`. -/
  inner : Option StandardRelation := none

/-- What the accessors should answer about a content. -/
def StandardContent.answers (w : StandardContent) : Answers :=
  match w.inner with
  | some s => w.outer.answers.or s.answers
  | none => w.outer.answers

/-- **The content has the relations `w`, in standard form.** -/
structure StandardForm (content : Json) (w : StandardContent) : Prop where
  /-- No relations in the form only this library writes. -/
  standard : content.find? "im.nheko.relations.v1.relations" = none
  /-- The relation of the event. -/
  outer : ∃ j, content.find? "m.relates_to" = some j ∧ w.outer.Holds j
  /-- The relation of an edited content. -/
  inner : match w.inner with
    | some s => w.outer.answers.replaces.isSome ∧
        ∃ j, (content.find? "m.new_content").bind (·.find? "m.relates_to") = some j ∧ s.Holds j
    | none => w.outer.answers.replaces.isSome →
        (content.find? "m.new_content").bind (·.find? "m.relates_to") = none

/-- The relations of the content are read as they stand there, and writing them into an empty
object and reading that again changes no answer. -/
def Faithful (content : Json) (w : StandardContent) : Prop :=
  ∃ rels, parseRelations content = .ok rels ∧ rels.answers = w.answers ∧
    ∃ content' rels', addRelations (.object []) rels = .ok content' ∧
      parseRelations content' = .ok rels' ∧ rels'.answers = rels.answers

/-! ## Reading the standard form -/

/-- The relations the code reads from an `m.relates_to`. -/
def StandardRelation.relations : StandardRelation → List Relation
  | link type event_id key => [{ rel_type := type.toRelationType, event_id, key }]
  | reply event_id => [{ rel_type := .inReplyTo, event_id }]
  | threadReply event_id thread key is_falling_back =>
    [{ rel_type := .thread, event_id := thread, key },
      { rel_type := .inReplyTo, event_id, is_fallback := is_falling_back.getD false }]

/-- The relations the code reads from a content. -/
def StandardContent.relations (w : StandardContent) : Relations where
  relations := w.outer.relations ++
    match w.inner with
    | none => []
    | some (.link type event_id key) => (StandardRelation.link type event_id key).relations
    | some _ => [{}]
  synthesized := true

theorem relationType_fromJson_toStr (t : LinkType) :
    RelationType.fromJson (.string t.toRelationType.toStr) = .ok t.toRelationType := by
  cases t <;> rfl

theorem relation_fromJson_of_members {j : Json} {t : LinkType} {event_id : Str} {key : Option Str}
    (ht : j.find? "rel_type" = some (.string t.toRelationType.toStr))
    (he : j.find? "event_id" = some (.string event_id)) (hk : j.find? "key" = key.map .string)
    (hf : j.find? "im.nheko.relations.v1.is_fallback" = none) :
    Relation.fromJson j = .ok { rel_type := t.toRelationType, event_id, key } := by
  rw [Relation.fromJson, Json.optional, ht, Json.optional, he, Json.optional, hk, Json.optional, hf]
  simp only [relationType_fromJson_toStr, ok_bind, Json.getString_string]
  cases key <;> rfl

/-- The target of a reply is read from below `m.in_reply_to`. -/
theorem replyTarget_eq {α : Type} {j : Json} {event_id : Str}
    (h : (j.find? "m.in_reply_to").bind (·.find? "event_id") = some (.string event_id))
    (f : Str → Except Exn α) :
    (do f (← (← (← j.atKey "m.in_reply_to").atKey "event_id").getString)) = f event_id := by
  obtain ⟨r, hr, he⟩ := Option.bind_eq_some_iff.mp h
  rw [Json.atKey_of_find? hr, ok_bind, Json.atKey_of_find? he, ok_bind, Json.getString_string,
    ok_bind]

theorem contains_in_reply_to {j : Json} {v : Json}
    (h : (j.find? "m.in_reply_to").bind (·.find? "event_id") = some v) :
    j.contains "m.in_reply_to" = true := by
  obtain ⟨r, hr, -⟩ := Option.bind_eq_some_iff.mp h
  exact Json.contains_eq_true_iff.mpr ⟨r, hr⟩

/-- What is appended for the relation of an edited content. -/
theorem parseEdited_eq {content j : Json} {s : StandardRelation}
    (hj : (content.find? "m.new_content").bind (·.find? "m.relates_to") = some j)
    (hs : s.Holds j) :
    parseEdited content = .ok (match s with
      | .link type event_id key => (StandardRelation.link type event_id key).relations
      | _ => [{}]) := by
  rw [parseEdited, hj]
  cases s with
  | link type event_id key =>
    obtain ⟨hr, ht, he, hk, hf⟩ := hs
    simp only [Json.contains, hr, relation_fromJson_of_members ht he hk hf]
    rfl
  | reply event_id =>
    simp only [contains_in_reply_to hs.1, if_true]
    exact replyTarget_eq hs.1 _
  | threadReply event_id thread key is_falling_back =>
    simp only [contains_in_reply_to hs.1, if_true]
    exact replyTarget_eq hs.1 _

/-- Only an edit has a relation of its own. -/
theorem StandardForm.inner_eq_none {content : Json} {w : StandardContent}
    (h : StandardForm content w) (hw : w.outer.answers.replaces = none) : w.inner = none := by
  have hinner := h.inner
  cases hi : w.inner with
  | none => rfl
  | some s => rw [hi] at hinner; simp [hw] at hinner

theorem StandardForm.outer_eq_edit {content : Json} {w : StandardContent} {s : StandardRelation}
    (h : StandardForm content w) (hw : w.inner = some s) :
    ∃ event_id key, w.outer = .link .replace event_id key := by
  have hedit := h.inner
  rw [hw] at hedit
  replace hedit := hedit.1
  cases ho : w.outer with
  | link type event_id key =>
    rw [ho] at hedit
    cases type <;> first | exact ⟨_, _, rfl⟩ | cases hedit
  | reply event_id => rw [ho] at hedit; cases hedit
  | threadReply event_id thread key is_falling_back => rw [ho] at hedit; cases hedit

/-- **What the code reads from a content in standard form.** -/
theorem parseRelations_of_standardForm {content : Json} {w : StandardContent}
    (h : StandardForm content w) : parseRelations content = .ok w.relations := by
  obtain ⟨j, hj, houter⟩ := h.outer
  rw [parseRelations, h.standard, hj]
  cases hw : w.outer with
  | link type event_id key =>
    rw [hw] at houter
    obtain ⟨hr, ht, he, hk, hf⟩ := houter
    simp only [Json.contains, hr, relation_fromJson_of_members ht he hk hf, Option.isSome_none,
      Bool.false_eq_true, if_false, ok_bind]
    by_cases htype : type = .replace
    · subst htype
      have hinner := h.inner
      rw [hw] at hinner
      cases hi : w.inner with
      | none =>
        rw [hi] at hinner
        simp only [LinkType.toRelationType, if_true, parseEdited, hinner rfl]
        rw [StandardContent.relations, hw, hi]
        rfl
      | some s =>
        rw [hi] at hinner
        obtain ⟨-, j', hj', hs⟩ := hinner
        simp only [LinkType.toRelationType, if_true, parseEdited_eq hj' hs, ok_bind]
        rw [StandardContent.relations, hw, hi]
        cases s <;> rfl
    · have hno : w.inner = none := h.inner_eq_none (by
        rw [hw]
        cases type <;> first | rfl | exact absurd rfl htype)
      have hne : type.toRelationType ≠ .replace := by
        cases type <;> simp_all [LinkType.toRelationType]
      simp only [hne, if_false]
      rw [StandardContent.relations, hw, hno]
      rfl
  | reply event_id =>
    have hno : w.inner = none := h.inner_eq_none (by rw [hw]; rfl)
    rw [hw] at houter
    simp only [contains_in_reply_to houter.1, if_true, parseReply, houter.2]
    rw [StandardContent.relations, hw, hno]
    exact replyTarget_eq houter.1 _
  | threadReply event_id thread key is_falling_back =>
    have hno : w.inner = none := h.inner_eq_none (by rw [hw]; rfl)
    rw [hw] at houter
    obtain ⟨hr, ht, he, hk, hf, hb⟩ := houter
    have hthread := relation_fromJson_of_members (t := .thread) ht he hk hf
    have hback : j.value "is_falling_back" Json.getBool false =
        .ok (is_falling_back.getD false) := by
      cases is_falling_back with
      | none => exact Json.value_of_find?_none (Json.isObject_of_find? ht) hb _ _
      | some b => rw [Json.value_of_find? hb]; rfl
    have hevent : j.contains "event_id" = true := Json.contains_eq_true_iff.mpr ⟨_, he⟩
    have hname : (Json.string (lit "m.thread")).eqString "m.thread" = true := by decide
    simp only [contains_in_reply_to hr, if_true, parseReply, ht, hname, hevent, Bool.and_self,
      hthread, hback, ok_bind]
    rw [StandardContent.relations, hw, hno]
    exact replyTarget_eq hr _

/-! ## Writing and reading again -/

/-- What stands in an `m.relates_to` after it is read and written: `is_falling_back` is left out
where it is not set. -/
def StandardRelation.rewritten : StandardRelation → StandardRelation
  | threadReply event_id thread key is_falling_back =>
    threadReply event_id thread key (if is_falling_back = some true then some true else none)
  | s => s

/-- What stands in an empty object after the relations read from a content are written there: of
two edits only the inner one is left. -/
def StandardContent.rewritten (w : StandardContent) : StandardContent :=
  match w.inner with
  | none => { outer := w.outer.rewritten }
  | some (.link .replace event_id key) => { outer := .link .replace event_id key }
  | some _ => w

theorem holds_toJson (type : LinkType) (event_id : Str) (key : Option Str) :
    (StandardRelation.link type event_id key).Holds
      ({ rel_type := type.toRelationType, event_id, key } : Relation).toJson := by
  refine ⟨?_, ?_, ?_, ?_, ?_⟩
  · simp [Relation.toJson]
  · simp [Relation.toJson]
  · simp [Relation.toJson]
  · cases key <;> simp [Relation.toJson]
  · simp [Relation.toJson]

/-- A content with a single relation in `m.relates_to` is in standard form. -/
theorem standardForm_single {j : Json} {s : StandardRelation} (hs : s.Holds j) :
    StandardForm (.object [(lit "m.relates_to", j)]) { outer := s } :=
  ⟨rfl, ⟨j, rfl, hs⟩, fun _ ↦ rfl⟩

theorem addRelations_link (type : LinkType) (event_id : Str) (key : Option Str) :
    addRelations (.object []) ⟨(StandardRelation.link type event_id key).relations, true⟩ =
      .ok (.object [(lit "m.relates_to",
        ({ rel_type := type.toRelationType, event_id, key } : Relation).toJson)]) := by
  cases type <;> rfl

theorem addRelations_edit {type : LinkType} (htype : type ≠ .replace) (event_id edited : Str)
    (key editKey : Option Str) :
    addRelations (.object [])
        ⟨(StandardRelation.link .replace edited editKey).relations ++
          (StandardRelation.link type event_id key).relations, true⟩ =
      .ok (.object [
        (lit "m.new_content", .object [(lit "m.relates_to",
          ({ rel_type := type.toRelationType, event_id, key } : Relation).toJson)]),
        (lit "m.relates_to",
          ({ rel_type := .replace, event_id := edited, key := editKey } : Relation).toJson)]) := by
  cases type <;> first | rfl | exact absurd rfl htype

theorem addRelations_threadReply (event_id thread : Str) (key : Option Str)
    (is_falling_back : Option Bool) :
    ∃ j, addRelations (.object [])
        ⟨(StandardRelation.threadReply event_id thread key is_falling_back).relations, true⟩ =
      .ok (.object [(lit "m.relates_to", j)]) ∧
      (StandardRelation.threadReply event_id thread key
        (if is_falling_back = some true then some true else none)).Holds j := by
  cases key with
  | none =>
    rcases is_falling_back with _ | _ | _ <;> exact ⟨_, rfl, rfl, rfl, rfl, rfl, rfl, rfl⟩
  | some k =>
    rcases is_falling_back with _ | _ | _ <;> exact ⟨_, rfl, rfl, rfl, rfl, rfl, rfl, rfl⟩

/-- **Writing relations without a reply inside an edit gives a content in standard form.** -/
theorem standardForm_addRelations {content : Json} {w : StandardContent}
    (h : StandardForm content w) (hw : ∀ s, w.inner = some s → s.answers.replyTo = none) :
    ∃ content', addRelations (.object []) w.relations = .ok content' ∧
      StandardForm content' w.rewritten := by
  obtain ⟨outer, inner⟩ := w
  cases inner with
  | none =>
    cases outer with
    | link type event_id key =>
      exact ⟨_, addRelations_link type event_id key, standardForm_single (holds_toJson _ _ _)⟩
    | reply event_id => exact ⟨_, rfl, standardForm_single ⟨rfl, rfl⟩⟩
    | threadReply event_id thread key is_falling_back =>
      obtain ⟨j, hj, hholds⟩ := addRelations_threadReply event_id thread key is_falling_back
      exact ⟨_, hj, standardForm_single hholds⟩
  | some s =>
    -- the outer relation is an edit, the inner one no reply
    obtain ⟨edited, editKey, hedit⟩ := h.outer_eq_edit rfl
    obtain rfl : outer = .link .replace edited editKey := hedit
    cases s with
    | link type event_id key =>
      by_cases htype : type = .replace
      · subst htype
        exact ⟨_, rfl, standardForm_single (holds_toJson .replace event_id key)⟩
      · refine ⟨_, addRelations_edit htype event_id edited key editKey, rfl,
          ⟨_, rfl, ?_⟩, ?_⟩
        · cases type <;> first | exact holds_toJson .replace edited editKey | exact absurd rfl htype
        · cases type <;>
            first | exact ⟨rfl, _, rfl, holds_toJson _ event_id key⟩ | exact absurd rfl htype
    | reply event_id => cases hw _ rfl
    | threadReply event_id thread key is_falling_back => cases hw _ rfl

/-! ## When both are faithful -/

/-- Reading answers right unless the edited content is a reply. -/
theorem answers_relations_iff {content : Json} {w : StandardContent}
    (h : StandardForm content w) :
    w.relations.answers = w.answers ↔ ∀ s, w.inner = some s → s.answers.replyTo = none := by
  obtain ⟨outer, inner⟩ := w
  cases inner with
  | none =>
    refine iff_of_true ?_ (fun s hs ↦ by cases hs)
    cases outer with
    | link type event_id key => cases type <;> rfl
    | reply event_id => rfl
    | threadReply event_id thread key is_falling_back => rfl
  | some s =>
    obtain ⟨edited, editKey, hedit⟩ := h.outer_eq_edit rfl
    obtain rfl : outer = .link .replace edited editKey := hedit
    cases s with
    | link type event_id key =>
      refine iff_of_true ?_ fun s hs ↦ ?_
      · cases type <;> rfl
      · obtain rfl := Option.some.inj hs
        cases type <;> rfl
    | reply event_id =>
      refine iff_of_false (fun heq ↦ ?_) fun hs ↦ ?_
      · cases congrArg Answers.replyTo heq
      · cases hs _ rfl
    | threadReply event_id thread key is_falling_back =>
      refine iff_of_false (fun heq ↦ ?_) fun hs ↦ ?_
      · cases congrArg Answers.replyTo heq
      · cases hs _ rfl

/-- Writing and reading again changes no answer unless the edited content is an edit, of another
event. -/
theorem answers_rewritten_iff {content : Json} {w : StandardContent} (h : StandardForm content w)
    (hw : ∀ s, w.inner = some s → s.answers.replyTo = none) :
    w.rewritten.relations.answers = w.relations.answers ↔
      ∀ s, w.inner = some s →
        ∀ id, s.answers.replaces = some id → w.outer.answers.replaces = some id := by
  obtain ⟨outer, inner⟩ := w
  cases inner with
  | none =>
    refine iff_of_true ?_ (fun s hs ↦ by cases hs)
    cases outer with
    | link type event_id key => cases type <;> rfl
    | reply event_id => rfl
    | threadReply event_id thread key is_falling_back =>
      rcases is_falling_back with _ | _ | _ <;> rfl
  | some s =>
    obtain ⟨edited, editKey, hedit⟩ := h.outer_eq_edit rfl
    obtain rfl : outer = .link .replace edited editKey := hedit
    cases s with
    | link type event_id key =>
      by_cases htype : type = .replace
      · subst htype
        constructor
        · intro heq s hs id hid
          obtain rfl := Option.some.inj hs
          rw [← hid]
          exact (congrArg Answers.replaces heq).symm
        · intro hid
          obtain rfl : edited = event_id := Option.some.inj (hid _ rfl _ rfl)
          rfl
      · refine iff_of_true ?_ fun s hs id hid ↦ ?_
        · cases type <;> first | rfl | exact absurd rfl htype
        · obtain rfl := Option.some.inj hs
          cases type <;> first | exact absurd rfl htype | cases hid
    | reply event_id => cases hw _ rfl
    | threadReply event_id thread key is_falling_back => cases hw _ rfl

/-- **A content in standard form is read and written faithfully exactly when the relation of its
edited content is no reply and no edit of another event.** -/
theorem faithful_iff (content : Json) (w : StandardContent) (h : StandardForm content w) :
    Faithful content w ↔
      ∀ s, w.inner = some s → s.answers.replyTo = none ∧
        ∀ id, s.answers.replaces = some id → w.outer.answers.replaces = some id := by
  have hread := parseRelations_of_standardForm h
  constructor
  · rintro ⟨rels, hrels, hanswers, content', rels', hadd, hread', hanswers'⟩
    obtain rfl := Except.ok.inj (hread.symm.trans hrels)
    have hw := (answers_relations_iff h).mp hanswers
    obtain ⟨content'', hadd', hform⟩ := standardForm_addRelations h hw
    obtain rfl := Except.ok.inj (hadd.symm.trans hadd')
    obtain rfl := Except.ok.inj (hread'.symm.trans (parseRelations_of_standardForm hform))
    exact fun s hs ↦ ⟨hw s hs, (answers_rewritten_iff h hw).mp hanswers' s hs⟩
  · intro hcond
    have hw := fun s hs ↦ (hcond s hs).1
    obtain ⟨content', hadd, hform⟩ := standardForm_addRelations h hw
    exact ⟨_, hread, (answers_relations_iff h).mpr hw, content', _, hadd,
      parseRelations_of_standardForm hform,
      (answers_rewritten_iff h hw).mpr fun s hs ↦ (hcond s hs).2⟩

/-- A content with an edit of `$a` whose edited content has `m.relates_to` as given. -/
def editOf (m_relates_to : Json) : Json :=
  .object [
    (lit "m.new_content", .object [(lit "m.relates_to", m_relates_to)]),
    (lit "m.relates_to", .object [
      (lit "event_id", .string "$a"), (lit "rel_type", .string "m.replace")])]

/-- A reference to `$b`. -/
def referenceToB : Json :=
  .object [(lit "event_id", .string "$b"), (lit "rel_type", .string "m.reference")]

/-- A reply to `$b`. -/
def replyToB : Json :=
  .object [(lit "m.in_reply_to", .object [(lit "event_id", .string "$b")])]

/-- What an edit of `$a` with the relation `s` says. -/
def editOfA (s : StandardRelation) : StandardContent := ⟨.link .replace "$a" none, some s⟩

/-- An edit that refers to `$b` is read and written faithfully. -/
theorem faithful_edit_with_reference :
    StandardForm (editOf referenceToB) (editOfA (.link .reference "$b" none)) ∧
      Faithful (editOf referenceToB) (editOfA (.link .reference "$b" none)) := by
  have hform : StandardForm (editOf referenceToB) (editOfA (.link .reference "$b" none)) :=
    ⟨rfl, ⟨_, rfl, rfl, rfl, rfl, rfl, rfl⟩, rfl, referenceToB, rfl, rfl, rfl, rfl, rfl, rfl⟩
  refine ⟨hform, (faithful_iff _ _ hform).mpr fun s hs ↦ ?_⟩
  obtain rfl := Option.some.inj hs
  exact ⟨rfl, fun id hid ↦ by cases hid⟩

/-- **An edit of a reply to `$b` is read without the event it replies to.** -/
theorem edit_of_reply_not_faithful :
    StandardForm (editOf replyToB) (editOfA (.reply "$b")) ∧
      (editOfA (.reply "$b")).answers.replyTo = some (lit "$b") ∧
      (parseRelations (editOf replyToB)).toOption.map (·.answers.replyTo) = some none ∧
      ¬ Faithful (editOf replyToB) (editOfA (.reply "$b")) := by
  have hread : (parseRelations (editOf replyToB)).toOption.map (·.answers.replyTo) =
      some none := by rfl
  refine ⟨⟨rfl, ⟨_, rfl, rfl, rfl, rfl, rfl, rfl⟩, rfl, replyToB, rfl, rfl, rfl⟩, rfl, hread, ?_⟩
  rintro ⟨rels, hrels, hanswers, -⟩
  rw [hrels] at hread
  have hnone : rels.answers.replyTo = none := Option.some.inj hread
  rw [hanswers] at hnone
  cases hnone

end Mtx.Events
