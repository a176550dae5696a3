import MtxClient.Events.Rereading

/-!
# Message contents

The contents of `m.room.message` by their `msgtype`, of stickers and of reactions.  Emotes, notices,
texts and Element's effects have the same members and differ in the `msgtype` they are written with:
an effect keeps the one it was read with.

For each content, `rereads` says that it can be written and read again.  There is none for a message
with an unknown `msgtype`, which is written on top of the text of the content that it was read from.
-/

set_option autoImplicit false

namespace Mtx.Events.Msg

open Str

/-- `FORMAT_MSG_TYPE`. -/
def formatMsgType : Str := "org.matrix.custom.html"

/-- A content that has a `body` and no `formatted_body`. -/
theorem plain_of_body {m : SortedMap Str Json}
    (hkeys : m.find? "m.relates_to" = none ∧ m.find? "im.nheko.relations.v1.relations" = none ∧
      m.find? "m.new_content" = none)
    (hbody : ∃ s, m.find? "body" = some (.string s))
    (hformatted : m.find? "formatted_body" = none) :
    Plain (Json.ofMembers m) := by
  obtain ⟨s, hs⟩ := hbody
  refine plain_ofMembers hkeys (fun v hv ↦ ⟨s, ?_⟩) (fun v hv ↦ ?_)
  · exact Option.some.inj (hv.symm.trans hs)
  · rw [hformatted] at hv
    cases hv

/-- A content with a `msgtype`. -/
theorem rereads_message {C : Type} [EventContent C] (hC : EventContent.isEncrypted C = false)
    {m : SortedMap Str Json} {msgtype : Str} (hmsgtype : m.find? "msgtype" = some (.string msgtype))
    (hplain : Plain (Json.ofMembers m)) (rels : Relations)
    (hread : ∀ r, SameMembers (Json.ofMembers m) r →
      Succeeds (EventContent.fromJson (C := C) r)) :
    ∃ j, applyRelations (Json.ofMembers m) rels = .ok j ∧
      j.find? "msgtype" = some (.string msgtype) ∧ Succeeds (contentFrom C j) := by
  obtain ⟨j, hj, -, houter, hcontent⟩ := rereads hplain rels hC hread
  refine ⟨j, hj, ?_, hcontent⟩
  rw [houter _ (by decide) (by simp) (by simp), Json.find?_ofMembers, hmsgtype]

/-! ## Texts -/

/-- The members of emotes, notices, texts and effects. -/
structure Formatted where
  body : Str := ""
  msgtype : Str := ""
  format : Str := ""
  formatted_body : Str := ""
  relations : Relations := {}
  mentions : Option Mentions := none

/-- `from_json` of emotes, notices, texts and effects. -/
def Formatted.fromJson (obj : Json) : Except Exn Formatted := do
  let body ← (← obj.atKey "body").getString
  let msgtype ← (← obj.atKey "msgtype").getString
  let format ← obj.optional "format" Json.getString ""
  let formatted_body ← obj.optional "formatted_body" Json.getString ""
  let relations ← parseRelations obj
  let mentions ← parseMentions obj
  return { body, msgtype, format, formatted_body, relations, mentions }

/-- The members that are written before the relations. -/
def Formatted.members (content : Formatted) (msgtype : Str) : SortedMap Str Json :=
  addMentions (Json.noMembers
    |>.insert "msgtype" (.string msgtype)
    |>.insert "body" (.string content.body)
    |>.insertIf (!content.formatted_body.isEmpty) "format" (.string formatMsgType)
    |>.insertIf (!content.formatted_body.isEmpty) "formatted_body"
      (.string content.formatted_body)) content.mentions

/-- `to_json` of emotes, notices, texts and effects. -/
def Formatted.toJson (content : Formatted) (msgtype : Str) : Except Exn Json :=
  applyRelations (Json.ofMembers (content.members msgtype)) content.relations

/-- Content of `m.room.message` with `msgtype` `m.emote`. -/
structure Emote extends Formatted

/-- Content of `m.room.message` with `msgtype` `m.notice`. -/
structure Notice extends Formatted

/-- Content of `m.room.message` with `msgtype` `m.text`. -/
structure Text extends Formatted

/-- Content of `m.room.message` with a `msgtype` that Element shows an effect for. -/
structure ElementEffect extends Formatted

/-- `to_json(Emote)`. -/
def Emote.toJson (content : Emote) : Except Exn Json := content.toFormatted.toJson "m.emote"

/-- `to_json(Notice)`. -/
def Notice.toJson (content : Notice) : Except Exn Json := content.toFormatted.toJson "m.notice"

/-- `to_json(Text)`. -/
def Text.toJson (content : Text) : Except Exn Json := content.toFormatted.toJson "m.text"

/-- `to_json(ElementEffect)`. -/
def ElementEffect.toJson (content : ElementEffect) : Except Exn Json :=
  content.toFormatted.toJson content.msgtype

instance : EventContent Emote :=
  .ofRelated (fun obj ↦ Emote.mk <$> Formatted.fromJson obj) Emote.toJson {}

instance : EventContent Notice :=
  .ofRelated (fun obj ↦ Notice.mk <$> Formatted.fromJson obj) Notice.toJson {}

instance : EventContent Text :=
  .ofRelated (fun obj ↦ Text.mk <$> Formatted.fromJson obj) Text.toJson {}

instance : EventContent ElementEffect :=
  .ofRelated (fun obj ↦ ElementEffect.mk <$> Formatted.fromJson obj) ElementEffect.toJson {}

/-- What is written before the relations is a plain object with a `msgtype`. -/
theorem Formatted.plain (content : Formatted) (msgtype : Str) :
    Plain (Json.ofMembers (content.members msgtype)) := by
  refine plain_ofMembers ?_ (fun v hv ↦ ?_) (fun v hv ↦ ?_)
  · simp [Formatted.members]
  · simp [Formatted.members] at hv
    exact ⟨_, hv.symm⟩
  · simp [Formatted.members] at hv
    exact ⟨_, hv.2.symm⟩

theorem Formatted.succeeds_fromJson (content : Formatted) {msgtype : Str} {r : Json}
    (h : SameMembers (Json.ofMembers (content.members msgtype)) r) :
    Succeeds (Formatted.fromJson r) := by
  obtain ⟨rels, hrels⟩ := h.parseRelations
  have hmentions := h.parseMentions (m := content.mentions) (by simp [Formatted.members])
  rw [Formatted.fromJson, hrels, hmentions]
  by_cases hempty : content.formatted_body.isEmpty = true
  all_goals simp (disch := decide) [Json.atKey_eq, Json.optional, h.find?, Formatted.members,
    hempty]

/-- The four message types are read with the `from_json` that they share. -/
theorem Formatted.rereads {C : Type} [EventContent C] (hC : EventContent.isEncrypted C = false)
    (hread : ∀ r, Succeeds (EventContent.fromJson (C := C) r) ↔ Succeeds (Formatted.fromJson r))
    (content : Formatted) (msgtype : Str) :
    ∃ j, content.toJson msgtype = .ok j ∧ j.find? "msgtype" = some (.string msgtype) ∧
      Succeeds (contentFrom C j) :=
  rereads_message hC (by simp [Formatted.members]) (content.plain msgtype) content.relations
    fun r hr ↦ (hread r).mpr (content.succeeds_fromJson hr)

theorem Emote.rereads (content : Emote) : ∃ j, content.toJson = .ok j ∧
    j.find? "msgtype" = some (.string "m.emote") ∧ Succeeds (contentFrom Emote j) :=
  Formatted.rereads rfl (fun _ ↦ succeeds_map_iff) content.toFormatted _

theorem Notice.rereads (content : Notice) : ∃ j, content.toJson = .ok j ∧
    j.find? "msgtype" = some (.string "m.notice") ∧ Succeeds (contentFrom Notice j) :=
  Formatted.rereads rfl (fun _ ↦ succeeds_map_iff) content.toFormatted _

theorem Text.rereads (content : Text) : ∃ j, content.toJson = .ok j ∧
    j.find? "msgtype" = some (.string "m.text") ∧ Succeeds (contentFrom Text j) :=
  Formatted.rereads rfl (fun _ ↦ succeeds_map_iff) content.toFormatted _

theorem ElementEffect.rereads (content : ElementEffect) : ∃ j, content.toJson = .ok j ∧
    j.find? "msgtype" = some (.string content.msgtype) ∧ Succeeds (contentFrom ElementEffect j) :=
  Formatted.rereads rfl (fun _ ↦ succeeds_map_iff) content.toFormatted _

/-! ## Media -/

/-- `if (content.file) obj["file"] = content.file.value(); else obj["url"] = content.url;`. -/
def insertFileOrUrl (m : SortedMap Str Json) (file : Option EncryptedFile) (url : Str) :
    SortedMap Str Json :=
  match file with
  | some f => m.insert "file" f.toJson
  | none => m.insert "url" (.string url)

@[simp] theorem find?_insertFileOrUrl (m : SortedMap Str Json) (file : Option EncryptedFile)
    (url k : Str) : (insertFileOrUrl m file url).find? k =
      if k = "file" then (file.map EncryptedFile.toJson).or (m.find? k)
      else if k = "url" then (if file.isNone then some (.string url) else m.find? k)
      else m.find? k := by
  by_cases hf : k = "file"
  · subst hf
    cases file <;> simp [insertFileOrUrl]
  · cases file <;> simp [insertFileOrUrl, hf]

/-- Content of `m.room.message` with `msgtype` `m.audio`. -/
structure Audio where
  body : Str := ""
  msgtype : Str := ""
  url : Str := ""
  info : AudioInfo := {}
  file : Option EncryptedFile := none
  relations : Relations := {}
  mentions : Option Mentions := none

/-- `from_json(Audio)`. -/
def Audio.fromJson (obj : Json) : Except Exn Audio := do
  let body ← (← obj.atKey "body").getString
  let msgtype ← (← obj.atKey "msgtype").getString
  let url ← obj.optional "url" Json.getString ""
  let info ← obj.optional "info" AudioInfo.fromJson {}
  let file ← readFile obj "file"
  let relations ← parseRelations obj
  let mentions ← parseMentions obj
  return { body, msgtype, url, info, file, relations, mentions }

/-- The members that are written before the relations. -/
def Audio.members (content : Audio) : SortedMap Str Json :=
  let m := Json.noMembers
    |>.insert "msgtype" (.string "m.audio")
    |>.insert "body" (.string content.body)
    |>.insert "info" content.info.toJson
  addMentions (insertFileOrUrl m content.file content.url) content.mentions

/-- `to_json(Audio)`. -/
def Audio.toJson (content : Audio) : Except Exn Json :=
  applyRelations (Json.ofMembers content.members) content.relations

instance : EventContent Audio := .ofRelated Audio.fromJson Audio.toJson {}

theorem Audio.rereads (content : Audio) : ∃ j, content.toJson = .ok j ∧
    j.find? "msgtype" = some (.string "m.audio") ∧ Succeeds (contentFrom Audio j) := by
  refine rereads_message rfl (by simp [members]) (plain_of_body (by simp [members])
    (by simp [members]) (by simp [members])) content.relations fun r hr ↦ ?_
  obtain ⟨rels, hrels⟩ := hr.parseRelations
  have hmentions := hr.parseMentions (m := content.mentions) (by simp [members])
  show Succeeds (Audio.fromJson r)
  rw [Audio.fromJson, hrels, hmentions]
  rcases hfile : content.file with - | f
  all_goals simp (disch := decide) [Json.atKey_eq, Json.optional, hr.find?, readFile, members,
    hfile, AudioInfo.fromJson_toJson, EncryptedFile.fromJson_toJson]

/-- Content of `m.room.message` with `msgtype` `m.file`. -/
structure File where
  body : Str := ""
  filename : Str := ""
  msgtype : Str := ""
  url : Str := ""
  info : FileInfo := {}
  file : Option EncryptedFile := none
  relations : Relations := {}
  mentions : Option Mentions := none

/-- `from_json(File)`. -/
def File.fromJson (obj : Json) : Except Exn File := do
  let body ← (← obj.atKey "body").getString
  let msgtype ← (← obj.atKey "msgtype").getString
  let url ← obj.optional "url" Json.getString ""
  let filename ← obj.optional "filename" Json.getString ""
  let info ← obj.optional "info" FileInfo.fromJson {}
  let file ← readFile obj "file"
  let relations ← parseRelations obj
  let mentions ← parseMentions obj
  return { body, filename, msgtype, url, info, file, relations, mentions }

/-- The members that are written before the relations. -/
def File.members (content : File) : SortedMap Str Json :=
  let m := Json.noMembers
    |>.insert "msgtype" (.string "m.file")
    |>.insert "body" (.string content.body)
    |>.insertIf (!content.filename.isEmpty) "filename" (.string content.filename)
    |>.insert "info" content.info.toJson
  addMentions (insertFileOrUrl m content.file content.url) content.mentions

/-- `to_json(File)`. -/
def File.toJson (content : File) : Except Exn Json :=
  applyRelations (Json.ofMembers content.members) content.relations

instance : EventContent File := .ofRelated File.fromJson File.toJson {}

theorem File.rereads (content : File) : ∃ j, content.toJson = .ok j ∧
    j.find? "msgtype" = some (.string "m.file") ∧ Succeeds (contentFrom File j) := by
  refine rereads_message rfl (by simp [members]) (plain_of_body (by simp [members])
    (by simp [members]) (by simp [members])) content.relations fun r hr ↦ ?_
  obtain ⟨rels, hrels⟩ := hr.parseRelations
  have hmentions := hr.parseMentions (m := content.mentions) (by simp [members])
  show Succeeds (File.fromJson r)
  rw [File.fromJson, hrels, hmentions]
  rcases hfile : content.file with - | f <;> by_cases hname : content.filename.isEmpty = true
  all_goals simp (disch := decide) [Json.atKey_eq, Json.optional, hr.find?, readFile, members,
    hfile, hname, FileInfo.fromJson_toJson, EncryptedFile.fromJson_toJson]

/-- Content of `m.room.message` with `msgtype` `m.image`. -/
structure Image where
  body : Str := ""
  msgtype : Str := ""
  url : Str := ""
  info : ImageInfo := {}
  file : Option EncryptedFile := none
  relations : Relations := {}
  mentions : Option Mentions := none

/-- `from_json(Image)`. -/
def Image.fromJson (obj : Json) : Except Exn Image := do
  let body ← obj.value "body" Json.getString ""
  let msgtype ← (← obj.atKey "msgtype").getString
  let url ← obj.value "url" Json.getString ""
  let info ← obj.optional "info" ImageInfo.fromJson {}
  let file ← readFile obj "file"
  let relations ← parseRelations obj
  let mentions ← parseMentions obj
  return { body, msgtype, url, info, file, relations, mentions }

/-- The members that are written before the relations. -/
def Image.members (content : Image) : SortedMap Str Json :=
  let m := Json.noMembers
    |>.insert "msgtype" (.string "m.image")
    |>.insert "body" (.string content.body)
    |>.insert "info" content.info.toJson
  addMentions (insertFileOrUrl m content.file content.url) content.mentions

/-- `to_json(Image)`. -/
def Image.toJson (content : Image) : Except Exn Json :=
  applyRelations (Json.ofMembers content.members) content.relations

instance : EventContent Image := .ofRelated Image.fromJson Image.toJson {}

theorem Image.rereads (content : Image) : ∃ j, content.toJson = .ok j ∧
    j.find? "msgtype" = some (.string "m.image") ∧ Succeeds (contentFrom Image j) := by
  refine rereads_message rfl (by simp [members]) (plain_of_body (by simp [members])
    (by simp [members]) (by simp [members])) content.relations fun r hr ↦ ?_
  have hobj : r.isObject = true := hr.isObject (Json.isObject_of_find?
    (k := "msgtype") (v := .string "m.image") (by simp [members]))
  obtain ⟨rels, hrels⟩ := hr.parseRelations
  have hmentions := hr.parseMentions (m := content.mentions) (by simp [members])
  show Succeeds (Image.fromJson r)
  rw [Image.fromJson, hrels, hmentions]
  rcases hfile : content.file with - | f
  all_goals simp (disch := decide) [Json.atKey_eq, Json.value_eq, hobj, Json.optional, hr.find?,
    readFile, members, hfile, ImageInfo.fromJson_toJson, EncryptedFile.fromJson_toJson]

/-- Content of `m.sticker`. -/
structure StickerImage where
  body : Str := ""
  url : Str := ""
  info : ImageInfo := {}
  file : Option EncryptedFile := none
  relations : Relations := {}
  mentions : Option Mentions := none

/-- `from_json(StickerImage)`. -/
def StickerImage.fromJson (obj : Json) : Except Exn StickerImage := do
  let body ← obj.value "body" Json.getString ""
  let url ← obj.value "url" Json.getString ""
  let info ← obj.optional "info" ImageInfo.fromJson {}
  let file ← readFile obj "file"
  let relations ← parseRelations obj
  let mentions ← parseMentions obj
  return { body, url, info, file, relations, mentions }

/-- The members that are written before the relations. -/
def StickerImage.members (content : StickerImage) : SortedMap Str Json :=
  let m := Json.noMembers
    |>.insert "body" (.string content.body)
    |>.insert "info" content.info.toJson
  addMentions (insertFileOrUrl m content.file content.url) content.mentions

/-- `to_json(StickerImage)`. -/
def StickerImage.toJson (content : StickerImage) : Except Exn Json :=
  applyRelations (Json.ofMembers content.members) content.relations

instance : EventContent StickerImage := .ofRelated StickerImage.fromJson StickerImage.toJson {}

theorem StickerImage.rereads (content : StickerImage) :
    ∃ j, content.toJson = .ok j ∧ Succeeds (contentFrom StickerImage j) := by
  obtain ⟨j, hj, -, -, hcontent⟩ := Events.rereads (C := StickerImage)
    (plain_of_body (m := content.members) (by simp [members]) (by simp [members])
      (by simp [members])) content.relations rfl fun r hr ↦ by
    have hobj : r.isObject = true := hr.isObject (Json.isObject_of_find?
      (k := "info") (v := content.info.toJson) (by simp [members]))
    obtain ⟨rels, hrels⟩ := hr.parseRelations
    have hmentions := hr.parseMentions (m := content.mentions) (by simp [members])
    show Succeeds (StickerImage.fromJson r)
    rw [StickerImage.fromJson, hrels, hmentions]
    rcases hfile : content.file with - | f
    all_goals simp (disch := decide) [Json.value_eq, hobj, Json.optional, hr.find?, readFile,
      members, hfile, ImageInfo.fromJson_toJson, EncryptedFile.fromJson_toJson]
  exact ⟨j, hj, hcontent⟩

/-- Content of `m.room.message` with `msgtype` `m.location`. -/
structure Location where
  body : Str := ""
  msgtype : Str := ""
  geo_uri : Str := ""
  info : LocationInfo := {}
  relations : Relations := {}

/-- `from_json(Location)`. -/
def Location.fromJson (obj : Json) : Except Exn Location := do
  let body ← (← obj.atKey "body").getString
  let msgtype ← (← obj.atKey "msgtype").getString
  let geo_uri ← obj.optional "geo_uri" Json.getString ""
  let info ← obj.optional "info" LocationInfo.fromJson {}
  let relations ← parseRelations obj
  return { body, msgtype, geo_uri, info, relations }

/-- The members that are written before the relations. -/
def Location.members (content : Location) : SortedMap Str Json :=
  Json.noMembers
    |>.insert "msgtype" (.string "m.location")
    |>.insert "body" (.string content.body)
    |>.insert "geo_uri" (.string content.geo_uri)
    |>.insert "info" content.info.toJson

/-- `to_json(Location)`. -/
def Location.toJson (content : Location) : Except Exn Json :=
  applyRelations (Json.ofMembers content.members) content.relations

instance : EventContent Location := .ofRelated Location.fromJson Location.toJson {}

theorem Location.rereads (content : Location) : ∃ j, content.toJson = .ok j ∧
    j.find? "msgtype" = some (.string "m.location") ∧ Succeeds (contentFrom Location j) := by
  refine rereads_message rfl (by simp [members]) (plain_of_body (by simp [members])
    (by simp [members]) (by simp [members])) content.relations fun r hr ↦ ?_
  obtain ⟨rels, hrels⟩ := hr.parseRelations
  show Succeeds (Location.fromJson r)
  rw [Location.fromJson, hrels]
  simp (disch := decide) [Json.atKey_eq, Json.optional, hr.find?, members,
    LocationInfo.fromJson_toJson]

/-- Content of `m.room.message` with `msgtype` `m.video`. -/
structure Video where
  body : Str := ""
  msgtype : Str := ""
  url : Str := ""
  info : VideoInfo := {}
  file : Option EncryptedFile := none
  relations : Relations := {}
  mentions : Option Mentions := none

/-- `from_json(Video)`. -/
def Video.fromJson (obj : Json) : Except Exn Video := do
  let body ← (← obj.atKey "body").getString
  let msgtype ← (← obj.atKey "msgtype").getString
  let url ← obj.optional "url" Json.getString ""
  let info ← obj.optional "info" VideoInfo.fromJson {}
  let file ← readFile obj "file"
  let relations ← parseRelations obj
  let mentions ← parseMentions obj
  return { body, msgtype, url, info, file, relations, mentions }

/-- The members that are written before the relations. -/
def Video.members (content : Video) : SortedMap Str Json :=
  let m := Json.noMembers
    |>.insert "msgtype" (.string "m.video")
    |>.insert "body" (.string content.body)
    |>.insert "info" content.info.toJson
  addMentions (insertFileOrUrl m content.file content.url) content.mentions

/-- `to_json(Video)`. -/
def Video.toJson (content : Video) : Except Exn Json :=
  applyRelations (Json.ofMembers content.members) content.relations

instance : EventContent Video := .ofRelated Video.fromJson Video.toJson {}

theorem Video.rereads (content : Video) : ∃ j, content.toJson = .ok j ∧
    j.find? "msgtype" = some (.string "m.video") ∧ Succeeds (contentFrom Video j) := by
  refine rereads_message rfl (by simp [members]) (plain_of_body (by simp [members])
    (by simp [members]) (by simp [members])) content.relations fun r hr ↦ ?_
  obtain ⟨rels, hrels⟩ := hr.parseRelations
  have hmentions := hr.parseMentions (m := content.mentions) (by simp [members])
  show Succeeds (Video.fromJson r)
  rw [Video.fromJson, hrels, hmentions]
  rcases hfile : content.file with - | f
  all_goals simp (disch := decide) [Json.atKey_eq, Json.optional, hr.find?, readFile, members,
    hfile, VideoInfo.fromJson_toJson, EncryptedFile.fromJson_toJson]

/-! ## Reactions and redacted events -/

/-- Content of `m.reaction`. -/
structure Reaction where
  relations : Relations := {}

/-- `from_json(Reaction)`. -/
def Reaction.fromJson (obj : Json) : Except Exn Reaction := do
  return { relations := ← parseRelations obj }

/-- `to_json(Reaction)`, which starts from an empty object. -/
def Reaction.toJson (content : Reaction) : Except Exn Json :=
  applyRelations (.object []) content.relations

instance : EventContent Reaction := .ofRelated Reaction.fromJson Reaction.toJson {}

theorem Reaction.rereads (content : Reaction) :
    ∃ j, content.toJson = .ok j ∧ Succeeds (contentFrom Reaction j) := by
  have hplain : Plain (.object []) :=
    ⟨Or.inr rfl, List.Pairwise.nil, fun _ _ ↦ rfl, nofun, nofun⟩
  obtain ⟨j, hj, -, -, hcontent⟩ := Events.rereads (C := Reaction) hplain content.relations rfl
    fun r hr ↦ by
      obtain ⟨rels, hrels⟩ := hr.parseRelations
      show Succeeds (Reaction.fromJson r)
      rw [Reaction.fromJson, hrels]
      exact succeeds_ok _
  exact ⟨j, hj, hcontent⟩

/-- The content of an event that was redacted, of which nothing is kept. -/
structure Redacted where

/-- `to_json(Redacted)` leaves the value as it is. -/
instance : EventContent Redacted := .ofCodec (fun _ ↦ .ok {}) (fun _ ↦ .null) {}

/-! ## Unknown messages -/

/-- Content of `m.room.message` with an unrecognized `msgtype`. -/
structure Unknown (json : JsonText) where
  body : Str := ""
  msgtype : Str := ""
  relations : Relations := {}
  content : Str := ""
  mentions : Option Mentions := none

variable (json : JsonText)

/-- `from_json(Unknown)`, of the message. -/
def Unknown.fromJson (obj : Json) : Except Exn (Unknown json) := do
  let content ← json.dump obj
  let body ← (← obj.atKey "body").getString
  let msgtype ← (← obj.atKey "msgtype").getString
  let relations ← parseRelations obj
  let mentions ← parseMentions obj
  return { body, msgtype, relations, content, mentions }

/-- `to_json(Unknown)`, of the message. -/
def Unknown.toJson (content : Unknown json) : Except Exn Json := do
  let obj ← if content.content.isEmpty then pure Json.null else json.parse content.content
  let obj ← obj.set "msgtype" (.string content.msgtype)
  let obj ← obj.set "body" (.string content.body)
  let obj ← match content.mentions with
    | some m => obj.set "m.mentions" m.toJson
    | none => pure obj
  applyRelations obj content.relations

instance : EventContent (Unknown json) :=
  .ofRelated (Unknown.fromJson json) (Unknown.toJson json) {}

end Mtx.Events.Msg
