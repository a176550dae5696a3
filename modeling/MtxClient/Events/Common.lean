import MtxClient.Json.ReadBack

/-!
# Common parts of contents

What the contents of several events have in common: the information about media and their
thumbnails, the keys of encrypted files, and mentions.

`fromJson_toJson` says for each of them what is read back of a value that was written.  The
information about a thumbnail is written with its URL only, so that some of them lose members; what
they keep is `ImageInfo.reread` and so on.
-/

set_option autoImplicit false

namespace Mtx.Events

open Str

/-- `safe_get`: a member of another type counts as missing. -/
def safeGet {α : Type} (obj : Json) (name : Str) (get : Json → Except Exn α) (default_val : α) :
    Except Exn α :=
  match obj.value name get default_val with
  | .error (.jsonTypeError _) => .ok default_val
  | r => r

theorem safeGet_eq {α : Type} (obj : Json) (name : Str) (get : Json → Except Exn α)
    (default_val : α) :
    safeGet obj name get default_val = match obj.find? name with
    | some v =>
      match get v with
      | .error (.jsonTypeError _) => .ok default_val
      | r => r
    | none => .ok default_val := by
  cases obj with
  | object ms =>
    rw [safeGet, Json.value, Json.find?]
    rcases AssocList.find? name ms with - | v <;> rfl
  | _ => rfl

/-! ## Encrypted files -/

/-- The key of an encrypted file. -/
structure JWK where
  kty : Str
  key_ops : List Str
  alg : Str
  k : Str
  ext : Bool

/-- `from_json(JWK)`. -/
def JWK.fromJson (obj : Json) : Except Exn JWK := do
  let kty ← (← obj.atKey "kty").getString
  let key_ops ← (← obj.atKey "key_ops").getArray Json.getString
  let alg ← (← obj.atKey "alg").getString
  let k ← (← obj.atKey "k").getString
  let ext ← (← obj.atKey "ext").getBool
  return { kty, key_ops, alg, k, ext }

/-- `to_json(JWK)`. -/
def JWK.toJson (res : JWK) : Json :=
  Json.ofMembers <| Json.noMembers
    |>.insert "kty" (.string res.kty)
    |>.insert "key_ops" (Json.ofArray .string res.key_ops)
    |>.insert "alg" (.string res.alg)
    |>.insert "k" (.string res.k)
    |>.insert "ext" (.boolean res.ext)

theorem JWK.fromJson_toJson (res : JWK) : JWK.fromJson res.toJson = .ok res := by
  simp [JWK.fromJson, JWK.toJson, Json.atKey_eq, Json.getArray_ofArray Json.getString_string,
    Json.getBool]

/-- A file with its key. -/
structure EncryptedFile where
  url : Str
  key : JWK
  iv : Str
  hashes : SortedMap Str Str
  v : Str

/-- `from_json(EncryptedFile)`. -/
def EncryptedFile.fromJson (obj : Json) : Except Exn EncryptedFile := do
  let url ← (← obj.atKey "url").getString
  let key ← JWK.fromJson (← obj.atKey "key")
  let iv ← (← obj.atKey "iv").getString
  let hashes ← (← obj.atKey "hashes").getMap Json.getString
  let v ← (← obj.atKey "v").getString
  return { url, key, iv, hashes, v }

/-- `to_json(EncryptedFile)`. -/
def EncryptedFile.toJson (res : EncryptedFile) : Json :=
  Json.ofMembers <| Json.noMembers
    |>.insert "url" (.string res.url)
    |>.insert "key" res.key.toJson
    |>.insert "iv" (.string res.iv)
    |>.insert "hashes" (Json.ofMap .string res.hashes)
    |>.insert "v" (.string res.v)

theorem EncryptedFile.fromJson_toJson (res : EncryptedFile) :
    EncryptedFile.fromJson res.toJson = .ok res := by
  simp [EncryptedFile.fromJson, EncryptedFile.toJson, Json.atKey_eq, JWK.fromJson_toJson,
    Json.getMap_ofMap Json.getString_string]

/-! ## Media -/

/-- Metadata about a thumbnail image. -/
structure ThumbnailInfo where
  h : UInt64 := 0
  w : UInt64 := 0
  size : UInt64 := 0
  mimetype : Str := ""

/-- `from_json(ThumbnailInfo)`. -/
def ThumbnailInfo.fromJson (obj : Json) : Except Exn ThumbnailInfo := do
  let h ← safeGet obj "h" Json.getUInt64 0
  let w ← safeGet obj "w" Json.getUInt64 0
  let size ← safeGet obj "size" Json.getUInt64 0
  let mimetype ← obj.optional "mimetype" Json.getString ""
  return { h, w, size, mimetype }

/-- `to_json(ThumbnailInfo)`. -/
def ThumbnailInfo.toJson (info : ThumbnailInfo) : Json :=
  Json.ofMembers <| Json.noMembers
    |>.insert "h" (.numberUnsigned info.h)
    |>.insert "w" (.numberUnsigned info.w)
    |>.insert "size" (.numberUnsigned info.size)
    |>.insert "mimetype" (.string info.mimetype)

theorem ThumbnailInfo.fromJson_toJson (info : ThumbnailInfo) :
    ThumbnailInfo.fromJson info.toJson = .ok info := by
  simp [ThumbnailInfo.fromJson, ThumbnailInfo.toJson, safeGet_eq, Json.optional, Json.getUInt64]

/-- `if (obj.find("thumbnail_file") != obj.end()) …`. -/
def readFile (obj : Json) (key : Str) : Except Exn (Option EncryptedFile) :=
  obj.optional key (fun j ↦ some <$> EncryptedFile.fromJson j) none

/-- `if (file) obj[key] = file.value();`. -/
def insertFile (m : SortedMap Str Json) (key : Str) (file : Option EncryptedFile) :
    SortedMap Str Json :=
  match file with
  | some f => m.insert key f.toJson
  | none => m

@[simp] theorem find?_insertFile (m : SortedMap Str Json) (key k : Str)
    (file : Option EncryptedFile) :
    (insertFile m key file).find? k =
      if k = key then (file.map EncryptedFile.toJson).or (m.find? k) else m.find? k := by
  cases file <;> simp [insertFile]

/-- Metadata about an image. -/
structure ImageInfo where
  h : UInt64 := 0
  w : UInt64 := 0
  size : UInt64 := 0
  thumbnail_info : ThumbnailInfo := {}
  thumbnail_url : Str := ""
  mimetype : Str := ""
  thumbnail_file : Option EncryptedFile := none
  blurhash : Str := ""

/-- `from_json(ImageInfo)`. -/
def ImageInfo.fromJson (obj : Json) : Except Exn ImageInfo := do
  let h ← safeGet obj "h" Json.getUInt64 0
  let w ← safeGet obj "w" Json.getUInt64 0
  let size ← safeGet obj "size" Json.getUInt64 0
  let mimetype ← obj.optional "mimetype" Json.getString ""
  let thumbnail_url ← obj.optional "thumbnail_url" Json.getString ""
  let thumbnail_info ← obj.optional "thumbnail_info" ThumbnailInfo.fromJson {}
  let thumbnail_file ← readFile obj "thumbnail_file"
  let blurhash ← obj.optional "xyz.amorgan.blurhash" Json.getString ""
  return { h, w, size, thumbnail_info, thumbnail_url, mimetype, thumbnail_file, blurhash }

/-- `to_json(ImageInfo)`. -/
def ImageInfo.toJson (info : ImageInfo) : Json :=
  let m := Json.noMembers
    |>.insert "h" (.numberUnsigned info.h)
    |>.insert "w" (.numberUnsigned info.w)
    |>.insert "size" (.numberUnsigned info.size)
    |>.insert "mimetype" (.string info.mimetype)
    |>.insertIf (!info.thumbnail_url.isEmpty) "thumbnail_url" (.string info.thumbnail_url)
    |>.insertIf (!info.thumbnail_url.isEmpty) "thumbnail_info" info.thumbnail_info.toJson
  Json.ofMembers <| insertFile m "thumbnail_file" info.thumbnail_file
    |>.insertIf (!info.blurhash.isEmpty) "xyz.amorgan.blurhash" (.string info.blurhash)

/-- What is read back: without its URL, the thumbnail loses the information about it. -/
def ImageInfo.reread (info : ImageInfo) : ImageInfo :=
  { info with thumbnail_info := if info.thumbnail_url.isEmpty then {} else info.thumbnail_info }

theorem ImageInfo.fromJson_toJson (info : ImageInfo) :
    ImageInfo.fromJson info.toJson = .ok info.reread := by
  obtain ⟨h, w, size, thumb, url, mimetype, file, blurhash⟩ := info
  cases file <;> cases url <;> cases blurhash <;>
    simp [ImageInfo.fromJson, ImageInfo.toJson, safeGet_eq, readFile, Json.optional, Json.getUInt64,
      ThumbnailInfo.fromJson_toJson, EncryptedFile.fromJson_toJson, ImageInfo.reread] <;>
    rfl

/-- Metadata about a file. -/
structure FileInfo where
  size : UInt64 := 0
  thumbnail_info : ThumbnailInfo := {}
  thumbnail_url : Str := ""
  mimetype : Str := ""
  thumbnail_file : Option EncryptedFile := none

/-- `from_json(FileInfo)`. -/
def FileInfo.fromJson (obj : Json) : Except Exn FileInfo := do
  let size ← safeGet obj "size" Json.getUInt64 0
  let mimetype ← obj.optional "mimetype" Json.getString ""
  let thumbnail_url ← obj.optional "thumbnail_url" Json.getString ""
  let thumbnail_info ← obj.optional "thumbnail_info" ThumbnailInfo.fromJson {}
  let thumbnail_file ← readFile obj "thumbnail_file"
  return { size, thumbnail_info, thumbnail_url, mimetype, thumbnail_file }

/-- `to_json(FileInfo)`. -/
def FileInfo.toJson (info : FileInfo) : Json :=
  let m := Json.noMembers
    |>.insert "size" (.numberUnsigned info.size)
    |>.insert "mimetype" (.string info.mimetype)
    |>.insertIf (!info.thumbnail_url.isEmpty) "thumbnail_url" (.string info.thumbnail_url)
    |>.insertIf (!info.thumbnail_url.isEmpty) "thumbnail_info" info.thumbnail_info.toJson
  Json.ofMembers (insertFile m "thumbnail_file" info.thumbnail_file)

/-- What is read back: without its URL, the thumbnail loses the information about it. -/
def FileInfo.reread (info : FileInfo) : FileInfo :=
  { info with thumbnail_info := if info.thumbnail_url.isEmpty then {} else info.thumbnail_info }

theorem FileInfo.fromJson_toJson (info : FileInfo) :
    FileInfo.fromJson info.toJson = .ok info.reread := by
  obtain ⟨size, thumb, url, mimetype, file⟩ := info
  cases file <;> cases url <;>
    simp [FileInfo.fromJson, FileInfo.toJson, safeGet_eq, readFile, Json.optional, Json.getUInt64,
      ThumbnailInfo.fromJson_toJson, EncryptedFile.fromJson_toJson, FileInfo.reread] <;>
    rfl

/-- Metadata about an audio file. -/
structure AudioInfo where
  size : UInt64 := 0
  duration : UInt64 := 0
  mimetype : Str := ""

/-- `from_json(AudioInfo)`. -/
def AudioInfo.fromJson (obj : Json) : Except Exn AudioInfo := do
  let duration ← safeGet obj "duration" Json.getUInt64 0
  let size ← safeGet obj "size" Json.getUInt64 0
  let mimetype ← obj.optional "mimetype" Json.getString ""
  return { size, duration, mimetype }

/-- `to_json(AudioInfo)`. -/
def AudioInfo.toJson (info : AudioInfo) : Json :=
  Json.ofMembers <| Json.noMembers
    |>.insert "size" (.numberUnsigned info.size)
    |>.insert "duration" (.numberUnsigned info.duration)
    |>.insert "mimetype" (.string info.mimetype)

theorem AudioInfo.fromJson_toJson (info : AudioInfo) :
    AudioInfo.fromJson info.toJson = .ok info := by
  simp [AudioInfo.fromJson, AudioInfo.toJson, safeGet_eq, Json.optional, Json.getUInt64]

/-- Metadata about a video. -/
structure VideoInfo where
  size : UInt64 := 0
  duration : UInt64 := 0
  h : UInt64 := 0
  w : UInt64 := 0
  mimetype : Str := ""
  thumbnail_url : Str := ""
  thumbnail_info : ThumbnailInfo := {}
  thumbnail_file : Option EncryptedFile := none
  blurhash : Str := ""

/-- `from_json(VideoInfo)`. -/
def VideoInfo.fromJson (obj : Json) : Except Exn VideoInfo := do
  let h ← safeGet obj "h" Json.getUInt64 0
  let w ← safeGet obj "w" Json.getUInt64 0
  let size ← safeGet obj "size" Json.getUInt64 0
  let duration ← safeGet obj "duration" Json.getUInt64 0
  let mimetype ← obj.optional "mimetype" Json.getString ""
  let thumbnail_url ← obj.optional "thumbnail_url" Json.getString ""
  let thumbnail_info ← obj.optional "thumbnail_info" ThumbnailInfo.fromJson {}
  let thumbnail_file ← readFile obj "thumbnail_file"
  let blurhash ← obj.optional "xyz.amorgan.blurhash" Json.getString ""
  return { size, duration, h, w, mimetype, thumbnail_url, thumbnail_info, thumbnail_file, blurhash }

/-- `to_json(VideoInfo)`. -/
def VideoInfo.toJson (info : VideoInfo) : Json :=
  let m := Json.noMembers
    |>.insert "size" (.numberUnsigned info.size)
    |>.insert "h" (.numberUnsigned info.h)
    |>.insert "w" (.numberUnsigned info.w)
    |>.insert "duration" (.numberUnsigned info.duration)
    |>.insert "mimetype" (.string info.mimetype)
    |>.insertIf (!info.thumbnail_url.isEmpty) "thumbnail_url" (.string info.thumbnail_url)
    |>.insertIf (!info.thumbnail_url.isEmpty) "thumbnail_info" info.thumbnail_info.toJson
  Json.ofMembers <| insertFile m "thumbnail_file" info.thumbnail_file
    |>.insertIf (!info.blurhash.isEmpty) "xyz.amorgan.blurhash" (.string info.blurhash)

/-- What is read back: without its URL, the thumbnail loses the information about it. -/
def VideoInfo.reread (info : VideoInfo) : VideoInfo :=
  { info with thumbnail_info := if info.thumbnail_url.isEmpty then {} else info.thumbnail_info }

theorem VideoInfo.fromJson_toJson (info : VideoInfo) :
    VideoInfo.fromJson info.toJson = .ok info.reread := by
  obtain ⟨size, duration, h, w, mimetype, url, thumb, file, blurhash⟩ := info
  cases file <;> cases url <;> cases blurhash <;>
    simp [VideoInfo.fromJson, VideoInfo.toJson, safeGet_eq, readFile, Json.optional, Json.getUInt64,
      ThumbnailInfo.fromJson_toJson, EncryptedFile.fromJson_toJson, VideoInfo.reread] <;>
    rfl

/-- The thumbnail of a location. -/
structure LocationInfo where
  thumbnail_url : Str := ""
  thumbnail_info : ThumbnailInfo := {}
  thumbnail_file : Option EncryptedFile := none

/-- `from_json(LocationInfo)`. -/
def LocationInfo.fromJson (obj : Json) : Except Exn LocationInfo := do
  let thumbnail_url ← obj.optional "thumbnail_url" Json.getString ""
  let thumbnail_info ← obj.optional "thumbnail_info" ThumbnailInfo.fromJson {}
  let thumbnail_file ← readFile obj "thumbnail_file"
  return { thumbnail_url, thumbnail_info, thumbnail_file }

/-- `to_json(LocationInfo)`, which writes the information about the thumbnail also with its file. -/
def LocationInfo.toJson (info : LocationInfo) : Json :=
  let m := Json.noMembers
    |>.insertIf (!info.thumbnail_url.isEmpty) "thumbnail_url" (.string info.thumbnail_url)
    |>.insertIf (!info.thumbnail_url.isEmpty) "thumbnail_info" info.thumbnail_info.toJson
  Json.ofMembers <| insertFile m "thumbnail_file" info.thumbnail_file
    |>.insertIf info.thumbnail_file.isSome "thumbnail_info" info.thumbnail_info.toJson

/-- What is read back: the information about the thumbnail needs its URL or its file. -/
def LocationInfo.reread (info : LocationInfo) : LocationInfo :=
  { info with thumbnail_info :=
      if info.thumbnail_url.isEmpty && info.thumbnail_file.isNone then {}
      else info.thumbnail_info }

theorem LocationInfo.fromJson_toJson (info : LocationInfo) :
    LocationInfo.fromJson info.toJson = .ok info.reread := by
  obtain ⟨url, thumb, file⟩ := info
  cases file <;> cases url <;>
    simp [LocationInfo.fromJson, LocationInfo.toJson, readFile, Json.optional,
      ThumbnailInfo.fromJson_toJson, EncryptedFile.fromJson_toJson, LocationInfo.reread] <;>
    rfl

/-! ## Mentions -/

/-- Who is mentioned in a message. -/
structure Mentions where
  user_ids : List Str := []
  room : Bool := false

/-- `from_json(Mentions)`. -/
def Mentions.fromJson (obj : Json) : Except Exn Mentions := do
  let room ← obj.value "room" Json.getBool false
  let user_ids ← obj.value "user_ids" (Json.getArray Json.getString) []
  return { user_ids, room }

/-- `to_json(Mentions)`, which starts from an empty object. -/
def Mentions.toJson (info : Mentions) : Json :=
  .object <| (Json.noMembers
    |>.insertIf info.room "room" (.boolean true)
    |>.insertIf (!info.user_ids.isEmpty) "user_ids" (Json.ofArray .string info.user_ids)).entries

theorem Mentions.fromJson_toJson (info : Mentions) : Mentions.fromJson info.toJson = .ok info := by
  obtain ⟨user_ids, room⟩ := info
  cases user_ids <;> cases room <;>
    simp [Mentions.fromJson, Mentions.toJson, Json.value_eq, Json.isObject, Json.getBool,
      Json.getArray_ofArray Json.getString_string]

/-- Mentions that were read can be written. -/
theorem Mentions.validUtf8_toJson {obj : Json} {m : Mentions} (h : obj.validUtf8 = true)
    (hm : Mentions.fromJson obj = .ok m) : m.toJson.validUtf8 = true := by
  simp only [Mentions.fromJson, bind_eq_ok_iff] at hm
  obtain ⟨room, -, user_ids, hids, hm⟩ := hm
  rw [← Except.ok.inj hm]
  have hvalid : (Json.ofArray .string user_ids).validUtf8 = true := by
    rw [Json.value_eq] at hids
    rcases hv : obj.find? "user_ids" with - | v
    · rw [hv] at hids
      split_ifs at hids
      obtain rfl := Except.ok.inj hids
      rfl
    · rw [hv] at hids
      rw [← Json.getArray_getString_eq_ok_iff.mp hids]
      exact Json.validUtf8_of_find? h hv
  have hall : (Json.noMembers.insertIf room "room" (.boolean true) |>.insertIf (!user_ids.isEmpty)
      "user_ids" (Json.ofArray .string user_ids)).All
        fun k v ↦ Str.validUtf8 k = true ∧ v.validUtf8 = true :=
    .insertIf (.insertIf .empty ⟨by decide, rfl⟩) ⟨by decide, hvalid⟩
  refine (Json.validUtf8Members_iff _).mpr ?_
  intro e he
  exact hall e.1 e.2 (SortedMap.mem_entries_iff.mp he)

/-- `parse_mentions`. -/
def parseMentions (content : Json) : Except Exn (Option Mentions) :=
  content.optional "m.mentions" (fun j ↦ some <$> Mentions.fromJson j) none

/-- `add_mentions`, for a content that is written member by member. -/
def addMentions (m : SortedMap Str Json) (mentions : Option Mentions) : SortedMap Str Json :=
  match mentions with
  | some info => m.insert "m.mentions" info.toJson
  | none => m

@[simp] theorem find?_addMentions (m : SortedMap Str Json) (k : Str) (mentions : Option Mentions) :
    (addMentions m mentions).find? k =
      if k = "m.mentions" then (mentions.map Mentions.toJson).or (m.find? k) else m.find? k := by
  cases mentions <;> simp [addMentions]

theorem parseMentions_of_find? {content : Json} {mentions : Option Mentions}
    (h : content.find? "m.mentions" = mentions.map Mentions.toJson) :
    parseMentions content = .ok mentions := by
  rw [parseMentions, Json.optional, h]
  cases mentions with
  | none => rfl
  | some info => simp [Mentions.fromJson_toJson]

end Mtx.Events
