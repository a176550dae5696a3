import MtxClient.Events.Common

/-!
# Thumbnails

Images, videos, files and locations can have a thumbnail: the URL of an image or, in an encrypted
room, a file with its key, and the metadata of that image.  All four types have the same three
members for it, but only locations write the metadata along with an encrypted file.  So what a
message with an encrypted thumbnail says about it is lost when the message is written again.
-/

set_option autoImplicit false

namespace Mtx.Events

open Str

/-- The members of an info that are about its thumbnail. -/
structure Thumbnail where
  url : Str
  info : ThumbnailInfo
  file : Option EncryptedFile

/-- There is a thumbnail. -/
def Thumbnail.Present (t : Thumbnail) : Prop := t.url ≠ [] ∨ t.file.isSome = true

/-- The keys that the members are written under. -/
def thumbnailKeys : List Str := ["thumbnail_url", "thumbnail_info", "thumbnail_file"]

/-- A type of infos with a thumbnail, and how it is written and read. -/
structure ThumbnailCodec (I : Type) where
  thumbnail : I → Thumbnail
  toJson : I → Json
  fromJson : Json → Except Exn I

namespace ThumbnailCodec

def image : ThumbnailCodec ImageInfo where
  thumbnail info := ⟨info.thumbnail_url, info.thumbnail_info, info.thumbnail_file⟩
  toJson := ImageInfo.toJson
  fromJson := ImageInfo.fromJson

def video : ThumbnailCodec VideoInfo where
  thumbnail info := ⟨info.thumbnail_url, info.thumbnail_info, info.thumbnail_file⟩
  toJson := VideoInfo.toJson
  fromJson := VideoInfo.fromJson

def file : ThumbnailCodec FileInfo where
  thumbnail info := ⟨info.thumbnail_url, info.thumbnail_info, info.thumbnail_file⟩
  toJson := FileInfo.toJson
  fromJson := FileInfo.fromJson

def location : ThumbnailCodec LocationInfo where
  thumbnail info := ⟨info.thumbnail_url, info.thumbnail_info, info.thumbnail_file⟩
  toJson := LocationInfo.toJson
  fromJson := LocationInfo.fromJson

variable {I J : Type}

/-- Every info with this thumbnail is read as it was written. -/
def Keeps (c : ThumbnailCodec I) (t : Thumbnail) : Prop :=
  ∀ info, c.thumbnail info = t → c.fromJson (c.toJson info) = .ok info

/-- Two types write this thumbnail with the same members. -/
def Alike (c : ThumbnailCodec I) (d : ThumbnailCodec J) (t : Thumbnail) : Prop :=
  ∀ info info', c.thumbnail info = t → d.thumbnail info' = t →
    ∀ key ∈ thumbnailKeys, (c.toJson info).find? key = (d.toJson info').find? key

/-! ## What is written -/

/-- The members of a thumbnail, where its metadata are written if `withInfo` is set. -/
def members (t : Thumbnail) (withInfo : Bool) (key : Str) : Option Json :=
  if key = "thumbnail_url" then if t.url.isEmpty then none else some (.string t.url)
  else if key = "thumbnail_info" then if withInfo then some t.info.toJson else none
  else t.file.map EncryptedFile.toJson

/-- The type writes the metadata if `withInfo` is set, and this is what it keeps. -/
structure Writes (c : ThumbnailCodec I) (withInfo : Thumbnail → Bool) : Prop where
  /-- There are infos with any thumbnail. -/
  exists_info : ∀ t, ∃ info, c.thumbnail info = t
  members : ∀ info, ∀ key ∈ thumbnailKeys, (c.toJson info).find? key =
    members (c.thumbnail info) (withInfo (c.thumbnail info)) key
  kept : ∀ info, c.fromJson (c.toJson info) = .ok info ↔
    withInfo (c.thumbnail info) = true ∨ (c.thumbnail info).info = {}

theorem Writes.keeps_iff {c : ThumbnailCodec I} {withInfo : Thumbnail → Bool}
    (h : c.Writes withInfo) {t : Thumbnail} :
    c.Keeps t ↔ withInfo t = true ∨ t.info = {} := by
  constructor
  · intro hkeeps
    obtain ⟨info, rfl⟩ := h.exists_info t
    exact (h.kept info).mp (hkeeps info rfl)
  · rintro ht info rfl
    exact (h.kept info).mpr ht

theorem Writes.sameThumbnails_iff {c : ThumbnailCodec I} {d : ThumbnailCodec J}
    {withInfo withInfo' : Thumbnail → Bool} (hc : c.Writes withInfo) (hd : d.Writes withInfo')
    {t : Thumbnail} : c.Alike d t ↔ withInfo t = withInfo' t := by
  constructor
  · intro h
    obtain ⟨info, hinfo⟩ := hc.exists_info t
    obtain ⟨info', hinfo'⟩ := hd.exists_info t
    have hkey : lit "thumbnail_info" ∈ thumbnailKeys := by decide
    have heq := h info info' hinfo hinfo' _ hkey
    rw [hc.members info _ hkey, hd.members info' _ hkey, hinfo, hinfo'] at heq
    have hne : lit "thumbnail_info" ≠ lit "thumbnail_url" := by decide
    rw [ThumbnailCodec.members, ThumbnailCodec.members, if_neg hne, if_pos rfl, if_neg hne,
      if_pos rfl] at heq
    cases hw : withInfo t <;> cases hw' : withInfo' t <;> simp_all
  · intro h info info' hinfo hinfo' key hkey
    rw [hc.members info key hkey, hd.members info' key hkey, hinfo, hinfo', h]

/-! ## The four types -/

/-- The metadata are written along with a URL. -/
def withUrl (t : Thumbnail) : Bool := !t.url.isEmpty

/-- The metadata are written along with a URL, and along with an encrypted file. -/
def withUrlOrFile (t : Thumbnail) : Bool := !t.url.isEmpty || t.file.isSome

theorem forall_thumbnailKeys {p : Str → Prop} : (∀ key ∈ thumbnailKeys, p key) ↔
    p "thumbnail_url" ∧ p "thumbnail_info" ∧ p "thumbnail_file" := by
  simp [thumbnailKeys]

theorem image_writes : image.Writes withUrl where
  exists_info t := ⟨{ thumbnail_info := t.info, thumbnail_url := t.url
                      thumbnail_file := t.file }, rfl⟩
  members info := by
    rw [forall_thumbnailKeys]
    simp [image, ImageInfo.toJson, members, withUrl]
  kept info := by
    obtain ⟨h, w, size, thumb, url, mimetype, file, blurhash⟩ := info
    cases url <;> simp [image, ImageInfo.fromJson_toJson, ImageInfo.reread, withUrl, eq_comm]

theorem video_writes : video.Writes withUrl where
  exists_info t := ⟨{ thumbnail_info := t.info, thumbnail_url := t.url
                      thumbnail_file := t.file }, rfl⟩
  members info := by
    rw [forall_thumbnailKeys]
    simp [video, VideoInfo.toJson, members, withUrl]
  kept info := by
    obtain ⟨size, duration, h, w, mimetype, url, thumb, file, blurhash⟩ := info
    cases url <;> simp [video, VideoInfo.fromJson_toJson, VideoInfo.reread, withUrl, eq_comm]

theorem file_writes : file.Writes withUrl where
  exists_info t := ⟨{ thumbnail_info := t.info, thumbnail_url := t.url
                      thumbnail_file := t.file }, rfl⟩
  members info := by
    rw [forall_thumbnailKeys]
    simp [file, FileInfo.toJson, members, withUrl]
  kept info := by
    obtain ⟨size, thumb, url, mimetype, file⟩ := info
    cases url <;>
      simp [ThumbnailCodec.file, FileInfo.fromJson_toJson, FileInfo.reread, withUrl, eq_comm]

theorem location_writes : location.Writes withUrlOrFile where
  exists_info t := ⟨{ thumbnail_info := t.info, thumbnail_url := t.url
                      thumbnail_file := t.file }, rfl⟩
  members info := by
    rw [forall_thumbnailKeys]
    obtain ⟨url, thumb, file⟩ := info
    cases file <;> simp [location, LocationInfo.toJson, members, withUrlOrFile]
  kept info := by
    obtain ⟨url, thumb, file⟩ := info
    cases url <;> cases file <;>
      simp [location, LocationInfo.fromJson_toJson, LocationInfo.reread, withUrlOrFile, eq_comm]

/-- **Images, videos and files keep what they say about a thumbnail if it has a URL, or if they say
nothing.**  Locations always keep it, and so they are written differently without a URL. -/
theorem thumbnails_kept_iff {t : Thumbnail} (ht : t.Present) :
    (image.Keeps t ↔ t.url ≠ [] ∨ t.info = {}) ∧ (video.Keeps t ↔ t.url ≠ [] ∨ t.info = {}) ∧
      (file.Keeps t ↔ t.url ≠ [] ∨ t.info = {}) ∧ location.Keeps t ∧
      (image.Alike video t ∧ image.Alike file t) ∧ (image.Alike location t ↔ t.url ≠ []) := by
  have hurl : withUrl t = true ↔ t.url ≠ [] := by
    rw [withUrl, Bool.not_eq_true', List.isEmpty_eq_false_iff]
  have hlocation : withUrlOrFile t = true := by
    rw [withUrlOrFile, Bool.or_eq_true]
    exact ht.imp_left hurl.mpr
  rw [image_writes.keeps_iff, video_writes.keeps_iff, file_writes.keeps_iff,
    location_writes.keeps_iff, image_writes.sameThumbnails_iff video_writes,
    image_writes.sameThumbnails_iff file_writes, image_writes.sameThumbnails_iff location_writes,
    hurl, hlocation]
  exact ⟨Iff.rfl, Iff.rfl, Iff.rfl, Or.inl rfl, ⟨rfl, rfl⟩, hurl⟩

end ThumbnailCodec

/-- The key of a file. -/
def sampleKey : JWK where
  kty := "oct"
  key_ops := ["encrypt", "decrypt"]
  alg := "A256CTR"
  k := "AAECAwQFBgcICQoLDA0ODxAREhMUFRYXGBkaGxwdHh8"
  ext := true

/-- An encrypted thumbnail of 320 by 240 pixels. -/
def encryptedThumbnail : Thumbnail where
  url := []
  info := { h := 240, w := 320, size := 9216, mimetype := "image/jpeg" }
  file := some { url := "mxc://example.org/FHyPlCeYUSFFxlgbQYZmoEoe", key := sampleKey
                 iv := "AAECAwQFBgcAAAAAAAAAAA", hashes := SortedMap.empty, v := "v2" }

theorem encryptedThumbnail_keeps_iff : (ThumbnailCodec.image.Keeps encryptedThumbnail ↔
      encryptedThumbnail.url ≠ [] ∨ encryptedThumbnail.info = {}) ∧
    ThumbnailCodec.location.Keeps encryptedThumbnail :=
  have h := ThumbnailCodec.thumbnails_kept_iff (t := encryptedThumbnail) (Or.inr rfl)
  ⟨h.1, h.2.2.2.1⟩

/-- An image, a video and a file lose the size of the encrypted thumbnail, a location does not. -/
theorem encryptedThumbnail_lost : encryptedThumbnail.Present ∧
    ¬ ThumbnailCodec.image.Keeps encryptedThumbnail ∧
    ¬ ThumbnailCodec.video.Keeps encryptedThumbnail ∧
    ¬ ThumbnailCodec.file.Keeps encryptedThumbnail ∧
    ¬ ThumbnailCodec.image.Alike ThumbnailCodec.location encryptedThumbnail := by
  have hinfo : ¬ (ThumbnailCodec.withUrl encryptedThumbnail = true ∨
      encryptedThumbnail.info = {}) := by
    rintro (h | h)
    · cases h
    · exact absurd (congrArg ThumbnailInfo.h h) (by decide)
  rw [ThumbnailCodec.image_writes.keeps_iff, ThumbnailCodec.video_writes.keeps_iff,
    ThumbnailCodec.file_writes.keeps_iff,
    ThumbnailCodec.image_writes.sameThumbnails_iff ThumbnailCodec.location_writes]
  exact ⟨Or.inr rfl, hinfo, hinfo, hinfo, by decide⟩

end Mtx.Events
