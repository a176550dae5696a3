import MtxClient.Lib.PercentEncoding
import MtxClient.Lib.SortedMap
import MtxClient.Events.EventType
import MtxClient.Events.State

/-!
# The endpoints of the client

The requests of the client that name a room, an event, a type, a state key, a transaction, a medium
or a tag in their path.  A path is kept as the list of strings that the builder concatenates, each
marked as literal text, as encoded, or as an argument written as it is.

Next to the path stands its route: the segments that the endpoint consists of, with every
argument in a segment of its own.  The route is what a builder is meant to address, and does not
come from its code.
-/

set_option autoImplicit false

namespace Mtx.Http

open Str PercentEncoding
open Mtx.Events (EventType Membership membershipToString)

/-! ## Strings -/

/-- `std::isalnum` in the default locale. -/
def isalnum (c : UInt8) : Bool :=
  decide (48 ≤ c ∧ c ≤ 57) || decide (65 ≤ c ∧ c ≤ 90) || decide (97 ≤ c ∧ c ≤ 122)

/-- The bytes that `url_encode` keeps: letters, digits, and `-`, `_`, `.`, `~`. -/
def isKept (c : UInt8) : Bool := isalnum c || c == 45 || c == 95 || c == 46 || c == 126

/-- `url_encode`. -/
def urlEncode (value : Str) : Str := encode isKept value

/-- The parameters of a query. -/
abbrev QueryParams := SortedMap Str Str

/-- `query_params`. -/
def queryParams (params : QueryParams) : Str :=
  match params.entries with
  | [] => ""
  | pb :: rest =>
    pb.1 ++ lit "=" ++ urlEncode pb.2 ++
      rest.flatMap fun e ↦ lit "&" ++ e.1 ++ lit "=" ++ urlEncode e.2

/-- The media server and the id in a matrix content uri. -/
structure MxcUrl where
  server : Str := ""
  media_id : Str := ""

/-- `parse_mxc_url`. -/
def parseMxcUrl (url : Str) : MxcUrl :=
  if startsWith url "mxc://" then
    match (url.drop 6).splitOn 47 with
    | [server, media_id] => { server, media_id }
    | parts => { server := parts.headD [] }
  else {}

/-! ## Endpoints -/

/-- A string that goes into a path. -/
inductive Piece where
  | text (s : Str)
  /-- What `url_encode` makes of an argument. -/
  | encoded (s : Str)
  /-- An argument as it is. -/
  | raw (s : Str)

instance coePiece : Coe String Piece := ⟨fun s ↦ .text s⟩

/-- The bytes of a piece. -/
def Piece.bytes : Piece → Str
  | .text s => s
  | .encoded s => urlEncode s
  | .raw s => s

/-- What a builder hands to the transport. -/
structure Endpoint where
  path : List Piece
  /-- What stands behind the question mark, if the builder writes one. -/
  query : Option Str := none
  /-- The segments that are meant. -/
  route : List Str

namespace Endpoint

/-- The string that is requested. -/
def url (e : Endpoint) : Str :=
  e.path.flatMap Piece.bytes ++ match e.query with
    | none => []
    | some query => 63 :: query

/-! ### Tags and account data -/

def getTags (user_id_ room_id : Str) : Endpoint where
  path := ["/client/v3/user/", .encoded user_id_, "/rooms/", .encoded room_id, "/tags"]
  route := ["client", "v3", "user", user_id_, "rooms", room_id, "tags"]

/-- The path that `put_tag` and `delete_tag` write. -/
def tag (user_id_ room_id tag_name : Str) : Endpoint where
  path := ["/client/v3/user/", .encoded user_id_, "/rooms/", .encoded room_id, "/tags/",
    .encoded tag_name]
  route := ["client", "v3", "user", user_id_, "rooms", room_id, "tags", tag_name]

def putTag (user_id_ room_id tag_name : Str) : Endpoint := tag user_id_ room_id tag_name

def deleteTag (user_id_ room_id tag_name : Str) : Endpoint := tag user_id_ room_id tag_name

/-- The path that `put_room_account_data` and `get_room_account_data` write. -/
def roomAccountData (user_id_ room_id type : Str) : Endpoint where
  path := ["/client/v3/user/", .encoded user_id_, "/rooms/", .encoded room_id, "/account_data/",
    .raw type]
  route := ["client", "v3", "user", user_id_, "rooms", room_id, "account_data", type]

def putRoomAccountData (user_id_ room_id type : Str) : Endpoint :=
  roomAccountData user_id_ room_id type

def getRoomAccountData (user_id_ room_id type : Str) : Endpoint :=
  roomAccountData user_id_ room_id type

/-- The path that `put_account_data` and `get_account_data` write. -/
def accountData (user_id_ type : Str) : Endpoint where
  path := ["/client/v3/user/", .encoded user_id_, "/account_data/", .raw type]
  route := ["client", "v3", "user", user_id_, "account_data", type]

def putAccountData (user_id_ type : Str) : Endpoint := accountData user_id_ type

def getAccountData (user_id_ type : Str) : Endpoint := accountData user_id_ type

def secretStorageSecret (user_id_ secret_id : Str) : Endpoint where
  path := ["/client/v3/user/", .encoded user_id_, "/account_data/", .encoded secret_id]
  route := ["client", "v3", "user", user_id_, "account_data", secret_id]

def uploadSecretStorageSecret (user_id_ secret_id : Str) : Endpoint :=
  secretStorageSecret user_id_ secret_id

def secretStorageKey (user_id_ key_id : Str) : Endpoint where
  path := ["/client/v3/user/", .encoded user_id_, "/account_data/m.secret_storage.key.",
    .encoded key_id]
  route := ["client", "v3", "user", user_id_, "account_data", "m.secret_storage.key." ++ key_id]

def uploadSecretStorageKey (user_id_ key_id : Str) : Endpoint :=
  secretStorageKey user_id_ key_id

/-! ### Rooms -/

/-- The query of a request that a list of servers may help with. -/
def viaQuery (key : String) (via : List Str) : Str :=
  match via with
  | [] => ""
  | v :: rest => lit key ++ urlEncode v ++ rest.flatMap fun v ↦ lit "&" ++ lit key ++ urlEncode v

/-- The query that `join_room` and `knock_room` write, with the servers under two names. -/
def joinQuery (via : List Str) : Option Str :=
  if via.isEmpty then none
  else some (viaQuery "server_name=" via ++ via.flatMap fun v ↦ lit "&via=" ++ urlEncode v)

def joinRoom (room : Str) (via : List Str) : Endpoint where
  path := ["/client/v3/join/", .encoded room]
  query := joinQuery via
  route := ["client", "v3", "join", room]

def knockRoom (room : Str) (via : List Str) : Endpoint where
  path := ["/client/v3/knock/", .encoded room]
  query := joinQuery via
  route := ["client", "v3", "knock", room]

/-- A request that names a room and what to do with it. -/
def roomAction (room_id : Str) (action : String) : Endpoint where
  path := ["/client/v3/rooms/", .encoded room_id, "/", action]
  route := ["client", "v3", "rooms", room_id, action]

def leaveRoom (room_id : Str) : Endpoint := roomAction room_id "leave"

def inviteUser (room_id : Str) : Endpoint := roomAction room_id "invite"

def kickUser (room_id : Str) : Endpoint := roomAction room_id "kick"

def banUser (room_id : Str) : Endpoint := roomAction room_id "ban"

def unbanUser (room_id : Str) : Endpoint := roomAction room_id "unban"

def readEvent (room_id : Str) : Endpoint := roomAction room_id "read_markers"

def getState (room_id : Str) : Endpoint := roomAction room_id "state"

def listRoomAliases (room_id : Str) : Endpoint := roomAction room_id "aliases"

def members (room_id at_ : Str) (membership not_membership : Option Membership) : Endpoint :=
  { roomAction room_id "members" with
    query := some (queryParams ((SortedMap.empty : QueryParams)
      |>.insertIf (at_ != "") "at" at_
      |>.insertIf membership.isSome "membership" ((membership.map membershipToString).getD "")
      |>.insertIf not_membership.isSome "not_membership"
        ((not_membership.map membershipToString).getD ""))) }

inductive PaginationDirection where
  | backwards
  | forwards

/-- `to_string` of a direction. -/
def PaginationDirection.toStr : PaginationDirection → Str
  | .backwards => "b"
  | .forwards => "f"

/-- The options of `messages`. -/
structure MessagesOpts where
  room_id : Str
  from_ : Str := ""
  to_ : Str := ""
  filter : Str := ""
  dir : PaginationDirection := .backwards
  limit : ℕ := 30

def messages (opts : MessagesOpts) : Endpoint :=
  { roomAction opts.room_id "messages" with
    query := some (queryParams ((SortedMap.empty : QueryParams)
      |>.insert "dir" opts.dir.toStr
      |>.insertIf (opts.from_ != "") "from" opts.from_
      |>.insertIf (opts.to_ != "") "to" opts.to_
      |>.insertIf (decide (0 < opts.limit)) "limit" (toString opts.limit)
      |>.insertIf (opts.filter != "") "filter" opts.filter)) }

def getHierarchy (room_id from_ : Str) (limit max_depth : ℕ) (suggested_only : Bool) :
    Endpoint where
  path := ["/client/v1/rooms/", .encoded room_id, "/hierarchy"]
  query :=
    let params := (SortedMap.empty : QueryParams)
      |>.insertIf (decide (0 < limit)) "limit" (toString limit)
      |>.insertIf (decide (0 < max_depth)) "max_depth" (toString max_depth)
      |>.insertIf suggested_only "suggested_only" "true"
      |>.insertIf (from_ != "") "from" from_
    if params.entries.isEmpty then none else some (queryParams params)
  route := ["client", "v1", "rooms", room_id, "hierarchy"]

def getSummary (room_id : Str) (via : List Str) : Endpoint where
  path := ["/client/unstable/im.nheko.summary/rooms/", .encoded room_id, "/summary"]
  query := if via.isEmpty then none else some (viaQuery "via=" via)
  route := ["client", "unstable", "im.nheko.summary", "rooms", room_id, "summary"]

/-- The path that `start_typing` and `stop_typing` write. -/
def typing (user_id_ room_id : Str) : Endpoint where
  path := ["/client/v3/rooms/", .encoded room_id, "/typing/", .encoded user_id_]
  route := ["client", "v3", "rooms", room_id, "typing", user_id_]

def startTyping (user_id_ room_id : Str) : Endpoint := typing user_id_ room_id

def stopTyping (user_id_ room_id : Str) : Endpoint := typing user_id_ room_id

/-- The path of the requests for an alias. -/
def roomAlias (alias_ : Str) : Endpoint where
  path := ["/client/v3/directory/room/", .encoded alias_]
  route := ["client", "v3", "directory", "room", alias_]

def resolveRoomAlias (alias_ : Str) : Endpoint := roomAlias alias_

def addRoomAlias (alias_ : Str) : Endpoint := roomAlias alias_

def deleteRoomAlias (alias_ : Str) : Endpoint := roomAlias alias_

/-- The path that `get_room_visibility` and `put_room_visibility` write. -/
def roomVisibility (room_id : Str) : Endpoint where
  path := ["/client/v3/directory/list/room/", .encoded room_id]
  route := ["client", "v3", "directory", "list", "room", room_id]

def getRoomVisibility (room_id : Str) : Endpoint := roomVisibility room_id

def putRoomVisibility (room_id : Str) : Endpoint := roomVisibility room_id

/-! ### Events -/

def getEvent (room_id event_id : Str) : Endpoint where
  path := ["/client/v3/rooms/", .encoded room_id, "/event/", .encoded event_id]
  route := ["client", "v3", "rooms", room_id, "event", event_id]

/-- The transaction id of a redaction is a random token. -/
def redactEvent (room_id event_id random_token : Str) : Endpoint where
  path := ["/client/v3/rooms/", .encoded room_id, "/redact/", .encoded event_id, "/",
    .encoded random_token]
  route := ["client", "v3", "rooms", room_id, "redact", event_id, random_token]

def reportEvent (room_id event_id : Str) : Endpoint where
  path := ["/client/v3/rooms", .encoded room_id, "/report/", .encoded event_id]
  route := ["client", "v3", "rooms", room_id, "report", event_id]

/-- The overload for a content whose type is known. -/
def sendRoomMessage (room_id : Str) (event_type : EventType) (txn_id : Str) : Endpoint where
  path := ["/client/v3/rooms/", .encoded room_id, "/send/", .raw event_type.toStr, "/",
    .encoded txn_id]
  route := ["client", "v3", "rooms", room_id, "send", event_type.toStr, txn_id]

/-- The overload for a content whose type is known. -/
def sendStateEvent (room_id : Str) (event_type : EventType) (state_key : Str) : Endpoint where
  path := ["/client/v3/rooms/", .encoded room_id, "/state/", .raw event_type.toStr, "/",
    .encoded state_key]
  route := ["client", "v3", "rooms", room_id, "state", event_type.toStr, state_key]

/-- The path of the requests for the state of a type that is given as a string. -/
def stateEvent (room_id event_type state_key : Str) : Endpoint where
  path := ["/client/v3/rooms/", .encoded room_id, "/state/", .encoded event_type, "/",
    .encoded state_key]
  route := ["client", "v3", "rooms", room_id, "state", event_type, state_key]

/-- The overload for a payload of any type. -/
def sendStateEventJson (room_id event_type state_key : Str) : Endpoint :=
  stateEvent room_id event_type state_key

def getStateEvent (room_id type state_key : Str) : Endpoint := stateEvent room_id type state_key

def sendToDevice (event_type txn_id : Str) : Endpoint where
  path := ["/client/v3/sendToDevice/", .encoded event_type, "/", .encoded txn_id]
  route := ["client", "v3", "sendToDevice", event_type, txn_id]

/-! ### Key backup -/

/-- The keys of a room. -/
def roomKeysOfRoom (version room_id : Str) : Endpoint where
  path := ["/client/v3/room_keys/keys/", .encoded room_id]
  query := some (queryParams ((SortedMap.empty : QueryParams).insert "version" version))
  route := ["client", "v3", "room_keys", "keys", room_id]

/-- The keys of a session. -/
def roomKeys (version room_id session_id : Str) : Endpoint where
  path := ["/client/v3/room_keys/keys/", .encoded room_id, "/", .encoded session_id]
  query := some (queryParams ((SortedMap.empty : QueryParams).insert "version" version))
  route := ["client", "v3", "room_keys", "keys", room_id, session_id]

def putRoomKeysOfRoom (version room_id : Str) : Endpoint := roomKeysOfRoom version room_id

def putRoomKeys (version room_id session_id : Str) : Endpoint :=
  roomKeys version room_id session_id

/-! ### Media -/

def download (server media_id : Str) : Endpoint where
  path := ["/client/v1/media/download/", .encoded server, "/", .encoded media_id]
  route := ["client", "v1", "media", "download", server, media_id]

/-- The request that `download` makes if the first one fails. -/
def downloadFallback (server media_id : Str) : Endpoint where
  path := ["/media/v3/download/", .encoded server, "/", .encoded media_id]
  route := ["media", "v3", "download", server, media_id]

/-- The options of `get_thumbnail`. -/
structure ThumbOpts where
  width : ℕ := 128
  height : ℕ := 128
  method : Str := "crop"
  mxc_url : Str

/-- The query that `get_thumbnail` writes. -/
def ThumbOpts.params (opts : ThumbOpts) : QueryParams := (SortedMap.empty : QueryParams)
  |>.insert "width" (toString opts.width)
  |>.insert "height" (toString opts.height)
  |>.insert "method" opts.method

def getThumbnail (opts : ThumbOpts) : Endpoint :=
  let mxc := parseMxcUrl opts.mxc_url
  { path := ["/client/v1/media/thumbnail/", .raw mxc.server, "/", .raw mxc.media_id]
    query := some (queryParams opts.params)
    route := ["client", "v1", "media", "thumbnail", mxc.server, mxc.media_id] }

/-- The request that `get_thumbnail` makes if the first one fails. -/
def getThumbnailFallback (opts : ThumbOpts) : Endpoint :=
  let mxc := parseMxcUrl opts.mxc_url
  { path := ["/media/v3/thumbnail/", .raw mxc.server, "/", .raw mxc.media_id]
    query := some (queryParams opts.params)
    route := ["media", "v3", "thumbnail", mxc.server, mxc.media_id] }

end Endpoint

/-! ## Requests -/

/-- The builders and their arguments. -/
inductive Request where
  | getTags (user_id_ room_id : Str)
  | putTag (user_id_ room_id tag_name : Str)
  | deleteTag (user_id_ room_id tag_name : Str)
  | putRoomAccountData (user_id_ room_id type : Str)
  | getRoomAccountData (user_id_ room_id type : Str)
  | putAccountData (user_id_ type : Str)
  | getAccountData (user_id_ type : Str)
  | secretStorageSecret (user_id_ secret_id : Str)
  | uploadSecretStorageSecret (user_id_ secret_id : Str)
  | secretStorageKey (user_id_ key_id : Str)
  | uploadSecretStorageKey (user_id_ key_id : Str)
  | joinRoom (room : Str) (via : List Str)
  | knockRoom (room : Str) (via : List Str)
  | leaveRoom (room_id : Str)
  | inviteUser (room_id : Str)
  | kickUser (room_id : Str)
  | banUser (room_id : Str)
  | unbanUser (room_id : Str)
  | readEvent (room_id : Str)
  | getState (room_id : Str)
  | listRoomAliases (room_id : Str)
  | members (room_id at_ : Str) (membership not_membership : Option Membership)
  | messages (opts : Endpoint.MessagesOpts)
  | getHierarchy (room_id from_ : Str) (limit max_depth : ℕ) (suggested_only : Bool)
  | getSummary (room_id : Str) (via : List Str)
  | startTyping (user_id_ room_id : Str)
  | stopTyping (user_id_ room_id : Str)
  | resolveRoomAlias (alias_ : Str)
  | addRoomAlias (alias_ : Str)
  | deleteRoomAlias (alias_ : Str)
  | getRoomVisibility (room_id : Str)
  | putRoomVisibility (room_id : Str)
  | getEvent (room_id event_id : Str)
  | redactEvent (room_id event_id random_token : Str)
  | reportEvent (room_id event_id : Str)
  | sendRoomMessage (room_id : Str) (event_type : EventType) (txn_id : Str)
  | sendStateEvent (room_id : Str) (event_type : EventType) (state_key : Str)
  | sendStateEventJson (room_id event_type state_key : Str)
  | getStateEvent (room_id type state_key : Str)
  | sendToDevice (event_type txn_id : Str)
  | roomKeysOfRoom (version room_id : Str)
  | roomKeys (version room_id session_id : Str)
  | putRoomKeysOfRoom (version room_id : Str)
  | putRoomKeys (version room_id session_id : Str)
  | download (server media_id : Str)
  | downloadFallback (server media_id : Str)
  | getThumbnail (opts : Endpoint.ThumbOpts)
  | getThumbnailFallback (opts : Endpoint.ThumbOpts)

/-- What a builder makes of its arguments. -/
def Request.endpoint : Request → Endpoint
  | .getTags user_id_ room_id => .getTags user_id_ room_id
  | .putTag user_id_ room_id tag_name => .putTag user_id_ room_id tag_name
  | .deleteTag user_id_ room_id tag_name => .deleteTag user_id_ room_id tag_name
  | .putRoomAccountData user_id_ room_id type => .putRoomAccountData user_id_ room_id type
  | .getRoomAccountData user_id_ room_id type => .getRoomAccountData user_id_ room_id type
  | .putAccountData user_id_ type => .putAccountData user_id_ type
  | .getAccountData user_id_ type => .getAccountData user_id_ type
  | .secretStorageSecret user_id_ secret_id => .secretStorageSecret user_id_ secret_id
  | .uploadSecretStorageSecret user_id_ secret_id =>
    .uploadSecretStorageSecret user_id_ secret_id
  | .secretStorageKey user_id_ key_id => .secretStorageKey user_id_ key_id
  | .uploadSecretStorageKey user_id_ key_id => .uploadSecretStorageKey user_id_ key_id
  | .joinRoom room via => .joinRoom room via
  | .knockRoom room via => .knockRoom room via
  | .leaveRoom room_id => .leaveRoom room_id
  | .inviteUser room_id => .inviteUser room_id
  | .kickUser room_id => .kickUser room_id
  | .banUser room_id => .banUser room_id
  | .unbanUser room_id => .unbanUser room_id
  | .readEvent room_id => .readEvent room_id
  | .getState room_id => .getState room_id
  | .listRoomAliases room_id => .listRoomAliases room_id
  | .members room_id at_ membership not_membership => .members room_id at_ membership not_membership
  | .messages opts => .messages opts
  | .getHierarchy room_id from_ limit max_depth suggested_only =>
    .getHierarchy room_id from_ limit max_depth suggested_only
  | .getSummary room_id via => .getSummary room_id via
  | .startTyping user_id_ room_id => .startTyping user_id_ room_id
  | .stopTyping user_id_ room_id => .stopTyping user_id_ room_id
  | .resolveRoomAlias alias_ => .resolveRoomAlias alias_
  | .addRoomAlias alias_ => .addRoomAlias alias_
  | .deleteRoomAlias alias_ => .deleteRoomAlias alias_
  | .getRoomVisibility room_id => .getRoomVisibility room_id
  | .putRoomVisibility room_id => .putRoomVisibility room_id
  | .getEvent room_id event_id => .getEvent room_id event_id
  | .redactEvent room_id event_id random_token => .redactEvent room_id event_id random_token
  | .reportEvent room_id event_id => .reportEvent room_id event_id
  | .sendRoomMessage room_id event_type txn_id => .sendRoomMessage room_id event_type txn_id
  | .sendStateEvent room_id event_type state_key => .sendStateEvent room_id event_type state_key
  | .sendStateEventJson room_id event_type state_key =>
    .sendStateEventJson room_id event_type state_key
  | .getStateEvent room_id type state_key => .getStateEvent room_id type state_key
  | .sendToDevice event_type txn_id => .sendToDevice event_type txn_id
  | .roomKeysOfRoom version room_id => .roomKeysOfRoom version room_id
  | .roomKeys version room_id session_id => .roomKeys version room_id session_id
  | .putRoomKeysOfRoom version room_id => .putRoomKeysOfRoom version room_id
  | .putRoomKeys version room_id session_id => .putRoomKeys version room_id session_id
  | .download server media_id => .download server media_id
  | .downloadFallback server media_id => .downloadFallback server media_id
  | .getThumbnail opts => .getThumbnail opts
  | .getThumbnailFallback opts => .getThumbnailFallback opts

/-- The number of segments of a builder's path behind the first slash. -/
def Request.size : Request → ℕ
  | .joinRoom .. | .knockRoom .. => 4
  | .leaveRoom .. | .inviteUser .. | .kickUser .. | .banUser .. | .unbanUser ..
  | .readEvent .. | .getState .. | .listRoomAliases .. | .members .. | .messages ..
  | .getHierarchy .. | .resolveRoomAlias .. | .addRoomAlias .. | .deleteRoomAlias ..
  | .sendToDevice .. | .roomKeysOfRoom .. | .putRoomKeysOfRoom ..
  | .downloadFallback .. | .getThumbnailFallback .. => 5
  | .putAccountData .. | .getAccountData .. | .secretStorageSecret ..
  | .uploadSecretStorageSecret .. | .secretStorageKey .. | .uploadSecretStorageKey ..
  | .getSummary .. | .startTyping .. | .stopTyping .. | .getRoomVisibility ..
  | .putRoomVisibility .. | .getEvent .. | .reportEvent .. | .roomKeys ..
  | .putRoomKeys .. | .download .. | .getThumbnail .. => 6
  | .getTags .. | .redactEvent .. | .sendRoomMessage .. | .sendStateEvent ..
  | .sendStateEventJson .. | .getStateEvent .. => 7
  | .putTag .. | .deleteTag .. | .putRoomAccountData .. | .getRoomAccountData .. => 8

/-- How many segments there are does not depend on the arguments. -/
theorem Request.length_route (r : Request) : r.endpoint.route.length = r.size := by
  cases r <;> rfl

end Mtx.Http
