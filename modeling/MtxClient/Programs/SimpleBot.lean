import Mathlib.Data.List.Intervals
import MtxClient.Programs.SyncLoop
import MtxClient.Responses.Lookups

/-!
# A bot

The program `simple_bot` joins the rooms that it is invited to, where it says thanks, and in its
rooms it repeats what it is told to repeat.  The commands in its first batch are not for it.

`repeats_once` is about a run of the bot with a homeserver that tells what happened in a room since
the last answer: whatever requests fail, and however the joins are answered in between, every
command is obeyed once, in the order in which they came.
-/

set_option autoImplicit false

namespace Mtx.Programs

open Str Http Responses Events Stateful

section

variable {json : JsonText}

/-! ## The program -/

/-- The bot, with the joins that have not been answered, and the rooms and bodies of the messages
that it sent. -/
structure Bot where
  joining : List Str := []
  messages : List (Str × Str) := []
  deriving DecidableEq

/-- `client->join_room(room_id, …)`. -/
def Bot.joinRoom (b : Bot) (room_id : Str) : Bot := { b with joining := b.joining ++ [room_id] }

/-- `client->send_room_message<msg::Text>(room_id, text, …)`. -/
def Bot.sendRoomMessage (b : Bot) (room_id body : Str) : Bot :=
  { b with messages := b.messages ++ [(room_id, body)] }

/-- What the bot says in a room that it joined. -/
def thanks : Str := "Thanks for the invitation!"

/-- The command. -/
def repeatCmd : Str := "!repeat"

/-- `is_room_message`: has the event a textual representation? -/
def isRoomMessage : TimelineEvents json → Bool
  | .room k _ => [RoomKind.audio, .emote, .file, .image, .notice, .text, .video].contains k
  | _ => false

/-- `get_body`: the fallback body value from the event. -/
def getBody : TimelineEvents json → Str
  | .room .audio e => e.content.body
  | .room .emote e => e.content.body
  | .room .file e => e.content.body
  | .room .image e => e.content.body
  | .room .notice e => e.content.body
  | .room .text e => e.content.body
  | .room .video e => e.content.body
  | _ => ""

/-- `get_sender`. -/
def getSender (e : TimelineEvents json) : Str := e.envelope.sender

/-- The loop of `parse_messages` over the events of a timeline. -/
def Bot.repeatMessage (room_id : Str) (b : Bot) (e : TimelineEvents json) : Bot :=
  if !isRoomMessage e then b
  else
    let body := getBody e
    if !startsWith body repeatCmd then b
    else b.sendRoomMessage room_id (getSender e ++ lit ": " ++ body.drop repeatCmd.length)

/-- `parse_messages`. -/
def Bot.parseMessages (res : Sync json) (parse_repeatCmd : Bool) (b : Bot) : Bot :=
  let b := res.rooms.invite.entries.foldl (fun b room ↦ b.joinRoom room.1) b
  if !parse_repeatCmd then b
  else res.rooms.join.entries.foldl (fun b room ↦
    room.2.timeline.events.foldl (Bot.repeatMessage room.1) b) b

/-- The callback of `join_room`. -/
def Bot.joined (room_id : Str) (call : Call RoomId) : Stateful Exn Bot Unit :=
  match call.err with
  | some _ => pure ()
  | none => update fun b ↦ b.sendRoomMessage room_id thanks

/-- The answer to one of the joins. -/
structure JoinAnswer extends HttpAnswer where
  index : ℕ

/-- What an answer to a join does. -/
def Bot.joinAnswered (json : JsonText) (what : Exn → Str) (answer : JoinAnswer) (b : Bot) :
    Except Exn Bot :=
  match b.joining[answer.index]? with
  | none => .ok b
  | some room_id =>
    complete json what (deserializeJson json RoomId.fromJson) (Bot.joined room_id)
      answer.toHttpAnswer { b with joining := b.joining.eraseIdx answer.index }

/-- The program. -/
def simpleBot (json : JsonText) (what : Exn → Str) : App json Bot JoinAnswer where
  first res := update (Bot.parseMessages res false)
  next res := update (Bot.parseMessages res true)
  other := Bot.joinAnswered json what

/-! ## What is expected of it -/

/-- The events of a room in a batch. -/
def timelineOf (res : Sync json) (room_id : Str) : List (TimelineEvents json) :=
  (res.rooms.join.find? room_id).elim [] (·.timeline.events)

/-- What the bot says to an event. -/
def reply (e : TimelineEvents json) : Option Str :=
  if isRoomMessage e && startsWith (getBody e) repeatCmd then
    some (getSender e ++ lit ": " ++ (getBody e).drop repeatCmd.length)
  else none

/-- What the bot repeated in a room: what it said there other than thanks. -/
def Bot.repeated (b : Bot) (room_id : Str) : List Str :=
  b.messages.filterMap fun m ↦ if m.1 = room_id ∧ m.2 ≠ thanks then some m.2 else none

/-- The homeserver tells the end of what was added to a room in between: all of it, unless the
timeline is limited. -/
def TellsEnd (h : Homeserver json) (added : ℕ → Str → List (TimelineEvents json)) : Prop :=
  ∀ i j res, h.tells i j res → ∀ room_id,
    timelineOf res room_id <:+ (List.Ico i j).flatMap (added · room_id)

/-- The homeserver tells everything. -/
def TellsAll (h : Homeserver json) (added : ℕ → Str → List (TimelineEvents json)) : Prop :=
  ∀ i j res, h.tells i j res → ∀ room_id,
    timelineOf res room_id = (List.Ico i j).flatMap (added · room_id)

/-! ## A batch -/

theorem reply_ne_thanks {e : TimelineEvents json} {body : Str} (h : reply e = some body) :
    body ≠ thanks := by
  rw [reply] at h
  split_ifs at h
  obtain rfl := Option.some.inj h
  intro heq
  have hcolon : 58 ∈ lit ": " := by decide
  have hthanks : 58 ∈ thanks := heq ▸ List.mem_append_left _ (List.mem_append_right _ hcolon)
  exact absurd hthanks (by decide)

theorem repeatMessage_eq (room_id : Str) (b : Bot) (e : TimelineEvents json) :
    b.repeatMessage room_id e =
      { b with messages := b.messages ++ (reply e).toList.map (room_id, ·) } := by
  rw [Bot.repeatMessage, reply]
  by_cases hroom : isRoomMessage e = true
  · by_cases hcmd : startsWith (getBody e) repeatCmd = true
    · simp [hroom, hcmd, Bot.sendRoomMessage]
    · simp [hroom, hcmd]
  · simp [hroom]

/-- The loop over the events of a room. -/
theorem foldl_repeatMessage (room_id : Str) (b : Bot) (events : List (TimelineEvents json)) :
    events.foldl (Bot.repeatMessage room_id) b =
      { b with messages := b.messages ++ (events.filterMap reply).map (room_id, ·) } := by
  induction events generalizing b with
  | nil => simp
  | cons e events ih =>
    rw [List.foldl_cons, ih, repeatMessage_eq, List.filterMap_cons]
    cases reply e <;> simp

/-- The loop over the rooms. -/
theorem foldl_rooms (rooms : List (Str × JoinedRoom json)) (b : Bot) :
    rooms.foldl (fun b room ↦ room.2.timeline.events.foldl (Bot.repeatMessage room.1) b) b =
      { b with messages := b.messages ++ rooms.flatMap fun room ↦
        (room.2.timeline.events.filterMap reply).map (room.1, ·) } := by
  induction rooms generalizing b with
  | nil => simp
  | cons room rooms ih =>
    rw [List.foldl_cons, foldl_repeatMessage, ih, List.flatMap_cons]
    simp only [List.append_assoc]

/-- The loop over the invitations. -/
theorem messages_foldl_joinRoom (rooms : List (Str × InvitedRoom json)) (b : Bot) :
    (rooms.foldl (fun b room ↦ b.joinRoom room.1) b).messages = b.messages := by
  induction rooms generalizing b with
  | nil => rfl
  | cons room rooms ih => exact ih _

/-- A batch makes the bot repeat what it tells. -/
theorem repeated_parseMessages (res : Sync json) (b : Bot) (room_id : Str) :
    (b.parseMessages res true).repeated room_id =
      b.repeated room_id ++ (timelineOf res room_id).filterMap reply := by
  have hother (room : Str × JoinedRoom json) (h : room.1 ≠ room_id) :
      (((room.2.timeline.events.filterMap reply).map (room.1, ·)).filterMap fun m ↦
        if m.1 = room_id ∧ m.2 ≠ thanks then some m.2 else none) = [] := by
    rw [List.filterMap_map, List.filterMap_eq_nil_iff]
    exact fun body _ ↦ if_neg fun hm ↦ h hm.1
  have hself (events : List (TimelineEvents json)) :
      (((events.filterMap reply).map (room_id, ·)).filterMap fun m ↦
        if m.1 = room_id ∧ m.2 ≠ thanks then some m.2 else none) = events.filterMap reply := by
    rw [List.filterMap_map]
    conv_rhs => rw [← List.filterMap_some (l := events.filterMap reply)]
    refine List.filterMap_congr fun body hbody ↦ ?_
    obtain ⟨e, -, he⟩ := List.mem_filterMap.mp hbody
    exact if_pos ⟨rfl, reply_ne_thanks he⟩
  rw [Bot.parseMessages, Bool.not_true, if_neg Bool.false_ne_true, foldl_rooms, Bot.repeated,
    messages_foldl_joinRoom, List.filterMap_append, List.filterMap_flatMap,
    res.rooms.join.sorted.flatMap_eq hother, timelineOf, SortedMap.find?]
  congr 1
  cases AssocList.find? room_id res.rooms.join.entries with
  | none => rfl
  | some room => exact hself room.timeline.events

/-! ## A run -/

variable {what : Exn → Str}

/-- The first batch makes the bot join, but not repeat. -/
theorem repeated_parseMessages_first (res : Sync json) (b : Bot) (room_id : Str) :
    (b.parseMessages res false).repeated room_id = b.repeated room_id := by
  rw [Bot.parseMessages, Bool.not_false, if_pos rfl, Bot.repeated, messages_foldl_joinRoom,
    Bot.repeated]

theorem repeated_joined (room : Str) (call : Call RoomId) (b : Bot) (room_id : Str) :
    (Bot.joined room call b).2.repeated room_id = b.repeated room_id := by
  rw [Bot.joined]
  cases call.err with
  | some err => rfl
  | none =>
    show (b.sendRoomMessage room thanks).repeated room_id = _
    rw [Bot.sendRoomMessage, Bot.repeated, List.filterMap_append]
    simp [Bot.repeated]

/-- An answer to a join does not make the bot repeat anything. -/
theorem repeated_joinAnswered {answer : JoinAnswer} {b b' : Bot}
    (h : b.joinAnswered json what answer = .ok b') (room_id : Str) :
    b'.repeated room_id = b.repeated room_id := by
  rw [Bot.joinAnswered] at h
  split at h
  · rw [Except.ok.inj h]
  · obtain ⟨call, -, rfl⟩ := complete_eq_ok h
    exact repeated_joined _ call _ room_id

/-- What the bot is to repeat in a room between two positions. -/
def toRepeat (added : ℕ → Str → List (TimelineEvents json)) (i j : ℕ) (room_id : Str) : List Str :=
  ((List.Ico i j).flatMap (added · room_id)).filterMap reply

theorem toRepeat_append {added : ℕ → Str → List (TimelineEvents json)} {i j k : ℕ} (hij : i ≤ j)
    (hjk : j ≤ k) (room_id : Str) :
    toRepeat added i k room_id = toRepeat added i j room_id ++ toRepeat added j k room_id := by
  rw [toRepeat, ← List.Ico.append_consecutive hij hjk, List.flatMap_append, List.filterMap_append]
  rfl

variable {h : Homeserver json} {added : ℕ → Str → List (TimelineEvents json)}

/-- How what the bot repeated is related to what it was to repeat, if that is so for each batch. -/
theorem repeated_of_follows {R : List Str → List Str → Prop} (hnil : R [] [])
    (happend : ∀ a b c d, R a b → R c d → R (a ++ c) (b ++ d))
    (htells : ∀ j k res, h.tells j k res → ∀ room_id,
      R ((timelineOf res room_id).filterMap reply) (toRepeat added j k room_id))
    {l : List (Seen json JoinAnswer)} {b : Bot} {p : Position}
    (hs : Follows h (simpleBot json what) {} l b p) (room_id : Str) :
    p.elim (b.repeated room_id = []) fun p ↦
      p.1 ≤ p.2 ∧ R (b.repeated room_id) (toRepeat added p.1 p.2 room_id) := by
  induction hs with
  | start => rfl
  | first _ _ hfirst ih =>
    obtain rfl := (Prod.mk.inj hfirst).2
    refine ⟨le_rfl, ?_⟩
    rw [repeated_parseMessages_first, show _ = [] from ih, toRepeat, List.Ico.self_empty]
    exact hnil
  | next _ hle _ hres hnext ih =>
    obtain rfl := (Prod.mk.inj hnext).2
    obtain ⟨hij, hR⟩ := ih
    refine ⟨hij.trans hle, ?_⟩
    rw [repeated_parseMessages, toRepeat_append hij hle]
    exact happend _ _ _ _ hR (htells _ _ _ hres room_id)
  | other _ hother ih => rwa [repeated_joinAnswered hother]

/-- The bot handles what it sees without an exception. -/
theorem not_stopped {l : List (Seen json JoinAnswer)} {p : Loop Bot} :
    ¬ Stopped h (simpleBot json what) {} l p := by
  rintro ⟨-, before, res, after, e, b, -, ⟨s, ⟨-, hthrown⟩ | ⟨i, j, k, -, -, hthrown⟩⟩, -⟩
  · cases (Prod.mk.inj hthrown).1
  · cases (Prod.mk.inj hthrown).1

/-- **Every command is obeyed once**, whatever requests fail and however often.  When the first
batch that the bot received ends at position `i` and the last one at `j`, then it waits for what
comes behind `j`, and it has repeated in each room what it was told to between the two, in that
order, or, where the homeserver limits timelines, a part of it. -/
theorem repeats_once (what : Exn → Str) (h : Homeserver json)
    (added : ℕ → Str → List (TimelineEvents json)) (hend : TellsEnd h added)
    (actions : List (Action JoinAnswer)) (l : Loop Bot)
    (hrun : (loop what h (simpleBot json what)).Run (.start {}) actions l) :
    (batches (seen json actions) = [] ∧
      l.syncing = some ((syncEndpoint { timeout := 0 }).url, .initialSyncHandler) ∧
      ∀ room_id, l.app.repeated room_id = []) ∨
    ∃ first last i j, (batches (seen json actions)).head? = some first ∧
      first.next_batch = h.token i ∧ (batches (seen json actions)).getLast? = some last ∧
      last.next_batch = h.token j ∧ i ≤ j ∧
      l.syncing = some ((syncEndpoint { since := h.token j }).url, .syncHandler) ∧
      ∀ room_id, (l.app.repeated room_id).Sublist (toRepeat added i j room_id) ∧
        (TellsAll h added → l.app.repeated room_id = toRepeat added i j room_id) := by
  have hpart {l : List (Seen json JoinAnswer)} {b : Bot} {p : Position}
      (hs : Follows h (simpleBot json what) {} l b p) :=
    repeated_of_follows (R := List.Sublist) .slnil (fun _ _ _ _ ↦ List.Sublist.append)
      (fun j k res hres room_id ↦ (hend j k res hres room_id).sublist.filterMap reply) hs
  have hwhole {l : List (Seen json JoinAnswer)} {b : Bot} {p : Position}
      (hs : Follows h (simpleBot json what) {} l b p) (hall : TellsAll h added) :=
    repeated_of_follows (R := Eq) rfl (fun _ _ _ _ ↦ congrArg₂ _)
      (fun j k res hres room_id ↦ congrArg _ (hall j k res hres room_id)) hs
  rcases alive_or_stopped_of_run (.inl (alive_start h (simpleBot json what) {})) hrun with
    (⟨hs, hsyncing⟩ | ⟨i, j, hs, -, hsyncing⟩) | hstopped
  · exact .inl ⟨hs.position, hsyncing, hpart hs⟩
  · obtain ⟨⟨first, hfirst, hi⟩, last, hlast, hj⟩ := hs.position
    exact .inr ⟨first, last, i, j, hfirst, hi, hlast, hj, (hpart hs []).1, hsyncing,
      fun room_id ↦ ⟨(hpart hs room_id).2, fun hall ↦ (hwhole hs hall room_id).2⟩⟩
  · exact absurd hstopped not_stopped

end

/-- The room in which the bot is told to repeat something. -/
def commandRoom : Str := "!r:example.org"

/-- A batch with a command in it. -/
def commandBatch : Json := .object [(lit "next_batch", .string "ss"),
  (lit "rooms", .object [(lit "join", .object [(commandRoom,
    .object [(lit "timeline", .object [(lit "events", .array [.object [
      (lit "content", .object [(lit "body", .string "!repeat hi"),
        (lit "msgtype", .string "m.text")]),
      (lit "event_id", .string "$e"), (lit "origin_server_ts", .numberUnsigned 1),
      (lit "sender", .string "@u:example.org"),
      (lit "type", .string "m.room.message")]])])])])])]

/-- The texts of the batches. -/
abbrev commandTexts : JsonText := knownTexts [sampleBatch, commandBatch]

/-- What is read from the batch. -/
def commandRes : Sync commandTexts :=
  match Sync.fromJson commandTexts commandBatch with
  | .ok res => res
  | .error _ => default

/-- A homeserver for which the command is the first thing that happens. -/
def commandServer : Homeserver commandTexts :=
  { sampleServer commandTexts with
    tells := fun i j res ↦ i = 0 ∧ j = 1 ∧ res = commandRes }

/-- What happens. -/
def commandAdded (k : ℕ) (room_id : Str) : List (TimelineEvents commandTexts) :=
  if k = 0 then timelineOf commandRes room_id else []

theorem fromJson_commandBatch :
    Sync.fromJson commandTexts commandBatch = .ok commandRes := by
  have hok : (Sync.fromJson commandTexts commandBatch).isOk = true := by decide +kernel
  rw [commandRes]
  cases h : Sync.fromJson commandTexts commandBatch with
  | ok res => rfl
  | error e =>
    rw [h] at hok
    cases hok

theorem fromJson_sampleBatch :
    Sync.fromJson commandTexts sampleBatch = .ok { next_batch := "s" } := rfl

theorem answers_command : commandServer.Answers (syncEndpoint { since := "s" }).url commandRes := by
  have htoken : lit "s" = commandServer.token 0 := by decide +kernel
  rw [htoken, answers_since_iff]
  exact ⟨1, Nat.zero_le 1, by decide +kernel, rfl, rfl, rfl⟩

/-- The request behind the first batch is lost once, and then it is answered with the command. -/
def commandAnswers : List (Action JoinAnswer) := [
  .answered { body := commandTexts.text sampleBatch }, .answered { err_code := 7 },
  .answered { body := commandTexts.text commandBatch }]

theorem repeats_once_command : ∃ l : Loop Bot,
    l.app.repeated commandRoom = [lit "@u:example.org:  hi"] ∧
    ((batches (seen commandTexts commandAnswers) = [] ∧
      l.syncing = some ((syncEndpoint { timeout := 0 }).url, .initialSyncHandler) ∧
      ∀ room_id, l.app.repeated room_id = []) ∨
    ∃ first last i j, (batches (seen commandTexts commandAnswers)).head? = some first ∧
      first.next_batch = commandServer.token i ∧
      (batches (seen commandTexts commandAnswers)).getLast? = some last ∧
      last.next_batch = commandServer.token j ∧ i ≤ j ∧
      l.syncing = some ((syncEndpoint { since := commandServer.token j }).url, .syncHandler) ∧
      ∀ room_id, (l.app.repeated room_id).Sublist (toRepeat commandAdded i j room_id) ∧
        (TellsAll commandServer commandAdded →
          l.app.repeated room_id = toRepeat commandAdded i j room_id)) := by
  have hadded : TellsEnd commandServer commandAdded := by
    rintro i j res ⟨rfl, rfl, rfl⟩ room_id
    exact (List.append_nil (timelineOf commandRes room_id)).symm ▸ List.suffix_rfl
  have hrestores : commandTexts.Restores sampleBatch ∧ commandTexts.Restores commandBatch :=
    restores_knownTexts_pair (by decide +kernel)
  have hinitial : (loop (fun _ ↦ "") commandServer (simpleBot _ fun _ ↦ "")).Run
      (.start {}) _ _ :=
    run_batch .nil rfl hrestores.1 fromJson_sampleBatch (answers_initial_iff.mpr ⟨0, rfl⟩)
      rfl
  have hlost := run_lost hinitial rfl (by decide : (7 : ℤ) ≠ 0) rfl
  have hanswered := run_batch hlost rfl hrestores.2 fromJson_commandBatch answers_command rfl
  exact ⟨_, by decide +kernel, repeats_once _ _ _ hadded commandAnswers _ hanswered⟩

end Mtx.Programs
