import MtxClient.Programs.CryptoBot
import MtxClient.Responses.Texts

/-!
# Runs of the encrypting bot

Whatever the homeserver answers, and in whatever order, all that happens to the storage of the bot
are the steps that `Storage.Step` lists (`Inv`).  The lemmas say so for one function of the program
after the other; where a function looks at the storage before it writes, the lemma carries along
what it saw.
-/

set_option autoImplicit false

namespace Mtx.Programs

open Str Http Responses Events Crypto Stateful

variable {olm : SessionOlm} {json : JsonText}

/-! ## What is assumed -/

/-- What the bot relies on: libolm names its sessions and their keys in base64, and only texts that
are UTF-8 are parsed. -/
structure BotLaws (olm : SessionOlm) (json : JsonText) : Prop where
  session_id : ∀ session, validUtf8 (olm.outboundGroupSessionId session) = true
  session_key : ∀ session, validUtf8 (olm.outboundGroupSessionKey session) = true
  parse : ∀ s j, json.parse s = .ok j → j.validUtf8 = true

/-! ## The invariant -/

/-- The storage came to what it is by steps, and has a property besides. -/
structure Inv (start : Storage olm) (P : Storage olm → Prop) (b : CryptoBot olm) : Prop where
  steps : Storage.Steps start b.storage
  holds : P b.storage
  /-- The devices that one-time keys are claimed for have names that can be stored. -/
  requests : ∀ member dev payload, .claimKeys member dev payload ∈ b.requests →
    validUtf8 dev = true
  account : ∃ account, b.olm_client.account_ = some account

/-- A property that does not depend on what is known of devices. -/
def AboutGroups (P : Storage olm → Prop) : Prop :=
  ∀ s s' : Storage olm, s'.outbound_group_sessions = s.outbound_group_sessions →
    s'.outbound_group_session_data = s.outbound_group_session_data → P s → P s'

/-- Nothing is said of the storage. -/
def Anything (_ : Storage olm) : Prop := True

theorem aboutGroups_anything : @AboutGroups olm Anything := fun _ _ _ _ _ ↦ trivial

variable {start : Storage olm} {P : Storage olm → Prop} {b : CryptoBot olm}

theorem Inv.weaken (h : Inv start P b) : Inv start Anything b :=
  ⟨h.steps, trivial, h.requests, h.account⟩

theorem Inv.store (h : Inv start P b) {f : Storage olm → Storage olm}
    (hstep : Storage.Step b.storage (f b.storage)) {Q : Storage olm → Prop} (hQ : Q (f b.storage)) :
    Inv start Q { b with storage := f b.storage } :=
  ⟨h.steps.tail hstep, hQ, h.requests, h.account⟩

theorem keeps_store {f : Storage olm → Storage olm}
    (hstep : ∀ s, Storage.Steps start s → Storage.Step s (f s)) (hP : ∀ s, P s → P (f s)) :
    Keeps (Inv start P) (store f) :=
  keeps_update fun _ hb ↦ hb.store (hstep _ hb.steps) (hP _ hb.holds)

theorem keeps_send {request : BotRequest}
    (h : ∀ member dev payload, request = .claimKeys member dev payload → validUtf8 dev = true) :
    Keeps (Inv start P) (send request) := by
  refine keeps_update fun b hb ↦ ⟨hb.steps, hb.holds, fun member dev payload hmem ↦ ?_, hb.account⟩
  rcases List.mem_append.mp hmem with hmem | hmem
  · exact hb.requests member dev payload hmem
  · exact h member dev payload (List.mem_singleton.mp hmem).symm

/-- A request whose callback writes nothing that the request holds. -/
theorem keeps_send_other {request : BotRequest}
    (h : ∀ member dev payload, request ≠ .claimKeys member dev payload) :
    Keeps (Inv start P) (send request) :=
  keeps_send fun member dev payload hrequest ↦ absurd hrequest (h member dev payload)

theorem maintains_withClient {α : Type} {f : OlmClient olm.toLibolm → OlmM α} {Q : α → Prop}
    (h : ∀ client, (∃ account, client.account_ = some account) → ∀ w a w',
      f client w = .ok (a, w') → Q a) : Maintains (Inv start P) (withClient f) Q := by
  intro b hb
  rw [withClient]
  cases hf : f b.olm_client b.world with
  | error e => exact ⟨hb, fun a ha ↦ by cases ha⟩
  | ok r =>
    refine ⟨⟨hb.steps, hb.holds, hb.requests, hb.account⟩, fun a ha ↦ ?_⟩
    obtain rfl := Except.ok.inj ha
    exact h _ hb.account _ _ _ hf

theorem keeps_withClient {α : Type} (f : OlmClient olm.toLibolm → OlmM α) :
    Keeps (Inv start P) (withClient f) :=
  maintains_withClient fun _ _ _ _ _ _ ↦ trivial

theorem keeps_lift {α : Type} (x : Except Exn α) : Keeps (Inv start P) (lift x) :=
  maintains_lift fun _ _ ↦ trivial

theorem keeps_access {α : Type} (f : CryptoBot olm → α) :
    Keeps (Inv start P) (access f : BotM olm α) :=
  maintains_access fun _ _ ↦ trivial

/-- A value whose text is asked for is only worked with if its strings are UTF-8. -/
theorem maintains_dump_bind {α : Type} {obj : Json} {f : Str → BotM olm α} {Q : α → Prop}
    (h : obj.validUtf8 = true → ∀ text, Maintains (Inv start P) (f text) Q) :
    Maintains (Inv start P) (lift (json.dump obj) >>= f) Q :=
  Maintains.bind (Q := fun _ ↦ obj.validUtf8 = true)
    (maintains_lift fun _ hdump ↦ (JsonText.dump_eq_ok_iff.mp hdump).1)
    fun text hvalid ↦ h hvalid text

/-! ## Looking up devices -/

section

variable (hstart : start.Utf8) (hP : AboutGroups P)

include hstart hP

theorem maintains_devicesOf {user_id : Str} (huser : validUtf8 user_id = true) :
    Maintains (Inv start P) (devicesOf user_id) fun devices ↦
      ∀ d ∈ devices, validUtf8 d = true := by
  intro b hb
  rw [devicesOf, access_bind]
  cases hfind : b.storage.devices.find? user_id with
  | some devices =>
    exact maintains_pure ((hb.steps.utf8 hstart).devices user_id devices hfind).2 b hb
  | none =>
    refine ⟨hb.store (.emplaceDevices huser ?_) (hP b.storage _ rfl rfl hb.holds), ?_⟩
    · exact fun d hd ↦ absurd hd List.not_mem_nil
    · intro devices hdevices d hd
      obtain rfl : [] = devices := Except.ok.inj hdevices
      exact absurd hd List.not_mem_nil

/-- The keys are texts. -/
def DevKeys.Utf8 (keys : DevKeys) : Prop :=
  validUtf8 keys.ed25519 = true ∧ validUtf8 keys.curve25519 = true

theorem maintains_deviceKeysOf {dev : Str} (hdev : validUtf8 dev = true) :
    Maintains (Inv start P) (deviceKeysOf dev) DevKeys.Utf8 := by
  intro b hb
  rw [deviceKeysOf, access_bind]
  cases hfind : b.storage.device_keys.find? dev with
  | some keys =>
    exact maintains_pure (Q := DevKeys.Utf8)
      ((hb.steps.utf8 hstart).device_keys dev keys hfind).2 b hb
  | none =>
    refine ⟨hb.store (.setDeviceKeys hfind hdev (by decide) (by decide))
      (hP b.storage _ rfl rfl hb.holds), ?_⟩
    intro keys hkeys
    obtain rfl : {} = keys := Except.ok.inj hkeys
    exact ⟨by decide, by decide⟩

theorem keeps_shareRoomKey (megolm_payload : DeviceEvent Msg.RoomKey) (member : Str × Bool)
    {dev : Str} (hdev : validUtf8 dev = true) :
    Keeps (Inv start P) (shareRoomKey json megolm_payload member dev : BotM olm Unit) := by
  refine (maintains_deviceKeysOf hstart hP hdev).bind fun device_keys hkeys b hb ↦ ?_
  rw [access_bind]
  cases b.storage.olm_outbound_sessions.find? device_keys.curve25519 with
  | some olm_session =>
    refine Maintains.andThen (keeps_withClient _) (fun r ↦ ?_) b hb
    refine Maintains.andThen (keeps_store (fun s _ ↦ .setOlmOutboundSession hkeys.2)
      fun s hs ↦ hP s _ rfl rfl hs) fun _ ↦ ?_
    exact keeps_send_other fun _ _ _ h ↦ by cases h
  | none =>
    refine keeps_send (fun m d payload h ↦ ?_) b hb
    cases h
    exact hdev

end

/-! ## Group sessions -/

section

variable (hstart : start.Utf8)

/-- Sending a message moves the session on before anything else is written. -/
theorem leads_sendGroupMessage {session : olm.OutboundGroupSession}
    {keep : olm.OutboundGroupSession → BotM olm Unit} {Q : Storage olm → Prop}
    (hkeep : ∀ plaintext ciphertext session',
      olm.groupEncrypt session plaintext = some (ciphertext, session') →
        Leads (Inv start P) (Inv start Q) (keep session'))
    (hweaken : ∀ s, P s → Q s) (session_id room_id msg : Str) :
    Leads (Inv start P) (Inv start Q)
      (sendGroupMessage json session keep session_id room_id msg) := by
  have hPQ : ∀ b, Inv start P b → Inv start Q b := fun b hb ↦
    ⟨hb.steps, hweaken _ hb.holds, hb.requests, hb.account⟩
  refine Maintains.leads_bind (keeps_lift _) hPQ fun text _ ↦ ?_
  refine Maintains.leads_bind (Q := fun r ↦ olm.groupEncrypt session text = some r)
    (maintains_withClient ?_) hPQ fun r hr ↦ ?_
  · intro client _ w a w' h
    obtain ⟨_, _, -, h⟩ := olmM_bind_eq_ok_iff.mp h
    exact (orOlmException_eq_ok_iff.mp h).1
  · refine (hkeep text r.1 r.2 hr).andThen fun _ ↦ (keeps_withClient _).andThen fun keys ↦ ?_
    refine (keeps_access _).andThen fun device_id ↦ ?_
    refine (keeps_send_other fun _ _ _ h ↦ ?_).andThen fun _ ↦ maintains_pure trivial
    cases h

/-- The room has no group session yet. -/
def NoOutbound (room_id : Str) (s : Storage olm) : Prop := ¬ s.HasOutbound room_id

theorem aboutGroups_noOutbound (room_id : Str) :
    @AboutGroups olm (NoOutbound room_id) := fun s s' hsessions hdata h ↦ by
  rwa [NoOutbound, Storage.HasOutbound, hsessions, hdata]

theorem leads_create_outbound (hstart : start.Utf8) (laws : BotLaws olm json) {room_id : Str}
    (hroom : validUtf8 room_id = true) (reply_msg : Str) :
    Leads (Inv start (NoOutbound room_id)) (Inv start Anything)
      (createOutboundMegolmSession json room_id reply_msg : BotM olm Unit) := by
  have hweaken : ∀ b : CryptoBot olm, Inv start (NoOutbound room_id) b → Inv start Anything b :=
    fun b hb ↦ hb.weaken
  refine Maintains.leads_bind (keeps_withClient _) hweaken fun outbound_session _ b hb ↦ ?_
  rw [access_bind]
  cases hmembers : b.storage.members.find? room_id with
  | none => exact hb.weaken
  | some members =>
    have hall := ((hb.steps.utf8 hstart).members room_id members hmembers).2
    refine Maintains.leads_bind (keeps_forEach fun member hmember ↦ ?_) hweaken (fun _ _ ↦ ?_) b hb
    · have hdevices := maintains_devicesOf hstart (aboutGroups_noOutbound room_id)
        (hall member.1 member.2 (SortedMap.mem_entries_iff.mp hmember)).1
      refine hdevices.bind fun devices hdevices ↦ ?_
      exact keeps_forEach fun dev hdev ↦
        keeps_shareRoomKey hstart (aboutGroups_noOutbound room_id) _ member (hdevices dev hdev)
    · refine Maintains.leads_bind (leads_sendGroupMessage (Q := NoOutbound room_id)
        (fun _ _ _ _ ↦ fun b hb ↦ hb) (fun _ ↦ id) _ _ _).keeps hweaken fun session _ b hb ↦ ?_
      exact hb.store (.setOutboundGroupSession hb.holds hroom (laws.session_id outbound_session)
        (laws.session_key outbound_session)) trivial

theorem keeps_sendEncryptedReply (hstart : start.Utf8) (laws : BotLaws olm json) {room_id : Str}
    (hroom : validUtf8 room_id = true) (reply_msg : Str) :
    Keeps (Inv start Anything) (sendEncryptedReply json room_id reply_msg : BotM olm Unit) := by
  refine Leads.keeps fun b hb ↦ ?_
  rw [sendEncryptedReply, access_bind]
  have hnone (h : ¬ b.storage.HasOutbound room_id) :=
    leads_create_outbound hstart laws hroom reply_msg b ⟨hb.steps, h, hb.requests, hb.account⟩
  cases hsession : b.storage.outbound_group_sessions.find? room_id with
  | none => exact hnone fun ⟨⟨session, h⟩, _⟩ ↦ by rw [hsession] at h; cases h
  | some session =>
    cases hdata : b.storage.outbound_group_session_data.find? room_id with
    | none => exact hnone fun ⟨_, data, h⟩ ↦ by rw [hdata] at h; cases h
    | some data =>
      refine Leads.andThen (leads_sendGroupMessage
        (P := fun s ↦ s.outbound_group_sessions.find? room_id = some session)
        (fun _ _ session' hencrypt b hb ↦ ?_) (fun _ _ ↦ trivial) _ _ _)
        (fun _ ↦ maintains_pure trivial) b ⟨hb.steps, hsession, hb.requests, hb.account⟩
      exact hb.store (.advanceOutbound hb.holds hencrypt) trivial

theorem keeps_claimed (hstart : start.Utf8) (member : Str) {dev : Str} (hdev : validUtf8 dev = true)
    (megolm_payload : DeviceEvent Msg.RoomKey) (call : Call ClaimKeys) :
    Keeps (Inv start Anything) (claimed json member dev megolm_payload call : BotM olm Unit) := by
  rw [claimed]
  cases call.err with
  | some err => exact maintains_pure trivial
  | none =>
    refine (keeps_lift _).andThen fun _ ↦ (keeps_lift _).andThen fun devices ↦ ?_
    refine keeps_forEach fun rd _ ↦ ?_
    refine (keeps_lift _).andThen fun _ ↦ (keeps_lift _).andThen fun otk ↦ ?_
    refine (maintains_deviceKeysOf hstart aboutGroups_anything hdev).bind fun device_keys hkeys ↦ ?_
    refine (keeps_lift _).andThen fun one_time_key ↦ (keeps_withClient _).andThen fun session ↦ ?_
    refine (keeps_withClient _).andThen fun r ↦ ?_
    refine (keeps_store (fun s _ ↦ .setOlmOutboundSession hkeys.2) fun _ _ ↦ trivial).andThen
      fun _ ↦ keeps_send_other fun _ _ _ h ↦ ?_
    cases h

end

/-! ## Olm messages -/

theorem keeps_setClient {client : OlmClient olm.toLibolm}
    (h : ∃ account, client.account_ = some account) :
    Keeps (Inv start P) (update fun b ↦ { b with olm_client := client } : BotM olm Unit) :=
  keeps_update fun _ hb ↦ ⟨hb.steps, hb.holds, hb.requests, h⟩

theorem account_of_createInboundSession {client client' : OlmClient olm.toLibolm} {message : Str}
    {session : olm.Session} (h : client.createInboundSession message = .ok (session, client')) :
    ∃ account, client'.account_ = some account := by
  rw [OlmClient.createInboundSession] at h
  split at h
  · cases h
  · split at h
    · cases h
    · split at h
      · cases h
      · obtain ⟨-, rfl⟩ := Prod.mk.inj (Except.ok.inj h)
        exact ⟨_, rfl⟩

theorem maintains_member {content : Json} (hcontent : content.validUtf8 = true) (k : Str) :
    Maintains (Inv start P) (lift do (← content.atKey k).getString : BotM olm Str) fun s ↦
      validUtf8 s = true := by
  refine maintains_lift fun s h ↦ ?_
  obtain ⟨v, hv, hs⟩ := bind_eq_ok_iff.mp h
  have hvalid := validUtf8_of_atKey hcontent hv
  rwa [Json.getString_eq_ok_iff.mp hs] at hvalid

/-- A room key is only filed where there is none. -/
theorem keeps_fileRoomKey {room_id session_id sender_key : Str} (session_key : Str)
    (hkey : validUtf8 (Storage.groupKey room_id session_id sender_key) = true) :
    Keeps (Inv start Anything) (do
      let storage ← access CryptoBot.storage
      if storage.inboundGroupExists room_id session_id sender_key then return
      else
        let megolm_session ← lift (initInboundGroupSession session_key)
        store (Storage.setInboundGroupSession room_id session_id sender_key megolm_session) :
          BotM olm Unit) := by
  intro b hb
  rw [access_bind]
  split_ifs with hexists
  · exact ⟨hb, fun _ _ ↦ trivial⟩
  · rw [lift_bind]
    cases initInboundGroupSession session_key with
    | error e => exact ⟨hb, fun _ _ ↦ trivial⟩
    | ok session =>
      exact ⟨hb.store (.setInboundGroupSession (by simpa using hexists) hkey) trivial,
        fun _ _ ↦ trivial⟩

theorem validUtf8_sender_key {obj : Json} (hobj : obj.validUtf8 = true) {olm_msg : OlmMessage}
    (h : OlmMessage.fromJson obj = .ok olm_msg) : validUtf8 olm_msg.sender_key = true := by
  obtain ⟨type, -, h⟩ := bind_eq_ok_iff.mp h
  obtain ⟨-, -, h⟩ := bind_eq_ok_iff.mp h
  obtain ⟨content, hcontent, h⟩ := bind_eq_ok_iff.mp h
  obtain ⟨algorithm, -, h⟩ := bind_eq_ok_iff.mp h
  obtain ⟨-, -, h⟩ := bind_eq_ok_iff.mp h
  obtain ⟨v, -, h⟩ := bind_eq_ok_iff.mp h
  obtain ⟨sender, -, h⟩ := bind_eq_ok_iff.mp h
  obtain ⟨content', hcontent', h⟩ := bind_eq_ok_iff.mp h
  obtain ⟨w, hw, h⟩ := bind_eq_ok_iff.mp h
  obtain ⟨sender_key, hkey, h⟩ := bind_eq_ok_iff.mp h
  obtain ⟨_, -, h⟩ := bind_eq_ok_iff.mp h
  obtain ⟨_, -, h⟩ := bind_eq_ok_iff.mp h
  obtain ⟨_, -, h⟩ := bind_eq_ok_iff.mp h
  have hvalid := validUtf8_of_atKey (validUtf8_of_atKey hobj hcontent') hw
  rw [Json.getString_eq_ok_iff.mp hkey] at hvalid
  rw [← Except.ok.inj h]
  exact hvalid

section

variable (laws : BotLaws olm json)

include laws

theorem keeps_openMessage {sender_key : Str} (hsender : validUtf8 sender_key = true)
    (msg_body : Str) :
    Keeps (Inv start Anything) (openMessage json sender_key msg_body : BotM olm Unit) := by
  refine (keeps_access _).andThen fun client ↦ ?_
  refine Maintains.bind (Q := fun r ↦ ∃ account, r.2.account_ = some account)
    (maintains_lift fun r h ↦ account_of_createInboundSession h) fun r hr ↦ ?_
  refine (keeps_setClient hr).andThen fun _ ↦ ?_
  split_ifs
  · exact maintains_pure trivial
  · refine (keeps_lift _).andThen fun decrypted ↦ ?_
    refine Maintains.bind (Q := fun j ↦ j.validUtf8 = true)
      (maintains_lift fun j h ↦ laws.parse _ j h) fun plaintext hplaintext ↦ ?_
    refine (keeps_lift _).andThen fun _ ↦ ?_
    refine (keeps_store (fun s _ ↦ .emplaceOlmInboundSession hsender) fun _ _ ↦ trivial).andThen
      fun _ ↦ ?_
    refine Maintains.bind (Q := fun j ↦ j.validUtf8 = true)
      (maintains_lift fun j h ↦ validUtf8_of_atKey hplaintext h) fun content hcontent ↦ ?_
    refine (maintains_member hcontent _).bind fun room_id hroom ↦
      (maintains_member hcontent _).bind fun session_id hid ↦
        (maintains_member hcontent _).bind fun session_key _ ↦ keeps_fileRoomKey session_key ?_
    rw [Storage.groupKey, List.append_assoc, validUtf8_append hroom, validUtf8_append hid, hsender]

theorem keeps_decryptOlmMessage {olm_msg : OlmMessage}
    (hsender : validUtf8 olm_msg.sender_key = true) :
    Keeps (Inv start Anything) (decryptOlmMessage json olm_msg : BotM olm Unit) := by
  refine (keeps_withClient _).andThen fun keys ↦ keeps_forEach fun cipher _ ↦ ?_
  split_ifs
  · exact keeps_openMessage laws hsender _
  · exact maintains_pure trivial

theorem keeps_handleToDeviceMsgs (msgs : List (DeviceEvents json)) :
    Keeps (Inv start Anything) (handleToDeviceMsgs json msgs : BotM olm Unit) := by
  refine keeps_forEach fun msg _ ↦ (keeps_lift _).andThen fun obj ↦
    maintains_dump_bind fun hobj _ ↦ keeps_catching ?_
  exact Maintains.bind (Q := fun m ↦ validUtf8 m.sender_key = true)
    (maintains_lift fun m h ↦ validUtf8_sender_key hobj h)
    fun olm_msg hsender ↦ keeps_decryptOlmMessage laws hsender

end

/-! ## Keys of devices -/

theorem validUtf8_of_mapAt {m : SortedMap Str Str} (hm : m.All fun _ v ↦ validUtf8 v = true)
    {k v : Str} (h : mapAt m k = .ok v) : validUtf8 v = true := by
  rw [mapAt] at h
  cases hv : m.find? k with
  | none =>
    rw [hv] at h
    cases h
  | some w =>
    rw [hv] at h
    rw [← Except.ok.inj h]
    exact hm k w hv

/-- The keys of a device are only written where there are none. -/
theorem keeps_saveKeys {key_struct : DeviceKeys} (hkeys : key_struct.Utf8) {curve25519 : Str}
    (hcurve : validUtf8 curve25519 = true) :
    Keeps (Inv start Anything) (saveKeys key_struct curve25519 : BotM olm Unit) := by
  intro b hb
  rw [saveKeys, access_bind]
  split_ifs with hnew
  · rw [lift_bind]
    cases hed : mapAt key_struct.keys (lit "ed25519:" ++ key_struct.device_id) with
    | error e => exact ⟨hb, fun _ _ ↦ trivial⟩
    | ok ed25519 =>
      exact ⟨hb.store (.setDeviceKeys (Option.isNone_iff_eq_none.mp hnew) hkeys.device_id
        (validUtf8_of_mapAt hkeys.keys hed) hcurve) trivial, fun _ _ ↦ trivial⟩
  · exact ⟨hb, fun _ _ ↦ trivial⟩

theorem maintains_saveDevices {devices : List (Str × DeviceKeys)}
    (hdevices : ∀ e ∈ devices, e.2.Utf8) {device_list : List Str}
    (hlist : ∀ d ∈ device_list, validUtf8 d = true) :
    Maintains (Inv start Anything) (saveDevices devices device_list : BotM olm (List Str))
      fun l ↦ ∀ d ∈ l, validUtf8 d = true := by
  induction devices generalizing device_list with
  | nil => exact maintains_pure hlist
  | cons e devices ih =>
    obtain ⟨hkeys, hrest⟩ := List.forall_mem_cons.mp hdevices
    rw [saveDevices]
    cases hcurve : e.2.keys.find? (lit "curve25519:" ++ e.2.device_id) with
    | none => exact ih hrest hlist
    | some curve25519 =>
      refine (keeps_saveKeys hkeys (hkeys.keys _ _ hcurve)).andThen fun _ ↦ ih hrest ?_
      exact List.forall_mem_append.mpr ⟨hlist, List.forall_mem_singleton.mpr hkeys.device_id⟩

theorem keeps_saveDeviceKeys {res : QueryKeys}
    (hres : res.device_keys.All fun user_id devices ↦
      validUtf8 user_id = true ∧ devices.All fun _ keys ↦ keys.Utf8) :
    Keeps (Inv start Anything) (saveDeviceKeys res : BotM olm Unit) := by
  refine keeps_forEach fun entry hentry ↦ ?_
  obtain ⟨huser, hdevices⟩ := hres entry.1 entry.2 (SortedMap.mem_entries_iff.mp hentry)
  refine (maintains_saveDevices (fun e he ↦ hdevices e.1 e.2 (SortedMap.mem_entries_iff.mp he))
    fun d hd ↦ absurd hd List.not_mem_nil).bind fun device_list hlist ↦ ?_
  exact keeps_store (fun _ _ ↦ .emplaceDevices huser hlist) fun _ _ ↦ trivial

theorem keeps_keysQueried {call : Call QueryKeys}
    (hres : call.err = none → call.response.device_keys.All fun user_id devices ↦
      validUtf8 user_id = true ∧ devices.All fun _ keys ↦ keys.Utf8) :
    Keeps (Inv start Anything) (keysQueried json call : BotM olm Unit) := by
  rw [keysQueried]
  cases herr : call.err with
  | some err => exact maintains_pure trivial
  | none =>
    refine Maintains.andThen (keeps_forEach fun user _ ↦ keeps_forEach fun device _ ↦ ?_) fun _ ↦ ?_
    · exact keeps_lift _
    · exact keeps_saveDeviceKeys (hres herr)

theorem keeps_keysUploadedCb (call : Call Responses.UploadKeys) :
    Keeps (Inv start P) (keysUploadedCb call : BotM olm Unit) := by
  rw [keysUploadedCb]
  cases call.err with
  | some err => exact maintains_pure trivial
  | none =>
    refine (keeps_access _).andThen fun client ↦ ?_
    refine Maintains.bind (Q := fun client ↦ ∃ account, client.account_ = some account)
      (maintains_lift fun client' h ↦ ?_) fun client' hclient ↦ keeps_setClient hclient
    rw [OlmClient.markKeysAsPublished] at h
    split at h
    · cases h
    · rw [← Except.ok.inj h]
      exact ⟨_, rfl⟩

/-! ## Batches -/

theorem keeps_memberSeen {room_id state_key : Str} (hroom : validUtf8 room_id = true)
    (hkey : validUtf8 state_key = true) :
    Keeps (Inv start Anything) (memberSeen room_id state_key : BotM olm Unit) := by
  refine (keeps_send_other fun _ _ _ h ↦ ?_).andThen fun _ ↦
    keeps_store (fun _ _ ↦ .addMember hroom hkey) fun _ _ ↦ trivial
  cases h

theorem keeps_markEncryptedRoom {room_id : Str} (hroom : validUtf8 room_id = true) :
    Keeps (Inv start Anything) (markEncryptedRoom room_id : BotM olm Unit) :=
  keeps_store (fun _ _ ↦ .setEncrypted hroom) fun _ _ ↦ trivial

theorem keeps_stateEventSeen {room_id : Str} (hroom : validUtf8 room_id = true)
    {e : StateEvents json} (hkey : ∀ k s, e = .known k s → validUtf8 s.state_key = true) :
    Keeps (Inv start Anything) (stateEventSeen json room_id e : BotM olm Unit) := by
  rw [stateEventSeen.eq_def]
  split
  · exact (keeps_markEncryptedRoom hroom).andThen fun _ ↦
      (keeps_lift _).andThen fun _ ↦ maintains_pure trivial
  · exact keeps_memberSeen hroom (hkey _ _ rfl)
  · exact maintains_pure trivial

/-- A message is decrypted with a session that stays where it was found. -/
theorem keeps_encryptedSeen (hstart : start.Utf8) (laws : BotLaws olm json) {room_id : Str}
    (hroom : validUtf8 room_id = true) (e : RoomEvent Msg.Encrypted) :
    Keeps (Inv start Anything) (encryptedSeen json room_id e : BotM olm Unit) := by
  refine (keeps_lift _).andThen fun obj ↦ (keeps_lift _).andThen fun _ ↦ Leads.keeps fun b hb ↦ ?_
  rw [access_bind]
  dsimp only
  cases hsession : b.storage.inbound_group_sessions.find?
      (Storage.groupKey room_id e.content.session_id e.content.sender_key) with
  | none => exact hb
  | some session =>
    dsimp only
    rw [lift_bind]
    cases hdecrypt : decryptGroupMessage (some session) e.content.ciphertext with
    | error err => exact hb
    | ok r =>
      refine Leads.andThen (P := Inv start fun s ↦ s.inbound_group_sessions.find?
        (Storage.groupKey room_id e.content.session_id e.content.sender_key) = some session)
        (fun b hb ↦ ?_) (fun _ ↦ ?_) b ⟨hb.steps, hsession, hb.requests, hb.account⟩
      · exact hb.store (.advanceInbound hb.holds (groupDecrypt_of_decryptGroupMessage hdecrypt))
          trivial
      · refine (keeps_lift _).andThen fun body ↦ (keeps_access _).andThen fun user_id ↦ ?_
        split_ifs
        · exact keeps_sendEncryptedReply hstart laws hroom _
        · exact maintains_pure trivial

theorem keeps_timelineEventSeen (hstart : start.Utf8) (laws : BotLaws olm json) {room_id : Str}
    (hroom : validUtf8 room_id = true) {e : TimelineEvents json}
    (hkey : ∀ k s, e = .state k s → validUtf8 s.state_key = true) :
    Keeps (Inv start Anything) (timelineEventSeen json room_id e : BotM olm Unit) := by
  rw [timelineEventSeen.eq_def]
  split
  · exact (keeps_markEncryptedRoom hroom).andThen fun _ ↦
      (keeps_lift _).andThen fun _ ↦ maintains_pure trivial
  · exact keeps_memberSeen hroom (hkey _ _ rfl)
  · exact keeps_encryptedSeen hstart laws hroom _
  · exact maintains_pure trivial

theorem account_of_generateOneTimeKeys {client client' : OlmClient olm.toLibolm}
    {number_of_keys : ℕ} {w w' : Crypto.World}
    (h : client.generateOneTimeKeys number_of_keys false w = .ok (client', w')) :
    ∃ account, client'.account_ = some account := by
  obtain ⟨account, w₁, -, h⟩ := olmM_bind_eq_ok_iff.mp h
  obtain ⟨buf, w₂, -, h⟩ := olmM_bind_eq_ok_iff.mp h
  obtain ⟨_, w₃, -, h⟩ := olmM_bind_eq_ok_iff.mp h
  obtain ⟨account', w₄, -, h⟩ := olmM_bind_eq_ok_iff.mp h
  obtain ⟨rfl, -⟩ := Prod.mk.inj (Except.ok.inj h)
  exact ⟨account', rfl⟩

theorem keeps_refillKeys (count : UInt16) :
    Keeps (Inv start P) (refillKeys json count : BotM olm Unit) := by
  rw [refillKeys]
  split_ifs
  · refine Maintains.bind (Q := fun client ↦ ∃ account, client.account_ = some account)
      (maintains_withClient fun _ _ _ _ _ h ↦ account_of_generateOneTimeKeys h)
      fun client hclient ↦ (keeps_setClient hclient).andThen fun _ ↦ ?_
    refine (keeps_withClient _).andThen fun keys ↦ keeps_send_other fun _ _ _ h ↦ ?_
    cases h
  · exact maintains_pure trivial

theorem keeps_parseMessages (hstart : start.Utf8) (laws : BotLaws olm json) {res : Sync json}
    (hres : res.rooms.join.All JoinedRoom.Utf8) :
    Keeps (Inv start Anything) (parseMessages json res : BotM olm Unit) := by
  refine Maintains.andThen (keeps_forEach fun room _ ↦ keeps_send_other fun _ _ _ h ↦ ?_) fun _ ↦ ?_
  · cases h
  refine (keeps_handleToDeviceMsgs laws _).andThen fun _ ↦ ?_
  refine (keeps_forEach fun device _ ↦ keeps_refillKeys device.2).andThen fun _ ↦ ?_
  refine keeps_forEach fun room hroom ↦ ?_
  have hvalid := hres room.1 room.2 (SortedMap.mem_entries_iff.mp hroom)
  refine Maintains.andThen (keeps_forEach fun e he ↦ ?_) fun _ ↦ keeps_forEach fun e he ↦ ?_
  · exact keeps_stateEventSeen hvalid.room_id fun k s hs ↦ hvalid.state k s (hs ▸ he)
  · exact keeps_timelineEventSeen hstart laws hvalid.room_id fun k s hs ↦
      hvalid.timeline k s (hs ▸ he)

theorem keeps_firstMembers {res : Sync json} (hres : res.rooms.join.All JoinedRoom.Utf8) :
    Keeps (Inv start Anything) (firstMembers json res : BotM olm Unit) := by
  refine keeps_forEach fun room hroom ↦ keeps_forEach fun e he ↦ ?_
  have hvalid := hres room.1 room.2 (SortedMap.mem_entries_iff.mp hroom)
  split
  · exact keeps_memberSeen hvalid.room_id (hvalid.state _ _ he)
  · exact maintains_pure trivial

/-! ## Runs -/

theorem Inv.dropRequest (h : Inv start P b) (i : ℕ) :
    Inv start P { b with requests := b.requests.eraseIdx i } :=
  ⟨h.steps, h.holds, fun member dev payload hmem ↦
    h.requests member dev payload (List.mem_of_mem_eraseIdx hmem), h.account⟩

/-- An answer leads to a state with the invariant if the callback keeps it. -/
theorem inv_of_complete {ρ : Type} [Inhabited ρ] {what : Exn → Str}
    {fromJson : Json → Except Exn ρ} {callback : Call ρ → BotM olm Unit} {answer : HttpAnswer}
    {b' : CryptoBot olm}
    (hcallback : ∀ call, Classified (deserializeJson json fromJson) answer call →
      Keeps (Inv start P) (callback call))
    (hb : Inv start P b)
    (h : complete json what (deserializeJson json fromJson) callback answer b = .ok b') :
    Inv start P b' := by
  obtain ⟨call, hcall, rfl⟩ := complete_eq_ok h
  exact (hcallback call hcall b hb).1

/-- What is read is the value of a text that is UTF-8. -/
theorem valid_of_deserialize (laws : BotLaws olm json) {ρ : Type} {fromJson : Json → Except Exn ρ}
    {body : Str} {res : ρ} (h : deserializeJson json fromJson body = .ok res) :
    ∃ j, j.validUtf8 = true ∧ fromJson j = .ok res := by
  obtain ⟨j, hj, hread⟩ := bind_eq_ok_iff.mp h
  rw [parseBody] at hj
  split at hj
  · rename_i hparse
    rw [Except.ok.inj hj] at hparse
    exact ⟨j, laws.parse _ j hparse, hread⟩
  · cases hj

theorem inv_answered (hstart : start.Utf8) (laws : BotLaws olm json) {what : Exn → Str}
    {answer : BotAnswer} {b b' : CryptoBot olm} (hb : Inv start Anything b)
    (h : b.answered json what answer = .ok b') : Inv start Anything b' := by
  rw [CryptoBot.answered] at h
  cases hrequest : b.requests[answer.index]? with
  | none =>
    rw [hrequest] at h
    rwa [← Except.ok.inj h]
  | some request =>
    rw [hrequest] at h
    have hdrop := hb.dropRequest answer.index
    cases request with
    | uploadKeys keys =>
      exact inv_of_complete (fun call _ ↦ keeps_keysUploadedCb call) hdrop h
    | queryKeys user =>
      refine inv_of_complete (fun call hcall ↦ keeps_keysQueried fun hnone ↦ ?_) hdrop h
      rcases hcall with ⟨-, hread⟩ | ⟨err, hsome, -⟩
      · obtain ⟨j, hj, hread⟩ := valid_of_deserialize laws (received_eq_some_iff.mp hread).2.2
        exact QueryKeys.utf8_of_read hj hread
      · rw [hnone] at hsome
        cases hsome
    | claimKeys member dev payload =>
      have hdev := hb.requests member dev payload (List.mem_of_getElem? hrequest)
      exact inv_of_complete (fun call _ ↦ keeps_claimed hstart member hdev payload call) hdrop h
    | _ =>
      rw [← Except.ok.inj h]
      exact hdrop

end Mtx.Programs
