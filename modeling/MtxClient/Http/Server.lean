import MtxClient.Json.Access
import MtxClient.Lib.Decimal
import MtxClient.Lib.PercentEncoding

/-!
# The address of the homeserver

`Client::set_server` takes an address as users type it and servers announce it, with a protocol and
a port or without, and assigns the three members that every request goes to.  `server_url` is the
address as it is stored and passed to `set_server` on the next start.

`AddressText` is an address as it is written, and `Denotes` says what a string stands for.  The code
looks for a port only behind a single colon, so that it finds none behind an address of IPv6 in
brackets; it converts the port when the protocol and the server have been assigned already, and it
cuts it off at 16 bits.  `atomic_iff` says for which strings that makes no difference.
`setServer_text` is about the usual addresses.
-/

set_option autoImplicit false

namespace Mtx.Http

open Str

/-- The members of `Client` that say where requests go. -/
structure Address where
  protocol_ : Str := ""
  server_ : Str := ""
  port_ : UInt16 := 443
  deriving DecidableEq

/-! ## The code -/

/-- `is_number`. -/
def isNumber (s : Str) : Bool := Decimal.isNumber s

/-- `std::stoul`, where negative numbers wrap. -/
def stoul (s : Str) : Except Exn ℕ :=
  match Decimal.parse s with
  | some (negative, n) =>
    if 2 ^ 64 ≤ n then .error (.outOfRange "stoul")
    else .ok (if negative then (2 ^ 64 - n) % 2 ^ 64 else n)
  | none => .error (.invalidArgument "stoul")

/-- The protocol, the default port, and the string without its prefix. -/
def splitProtocol (server : Str) : Str × UInt16 × Str :=
  let server_name := if startsWith server "https://" then server.drop 8 else server
  if startsWith server_name "http://" then ("http", 80, server_name.drop 7)
  else ("https", 443, server_name)

/-- `if (server_name.size() > 0 && server_name.back() == '/') server_name.remove_suffix(1);`. -/
def removeSlash (server_name : Str) : Str :=
  if server_name.getLast? = some 47 then server_name.dropLast else server_name

/-- `Client::set_server`, with the members as they are left. -/
def setServer (server : Str) (c : Address) : Except Exn Unit × Address :=
  let (protocol, port, server_name) := splitProtocol server
  let c := { c with protocol_ := protocol }
  let server_name := removeSlash server_name
  if server_name.count 58 = 1 then
    let colon_offset := server_name.idxOf 58
    let c := { c with server_ := server_name.take colon_offset }
    let tmp := server_name.drop (colon_offset + 1)
    if isNumber tmp then
      match stoul tmp with
      | .ok n => (.ok (), { c with port_ := UInt16.ofNat n })
      | .error e => (.error e, c)
    else (.ok (), { c with server_ := server_name, port_ := port })
  else (.ok (), { c with server_ := server_name, port_ := port })

/-- `Client::set_port`. -/
def Address.setPort (c : Address) (port : UInt16) : Address := { c with port_ := port }

/-- `Client::server_url`. -/
def Address.serverUrl (c : Address) : Str :=
  c.protocol_ ++ lit "://" ++ c.server_ ++ lit ":" ++ lit (toString c.port_.toNat)

/-- `Client::endpoint_to_url`. -/
def Address.endpointToUrl (c : Address) (endpoint endpoint_namespace : Str) : Str :=
  c.protocol_ ++ lit "://" ++ c.server_ ++ lit ":" ++ lit (toString c.port_.toNat) ++
    endpoint_namespace ++ endpoint

/-! ## The port -/

/-- The host and the digits of the port, where there is one behind a single colon. -/
def splitPort (s : Str) : Option (Str × Str) :=
  match s.splitOn 58 with
  | [host, digits] => if Decimal.isNumber digits then some (host, digits) else none
  | _ => none

/-- The server and the digits of the port, where the code finds one. -/
def explicitPort (server : Str) : Option (Str × Str) :=
  splitPort (removeSlash (splitProtocol server).2.2)

theorem splitOn_append_cons {host digits : Str} (hhost : 58 ∉ host) (hdigits : 58 ∉ digits) :
    (host ++ 58 :: digits).splitOn 58 = [host, digits] := by
  have hsplit := PercentEncoding.splitOn_append_of_not_mem hdigits []
  rw [List.append_nil] at hsplit
  rw [PercentEncoding.splitOn_append_of_not_mem hhost, List.splitOn_cons_eq_if_modifyHead,
    if_pos (beq_self_eq_true _), hsplit]
  simp

/-- One colon splits a string in two. -/
theorem split_of_count {s : Str} (h : s.count 58 = 1) :
    ∃ host digits, 58 ∉ host ∧ s = host ++ 58 :: digits ∧ s.idxOf 58 = host.length ∧
      s.splitOn 58 = [host, digits] := by
  have hmem : 58 ∈ s := List.count_pos_iff.mp (by omega)
  obtain ⟨host, digits, rfl, hhost⟩ := List.eq_append_cons_of_mem hmem
  have hdigits : 58 ∉ digits := by
    rw [List.count_append, List.count_cons_self, List.count_eq_zero.mpr hhost] at h
    exact List.count_eq_zero.mp (by omega)
  refine ⟨host, digits, hhost, rfl, ?_, splitOn_append_cons hhost hdigits⟩
  rw [List.idxOf_append_of_notMem hhost, List.idxOf_cons_self, Nat.add_zero]

theorem stoul_of_isNumber {s : Str} (h : Decimal.isNumber s = true) :
    stoul s = if 2 ^ 64 ≤ Decimal.value s then .error (.outOfRange "stoul")
      else .ok (Decimal.value s) := by
  rw [stoul, Decimal.parse_of_isNumber h]
  rfl

/-- A single colon with digits behind it. -/
theorem splitPort_eq_some_iff {s host digits : Str} : splitPort s = some (host, digits) ↔
    s = host ++ 58 :: digits ∧ 58 ∉ host ∧ Decimal.isNumber digits = true := by
  constructor
  · intro h
    rw [splitPort] at h
    split at h
    next host' digits' hsplit =>
      split_ifs at h with hnumber
      cases h
      have hcount : s.count 58 = 1 := by
        have hlen := PercentEncoding.length_splitOn 58 s
        rw [hsplit] at hlen
        simpa using hlen.symm
      obtain ⟨host, digits, hhost, rfl, -, hsplit'⟩ := split_of_count hcount
      rw [hsplit'] at hsplit
      cases hsplit
      exact ⟨rfl, hhost, hnumber⟩
    · cases h
  · rintro ⟨rfl, hhost, hnumber⟩
    have hdigits : 58 ∉ digits := fun hmem ↦
      absurd ((Decimal.isNumber_iff.mp hnumber).2 58 hmem) (by decide)
    rw [splitPort, splitOn_append_cons hhost hdigits]
    exact if_pos hnumber

/-- What `set_server` does, in terms of the parts of the address. -/
theorem setServer_eq (server : Str) (c : Address) :
    setServer server c = match explicitPort server with
      | some (host, digits) =>
        if 2 ^ 64 ≤ Decimal.value digits then (.error (.outOfRange "stoul"),
          { c with protocol_ := (splitProtocol server).1, server_ := host })
        else (.ok (), { protocol_ := (splitProtocol server).1, server_ := host
                        port_ := UInt16.ofNat (Decimal.value digits) })
      | none => (.ok (), { protocol_ := (splitProtocol server).1
                           server_ := removeSlash (splitProtocol server).2.2
                           port_ := (splitProtocol server).2.1 }) := by
  rw [setServer, explicitPort, splitPort]
  dsimp only
  generalize removeSlash (splitProtocol server).2.2 = s
  by_cases hcount : s.count 58 = 1
  · obtain ⟨host, digits, hhost, rfl, hidx, hsplit⟩ := split_of_count hcount
    rw [if_pos hcount, hidx, hsplit, List.take_left, List.drop_length_add_append, List.drop_one,
      List.tail_cons, isNumber]
    dsimp only
    by_cases hnumber : Decimal.isNumber digits = true
    · rw [if_pos hnumber, if_pos hnumber, stoul_of_isNumber hnumber]
      dsimp only
      split_ifs <;> rfl
    · rw [if_neg hnumber, if_neg hnumber]
  · rw [if_neg hcount]
    have hlen := PercentEncoding.length_splitOn 58 s
    rcases hsplit : s.splitOn 58 with - | ⟨a, - | ⟨b, - | ⟨d, rest⟩⟩⟩
    · rfl
    · rfl
    · rw [hsplit] at hlen
      exact absurd (by simpa using hlen.symm) hcount
    · rfl

/-! ## Addresses as they are written -/

/-- The protocols of an address. -/
inductive Scheme where
  | http
  | https
  deriving DecidableEq

/-- The member `protocol_` for a scheme. -/
def Scheme.protocol : Scheme → Str
  | .http => "http"
  | .https => "https"

/-- The port that a scheme stands for. -/
def Scheme.port : Scheme → UInt16
  | .http => 80
  | .https => 443

/-- What is written for a scheme. -/
def Scheme.text (scheme : Scheme) : Str := scheme.protocol ++ lit "://"

/-- A string with one slash begins with no protocol. -/
theorem startsWith_scheme {s : Str} (h : s.count 47 ≤ 1) (scheme : Scheme) :
    startsWith s scheme.text = false := by
  rw [Bool.eq_false_iff]
  intro hprefix
  obtain ⟨rest, rfl⟩ := List.isPrefixOf_iff_prefix.mp hprefix
  have hscheme : scheme.text.count 47 = 2 := by cases scheme <;> decide
  rw [List.count_append, hscheme] at h
  omega

theorem splitProtocol_text {s : Str} (h : s.count 47 ≤ 1) (scheme : Option Scheme) :
    splitProtocol (scheme.elim [] Scheme.text ++ s) =
      ((scheme.getD .https).protocol, (scheme.getD .https).port, s) := by
  have hhttp : startsWith s (lit "http://") = false := startsWith_scheme h .http
  have hhttps : startsWith s (lit "https://") = false := startsWith_scheme h .https
  rcases scheme with - | - | -
  · show splitProtocol s = _
    rw [splitProtocol, hhttps, if_neg Bool.false_ne_true, hhttp]
    rfl
  · show splitProtocol (lit "http://" ++ s) = _
    have hother : startsWith (lit "http://" ++ s) (lit "https://") = false := rfl
    have hself : startsWith (lit "http://" ++ s) (lit "http://") = true := rfl
    rw [splitProtocol, hother, if_neg Bool.false_ne_true, hself]
    rfl
  · show splitProtocol (lit "https://" ++ s) = _
    have hself : startsWith (lit "https://" ++ s) (lit "https://") = true := rfl
    have hdrop : (lit "https://" ++ s).drop 8 = s := rfl
    rw [splitProtocol, hself, if_pos rfl, hdrop, hhttp]
    rfl

/-- In brackets, as an address of IPv6. -/
def InBrackets (host : Str) : Prop := ∃ inner, host = 91 :: inner ++ [93] ∧ 91 ∉ inner ∧ 93 ∉ inner

/-- An address as it is written: the host with a scheme or without, with a port or without, with a
slash at the end or without.  Only a host in brackets has colons. -/
structure AddressText where
  scheme : Option Scheme
  host : Str
  port : Option Str
  slash : Bool
  host_ne : host ≠ []
  colon_not_mem : 58 ∉ host ∨ InBrackets host
  slash_not_mem : 47 ∉ host
  isNumber_port : ∀ digits, port = some digits → Decimal.isNumber digits = true

namespace AddressText

/-- The host and the port as they are written. -/
def body (t : AddressText) : Str := t.host ++ t.port.elim [] (58 :: ·)

/-- The address as it is written. -/
def text (t : AddressText) : Str :=
  t.scheme.elim [] Scheme.text ++ (t.body ++ if t.slash then [47] else [])

/-- The port fits into 16 bits. -/
def PortFits (t : AddressText) : Prop :=
  ∀ digits, t.port = some digits → Decimal.value digits < 2 ^ 16

/-- The address that is meant, if the port fits. -/
def address (t : AddressText) : Address :=
  { protocol_ := (t.scheme.getD .https).protocol
    server_ := t.host
    port_ := t.port.elim (t.scheme.getD .https).port fun digits ↦
      UInt16.ofNat (Decimal.value digits) }

end AddressText

namespace AddressText

variable (t : AddressText)

/-- No slash is in the host or the port. -/
theorem slash_not_mem_body : 47 ∉ t.body := by
  rw [body, List.mem_append, not_or]
  refine ⟨t.slash_not_mem, ?_⟩
  rcases hport : t.port with - | digits
  · exact List.not_mem_nil
  · have hnumber := t.isNumber_port digits hport
    show 47 ∉ 58 :: digits
    rw [List.mem_cons, not_or]
    refine ⟨by decide, fun hmem ↦ ?_⟩
    exact absurd ((Decimal.isNumber_iff.mp hnumber).2 47 hmem) (by decide)

theorem splitProtocol_text :
    splitProtocol t.text = ((t.scheme.getD .https).protocol, (t.scheme.getD .https).port,
      t.body ++ if t.slash then [47] else []) := by
  refine Mtx.Http.splitProtocol_text ?_ t.scheme
  rw [List.count_append, List.count_eq_zero.mpr t.slash_not_mem_body]
  split_ifs <;> decide

theorem removeSlash_body : removeSlash (t.body ++ if t.slash then [47] else []) = t.body := by
  rw [removeSlash]
  split_ifs with hslash hlast hlast
  · rw [List.dropLast_concat]
  · rw [List.getLast?_concat] at hlast
    exact absurd rfl hlast
  · rw [List.append_nil] at hlast
    exact absurd (List.mem_of_getLast? hlast) t.slash_not_mem_body
  · rw [List.append_nil]

variable {t}

/-- A port is found behind a host without colons. -/
theorem explicitPort_text (h : 58 ∉ t.host) : explicitPort t.text = t.port.map (t.host, ·) := by
  rw [explicitPort, t.splitProtocol_text]
  dsimp only
  rw [t.removeSlash_body, body]
  rcases hport : t.port with - | digits
  · rw [Option.map_none, Option.eq_none_iff_forall_ne_some]
    rintro ⟨host, digits⟩ hsplit
    obtain ⟨hhost, -, -⟩ := splitPort_eq_some_iff.mp hsplit
    refine h ?_
    rw [← List.append_nil t.host]
    exact hhost ▸ List.mem_append_right host List.mem_cons_self
  · exact splitPort_eq_some_iff.mpr ⟨rfl, h, t.isNumber_port digits hport⟩

/-- None is found if the host has colons. -/
theorem explicitPort_text_of_mem (h : 58 ∈ t.host) : explicitPort t.text = none := by
  obtain ⟨inner, hhost, -, -⟩ := t.colon_not_mem.resolve_left (not_not.mpr h)
  rw [explicitPort, t.splitProtocol_text]
  dsimp only
  rw [t.removeSlash_body, body, Option.eq_none_iff_forall_ne_some]
  rintro ⟨host, digits⟩ hsplit
  obtain ⟨hbody, hnone, hnumber⟩ := splitPort_eq_some_iff.mp hsplit
  obtain ⟨hne, hdigits⟩ := Decimal.isNumber_iff.mp hnumber
  rcases hport : t.port with - | digits'
  · -- the last byte is a bracket and a digit
    rw [hport, Option.elim_none, List.append_nil, hhost] at hbody
    have hlast := congrArg List.getLast? hbody
    rw [List.getLast?_concat, List.getLast?_append_cons, List.getLast?_cons_of_ne_nil hne] at hlast
    exact absurd (hdigits 93 (List.mem_of_getLast? hlast.symm)) (by decide)
  · -- there are two colons
    rw [hport, Option.elim_some] at hbody
    have hcount := congrArg (List.count 58) hbody
    have hzero : digits.count 58 = 0 := List.count_eq_zero.mpr fun hmem ↦
      absurd (hdigits 58 hmem) (by decide)
    have hpos : 0 < t.host.count 58 := List.count_pos_iff.mpr h
    rw [List.count_append, List.count_append, List.count_cons_self, List.count_cons_self, hzero,
      List.count_eq_zero.mpr hnone] at hcount
    omega

/-- What `set_server` does with an address whose port it finds. -/
theorem setServer_plain (h : 58 ∈ t.host → t.port = none) (hfits : t.PortFits) (c : Address) :
    setServer t.text c = (.ok (), t.address) := by
  by_cases hcolon : 58 ∈ t.host
  · have hbody : t.body = t.host := by rw [body, h hcolon, Option.elim_none, List.append_nil]
    rw [setServer_eq, explicitPort_text_of_mem hcolon, t.splitProtocol_text, address, h hcolon]
    dsimp only
    rw [t.removeSlash_body, hbody]
    rfl
  · rw [setServer_eq, explicitPort_text hcolon, t.splitProtocol_text, address]
    dsimp only
    rw [t.removeSlash_body, body]
    rcases hport : t.port with - | digits
    · rw [Option.elim_none, List.append_nil]
      rfl
    · have hsmall := hfits digits hport
      exact if_neg (by omega)

/-- It takes a port behind a host with colons for a part of the host. -/
theorem server_setServer_text {digits : Str} (h : 58 ∈ t.host) (hport : t.port = some digits)
    (c : Address) : (setServer t.text c).2.server_ = t.host ++ 58 :: digits := by
  rw [setServer_eq, explicitPort_text_of_mem h, t.splitProtocol_text]
  dsimp only
  rw [t.removeSlash_body, body, hport, Option.elim_some]

end AddressText

/-! ## All or nothing -/

/-- The string is an address whose port fits, and `a` is what is meant. -/
def Denotes (server : Str) (a : Address) : Prop :=
  ∃ t : AddressText, t.text = server ∧ t.PortFits ∧ t.address = a

/-- The members are set to what the string stands for, or an exception leaves them as they were. -/
def Atomic (server : Str) (c : Address) : Prop :=
  match setServer server c with
  | (.ok _, c') => Denotes server c'
  | (.error _, c') => c' = c

/-- The string is an address whose port fits, and there is no port behind an address of IPv6. -/
def IsPlain (server : Str) : Prop :=
  ∃ t : AddressText, t.text = server ∧ t.PortFits ∧ (58 ∈ t.host → t.port = none)

/-- The port does not fit into an `unsigned long` and the client already has the protocol and the
server. -/
def AlreadySet (server : Str) (c : Address) : Prop :=
  ∃ host digits, explicitPort server = some (host, digits) ∧ 2 ^ 64 ≤ Decimal.value digits ∧
    c.protocol_ = (splitProtocol server).1 ∧ c.server_ = host

/-- An exception leaves the members as they were if there was nothing left to set. -/
theorem eq_of_alreadySet_iff {server : Str} {c c' : Address} {e : Exn}
    (h : setServer server c = (.error e, c')) : c' = c ↔ AlreadySet server c := by
  rw [setServer_eq] at h
  rw [AlreadySet]
  rcases hport : explicitPort server with - | ⟨host, digits⟩
  · rw [hport] at h
    cases h
  · rw [hport] at h
    dsimp only at h
    split_ifs at h with hlong
    · obtain ⟨-, rfl⟩ := Prod.mk.inj h
      constructor
      · intro hsame
        exact ⟨host, digits, rfl, hlong, (congrArg Address.protocol_ hsame).symm,
          (congrArg Address.server_ hsame).symm⟩
      · rintro ⟨host', digits', hsame, -, hprotocol, hserver⟩
        cases hsame
        rw [← hprotocol, ← hserver]
    · cases h

theorem exists_error_of_alreadySet {server : Str} {c : Address} (h : AlreadySet server c) :
    ∃ e c', setServer server c = (.error e, c') := by
  obtain ⟨host, digits, hport, hlong, -, -⟩ := h
  rw [setServer_eq, hport]
  dsimp only
  rw [if_pos hlong]
  exact ⟨_, _, rfl⟩

/-- **An address is set as a whole or not at all if its port fits** and does not follow an address
of IPv6, or if there was nothing left to set when the conversion of the port failed. -/
theorem atomic_iff (server : Str) (c : Address) :
    Atomic server c ↔ IsPlain server ∨ AlreadySet server c := by
  constructor
  · intro h
    rw [Atomic] at h
    rcases hset : setServer server c with ⟨e | u, c'⟩
    · rw [hset] at h
      exact Or.inr ((eq_of_alreadySet_iff hset).mp h)
    · rw [hset] at h
      obtain ⟨t, rfl, hfits, rfl⟩ := h
      refine Or.inl ⟨t, rfl, hfits, fun hcolon ↦ ?_⟩
      rw [Option.eq_none_iff_forall_ne_some]
      intro digits hport
      have hserver := AddressText.server_setServer_text hcolon hport c
      rw [hset] at hserver
      exact absurd hserver (by simp [AddressText.address])
  · rintro (⟨t, rfl, hfits, hplain⟩ | h)
    · rw [Atomic, AddressText.setServer_plain hplain hfits c]
      exact ⟨t, rfl, hfits, rfl⟩
    · obtain ⟨e, c', hset⟩ := exists_error_of_alreadySet h
      rw [Atomic, hset]
      exact (eq_of_alreadySet_iff hset).mpr h

/-- A port of 17 bits becomes another one, one that is too long for the conversion leaves the client
with the new server and the old port, and one behind an address of IPv6 is not found. -/
theorem not_atomic_port :
    ¬ Atomic "example.org:65536" {} ∧
      ¬ Atomic "http://b.example:99999999999999999999" { server_ := "a.example" } ∧
      ¬ Atomic "[::1]:8448" {} := by
  have hset : setServer "example.org:65536" {} =
      (.ok (), { protocol_ := "https", server_ := "example.org", port_ := 0 }) := by
    rfl
  have hset' : setServer "http://b.example:99999999999999999999" { server_ := "a.example" } =
      (.error (.outOfRange "stoul"), { protocol_ := "http", server_ := "b.example" }) := by
    rfl
  have hset'' : setServer "[::1]:8448" {} =
      (.ok (), { protocol_ := "https", server_ := "[::1]:8448", port_ := 443 }) := by
    rfl
  have hport : explicitPort "example.org:65536" = some (lit "example.org", lit "65536") := by
    decide +kernel
  rw [Atomic, Atomic, Atomic, hset, hset', hset'']
  refine ⟨?_, ?_, ?_⟩
  · rintro ⟨t, htext, hfits, haddress⟩
    have hhost : t.host = lit "example.org" := congrArg Address.server_ haddress
    have hsame := AddressText.explicitPort_text (t := t) (by rw [hhost]; decide)
    rw [htext, hport] at hsame
    obtain ⟨digits, hdigits, hpair⟩ := Option.map_eq_some_iff.mp hsame.symm
    obtain ⟨-, rfl⟩ := Prod.mk.inj hpair
    exact absurd (hfits _ hdigits) (by decide)
  · show Address.mk _ _ _ ≠ Address.mk _ _ _
    decide +kernel
  · rintro ⟨t, -, -, haddress⟩
    have hhost : t.host = lit "[::1]:8448" := congrArg Address.server_ haddress
    rcases t.colon_not_mem with hcolon | ⟨inner, hinner, -, -⟩
    · exact hcolon (by rw [hhost]; decide)
    · have hlast := congrArg List.getLast? (hhost.symm.trans hinner)
      rw [List.getLast?_concat] at hlast
      exact absurd hlast (by decide)

/-! ## Addresses without brackets -/

/-- An address: the host with a scheme or without, with a port or without, with a slash at the end
or without. -/
structure ServerText where
  scheme : Option Scheme
  host : Str
  port : Option Str
  slash : Bool
  host_ne : host ≠ []
  colon_not_mem : 58 ∉ host
  slash_not_mem : 47 ∉ host
  port_fits : ∀ digits, port = some digits →
    Decimal.isNumber digits = true ∧ Decimal.value digits < 2 ^ 16

/-- The host and the port as they are written. -/
def ServerText.body (t : ServerText) : Str := t.host ++ t.port.elim [] (58 :: ·)

/-- The address as it is written. -/
def ServerText.text (t : ServerText) : Str :=
  t.scheme.elim [] Scheme.text ++ (t.body ++ if t.slash then [47] else [])

/-- The address that is meant. -/
def ServerText.address (t : ServerText) : Address :=
  { protocol_ := (t.scheme.getD .https).protocol
    server_ := t.host
    port_ := t.port.elim (t.scheme.getD .https).port fun digits ↦
      UInt16.ofNat (Decimal.value digits) }

/-- The address as one whose host has no colons. -/
def ServerText.toAddressText (t : ServerText) : AddressText where
  scheme := t.scheme
  host := t.host
  port := t.port
  slash := t.slash
  host_ne := t.host_ne
  colon_not_mem := Or.inl t.colon_not_mem
  slash_not_mem := t.slash_not_mem
  isNumber_port digits hport := (t.port_fits digits hport).1

/-- An address is understood as it is meant, whatever was set before. -/
theorem setServer_address (t : ServerText) (c : Address) :
    setServer t.text c = (.ok (), t.address) :=
  AddressText.setServer_plain (t := t.toAddressText) (fun hcolon ↦ absurd hcolon t.colon_not_mem)
    (fun digits hport ↦ (t.port_fits digits hport).2) c

/-- What `server_url` writes for a client that was given an address, and perhaps another port
afterwards. -/
def ServerText.withPort (t : ServerText) (port : UInt16) : ServerText where
  scheme := some (t.scheme.getD .https)
  host := t.host
  port := some (lit (toString port.toNat))
  slash := false
  host_ne := t.host_ne
  colon_not_mem := t.colon_not_mem
  slash_not_mem := t.slash_not_mem
  port_fits := by
    rintro digits hdigits
    obtain rfl := Option.some.inj hdigits
    obtain ⟨hnumber, hvalue⟩ := Decimal.isNumber_repr port.toNat
    exact ⟨hnumber, hvalue.symm ▸ port.toNat_lt⟩

theorem ServerText.text_withPort (t : ServerText) (port : UInt16) :
    (t.withPort port).text = (t.address.setPort port).serverUrl := by
  simp only [text, withPort, body, Address.serverUrl, Address.setPort, address, Scheme.text,
    Option.elim_some, Bool.false_eq_true, if_false, List.append_nil, List.append_assoc]
  rfl

theorem ServerText.address_withPort (t : ServerText) (port : UInt16) :
    (t.withPort port).address = t.address.setPort port := by
  have hvalue : Decimal.value (lit (toString port.toNat)) = port.toNat :=
    (Decimal.isNumber_repr port.toNat).2
  simp only [withPort, address, Address.setPort, Option.elim_some, Option.getD_some, hvalue,
    UInt16.ofNat_toNat]

/-- What was set from an address, perhaps with another port, is what its URL stands for. -/
theorem setServer_serverUrl (t : ServerText) (c : Address) :
    setServer t.address.serverUrl c = (.ok (), t.address) := by
  have htext : (t.withPort t.address.port_).text = t.address.serverUrl := t.text_withPort _
  have haddress : (t.withPort t.address.port_).address = t.address := t.address_withPort _
  rw [← htext, setServer_address, haddress]

/-! ## Restarts -/

/-- What happens to the address of a client: another port is set, or the client is restarted. -/
inductive Step where
  | setPort (port : UInt16)
  | restart (fresh : Address)

/-- On a restart, `set_server` is called with the URL that was stored, in whatever state the new
client is. -/
def Step.apply (c : Address) : Step → Address
  | .setPort port => c.setPort port
  | .restart fresh => (setServer c.serverUrl fresh).2

/-- The port that is set last. -/
def lastPort (port : UInt16) (steps : List Step) : UInt16 :=
  steps.foldl (fun port step ↦ match step with
    | .setPort port => port
    | .restart _ => port) port

/-- A client goes on having an address that can be written. -/
theorem exists_apply (t : ServerText) (step : Step) :
    ∃ t' : ServerText, step.apply t.address = t'.address ∧
      t'.address = t.address.setPort (lastPort t.address.port_ [step]) := by
  rcases step with port | fresh
  · exact ⟨t.withPort port, (t.address_withPort port).symm, t.address_withPort port⟩
  · refine ⟨t, ?_, rfl⟩
    rw [Step.apply, setServer_serverUrl]

/-- Over any number of steps, only the port changes, and only when one is set. -/
theorem exists_foldl_apply (t : ServerText) (steps : List Step) :
    ∃ t' : ServerText, steps.foldl Step.apply t.address = t'.address ∧
      t'.address = t.address.setPort (lastPort t.address.port_ steps) := by
  induction steps generalizing t with
  | nil => exact ⟨t, rfl, rfl⟩
  | cons step steps ih =>
    obtain ⟨u, hu, heq⟩ := exists_apply t step
    obtain ⟨v, hv, hlast⟩ := ih u
    refine ⟨v, ?_, ?_⟩
    · rw [List.foldl_cons, hu, hv]
    · rw [hlast, heq]
      rfl

/-- **An address is understood as it is written, and what is stored for it stands for the same
address**: after any steps the client has the protocol and the server that were meant and the port
that was set last, and a restart changes no URL of a request. -/
theorem setServer_text (t : ServerText) (c : Address) (steps : List Step) :
    setServer t.text c = (.ok (), t.address) ∧
      steps.foldl Step.apply (setServer t.text c).2 =
        { protocol_ := (t.scheme.getD .https).protocol, server_ := t.host
          port_ := lastPort t.address.port_ steps } ∧
      ∀ fresh endpoint endpoint_namespace,
        let c' := steps.foldl Step.apply (setServer t.text c).2
        setServer c'.serverUrl fresh = (.ok (), c') ∧
          (setServer c'.serverUrl fresh).2.endpointToUrl endpoint endpoint_namespace =
            c'.endpointToUrl endpoint endpoint_namespace := by
  obtain ⟨t', hrun, hlast⟩ := exists_foldl_apply t steps
  rw [setServer_address]
  refine ⟨rfl, hrun.trans hlast, fun fresh endpoint endpoint_namespace ↦ ?_⟩
  have hserver := setServer_serverUrl t' fresh
  rw [← hrun] at hserver
  exact ⟨hserver, congrArg (fun r ↦ r.2.endpointToUrl endpoint endpoint_namespace) hserver⟩

end Mtx.Http
