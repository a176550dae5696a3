import MtxClient.Json.Undefined

/-!
# Accounts

What a homeserver answers to a login or a registration, and the user ids in it.
-/

set_option autoImplicit false

namespace Mtx.Http

open Str

/-- A user id. -/
structure User where
  /-- Local part of the identifier. -/
  localpart : Str := ""
  /-- The name of the originating homeserver. -/
  hostname : Str := ""
  /-- The whole identifier. -/
  id : Str := ""
  deriving DecidableEq

/-- `parse<User>`, which takes the empty string for no user.  The texts of its exceptions begin with
the string. -/
def User.parse (id : Str) : Except Exn User :=
  match id with
  | [] => .ok {}
  | sigil :: rest =>
    if sigil ≠ '@'.toUInt8 then .error (.invalidArgument ": missing sigil @")
    else
      match rest.span (· != ':'.toUInt8) with
      | (localpart, _ :: hostname) => .ok { localpart, hostname, id }
      | (_, []) => .error (.invalidArgument ": invalid id")

/-- `from_json(User)`. -/
def User.fromJson (obj : Json) : Except Exn User := do User.parse (← obj.getString)

/-- The answer to a login. -/
structure Login where
  /-- The fully-qualified Matrix ID that has been registered. -/
  user_id : User := {}
  /-- An access token for the account. -/
  access_token : Str := ""
  /-- ID of the logged-in device. -/
  device_id : Str := ""

/-- The answer to a registration. -/
structure Register where
  /-- The fully-qualified Matrix user ID that has been registered. -/
  user_id : User := {}
  /-- An access token for the account. -/
  access_token : Str := ""
  /-- ID of the registered device. -/
  device_id : Str := ""

instance : Inhabited Login := ⟨{}⟩

instance : Inhabited Register := ⟨{}⟩

/-- `from_json(Register)`. -/
def Register.fromJson (obj : Json) : Except Exn Register := do
  let user_id ← User.fromJson (← obj.atKey "user_id")
  let access_token ← (← obj.atKey "access_token").getString
  let device_id ← (← obj.atKey "device_id").getString
  return { user_id, access_token, device_id }

/-! ## Reading an account is defined -/

theorem not_undefined_user (obj : Json) : ¬ Undefined (User.fromJson obj) := by
  have hparse : ∀ s, ¬ Undefined (User.parse s) := fun s ↦ by
    rcases s with - | ⟨sigil, rest⟩
    · exact nofun
    · rw [User.parse]
      split_ifs
      · exact nofun
      · rcases rest.span (· != ':'.toUInt8) with ⟨_, - | ⟨_, _⟩⟩ <;> nofun
  exact not_undefined_bind Json.not_undefined_getString hparse

theorem not_undefined_register (obj : Json) : ¬ Undefined (Register.fromJson obj) :=
  not_undefined_bind Json.not_undefined_atKey fun _ ↦
    not_undefined_bind (not_undefined_user _) fun _ ↦
      not_undefined_bind Json.not_undefined_atKey fun _ ↦
        not_undefined_bind Json.not_undefined_getString fun _ ↦
          not_undefined_bind Json.not_undefined_atKey fun _ ↦
            not_undefined_bind Json.not_undefined_getString fun _ ↦ not_undefined_pure _

end Mtx.Http
