import MtxClient.Lib.Bytes
import MtxClient.Lib.SortedMap

/-!
# JSON values

The values of `nlohmann::json`, and the exceptions that reading them can end in.  An object is the
list of its members, which `std::map` keeps sorted by key; `Json.wf` is what holds of every value
that comes out of `json::parse`, and `Document` bundles a value with it.
-/

set_option autoImplicit false

namespace Mtx

/-- The exceptions the code throws or lets through. -/
inductive Exn where
  /-- `nlohmann::json::parse_error`. -/
  | jsonParseError
  /-- `nlohmann::json::type_error` with its id. -/
  | jsonTypeError (id : ℕ)
  /-- `nlohmann::json::out_of_range` with its id. -/
  | jsonOutOfRange (id : ℕ)
  /-- `std::out_of_range`. -/
  | outOfRange (what : String)
  /-- `std::invalid_argument`. -/
  | invalidArgument (what : String)
  /-- `std::runtime_error`. -/
  | runtimeError (what : String)
  /-- `std::bad_variant_access`. -/
  | badVariantAccess
  /-- `mtx::crypto::olm_exception`, with the function it names. -/
  | olmException (func : String)
  /-- `mtx::crypto::crypto_exception`, with the function and the message. -/
  | cryptoException (func what : String)
  /-- Not an exception: the behaviour of the program is undefined from here on. -/
  | undefinedBehaviour
  deriving DecidableEq, Repr

/-- Is the exception a `nlohmann::json::exception`? -/
def Exn.isJson : Exn → Bool
  | jsonParseError | jsonTypeError _ | jsonOutOfRange _ => true
  | _ => false

/-- `catch (const nlohmann::json::exception &)` around `x`, answering `r`. -/
def catchJson {α : Type} (x : Except Exn α) (r : α) : Except Exn α :=
  match x with
  | .ok a => .ok a
  | .error e => if e.isJson then .ok r else .error e

@[simp] theorem catchJson_ok {α : Type} (a r : α) : catchJson (.ok a) r = .ok a := rfl

/-- `if (c) throw e;` -/
def throwIf (c : Prop) [Decidable c] (e : Exn) : Except Exn Unit :=
  if c then .error e else .ok ()

theorem throwIf_eq_ok_iff {c : Prop} [Decidable c] {e : Exn} {u : Unit} :
    throwIf c e = .ok u ↔ ¬ c := by
  rw [throwIf]
  split_ifs with h <;> simp [h]

theorem throwIf_of_not {c : Prop} [Decidable c] (h : ¬ c) (e : Exn) : throwIf c e = .ok () :=
  if_neg h

theorem bind_eq_ok_iff {α β : Type} {x : Except Exn α} {f : α → Except Exn β} {b : β} :
    (x >>= f) = .ok b ↔ ∃ a, x = .ok a ∧ f a = .ok b := by
  cases x with
  | error e => simp [bind, Except.bind]
  | ok a => simp [bind, Except.bind]

@[simp] theorem ok_bind {α β : Type} (a : α) (f : α → Except Exn β) :
    (Except.ok a >>= f) = f a := rfl

@[simp] theorem error_bind {α β : Type} (e : Exn) (f : α → Except Exn β) :
    (Except.error e >>= f) = .error e := rfl

/-! ## Values -/

/-- A value of `nlohmann::json`.  A floating point number is kept as its IEEE 754 bits. -/
inductive Json where
  | null
  | boolean (b : Bool)
  | numberInteger (i : Int64)
  | numberUnsigned (u : UInt64)
  | numberFloat (bits : UInt64)
  | string (s : List UInt8)
  | array (xs : List Json)
  | object (ms : List (List UInt8 × Json))

namespace Json

instance : Inhabited Json := ⟨null⟩

mutual

/-- What `std::map` guarantees of every object: its keys increase strictly. -/
def sorted : Json → Bool
  | array xs => sortedList xs
  | object ms => decide (AssocList.Sorted ms) && sortedMembers ms
  | _ => true

/-- `sorted` of every element. -/
def sortedList : List Json → Bool
  | [] => true
  | x :: xs => x.sorted && sortedList xs

/-- `sorted` of every member. -/
def sortedMembers : List (List UInt8 × Json) → Bool
  | [] => true
  | (_, x) :: ms => x.sorted && sortedMembers ms

end

mutual

/-- Every string and every key in the value is UTF-8. -/
def validUtf8 : Json → Bool
  | string s => Str.validUtf8 s
  | array xs => validUtf8List xs
  | object ms => validUtf8Members ms
  | _ => true

/-- `validUtf8` of every element. -/
def validUtf8List : List Json → Bool
  | [] => true
  | x :: xs => x.validUtf8 && validUtf8List xs

/-- `validUtf8` of every member, key included. -/
def validUtf8Members : List (List UInt8 × Json) → Bool
  | [] => true
  | (k, x) :: ms => Str.validUtf8 k && x.validUtf8 && validUtf8Members ms

end

/-- The invariants of a value that `json::parse` delivers. -/
def wf (j : Json) : Bool := j.sorted && j.validUtf8

/-! ## Invariants, member by member -/

theorem sortedMembers_iff (ms : List (Str × Json)) :
    sortedMembers ms = true ↔ ∀ e ∈ ms, e.2.sorted = true := by
  induction ms with
  | nil => simp [sortedMembers]
  | cons e ms ih => simp [sortedMembers, ih]

theorem validUtf8Members_iff (ms : List (Str × Json)) :
    validUtf8Members ms = true ↔ ∀ e ∈ ms, Str.validUtf8 e.1 = true ∧ e.2.validUtf8 = true := by
  induction ms with
  | nil => simp [validUtf8Members]
  | cons e ms ih => simp [validUtf8Members, ih]

theorem validUtf8List_iff (xs : List Json) :
    validUtf8List xs = true ↔ ∀ x ∈ xs, x.validUtf8 = true := by
  induction xs with
  | nil => simp [validUtf8List]
  | cons x xs ih => simp [validUtf8List, ih]

end Json

/-- A JSON value as `json::parse` delivers it. -/
structure Document where
  /-- The value. -/
  json : Json
  /-- Its keys are sorted and its strings are UTF-8. -/
  wf : json.wf = true

end Mtx
