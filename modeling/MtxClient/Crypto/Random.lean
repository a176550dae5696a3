import Mathlib.Algebra.Group.Int.Defs
import MtxClient.Json.Basic

/-!
# Random buffers

`create_buffer` fills a new buffer with `RAND_bytes`.  The random number generator is the stream of
the bytes it will deliver, together with the answers it will give: a call either writes the next
bytes of the stream, or reports failure and writes nothing.  `create_buffer` does not look at the
report, so that `createBuffer_eq` says what callers get: the next bytes of the stream, or zeros.

The functions that use random numbers are `OlmM` computations.  They pass the generator on and keep
a record of the random arguments that libolm is handed.
-/

set_option autoImplicit false

namespace Mtx.Crypto

/-! ## The generator -/

/-- A random number generator. -/
structure Rng where
  /-- The bytes it will deliver. -/
  stream : ℕ → UInt8
  /-- Whether the next calls will succeed. -/
  succeeds : ℕ → Bool

/-- The next `n` bytes of the stream. -/
def Rng.take (rng : Rng) (n : ℕ) : Str := (List.range n).map rng.stream

/-- The generator after a call that took `n` bytes. -/
def Rng.drop (rng : Rng) (n : ℕ) : Rng where
  stream i := rng.stream (n + i)
  succeeds i := rng.succeeds (i + 1)

/-- What the next call delivers when it is asked for `n` bytes. -/
def Rng.next? (rng : Rng) (n : ℕ) : Option Str :=
  if rng.succeeds 0 then some (rng.take n) else none

/-- `RAND_bytes(buf, num)`: the report, the buffer and the generator afterwards. -/
def randBytes (rng : Rng) (buf : Str) (num : ℤ) : Bool × Str × Rng :=
  if num < 0 then (false, buf, rng) else
  match rng.next? num.toNat with
  | some bytes => (true, bytes ++ buf.drop num.toNat, rng.drop num.toNat)
  | none => (false, buf, rng.drop 0)

/-- `(int)` of a `size_t`. -/
def castInt (n : ℕ) : ℤ := (Int32.ofNat n).toInt

/-- `create_buffer`. -/
def createBuffer (nbytes : ℕ) (rng : Rng) : Str × Rng :=
  let buf := List.replicate nbytes 0
  let (_, buf, rng) := randBytes rng buf (castInt nbytes)
  (buf, rng)

/-! ## Computations that use it -/

/-- The generator, and the random arguments libolm was handed so far. -/
structure World where
  rng : Rng
  handed : List Str := []

/-- A computation that uses random numbers and can throw. -/
abbrev OlmM := StateT World (Except Exn)

/-- A new buffer from `create_buffer`. -/
def newBuffer (nbytes : ℕ) : OlmM Str := fun w ↦
  let (buf, rng) := createBuffer nbytes w.rng
  .ok (buf, { w with rng })

/-- Record that libolm is handed the random argument `random`. -/
def handOver (random : Str) : OlmM Unit := fun w ↦
  .ok ((), { w with handed := w.handed ++ [random] })

/-- `if (ret == olm_error()) throw olm_exception(func, …)`. -/
def orOlmException {α : Type} (func : String) (ret : Option α) : OlmM α := fun w ↦
  match ret with
  | some a => .ok (a, w)
  | none => .error (.olmException func)

/-- A generator that works and delivers ones. -/
def ones : World where
  rng := { stream := fun _ ↦ 1, succeeds := fun _ ↦ true }

/-! ## Running them -/

section

variable {α β : Type} {w w' : World}

theorem olmM_bind_of_ok {x : OlmM α} {f : α → OlmM β} {a : α} (h : x w = .ok (a, w')) :
    (x >>= f) w = f a w' := by
  rw [show (x >>= f) w = (x w >>= fun r ↦ f r.1 r.2) from rfl, h, ok_bind]

theorem olmM_bind_eq_ok_iff {x : OlmM α} {f : α → OlmM β} {r : β × World} :
    (x >>= f) w = .ok r ↔ ∃ a w', x w = .ok (a, w') ∧ f a w' = .ok r := by
  rw [show (x >>= f) w = (x w >>= fun r ↦ f r.1 r.2) from rfl, bind_eq_ok_iff]
  exact ⟨fun ⟨⟨a, w'⟩, h, hf⟩ ↦ ⟨a, w', h, hf⟩, fun ⟨a, w', h, hf⟩ ↦ ⟨⟨a, w'⟩, h, hf⟩⟩

theorem newBuffer_apply (n : ℕ) (w : World) : newBuffer n w =
    .ok ((createBuffer n w.rng).1, { w with rng := (createBuffer n w.rng).2 }) := rfl

theorem handOver_apply (random : Str) (w : World) :
    handOver random w = .ok ((), { w with handed := w.handed ++ [random] }) := rfl

theorem orOlmException_eq_ok_iff {func : String} {ret : Option α} {a : α} :
    orOlmException func ret w = .ok (a, w') ↔ ret = some a ∧ w = w' := by
  cases ret <;> simp [orOlmException]

theorem olmM_liftM_eq_ok_iff {x : Except Exn α} {a : α} :
    (liftM x : OlmM α) w = .ok (a, w') ↔ x = .ok a ∧ w = w' := by
  cases x <;> simp [liftM, monadLift, MonadLift.monadLift, StateT.lift]

end

/-! ## Answers that do not depend on the generator -/

/-- The computation answers `a`, whatever the generator does. -/
def Yields {α : Type} (x : OlmM α) (a : α) : Prop := ∀ w, ∃ w', x w = .ok (a, w')

section

variable {α β : Type}

theorem Yields.pure (a : α) : Yields (Pure.pure a) a := fun w ↦ ⟨w, rfl⟩

theorem Yields.bind {x : OlmM α} {f : α → OlmM β} {a : α} {b : β} (hx : Yields x a)
    (hf : Yields (f a) b) : Yields (x >>= f) b := fun w ↦ by
  obtain ⟨w₁, h₁⟩ := hx w
  obtain ⟨w₂, h₂⟩ := hf w₁
  exact ⟨w₂, by rw [olmM_bind_of_ok h₁, h₂]⟩

/-- A buffer that is overwritten does not matter. -/
theorem Yields.newBuffer_bind {n : ℕ} {x : OlmM β} {b : β} (hx : Yields x b) :
    Yields (newBuffer n >>= fun _ ↦ x) b := fun w ↦ by
  rw [olmM_bind_of_ok (newBuffer_apply n w)]
  exact hx _

theorem Yields.liftM {x : Except Exn α} {a : α} (h : x = .ok a) :
    Yields (MonadLiftT.monadLift x : OlmM α) a := fun w ↦ ⟨w, by rw [h]; rfl⟩

theorem Yields.orOlmException {func : String} {ret : Option α} {a : α} (h : ret = some a) :
    Yields (Crypto.orOlmException func ret) a := fun w ↦
  ⟨w, orOlmException_eq_ok_iff.mpr ⟨h, rfl⟩⟩

/-- A loop whose steps yield what `g` says yields what the loop over `g` says. -/
theorem Yields.foldlM {f : β → α → OlmM β} {g : β → α → β} :
    ∀ (l : List α) (b : β), (∀ b, ∀ a ∈ l, Yields (f b a) (g b a)) →
      Yields (l.foldlM f b) (l.foldl g b)
  | [], b, _ => Yields.pure b
  | a :: l, b, h => by
    rw [List.foldlM_cons, List.foldl_cons]
    exact (h b a List.mem_cons_self).bind
      (Yields.foldlM l (g b a) fun b' a' ha' ↦ h b' a' (List.mem_cons_of_mem a ha'))

end

/-! ## What a buffer holds -/

@[simp] theorem Rng.length_take (rng : Rng) (n : ℕ) : (rng.take n).length = n := by
  rw [Rng.take, List.length_map, List.length_range]

theorem castInt_eq {n : ℕ} (h : n < 2 ^ 31) : castInt n = n := by
  rw [castInt, Int32.toInt_ofNat_of_lt h]

theorem castInt_le (n : ℕ) : castInt n ≤ n := by
  rw [castInt, Int32.toInt_ofNat', Int.bmod, Int32.size]
  split_ifs <;> omega

theorem castInt_lt (n : ℕ) : castInt n < 2 ^ 31 := by
  rw [castInt, Int32.toInt_ofNat', Int.bmod, Int32.size]
  split_ifs <;> omega

/-- **A buffer holds the next bytes of the generator, or zeros if that fails.** -/
theorem createBuffer_eq {n : ℕ} (h : n < 2 ^ 31) (rng : Rng) :
    (createBuffer n rng).1 = (rng.next? n).getD (List.replicate n 0) := by
  rw [createBuffer, randBytes, castInt_eq h, if_neg (by omega), Int.toNat_natCast]
  cases rng.next? n with
  | none => rfl
  | some bytes => simp

/-- Whatever the generator does, the buffer has the length asked for. -/
theorem length_createBuffer {n : ℕ} (h : n < 2 ^ 31) (rng : Rng) :
    (createBuffer n rng).1.length = n := by
  rw [createBuffer_eq h, Rng.next?]
  split <;> simp

end Mtx.Crypto
