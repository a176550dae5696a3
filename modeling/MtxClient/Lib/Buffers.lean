import Mathlib.Data.List.Infix

/-!
# Programs that share buffers

A program works on a memory of buffers, which it refers to by their number, and on a rest of the
state that it does not share.  It ends with a result or with an exception, and in either case leaves
a state behind.  Buffers are never freed, so a new one is different from all that were there.

`Spares base x Q` is the triple of a small program logic: whenever the memory starts with `base`, it
still does after `x`, however `x` ends, and if there is a result, it satisfies `Q`.  A program
spares its caller's buffers if it writes only to buffers that it made itself (`spares_write`), and
`prefix_of_spares` turns that into a statement about the memory before and after.
-/

set_option autoImplicit false

namespace Buffers

/-- The buffers that are in use, and the rest of the state. -/
structure World (ρ : Type) where
  memory : List (List UInt8)
  rest : ρ

/-- A program over buffers, which can throw. -/
def Program (ρ ε α : Type) := World ρ → Except ε α × World ρ

variable {ρ ε α β : Type}

instance : Monad (Program ρ ε) where
  pure a := fun w ↦ (.ok a, w)
  bind x f := fun w ↦ match x w with
    | (.ok a, w) => f a w
    | (.error e, w) => (.error e, w)

namespace Program

/-- `throw e`. -/
def fail (e : ε) : Program ρ ε α := fun w ↦ (.error e, w)

/-- A new buffer with some contents. -/
def alloc (bytes : List UInt8) : Program ρ ε ℕ := fun w ↦
  (.ok w.memory.length, { w with memory := w.memory ++ [bytes] })

/-- The contents of a buffer. -/
def read (p : ℕ) : Program ρ ε (List UInt8) := fun w ↦ (.ok (w.memory.getD p []), w)

/-- Replace the contents of a buffer. -/
def write (p : ℕ) (bytes : List UInt8) : Program ρ ε Unit := fun w ↦
  (.ok (), { w with memory := w.memory.set p bytes })

/-- A step on the rest of the state. -/
def access (f : ρ → α × ρ) : Program ρ ε α := fun w ↦
  (.ok (f w.rest).1, { w with rest := (f w.rest).2 })

/-- A call that works in a buffer: it finds the contents and leaves others in their place. -/
def inPlace (p : ℕ) (f : List UInt8 → ρ → α × List UInt8 × ρ) : Program ρ ε α := do
  let bytes ← read p
  let (a, left) ← access fun s ↦ ((( f bytes s).1, (f bytes s).2.1), (f bytes s).2.2)
  write p left
  return a

/-- Replace the beginning of a buffer. -/
def overwrite (p : ℕ) (bytes : List UInt8) : Program ρ ε Unit := do
  let old ← read p
  write p (bytes ++ old.drop bytes.length)

/-- Copy a buffer to the beginning of another one. -/
def copy (source target : ℕ) : Program ρ ε Unit := do
  let bytes ← read source
  overwrite target bytes

/-- A result, or an exception if there is none. -/
def orFail (e : ε) : Option α → Program ρ ε α
  | some a => pure a
  | none => fail e

variable {w : World ρ}

theorem bind_of_ok {x : Program ρ ε α} {f : α → Program ρ ε β} {a : α} {w' : World ρ}
    (h : x w = (.ok a, w')) : (x >>= f) w = f a w' := by
  show (match x w with
    | (.ok a, w) => f a w
    | (.error e, w) => (.error e, w)) = f a w'
  rw [h]

theorem bind_of_error {x : Program ρ ε α} {f : α → Program ρ ε β} {e : ε} {w' : World ρ}
    (h : x w = (.error e, w')) : (x >>= f) w = (.error e, w') := by
  show (match x w with
    | (.ok a, w) => f a w
    | (.error e, w) => (.error e, w)) = (.error e, w')
  rw [h]

/-! ## Sparing the caller's buffers -/

/-- The program leaves the buffers `base` as they are, and its results satisfy `Q`. -/
def Spares (base : List (List UInt8)) (x : Program ρ ε α) (Q : α → Prop) : Prop :=
  ∀ w, base <+: w.memory → base <+: (x w).2.memory ∧ ∀ a, (x w).1 = .ok a → Q a

variable {base : List (List UInt8)} {x : Program ρ ε α} {P Q : α → Prop} {R : β → Prop}

theorem prefix_of_spares (h : ∀ base, Spares base x fun _ ↦ True) (w : World ρ) :
    w.memory <+: (x w).2.memory :=
  (h w.memory w List.prefix_rfl).1

theorem spares_pure {a : α} (h : Q a) : Spares base (pure a : Program ρ ε α) Q :=
  fun _ hw ↦ ⟨hw, fun _ hb ↦ Except.ok.inj hb ▸ h⟩

theorem spares_fail (e : ε) : Spares base (fail e : Program ρ ε α) Q :=
  fun _ hw ↦ ⟨hw, fun _ hb ↦ by cases hb⟩

theorem Spares.bind {f : α → Program ρ ε β} (hx : Spares base x P)
    (hf : ∀ a, P a → Spares base (f a) R) : Spares base (x >>= f) R := fun w hw ↦ by
  obtain ⟨hbase, hpost⟩ := hx w hw
  rcases h : x w with ⟨e | a, w'⟩
  · rw [h] at hbase
    rw [bind_of_error h]
    exact ⟨hbase, fun b hb ↦ by cases hb⟩
  · rw [h] at hbase hpost
    rw [bind_of_ok h]
    exact hf a (hpost a rfl) w' hbase

/-- The rule for a step whose result does not matter. -/
theorem Spares.andThen {f : α → Program ρ ε β} (hx : Spares base x fun _ ↦ True)
    (hf : ∀ a, Spares base (f a) R) : Spares base (x >>= f) R :=
  hx.bind fun a _ ↦ hf a

theorem spares_read (p : ℕ) : Spares base (read p : Program ρ ε _) fun _ ↦ True :=
  fun _ hw ↦ ⟨hw, fun _ _ ↦ trivial⟩

theorem spares_access (f : ρ → α × ρ) : Spares base (access f : Program ρ ε α) fun _ ↦ True :=
  fun _ hw ↦ ⟨hw, fun _ _ ↦ trivial⟩

theorem spares_orFail (e : ε) (a : Option α) :
    Spares base (orFail e a : Program ρ ε α) fun _ ↦ True := by
  rcases a with - | a
  · exact spares_fail e
  · exact spares_pure trivial

/-- A new buffer is none of the caller's. -/
theorem spares_alloc (bytes : List UInt8) :
    Spares base (alloc bytes : Program ρ ε ℕ) fun p ↦ base.length ≤ p :=
  fun _ hw ↦ ⟨hw.trans (List.prefix_append _ _), fun _ hp ↦ Except.ok.inj hp ▸ hw.length_le⟩

/-- Writing to another buffer. -/
theorem spares_write {p : ℕ} (h : base.length ≤ p) (bytes : List UInt8) :
    Spares base (write p bytes : Program ρ ε Unit) fun _ ↦ True := fun w hw ↦ by
  refine ⟨?_, fun _ _ ↦ trivial⟩
  obtain ⟨rest, hrest⟩ := hw
  refine ⟨rest.set (p - base.length) bytes, ?_⟩
  show base ++ rest.set (p - base.length) bytes = w.memory.set p bytes
  rw [← hrest, List.set_append_right _ _ h]

theorem spares_inPlace {p : ℕ} (h : base.length ≤ p) (f : List UInt8 → ρ → α × List UInt8 × ρ) :
    Spares base (inPlace p f : Program ρ ε α) fun _ ↦ True :=
  (spares_read p).andThen fun _ ↦ (spares_access _).andThen fun r ↦
    (spares_write h r.2).andThen fun _ ↦ spares_pure trivial

theorem spares_overwrite {p : ℕ} (h : base.length ≤ p) (bytes : List UInt8) :
    Spares base (overwrite p bytes : Program ρ ε Unit) fun _ ↦ True :=
  (spares_read p).andThen fun _ ↦ spares_write h _

theorem spares_copy {source target : ℕ} (h : base.length ≤ target) :
    Spares base (copy source target : Program ρ ε Unit) fun _ ↦ True :=
  (spares_read source).andThen fun bytes ↦ spares_overwrite h bytes

/-! ## Working in a caller's buffer -/

/-- A buffer that is overwritten is spared exactly if it is overwritten with what it held. -/
theorem prefix_set_iff {m : List (List UInt8)} {p : ℕ} (h : p < m.length) (bytes : List UInt8) :
    m <+: m.set p bytes ↔ bytes = m.getD p [] := by
  constructor
  · intro hprefix
    have hset : m = m.set p bytes := hprefix.eq_of_length (List.length_set).symm
    rw [hset, List.getD_eq_getElem?_getD, List.getElem?_set_self h, Option.getD_some]
  · rintro rfl
    rw [List.getD_eq_getElem?_getD, List.getElem?_eq_getElem h, Option.getD_some,
      List.set_getElem_self]

end Program

end Buffers
