import Mathlib.Data.List.Basic

/-!
# Computations that leave a trace

A computation that can fail, together with the calls it makes until it ends.  Calls are only
recorded; what they answer is up to whoever makes them.

`Traced.Calls P x` says that all calls of `x` satisfy `P`, and `calls_bind_iff` takes this apart
along the steps of `x`: a step is only taken if everything before it succeeded.
-/

set_option autoImplicit false

/-- The calls a computation makes, in order, and how it ends. -/
@[ext] structure Traced (κ ε α : Type) where
  calls : List κ
  result : Except ε α

namespace Traced

variable {κ ε α β : Type}

instance : Monad (Traced κ ε) where
  pure a := ⟨[], .ok a⟩
  bind x f := match x.result with
    | .ok a => ⟨x.calls ++ (f a).calls, (f a).result⟩
    | .error e => ⟨x.calls, .error e⟩

/-- A computation that makes no calls. -/
def silent (x : Except ε α) : Traced κ ε α := ⟨[], x⟩

instance : MonadLift (Except ε) (Traced κ ε) := ⟨silent⟩

/-- The call `k`, which ends in `x`. -/
def call (k : κ) (x : Except ε α) : Traced κ ε α := ⟨[k], x⟩

/-! ## Steps -/

theorem bind_of_ok {x : Traced κ ε α} {a : α} (f : α → Traced κ ε β) (h : x.result = .ok a) :
    x >>= f = ⟨x.calls ++ (f a).calls, (f a).result⟩ := by
  simp only [bind, h]

theorem bind_of_error {x : Traced κ ε α} {e : ε} (f : α → Traced κ ε β) (h : x.result = .error e) :
    x >>= f = ⟨x.calls, .error e⟩ := by
  simp only [bind, h]

theorem silent_bind_of_ok {x : Except ε α} {a : α} (f : α → Traced κ ε β) (h : x = .ok a) :
    (liftM x : Traced κ ε α) >>= f = f a :=
  bind_of_ok f h

theorem silent_bind_of_error {x : Except ε α} {e : ε} (f : α → Traced κ ε β) (h : x = .error e) :
    (liftM x : Traced κ ε α) >>= f = ⟨[], .error e⟩ :=
  bind_of_error f h

/-! ## Results -/

@[simp] theorem result_pure (a : α) : (pure a : Traced κ ε α).result = .ok a := rfl

@[simp] theorem result_liftM (x : Except ε α) : (liftM x : Traced κ ε α).result = x := rfl

@[simp] theorem result_call (k : κ) (x : Except ε α) : (call k x).result = x := rfl

/-- The trace does not change the results. -/
@[simp] theorem result_bind (x : Traced κ ε α) (f : α → Traced κ ε β) :
    (x >>= f).result = x.result >>= fun a ↦ (f a).result := by
  cases h : x.result with
  | ok a => rw [bind_of_ok f h]; rfl
  | error e => rw [bind_of_error f h]; rfl

/-! ## Calls -/

/-- All calls satisfy `P`. -/
def Calls (P : κ → Prop) (x : Traced κ ε α) : Prop := ∀ k ∈ x.calls, P k

variable {P : κ → Prop}

@[simp] theorem calls_pure (a : α) : Calls P (pure a : Traced κ ε α) :=
  fun _ h ↦ absurd h List.not_mem_nil

@[simp] theorem calls_liftM (x : Except ε α) : Calls P (liftM x : Traced κ ε α) :=
  fun _ h ↦ absurd h List.not_mem_nil

@[simp] theorem calls_call_iff {k : κ} {x : Except ε α} : Calls P (call k x) ↔ P k :=
  List.forall_mem_singleton

/-- **The calls of two steps**: those of the second one count if the first one succeeds. -/
theorem calls_bind_iff {x : Traced κ ε α} {f : α → Traced κ ε β} :
    Calls P (x >>= f) ↔ Calls P x ∧ ∀ a, x.result = .ok a → Calls P (f a) := by
  cases h : x.result with
  | ok a =>
    rw [bind_of_ok f h, Calls, List.forall_mem_append]
    simp [Calls]
  | error e =>
    rw [bind_of_error f h]
    simp [Calls]

theorem calls_liftM_bind_iff {x : Except ε α} {f : α → Traced κ ε β} :
    Calls P ((liftM x : Traced κ ε α) >>= f) ↔ ∀ a, x = .ok a → Calls P (f a) :=
  calls_bind_iff.trans (and_iff_right (calls_liftM x))

/-! ## Calls and results -/

/-- The computation succeeds with `a`, and all its calls satisfy `P`. -/
structure Returns (P : κ → Prop) (x : Traced κ ε α) (a : α) : Prop where
  result : x.result = .ok a
  calls : Calls P x

theorem returns_pure (a : α) : Returns P (pure a : Traced κ ε α) a := ⟨rfl, calls_pure a⟩

theorem returns_call {k : κ} {x : Except ε α} {a : α} (hk : P k) (hx : x = .ok a) :
    Returns P (call k x) a :=
  ⟨hx, calls_call_iff.mpr hk⟩

theorem returns_liftM {x : Except ε α} {a : α} (hx : x = .ok a) :
    Returns P (liftM x : Traced κ ε α) a :=
  ⟨hx, calls_liftM x⟩

/-- **The rule for two steps.** -/
theorem Returns.bind {x : Traced κ ε α} {f : α → Traced κ ε β} {a : α} {b : β}
    (hx : Returns P x a) (hf : Returns P (f a) b) : Returns P (x >>= f) b where
  result := by rw [result_bind, hx.result]; exact hf.result
  calls := calls_bind_iff.mpr ⟨hx.calls, fun a' ha' ↦ by
    rw [hx.result] at ha'
    rw [← Except.ok.inj ha']
    exact hf.calls⟩

end Traced
