import Mathlib.Data.List.Basic
import Mathlib.Tactic.SplitIfs

/-!
# Computations that keep their state when they throw

An exception does not take back what was done before it.  `Stateful` computations have a state that
survives their exceptions, as the objects of a program do.

`Maintains` is the rule for invariants: a computation leads from states with the invariant to states
with the invariant, whether it throws or not, and what it answers has a property.  There is a lemma
for every way to put computations together, so that the invariant of a whole program follows from
those of the places where the state is written.
-/

set_option autoImplicit false

namespace Mtx

/-- A computation with the state `σ` that may throw. -/
abbrev Stateful (ε σ : Type) := ExceptT ε (StateM σ)

namespace Stateful

variable {ε σ α β : Type}

/-! ## Computations -/

/-- A computation that does not touch the state. -/
def lift (x : Except ε α) : Stateful ε σ α := fun s ↦ (x, s)

/-- Reading the state. -/
def access (f : σ → α) : Stateful ε σ α := fun s ↦ (.ok (f s), s)

/-- Writing the state. -/
def update (f : σ → σ) : Stateful ε σ Unit := fun s ↦ (.ok (), f s)

/-- `try { x } catch …` for the exceptions that `p` allows. -/
def catching (p : ε → Bool) (x : Stateful ε σ Unit) : Stateful ε σ Unit := fun s ↦
  match x s with
  | (.ok (), s') => (.ok (), s')
  | (.error e, s') => if p e then (.ok (), s') else (.error e, s')

/-- `for (const auto &a : as) f(a);` -/
def forEach (f : α → Stateful ε σ Unit) : List α → Stateful ε σ Unit
  | [] => pure ()
  | a :: as => do
    f a
    forEach f as

theorem bind_apply (x : Stateful ε σ α) (f : α → Stateful ε σ β) (s : σ) :
    (x >>= f) s = match x s with
      | (.ok a, s') => f a s'
      | (.error e, s') => (.error e, s') := by
  show (match x s with | (r, s') => ExceptT.bindCont f r s') = _
  rcases x s with ⟨e | a, s'⟩ <;> rfl

theorem bind_of_ok {x : Stateful ε σ α} {f : α → Stateful ε σ β} {s s' : σ} {a : α}
    (h : x s = (.ok a, s')) : (x >>= f) s = f a s' := by
  rw [bind_apply, h]

@[simp] theorem pure_apply (a : α) (s : σ) : (pure a : Stateful ε σ α) s = (.ok a, s) := rfl

theorem lift_bind (x : Except ε α) (f : α → Stateful ε σ β) (s : σ) :
    ((lift x : Stateful ε σ α) >>= f) s = match x with
      | .ok a => f a s
      | .error e => (.error e, s) := by
  cases x <;> rfl

@[simp] theorem access_bind (g : σ → α) (f : α → Stateful ε σ β) (s : σ) :
    ((access g : Stateful ε σ α) >>= f) s = f (g s) s := rfl

@[simp] theorem update_bind (g : σ → σ) (f : Unit → Stateful ε σ β) (s : σ) :
    ((update g : Stateful ε σ Unit) >>= f) s = f () (g s) := rfl

/-! ## Invariants -/

/-- The computation keeps an invariant of the state, even if it throws, and its answer has a
property. -/
def Maintains (I : σ → Prop) (x : Stateful ε σ α) (Q : α → Prop) : Prop :=
  ∀ s, I s → I (x s).2 ∧ ∀ a, (x s).1 = .ok a → Q a

/-- A computation that keeps an invariant. -/
abbrev Keeps (I : σ → Prop) (x : Stateful ε σ α) : Prop := Maintains I x fun _ ↦ True

variable {I : σ → Prop} {Q : α → Prop} {R : β → Prop}

theorem maintains_pure {a : α} (h : Q a) : Maintains I (pure a : Stateful ε σ α) Q := fun s hs ↦
  ⟨hs, fun b hb ↦ by rwa [← Except.ok.inj hb]⟩

theorem maintains_lift {x : Except ε α} (h : ∀ a, x = .ok a → Q a) :
    Maintains I (lift x : Stateful ε σ α) Q := fun _ hs ↦ ⟨hs, h⟩

theorem maintains_access {f : σ → α} (h : ∀ s, I s → Q (f s)) :
    Maintains I (access f : Stateful ε σ α) Q := fun s hs ↦
  ⟨hs, fun b hb ↦ by rw [← Except.ok.inj hb]; exact h s hs⟩

theorem keeps_update {f : σ → σ} (h : ∀ s, I s → I (f s)) :
    Keeps I (update f : Stateful ε σ Unit) := fun s hs ↦ ⟨h s hs, fun _ _ ↦ trivial⟩

theorem Maintains.bind {x : Stateful ε σ α} {f : α → Stateful ε σ β} (hx : Maintains I x Q)
    (hf : ∀ a, Q a → Maintains I (f a) R) : Maintains I (x >>= f) R := by
  intro s hs
  obtain ⟨hs', ha⟩ := hx s hs
  rw [bind_apply]
  rcases hxs : x s with ⟨e | a, s'⟩
  · rw [hxs] at hs'
    exact ⟨hs', fun b hb ↦ by cases hb⟩
  · rw [hxs] at hs' ha
    exact hf a (ha a rfl) s' hs'

/-- Two computations one after the other, where the answer of the first does not matter. -/
theorem Maintains.andThen {x : Stateful ε σ α} {f : α → Stateful ε σ β} (hx : Maintains I x Q)
    (hf : ∀ a, Maintains I (f a) R) : Maintains I (x >>= f) R :=
  hx.bind fun a _ ↦ hf a

theorem keeps_catching {p : ε → Bool} {x : Stateful ε σ Unit} (hx : Keeps I x) :
    Keeps I (catching p x) := by
  intro s hs
  refine ⟨?_, fun _ _ ↦ trivial⟩
  obtain ⟨hs', -⟩ := hx s hs
  rw [catching]
  split
  · rename_i h
    rwa [h] at hs'
  · rename_i h
    rw [h] at hs'
    split_ifs <;> exact hs'

theorem keeps_forEach {f : α → Stateful ε σ Unit} {as : List α} (h : ∀ a ∈ as, Keeps I (f a)) :
    Keeps I (forEach f as) := by
  induction as with
  | nil => exact maintains_pure trivial
  | cons a as ih =>
    exact (h a List.mem_cons_self).andThen fun _ ↦ ih fun b hb ↦ h b (List.mem_cons_of_mem _ hb)

/-- The computation leads from states with one property to states with another, even if it
throws. -/
def Leads (P I : σ → Prop) (x : Stateful ε σ α) : Prop := ∀ s, P s → I (x s).2

theorem Leads.keeps {x : Stateful ε σ α} (hx : Leads I I x) : Keeps I x := fun s hs ↦
  ⟨hx s hs, fun _ _ ↦ trivial⟩

/-- As long as the first property is kept, it is left to the rest to come to the second. -/
theorem Maintains.leads_bind {P : σ → Prop} {x : Stateful ε σ α} {f : α → Stateful ε σ β}
    (hx : Maintains P x Q) (hweaken : ∀ s, P s → I s) (hf : ∀ a, Q a → Leads P I (f a)) :
    Leads P I (x >>= f) := by
  intro s hs
  obtain ⟨hs', ha⟩ := hx s hs
  rw [bind_apply]
  rcases hxs : x s with ⟨e | a, s'⟩
  · rw [hxs] at hs'
    exact hweaken s' hs'
  · rw [hxs] at hs' ha
    exact hf a (ha a rfl) s' hs'

theorem Leads.andThen {P : σ → Prop} {x : Stateful ε σ α} {f : α → Stateful ε σ β}
    (hx : Leads P I x) (hf : ∀ a, Keeps I (f a)) : Leads P I (x >>= f) := by
  intro s hs
  have hs' := hx s hs
  rw [bind_apply]
  rcases hxs : x s with ⟨e | a, s'⟩
  · rwa [hxs] at hs'
  · rw [hxs] at hs'
    exact (hf a s' hs').1

end Stateful

end Mtx
