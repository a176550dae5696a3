import Mathlib.Data.List.Induction

/-!
# Runs of a machine

A machine has states and actions.  An action is possible in some states and leads to another one,
or fails.  `Machine.Run` is a run from a state to a state, one possible action after the other, and
`Machine.Run.invariant` the rule by which a property of what was done and the state it led to is
carried along.  `Machine.Proceeds` says that a machine never gets stuck as long as it is given
actions of a certain kind.
-/

set_option autoImplicit false

namespace Mtx

/-- What a machine can do and where that leads. -/
structure Machine (σ α ε : Type) where
  /-- The actions that are possible in a state. -/
  possible : σ → α → Prop
  /-- The state that an action leads to. -/
  step : σ → α → Except ε σ

namespace Machine

variable {σ α ε : Type} {m : Machine σ α ε}

/-- A run from a state to a state.  The last action is the last of the list. -/
inductive Run (m : Machine σ α ε) (s : σ) : List α → σ → Prop
  | nil : Run m s [] s
  | snoc {as : List α} {s₁ s₂ : σ} {a : α} (run : Run m s as s₁) (possible : m.possible s₁ a)
      (step : m.step s₁ a = .ok s₂) : Run m s (as ++ [a]) s₂

/-- Every possible action of the kind `p` leads from the states on a run to another state. -/
def Proceeds (m : Machine σ α ε) (p : α → Prop) (s : σ) : Prop :=
  ∀ as s₁, m.Run s as s₁ → ∀ a, m.possible s₁ a → p a → ∃ s₂, m.step s₁ a = .ok s₂

theorem Run.of_eq_nil {s s' : σ} (h : m.Run s [] s') : s' = s := by
  generalize has : ([] : List α) = as at h
  rcases h with - | ⟨-, -, -⟩
  · rfl
  · exact absurd has (by simp)

theorem Run.of_append_singleton {s s' : σ} {as : List α} {a : α} (h : m.Run s (as ++ [a]) s') :
    ∃ s₁, m.Run s as s₁ ∧ m.possible s₁ a ∧ m.step s₁ a = .ok s' := by
  generalize hbs : as ++ [a] = bs at h
  rcases h with - | ⟨hrun, hpossible, hstep⟩
  · exact absurd hbs (by simp)
  · obtain ⟨rfl, ha⟩ := List.append_inj' hbs rfl
    obtain rfl := List.singleton_inj.mp ha
    exact ⟨_, hrun, hpossible, hstep⟩

/-- A run goes through the state that its first part leads to. -/
theorem Run.of_append {s s' : σ} {as bs : List α} (h : m.Run s (as ++ bs) s') :
    ∃ s₁, m.Run s as s₁ ∧ m.Run s₁ bs s' := by
  induction bs using List.reverseRecOn generalizing s' with
  | nil => exact ⟨s', by rwa [List.append_nil] at h, .nil⟩
  | append_singleton bs b ih =>
    rw [← List.append_assoc] at h
    obtain ⟨s₂, hrun, hpossible, hstep⟩ := h.of_append_singleton
    obtain ⟨s₁, h₁, h₂⟩ := ih hrun
    exact ⟨s₁, h₁, h₂.snoc hpossible hstep⟩

theorem Run.append {s s₁ s₂ : σ} {as bs : List α} (h₁ : m.Run s as s₁) (h₂ : m.Run s₁ bs s₂) :
    m.Run s (as ++ bs) s₂ := by
  induction h₂ with
  | nil => rwa [List.append_nil]
  | snoc _ hpossible hstep ih =>
    rw [← List.append_assoc]
    exact ih.snoc hpossible hstep

/-- The actions determine where a run leads. -/
theorem Run.unique {s s₁ s₂ : σ} {as : List α} (h₁ : m.Run s as s₁) (h₂ : m.Run s as s₂) :
    s₁ = s₂ := by
  induction h₁ generalizing s₂ with
  | nil => exact h₂.of_eq_nil.symm
  | snoc hrun _ hstep ih =>
    obtain ⟨s₃, hrun₂, -, hstep₂⟩ := h₂.of_append_singleton
    rw [ih hrun₂, hstep₂] at hstep
    exact (Except.ok.inj hstep).symm

/-- Where actions lead, one after the other. -/
def execute (m : Machine σ α ε) (s : σ) (as : List α) : Except ε σ := as.foldlM m.step s

theorem execute_append (m : Machine σ α ε) (s : σ) (as bs : List α) :
    m.execute s (as ++ bs) = m.execute s as >>= fun s' ↦ m.execute s' bs :=
  List.foldlM_append

/-- Actions that are possible in every state make a run. -/
theorem Run.of_execute {s s₁ s₂ : σ} {as bs : List α} (hrun : m.Run s as s₁)
    (hpossible : ∀ b ∈ bs, ∀ s, m.possible s b) (h : m.execute s₁ bs = .ok s₂) :
    m.Run s (as ++ bs) s₂ := by
  induction bs generalizing as s₁ with
  | nil =>
    rw [List.append_nil, ← Except.ok.inj h]
    exact hrun
  | cons b bs ih =>
    obtain ⟨hb, hbs⟩ := List.forall_mem_cons.mp hpossible
    rw [execute, List.foldlM_cons] at h
    cases hstep : m.step s₁ b with
    | error e =>
      rw [hstep] at h
      cases h
    | ok s' =>
      rw [hstep] at h
      rw [List.append_cons]
      exact ih (hrun.snoc (hb s₁) hstep) hbs h

/-- A property of what was done and where it led to, if every step carries it along. -/
theorem Run.invariant {P : List α → σ → Prop} {s s' : σ} {as : List α} (h : m.Run s as s')
    (hstart : P [] s)
    (hstep : ∀ as s₁ a s₂, m.Run s as s₁ → P as s₁ → m.possible s₁ a → m.step s₁ a = .ok s₂ →
      P (as ++ [a]) s₂) : P as s' := by
  induction h with
  | nil => exact hstart
  | snoc hrun hpossible hnext ih => exact hstep _ _ _ _ hrun ih hpossible hnext

end Machine

end Mtx
