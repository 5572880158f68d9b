import Mathlib.Data.List.Basic

/-!
# Runs of a labelled step relation

`Run Step s ls s'`: from `s`, steps with the labels `ls`, in this order, lead
to `s'`. What every step preserves holds at the end (`Run.invariant`), and a
label of a run is that of a step from a state the run reaches (`Run.split`). A
step relation whose labels are determined by the part of them that the
environment chooses has one run for each list of choices
(`Run.deterministic`). If each step of a relation is one of another, from states
that correspond, so is each run (`Run.simulation`).
-/

/-- The steps with labels `ls` from one state to another. -/
inductive Run {σ ℓ : Type} (Step : σ → ℓ → σ → Prop) : σ → List ℓ → σ → Prop where
  | nil (s : σ) : Run Step s [] s
  | cons {s s' s'' : σ} {l : ℓ} {ls : List ℓ} (step : Step s l s') (rest : Run Step s' ls s'') :
      Run Step s (l :: ls) s''

namespace Run

variable {σ ℓ κ : Type} {Step : σ → ℓ → σ → Prop} {s s' : σ} {ls : List ℓ}

theorem invariant (I : σ → Prop) (hstep : ∀ s l s', I s → Step s l s' → I s')
    (h : Run Step s ls s') (hs : I s) : I s' := by
  induction h with
  | nil => exact hs
  | cons step _ ih => exact ih (hstep _ _ _ hs step)

theorem concat {s'' : σ} {l : ℓ} (h : Run Step s ls s') (hl : Step s' l s'') : Run Step s (ls ++ [l]) s'' := by
  induction h with
  | nil s => exact cons hl (nil s'')
  | cons step _ ih => exact cons step (ih hl)

/-- The step at a position of a run, and the run before it. -/
theorem split {i : Nat} {l : ℓ} (h : Run Step s ls s') (hl : ls[i]? = some l) :
    ∃ s₁ s₂, Run Step s (ls.take i) s₁ ∧ Step s₁ l s₂ := by
  induction h generalizing i with
  | nil => cases hl
  | @cons s s' s'' l₀ ls step rest ih =>
    cases i with
    | zero => exact ⟨s, s', nil s, Option.some.inj hl ▸ step⟩
    | succ i =>
      obtain ⟨s₁, s₂, hrun, hstep⟩ := ih hl
      exact ⟨s₁, s₂, cons step hrun, hstep⟩

/-- A run is one of another relation too, from a state that corresponds. -/
theorem simulation {τ : Type} {Step' : τ → ℓ → τ → Prop} {t : τ} (h : Run Step s ls s') (R : σ → τ → Prop)
    (hstep : ∀ s l s' t, R s t → Step s l s' → ∃ t', Step' t l t' ∧ R s' t') (hR : R s t) :
    ∃ t', Run Step' t ls t' ∧ R s' t' := by
  induction h generalizing t with
  | nil => exact ⟨t, nil t, hR⟩
  | cons step _ ih =>
    obtain ⟨t₁, hl, hR₁⟩ := hstep _ _ _ _ hR step
    obtain ⟨t', hrun, hR'⟩ := ih hR₁
    exact ⟨t', cons hl hrun, hR'⟩

/-- Two runs with the same choices are the same. -/
theorem deterministic (choice : ℓ → κ)
    (hdet : ∀ s l₁ s₁ l₂ s₂, choice l₁ = choice l₂ → Step s l₁ s₁ → Step s l₂ s₂ →
      l₁ = l₂ ∧ s₁ = s₂)
    {ls' : List ℓ} {s'' : σ} (h : Run Step s ls s') (h' : Run Step s ls' s'')
    (hc : ls.map choice = ls'.map choice) : ls = ls' ∧ s' = s'' := by
  induction h generalizing ls' with
  | nil =>
    cases ls' with
    | nil =>
      cases h'
      exact ⟨rfl, rfl⟩
    | cons => cases hc
  | cons step _ ih =>
    cases h' with
    | nil => cases hc
    | cons step' rest' =>
      rw [List.map_cons, List.map_cons, List.cons.injEq] at hc
      obtain ⟨rfl, rfl⟩ := hdet _ _ _ _ _ hc.1 step step'
      obtain ⟨rfl, rfl⟩ := ih rest' hc.2
      exact ⟨rfl, rfl⟩

end Run
