import Mathlib.Logic.Basic

/-!
# Programs that make calls

A `Program` makes calls, and goes on as the answers to them say. It can run on
handlers, each of which answers a call and changes a state (`Program.run`), and
over a step relation, where a call is a step and the answer is that of the step
(`Program.Runs`). If the steps from a state that `R` relates to one of the
handlers answer as the handlers do, programs have the runs they have on the
handlers (`Runs.of_run`); if a step is determined by its call, these are the only
ones (`Runs.deterministic`).
-/

/-- A program that ends with an `α`. The answers to a call `k` are `ρ k`. -/
inductive Program (κ : Type) (ρ : κ → Type) (α : Type) where
  | done (a : α)
  | call (k : κ) (next : ρ k → Program κ ρ α)

namespace Program

variable {κ α σ γ : Type} {ρ : κ → Type}

def run (handle : (k : κ) → σ → ρ k × σ) : Program κ ρ α → σ → α × σ
  | done a, s => (a, s)
  | call k next, s =>
    let (answer, s') := handle k s
    (next answer).run handle s'

/-- The program ends with a value after steps from one state to another. -/
inductive Runs (Step : γ → (k : κ) → ρ k → γ → Prop) : γ → Program κ ρ α → α → γ → Prop where
  | done (c : γ) (a : α) : Runs Step c (done a) a c
  | call {c c' c'' : γ} {k : κ} {answer : ρ k} {next : ρ k → Program κ ρ α} {a : α}
      (step : Step c k answer c') (rest : Runs Step c' (next answer) a c'') :
      Runs Step c (call k next) a c''

namespace Runs

variable {handle : (k : κ) → σ → ρ k × σ} {Step : γ → (k : κ) → ρ k → γ → Prop} {R : γ → σ → Prop}

theorem of_run
    (hstep : ∀ c s k, R c s → ∃ c', Step c k (handle k s).1 c' ∧ R c' (handle k s).2)
    (p : Program κ ρ α) {c : γ} {s : σ} (h : R c s) :
    ∃ c', Runs Step c p (p.run handle s).1 c' ∧ R c' (p.run handle s).2 := by
  induction p generalizing c s with
  | done a => exact ⟨c, .done c a, h⟩
  | call k next ih =>
    obtain ⟨c₁, hfirst, hR⟩ := hstep c s k h
    obtain ⟨c', hrest, hR'⟩ := ih (handle k s).1 hR
    exact ⟨c', .call hfirst hrest, hR'⟩

theorem deterministic
    (hdet : ∀ {c k answer₁ answer₂ c₁ c₂}, Step c k answer₁ c₁ → Step c k answer₂ c₂ →
      answer₁ = answer₂ ∧ c₁ = c₂)
    {p : Program κ ρ α} {c c₁ c₂ : γ} {a₁ a₂ : α} (h₁ : Runs Step c p a₁ c₁) (h₂ : Runs Step c p a₂ c₂) :
    a₁ = a₂ ∧ c₁ = c₂ := by
  induction h₁ with
  | done =>
    cases h₂
    exact ⟨rfl, rfl⟩
  | call step₁ _ ih =>
    cases h₂ with
    | call step₂ rest₂ =>
      obtain ⟨rfl, rfl⟩ := hdet step₁ step₂
      exact ih rest₂

end Runs

end Program
