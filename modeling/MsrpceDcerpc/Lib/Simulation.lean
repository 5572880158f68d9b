import MsrpceDcerpc.Lib.Effect

/-!
# Simulations of computations

`Sim R Q S x y`: from states that `R` relates, `x` and `y` end in states that
`R` relates, with the same error or with values that `S` relates; or `y` ends
with an error in a state that satisfies `Q`, and nothing is said about `x`. A
failure of the second kind ends the whole computation that `y` is a part of, so
that simulations compose (`Sim.bind`) without saying what happens after it.
-/

namespace Eff

variable {ε σ τ σ' τ' α β γ δ : Type}

/-- The same error, or values that `S` relates. -/
inductive SameResult (S : α → β → Prop) : Except ε α → Except ε β → Prop where
  | ok {a b} : S a b → SameResult S (.ok a) (.ok b)
  | error (e) : SameResult S (.error e) (.error e)

theorem SameResult.refl (r : Except ε α) : SameResult Eq r r := by
  cases r with
  | error e => exact .error e
  | ok a => exact .ok rfl

theorem SameResult.eq {r r' : Except ε α} (h : SameResult Eq r r') : r = r' := by
  cases h with
  | ok h => rw [h]
  | error e => rfl

/-- From related states `x` does what `y` does, unless `y` fails with `Q`. -/
def Sim (R : σ → τ → Prop) (Q : τ → Prop) (S : α → β → Prop) (x : Eff ε σ α) (y : Eff ε τ β) : Prop :=
  ∀ s t, R s t → (∃ e t', y.exec t = (.error e, t') ∧ Q t') ∨
    SameResult S (x.exec s).1 (y.exec t).1 ∧ R (x.exec s).2 (y.exec t).2

namespace Sim

variable {R : σ → τ → Prop} {Q : τ → Prop} {S : α → β → Prop} {S' : γ → δ → Prop}

theorem pure {a : α} {b : β} (h : S a b) : Sim (ε := ε) R Q S (pure a) (pure b) :=
  fun _ _ hR => .inr ⟨.ok h, hR⟩

theorem throw (e : ε) : Sim R Q S (throw e : Eff ε σ α) (throw e : Eff ε τ β) :=
  fun _ _ hR => .inr ⟨.error e, hR⟩

theorem lift (x : Except ε α) : Sim R Q Eq (liftM x : Eff ε σ α) (liftM x : Eff ε τ α) :=
  fun _ _ hR => .inr ⟨.refl x, hR⟩

theorem lift_of {S : α → α → Prop} {x : Except ε α} (h : ∀ a, x = .ok a → S a a) :
    Sim R Q S (liftM x : Eff ε σ α) (liftM x : Eff ε τ α) := by
  refine fun _ _ hR => .inr ⟨?_, hR⟩
  cases x with
  | error e => exact .error e
  | ok a => exact .ok (h a rfl)

theorem get : Sim (ε := ε) R Q R get get := fun _ _ hR => .inr ⟨.ok hR, hR⟩

theorem modify {f : σ → σ} {g : τ → τ} (h : ∀ s t, R s t → R (f s) (g t)) :
    Sim (ε := ε) R Q Eq (modify f) (modify g) := fun s t hR => .inr ⟨.ok rfl, h s t hR⟩

theorem bind {x : Eff ε σ α} {y : Eff ε τ β} {f : α → Eff ε σ γ} {g : β → Eff ε τ δ}
    (hx : Sim R Q S x y) (hf : ∀ a b, S a b → Sim R Q S' (f a) (g b)) :
    Sim R Q S' (x >>= f) (y >>= g) := by
  intro s t hR
  rcases hx s t hR with ⟨e, t', hy, hQ⟩ | ⟨hresult, hR'⟩
  · exact .inl ⟨e, t', exec_bind_of_error hy, hQ⟩
  rcases hxs : x.exec s with ⟨r, s'⟩
  rcases hyt : y.exec t with ⟨r', t'⟩
  rw [hxs, hyt] at hresult hR'
  cases hresult with
  | error e =>
    rw [exec_bind_of_error hxs, exec_bind_of_error hyt]
    exact .inr ⟨.error e, hR'⟩
  | ok hab =>
    rw [exec_bind_of_ok hxs, exec_bind_of_ok hyt]
    exact hf _ _ hab s' t' hR'

/-- Where the first parts have the same value. -/
theorem bind_eq {x : Eff ε σ α} {y : Eff ε τ α} {f : α → Eff ε σ γ} {g : α → Eff ε τ δ}
    (hx : Sim R Q Eq x y) (hf : ∀ a, Sim R Q S' (f a) (g a)) : Sim R Q S' (x >>= f) (y >>= g) :=
  hx.bind fun a _ h => h ▸ hf a

/-- The same for a result, whose value it is known to be. -/
theorem lift_bind {x : Except ε α} {f : α → Eff ε σ γ} {g : α → Eff ε τ δ}
    (h : ∀ a, x = .ok a → Sim R Q S' (f a) (g a)) :
    Sim R Q S' ((liftM x : Eff ε σ α) >>= f) ((liftM x : Eff ε τ α) >>= g) := by
  intro s t hR
  cases x with
  | error e =>
    rw [exec_lift_bind_of_error rfl, exec_lift_bind_of_error rfl]
    exact .inr ⟨.error e, hR⟩
  | ok a =>
    rw [exec_lift_bind_of_ok rfl, exec_lift_bind_of_ok rfl]
    exact h a rfl s t hR

/-- A simulation of parts of the states, the rest of which is related too. -/
theorem zoom {R' : σ' → τ' → Prop} {Q' : τ' → Prop} {x : Eff ε σ α} {y : Eff ε τ β} {get₁ : σ' → σ}
    {put₁ : σ' → σ → σ'} {get₂ : τ' → τ} {put₂ : τ' → τ → τ'} (h : Sim R Q S x y)
    (hget : ∀ s t, R' s t → R (get₁ s) (get₂ t))
    (hput : ∀ s t s' t', R' s t → R s' t' → R' (put₁ s s') (put₂ t t'))
    (hQ : ∀ t t', Q t' → Q' (put₂ t t')) :
    Sim R' Q' S (zoom get₁ put₁ x) (Eff.zoom get₂ put₂ y) := by
  intro s t hR
  rcases h _ _ (hget s t hR) with ⟨e, t', hy, hQ'⟩ | ⟨hresult, hR'⟩
  · exact .inl ⟨e, put₂ t t', exec_zoom hy, hQ t t' hQ'⟩
  · exact .inr ⟨hresult, hput s t _ _ hR hR'⟩

end Sim

end Eff
