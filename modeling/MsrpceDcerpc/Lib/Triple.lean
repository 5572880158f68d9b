import MsrpceDcerpc.Lib.Effect

/-!
# Triples

`Triple P x Q E`: from a state that satisfies `P` the computation `x` ends with
a value as `Q` says, or with an error as `E` says; both are about the final
state too. `Keeps I x` is the triple of an invariant, that holds in the final
state whatever the result. Each has a rule for every way to make a
computation.
-/

namespace Eff

variable {ε σ τ α β : Type}

/-- What `Q` or `E` says of a result and a final state. -/
def Outcome (Q : α → σ → Prop) (E : ε → σ → Prop) : Except ε α × σ → Prop
  | (.ok a, s) => Q a s
  | (.error e, s) => E e s

def Triple (P : σ → Prop) (x : Eff ε σ α) (Q : α → σ → Prop) (E : ε → σ → Prop) : Prop :=
  ∀ s, P s → Outcome Q E (x.exec s)

def Keeps (I : σ → Prop) (x : Eff ε σ α) : Prop := ∀ s, I s → I (x.exec s).2

namespace Triple

variable {P : σ → Prop} {Q : α → σ → Prop} {R : β → σ → Prop} {E : ε → σ → Prop}

theorem ofFun {f : σ → Except ε α × σ} (h : ∀ s, P s → Outcome Q E (f s)) : Triple P (ofFun f) Q E := h

theorem bind {x : Eff ε σ α} {f : α → Eff ε σ β} (hx : Triple P x Q E)
    (hf : ∀ a, Triple (Q a) (f a) R E) : Triple P (x >>= f) R E := by
  intro s hs
  have h := hx s hs
  rw [exec_bind]
  generalize x.exec s = r at h ⊢
  rcases r with ⟨e | a, s'⟩
  · exact h
  · exact hf a s' h

end Triple

namespace Keeps

variable {I : σ → Prop}

theorem pure (a : α) : Keeps I (pure a : Eff ε σ α) := fun _ h => h

theorem throw (e : ε) : Keeps I (throw e : Eff ε σ α) := fun _ h => h

theorem lift (x : Except ε α) : Keeps I (liftM x : Eff ε σ α) := fun _ h => h

theorem modify {f : σ → σ} (h : ∀ s, I s → I (f s)) : Keeps I (modify f : Eff ε σ Unit) := h

/-- A computation from a state after which the invariant holds, and what comes
after it. -/
theorem bind_at {x : Eff ε σ α} {f : α → Eff ε σ β} {s : σ} (hx : I (x.exec s).2)
    (hf : ∀ a, Keeps I (f a)) : I ((x >>= f).exec s).2 := by
  rw [exec_bind]
  generalize x.exec s = r at hx ⊢
  rcases r with ⟨e | a, s'⟩
  · exact hx
  · exact hf a s' hx

theorem bind {x : Eff ε σ α} {f : α → Eff ε σ β} (hx : Keeps I x) (hf : ∀ a, Keeps I (f a)) :
    Keeps I (x >>= f) := fun s hs => bind_at (hx s hs) hf

/-- What is done with a result may use which result it is. -/
theorem lift_bind {x : Except ε α} {f : α → Eff ε σ β} (hf : ∀ a, x = .ok a → Keeps I (f a)) :
    Keeps I ((liftM x : Eff ε σ α) >>= f) := by
  intro s hs
  cases x with
  | error e => exact hs
  | ok a => exact hf a rfl s hs

/-- What is done with a value may use what the triple of the computation says of
it. -/
theorem bind_of {x : Eff ε σ α} {f : α → Eff ε σ β} {P : α → Prop}
    (hx : Triple I x (fun a s => P a ∧ I s) fun _ => I) (hf : ∀ a, P a → Keeps I (f a)) :
    Keeps I (x >>= f) := by
  intro s hs
  have h := hx s hs
  rw [exec_bind]
  generalize x.exec s = r at h ⊢
  rcases r with ⟨e | a, s'⟩
  · exact h
  · exact hf a h.1 s' h.2

/-- What is done with the state that was got may use that the invariant holds
of it. -/
theorem get_bind {f : σ → Eff ε σ α} (hf : ∀ s, I s → I ((f s).exec s).2) : Keeps I (get >>= f) := hf

theorem get : Keeps I (get : Eff ε σ σ) := fun _ h => h

theorem zoom {J : τ → Prop} {part : τ → σ} {put : τ → σ → τ} {x : Eff ε σ α} (h : Keeps I x)
    (hget : ∀ t, J t → I (part t)) (hput : ∀ t s, J t → I s → J (put t s)) : Keeps J (zoom part put x) :=
  fun t ht => hput t _ ht (h _ (hget t ht))

end Keeps

end Eff
