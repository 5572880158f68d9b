import Mathlib.Logic.Basic

/-!
# Computations that keep their state when they fail

`Eff ε σ α` is a computation over a state `σ` that ends with a value or with
an `ε`, and in a final state in both cases: what a method on `&mut self`
with a `Result` does. `exec` runs one, and the `exec` of a sequence is that of
its parts, in both directions: `exec_bind_of_ok` and `exec_bind_of_error`
compute it, `exec_bind_eq_ok` takes one that succeeded apart. `zoom` moves a
computation to a state that has `σ` as a part.
-/

/-- Computations over `σ` ending with an `α` or an `ε`. -/
abbrev Eff (ε σ α : Type) := ExceptT ε (StateM σ) α

namespace Eff

variable {ε σ τ α β : Type}

/-- The result and the final state of `x` from `s`. -/
def exec (x : Eff ε σ α) (s : σ) : Except ε α × σ := x.run s

/-- The computation that `f` describes. -/
def ofFun (f : σ → Except ε α × σ) : Eff ε σ α := ExceptT.mk f

/-- `x` on the part `get` of a state, replaced by `put`. -/
def zoom (get : τ → σ) (put : τ → σ → τ) (x : Eff ε σ α) : Eff ε τ α :=
  ofFun fun t => ((x.exec (get t)).1, put t (x.exec (get t)).2)

@[simp] theorem exec_ofFun (f : σ → Except ε α × σ) (s : σ) : (ofFun f).exec s = f s := rfl

theorem exec_zoom {get : τ → σ} {put : τ → σ → τ} {x : Eff ε σ α} {t : τ} {r : Except ε α} {s : σ}
    (h : x.exec (get t) = (r, s)) : (zoom get put x).exec t = (r, put t s) := by
  rw [zoom, exec_ofFun, h]

@[simp] theorem exec_throw (e : ε) (s : σ) : (throw e : Eff ε σ α).exec s = (.error e, s) := rfl

@[simp] theorem exec_lift (x : Except ε α) (s : σ) : (liftM x : Eff ε σ α).exec s = (x, s) := rfl

@[simp] theorem exec_get (s : σ) : (get : Eff ε σ σ).exec s = (.ok s, s) := rfl

theorem exec_bind (x : Eff ε σ α) (f : α → Eff ε σ β) (s : σ) :
    (x >>= f).exec s = match x.exec s with
      | (.ok a, s') => (f a).exec s'
      | (.error e, s') => (.error e, s') := by
  show (ExceptT.bind x f).run s = _
  unfold exec
  show (ExceptT.bindCont f (x.run s).1) (x.run s).2 = _
  rcases x.run s with ⟨a | e, s'⟩ <;> rfl

theorem exec_bind_of_ok {x : Eff ε σ α} {f : α → Eff ε σ β} {s s' : σ} {a : α}
    (h : x.exec s = (.ok a, s')) : (x >>= f).exec s = (f a).exec s' := by
  rw [exec_bind, h]

theorem exec_bind_of_error {x : Eff ε σ α} {f : α → Eff ε σ β} {s s' : σ} {e : ε}
    (h : x.exec s = (.error e, s')) : (x >>= f).exec s = (.error e, s') := by
  rw [exec_bind, h]

theorem exec_lift_bind_of_ok {x : Except ε α} {f : α → Eff ε σ β} {a : α} (h : x = .ok a) (s : σ) :
    ((liftM x : Eff ε σ α) >>= f).exec s = (f a).exec s := exec_bind_of_ok (by rw [exec_lift, h])

theorem exec_lift_bind_of_error {x : Except ε α} {f : α → Eff ε σ β} {e : ε} (h : x = .error e)
    (s : σ) : ((liftM x : Eff ε σ α) >>= f).exec s = (.error e, s) :=
  exec_bind_of_error (by rw [exec_lift, h])

/-- A sequence that ends with a value: so did its two parts. -/
theorem exec_bind_eq_ok {x : Eff ε σ α} {f : α → Eff ε σ β} {s s'' : σ} {b : β}
    (h : (x >>= f).exec s = (.ok b, s'')) :
    ∃ a s', x.exec s = (.ok a, s') ∧ (f a).exec s' = (.ok b, s'') := by
  rw [exec_bind] at h
  split at h
  · rename_i a s' hx
    exact ⟨a, s', hx, h⟩
  · cases h

theorem exec_lift_bind_eq_ok {x : Except ε α} {f : α → Eff ε σ β} {s s'' : σ} {b : β}
    (h : ((liftM x : Eff ε σ α) >>= f).exec s = (.ok b, s'')) :
    ∃ a, x = .ok a ∧ (f a).exec s = (.ok b, s'') := by
  cases x with
  | error e => cases (exec_lift_bind_of_error rfl s).symm.trans h
  | ok a => exact ⟨a, rfl, (exec_lift_bind_of_ok rfl s).symm.trans h⟩

end Eff
