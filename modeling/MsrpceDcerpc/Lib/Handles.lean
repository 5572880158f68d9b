import Mathlib.Data.Multiset.AddSub

/-!
# What is behind handles

A library hands out handles `R`, behind each of which it keeps something: `v r` is
what is behind `r`, and `none` if `r` was not handed out. `KeepsBut touched v v'`
says that nothing has changed between `v` and `v'` but what is behind the handles
`touched`, and perhaps there are new ones (`IsNew`). What is done to handles that
are new does not count (`KeepsBut.of_fresh`).
-/

variable {R C : Type}

def KeepsBut (touched : Multiset R) (v v' : R → Option C) : Prop :=
  ∀ r c, v r = some c → r ∉ touched → v' r = some c

/-- `r` is new in `v'`, with `c` behind it. -/
structure IsNew (v v' : R → Option C) (r : R) (c : C) : Prop where
  fresh : v r = none
  content : v' r = some c

namespace KeepsBut

variable {touched touched' : Multiset R} {v v' v'' : R → Option C} {r : R}

theorem refl (touched : Multiset R) (v : R → Option C) : KeepsBut touched v v :=
  fun _ _ h _ => h

theorem trans (h : KeepsBut touched v v') (h' : KeepsBut touched' v' v'') :
    KeepsBut (touched + touched') v v'' := by
  intro r c hc hr
  rw [Multiset.mem_add, not_or] at hr
  exact h' r c (h r c hc hr.1) hr.2

theorem isSome (h : KeepsBut touched v v') (hv : (v r).isSome) (hr : r ∉ touched) : (v' r).isSome := by
  obtain ⟨c, hc⟩ := Option.isSome_iff_exists.mp hv
  rw [h r c hc hr]
  rfl

/-- A handle that is new now was not there before. -/
theorem eq_none (h : KeepsBut 0 v v') (hr : v' r = none) : v r = none := by
  cases hc : v r with
  | none => rfl
  | some c => cases (h r c hc (Multiset.notMem_zero r)).symm.trans hr

/-- Of what there was before, nothing has changed behind the handles that are new. -/
theorem of_fresh (h : KeepsBut touched v v') (hfresh : ∀ r ∈ touched, v r = none) : KeepsBut 0 v v' := by
  intro r c hc _
  refine h r c hc fun hmem => ?_
  rw [hfresh r hmem] at hc
  cases hc

end KeepsBut
