import Mathlib.Data.List.Basic

/-!
# Answers in their places

Some elements of a list are answered by `f` where they are, and the others by
the elements of a second list, in order. `fill f xs ys` are the answers, each in
the place of what it answers: without those of `f` the two lists fit together as
the second list does with what `f` leaves (`filter_zip_fill`).
-/

namespace Interleave

variable {α β : Type} {f : α → Option β} {xs : List α} {ys : List β}

/-- What `f` does not answer. -/
def rest (f : α → Option β) (xs : List α) : List α := xs.filter fun x => (f x).isNone

def fill (f : α → Option β) : List α → List β → List β
  | [], _ => []
  | x :: xs, ys =>
    match f x, ys with
    | some b, ys => b :: fill f xs ys
    | none, y :: ys => y :: fill f xs ys
    | none, [] => []

/-- `ys` has an answer for each element that `f` leaves, and no more. -/
inductive Answers (f : α → Option β) : List α → List β → Prop where
  | nil : Answers f [] []
  | answered {x b xs ys} : f x = some b → Answers f xs ys → Answers f (x :: xs) ys
  | left {x y xs ys} : f x = none → Answers f xs ys → Answers f (x :: xs) (y :: ys)

theorem rest_cons_some {x : α} {b : β} (h : f x = some b) : rest f (x :: xs) = rest f xs := by
  rw [rest, List.filter_cons, h]
  rfl

theorem rest_cons_none {x : α} (h : f x = none) : rest f (x :: xs) = x :: rest f xs := by
  rw [rest, List.filter_cons, h]
  rfl

theorem fill_cons_some {x : α} {b : β} (h : f x = some b) :
    fill f (x :: xs) ys = b :: fill f xs ys := by simp only [fill, h]

theorem fill_cons_none {x : α} {y : β} (h : f x = none) :
    fill f (x :: xs) (y :: ys) = y :: fill f xs ys := by simp only [fill, h]

theorem answers_of_length (h : ys.length = (rest f xs).length) : Answers f xs ys := by
  induction xs generalizing ys with
  | nil =>
    rw [List.length_eq_zero_iff.mp h]
    exact .nil
  | cons x xs ih =>
    cases hx : f x with
    | some b =>
      rw [rest_cons_some hx] at h
      exact .answered hx (ih h)
    | none =>
      rw [rest_cons_none hx] at h
      cases ys with
      | nil => cases h
      | cons y ys => exact .left hx (ih (Nat.succ.inj h))

namespace Answers

/-- Every element has an answer. -/
theorem length_fill (h : Answers f xs ys) : (fill f xs ys).length = xs.length := by
  induction h with
  | nil => rfl
  | answered hx _ ih => rw [fill_cons_some hx, List.length_cons, ih, List.length_cons]
  | left hx _ ih => rw [fill_cons_none hx, List.length_cons, ih, List.length_cons]

/-- No answer of the second list is lost. -/
theorem mem_fill (h : Answers f xs ys) {y : β} (hy : y ∈ ys) : y ∈ fill f xs ys := by
  induction h with
  | nil => cases hy
  | answered hx _ ih =>
    rw [fill_cons_some hx]
    exact List.mem_cons_of_mem _ (ih hy)
  | left hx _ ih =>
    rw [fill_cons_none hx]
    rcases List.mem_cons.mp hy with rfl | hy
    · exact List.mem_cons_self
    · exact List.mem_cons_of_mem _ (ih hy)

/-- What `f` answers has its answer at its place. -/
theorem getElem?_fill (h : Answers f xs ys) {i : Nat} {x : α} {b : β} (hi : xs[i]? = some x)
    (hx : f x = some b) : (fill f xs ys)[i]? = some b := by
  induction h generalizing i with
  | nil => cases hi
  | answered hx' _ ih =>
    rw [fill_cons_some hx']
    cases i with
    | zero =>
      cases hi
      rw [List.getElem?_cons_zero, ← hx, hx']
    | succ i => exact ih hi
  | left hx' _ ih =>
    rw [fill_cons_none hx']
    cases i with
    | zero =>
      cases hi
      cases hx.symm.trans hx'
    | succ i => exact ih hi

/-- Of the pairs with a property that no answer of `f` has, none is new. -/
theorem filter_zip_fill (h : Answers f xs ys) {p : β × α → Bool}
    (hp : ∀ x b, f x = some b → p (b, x) = false) :
    ((fill f xs ys).zip xs).filter p = (ys.zip (rest f xs)).filter p := by
  induction h with
  | nil => rfl
  | answered hx _ ih =>
    rw [fill_cons_some hx, rest_cons_some hx, List.zip_cons_cons, List.filter_cons_of_neg, ih]
    rw [hp _ _ hx]
    exact Bool.false_ne_true
  | left hx _ ih =>
    rw [fill_cons_none hx, rest_cons_none hx, List.zip_cons_cons, List.zip_cons_cons,
      List.filter_cons, List.filter_cons, ih]

end Answers

end Interleave
