import Mathlib.Data.List.Basic

/-!
# Cutting a list into pieces

`chunks n xs` is `xs` in pieces of length `n`, the last of them shorter or
not; an empty list is one empty piece. Sending a message in fragments sends
its `chunks`: they are the message (`flatten_chunks`) and none is longer than
the first (`length_le_of_mem_chunks`).

`marked first last xs` pairs each piece with a mark: `first` for the first,
`last` for the last, joined by `join` where they are one.
-/

namespace Chunk

variable {α β : Type}

/-- `xs` in pieces of length `n`. -/
def chunks (n : Nat) (xs : List α) : List (List α) :=
  if n = 0 ∨ xs.length ≤ n then [xs] else xs.take n :: chunks n (xs.drop n)
termination_by xs.length
decreasing_by
  rw [List.length_drop]
  omega

theorem chunks_of_le {n : Nat} {xs : List α} (h : xs.length ≤ n) : chunks n xs = [xs] := by
  rw [chunks, if_pos (.inr h)]

theorem chunks_of_lt {n : Nat} {xs : List α} (hn : 0 < n) (h : n < xs.length) :
    chunks n xs = xs.take n :: chunks n (xs.drop n) := by
  rw [chunks, if_neg (by omega)]

theorem chunks_ne_nil (n : Nat) (xs : List α) : chunks n xs ≠ [] := by
  rw [chunks]
  split
  · exact List.cons_ne_nil _ _
  · exact List.cons_ne_nil _ _

@[simp] theorem isEmpty_chunks (n : Nat) (xs : List α) : (chunks n xs).isEmpty = false := by
  rw [List.isEmpty_eq_false_iff]
  exact chunks_ne_nil n xs

theorem flatten_chunks (n : Nat) (xs : List α) : (chunks n xs).flatten = xs := by
  induction xs using chunks.induct n with
  | case1 xs h =>
    rw [chunks, if_pos h]
    exact List.append_nil xs
  | case2 xs h ih => rw [chunks, if_neg h, List.flatten_cons, ih, List.take_append_drop]

/-- The first piece is as long as the list and `n` allow. -/
theorem exists_chunks_eq_cons {n : Nat} (hn : 0 < n) (xs : List α) :
    ∃ c cs, chunks n xs = c :: cs ∧ c.length = min n xs.length := by
  by_cases h : xs.length ≤ n
  · exact ⟨xs, [], chunks_of_le h, by omega⟩
  · exact ⟨_, _, chunks_of_lt hn (by omega), List.length_take⟩

/-- No piece is longer than the first. -/
theorem length_le_of_mem_chunks {n : Nat} (hn : 0 < n) {xs c : List α} (hc : c ∈ chunks n xs) :
    c.length ≤ min n xs.length := by
  induction xs using chunks.induct n with
  | case1 xs h =>
    rw [chunks, if_pos h, List.mem_singleton] at hc
    rw [hc]
    omega
  | case2 xs h ih =>
    rw [chunks, if_neg h] at hc
    rcases List.mem_cons.mp hc with rfl | hc
    · exact Nat.le_of_eq List.length_take
    · have := ih hc
      rw [List.length_drop] at this
      omega

/-- All pieces but the last are full. -/
theorem length_of_getElem?_chunks {n : Nat} {xs c : List α} {i : Nat}
    (hc : (chunks n xs)[i]? = some c) (hi : i + 1 < (chunks n xs).length) : c.length = n := by
  induction xs using chunks.induct n generalizing i with
  | case1 xs h =>
    rw [chunks, if_pos h] at hi
    exact absurd hi (Nat.not_lt.mpr (Nat.le_add_left 1 i))
  | case2 xs h ih =>
    rw [chunks, if_neg h] at hc hi
    cases i with
    | zero =>
      rw [← Option.some.inj hc, List.length_take]
      omega
    | succ i => exact ih hc (Nat.lt_of_succ_lt_succ hi)

/-- The number of pieces. -/
theorem length_chunks {n : Nat} (hn : 0 < n) (xs : List α) :
    (chunks n xs).length = max 1 ((xs.length + n - 1) / n) := by
  induction xs using chunks.induct n with
  | case1 xs h =>
    have hle : (xs.length + n - 1) / n ≤ 1 := by
      rw [Nat.div_le_iff_le_mul hn]
      omega
    rw [chunks, if_pos h, List.length_singleton]
    omega
  | case2 xs h ih =>
    have hlen : xs.length + n - 1 = (xs.length - n + n - 1) + n := by omega
    have hpos : 0 < (xs.length - n + n - 1) / n := Nat.div_pos (by omega) hn
    rw [chunks, if_neg h, List.length_cons, ih, List.length_drop, hlen, Nat.add_div_right _ hn]
    omega

/-! ## Marks -/

/-- Each piece with its mark: the first with `first`, the last with `last`,
and what is neither with `none`, all joined by `join`. -/
def marked (join : β → β → β) (none last : β) : β → List α → List (β × α)
  | _, [] => []
  | first, x :: xs =>
    (join first (if xs.isEmpty then last else none), x) :: marked join none last none xs

@[simp] theorem map_snd_marked (join : β → β → β) (none last first : β) (xs : List α) :
    (marked join none last first xs).map Prod.snd = xs := by
  induction xs generalizing first with
  | nil => rfl
  | cons x xs ih => rw [marked, List.map_cons, ih]

/-- The mark of a piece says whether it is the first and whether it is the last. -/
theorem getElem?_marked (join : β → β → β) (none last first : β) (xs : List α) (i : Nat) :
    (marked join none last first xs)[i]? = xs[i]?.map fun x =>
      (join (if i = 0 then first else none) (if i + 1 = xs.length then last else none), x) := by
  induction xs generalizing first i with
  | nil => rfl
  | cons x xs ih =>
    rw [marked]
    cases i with
    | zero =>
      have hlast : (0 + 1 = (x :: xs).length) ↔ xs.isEmpty = true := by
        rw [List.length_cons, List.isEmpty_iff, ← List.length_eq_zero_iff]
        omega
      simp only [List.getElem?_cons_zero, Option.map_some, if_true, hlast]
    | succ i =>
      have hmark : (if i = 0 then none else none) = none := ite_self _
      simp only [List.getElem?_cons_succ, ih, hmark, List.length_cons, Nat.add_right_cancel_iff,
        Nat.add_one_ne_zero, if_false]

theorem mem_of_mem_marked {join : β → β → β} {none last first : β} {xs : List α} {m : β × α}
    (h : m ∈ marked join none last first xs) : m.2 ∈ xs := by
  rw [← map_snd_marked join none last first xs]
  exact List.mem_map_of_mem h

end Chunk
