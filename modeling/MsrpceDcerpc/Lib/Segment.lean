import Mathlib.Data.List.Basic

/-!
# Segments of a list

`At xs i seg` says that the elements of `xs` from offset `i` on start with
`seg`. It is what a read of a parser at a fixed offset finds out, and the
layout of a record is one `At` of a concatenation: `at_append` and
`at_cons_cons` turn the one into the others, so that reading a record back
and taking apart what a parser accepted are the same equivalence.
-/

namespace Segment

variable {α : Type}

/-- From offset `i` on, `xs` starts with `seg`. -/
def At (xs : List α) (i : Nat) (seg : List α) : Prop := seg <+: xs.drop i

theorem at_iff_take {xs seg : List α} {i : Nat} : At xs i seg ↔ (xs.drop i).take seg.length = seg :=
  List.prefix_iff_eq_take.trans eq_comm

theorem at_nil (xs : List α) (i : Nat) : At xs i [] := List.nil_prefix

theorem at_append {xs a b : List α} {i : Nat} :
    At xs i (a ++ b) ↔ At xs i a ∧ At xs (i + a.length) b := by
  unfold At
  rw [← List.drop_drop]
  constructor
  · rintro ⟨rest, h⟩
    rw [← h, List.append_assoc, List.drop_left]
    exact ⟨List.prefix_append _ _, List.prefix_append _ _⟩
  · rintro ⟨⟨rest, h⟩, hb⟩
    rw [← h, List.drop_left] at hb
    rw [← h]
    exact List.prefix_append_right_inj a |>.mpr hb

theorem at_cons_cons {xs seg : List α} {i : Nat} {x y : α} :
    At xs i (x :: y :: seg) ↔ At xs i [x] ∧ At xs (i + 1) (y :: seg) :=
  at_append (a := [x])

theorem at_singleton {xs : List α} {i : Nat} {x : α} : At xs i [x] ↔ xs[i]? = some x := by
  unfold At
  rw [← List.head?_drop]
  cases xs.drop i with
  | nil => simp
  | cons y ys => simp [eq_comm]

/-- A segment after a prefix of known length. -/
theorem at_append_right {pre xs seg : List α} {i : Nat} (h : pre.length ≤ i) :
    At (pre ++ xs) i seg ↔ At xs (i - pre.length) seg := by
  unfold At
  rw [List.drop_append, List.drop_of_length_le h, List.nil_append]

theorem At.of_append {xs a b : List α} {i : Nat} (h : At xs i (a ++ b)) : At xs i a :=
  (at_append.mp h).1

theorem At.length_le {xs seg : List α} {i : Nat} (h : At xs i seg) (hi : i ≤ xs.length) :
    i + seg.length ≤ xs.length := by
  have := List.IsPrefix.length_le h
  rw [List.length_drop] at this
  omega

/-- A segment that is not empty lies inside the list. -/
theorem At.length_le_of_pos {xs seg : List α} {i : Nat} (h : At xs i seg) (hpos : 0 < seg.length) :
    i + seg.length ≤ xs.length := by
  have := List.IsPrefix.length_le h
  rw [List.length_drop] at this
  omega

/-- A segment that reaches the end is all there is from its offset on. -/
theorem At.drop_eq {xs seg : List α} {i : Nat} (h : At xs i seg) (hl : xs.length ≤ i + seg.length) :
    xs.drop i = seg := by
  rw [at_iff_take] at h
  rw [← h, List.take_of_length_le]
  rw [List.length_drop]
  omega

theorem at_drop (xs : List α) (i : Nat) : At xs i (xs.drop i) := List.prefix_rfl

theorem at_take_drop (xs : List α) (i n : Nat) : At xs i ((xs.drop i).take n) := List.take_prefix _ _

theorem at_zero_self (xs : List α) : At xs 0 xs := List.prefix_rfl

theorem at_zero_append (xs ys : List α) : At (xs ++ ys) 0 xs := List.prefix_append _ _

/-- What follows a list has no part in its segments. -/
theorem at_zero_append_iff {xs ys seg : List α} (h : seg.length ≤ xs.length) :
    At (xs ++ ys) 0 seg ↔ At xs 0 seg := by
  rw [at_iff_take, at_iff_take, List.drop_zero, List.drop_zero, List.take_append_of_le_length h]

theorem exists_at_singleton {xs : List α} {i : Nat} (h : i < xs.length) : ∃ x, At xs i [x] :=
  ⟨xs[i], at_singleton.mpr (List.getElem?_eq_getElem h)⟩

/-- A head of known length and all the rest. -/
theorem eq_append_iff {xs head rest : List α} :
    xs = head ++ rest ↔ head.length ≤ xs.length ∧ At xs 0 head ∧ xs.drop head.length = rest := by
  constructor
  · rintro rfl
    exact ⟨by rw [List.length_append]; omega, at_zero_append _ _, List.drop_left⟩
  · rintro ⟨-, ⟨ys, h⟩, rfl⟩
    obtain rfl : head ++ ys = xs := h
    rw [List.drop_left]

/-- A segment at offset 0 that is as long as the list is the list. -/
theorem At.eq_of_length {xs seg : List α} (h : At xs 0 seg) (hl : xs.length ≤ seg.length) :
    xs = seg := by
  have := h.drop_eq (by omega)
  rwa [List.drop_zero] at this

/-- Replacing a segment by one of its length changes nothing else. -/
theorem getElem?_replace {pre a b post : List α} (i : Nat) (hl : a.length = b.length) :
    (pre ++ b ++ post)[i]? =
      if pre.length ≤ i ∧ i < pre.length + b.length then b[i - pre.length]?
      else (pre ++ a ++ post)[i]? := by
  rw [List.append_assoc, List.append_assoc]
  by_cases h₁ : i < pre.length
  · rw [if_neg (by omega), List.getElem?_append_left h₁, List.getElem?_append_left h₁]
  have h₁ : pre.length ≤ i := by omega
  rw [List.getElem?_append_right h₁, List.getElem?_append_right h₁]
  by_cases h₂ : i < pre.length + b.length
  · rw [if_pos ⟨h₁, h₂⟩, List.getElem?_append_left (by omega)]
  · rw [if_neg (by omega), List.getElem?_append_right (by omega),
      List.getElem?_append_right (by omega), hl]

theorem length_flatMap_of_length {β : Type} {f : α → List β} {n : Nat} (h : ∀ a, (f a).length = n)
    (l : List α) : (l.flatMap f).length = l.length * n := by
  simp only [List.length_flatMap, h, List.map_const', List.sum_replicate_nat]

/-- Two ways to write the elements of a list, of one length, that write the same
list write the same elements. -/
theorem forall_mem_eq_of_flatMap_eq {β : Type} {f g : α → List β} {l : List α}
    (hlen : ∀ a, (f a).length = (g a).length) (h : l.flatMap f = l.flatMap g) :
    ∀ a ∈ l, f a = g a := by
  induction l with
  | nil => exact fun a ha => absurd ha List.not_mem_nil
  | cons a l ih =>
    obtain ⟨ha, hl⟩ := List.append_inj h (hlen a)
    exact List.forall_mem_cons.mpr ⟨ha, ih hl⟩

end Segment
