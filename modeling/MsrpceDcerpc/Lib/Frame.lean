import Mathlib.Data.List.Basic

/-!
# Frames of a stream

A `Framing` reads the length of a frame from the front of a list. `frames`
cuts a list into the frames it begins with and a rest that does not begin with
a whole one.

Cutting a stream piece by piece, as it comes in, gives the frames of the whole
stream (`frames_append`, `feedAll_eq`), whichever the pieces are, and a list of
frames is determined by their concatenation (`eq_of_flatten_eq`).
-/

/-- How long the frame is that a list begins with: known from some of its front
on, and from no more than the frame. -/
structure Framing (α : Type) where
  size : List α → Option Nat
  size_pos : ∀ {xs n}, size xs = some n → 0 < n
  size_append : ∀ {xs n} ys, size xs = some n → size (xs ++ ys) = some n
  size_take : ∀ {xs n}, size xs = some n → n ≤ xs.length → size (xs.take n) = some n

namespace Framing

variable {α : Type} (F : Framing α)

/-- One whole frame and nothing else. -/
def IsFrame (xs : List α) : Prop := F.size xs = some xs.length

instance (xs : List α) : Decidable (F.IsFrame xs) := inferInstanceAs (Decidable (_ = _))

/-- The first frame, and what follows it. -/
def next (xs : List α) : Option (List α × List α) :=
  match F.size xs with
  | none => none
  | some n => if n ≤ xs.length then some (xs.take n, xs.drop n) else none

variable {F} {xs f rest : List α}

theorem next_eq_some : F.next xs = some (f, rest) ↔ F.IsFrame f ∧ xs = f ++ rest := by
  unfold next IsFrame
  constructor
  · intro h
    split at h
    · cases h
    rename_i n hn
    split at h
    · rename_i hle
      cases h
      refine ⟨?_, (List.take_append_drop n xs).symm⟩
      rw [List.length_take_of_le hle]
      exact F.size_take hn hle
    · cases h
  · rintro ⟨hf, rfl⟩
    rw [F.size_append rest hf]
    dsimp only
    rw [if_pos (by rw [List.length_append]; exact Nat.le_add_right _ _), List.take_left, List.drop_left]

theorem IsFrame.length_pos (h : F.IsFrame f) : 0 < f.length := F.size_pos h

theorem length_lt_of_next (h : F.next xs = some (f, rest)) : rest.length < xs.length := by
  obtain ⟨hf, rfl⟩ := next_eq_some.mp h
  rw [List.length_append]
  exact Nat.lt_add_of_pos_left hf.length_pos

variable (F) in
/-- The frames a list begins with, and the rest. -/
def frames (xs : List α) : List (List α) × List α :=
  match _h : F.next xs with
  | none => ([], xs)
  | some (f, rest) => (f :: (frames rest).1, (frames rest).2)
termination_by xs.length
decreasing_by all_goals exact length_lt_of_next _h

theorem frames_of_none (h : F.next xs = none) : F.frames xs = ([], xs) := by
  rw [frames]
  split
  · rfl
  · rename_i h'
    cases h.symm.trans h'

theorem frames_of_some (h : F.next xs = some (f, rest)) :
    F.frames xs = (f :: (F.frames rest).1, (F.frames rest).2) := by
  rw [frames]
  split
  · rename_i h'
    cases h.symm.trans h'
  · rename_i h'
    cases h.symm.trans h'
    rfl

theorem frames_append_frame (hf : F.IsFrame f) (rest : List α) :
    F.frames (f ++ rest) = (f :: (F.frames rest).1, (F.frames rest).2) :=
  frames_of_some (next_eq_some.mpr ⟨hf, rfl⟩)

/-- Induction on a list as `frames` goes through it. -/
theorem frames_induct {P : List α → Prop} (none : ∀ xs, F.next xs = none → P xs)
    (some : ∀ f rest, F.IsFrame f → P rest → P (f ++ rest)) (xs : List α) : P xs := by
  induction hn : xs.length using Nat.strongRecOn generalizing xs with
  | _ n ih =>
    rcases h : F.next xs with _ | ⟨f, rest⟩
    · exact none xs h
    · have hlt := length_lt_of_next h
      obtain ⟨hf, rfl⟩ := next_eq_some.mp h
      exact some f rest hf (ih _ (hn ▸ hlt) rest rfl)

/-- Nothing is lost. -/
theorem flatten_frames (xs : List α) : (F.frames xs).1.flatten ++ (F.frames xs).2 = xs := by
  induction xs using frames_induct (F := F) with
  | none xs h =>
    rw [frames_of_none h]
    rfl
  | some f rest hf ih => rw [frames_append_frame hf, List.flatten_cons, List.append_assoc, ih]

theorem isFrame_of_mem_frames (xs : List α) : ∀ f ∈ (F.frames xs).1, F.IsFrame f := by
  induction xs using frames_induct (F := F) with
  | none xs h =>
    rw [frames_of_none h]
    exact fun f hf => by cases hf
  | some f rest hf ih =>
    rw [frames_append_frame hf]
    exact List.forall_mem_cons.mpr ⟨hf, ih⟩

/-- What is left does not begin with a whole frame. -/
theorem next_rest (xs : List α) : F.next (F.frames xs).2 = none := by
  induction xs using frames_induct (F := F) with
  | none xs h => rwa [frames_of_none h]
  | some f rest hf ih => rwa [frames_append_frame hf]

/-- Of a list that comes in two parts the frames of the first part are frames of
the whole, and what is left of it comes before the second part. -/
theorem frames_append (xs ys : List α) :
    F.frames (xs ++ ys) = ((F.frames xs).1 ++ (F.frames ((F.frames xs).2 ++ ys)).1,
      (F.frames ((F.frames xs).2 ++ ys)).2) := by
  induction xs using frames_induct (F := F) with
  | none xs h => rw [frames_of_none h, List.nil_append]
  | some f rest hf ih =>
    rw [List.append_assoc, frames_append_frame hf, frames_append_frame hf, ih, List.cons_append]

theorem frames_flatten_append {fs : List (List α)} (hfs : ∀ f ∈ fs, F.IsFrame f) (tail : List α) :
    F.frames (fs.flatten ++ tail) = (fs ++ (F.frames tail).1, (F.frames tail).2) := by
  induction fs with
  | nil => rfl
  | cons f fs ih =>
    obtain ⟨hf, hrest⟩ := List.forall_mem_cons.mp hfs
    rw [List.flatten_cons, List.append_assoc, frames_append_frame hf, ih hrest, List.cons_append]

theorem next_nil : F.next [] = none := by
  rcases h : F.next [] with _ | ⟨f, rest⟩
  · rfl
  · cases length_lt_of_next h

theorem frames_flatten {fs : List (List α)} (hfs : ∀ f ∈ fs, F.IsFrame f) :
    F.frames fs.flatten = (fs, []) := by
  have h := frames_flatten_append hfs []
  rwa [List.append_nil, frames_of_none next_nil, List.append_nil] at h

/-! ## Pieces -/

variable (F) in
/-- The frames that are complete once the pieces have come in, after `pending`,
and what is left then. -/
def feedAll (pending : List α) : List (List α) → List (List α) × List α
  | [] => ([], pending)
  | piece :: pieces =>
    let (fs, rest) := F.frames (pending ++ piece)
    (fs ++ (feedAll rest pieces).1, (feedAll rest pieces).2)

/-- Whatever the pieces of a stream, its frames are those of the whole. -/
theorem feedAll_eq {pending : List α} (h : F.next pending = none) (pieces : List (List α)) :
    F.feedAll pending pieces = F.frames (pending ++ pieces.flatten) := by
  induction pieces generalizing pending with
  | nil => rw [List.flatten_nil, List.append_nil, frames_of_none h, feedAll]
  | cons piece pieces ih =>
    rw [feedAll, List.flatten_cons, ← List.append_assoc, frames_append (pending ++ piece),
      ← ih (next_rest _)]

end Framing
