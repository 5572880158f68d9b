import Mathlib.Data.List.Basic

/-!
# Rust functions over text

`str::strip_prefix`, `str::split_once` and `str::split` with a character, on
the characters of a string, and what they find: `stripPrefix_eq_some` and
`splitOnce_eq_some` take a string apart that a function accepted. A string is
its parts with the character between them (`intercalate_split`), and has only
these (`split_intercalate`).
-/

namespace Rust

/-- The elements before and after the first `c`. -/
def splitFirst {α : Type} [DecidableEq α] (c : α) : List α → Option (List α × List α)
  | [] => none
  | x :: xs =>
    if x = c then some ([], xs) else (splitFirst c xs).map fun (before, after) => (x :: before, after)

/-- `s.strip_prefix(p)`. -/
def stripPrefix (s p : String) : Option String := (s.toList.dropPrefix? p.toList).map String.ofList

/-- `s.split_once(c)`. -/
def splitOnce (s : String) (c : Char) : Option (String × String) :=
  (splitFirst c s.toList).map fun (before, after) => (String.ofList before, String.ofList after)

/-- `s.split(c).collect()`. -/
def split (s : String) (c : Char) : List String := (s.toList.splitOn c).map String.ofList

theorem splitFirst_eq_some {α : Type} [DecidableEq α] {c : α} {xs before after : List α} :
    splitFirst c xs = some (before, after) ↔ xs = before ++ c :: after ∧ c ∉ before := by
  induction xs generalizing before with
  | nil => simp [splitFirst]
  | cons x xs ih =>
    by_cases h : x = c
    · rw [splitFirst, if_pos h, Option.some.injEq, Prod.mk.injEq]
      cases before with
      | nil => simp [h, eq_comm]
      | cons b before =>
        -- `b` is `x`, and so the `c` that `before` must not have
        simp only [reduceCtorEq, false_and, List.cons_append, List.cons.injEq, List.mem_cons, not_or,
          false_iff]
        rintro ⟨⟨hb, -⟩, hne, -⟩
        exact hne (h.symm.trans hb)
    · rw [splitFirst, if_neg h, Option.map_eq_some_iff]
      cases before with
      | nil => simp [h]
      | cons b before =>
        simp only [Prod.exists, Prod.mk.injEq, List.cons.injEq, List.cons_append, List.mem_cons, not_or]
        constructor
        · rintro ⟨before', after', hsome, ⟨rfl, rfl⟩, rfl⟩
          obtain ⟨hxs, hmem⟩ := ih.mp hsome
          exact ⟨⟨rfl, hxs⟩, Ne.symm h, hmem⟩
        · rintro ⟨⟨rfl, hxs⟩, -, hmem⟩
          exact ⟨before, after, ih.mpr ⟨hxs, hmem⟩, ⟨rfl, rfl⟩, rfl⟩

/-- What `strip_prefix` leaves of a string. -/
theorem stripPrefix_eq_some {s p rest : String} : stripPrefix s p = some rest ↔ s = p ++ rest := by
  simp only [stripPrefix, Option.map_eq_some_iff, List.dropPrefix?_eq_some_iff, beq_iff_eq,
    exists_eq_right]
  constructor
  · rintro ⟨cs, hcs, rfl⟩
    rw [← String.toList_inj, String.toList_append, String.toList_ofList, hcs]
  · rintro rfl
    exact ⟨rest.toList, String.toList_append, String.ofList_toList⟩

/-- The characters of two strings with `c` between them. -/
theorem toList_joined (s rest : String) (c : Char) :
    (s ++ String.singleton c ++ rest).toList = s.toList ++ c :: rest.toList := by
  simp only [String.toList_append, String.toList_singleton, List.append_assoc, List.singleton_append]

/-- What `split_once` finds: the first occurrence. -/
theorem splitOnce_eq_some {s before after : String} {c : Char} :
    splitOnce s c = some (before, after) ↔
      s = before ++ String.singleton c ++ after ∧ c ∉ before.toList := by
  simp only [splitOnce, Option.map_eq_some_iff, Prod.exists, splitFirst_eq_some, Prod.mk.injEq]
  constructor
  · rintro ⟨b, a, ⟨hs, hmem⟩, rfl, rfl⟩
    rw [← String.toList_inj, toList_joined, String.toList_ofList, String.toList_ofList]
    exact ⟨hs, hmem⟩
  · rintro ⟨rfl, hmem⟩
    exact ⟨before.toList, after.toList, ⟨toList_joined before after c, hmem⟩, String.ofList_toList,
      String.ofList_toList⟩

/-! ## Parts -/

theorem not_mem_of_mem_splitOn {α : Type} [DecidableEq α] {c : α} {xs part : List α}
    (h : part ∈ xs.splitOn c) : c ∉ part := by
  induction xs generalizing part with
  | nil =>
    rw [List.splitOn_nil, List.mem_singleton] at h
    rw [h]
    exact List.not_mem_nil
  | cons x xs ih =>
    rw [List.splitOn_cons_eq_if_modifyHead] at h
    split at h
    · rcases List.mem_cons.mp h with rfl | h
      · exact List.not_mem_nil
      · exact ih h
    · rename_i hne
      -- `x` goes to the first part
      obtain ⟨first, rest, hsplit⟩ := List.exists_cons_of_ne_nil (List.splitOn_ne_nil c xs)
      rw [hsplit, List.modifyHead_cons] at h
      rcases List.mem_cons.mp h with rfl | h
      · rw [List.mem_cons, not_or]
        exact ⟨fun hx => hne (beq_iff_eq.mpr hx.symm), ih (hsplit ▸ List.mem_cons_self)⟩
      · exact ih (hsplit ▸ List.mem_cons_of_mem first h)

/-- The parts do not contain the character the string was split at. -/
theorem not_mem_of_mem_split {s part : String} {c : Char} (h : part ∈ split s c) :
    c ∉ part.toList := by
  obtain ⟨cs, hcs, rfl⟩ := List.mem_map.mp h
  rw [String.toList_ofList]
  exact not_mem_of_mem_splitOn hcs

theorem intercalate_split (s : String) (c : Char) :
    (String.singleton c).intercalate (split s c) = s := by
  have hparts : (split s c).map String.toList = s.toList.splitOn c := by
    rw [split, List.map_map]
    exact List.map_id'' (fun _ => String.toList_ofList) _
  rw [← String.toList_inj, String.toList_intercalate, String.toList_singleton, hparts,
    List.intercalate_splitOn]

theorem split_intercalate {parts : List String} {c : Char} (hne : parts ≠ [])
    (h : ∀ s ∈ parts, c ∉ s.toList) : split ((String.singleton c).intercalate parts) c = parts := by
  have hlist : (parts.map String.toList).map String.ofList = parts := by
    rw [List.map_map]
    exact List.map_id'' (fun _ => String.ofList_toList) _
  rw [split, String.toList_intercalate, String.toList_singleton, List.splitOn_intercalate, hlist]
  · exact List.forall_mem_map.mpr h
  · exact mt List.map_eq_nil_iff.mp hne

end Rust
