import Mathlib.Data.List.Basic

/-!
# Properties of the positions of a list

`Everywhere P l`: each element of `l` has the property `P` where it is, with what
is before it and what is after it. The property of an append is that of its two
parts, each with the other part beside it (`Everywhere.append_iff`).
-/

variable {α : Type}

def Everywhere (P : List α → α → List α → Prop) (l : List α) : Prop :=
  ∀ before x after, l = before ++ x :: after → P before x after

namespace Everywhere

variable {P Q : List α → α → List α → Prop} {l l₁ l₂ : List α} {x : α}

theorem nil : Everywhere P [] := by
  intro before x after h
  cases before <;> cases h

theorem append_iff : Everywhere P (l₁ ++ l₂) ↔
    Everywhere (fun before x after => P before x (after ++ l₂)) l₁ ∧
      Everywhere (fun before => P (l₁ ++ before)) l₂ := by
  constructor
  · intro h
    constructor
    · rintro before x after rfl
      exact h before x (after ++ l₂) (by simp)
    · rintro before x after rfl
      exact h (l₁ ++ before) x after (by simp)
  · rintro ⟨h₁, h₂⟩ before x after h
    rcases List.append_eq_append_iff.mp h with ⟨rest, rfl, hrest⟩ | ⟨rest, hl₁, hrest⟩
    · exact h₂ rest x after hrest
    · cases rest with
      | nil =>
        obtain rfl : l₁ = before := by simpa using hl₁
        simpa using h₂ [] x after hrest.symm
      | cons y rest =>
        obtain ⟨rfl, rfl⟩ := List.cons.inj hrest
        exact h₁ before x rest hl₁

theorem singleton_iff : Everywhere P [x] ↔ P [] x [] := by
  constructor
  · exact fun h => h [] x [] rfl
  · intro h before y after hl
    cases before with
    | nil =>
      cases hl
      exact h
    | cons z before => cases before <;> cases hl

theorem cons_iff : Everywhere P (x :: l) ↔ P [] x l ∧ Everywhere (fun before => P (x :: before)) l := by
  rw [← List.singleton_append, append_iff, singleton_iff]
  rfl

theorem mono (h : Everywhere P l) (hPQ : ∀ before x after, P before x after → Q before x after) :
    Everywhere Q l := fun before x after hl => hPQ before x after (h before x after hl)

/-- The last element, with nothing after it. -/
theorem last (h : Everywhere P l) (hx : l.getLast? = some x) : ∃ before, P before x [] := by
  obtain ⟨before, rfl⟩ := List.getLast?_eq_some_iff.mp hx
  exact ⟨before, h before x [] rfl⟩

end Everywhere
