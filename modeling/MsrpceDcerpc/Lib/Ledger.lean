import Mathlib.Data.Multiset.UnionInter
import Mathlib.Data.Multiset.Filter

/-!
# Ledgers of resources

A program acquires resources, uses them and releases them; an `Access` is one
of these. `ledger` goes through a list of accesses and keeps what is held. It
stops at one that is not proper: at a use or a release of what is not held, and
where what is held is acquired again. Accesses after which nothing is held are,
for each resource, whole lifetimes: it is acquired, used any number of times and
released once, and then perhaps acquired again (`lifetimes_of_ledger`).

An `Option R` is a slot for a resource, which may be empty: `ledger_uses`,
`ledger_acquires`, `ledger_releases` and `ledger_replace` are about what is in
one.
-/

/-- An access to a resource. -/
inductive Access (R : Type) where
  | acquire (r : R)
  | use (r : R)
  | release (r : R)
  deriving DecidableEq, Repr

namespace Access

variable {R : Type}

def resource : Access R → R
  | acquire r => r
  | use r => r
  | release r => r

variable [DecidableEq R]

/-- What is held after an access, if it is proper. -/
def apply (held : Multiset R) : Access R → Option (Multiset R)
  | acquire r => if r ∈ held then none else some (r ::ₘ held)
  | use r => if r ∈ held then some held else none
  | release r => if r ∈ held then some (held.erase r) else none

/-- What is held after some accesses. -/
def ledger (held : Multiset R) : List (Access R) → Option (Multiset R)
  | [] => some held
  | a :: accesses =>
    match a.apply held with
    | none => none
    | some held' => ledger held' accesses

/-- The accesses to one resource. -/
def accessesTo (r : R) (accesses : List (Access R)) : List (Access R) :=
  accesses.filter fun a => a.resource = r

/-- The accesses to a resource that is held at first, or is not, and that is
not held at the end. -/
inductive Lifetimes (r : R) : Bool → List (Access R) → Prop where
  | nil : Lifetimes r false []
  | acquire {accesses} : Lifetimes r true accesses → Lifetimes r false (.acquire r :: accesses)
  | use {accesses} : Lifetimes r true accesses → Lifetimes r true (.use r :: accesses)
  | release {accesses} : Lifetimes r false accesses → Lifetimes r true (.release r :: accesses)

theorem apply_acquire {r : R} {held : Multiset R} (h : r ∉ held) :
    (acquire r).apply held = some (r ::ₘ held) := if_neg h

theorem apply_use {r : R} {held : Multiset R} (h : r ∈ held) : (use r).apply held = some held :=
  if_pos h

theorem apply_release (r : R) (held : Multiset R) : (release r).apply (r ::ₘ held) = some held := by
  rw [apply, if_pos (Multiset.mem_cons_self r held), Multiset.erase_cons_head]

theorem ledger_cons {a : Access R} {held held' : Multiset R} (h : a.apply held = some held')
    (accesses : List (Access R)) : ledger held (a :: accesses) = ledger held' accesses := by
  rw [ledger, h]

theorem ledger_append {held held' : Multiset R} {accesses : List (Access R)}
    (h : ledger held accesses = some held') (more : List (Access R)) :
    ledger held (accesses ++ more) = ledger held' more := by
  induction accesses generalizing held with
  | nil =>
    cases h
    rfl
  | cons a accesses ih =>
    rw [List.cons_append, ledger] at *
    cases ha : a.apply held with
    | none => rw [ha] at h; cases h
    | some held₁ =>
      rw [ha] at h
      exact ih h

theorem apply_eq_some {a : Access R} {held held' : Multiset R} (h : a.apply held = some held') :
    (∃ r, a = acquire r ∧ r ∉ held ∧ held' = r ::ₘ held) ∨
    (∃ r, a = use r ∧ r ∈ held ∧ held' = held) ∨
    ∃ r, a = release r ∧ r ∈ held ∧ held' = held.erase r := by
  cases a with
  | acquire r =>
    obtain ⟨hr, h⟩ := Option.ite_none_left_eq_some.mp h
    exact .inl ⟨r, rfl, hr, (Option.some.inj h).symm⟩
  | use r =>
    obtain ⟨hr, h⟩ := Option.ite_none_right_eq_some.mp h
    exact .inr (.inl ⟨r, rfl, hr, (Option.some.inj h).symm⟩)
  | release r =>
    obtain ⟨hr, h⟩ := Option.ite_none_right_eq_some.mp h
    exact .inr (.inr ⟨r, rfl, hr, (Option.some.inj h).symm⟩)

theorem nodup_of_apply {a : Access R} {held held' : Multiset R} (h : a.apply held = some held')
    (hnodup : held.Nodup) : held'.Nodup := by
  obtain ⟨r, -, hr, rfl⟩ | ⟨r, -, -, rfl⟩ | ⟨r, -, -, rfl⟩ := apply_eq_some h
  · exact Multiset.nodup_cons.mpr ⟨hr, hnodup⟩
  · exact hnodup
  · exact Multiset.nodup_of_le (Multiset.erase_le r held) hnodup

/-- An access to another resource. -/
theorem mem_of_apply_of_ne {a : Access R} {held held' : Multiset R} {r : R}
    (h : a.apply held = some held') (hr : a.resource ≠ r) : r ∈ held' ↔ r ∈ held := by
  obtain ⟨s, rfl, -, rfl⟩ | ⟨s, rfl, -, rfl⟩ | ⟨s, rfl, -, rfl⟩ := apply_eq_some h
  · exact Multiset.mem_cons.trans (or_iff_right (Ne.symm hr))
  · exact Iff.rfl
  · exact Multiset.mem_erase_of_ne (Ne.symm hr)

/-- An access, and what comes after it. -/
theorem Lifetimes.of_apply {a : Access R} {held held' : Multiset R} {accesses : List (Access R)}
    (h : a.apply held = some held') (hnodup : held.Nodup)
    (hrest : Lifetimes a.resource (decide (a.resource ∈ held')) accesses) :
    Lifetimes a.resource (decide (a.resource ∈ held)) (a :: accesses) := by
  obtain ⟨r, rfl, hr, rfl⟩ | ⟨r, rfl, hr, rfl⟩ | ⟨r, rfl, hr, rfl⟩ := apply_eq_some h
  · rw [resource, decide_eq_true (Multiset.mem_cons_self r held)] at hrest
    rw [resource, decide_eq_false hr]
    exact .acquire hrest
  · rw [resource, decide_eq_true hr] at hrest ⊢
    exact .use hrest
  · rw [resource, decide_eq_false fun hmem => (hnodup.mem_erase_iff.mp hmem).1 rfl] at hrest
    rw [resource, decide_eq_true hr]
    exact .release hrest

/-- If nothing is held at the end, each resource was accessed in whole
lifetimes. -/
theorem lifetimes_of_ledger {held : Multiset R} {accesses : List (Access R)} (hnodup : held.Nodup)
    (h : ledger held accesses = some 0) (r : R) :
    Lifetimes r (decide (r ∈ held)) (accessesTo r accesses) := by
  induction accesses generalizing held with
  | nil =>
    cases h
    rw [decide_eq_false (Multiset.notMem_zero r)]
    exact .nil
  | cons a accesses ih =>
    cases ha : a.apply held with
    | none =>
      rw [ledger, ha] at h
      cases h
    | some held' =>
      rw [ledger_cons ha] at h
      have hrest := ih (nodup_of_apply ha hnodup) h
      rw [accessesTo, List.filter_cons]
      split
      · rename_i hr
        obtain rfl : a.resource = r := of_decide_eq_true hr
        exact .of_apply ha hnodup hrest
      · rename_i hr
        rw [← decide_eq_decide.mpr (mem_of_apply_of_ne ha (by simpa using hr))]
        exact hrest

/-! ## Slots -/

/-- What is in a slot. -/
def inSlot : Option R → Multiset R
  | none => 0
  | some r => {r}

/-- What is in a slot is used, or something else is put there for it. -/
def replace (slot slot' : Option R) : List (Access R) :=
  if slot = slot' then (slot.map use).toList
  else (slot.map release).toList ++ (slot'.map acquire).toList

variable {held : Multiset R} {slot slot' : Option R}

theorem ledger_uses (h : inSlot slot ≤ held) : ledger held (slot.map use).toList = some held := by
  cases slot with
  | none => rfl
  | some r => exact ledger_cons (apply_use (Multiset.singleton_le.mp h)) []

theorem ledger_acquires (h : (inSlot slot + held).Nodup) :
    ledger held (slot.map acquire).toList = some (inSlot slot + held) := by
  cases slot with
  | none => exact congrArg some (Multiset.zero_add held).symm
  | some r =>
    have hr : r ∉ held := (Multiset.nodup_cons.mp (Multiset.singleton_add r held ▸ h)).1
    rw [inSlot, Multiset.singleton_add]
    exact ledger_cons (apply_acquire hr) []

theorem ledger_releases (slot : Option R) (held : Multiset R) :
    ledger (inSlot slot + held) (slot.map release).toList = some held := by
  cases slot with
  | none => exact congrArg some (Multiset.zero_add held)
  | some r =>
    rw [inSlot, Multiset.singleton_add]
    exact ledger_cons (apply_release r held) []

theorem ledger_replace (h : (inSlot slot' + held).Nodup) :
    ledger (inSlot slot + held) (replace slot slot') = some (inSlot slot' + held) := by
  unfold replace
  split
  · rename_i heq
    rw [← heq]
    exact ledger_uses (Multiset.le_add_right _ _)
  · rw [ledger_append (ledger_releases slot held), ledger_acquires h]

end Access
