import Mathlib.Data.Nat.Find
import MsrpceDcerpc.Model.Bind

/-!
# The selected context

`accepted_context` goes through the results and the proposed contexts at once.
What it returns depends on the pairs of the two lists: the first acceptance
among them is selected, and the first rejection is reported where there is
none (`outcome`, `acceptedContext_eq`). That is `acceptedContext_spec`, with
the positions spelled out.
-/

namespace Rpce

open Rust

/-- The first of the pairs of two lists whose left part has the property `p`. -/
theorem find?_zip_eq_some {α β : Type} {xs : List α} {ys : List β} (p : α → Prop) [DecidablePred p]
    {x : α} {y : β} : (xs.zip ys).find? (p ·.1) = some (x, y) ↔ ∃ i : Nat, xs[i]? = some x ∧
      ys[i]? = some y ∧ p x ∧ ∀ (j : Nat) (x' : α), j < i → xs[j]? = some x' → ¬ p x' := by
  rw [List.find?_eq_some_iff_getElem]
  constructor
  · rintro ⟨hp, i, hi, hget, hmin⟩
    obtain ⟨hx, hy⟩ := List.getElem?_zip_eq_some.mp (List.getElem?_eq_some_iff.mpr ⟨hi, hget⟩)
    refine ⟨i, hx, hy, of_decide_eq_true hp, fun j x' hj hj' => ?_⟩
    have hpair : (xs.zip ys)[j].1 = x' := by
      rw [List.getElem_zip]
      exact (List.getElem?_eq_some_iff.mp hj').2
    have hnot := hmin j hj
    rw [hpair] at hnot
    exact of_decide_eq_false (Bool.not_eq_true' _ ▸ hnot)
  · rintro ⟨i, hx, hy, hp, hmin⟩
    obtain ⟨hi, hget⟩ := List.getElem?_eq_some_iff.mp (List.getElem?_zip_eq_some (z := (x, y)).mpr ⟨hx, hy⟩)
    refine ⟨decide_eq_true hp, i, hi, hget, fun j hj => ?_⟩
    rw [Bool.not_eq_true']
    refine decide_eq_false (hmin j _ hj ?_)
    rw [List.getElem_zip]
    exact List.getElem?_eq_getElem _

variable [UuidCrate]

namespace BindAckPdu

/-! ## Pairs of results and contexts -/

/-- The results that reject their context. -/
def Rejects (r : PresentationResult) : Prop :=
  r.result = .userRejection ∨ r.result = .providerRejection

instance (r : PresentationResult) : Decidable (Rejects r) := inferInstanceAs (Decidable (_ ∨ _))

theorem rejects_iff {r : PresentationResult} :
    Rejects r ↔ r.result ≠ .acceptance ∧ r.result ≠ .negotiateAck := by
  unfold Rejects
  cases r.result <;> decide

/-- The context of a pair whose result accepts it. -/
def select (p : PresentationResult × PresentationContext) : AcceptedContext :=
  { contextId := p.2.contextId, transferSyntax := p.1.transferSyntax }

/-- The error for a pair whose result rejects the context. -/
def reject (p : PresentationResult × PresentationContext) : Error :=
  .presentationContextRejected p.2.contextId p.1.result p.1.reason

/-- The first acceptance. -/
def selected (pairs : List (PresentationResult × PresentationContext)) : Option AcceptedContext :=
  (pairs.find? (·.1.result = .acceptance)).map select

/-- The first rejection. -/
def rejected (pairs : List (PresentationResult × PresentationContext)) : Option Error :=
  (pairs.find? (Rejects ·.1)).map reject

/-- What is returned for `results` and the contexts at their places, after the
rejection `firstRejection`. -/
def outcome (firstRejection : Option Error) (results : List PresentationResult)
    (contexts : List PresentationContext) : Result AcceptedContext :=
  match selected (results.zip contexts) with
  | some a => .ok a
  | none =>
    if contexts.length < results.length then
      .error (.err (.invalidPdu "bind ack result has no matching proposed context"))
    else
      .error (.err ((firstRejection.or (rejected (results.zip contexts))).getD
        (.invalidPdu "bind ack has no presentation results")))

/-- The loop, from the result at `index` on. -/
theorem acceptedLoop_eq (proposed : List PresentationContext) (index : Nat)
    (firstRejection : Option Error) (results : List PresentationResult) :
    acceptedLoop proposed index firstRejection results =
      outcome firstRejection results (proposed.drop index) := by
  induction results generalizing index firstRejection with
  | nil => cases firstRejection <;> rfl
  | cons r rs ih =>
    have hdrop : proposed.drop (index + 1) = (proposed.drop index).tail := List.tail_drop.symm
    simp only [acceptedLoop, ← List.head?_drop, ih, hdrop]
    generalize proposed.drop index = contexts
    cases contexts with
    | nil => rfl
    | cons c cs =>
      dsimp only [List.head?_cons, List.tail_cons]
      by_cases ha : r.result = .acceptance
      · simp only [outcome, selected, List.zip_cons_cons, List.find?_cons, ha, if_true, decide_true,
          Option.map_some, select]
      · have hlen : (c :: cs).length < (r :: rs).length ↔ cs.length < rs.length :=
          Nat.succ_lt_succ_iff
        by_cases hn : r.result = .negotiateAck
        · have hr : ¬ Rejects r := fun h => (rejects_iff.mp h).2 hn
          simp only [outcome, selected, rejected, List.zip_cons_cons, List.find?_cons, hlen, hr, hn,
            reduceCtorEq, decide_false, if_false, ne_eq, not_true]
        · have hr : Rejects r := rejects_iff.mpr ⟨ha, hn⟩
          simp only [outcome, selected, rejected, List.zip_cons_cons, List.find?_cons, hlen, ha, hr, hn,
            decide_false, decide_true, if_false, if_true, ne_eq, not_false_eq_true, Option.map_some,
            Option.or_assoc, Option.some_or, reject]

theorem acceptedContext_eq (ack : BindAckPdu) (proposed : List PresentationContext) :
    ack.acceptedContext proposed = outcome none ack.results proposed :=
  acceptedLoop_eq proposed 0 none ack.results

/-! ## The first acceptance and the first rejection -/

/-- The first result that is an acceptance is at `i`. -/
structure FirstAcceptance (results : List PresentationResult) (i : Nat) (r : PresentationResult) :
    Prop where
  get : results[i]? = some r
  accepts : r.result = .acceptance
  first : ∀ j r', j < i → results[j]? = some r' → r'.result ≠ .acceptance

/-- An acceptance among the results is preceded by a first one. -/
theorem exists_firstAcceptance {results : List PresentationResult}
    (h : ∃ r ∈ results, r.result = .acceptance) : ∃ i r, FirstAcceptance results i r := by
  have hex : ∃ (i : Nat) (r : PresentationResult), results[i]? = some r ∧ r.result = .acceptance := by
    obtain ⟨r, hmem, hr⟩ := h
    obtain ⟨i, hi⟩ := List.getElem?_of_mem hmem
    exact ⟨i, r, hi, hr⟩
  classical
  obtain ⟨r, hget, hr⟩ := Nat.find_spec hex
  exact ⟨_, r, hget, hr, fun j r' hj hget' hr' => Nat.find_min hex hj ⟨r', hget', hr'⟩⟩

theorem acceptedContext_eq_ok_iff_selected {ack : BindAckPdu} {proposed : List PresentationContext}
    {a : AcceptedContext} :
    ack.acceptedContext proposed = .ok a ↔ selected (ack.results.zip proposed) = some a := by
  rw [acceptedContext_eq, outcome]
  cases selected (ack.results.zip proposed) with
  | some a' => simp only [Except.ok.injEq, Option.some.injEq]
  | none =>
    dsimp only
    split <;> simp only [reduceCtorEq]

/-- The selected context is that of the first acceptance. -/
theorem acceptedContext_eq_ok {ack : BindAckPdu} {proposed : List PresentationContext}
    {a : AcceptedContext} :
    ack.acceptedContext proposed = .ok a ↔
      ∃ i r c, FirstAcceptance ack.results i r ∧ proposed[i]? = some c ∧
        a = { contextId := c.contextId, transferSyntax := r.transferSyntax } := by
  rw [acceptedContext_eq_ok_iff_selected, selected, Option.map_eq_some_iff]
  constructor
  · rintro ⟨⟨r, c⟩, hfind, rfl⟩
    obtain ⟨i, hr, hc, hp, hmin⟩ :=
      (find?_zip_eq_some fun r : PresentationResult => r.result = .acceptance).mp hfind
    exact ⟨i, r, c, ⟨hr, hp, hmin⟩, hc, rfl⟩
  · rintro ⟨i, r, c, h, hc, rfl⟩
    exact ⟨(r, c), (find?_zip_eq_some fun r : PresentationResult => r.result = .acceptance).mpr
      ⟨i, h.get, hc, h.accepts, h.first⟩, rfl⟩

theorem returns_acceptedContext (ack : BindAckPdu) (proposed : List PresentationContext) :
    Returns (ack.acceptedContext proposed) := by
  rw [acceptedContext_eq, outcome]
  split
  · exact .ok _
  · split <;> exact .err _

/-- Nothing is selected if no result at the place of a context accepts it. -/
theorem selected_eq_none {results : List PresentationResult} {contexts : List PresentationContext}
    (h : ∀ (i : Nat) r, results[i]? = some r → i < contexts.length → r.result ≠ .acceptance) :
    selected (results.zip contexts) = none := by
  rw [selected, Option.map_eq_none_iff, List.find?_eq_none]
  intro p hp
  obtain ⟨i, hi⟩ := List.getElem?_of_mem hp
  obtain ⟨hr, hc⟩ := List.getElem?_zip_eq_some.mp hi
  rw [decide_eq_true_iff]
  exact h i p.1 hr (List.getElem?_eq_some_iff.mp hc).1

/-- The rejection that is reported is the first one. -/
theorem rejected_of_first {results : List PresentationResult} {contexts : List PresentationContext}
    {i : Nat} {r : PresentationResult} {c : PresentationContext} (hr : results[i]? = some r)
    (hc : contexts[i]? = some c) (h : Rejects r)
    (hfirst : ∀ (j : Nat) r', j < i → results[j]? = some r' → ¬ Rejects r') :
    rejected (results.zip contexts) =
      some (.presentationContextRejected c.contextId r.result r.reason) := by
  have hfind := (find?_zip_eq_some Rejects).mpr ⟨i, hr, hc, h, hfirst⟩
  rw [rejected, hfind]
  rfl

theorem rejected_eq_none {results : List PresentationResult} {contexts : List PresentationContext}
    (h : ∀ r ∈ results, ¬ Rejects r) : rejected (results.zip contexts) = none := by
  rw [rejected, Option.map_eq_none_iff, List.find?_eq_none]
  intro p hp
  rw [decide_eq_true_iff]
  exact h p.1 (List.of_mem_zip (b := p.2) hp).1

/-! ## The results that count -/

/-- The pairs that are not passed over. -/
def considered (results : List PresentationResult) (contexts : List PresentationContext) :
    List (PresentationResult × PresentationContext) :=
  (results.zip contexts).filter (·.1.result ≠ .negotiateAck)

theorem selected_considered (results : List PresentationResult)
    (contexts : List PresentationContext) :
    selected (considered results contexts) = selected (results.zip contexts) := by
  rw [selected, considered, List.find?_filter, selected]
  congr 2
  funext p
  cases p.1.result <;> rfl

theorem rejected_considered (results : List PresentationResult)
    (contexts : List PresentationContext) :
    rejected (considered results contexts) = rejected (results.zip contexts) := by
  rw [rejected, considered, List.find?_filter, rejected]
  congr 2
  funext p
  by_cases h : Rejects p.1
  · simp only [h, (rejects_iff.mp h).2, ne_eq, not_false_eq_true, decide_true, and_self]
  · simp only [h, decide_false, Bool.false_eq_true, and_false]

/-! ## What is returned -/

theorem acceptedContext_of_no_acceptance {ack : BindAckPdu} {proposed : List PresentationContext}
    (h : ∀ (i : Nat) r c, ack.results[i]? = some r → proposed[i]? = some c → r.result ≠ .acceptance) :
    ack.acceptedContext proposed = if proposed.length < ack.results.length then
        .error (.err (.invalidPdu "bind ack result has no matching proposed context"))
      else .error (.err ((rejected (ack.results.zip proposed)).getD
        (.invalidPdu "bind ack has no presentation results"))) := by
  have hnone : selected (ack.results.zip proposed) = none :=
    selected_eq_none fun i r hr hi => h i r _ hr (List.getElem?_eq_getElem hi)
  rw [acceptedContext_eq, outcome, hnone]
  rfl

/-- **Context selection.** The first acceptance at the place of a proposed
context is selected, with the syntax of its result. Where there is none, more
results than contexts are an error, and otherwise the first rejection is
reported, if there is one. Results that are `NegotiateAck` are passed over:
only the other pairs count. -/
theorem acceptedContext_spec (ack : BindAckPdu) (proposed : List PresentationContext) :
    ((∃ a, ack.acceptedContext proposed = .ok a) ↔
      ∃ (i : Nat) (r : _) (c : _), ack.results[i]? = some r ∧ proposed[i]? = some c ∧
        r.result = .acceptance) ∧
    (∀ i r c, FirstAcceptance ack.results i r → proposed[i]? = some c →
      ack.acceptedContext proposed =
        .ok { contextId := c.contextId, transferSyntax := r.transferSyntax }) ∧
    ((∀ (i : Nat) r c, ack.results[i]? = some r → proposed[i]? = some c → r.result ≠ .acceptance) →
      (proposed.length < ack.results.length → ack.acceptedContext proposed =
        .error (.err (.invalidPdu "bind ack result has no matching proposed context"))) ∧
      (ack.results.length ≤ proposed.length →
        (∀ (i : Nat) r c, ack.results[i]? = some r → proposed[i]? = some c → Rejects r →
          (∀ (j : Nat) r', j < i → ack.results[j]? = some r' → ¬ Rejects r') →
          ack.acceptedContext proposed =
            .error (.err (.presentationContextRejected c.contextId r.result r.reason))) ∧
        ((∀ r ∈ ack.results, ¬ Rejects r) → ack.acceptedContext proposed =
          .error (.err (.invalidPdu "bind ack has no presentation results"))))) ∧
    ∀ (ack' : BindAckPdu) (proposed' : List PresentationContext),
      considered ack.results proposed = considered ack'.results proposed' →
      (∀ a, ack.acceptedContext proposed = .ok a ↔ ack'.acceptedContext proposed' = .ok a) ∧
      (ack.results.length ≤ proposed.length → ack'.results.length ≤ proposed'.length →
        ack.acceptedContext proposed = ack'.acceptedContext proposed') := by
  refine ⟨⟨?_, ?_⟩, ?_, ?_, ?_⟩
  · rintro ⟨a, ha⟩
    obtain ⟨i, r, c, h, hc, -⟩ := acceptedContext_eq_ok.mp ha
    exact ⟨i, r, c, h.get, hc, h.accepts⟩
  · rintro ⟨i, r, c, hr, hc, haccepts⟩
    obtain ⟨i', r', h⟩ := exists_firstAcceptance ⟨r, List.mem_of_getElem? hr, haccepts⟩
    have hle : i' ≤ i := Nat.le_of_not_lt fun hlt => h.first i r hlt hr haccepts
    have hi' := Nat.lt_of_le_of_lt hle (List.getElem?_eq_some_iff.mp hc).1
    exact ⟨_, acceptedContext_eq_ok.mpr ⟨i', r', _, h, List.getElem?_eq_getElem hi', rfl⟩⟩
  · intro i r c h hc
    exact acceptedContext_eq_ok.mpr ⟨i, r, c, h, hc, rfl⟩
  · intro hno
    rw [acceptedContext_of_no_acceptance hno]
    refine ⟨fun hlt => if_pos hlt, fun hle => ?_⟩
    rw [if_neg (Nat.not_lt.mpr hle)]
    constructor
    · intro i r c hr hc hrejects hfirst
      rw [rejected_of_first hr hc hrejects hfirst]
      rfl
    · intro hnone
      rw [rejected_eq_none hnone]
      rfl
  · intro ack' proposed' heq
    have hsel : selected (ack.results.zip proposed) = selected (ack'.results.zip proposed') := by
      rw [← selected_considered, heq, selected_considered]
    have hrej : rejected (ack.results.zip proposed) = rejected (ack'.results.zip proposed') := by
      rw [← rejected_considered, heq, rejected_considered]
    constructor
    · intro a
      rw [acceptedContext_eq_ok_iff_selected, hsel, ← acceptedContext_eq_ok_iff_selected]
    · intro hle hle'
      rw [acceptedContext_eq, acceptedContext_eq, outcome, outcome, hsel, hrej,
        if_neg (Nat.not_lt.mpr hle), if_neg (Nat.not_lt.mpr hle')]

end BindAckPdu

end Rpce
