import Mathlib.Data.List.Count
import Mathlib.Algebra.Order.Group.Unbundled.Basic
import Mathlib.Algebra.Order.Group.Defs

namespace Library

/-!
# Sliding windows over a history of arrivals

Arrivals are kept in the order in which they were accepted, each at a time.
Only one window is counted when an arrival is accepted: the one that ends at
the arrival itself, and it is counted without an upper end.  Every other
window is bounded by the last arrival that it holds, so the order of the times
does not matter.

A count may be taken over other records than the arrivals themselves, as long
as they stand in the same order and an arrival that is recent counts in its
record.
-/

universe u v w

section Window

variable {α : Type u} {τ : Type w} [AddCommGroup τ] [LinearOrder τ] [IsOrderedAddMonoid τ]

/-- The arrivals of a kind in the window of a width that ends at an instant. -/
def windowCount (kind : α → Prop) [DecidablePred kind] (time : α → τ) (width instant : τ)
    (arrivals : List α) : ℕ :=
  arrivals.countP fun arrival =>
    kind arrival ∧ instant - width < time arrival ∧ time arrival ≤ instant

/-- The arrivals of a kind since an instant, as an admission counts them. -/
def recentCount (kind : α → Prop) [DecidablePred kind] (time : α → τ) (since : τ)
    (arrivals : List α) : ℕ :=
  arrivals.countP fun arrival => kind arrival ∧ since < time arrival

variable {kind : α → Prop} [DecidablePred kind] {time : α → τ} {width : τ} {limit : ℕ}
  {arrivals : List α}

/-- An arrival that is accepted below the limit leaves no window above it. -/
theorem windowCount_append_le
    (bounded : ∀ instant, windowCount kind time width instant arrivals ≤ limit)
    {arrival : α}
    (checked : kind arrival → recentCount kind time (time arrival - width) arrivals < limit)
    (instant : τ) : windowCount kind time width instant (arrivals ++ [arrival]) ≤ limit := by
  have before := bounded instant
  rw [windowCount] at before ⊢
  rw [List.countP_append, List.countP_singleton]
  by_cases inside : kind arrival ∧ instant - width < time arrival ∧ time arrival ≤ instant
  · have counted : arrivals.countP (fun arrival =>
        kind arrival ∧ instant - width < time arrival ∧ time arrival ≤ instant) ≤
        recentCount kind time (time arrival - width) arrivals := by
      apply List.countP_mono_left
      intro other _ selected
      simp only [decide_eq_true_eq] at selected ⊢
      exact ⟨selected.1, lt_of_le_of_lt (sub_le_sub_right inside.2.2 width) selected.2.1⟩
    have room := checked inside.1
    simp only [inside, and_self, decide_true, if_true]
    omega
  · simp only [inside, decide_false, Bool.false_eq_true, if_false]
    omega

end Window

/-- A count over records in the order of the arrivals is at least the count of
the arrivals whose records are counted. -/
theorem countP_le_of_forall₂ {α : Type u} {β : Type v} {related : α → β → Prop}
    {first : α → Bool} {second : β → Bool}
    (implied : ∀ arrival record, related arrival record → first arrival = true →
      second record = true) {arrivals : List α} {records : List β}
    (aligned : List.Forall₂ related arrivals records) :
    arrivals.countP first ≤ records.countP second := by
  induction aligned with
  | nil => exact Nat.le_refl 0
  | @cons arrival record arrivals records pair _ ih =>
      rw [List.countP_cons, List.countP_cons]
      by_cases counted : first arrival = true
      · simp only [counted, implied arrival record pair counted, if_true]
        omega
      · simp only [counted, Bool.false_eq_true, if_false]
        split <;> omega

end Library
