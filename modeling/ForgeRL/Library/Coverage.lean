import Mathlib.Data.List.Perm.Subperm
import Mathlib.Data.List.Nodup
import Mathlib.Data.List.Forall2
import Mathlib.Algebra.Order.Field.Power
import Mathlib.Algebra.BigOperators.Group.List.Basic

/-!
# Coverage of a plan

A plan is a list of rows, no two of the same cell.  What has been observed are
cells of the plan, each at most once.  Then the observed cells and the missing
rows make up the plan, and no part of the plan has more observations than
cells.
-/

namespace Library

universe u v

variable {ρ : Type u} {κ : Type v}

/-- Rows with different cells are no more than the cells they may have. -/
theorem length_le_of_cells {cell : ρ → κ} {rows : List ρ} {cells : List κ}
    (distinct : (rows.map cell).Nodup) (within : ∀ row ∈ rows, cell row ∈ cells) :
    rows.length ≤ cells.length := by
  have subset : rows.map cell ⊆ cells := by
    intro seen member
    rcases List.mem_map.mp member with ⟨row, inside, rfl⟩
    exact within row inside
  calc rows.length = (rows.map cell).length := (List.length_map cell).symm
    _ ≤ cells.length := (distinct.subperm subset).length_le

/-- In lists that are related item by item, each item on the right has one on
the left. -/
theorem exists_related {related : ρ → κ → Prop} {left : List ρ} {right : List κ}
    (each : List.Forall₂ related left right) {item : κ} (member : item ∈ right) :
    ∃ other ∈ left, related other item := by
  induction each with
  | nil => exact absurd member List.not_mem_nil
  | cons head _ ih =>
    rcases List.mem_cons.mp member with rfl | later
    · exact ⟨_, List.mem_cons_self, head⟩
    · rcases ih later with ⟨other, inside, found⟩
      exact ⟨other, List.mem_cons_of_mem _ inside, found⟩

variable [DecidableEq κ]

/-- The rows whose cell has not been observed. -/
def missingRows (cell : ρ → κ) (plan : List ρ) (observed : List κ) : List ρ :=
  plan.filter fun row => cell row ∉ observed

section Plan

variable {cell : ρ → κ} {plan : List ρ} {observed : List κ}

theorem mem_missingRows_iff (row : ρ) :
    row ∈ missingRows cell plan observed ↔ row ∈ plan ∧ cell row ∉ observed := by
  unfold missingRows
  rw [List.mem_filter, decide_eq_true_eq]

theorem missingRows_nodup (distinct : (plan.map cell).Nodup) :
    ((missingRows cell plan observed).map cell).Nodup :=
  distinct.sublist (List.filter_sublist.map cell)

/-- The observed cells and the missing ones are the cells of the plan. -/
theorem perm_plan (distinct : (plan.map cell).Nodup) (once : observed.Nodup)
    (planned : ∀ seen ∈ observed, seen ∈ plan.map cell) :
    (observed ++ (missingRows cell plan observed).map cell).Perm (plan.map cell) := by
  have separate : (observed ++ (missingRows cell plan observed).map cell).Nodup := by
    refine List.nodup_append.mpr ⟨once, missingRows_nodup distinct, ?_⟩
    rintro seen known _ member rfl
    rcases List.mem_map.mp member with ⟨row, absent, rfl⟩
    exact ((mem_missingRows_iff row).mp absent).2 known
  apply (List.perm_ext_iff_of_nodup separate distinct).mpr
  intro seen
  constructor
  · intro member
    rcases List.mem_append.mp member with known | absent
    · exact planned seen known
    · rcases List.mem_map.mp absent with ⟨row, inside, rfl⟩
      exact List.mem_map_of_mem ((mem_missingRows_iff row).mp inside).1
  · intro member
    rcases List.mem_map.mp member with ⟨row, inside, rfl⟩
    by_cases known : cell row ∈ observed
    · exact List.mem_append_left _ known
    · exact List.mem_append_right _
        (List.mem_map_of_mem ((mem_missingRows_iff row).mpr ⟨inside, known⟩))

theorem length_plan (distinct : (plan.map cell).Nodup) (once : observed.Nodup)
    (planned : ∀ seen ∈ observed, seen ∈ plan.map cell) :
    plan.length = observed.length + (missingRows cell plan observed).length := by
  have total := (perm_plan distinct once planned).length_eq
  rw [List.length_append, List.length_map, List.length_map] at total
  exact total.symm

end Plan

/-- Of rows with different cells, one is found by its cell. -/
theorem filter_cell {cell : ρ → κ} {rows : List ρ} (once : (rows.map cell).Nodup) {row : ρ}
    (member : row ∈ rows) : (rows.filter fun other => cell other = cell row) = [row] := by
  induction rows with
  | nil => cases member
  | cons first rows ih =>
    rw [List.map_cons, List.nodup_cons] at once
    rcases List.mem_cons.mp member with rfl | inside
    · have none_ : (rows.filter fun other => cell other = cell row) = [] := by
        apply List.filter_eq_nil_iff.mpr
        intro other later same
        exact once.1 (of_decide_eq_true same ▸ List.mem_map_of_mem later)
      rw [List.filter_cons, if_pos (decide_eq_true rfl), none_]
    · have different : cell first ≠ cell row := fun same =>
        once.1 (same ▸ List.mem_map_of_mem inside)
      rw [List.filter_cons, if_neg (mt of_decide_eq_true different), ih once.2 inside]

/-- Counting by groups counts every row once. -/
theorem sum_groups {group : ρ → κ} {groups : List κ} (distinct : groups.Nodup) {rows : List ρ}
    (grouped : ∀ row ∈ rows, group row ∈ groups) :
    (groups.map fun name => (rows.filter fun row => group row = name).length).sum = rows.length := by
  induction groups generalizing rows with
  | nil =>
    cases rows with
    | nil => rfl
    | cons row rows => exact absurd (grouped row List.mem_cons_self) List.not_mem_nil
  | cons name groups ih =>
    rw [List.nodup_cons] at distinct
    have rest := @ih distinct.2 (rows.filter fun row => ¬ group row = name) (by
      intro row member
      rcases List.mem_filter.mp member with ⟨inside, other⟩
      exact (List.mem_cons.mp (grouped row inside)).resolve_left (of_decide_eq_true other))
    have unmoved : (groups.map fun other =>
        ((rows.filter fun row => ¬ group row = name).filter fun row => group row = other).length) =
          groups.map fun other => (rows.filter fun row => group row = other).length := by
      apply List.map_congr_left
      intro other member
      rw [List.filter_filter]
      congr 1
      apply List.filter_congr
      intro row _
      by_cases same : group row = other
      · have different : group row ≠ name := fun named => distinct.1 (named ▸ same ▸ member)
        simp only [same, decide_true, Bool.true_and]
        exact decide_eq_true (same ▸ different)
      · simp only [same, decide_false, Bool.false_and]
    have split := List.length_eq_length_filter_add (l := rows) fun row => group row = name
    rw [unmoved] at rest
    rw [List.map_cons, List.sum_cons, rest, split]
    congr 2
    apply List.filter_congr
    intro row _
    rw [decide_not]

end Library
