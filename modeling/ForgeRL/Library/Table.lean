import Mathlib.Data.List.Nodup
import Mathlib.Algebra.Order.BigOperators.Group.List
import Mathlib.Algebra.Order.Ring.Int
import Mathlib.Tactic.Linarith

/-!
# Tables with a primary key

A table is a finite list of rows, no two of which share a key.  The key
constraint is a field of the structure, so an update or an insertion that
would break it cannot be written down.  Insertion is partial: a row whose
key is already present is refused, which is how a database reports a primary
key conflict.

The sums over a table are kept for the rows that satisfy a condition.  A sum
is the only thing the callers compare with a limit, and the laws below say
how it moves under an insertion and under an update of some rows.
-/

namespace Library

universe u v

/-- The sum of a weight over the rows that satisfy a condition. -/
def sumWhere {ρ : Type u} (weight : ρ → ℤ) (condition : ρ → Prop)
    [DecidablePred condition] (rows : List ρ) : ℤ :=
  ((rows.filter condition).map weight).sum

section SumWhere

variable {ρ : Type u} (weight : ρ → ℤ) (condition : ρ → Prop) [DecidablePred condition]

@[simp] theorem sumWhere_nil : sumWhere weight condition [] = 0 := rfl

theorem sumWhere_cons (row : ρ) (rows : List ρ) :
    sumWhere weight condition (row :: rows) =
      (if condition row then weight row else 0) + sumWhere weight condition rows := by
  by_cases selected : condition row
  · simp [sumWhere, selected]
  · simp [sumWhere, selected]

theorem sumWhere_append (first second : List ρ) :
    sumWhere weight condition (first ++ second) =
      sumWhere weight condition first + sumWhere weight condition second := by
  simp [sumWhere, List.filter_append]

theorem sumWhere_singleton (row : ρ) :
    sumWhere weight condition [row] = if condition row then weight row else 0 := by
  rw [sumWhere_cons, sumWhere_nil, add_zero]

/-- The rows inside and outside a condition make up the whole. -/
theorem sumWhere_split (rows : List ρ) :
    sumWhere weight (fun _ => True) rows =
      sumWhere weight condition rows + sumWhere weight (fun row => ¬ condition row) rows := by
  induction rows with
  | nil => rfl
  | cons row rows ih =>
      rw [sumWhere_cons, sumWhere_cons, sumWhere_cons, ih]
      by_cases selected : condition row
      · simp only [if_true, selected, not_true_eq_false, if_false]
        omega
      · simp only [if_true, selected, not_false_eq_true, if_false]
        omega

/-- More selected rows cannot lower the sum of a nonnegative weight. -/
theorem sumWhere_mono (wider : ρ → Prop) [DecidablePred wider] {rows : List ρ}
    (nonneg : ∀ row ∈ rows, 0 ≤ weight row)
    (implied : ∀ row ∈ rows, condition row → wider row) :
    sumWhere weight condition rows ≤ sumWhere weight wider rows := by
  induction rows with
  | nil => rfl
  | cons row rows ih =>
      have tail := ih (fun other member => nonneg other (List.mem_cons_of_mem _ member))
        (fun other member => implied other (List.mem_cons_of_mem _ member))
      have head := nonneg row List.mem_cons_self
      have selected := implied row List.mem_cons_self
      rw [sumWhere_cons, sumWhere_cons]
      split <;> split <;> first | omega | (exfalso; tauto)

/-- The sum depends on the condition only through the rows it selects. -/
theorem sumWhere_congr (other : ρ → Prop) [DecidablePred other] {rows : List ρ}
    (same : ∀ row ∈ rows, (condition row ↔ other row)) :
    sumWhere weight condition rows = sumWhere weight other rows := by
  induction rows with
  | nil => rfl
  | cons row rows ih =>
      rw [sumWhere_cons, sumWhere_cons,
        ih (fun next member => same next (List.mem_cons_of_mem _ member))]
      simp only [same row List.mem_cons_self]

/-- Rewriting rows one by one cannot raise the sum when no single row
contributes more after the rewriting than before it. -/
theorem sumWhere_map_le (change : ρ → ρ) {rows : List ρ}
    (lower : ∀ row ∈ rows, (if condition (change row) then weight (change row) else 0) ≤
      (if condition row then weight row else 0)) :
    sumWhere weight condition (rows.map change) ≤ sumWhere weight condition rows := by
  induction rows with
  | nil => rfl
  | cons row rows ih =>
      have tail := ih (fun other member => lower other (List.mem_cons_of_mem _ member))
      have head := lower row List.mem_cons_self
      rw [List.map_cons, sumWhere_cons, sumWhere_cons]
      omega

/-- Rewriting rows one by one keeps the sum when it keeps every
contribution. -/
theorem sumWhere_map_eq (change : ρ → ρ) {rows : List ρ}
    (kept : ∀ row ∈ rows, (if condition (change row) then weight (change row) else 0) =
      (if condition row then weight row else 0)) :
    sumWhere weight condition (rows.map change) = sumWhere weight condition rows := by
  induction rows with
  | nil => rfl
  | cons row rows ih =>
      rw [List.map_cons, sumWhere_cons, sumWhere_cons, kept row List.mem_cons_self,
        ih (fun other member => kept other (List.mem_cons_of_mem _ member))]

end SumWhere

/-- Rows without two equal keys. -/
structure Table (ρ : Type u) (κ : Type v) (key : ρ → κ) where
  rows : List ρ
  keys_nodup : (rows.map key).Nodup

namespace Table

variable {ρ : Type u} {κ : Type v} {key : ρ → κ}

@[ext] theorem ext {left right : Table ρ κ key} (same : left.rows = right.rows) :
    left = right := by
  cases left
  cases right
  congr

instance [DecidableEq ρ] : DecidableEq (Table ρ κ key) := fun left right =>
  decidable_of_iff (left.rows = right.rows) ⟨ext, congrArg rows⟩

def empty : Table ρ κ key := ⟨[], List.nodup_nil⟩

instance : EmptyCollection (Table ρ κ key) := ⟨empty⟩

instance : Inhabited (Table ρ κ key) := ⟨empty⟩

@[simp] theorem empty_rows : (∅ : Table ρ κ key).rows = [] := rfl

/-- Two stored rows with one key are the same row. -/
theorem eq_of_key_eq (table : Table ρ κ key) {first second : ρ}
    (firstStored : first ∈ table.rows) (secondStored : second ∈ table.rows)
    (same : key first = key second) : first = second :=
  List.inj_on_of_nodup_map table.keys_nodup firstStored secondStored same

section Find

variable [DecidableEq κ]

/-- At most one row is stored under a key. -/
theorem countP_key_le_one (table : Table ρ κ key) (wanted : κ) :
    table.rows.countP (fun row => key row = wanted) ≤ 1 := by
  have once := List.nodup_iff_count_le_one.mp table.keys_nodup wanted
  rw [List.count, List.countP_map] at once
  exact once

/-- The row stored under a key. -/
def find? (table : Table ρ κ key) (wanted : κ) : Option ρ :=
  table.rows.find? (fun row => key row = wanted)

theorem find?_eq_some_iff (table : Table ρ κ key) (wanted : κ) (row : ρ) :
    table.find? wanted = some row ↔ row ∈ table.rows ∧ key row = wanted := by
  constructor
  · intro found
    have selected := List.find?_some found
    exact ⟨List.mem_of_find?_eq_some found, by simpa using selected⟩
  · rintro ⟨stored, rfl⟩
    cases found : table.find? (key row) with
    | none =>
        have missing := List.find?_eq_none.mp found row stored
        simp at missing
    | some other =>
        have selected := List.find?_some found
        have same := table.eq_of_key_eq (List.mem_of_find?_eq_some found) stored
          (by simpa using selected)
        rw [same]

theorem find?_eq_none_iff (table : Table ρ κ key) (wanted : κ) :
    table.find? wanted = none ↔ ∀ row ∈ table.rows, key row ≠ wanted := by
  simp [find?, List.find?_eq_none]

/-- Store a row under a new key.  A key that is already present is a
primary key conflict, and nothing is stored. -/
def insert? (table : Table ρ κ key) (row : ρ) : Option (Table ρ κ key) :=
  if fresh : key row ∈ table.rows.map key then none
  else some ⟨table.rows ++ [row], by
    rw [List.map_append, List.map_singleton, List.nodup_append]
    refine ⟨table.keys_nodup, List.nodup_singleton _, ?_⟩
    intro stored member other single
    rw [List.mem_singleton] at single
    subst single
    exact fun same => fresh (same ▸ member)⟩

theorem insert?_eq_some {table stored : Table ρ κ key} {row : ρ}
    (inserted : table.insert? row = some stored) :
    stored.rows = table.rows ++ [row] ∧ ∀ other ∈ table.rows, key other ≠ key row := by
  unfold insert? at inserted
  split at inserted
  · cases inserted
  · next fresh =>
      cases inserted
      refine ⟨rfl, fun other member same => fresh ?_⟩
      exact List.mem_map.mpr ⟨other, member, same⟩

end Find

/-- Rewrite the rows that satisfy a condition.  A rewriting keeps the key of
every row. -/
def update (table : Table ρ κ key) (condition : ρ → Prop) [DecidablePred condition]
    (change : ρ → ρ) (keeps : ∀ row, key (change row) = key row) : Table ρ κ key where
  rows := table.rows.map (fun row => if condition row then change row else row)
  keys_nodup := by
    have same : (table.rows.map (fun row => if condition row then change row else row)).map key =
        table.rows.map key := by
      rw [List.map_map]
      apply List.map_congr_left
      intro row _
      by_cases selected : condition row <;> simp [selected, keeps]
    rw [same]
    exact table.keys_nodup

section Update

variable (table : Table ρ κ key) (condition : ρ → Prop) [DecidablePred condition]
  (change : ρ → ρ) (keeps : ∀ row, key (change row) = key row)

theorem update_rows :
    (table.update condition change keeps).rows =
      table.rows.map (fun row => if condition row then change row else row) := rfl

theorem update_length :
    (table.update condition change keeps).rows.length = table.rows.length :=
  List.length_map _

theorem update_keys :
    (table.update condition change keeps).rows.map key = table.rows.map key := by
  rw [update_rows, List.map_map]
  apply List.map_congr_left
  intro row _
  by_cases selected : condition row <;> simp [selected, keeps]

end Update

/-- Remove the rows that satisfy a condition. -/
def delete (table : Table ρ κ key) (condition : ρ → Prop) [DecidablePred condition] :
    Table ρ κ key where
  rows := table.rows.filter (fun row => ¬ condition row)
  keys_nodup := (List.filter_sublist.map key).nodup table.keys_nodup

theorem mem_delete_iff (table : Table ρ κ key) (condition : ρ → Prop)
    [DecidablePred condition] (row : ρ) :
    row ∈ (table.delete condition).rows ↔ row ∈ table.rows ∧ ¬ condition row := by
  simp [delete]

end Table

/-- A scan that holds one row, the last of those that wait unless an earlier one
precedes it, holds a row that waits. -/
theorem scan_eq_some {ρ : Type u} {scan : List ρ → Option ρ} (waits : ρ → Prop)
    (precedes : ρ → ρ → Prop) [DecidablePred waits] [DecidableRel precedes]
    (nothing : scan [] = none)
    (step : ∀ row rows, scan (row :: rows) =
      match scan rows with
      | none => if waits row then some row else none
      | some held => if waits row ∧ precedes row held then some row else some held)
    {rows : List ρ} {row : ρ} (found : scan rows = some row) : row ∈ rows ∧ waits row := by
  induction rows with
  | nil => cases nothing.symm.trans found
  | cons head rows ih =>
      rw [step] at found
      split at found
      · split_ifs at found with waiting
        cases found
        exact ⟨List.mem_cons_self, waiting⟩
      · next held later =>
          split_ifs at found with waiting
          · cases found
            exact ⟨List.mem_cons_self, waiting.1⟩
          · rcases ih (later.trans found) with ⟨member, waiting⟩
            exact ⟨List.mem_cons_of_mem _ member, waiting⟩

end Library
