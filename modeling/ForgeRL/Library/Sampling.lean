import ForgeRL.Library.Discounted
import Mathlib.Data.List.Sort

/-!
# Means, proportions and resamples

The mean of a list lies between any two bounds of its values, and a proportion
between zero and one; neither is defined for an empty list.

A resample draws as many values from a list as it has, with replacement.  The
sorted means of resamples lie within the bounds of the values, and a later one
is not smaller than an earlier one, whatever is drawn.
-/

namespace Library

universe u v

section Mean

variable {K : Type u} [Field K]

/-- The mean of the values, if there are any. -/
def mean? (values : List K) : Option K :=
  if values.isEmpty then none else some (mean values)

/-- A part of a whole, if the whole is not empty. -/
def proportion? (part whole : ℕ) : Option K := if whole = 0 then none else some (part / whole)

theorem mean?_eq_none_iff {values : List K} : mean? values = none ↔ values = [] := by
  unfold mean?
  rw [← List.isEmpty_iff]
  split_ifs with empty <;> simp [empty]

theorem proportion?_eq_none_iff {part whole : ℕ} :
    (proportion? part whole : Option K) = none ↔ whole = 0 := by
  unfold proportion?
  split_ifs with empty <;> simp [empty]

/-- The indicators of a property sum up to the number of its rows. -/
theorem sum_indicator {α : Type v} (holds : α → Prop) [DecidablePred holds] (rows : List α) :
    (rows.map fun row => if holds row then (1 : K) else 0).sum =
      (rows.countP fun row => holds row : ℕ) := by
  induction rows with
  | nil => simp
  | cons row rows ih =>
    rw [List.map_cons, List.sum_cons, ih, List.countP_cons]
    split_ifs with first second second
    · push_cast
      ring
    · exact absurd (decide_eq_true first) second
    · exact absurd (of_decide_eq_true second) first
    · rw [zero_add, Nat.add_zero]

variable [LinearOrder K] [IsStrictOrderedRing K]

/-- The mean lies between any bounds of the values. -/
theorem mean_bounds {values : List K} {lower upper : K} (some_ : values ≠ [])
    (bounded : ∀ value ∈ values, lower ≤ value ∧ value ≤ upper) :
    lower ≤ mean values ∧ mean values ≤ upper := by
  have positive : (0 : K) < values.length := Nat.cast_pos.mpr (List.length_pos_iff.mpr some_)
  unfold mean
  rw [le_div_iff₀ positive, div_le_iff₀ positive, mul_comm lower, mul_comm upper, ← nsmul_eq_mul,
    ← nsmul_eq_mul]
  constructor
  · exact List.card_nsmul_le_sum values lower fun value member => (bounded value member).1
  · exact List.sum_le_card_nsmul values upper fun value member => (bounded value member).2

theorem mean?_bounds {values : List K} {lower upper result : K}
    (measured : mean? values = some result)
    (bounded : ∀ value ∈ values, lower ≤ value ∧ value ≤ upper) :
    lower ≤ result ∧ result ≤ upper := by
  unfold mean? at measured
  split_ifs at measured with empty
  cases measured
  exact mean_bounds (mt List.isEmpty_iff.mpr empty) bounded

theorem proportion?_bounds {part whole : ℕ} {result : K} (inside : part ≤ whole)
    (measured : proportion? part whole = some result) : 0 ≤ result ∧ result ≤ 1 := by
  unfold proportion? at measured
  split_ifs at measured with empty
  cases measured
  have positive : (0 : K) < whole := Nat.cast_pos.mpr (Nat.pos_of_ne_zero empty)
  constructor
  · exact div_nonneg (Nat.cast_nonneg part) positive.le
  · rw [div_le_one positive]
    exact Nat.cast_le.mpr inside

end Mean

/-! ## Resamples -/

section Resamples

variable {α : Type v}

/-- A source of positions: for each drawing, one below a given length. -/
abbrev Draws := (drawing : ℕ) → (rest : ℕ) → Fin (rest + 1)

/-- The value at a drawn position. -/
def choice (position : (rest : ℕ) → Fin (rest + 1)) : List α → Option α
  | [] => none
  | first :: rest => some ((first :: rest).get (position rest.length))

theorem mem_of_choice {position : (rest : ℕ) → Fin (rest + 1)} {values : List α} {value : α}
    (drawn : choice position values = some value) : value ∈ values := by
  cases values with
  | nil => cases drawn
  | cons first rest =>
    cases drawn
    exact List.get_mem _ _

theorem isSome_choice {position : (rest : ℕ) → Fin (rest + 1)} {values : List α}
    (some_ : values ≠ []) : (choice position values).isSome = true := by
  cases values with
  | nil => exact absurd rfl some_
  | cons first rest => rfl

/-- As many values as there are, drawn with replacement. -/
def resample (draws : Draws) (values : List α) (start : ℕ) : List α :=
  (List.range values.length).filterMap fun position => choice (draws (start + position)) values

theorem mem_of_mem_resample {draws : Draws} {values : List α} {start : ℕ} {value : α}
    (member : value ∈ resample draws values start) : value ∈ values := by
  rcases List.mem_filterMap.mp member with ⟨position, _, drawn⟩
  exact mem_of_choice drawn

theorem resample_ne_nil {draws : Draws} {values : List α} {start : ℕ} (some_ : values ≠ []) :
    resample draws values start ≠ [] := by
  intro empty
  have first : 0 ∈ List.range values.length :=
    List.mem_range.mpr (List.length_pos_iff.mpr some_)
  have absent := List.filterMap_eq_nil_iff.mp empty 0 first
  have drawn : (choice (draws (start + 0)) values).isSome = true := isSome_choice some_
  rw [absent] at drawn
  cases drawn

variable {K : Type u} [Field K] [LinearOrder K]

/-- The sorted means of some resamples. -/
def bootstrap (draws : Draws) (count : ℕ) (values : List K) : List K :=
  ((List.range count).map fun drawing =>
    mean (resample draws values (drawing * values.length))).insertionSort fun first second =>
      first ≤ second

@[simp] theorem length_bootstrap (draws : Draws) (count : ℕ) (values : List K) :
    (bootstrap draws count values).length = count := by
  unfold bootstrap
  rw [List.length_insertionSort, List.length_map, List.length_range]

theorem bootstrap_bounds [IsStrictOrderedRing K] {draws : Draws} {count : ℕ} {values : List K}
    {lower upper : K} (some_ : values ≠ [])
    (bounded : ∀ value ∈ values, lower ≤ value ∧ value ≤ upper) :
    ∀ drawn ∈ bootstrap draws count values, lower ≤ drawn ∧ drawn ≤ upper := by
  intro drawn member
  unfold bootstrap at member
  rw [List.mem_insertionSort] at member
  rcases List.mem_map.mp member with ⟨drawing, _, rfl⟩
  apply mean_bounds (resample_ne_nil some_)
  exact fun value drawn => bounded value (mem_of_mem_resample drawn)

/-- A later mean of the sorted ones is not smaller. -/
theorem bootstrap_le {draws : Draws} {count : ℕ} {values : List K} {low high : ℕ}
    (order : low ≤ high) (inside : high < count) :
    (bootstrap draws count values).getD low 0 ≤ (bootstrap draws count values).getD high 0 := by
  have here : high < (bootstrap draws count values).length := by rwa [length_bootstrap]
  rw [List.getD_eq_getElem?_getD, List.getD_eq_getElem?_getD,
    List.getElem?_eq_getElem (order.trans_lt here), List.getElem?_eq_getElem here]
  rcases order.eq_or_lt with rfl | before
  · exact le_rfl
  · have sorted : (bootstrap draws count values).Pairwise (· ≤ ·) :=
      List.pairwise_insertionSort _ _
    exact List.pairwise_iff_getElem.mp sorted low high _ here before

end Resamples

end Library
