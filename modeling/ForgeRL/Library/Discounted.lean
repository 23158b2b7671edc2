import Mathlib.Algebra.Order.BigOperators.Group.List
import Mathlib.Algebra.Order.Field.Basic
import Mathlib.Data.Fintype.Pi
import Mathlib.Data.Fintype.Powerset
import Mathlib.LinearAlgebra.FiniteDimensional.Basic
import Mathlib.Tactic.Linarith
import Mathlib.Tactic.FieldSimp

/-!
# Discounted backups on finitely many points

Every point has a list of outcomes: a reward, and the points that may come
next, which may be none.  A backup of values takes at each point the mean over
its outcomes of the reward plus the discounted best value of the next points;
without a next point the best value is zero.

A backup is a contraction in the supremum norm, and over an ordered field that
need not be complete it still has a fixed point: it is the best of finitely
many affine maps, one for each selection of a next point, and the selection
whose own fixed point has the largest sum is a best one.
-/

namespace Library

universe u v w

variable {ι : Type u} {K : Type v} {α : Type w}

/-! ## Means -/

section Mean

variable [Field K]

/-- The mean of a list; of none it is zero. -/
def mean (values : List K) : K := values.sum / values.length

theorem mean_map_add (items : List α) (first second : α → K) :
    mean (items.map fun item => first item + second item) =
      mean (items.map first) + mean (items.map second) := by
  simp only [mean, List.length_map, List.sum_map_add, add_div]

theorem mean_map_mul (items : List α) (factor : K) (value : α → K) :
    mean (items.map fun item => factor * value item) = factor * mean (items.map value) := by
  simp only [mean, List.length_map, List.sum_map_mul_left, mul_div_assoc]

theorem mean_map_sub (items : List α) (first second : α → K) :
    mean (items.map first) - mean (items.map second) =
      mean (items.map fun item => first item - second item) := by
  have added := mean_map_add items (fun item => first item - second item) second
  simp only [sub_add_cancel] at added
  rw [added, add_sub_cancel_right]

theorem mean_perm {first second : List K} (same : first.Perm second) :
    mean first = mean second := by
  unfold mean
  rw [same.sum_eq, same.length_eq]

/-- A list that is repeated keeps its mean. -/
theorem mean_repeated [CharZero K] (values : List K) {times : ℕ} (some_ : times ≠ 0) :
    mean (List.replicate times values).flatten = mean values := by
  have nonzero : (times : K) ≠ 0 := Nat.cast_ne_zero.mpr some_
  unfold mean
  rw [List.sum_flatten, List.length_flatten, List.map_replicate, List.map_replicate,
    List.sum_replicate, List.sum_replicate, nsmul_eq_mul, smul_eq_mul, Nat.cast_mul,
    mul_div_mul_left _ _ nonzero]

variable [LinearOrder K] [IsStrictOrderedRing K]

theorem mean_map_le {items : List α} {first second : α → K}
    (below : ∀ item ∈ items, first item ≤ second item) :
    mean (items.map first) ≤ mean (items.map second) := by
  simp only [mean, List.length_map]
  exact div_le_div_of_nonneg_right (List.sum_le_sum below) (Nat.cast_nonneg _)

theorem abs_mean_le {values : List K} {bound : K} (nonneg : 0 ≤ bound)
    (bounded : ∀ value ∈ values, |value| ≤ bound) : |mean values| ≤ bound := by
  have total : |values.sum| ≤ values.length * bound := by
    induction values with
    | nil => simp
    | cons first rest ih =>
      have head := bounded first List.mem_cons_self
      have tail := ih fun value member => bounded value (List.mem_cons_of_mem _ member)
      calc |(first :: rest).sum| ≤ |first| + |rest.sum| := by
            rw [List.sum_cons]
            exact abs_add_le _ _
        _ ≤ bound + rest.length * bound := add_le_add head tail
        _ = (first :: rest).length * bound := by
            push_cast [List.length_cons]
            ring
  unfold mean
  rcases Nat.eq_zero_or_pos values.length with none_ | some_
  · rw [none_]
    simpa using nonneg
  · have positive : (0 : K) < values.length := Nat.cast_pos.mpr some_
    rw [abs_div, abs_of_pos positive, div_le_iff₀ positive, mul_comm]
    exact total

/-- A bound that is not positive is below the mean, also of no values. -/
theorem le_mean {values : List K} {bound : K} (nonpos : bound ≤ 0)
    (bounded : ∀ value ∈ values, bound ≤ value) : bound ≤ mean values := by
  have total : values.length * bound ≤ values.sum := by
    rw [← nsmul_eq_mul]
    exact List.card_nsmul_le_sum values bound bounded
  unfold mean
  rcases Nat.eq_zero_or_pos values.length with none_ | some_
  · rw [none_]
    simpa using nonpos
  · have positive : (0 : K) < values.length := Nat.cast_pos.mpr some_
    rw [le_div_iff₀ positive, mul_comm]
    exact total

end Mean

/-! ## The best of some points -/

section Best

variable [Zero K] [LinearOrder K]

/-- The largest value among the next points; without one it is zero. -/
def best (values : ι → K) (next : Finset ι) : K :=
  if some_ : next.Nonempty then next.sup' some_ values else 0

theorem best_empty (values : ι → K) : best values ∅ = 0 := dif_neg (by simp)

theorem le_best {values : ι → K} {next : Finset ι} {i : ι} (member : i ∈ next) :
    values i ≤ best values next := by
  unfold best
  rw [dif_pos ⟨i, member⟩]
  exact Finset.le_sup' values member

theorem best_attained (values : ι → K) {next : Finset ι} (some_ : next.Nonempty) :
    ∃ i ∈ next, best values next = values i := by
  unfold best
  rw [dif_pos some_]
  exact Finset.exists_mem_eq_sup' some_ values

/-- One point of every nonempty set, and none of the empty one. -/
def Picks (pick : Finset ι → Option ι) : Prop :=
  ∀ next, (pick next = none ↔ next = ∅) ∧ ∀ i, pick next = some i → i ∈ next

/-- The value of the point that was picked, or zero. -/
def picked (values : ι → K) (pick : Option ι) : K := pick.elim 0 values

theorem picked_le_best {pick : Finset ι → Option ι} (picks : Picks pick) (values : ι → K)
    (next : Finset ι) : picked values (pick next) ≤ best values next := by
  cases chosen : pick next with
  | none =>
    rw [((picks next).1.mp chosen), best_empty]
    rfl
  | some i => exact le_best ((picks next).2 i chosen)

/-- Some selection picks a best point of every set. -/
theorem exists_greedy (values : ι → K) :
    ∃ pick, Picks pick ∧ ∀ next, picked values (pick next) = best values next := by
  classical
  have choice (next : Finset ι) : ∃ pick : Option ι, (pick = none ↔ next = ∅) ∧
      (∀ i, pick = some i → i ∈ next) ∧ picked values pick = best values next := by
    rcases next.eq_empty_or_nonempty with rfl | some_
    · exact ⟨none, by simp, by simp, (best_empty values).symm⟩
    · rcases best_attained values some_ with ⟨i, member, attained⟩
      refine ⟨some i, by simp [some_.ne_empty], ?_, attained.symm⟩
      rintro _ ⟨⟩
      exact member
  choose pick emptied member attained using choice
  exact ⟨pick, fun next => ⟨emptied next, member next⟩, attained⟩

end Best

/-! ## Backups and selections

A selection names one next point of every set of next points.  Following a
selection instead of the best next point makes a backup an affine map. -/

section Selections

variable [Field K]

theorem picked_add (first second : ι → K) (pick : Option ι) :
    picked (first + second) pick = picked first pick + picked second pick := by
  cases pick with
  | none => exact (add_zero 0).symm
  | some i => rfl

theorem picked_smul (factor : K) (values : ι → K) (pick : Option ι) :
    picked (factor • values) pick = factor * picked values pick := by
  cases pick with
  | none => exact (mul_zero factor).symm
  | some i => rfl

/-- The discounted mean of the picked values, as a linear map. -/
def pursuit (discount : K) (outcomes : ι → List (K × Finset ι)) (pick : Finset ι → Option ι) :
    (ι → K) →ₗ[K] ι → K where
  toFun values i := discount * mean ((outcomes i).map fun outcome =>
    picked values (pick outcome.2))
  map_add' first second := by
    funext i
    simp only [picked_add, mean_map_add, mul_add, Pi.add_apply]
  map_smul' factor values := by
    funext i
    simp only [picked_smul, mean_map_mul, Pi.smul_apply, smul_eq_mul, RingHom.id_apply]
    ring

/-- The mean reward of a point. -/
def meanReward (outcomes : ι → List (K × Finset ι)) (i : ι) : K := mean ((outcomes i).map Prod.fst)

variable [LinearOrder K] (discount : K) (outcomes : ι → List (K × Finset ι))

/-- The mean over the outcomes of a point of the reward plus the discounted best
value of the next points. -/
def backup (values : ι → K) : ι → K := fun i =>
  mean ((outcomes i).map fun outcome => outcome.1 + discount * best values outcome.2)

/-- A backup is the affine map of a greedy selection. -/
theorem backup_of_greedy {pick : Finset ι → Option ι} {values : ι → K}
    (greedy : ∀ next, picked values (pick next) = best values next) (i : ι) :
    backup discount outcomes values i =
      meanReward outcomes i + pursuit discount outcomes pick values i := by
  unfold backup
  simp only [← greedy]
  rw [mean_map_add, mean_map_mul]
  rfl

end Selections

variable [Field K] [LinearOrder K] [IsStrictOrderedRing K]

/-! ## Contractions in the supremum norm -/

/-- Two families of values differ by at most a bound at every point. -/
def Within (bound : K) (first second : ι → K) : Prop := ∀ i, |first i - second i| ≤ bound

/-- Whatever bound separates two families, a multiple of it separates their
images. -/
def Contracts (factor : K) (operator : (ι → K) → ι → K) : Prop :=
  ∀ first second bound, 0 ≤ bound → Within bound first second →
    Within (factor * bound) (operator first) (operator second)

section Contraction

variable {operator : (ι → K) → ι → K} {factor : K}

/-- A bound that holds at a point of largest distance holds everywhere. -/
theorem within_of_largest [Finite ι] (first second : ι → K) :
    ∃ bound, 0 ≤ bound ∧ Within bound first second ∧
      (bound = 0 ∨ ∃ i, |first i - second i| = bound) := by
  rcases isEmpty_or_nonempty ι with empty | some_
  · exact ⟨0, le_rfl, fun i => (empty.false i).elim, .inl rfl⟩
  · rcases Finite.exists_max fun i => |first i - second i| with ⟨i, largest⟩
    exact ⟨_, abs_nonneg _, largest, .inr ⟨i, rfl⟩⟩

/-- Values that are closer after every step than their distance allows are
equal. -/
theorem eq_of_shrinking [Finite ι] (below : factor < 1) {first second : ι → K}
    (shrinks : ∀ bound, 0 ≤ bound → Within bound first second →
      Within (factor * bound) first second) : first = second := by
  rcases within_of_largest first second with ⟨bound, nonneg, within_, attained⟩
  have zero : bound = 0 := by
    rcases attained with zero | ⟨i, attained⟩
    · exact zero
    · have closer := shrinks bound nonneg within_ i
      rw [attained] at closer
      nlinarith
  funext i
  have none_ := within_ i
  rw [zero] at none_
  exact sub_eq_zero.mp (abs_nonpos_iff.mp none_)

theorem Contracts.fixed_unique [Finite ι] (contracts : Contracts factor operator)
    (below : factor < 1) {first second : ι → K} (fixed : operator first = first)
    (other : operator second = second) : first = second := by
  apply eq_of_shrinking below
  intro bound nonneg within_
  have closer := contracts first second bound nonneg within_
  rwa [fixed, other] at closer

variable {star : ι → K}

/-- After `n` steps the distance from a fixed point has shrunk `n` times. -/
theorem Contracts.iterate_within (contracts : Contracts factor operator) (nonneg : 0 ≤ factor)
    (fixed : operator star = star) {first : ι → K} {bound : K} (start : 0 ≤ bound)
    (within_ : Within bound first star) (n : ℕ) :
    Within (factor ^ n * bound) (operator^[n] first) star := by
  induction n with
  | zero => simpa using within_
  | succ n ih =>
    have closer := contracts _ _ _ (mul_nonneg (pow_nonneg nonneg n) start) ih
    rw [fixed, ← mul_assoc, ← pow_succ'] at closer
    rw [Function.iterate_succ_apply']
    exact closer

/-- How far a step moves bounds how far the fixed point can be. -/
theorem Contracts.within_of_moved [Finite ι] (contracts : Contracts factor operator)
    (below : factor < 1) (fixed : operator star = star) {first : ι → K} {moved : K}
    (start : 0 ≤ moved) (step : Within moved (operator first) first) :
    Within (moved / (1 - factor)) first star := by
  rcases within_of_largest first star with ⟨bound, positive, within_, attained⟩
  have closer := contracts first star bound positive within_
  rw [fixed] at closer
  have gap : 0 < 1 - factor := sub_pos.mpr below
  have near : bound ≤ moved / (1 - factor) := by
    rw [le_div_iff₀ gap]
    rcases attained with zero | ⟨i, attained⟩
    · rw [zero, zero_mul]
      exact start
    · have triangle := abs_sub_le (first i) (operator first i) (star i)
      have stepped := step i
      rw [abs_sub_comm] at stepped
      have shrunk := closer i
      rw [attained] at triangle
      linarith
  exact fun i => (within_ i).trans near

/-- After the step the distance is the discounted one. -/
theorem Contracts.within_of_step [Finite ι] (contracts : Contracts factor operator)
    (below : factor < 1) (fixed : operator star = star) {first : ι → K} {moved : K}
    (start : 0 ≤ moved) (step : Within moved (operator first) first) :
    Within (factor * moved / (1 - factor)) (operator first) star := by
  have near := contracts.within_of_moved below fixed start step
  have closer := contracts _ _ _ (div_nonneg start (sub_pos.mpr below).le) near
  rwa [fixed, ← mul_div_assoc] at closer

end Contraction

/-! ## Backups contract -/

theorem best_sub_le {first second : ι → K} {bound : K} (nonneg : 0 ≤ bound)
    (within_ : Within bound first second) (next : Finset ι) :
    best first next - best second next ≤ bound := by
  rcases next.eq_empty_or_nonempty with rfl | some_
  · rw [best_empty, best_empty, sub_self]
    exact nonneg
  · rcases best_attained first some_ with ⟨i, member, attained⟩
    have below : second i ≤ best second next := le_best member
    have near := (abs_le.mp (within_ i)).2
    rw [attained]
    linarith

theorem abs_best_sub_le {first second : ι → K} {bound : K} (nonneg : 0 ≤ bound)
    (within_ : Within bound first second) (next : Finset ι) :
    |best first next - best second next| ≤ bound := by
  have back : Within bound second first := fun i => by
    rw [abs_sub_comm]
    exact within_ i
  have lower := best_sub_le nonneg back next
  exact abs_le.mpr ⟨by linarith, best_sub_le nonneg within_ next⟩

variable {discount : K} (outcomes : ι → List (K × Finset ι))

theorem backup_contracts (nonneg : 0 ≤ discount) :
    Contracts discount (backup discount outcomes) := by
  intro first second bound start within_ i
  unfold backup
  rw [mean_map_sub]
  apply abs_mean_le (mul_nonneg nonneg start)
  intro value member
  rcases List.mem_map.mp member with ⟨outcome, _, rfl⟩
  rw [add_sub_add_left_eq_sub, ← mul_sub, abs_mul, abs_of_nonneg nonneg]
  exact mul_le_mul_of_nonneg_left (abs_best_sub_le start within_ _) nonneg

/-- With rewards up to a bound, the first backup stays below that bound. -/
theorem backup_zero_within {bound : K} (positive : 0 ≤ bound)
    (rewards : ∀ i, ∀ outcome ∈ outcomes i, |outcome.1| ≤ bound) :
    Within bound (backup discount outcomes 0) 0 := by
  intro i
  rw [Pi.zero_apply, sub_zero]
  apply abs_mean_le positive
  intro value member
  rcases List.mem_map.mp member with ⟨outcome, listed, rfl⟩
  have none_ : best (0 : ι → K) outcome.2 = 0 := by
    rcases outcome.2.eq_empty_or_nonempty with empty | some_
    · rw [empty, best_empty]
    · rcases best_attained (0 : ι → K) some_ with ⟨j, _, attained⟩
      exact attained
  rw [none_, mul_zero, add_zero]
  exact rewards i outcome listed

/-- No number of backups leaves the bound over `1 - discount`. -/
theorem iterate_bounded {bound : K} (nonneg : 0 ≤ discount) (below : discount < 1)
    (positive : 0 ≤ bound)
    (rewards : ∀ i, ∀ outcome ∈ outcomes i, |outcome.1| ≤ bound) (n : ℕ) :
    Within (bound / (1 - discount)) ((backup discount outcomes)^[n] 0) 0 := by
  have gap : 0 < 1 - discount := sub_pos.mpr below
  have limit : 0 ≤ bound / (1 - discount) := div_nonneg positive gap.le
  induction n with
  | zero =>
    intro i
    rw [Function.iterate_zero_apply, sub_self, abs_zero]
    exact limit
  | succ n ih =>
    have closer := backup_contracts outcomes nonneg _ _ _ limit ih
    have first : Within bound (backup discount outcomes 0) 0 :=
      backup_zero_within outcomes positive rewards
    intro i
    rw [Function.iterate_succ_apply']
    calc |backup discount outcomes ((backup discount outcomes)^[n] 0) i - (0 : ι → K) i|
        ≤ |backup discount outcomes ((backup discount outcomes)^[n] 0) i -
            backup discount outcomes 0 i| +
          |backup discount outcomes 0 i - (0 : ι → K) i| := abs_sub_le _ _ _
      _ ≤ discount * (bound / (1 - discount)) + bound := add_le_add (closer i) (first i)
      _ = bound / (1 - discount) := by
        field_simp
        ring

/-! ## A fixed point -/

/-- A backup never falls below the affine map of a selection. -/
theorem le_backup (nonneg : 0 ≤ discount) {pick : Finset ι → Option ι} (picks : Picks pick)
    (values : ι → K) (i : ι) :
    meanReward outcomes i + pursuit discount outcomes pick values i ≤
      backup discount outcomes values i := by
  have joined : meanReward outcomes i + pursuit discount outcomes pick values i =
      mean ((outcomes i).map fun outcome =>
        outcome.1 + discount * picked values (pick outcome.2)) := by
    rw [mean_map_add, mean_map_mul]
    rfl
  rw [joined]
  apply mean_map_le
  intro outcome _
  have below := mul_le_mul_of_nonneg_left (picked_le_best picks values outcome.2) nonneg
  linarith

theorem abs_picked_le {values : ι → K} {bound : K} (nonneg : 0 ≤ bound)
    (bounded : ∀ i, |values i| ≤ bound) (pick : Option ι) : |picked values pick| ≤ bound := by
  cases pick with
  | none =>
    rw [picked, Option.elim_none, abs_zero]
    exact nonneg
  | some i => exact bounded i

/-- Following a selection has a fixed point. -/
theorem exists_pursued [Finite ι] (nonneg : 0 ≤ discount) (below : discount < 1)
    (pick : Finset ι → Option ι) :
    ∃ values : ι → K, ∀ i,
      values i = meanReward outcomes i + pursuit discount outcomes pick values i := by
  let moved : (ι → K) →ₗ[K] ι → K := LinearMap.id - pursuit discount outcomes pick
  have injective : Function.Injective moved := by
    rw [← LinearMap.ker_eq_bot, LinearMap.ker_eq_bot']
    intro values still
    have same : pursuit discount outcomes pick values = values := (sub_eq_zero.mp still).symm
    apply eq_of_shrinking below
    intro bound positive within_ i
    rw [← same]
    simp only [Pi.zero_apply, sub_zero] at within_ ⊢
    change |discount * mean _| ≤ _
    rw [abs_mul, abs_of_nonneg nonneg]
    apply mul_le_mul_of_nonneg_left _ nonneg
    apply abs_mean_le positive
    intro value member
    rcases List.mem_map.mp member with ⟨outcome, _, rfl⟩
    apply abs_picked_le positive
    intro j
    have near := within_ j
    rwa [Pi.zero_apply, sub_zero] at near
  have surjective : Function.Surjective moved :=
    LinearMap.injective_iff_surjective.mp injective
  rcases surjective (meanReward outcomes) with ⟨values, reached⟩
  refine ⟨values, fun i => ?_⟩
  have point : values i - pursuit discount outcomes pick values i = meanReward outcomes i :=
    congrFun reached i
  linarith

/-- What is at least its own discounted picked mean is not negative. -/
theorem nonneg_of_pursuit_le [Finite ι] (nonneg : 0 ≤ discount) (below : discount < 1)
    {pick : Finset ι → Option ι} {values : ι → K}
    (above : ∀ i, pursuit discount outcomes pick values i ≤ values i) (i : ι) :
    0 ≤ values i := by
  have some_ : Nonempty ι := ⟨i⟩
  rcases Finite.exists_min values with ⟨least, smallest⟩
  apply le_trans _ (smallest i)
  by_contra negative
  push Not at negative
  have lower : values least ≤ mean ((outcomes least).map fun outcome =>
      picked values (pick outcome.2)) := by
    apply le_mean negative.le
    intro value member
    rcases List.mem_map.mp member with ⟨outcome, _, rfl⟩
    cases pick outcome.2 with
    | none => exact negative.le
    | some j => exact smallest j
  have step : discount * mean _ ≤ _ := above least
  have scaled := mul_le_mul_of_nonneg_left lower nonneg
  nlinarith

/-- Over an ordered field, complete or not, a backup has a fixed point: a
selection whose own fixed point has the largest sum is a best one. -/
theorem backup_fixed [Finite ι] (nonneg : 0 ≤ discount) (below : discount < 1) :
    ∃ values : ι → K, backup discount outcomes values = values := by
  classical
  have := Fintype.ofFinite ι
  choose pursued fixed using exists_pursued outcomes nonneg below
  have valid : Nonempty {pick : Finset ι → Option ι // Picks pick} := by
    rcases exists_greedy (0 : ι → K) with ⟨pick, picks, _⟩
    exact ⟨pick, picks⟩
  rcases Finite.exists_max fun pick : {pick : Finset ι → Option ι // Picks pick} =>
    ∑ i, pursued pick.1 i with ⟨⟨pick, picks⟩, largest⟩
  rcases exists_greedy (pursued pick) with ⟨greedy, other, attains⟩
  have backed (i : ι) : pursued pick i ≤
      meanReward outcomes i + pursuit discount outcomes greedy (pursued pick) i := by
    rw [← backup_of_greedy discount outcomes attains]
    exact (fixed pick i).le.trans (le_backup outcomes nonneg picks _ i)
  -- the greedy selection does at least as well at every point
  have improved (i : ι) : pursued pick i ≤ pursued greedy i := by
    have above (j : ι) : pursuit discount outcomes greedy (pursued greedy - pursued pick) j ≤
        (pursued greedy - pursued pick) j := by
      rw [map_sub, Pi.sub_apply, Pi.sub_apply]
      have here := fixed greedy j
      have there := backed j
      linarith
    exact sub_nonneg.mp (nonneg_of_pursuit_le outcomes nonneg below above i)
  have same : pursued pick = pursued greedy := by
    have sums := largest ⟨greedy, other⟩
    have equal : ∑ i, pursued pick i = ∑ i, pursued greedy i :=
      le_antisymm (Finset.sum_le_sum fun i _ => improved i) sums
    funext i
    exact (Finset.sum_eq_sum_iff_of_le fun i _ => improved i).mp equal i (Finset.mem_univ i)
  refine ⟨pursued pick, funext fun i => ?_⟩
  rw [backup_of_greedy discount outcomes attains, same]
  exact (fixed greedy i).symm

end Library
