import Mathlib.Data.Rat.Floor
import Mathlib.Algebra.Order.Field.Power
import Mathlib.Tactic.Linarith

/-!
# Rounding to integers and to binary64

Every finite binary64 value is a rational number, so a float computation is
modelled as the exact operation followed by one rounding.  Rounding is to the
nearest representable value with ties to even; a result whose magnitude does
not stay below `2 ^ 1024` overflows, and the operation has no finite value.
The sign of zero is not kept.

A computation that is to have its exact and its float meaning in one
definition takes its arithmetic as a parameter: what an operation makes of its
exact result.
-/

namespace Library

/-! ## Rounding to the nearest integer -/

/-- Nearest integer, ties to the even neighbour. -/
def roundHalfEven (x : ℚ) : ℤ :=
  let below := ⌊x⌋
  if x - below < 1 / 2 then below
  else if 1 / 2 < x - below then below + 1
  else if below % 2 = 0 then below else below + 1

theorem floor_le_roundHalfEven (x : ℚ) : ⌊x⌋ ≤ roundHalfEven x := by
  simp only [roundHalfEven]
  split
  · exact le_refl _
  · split
    · omega
    · split <;> omega

/-- Rounding never crosses an integer downwards. -/
theorem le_roundHalfEven {bound : ℤ} {x : ℚ} (reached : (bound : ℚ) ≤ x) :
    bound ≤ roundHalfEven x :=
  (Int.le_floor.mpr reached).trans (floor_le_roundHalfEven x)

theorem roundHalfEven_le (x : ℚ) : roundHalfEven x ≤ ⌊x⌋ + 1 := by
  simp only [roundHalfEven]
  split
  · omega
  · split
    · exact le_refl _
    · split <;> omega

/-- Rounding moves a value by at most one. -/
theorem abs_roundHalfEven_le (x : ℚ) : |(roundHalfEven x : ℚ)| ≤ |x| + 1 := by
  have below : (⌊x⌋ : ℚ) ≤ roundHalfEven x := Int.cast_le.mpr (floor_le_roundHalfEven x)
  have above : (roundHalfEven x : ℚ) ≤ ⌊x⌋ + 1 := by exact_mod_cast roundHalfEven_le x
  have start := Int.floor_le x
  have next := Int.lt_floor_add_one x
  have size := abs_le.mp (le_refl |x|)
  rw [abs_le]
  constructor <;> linarith

/-! ## Binary64 -/

namespace Binary64

/-- The exponent `e` with `2 ^ e ≤ |x| < 2 ^ (e + 1)`, for a nonzero `x`. -/
def binaryExponent (x : ℚ) : ℤ :=
  let guess := (Nat.log2 x.num.natAbs : ℤ) - Nat.log2 x.den
  if (2 : ℚ) ^ guess ≤ |x| then guess else guess - 1

/-- The distance of neighbouring floats around a value. -/
def ulp (x : ℚ) : ℚ := (2 : ℚ) ^ (max (binaryExponent x) (-1022) - 52)

/-- The nearest multiple of the local distance. -/
def nearest (x : ℚ) : ℚ := roundHalfEven (x / ulp x) * ulp x

/-- The float nearest to a rational, unless it overflows. -/
def round? (x : ℚ) : Option ℚ :=
  if |nearest x| < (2 : ℚ) ^ (1024 : ℕ) then some (nearest x) else none

/-- Float addition of two finite floats. -/
def add? (first second : ℚ) : Option ℚ := round? (first + second)

def mul? (first second : ℚ) : Option ℚ := round? (first * second)

/-- The float of an integer. -/
def ofInt? (n : ℤ) : Option ℚ := round? n

theorem ulp_pos (x : ℚ) : 0 < ulp x := zpow_pos (by norm_num) _

/-- A positive value is at least `2 ^ binaryExponent`. -/
theorem zpow_binaryExponent_le {x : ℚ} (positive : 0 < x) : (2 : ℚ) ^ binaryExponent x ≤ x := by
  have numerator : 0 < x.num := Rat.num_pos.mpr positive
  have value : x = (x.num.natAbs : ℚ) / x.den := by
    have cast : ((x.num.natAbs : ℤ) : ℚ) = x.num := by
      rw [Int.natAbs_of_nonneg numerator.le]
    rw [← Int.cast_natCast, cast, Rat.num_div_den]
  unfold binaryExponent
  dsimp only
  split_ifs with reached
  · rwa [abs_of_pos positive] at reached
  · have below : (2 : ℚ) ^ Nat.log2 x.num.natAbs ≤ x.num.natAbs := by
      exact_mod_cast Nat.log2_self_le (Int.natAbs_pos.mpr numerator.ne').ne'
    have above : (x.den : ℚ) ≤ 2 ^ (Nat.log2 x.den + 1) := by
      exact_mod_cast (Nat.lt_log2_self).le
    have denominator : (0 : ℚ) < x.den := by exact_mod_cast x.den_pos
    calc (2 : ℚ) ^ ((Nat.log2 x.num.natAbs : ℤ) - Nat.log2 x.den - 1)
        = 2 ^ Nat.log2 x.num.natAbs / 2 ^ (Nat.log2 x.den + 1) := by
          rw [sub_sub, zpow_sub₀ (by norm_num), zpow_natCast]
          norm_cast
      _ ≤ (x.num.natAbs : ℚ) / x.den := by gcongr
      _ = x := value.symm

theorem nearest_nonneg {x : ℚ} (nonneg : 0 ≤ x) : 0 ≤ nearest x := by
  have scaled : ((0 : ℤ) : ℚ) ≤ x / ulp x := by
    rw [Int.cast_zero]
    exact div_nonneg nonneg (ulp_pos x).le
  have rounded : (0 : ℚ) ≤ (roundHalfEven (x / ulp x) : ℚ) := by
    exact_mod_cast le_roundHalfEven scaled
  exact mul_nonneg rounded (ulp_pos x).le

/-- Rounding keeps the sign of a nonnegative value. -/
theorem round?_nonneg {x rounded : ℚ} (nonneg : 0 ≤ x) (finite : round? x = some rounded) :
    0 ≤ rounded := by
  unfold round? at finite
  split at finite
  · cases finite
    exact nearest_nonneg nonneg
  · cases finite

theorem add?_nonneg {first second sum : ℚ} (left : 0 ≤ first) (right : 0 ≤ second)
    (finite : add? first second = some sum) : 0 ≤ sum :=
  round?_nonneg (add_nonneg left right) finite

theorem mul?_nonneg {first second product : ℚ} (left : 0 ≤ first) (right : 0 ≤ second)
    (finite : mul? first second = some product) : 0 ≤ product :=
  round?_nonneg (mul_nonneg left right) finite

theorem ofInt?_nonneg {n : ℤ} {float : ℚ} (nonneg : 0 ≤ n) (finite : ofInt? n = some float) :
    0 ≤ float :=
  round?_nonneg (Int.cast_nonneg nonneg) finite

/-- The integers of a machine word are converted. -/
theorem ofInt?_isSome {n : ℤ} (small : n.natAbs < 2 ^ 63) : (ofInt? n).isSome = true := by
  have exponent : binaryExponent n ≤ 63 := by
    have log : Nat.log2 n.natAbs ≤ 63 := by
      by_cases zero : n.natAbs = 0
      · rw [zero]
        decide
      · exact ((Nat.log2_lt zero).mpr small).le
    have one : Nat.log2 1 = 0 := by decide
    simp only [binaryExponent, Rat.num_intCast, Rat.den_intCast, one]
    split <;> omega
  have unit : ulp n ≤ (2 : ℚ) ^ (11 : ℤ) :=
    zpow_le_zpow_right₀ (by norm_num) (by omega)
  have positive := ulp_pos (n : ℚ)
  have magnitude : |(n : ℚ)| ≤ 2 ^ 63 := by
    rw [← Int.cast_abs, Int.abs_eq_natAbs]
    exact_mod_cast small.le
  have moved : |nearest n| ≤ |(n : ℚ)| + ulp n := by
    rw [nearest, abs_mul, abs_of_pos positive]
    calc |(roundHalfEven (n / ulp n) : ℚ)| * ulp n
        ≤ (|(n : ℚ) / ulp n| + 1) * ulp n :=
          mul_le_mul_of_nonneg_right (abs_roundHalfEven_le _) positive.le
      _ = |(n : ℚ)| + ulp n := by
          rw [abs_div, abs_of_pos positive, add_mul, div_mul_cancel₀ _ positive.ne', one_mul]
  have fits : |nearest n| < (2 : ℚ) ^ (1024 : ℕ) := by
    calc |nearest n| ≤ 2 ^ 63 + (2 : ℚ) ^ (11 : ℤ) := moved.trans (add_le_add magnitude unit)
      _ ≤ (2 : ℚ) ^ (64 : ℕ) := by norm_num
      _ < (2 : ℚ) ^ (1024 : ℕ) := pow_lt_pow_right₀ (by norm_num) (by norm_num)
  rw [ofInt?, round?, if_pos fits]
  rfl

/-- The nearest value with a significand of 53 bits, of any exponent.  Sums and
differences of floats are multiples of the least float, so that this is what
they are rounded to while they do not overflow. -/
def toSignificand (x : ℚ) : ℚ :=
  roundHalfEven (x / 2 ^ (binaryExponent x - 52)) * 2 ^ (binaryExponent x - 52)

theorem toSignificand_eq_nearest {x : ℚ} (normal : -1022 ≤ binaryExponent x) :
    toSignificand x = nearest x := by
  rw [toSignificand, nearest, ulp, max_eq_left normal]

theorem toSignificand_pos {x : ℚ} (positive : 0 < x) : 0 < toSignificand x := by
  have unit : (0 : ℚ) < 2 ^ (binaryExponent x - 52) := zpow_pos (by norm_num) _
  have smaller : (2 : ℚ) ^ (binaryExponent x - 52) ≤ x :=
    (zpow_le_zpow_right₀ (by norm_num) (by omega)).trans (zpow_binaryExponent_le positive)
  have one : ((1 : ℤ) : ℚ) ≤ x / 2 ^ (binaryExponent x - 52) := by
    rw [Int.cast_one, one_le_div unit]
    exact smaller
  have rounded : (0 : ℚ) < roundHalfEven (x / 2 ^ (binaryExponent x - 52)) := by
    have least := le_roundHalfEven one
    exact_mod_cast Int.lt_of_lt_of_le Int.one_pos least
  exact mul_pos rounded unit

end Binary64

/-! ## Arithmetic with and without rounding -/

/-- What an operation makes of its exact result. -/
structure Arithmetic where
  round : ℚ → ℚ
  round_zero : round 0 = 0
  round_pos : ∀ x, 0 < x → 0 < round x

namespace Arithmetic

def rational : Arithmetic := ⟨id, rfl, fun _ positive => positive⟩

/-- The arithmetic of the machine, as long as nothing overflows and no product
or quotient underflows. -/
def binary64 : Arithmetic :=
  ⟨Binary64.toSignificand, by decide +kernel, fun _ => Binary64.toSignificand_pos⟩

/-- No operation rounds. -/
def Exact (arithmetic : Arithmetic) : Prop := ∀ x, arithmetic.round x = x

theorem rational_exact : rational.Exact := fun _ => rfl

/-- The sum of two values.  Adding zero rounds nothing. -/
def add (arithmetic : Arithmetic) (x y : ℚ) : ℚ := if y = 0 then x else arithmetic.round (x + y)

@[simp] theorem add_zero (arithmetic : Arithmetic) (x : ℚ) : arithmetic.add x 0 = x := if_pos rfl

theorem add_of_exact {arithmetic : Arithmetic} (exact_ : arithmetic.Exact) (x y : ℚ) :
    arithmetic.add x y = x + y := by
  unfold add
  split_ifs with zero
  · rw [zero, Rat.add_zero]
  · exact exact_ _

/-- A running total that begins with zero. -/
def total (arithmetic : Arithmetic) (terms : List ℚ) : ℚ := terms.foldl arithmetic.add 0

theorem total_concat (arithmetic : Arithmetic) (terms : List ℚ) (term : ℚ) :
    arithmetic.total (terms ++ [term]) = arithmetic.add (arithmetic.total terms) term :=
  List.foldl_concat arithmetic.add 0 term terms

theorem foldl_add_of_exact {arithmetic : Arithmetic} (exact_ : arithmetic.Exact) (start : ℚ)
    (terms : List ℚ) : terms.foldl arithmetic.add start = start + terms.sum := by
  induction terms generalizing start with
  | nil => exact (Rat.add_zero start).symm
  | cons term terms ih =>
    rw [List.foldl_cons, ih, add_of_exact exact_, List.sum_cons, Rat.add_assoc]

theorem total_of_exact {arithmetic : Arithmetic} (exact_ : arithmetic.Exact) (terms : List ℚ) :
    arithmetic.total terms = terms.sum :=
  (foldl_add_of_exact exact_ 0 terms).trans (Rat.zero_add _)

/-- The mean of some values: their running total, divided by their number. -/
def mean (arithmetic : Arithmetic) (values : List ℚ) : ℚ :=
  arithmetic.round (arithmetic.total values / values.length)

theorem mean_of_exact {arithmetic : Arithmetic} (exact_ : arithmetic.Exact) (values : List ℚ) :
    arithmetic.mean values = values.sum / values.length := by
  rw [mean, exact_, total_of_exact exact_]

theorem round_nonneg (arithmetic : Arithmetic) {x : ℚ} (nonneg : 0 ≤ x) :
    0 ≤ arithmetic.round x := by
  rcases nonneg.eq_or_lt with zero | positive
  · rw [← zero, arithmetic.round_zero]
  · exact (arithmetic.round_pos x positive).le

theorem add_nonneg (arithmetic : Arithmetic) {x y : ℚ} (left : 0 ≤ x) (right : 0 ≤ y) :
    0 ≤ arithmetic.add x y := by
  unfold add
  split_ifs
  · exact left
  · exact arithmetic.round_nonneg (Rat.add_nonneg left right)

end Arithmetic

end Library
