import ForgeRL.Library.Agreement
import ForgeRL.Library.Rounding
import ForgeRL.Bench.Router

namespace ForgeRL

open Library

/-!
# Comparing an answer with the expected one

`_same` decides whether the value that a candidate returned is the expected
one.  It walks both values from left to right and stops at the first
difference.  A number is compared by `math.isclose`, integers included, and
both arguments are converted to floats before, which raises for an integer
beyond the range of the floats.

Whether two numbers are close is a parameter of the walk, so that what is said
of its control flow holds for the rounded comparison of the machine and for
the exact one.
-/

namespace Sandbox

/-- The language's `OverflowError`. -/
def overflowError : Escape := .other

/-- An integer that `float` converts. -/
def Fits (value : ℤ) : Prop := (Binary64.ofInt? value).isSome = true

instance (value : ℤ) : Decidable (Fits value) := inferInstanceAs (Decidable (_ = _))

/-- `isinstance(value, (int, float))`, without the booleans. -/
def IsNumber : Json → Prop
  | .int _ | .float _ => True
  | _ => False

/-- A number that `float` does not convert. -/
def TooLarge : Json → Prop
  | .int value => ¬ Fits value
  | _ => False

instance (value : Json) : Decidable (TooLarge value) := by
  cases value <;> unfold TooLarge <;> infer_instance

/-- The exact value of a finite number, also of an integer that is too large
for a float. -/
def exactValue? : Json → Option ℚ
  | .int value => some value
  | .float (.finite value) => some value
  | _ => none

/-- Go on after an agreement only, as `and` and `all` do. -/
def andAlso (first rest : Except Escape Bool) : Except Escape Bool :=
  match first with
  | .ok true => rest
  | stopped => stopped

section Walk

variable (close : ℚ → ℚ → Bool)

/-- `math.isfinite` of a number. -/
def isfinite (value : Json) : Except Escape Bool :=
  if TooLarge value then .error overflowError else .ok (exactValue? value).isSome

/-- `math.isclose` of a finite number and the expected one. -/
def isclose (actual expected : Json) : Except Escape Bool :=
  if TooLarge expected then .error overflowError
  else
    match exactValue? actual, exactValue? expected with
    | some first, some second => .ok (close first second)
    | _, _ => .ok false

/-- The comparison with an expected number. -/
def sameNumber (actual expected : Json) : Except Escape Bool :=
  match actual with
  | .int _ | .float _ => andAlso (isfinite actual) (isclose close actual expected)
  | _ => .ok false

mutual

/-- `_same` -/
def same : Json → Json → Except Escape Bool
  | .null, .null => .ok true
  | .bool actual, .bool expected => .ok (actual = expected)
  | .str actual, .str expected => .ok (actual = expected)
  | actual, .int expected => sameNumber close actual (.int expected)
  | actual, .float expected => sameNumber close actual (.float expected)
  | .arr actual, .arr expected =>
    if actual.length = expected.length then sameItems actual expected else .ok false
  | .obj actual, .obj expected =>
    if Json.SameNames actual expected then sameFields actual expected else .ok false
  | _, _ => .ok false

def sameItems : List Json → List Json → Except Escape Bool
  | actual :: others, expected :: rest => andAlso (same actual expected) (sameItems others rest)
  | _, _ => .ok true

def sameFields (actual : JsonObject) : JsonObject → Except Escape Bool
  | [] => .ok true
  | (name, expected) :: rest =>
    match Json.valueOf? actual name with
    | none => .ok false
    | some value => andAlso (same value expected) (sameFields actual rest)

end

/-! ## What the walk decides -/

/-- Two numbers that `_same` takes for equal. -/
def CloseNumbers (actual expected : Json) : Prop :=
  ∃ first second, exactValue? actual = some first ∧ exactValue? expected = some second ∧
    close first second = true

/-- The comparison of an answer with an expected number converts an integer
that is too large. -/
def Unconverted (actual expected : Json) : Prop :=
  IsNumber expected ∧
    (TooLarge actual ∨ (exactValue? actual).isSome = true ∧ TooLarge expected)

/-- The walk meets two numbers one of which is too large. -/
def Overflows (actual expected : Json) : Prop :=
  ∃ left right, Json.Reaches (CloseNumbers close) left right actual expected ∧
    Unconverted left right

/-- What a walk gives: it raises, or it decides. -/
def Decides (outcome : Except Escape Bool) (overflows agrees : Prop) : Prop :=
  (overflows ∧ outcome = .error overflowError) ∨
    (¬ overflows ∧ ∃ decision, outcome = .ok decision ∧ (decision = true ↔ agrees))

section Decisions

variable {close}

theorem decides_ok {outcome : Except Escape Bool} {overflows agrees : Prop} {decision : Bool}
    (same : outcome = .ok decision) (fits : ¬ overflows) (decided : decision = true ↔ agrees) :
    Decides outcome overflows agrees :=
  .inr ⟨fits, decision, same, decided⟩

theorem sameNumber_decides (actual : Json) {expected : Json} (number : IsNumber expected) :
    Decides (sameNumber close actual expected) (Unconverted actual expected)
      (CloseNumbers close actual expected) := by
  by_cases numeric : IsNumber actual
  · have walked : sameNumber close actual expected =
        andAlso (isfinite actual) (isclose close actual expected) := by
      cases actual <;> rfl
    rw [walked]
    unfold isfinite
    by_cases large : TooLarge actual
    · rw [if_pos large]
      exact .inl ⟨⟨number, .inl large⟩, rfl⟩
    · rw [if_neg large]
      cases left : exactValue? actual with
      | none =>
        refine decides_ok rfl ?_ ?_
        · rintro ⟨_, exceeds | ⟨finite, _⟩⟩
          · exact large exceeds
          · simp [left] at finite
        · simp [CloseNumbers, left]
      | some first =>
        show Decides (isclose close actual expected) _ _
        unfold isclose
        by_cases exceeds : TooLarge expected
        · rw [if_pos exceeds]
          exact .inl ⟨⟨number, .inr ⟨by rw [left]; rfl, exceeds⟩⟩, rfl⟩
        · rw [if_neg exceeds, left]
          have fits : ¬ Unconverted actual expected := by
            rintro ⟨_, wrong | ⟨_, wrong⟩⟩
            · exact large wrong
            · exact exceeds wrong
          cases right : exactValue? expected with
          | none => exact decides_ok rfl fits (by simp [CloseNumbers, right])
          | some second => exact decides_ok rfl fits (by simp [CloseNumbers, left, right])
  · have stopped : sameNumber close actual expected = .ok false := by
      cases actual <;> first | rfl | exact absurd trivial numeric
    have valueless : exactValue? actual = none := by
      cases actual <;> first | rfl | exact absurd trivial numeric
    refine decides_ok stopped ?_ ?_
    · rintro ⟨_, large | ⟨finite, _⟩⟩
      · cases actual <;> first | exact large | exact absurd trivial numeric
      · simp [valueless] at finite
    · simp [CloseNumbers, valueless]

theorem overflows_scalar {actual expected : Json}
    (lists : ∀ items rest, actual = .arr items → expected ≠ .arr rest)
    (objects : ∀ fields rest, actual = .obj fields → expected ≠ .obj rest) :
    Overflows close actual expected ↔ Unconverted actual expected := by
  unfold Overflows
  simp only [Json.reaches_scalar lists objects]
  constructor
  · rintro ⟨left, right, ⟨rfl, rfl⟩, unconverted⟩
    exact unconverted
  · exact fun unconverted => ⟨actual, expected, ⟨rfl, rfl⟩, unconverted⟩

/-- The walk through two lists meets a pair that does not convert. -/
def ItemsOverflow (close : ℚ → ℚ → Bool) (actual expected : List Json) : Prop :=
  ∃ left right, Json.ReachesItems (CloseNumbers close) left right actual expected ∧
    Unconverted left right

def FieldsOverflow (close : ℚ → ℚ → Bool) (actual expected : JsonObject) : Prop :=
  ∃ left right, Json.ReachesFields (CloseNumbers close) left right actual expected ∧
    Unconverted left right

theorem itemsOverflow_cons {actual expected : Json} {others rest : List Json} :
    ItemsOverflow close (actual :: others) (expected :: rest) ↔
      Overflows close actual expected ∨
        (Json.Agree (CloseNumbers close) actual expected ∧ ItemsOverflow close others rest) := by
  simp only [ItemsOverflow, Overflows, Json.ReachesItems, or_and_right, exists_or, and_assoc,
    exists_and_left]

theorem fieldsOverflow_cons {actual rest : JsonObject} {name : Text} {value expected : Json}
    (found : Json.valueOf? actual name = some value) :
    FieldsOverflow close actual ((name, expected) :: rest) ↔
      Overflows close value expected ∨
        (Json.Agree (CloseNumbers close) value expected ∧ FieldsOverflow close actual rest) := by
  simp only [FieldsOverflow, Overflows, Json.ReachesFields, found, Option.some.injEq,
    exists_eq_left', or_and_right, exists_or, and_assoc, exists_and_left]

theorem overflows_arr {actual expected : List Json} :
    Overflows close (.arr actual) (.arr expected) ↔
      actual.length = expected.length ∧ ItemsOverflow close actual expected := by
  have inside (left right : Json) (unconverted : Unconverted left right) :
      ¬ (left = .arr actual ∧ right = .arr expected) := by
    rintro ⟨rfl, rfl⟩
    exact unconverted.1
  simp only [Overflows, ItemsOverflow, Json.Reaches]
  constructor
  · rintro ⟨left, right, itself | ⟨lengths, met⟩, unconverted⟩
    · exact absurd itself (inside left right unconverted)
    · exact ⟨lengths, left, right, met, unconverted⟩
  · rintro ⟨lengths, left, right, met, unconverted⟩
    exact ⟨left, right, .inr ⟨lengths, met⟩, unconverted⟩

theorem overflows_obj {actual expected : JsonObject} :
    Overflows close (.obj actual) (.obj expected) ↔
      Json.SameNames actual expected ∧ FieldsOverflow close actual expected := by
  have inside (left right : Json) (unconverted : Unconverted left right) :
      ¬ (left = .obj actual ∧ right = .obj expected) := by
    rintro ⟨rfl, rfl⟩
    exact unconverted.1
  simp only [Overflows, FieldsOverflow, Json.Reaches]
  constructor
  · rintro ⟨left, right, itself | ⟨names, met⟩, unconverted⟩
    · exact absurd itself (inside left right unconverted)
    · exact ⟨names, left, right, met, unconverted⟩
  · rintro ⟨names, left, right, met, unconverted⟩
    exact ⟨left, right, .inr ⟨names, met⟩, unconverted⟩

/-- One comparison, and the rest of the walk when it succeeds. -/
theorem Decides.next {first later : Except Escape Bool}
    {overflows agrees laterOverflows laterAgrees : Prop}
    (decides : Decides first overflows agrees)
    (rest : Decides later laterOverflows laterAgrees) :
    Decides (andAlso first later) (overflows ∨ (agrees ∧ laterOverflows)) (agrees ∧ laterAgrees) := by
  rcases decides with ⟨exceeds, rfl⟩ | ⟨fits, decision, rfl, decided⟩
  · exact .inl ⟨.inl exceeds, rfl⟩
  · cases decision with
    | false =>
      have differs : ¬ agrees := fun agree => by simpa using decided.mpr agree
      exact decides_ok rfl (by simp [fits, differs]) (by simp [differs])
    | true =>
      have agree : agrees := decided.mp rfl
      rcases rest with ⟨exceeds, rfl⟩ | ⟨still, decision, rfl, later⟩
      · exact .inl ⟨.inr ⟨agree, exceeds⟩, rfl⟩
      · exact decides_ok rfl (by simp [fits, still]) (by simp [agree, later])

mutual

/-- `_same` raises exactly when it meets a number that does not convert, and
otherwise decides whether the two values agree. -/
theorem same_decides : ∀ actual expected, Decides (same close actual expected)
    (Overflows close actual expected) (Json.Agree (CloseNumbers close) actual expected)
  | actual, .null => by
    have fits : ¬ Overflows close actual .null := by
      rw [overflows_scalar (by simp) (by simp)]
      exact fun unconverted => unconverted.1
    cases actual <;> exact decides_ok rfl fits (by simp [Json.Agree])
  | actual, .bool value => by
    have fits : ¬ Overflows close actual (.bool value) := by
      rw [overflows_scalar (by simp) (by simp)]
      exact fun unconverted => unconverted.1
    cases actual <;> exact decides_ok rfl fits (by simp [Json.Agree])
  | actual, .str text => by
    have fits : ¬ Overflows close actual (.str text) := by
      rw [overflows_scalar (by simp) (by simp)]
      exact fun unconverted => unconverted.1
    cases actual <;> exact decides_ok rfl fits (by simp [Json.Agree])
  | actual, .int value => by
    rw [overflows_scalar (by simp) (by simp)]
    have decides := @sameNumber_decides close actual (.int value) trivial
    cases actual <;> exact decides
  | actual, .float value => by
    rw [overflows_scalar (by simp) (by simp)]
    have decides := @sameNumber_decides close actual (.float value) trivial
    cases actual <;> exact decides
  | actual, .arr expected => by
    cases actual with
    | arr actual =>
      rw [overflows_arr, same, Json.Agree]
      by_cases lengths : actual.length = expected.length
      · rw [if_pos lengths]
        simpa only [lengths, true_and] using sameItems_decides actual expected lengths
      · rw [if_neg lengths]
        exact decides_ok rfl (fun overflows => lengths overflows.1)
          (by simpa using fun agree => lengths agree.length)
    | _ =>
      exact decides_ok rfl (by simp [overflows_scalar, Unconverted, IsNumber])
        (by simp [Json.Agree])
  | actual, .obj expected => by
    cases actual with
    | obj actual =>
      rw [overflows_obj, same, Json.Agree]
      by_cases names : Json.SameNames actual expected
      · rw [if_pos names]
        simpa only [names, true_and] using sameFields_decides actual expected names.2
      · rw [if_neg names]
        exact decides_ok rfl (fun overflows => names overflows.1) (by simp [names])
    | _ =>
      exact decides_ok rfl (by simp [overflows_scalar, Unconverted, IsNumber])
        (by simp [Json.Agree])

theorem sameItems_decides : ∀ actual expected, actual.length = expected.length →
    Decides (sameItems close actual expected) (ItemsOverflow close actual expected)
      (Json.AgreeItems (CloseNumbers close) actual expected)
  | [], [], _ =>
    decides_ok rfl (by simp [ItemsOverflow, Json.ReachesItems]) (by simp [Json.AgreeItems])
  | actual :: others, expected :: rest, lengths => by
    rw [itemsOverflow_cons, sameItems, Json.AgreeItems]
    exact (same_decides actual expected).next
      (sameItems_decides others rest (Nat.succ.inj lengths))

theorem sameFields_decides (actual : JsonObject) : ∀ expected : JsonObject,
    (∀ name ∈ Json.names expected, name ∈ Json.names actual) →
    Decides (sameFields close actual expected) (FieldsOverflow close actual expected)
      (Json.AgreeFields (CloseNumbers close) actual expected)
  | [], _ =>
    decides_ok rfl (by simp [FieldsOverflow, Json.ReachesFields]) (by simp [Json.AgreeFields])
  | (name, expected) :: rest, present => by
    rcases Json.valueOf?_of_mem (present name List.mem_cons_self) with ⟨value, found⟩
    rw [fieldsOverflow_cons found, sameFields, Json.AgreeFields, found]
    simp only [Option.some.injEq, exists_eq_left']
    exact (same_decides value expected).next
      (sameFields_decides actual rest fun other member =>
        present other (List.mem_cons_of_mem _ member))

end

end Decisions

end Walk

/-! ## Answers without floats -/

/-- `math.isclose` with both tolerances `1e-9`, in exact arithmetic. -/
def exactlyClose (first second : ℚ) : Bool :=
  |first - second| ≤ max (max |first| |second| / 1000000000) (1 / 1000000000)

/-- Two integers that count as equal: they are, or they differ by at most
`1e-9` of the larger absolute value. -/
def NearIntegers (first second : ℤ) : Prop :=
  first = second ∨ 1000000000 * |first - second| ≤ max |first| |second|

/-- A comparison of integers as a comparison of numbers. -/
def onIntegers (compare : ℤ → ℤ → Prop) (actual expected : Json) : Prop :=
  ∃ first second, actual = .int first ∧ expected = .int second ∧ compare first second

theorem exactlyClose_iff (first second : ℤ) :
    exactlyClose first second = true ↔ NearIntegers first second := by
  have scaled (difference larger : ℤ) (natural : 0 ≤ difference) :
      (difference : ℚ) ≤ max ((larger : ℚ) / 1000000000) (1 / 1000000000) ↔
        difference = 0 ∨ 1000000000 * difference ≤ larger := by
    rw [le_max_iff, le_div_iff₀ (by norm_num), le_div_iff₀ (by norm_num)]
    norm_cast
    omega
  have cast : |(first : ℚ) - second| = ((|first - second| : ℤ) : ℚ) ∧
      max |(first : ℚ)| |(second : ℚ)| = ((max |first| |second| : ℤ) : ℚ) := by
    push_cast
    exact ⟨rfl, rfl⟩
  rw [exactlyClose, decide_eq_true_iff, cast.1, cast.2, scaled _ _ (abs_nonneg _),
    abs_eq_zero, sub_eq_zero, NearIntegers]

/-- Below the inverse of the tolerance no other integer is near. -/
theorem nearIntegers_iff_eq {first second : ℤ} (small : |second| < 999999999) :
    NearIntegers first second ↔ first = second := by
  unfold NearIntegers
  simp only [Int.abs_eq_natAbs] at small ⊢
  constructor
  · rintro (same | near) <;> omega
  · exact .inl

/-- Two values that agree up to nearby integers, where somewhere the integers
differ. -/
def Confused (actual expected : Json) : Prop :=
  Json.Agree (onIntegers NearIntegers) actual expected ∧
    ∃ first second, first ≠ second ∧
      Json.Reaches (onIntegers NearIntegers) (.int first) (.int second) actual expected

/-- Agreement up to nearby integers is structural equality unless two nearby
integers are confused. -/
theorem agree_eq_iff {actual expected : Json} (wanted : expected.Integers Fits) :
    Json.Agree (onIntegers Eq) actual expected ↔
      Json.Agree (onIntegers NearIntegers) actual expected ∧ ¬ Confused actual expected := by
  have finer (actual value : Json) (same : onIntegers Eq actual value) :
      onIntegers NearIntegers actual value := by
    rcases same with ⟨first, second, given, expected, same⟩
    exact ⟨first, second, given, expected, .inl same⟩
  rw [Json.agree_iff_of_finer finer wanted]
  refine and_congr_right fun agree => ?_
  -- every pair that is met on the way consists of two nearby integers
  have near := ((Json.agree_iff_of_finer (fun _ _ => id) wanted).mp agree).2
  constructor
  · rintro apart ⟨_, first, second, differ, met⟩
    rcases apart _ _ met with ⟨_, _, given, expected, same⟩
    cases given
    cases expected
    exact differ same
  · intro clear left value met
    rcases near left value met with ⟨first, second, rfl, expected, _⟩
    cases expected
    refine ⟨first, value, rfl, rfl, ?_⟩
    by_contra differ
    exact clear ⟨agree, first, value, differ, met⟩

/-- On answers without floats, whose integers convert, `_same` decides, and it
accepts exactly the structurally equal answers, where two integers count as
equal when they differ by at most `1e-9` of the larger one.  This is structural
equality exactly when no two nearby integers are confused, and always when the
expected integers are below `999999999`. -/
theorem same_float_free (actual expected : Json) (given : actual.Integers Fits)
    (wanted : expected.Integers Fits) :
    ∃ decision, same exactlyClose actual expected = .ok decision ∧
      (decision = true ↔ Json.Agree (onIntegers NearIntegers) actual expected) ∧
      ((decision = true ↔ Json.Agree (onIntegers Eq) actual expected) ↔
        ¬ Confused actual expected) ∧
      (expected.Integers (fun value => |value| < 999999999) →
        (decision = true ↔ Json.Agree (onIntegers Eq) actual expected)) := by
  have fits : ¬ Overflows exactlyClose actual expected := by
    rintro ⟨left, right, met, number, unconverted⟩
    rcases met.integers given wanted with ⟨leftFits, rightFits⟩
    rcases unconverted with large | ⟨_, large⟩
    · cases left <;> first | exact large | exact large leftFits
    · cases right <;> first | exact large | exact large rightFits
  have near (actual : Json) (value : ℤ) (integers : actual.Integers Fits) :
      CloseNumbers exactlyClose actual (.int value) ↔
        onIntegers NearIntegers actual (.int value) := by
    cases actual with
    | int first => simp [CloseNumbers, onIntegers, exactValue?, exactlyClose_iff]
    | float first => exact integers.elim
    | _ => simp [CloseNumbers, onIntegers, exactValue?]
  rcases @same_decides exactlyClose actual expected with
    ⟨overflows, _⟩ | ⟨_, decision, walked, decided⟩
  · exact absurd overflows fits
  · have agreed : decision = true ↔ Json.Agree (onIntegers NearIntegers) actual expected :=
      decided.trans (Json.agree_congr (fun actual value integers _ => near actual value integers)
        given wanted)
    refine ⟨decision, walked, agreed, ?_, ?_⟩
    · rw [agreed, agree_eq_iff wanted]
      have agrees : Confused actual expected →
          Json.Agree (onIntegers NearIntegers) actual expected := And.left
      tauto
    · intro small
      refine agreed.trans (Json.agree_congr ?_ given small)
      intro actual value _ small
      cases actual with
      | int first => simp [onIntegers, nearIntegers_iff_eq small, eq_comm]
      | _ => simp [onIntegers]

theorem same_float_free_pair :
    ∃ decision, same exactlyClose (.arr [.int 1, .null]) (.arr [.int 1, .null]) = .ok decision ∧
      (decision = true ↔
        Json.Agree (onIntegers Eq) (.arr [.int 1, .null]) (.arr [.int 1, .null])) := by
  have fits : (Json.arr [.int 1, .null]).Integers Fits :=
    ⟨by show Fits 1; decide +kernel, trivial, trivial⟩
  rcases same_float_free _ _ fits fits with ⟨decision, walked, _, _, exact_⟩
  exact ⟨decision, walked, exact_ ⟨by show |(1 : ℤ)| < _; decide, trivial, trivial⟩⟩

/-- The tolerance also applies to integers: a wrong answer is accepted. -/
theorem same_not_structural :
    ¬ ∀ actual expected, actual.Integers Fits → expected.Integers Fits →
      (same exactlyClose actual expected = .ok true ↔
        Json.Agree (onIntegers Eq) actual expected) := by
  intro structural
  have accepted : same exactlyClose (.int 3002399751580332) (.int 3002399751580331) = .ok true := by
    decide +kernel
  rcases (structural (.int 3002399751580332) (.int 3002399751580331)
    (by show Fits _; decide +kernel) (by show Fits _; decide +kernel)).mp accepted with
    ⟨first, second, given, wanted, same⟩
  cases given
  cases wanted
  exact absurd same (by decide)

end Sandbox

end ForgeRL
