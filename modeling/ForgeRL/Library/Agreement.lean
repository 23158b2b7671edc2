import ForgeRL.Library.Json

namespace Library

/-!
# Comparing JSON values

Two values agree when they have the same shape and the same literals; how two
numbers are compared is a parameter.  With equality this is structural
equality, where an object is a mapping and the order of its fields is
immaterial.

A comparison that goes through the values from left to right and stops at the
first difference does not meet every pair of parts.  `Reaches` says which ones
it meets.
-/

namespace Json

/-- The names of an object. -/
def names (fields : JsonObject) : List Text := fields.map Prod.fst

/-- The value of a field, for any name. -/
def valueOf? (fields : JsonObject) (name : Text) : Option Json :=
  (fields.find? (fun entry => entry.1 = name)).map Prod.snd

theorem valueOf?_of_mem {fields : JsonObject} {name : Text} (member : name ∈ names fields) :
    ∃ value, valueOf? fields name = some value := by
  rcases List.mem_map.mp member with ⟨entry, stored, same⟩
  have found : (fields.find? (fun entry => entry.1 = name)).isSome = true :=
    List.find?_isSome.mpr ⟨entry, stored, decide_eq_true same⟩
  rcases Option.isSome_iff_exists.mp found with ⟨first, first_eq⟩
  exact ⟨first.2, by rw [valueOf?, first_eq]; rfl⟩

/-- Equality of the two sets of names. -/
def SameNames (first second : JsonObject) : Prop :=
  (∀ name ∈ names first, name ∈ names second) ∧ ∀ name ∈ names second, name ∈ names first

instance (first second : JsonObject) : Decidable (SameNames first second) :=
  inferInstanceAs (Decidable (_ ∧ _))

section Agreement

variable (number : Json → Json → Prop)

mutual

/-- The same shape and the same literals, with numbers compared by `number`. -/
def Agree : Json → Json → Prop
  | actual, .null => actual = .null
  | actual, .bool value => actual = .bool value
  | actual, .str text => actual = .str text
  | actual, .int value => number actual (.int value)
  | actual, .float value => number actual (.float value)
  | .arr actual, .arr expected => AgreeItems actual expected
  | .obj actual, .obj expected => SameNames actual expected ∧ AgreeFields actual expected
  | _, .arr _ => False
  | _, .obj _ => False

def AgreeItems : List Json → List Json → Prop
  | [], [] => True
  | actual :: others, expected :: rest => Agree actual expected ∧ AgreeItems others rest
  | _, _ => False

def AgreeFields (actual : JsonObject) : JsonObject → Prop
  | [] => True
  | (name, expected) :: rest =>
    (∃ value, valueOf? actual name = some value ∧ Agree value expected) ∧ AgreeFields actual rest

end

variable {number} in
theorem AgreeItems.length {actual expected : List Json}
    (agree : AgreeItems number actual expected) : actual.length = expected.length := by
  induction actual generalizing expected with
  | nil =>
    cases expected with
    | nil => rfl
    | cons item rest => exact agree.elim
  | cons item others ih =>
    cases expected with
    | nil => exact agree.elim
    | cons first rest => exact congrArg Nat.succ (ih agree.2)

section Reaching

variable (left right : Json)

mutual

/-- A comparison of the two values meets the pair `left`, `right`: it is the
pair itself, or the pair is met inside, after everything before it agrees. -/
def Reaches : Json → Json → Prop
  | .arr actual, .arr expected =>
    (left = .arr actual ∧ right = .arr expected) ∨
      (actual.length = expected.length ∧ ReachesItems actual expected)
  | .obj actual, .obj expected =>
    (left = .obj actual ∧ right = .obj expected) ∨
      (SameNames actual expected ∧ ReachesFields actual expected)
  | actual, expected => left = actual ∧ right = expected

def ReachesItems : List Json → List Json → Prop
  | actual :: others, expected :: rest =>
    Reaches actual expected ∨ (Agree number actual expected ∧ ReachesItems others rest)
  | _, _ => False

def ReachesFields (actual : JsonObject) : JsonObject → Prop
  | [] => False
  | (name, expected) :: rest =>
    ∃ value, valueOf? actual name = some value ∧
      (Reaches value expected ∨ (Agree number value expected ∧ ReachesFields actual rest))

end

end Reaching

variable {number} in
/-- Away from two lists or two objects, a comparison meets one pair. -/
theorem reaches_scalar {left right actual expected : Json}
    (lists : ∀ items rest, actual = .arr items → expected ≠ .arr rest)
    (objects : ∀ fields rest, actual = .obj fields → expected ≠ .obj rest) :
    Reaches number left right actual expected ↔ left = actual ∧ right = expected := by
  unfold Reaches
  split
  · exact absurd rfl (lists _ _ rfl)
  · exact absurd rfl (objects _ _ rfl)
  · rfl

end Agreement

mutual

/-- No float occurs, and every integer is as stated. -/
def Integers (holds : ℤ → Prop) : Json → Prop
  | .int value => holds value
  | .float _ => False
  | .arr items => AllIntegers holds items
  | .obj fields => FieldIntegers holds fields
  | _ => True

def AllIntegers (holds : ℤ → Prop) : List Json → Prop
  | [] => True
  | item :: items => Integers holds item ∧ AllIntegers holds items

def FieldIntegers (holds : ℤ → Prop) : JsonObject → Prop
  | [] => True
  | (_, value) :: fields => Integers holds value ∧ FieldIntegers holds fields

end

section Integers

variable {allowed expectable : ℤ → Prop} {number other : Json → Json → Prop} {left right : Json}

theorem FieldIntegers.valueOf? {fields : JsonObject} (integers : FieldIntegers allowed fields)
    {name : Text} {value : Json} (found : Json.valueOf? fields name = some value) :
    Integers allowed value := by
  induction fields with
  | nil => cases found
  | cons entry fields ih =>
    rcases entry with ⟨first, stored⟩
    by_cases same : first = name
    · simp only [Json.valueOf?, List.find?_cons, same, decide_true, Option.map_some,
        Option.some.injEq] at found
      exact found ▸ integers.1
    · apply ih integers.2
      simpa only [Json.valueOf?, List.find?_cons, same, decide_false] using found

mutual

/-- A comparison stays inside the two values. -/
theorem Reaches.integers : ∀ {actual expected : Json}, Integers allowed actual →
    Integers expectable expected → Reaches number left right actual expected →
    Integers allowed left ∧ Integers expectable right
  | actual, .arr expected, integers, expectables, met => by
    cases actual with
    | arr actual =>
      rcases met with ⟨rfl, rfl⟩ | ⟨_, inside⟩
      · exact ⟨integers, expectables⟩
      · exact ReachesItems.integers integers expectables inside
    | _ =>
      rcases met with ⟨rfl, rfl⟩
      exact ⟨integers, expectables⟩
  | actual, .obj expected, integers, expectables, met => by
    cases actual with
    | obj actual =>
      rcases met with ⟨rfl, rfl⟩ | ⟨_, inside⟩
      · exact ⟨integers, expectables⟩
      · exact ReachesFields.integers integers expectables inside
    | _ =>
      rcases met with ⟨rfl, rfl⟩
      exact ⟨integers, expectables⟩
  | actual, .null, integers, expectables, met
  | actual, .bool _, integers, expectables, met
  | actual, .int _, integers, expectables, met
  | actual, .float _, integers, expectables, met
  | actual, .str _, integers, expectables, met => by
    rcases (reaches_scalar (by simp) (by simp)).mp met with ⟨rfl, rfl⟩
    exact ⟨integers, expectables⟩

theorem ReachesItems.integers : ∀ {actual expected : List Json}, AllIntegers allowed actual →
    AllIntegers expectable expected → ReachesItems number left right actual expected →
    Integers allowed left ∧ Integers expectable right
  | [], [], _, _, met => False.elim met
  | [], _ :: _, _, _, met => False.elim met
  | _ :: _, [], _, _, met => False.elim met
  | _ :: _, _ :: _, integers, expectables, .inl met =>
    Reaches.integers integers.1 expectables.1 met
  | _ :: _, _ :: _, integers, expectables, .inr ⟨_, met⟩ =>
    ReachesItems.integers integers.2 expectables.2 met

theorem ReachesFields.integers {actual : JsonObject} : ∀ {expected : JsonObject},
    FieldIntegers allowed actual → FieldIntegers expectable expected →
    ReachesFields number left right actual expected →
    Integers allowed left ∧ Integers expectable right
  | [], _, _, met => False.elim met
  | _ :: _, integers, expectables, ⟨_, found, .inl met⟩ =>
    Reaches.integers (integers.valueOf? found) expectables.1 met
  | _ :: _, integers, expectables, ⟨_, _, .inr ⟨_, met⟩⟩ =>
    ReachesFields.integers integers expectables.2 met

end

mutual

/-- Two ways to compare numbers give the same agreement when they take the
same values for the integers that occur. -/
theorem agree_congr (alike : ∀ actual value, Integers allowed actual → expectable value →
    (number actual (.int value) ↔ other actual (.int value))) :
    ∀ {actual expected : Json}, Integers allowed actual → Integers expectable expected →
      (Agree number actual expected ↔ Agree other actual expected)
  | actual, .null, _, _ => by simp only [Agree]
  | actual, .bool _, _, _ => by simp only [Agree]
  | actual, .str _, _, _ => by simp only [Agree]
  | actual, .int value, integers, expectables => by
    simpa only [Agree] using alike actual value integers expectables
  | actual, .float _, _, expectables => expectables.elim
  | actual, .arr expected, integers, expectables => by
    cases actual with
    | arr actual => simpa only [Agree] using agreeItems_congr alike integers expectables
    | _ => simp only [Agree]
  | actual, .obj expected, integers, expectables => by
    cases actual with
    | obj actual =>
      simp only [Agree, agreeFields_congr alike integers expectables]
    | _ => simp only [Agree]

theorem agreeItems_congr (alike : ∀ actual value, Integers allowed actual → expectable value →
    (number actual (.int value) ↔ other actual (.int value))) :
    ∀ {actual expected : List Json}, AllIntegers allowed actual → AllIntegers expectable expected →
      (AgreeItems number actual expected ↔ AgreeItems other actual expected)
  | [], [], _, _ => by simp only [AgreeItems]
  | [], _ :: _, _, _ => by simp only [AgreeItems]
  | _ :: _, [], _, _ => by simp only [AgreeItems]
  | _ :: _, _ :: _, integers, expectables => by
    simp only [AgreeItems, agree_congr alike integers.1 expectables.1,
      agreeItems_congr alike integers.2 expectables.2]

theorem agreeFields_congr (alike : ∀ actual value, Integers allowed actual → expectable value →
    (number actual (.int value) ↔ other actual (.int value))) {actual : JsonObject}
    (integers : FieldIntegers allowed actual) :
    ∀ {expected : JsonObject}, FieldIntegers expectable expected →
      (AgreeFields number actual expected ↔ AgreeFields other actual expected)
  | [], _ => by simp only [AgreeFields]
  | (name, expected) :: rest, expectables => by
    have first : (∃ value, valueOf? actual name = some value ∧ Agree number value expected) ↔
        ∃ value, valueOf? actual name = some value ∧ Agree other value expected := by
      refine exists_congr fun value => and_congr_right fun found => ?_
      exact agree_congr alike (integers.valueOf? found) expectables.1
    simp only [AgreeFields, first, agreeFields_congr alike integers expectables.2]

end

/-- No pair of numbers that is met is told apart by `other`. -/
def Undistinguished (number other : Json → Json → Prop) (actual expected : Json) : Prop :=
  ∀ left value, Reaches number left (.int value) actual expected → other left (.int value)

theorem undistinguished_scalar {actual expected : Json}
    (lists : ∀ items rest, actual = .arr items → expected ≠ .arr rest)
    (objects : ∀ fields rest, actual = .obj fields → expected ≠ .obj rest) :
    Undistinguished number other actual expected ↔
      ∀ value, expected = .int value → other actual (.int value) := by
  simp only [Undistinguished, reaches_scalar lists objects]
  exact ⟨fun apart value same => apart actual value ⟨rfl, same.symm⟩,
    fun apart left value met => met.1 ▸ apart value met.2.symm⟩

mutual

/-- A coarser way to compare numbers accepts what a finer one accepts, unless
two numbers are met that only the finer one tells apart. -/
theorem agree_iff_of_finer (finer : ∀ actual value, other actual value → number actual value) :
    ∀ {actual expected : Json}, Integers expectable expected →
      (Agree other actual expected ↔
        Agree number actual expected ∧ Undistinguished number other actual expected)
  | actual, .null, _
  | actual, .bool _, _
  | actual, .str _, _ => by
    rw [undistinguished_scalar (by simp) (by simp)]
    simp only [Agree, reduceCtorEq, false_imp_iff, implies_true, and_true]
  | actual, .int value, _ => by
    rw [undistinguished_scalar (by simp) (by simp)]
    simp only [Agree, int.injEq, forall_eq']
    exact ⟨fun same => ⟨finer _ _ same, same⟩, And.right⟩
  | actual, .float _, integers => integers.elim
  | actual, .arr expected, integers => by
    cases actual with
    | arr actual =>
      have inside := @agreeItems_iff_of_finer finer actual expected integers
      simp only [Undistinguished, Agree, Reaches, reduceCtorEq, and_false, false_or, inside]
      refine and_congr_right fun agree => ?_
      simp only [agree.length, true_and]
    | _ => simp only [Agree, false_and]
  | actual, .obj expected, integers => by
    cases actual with
    | obj actual =>
      have inside := @agreeFields_iff_of_finer finer actual expected integers
      simp only [Undistinguished, Agree, Reaches, reduceCtorEq, and_false, false_or, inside,
        and_assoc]
      refine and_congr_right fun names => and_congr_right fun _ => ?_
      simp only [names, true_and]
    | _ => simp only [Agree, false_and]

theorem agreeItems_iff_of_finer
    (finer : ∀ actual value, other actual value → number actual value) :
    ∀ {actual expected : List Json}, AllIntegers expectable expected →
      (AgreeItems other actual expected ↔ AgreeItems number actual expected ∧
        ∀ left value, ReachesItems number left (.int value) actual expected →
          other left (.int value))
  | [], [], _ => by simp [AgreeItems, ReachesItems]
  | [], _ :: _, _ => by simp only [AgreeItems, false_and]
  | _ :: _, [], _ => by simp only [AgreeItems, false_and]
  | _ :: _, _ :: _, integers => by
    simp only [AgreeItems, ReachesItems, agree_iff_of_finer finer integers.1,
      agreeItems_iff_of_finer finer integers.2, Undistinguished]
    grind

theorem agreeFields_iff_of_finer
    (finer : ∀ actual value, other actual value → number actual value) {actual : JsonObject} :
    ∀ {expected : JsonObject}, FieldIntegers expectable expected →
      (AgreeFields other actual expected ↔ AgreeFields number actual expected ∧
        ∀ left value, ReachesFields number left (.int value) actual expected →
          other left (.int value))
  | [], _ => by simp [AgreeFields, ReachesFields]
  | (name, _) :: _, integers => by
    simp only [AgreeFields, ReachesFields, agreeFields_iff_of_finer finer integers.2]
    cases found : valueOf? actual name with
    | none => simp
    | some value =>
      simp only [Option.some.injEq, exists_eq_left', agree_iff_of_finer finer integers.1,
        Undistinguished]
      grind

end

end Integers

end Json

end Library
