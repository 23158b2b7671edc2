import ForgeRL.Library.Agreement

namespace Library

/-!
# Equality of decoded values

Equality in a dynamic language goes across types: a boolean is a number, and an
integer equals a float of the same value.  Values that can be members of a set
are equal when they have the same key; lists and mappings are compared part by
part, and cannot be members.

A value that is not a number differs from itself in a direct comparison.
Inside a container it is compared by identity first, and the decoder has one
object for it, so there it equals itself.
-/

inductive Key where
  | null
  | number (value : ℚ)
  | nan
  | infinity (negative : Bool)
  | text (text : Text)
deriving DecidableEq, Repr

namespace Json

/-- The key of a value that can be a member of a set. -/
def key? : Json → Option Key
  | .null => some .null
  | .bool value => some (.number (if value then 1 else 0))
  | .int value => some (.number value)
  | .float (.finite value) => some (.number value)
  | .float .nan => some .nan
  | .float (.infinity negative) => some (.infinity negative)
  | .str text => some (.text text)
  | .arr _ => none
  | .obj _ => none

mutual

/-- Equality inside a container. -/
def equal : Json → Json → Bool
  | .arr first, .arr second => equalItems first second
  | .obj first, .obj second => first.length = second.length && equalFields first second
  | first, second => (key? second).isSome && key? first = key? second

def equalItems : List Json → List Json → Bool
  | [], [] => true
  | first :: others, second :: rest => equal first second && equalItems others rest
  | _, _ => false

def equalFields (first : JsonObject) : JsonObject → Bool
  | [] => true
  | (name, second) :: rest =>
    match valueOf? first name with
    | none => false
    | some value => equal value second && equalFields first rest

end

/-- `first != second` -/
def differs (first second : Json) : Bool :=
  !equal first second || key? first = some .nan

theorem equal_key {first second : Json} (same : equal first second = true)
    (hashable : (key? second).isSome = true) : key? first = key? second := by
  unfold equal at same
  split at same
  · cases hashable
  · cases hashable
  · exact of_decide_eq_true (Bool.and_eq_true_iff.mp same).2

theorem equalItems_keys {first second : List Json} (same : equalItems first second = true)
    (hashable : ∀ item ∈ second, (key? item).isSome = true) :
    first.map key? = second.map key? := by
  induction first generalizing second with
  | nil =>
    cases second with
    | nil => rfl
    | cons item rest => cases same
  | cons item others ih =>
    cases second with
    | nil => cases same
    | cons other rest =>
      unfold equalItems at same
      rcases Bool.and_eq_true_iff.mp same with ⟨head, tail⟩
      rw [List.map_cons, List.map_cons, equal_key head (hashable other List.mem_cons_self),
        ih tail fun item member => hashable item (List.mem_cons_of_mem _ member)]

theorem equalFields_valueOf? {first second : JsonObject} (same : equalFields first second = true)
    {name : Text} {value : Json} (found : valueOf? second name = some value) :
    ∃ other, valueOf? first name = some other ∧ equal other value = true := by
  induction second with
  | nil => cases found
  | cons entry second ih =>
    rcases entry with ⟨field, stored⟩
    unfold equalFields at same
    cases present : valueOf? first field with
    | none =>
      rw [present] at same
      cases same
    | some other =>
      rw [present] at same
      rcases Bool.and_eq_true_iff.mp same with ⟨head, tail⟩
      by_cases here : field = name
      · simp only [valueOf?, List.find?_cons, here, decide_true, Option.map_some,
          Option.some.injEq] at found
        exact ⟨other, here ▸ present, found ▸ head⟩
      · apply ih tail
        simpa only [valueOf?, List.find?_cons, here, decide_false] using found

/-- Equal lists of members have the same keys. -/
theorem equal_arr {first : Json} {second : List Json} (same : equal first (.arr second) = true)
    (hashable : ∀ item ∈ second, (key? item).isSome = true) :
    ∃ items, first = .arr items ∧ items.map key? = second.map key? := by
  cases first with
  | arr items =>
    unfold equal at same
    exact ⟨items, rfl, equalItems_keys same hashable⟩
  | _ =>
    unfold equal at same
    cases same

/-- Equal mappings have equal values. -/
theorem equal_obj {first second : JsonObject} (same : equal (.obj first) (.obj second) = true)
    {name : String} {value : Json} (found : field? second name = some value) :
    ∃ other, field? first name = some other ∧ equal other value = true := by
  unfold equal at same
  exact equalFields_valueOf? (Bool.and_eq_true_iff.mp same).2 found

/-- A value that can be a member of a set equals itself. -/
theorem equal_self {value : Json} (hashable : (key? value).isSome = true) :
    equal value value = true := by
  cases value with
  | arr items => cases hashable
  | obj fields => cases hashable
  | _ =>
    unfold equal
    rw [hashable, decide_eq_true rfl]
    rfl

/-- A list of values that equal themselves equals itself. -/
theorem equal_arr_self {items : List Json} (values : ∀ item ∈ items, equal item item = true) :
    equal (.arr items) (.arr items) = true := by
  unfold equal
  induction items with
  | nil => rfl
  | cons item items ih =>
    unfold equalItems
    rw [values item List.mem_cons_self]
    exact ih fun other member => values other (List.mem_cons_of_mem item member)

/-- A mapping of values that equal themselves equals itself. -/
theorem equal_obj_self {fields : JsonObject} (distinct : (fields.map Prod.fst).Nodup)
    (values : ∀ entry ∈ fields, equal entry.2 entry.2 = true) :
    equal (.obj fields) (.obj fields) = true := by
  have found (entry : Text × Json) (member : entry ∈ fields) :
      valueOf? fields entry.1 = some entry.2 := by
    induction fields with
    | nil => cases member
    | cons first rest ih =>
      rw [List.map_cons, List.nodup_cons] at distinct
      unfold valueOf?
      rcases List.mem_cons.mp member with rfl | later
      · simp only [List.find?_cons, decide_true, Option.map_some]
      · have other : first.1 ≠ entry.1 := fun same =>
          distinct.1 (same ▸ List.mem_map_of_mem later)
        simp only [List.find?_cons, other, decide_false]
        exact ih distinct.2 (fun held inside => values held (List.mem_cons_of_mem first inside))
          later
  have among (part : JsonObject) (within : part ⊆ fields) : equalFields fields part = true := by
    induction part with
    | nil => rfl
    | cons entry part ih =>
      have member := within List.mem_cons_self
      unfold equalFields
      rw [found entry member]
      dsimp only
      rw [values entry member]
      exact ih fun other inside => within (List.mem_cons_of_mem entry inside)
  unfold equal
  rw [among fields fun _ member => member, decide_eq_true rfl]
  rfl

end Json

end Library
