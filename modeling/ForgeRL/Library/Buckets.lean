import ForgeRL.Library.Dict
import Mathlib.Data.Set.Finite.List
import Mathlib.Data.List.Perm.Basic

namespace Library

/-!
# Dictionaries of dictionaries

Items that are filed under two keys make up a nested dictionary of buckets.
What a bucket holds is what a filter of the items finds, in their order, and
no group of buckets is empty.  A lookup of both keys at once is all that the
laws below speak of, so that the order of insertion stays out of them.
-/

universe u v w

abbrev Nested (κ : Type u) (ι : Type v) (α : Type w) := Dict κ (Dict ι α)

namespace Nested

variable {κ : Type u} {ι : Type v} {α β : Type w}

/-- All entries with both their keys. -/
def entries (nested : Nested κ ι α) : List (κ × ι × α) :=
  nested.rows.flatMap fun group => group.2.rows.map fun entry => (group.1, entry)

/-- The same keys, with every value replaced. -/
def mapValues (nested : Nested κ ι α) (change : κ → ι → α → β) : Nested κ ι β :=
  Dict.mapValues nested fun key group => Dict.mapValues group (change key)

variable [DecidableEq κ] [DecidableEq ι]

/-- The value under two keys. -/
def at? (nested : Nested κ ι α) (key : κ) (inner : ι) : Option α :=
  (Dict.get? nested key).bind fun group => Dict.get? group inner

/-- Put an item at the end of the bucket of its keys, and make the bucket when
there is none. -/
def append (nested : Nested κ ι (List α)) (key : κ) (inner : ι) (item : α) :
    Nested κ ι (List α) :=
  let group := (Dict.get? nested key).getD ∅
  Dict.set nested key (Dict.set group inner ((Dict.get? group inner).getD [] ++ [item]))

/-- File every item under its keys. -/
def collect (items : List (κ × ι × α)) : Nested κ ι (List α) :=
  items.foldl (fun nested item => append nested item.1 item.2.1 item.2.2) ∅

/-- What was filed under two keys. -/
def filed (items : List (κ × ι × α)) (key : κ) (inner : ι) : List α :=
  (items.filter fun item => item.1 = key ∧ item.2.1 = inner).map fun item => item.2.2

/-- Every group has an entry. -/
def Full (nested : Nested κ ι α) : Prop :=
  ∀ key group, Dict.get? nested key = some group → ∃ inner, (Dict.get? group inner).isSome

/-- Equality as mappings, of the groups and inside them. -/
def Same (first second : Nested κ ι α) : Prop :=
  ∀ key, Option.Rel Dict.SameItems (Dict.get? first key) (Dict.get? second key)

theorem mem_entries {nested : Nested κ ι α} {key : κ} {inner : ι} {value : α} :
    (key, inner, value) ∈ entries nested ↔ at? nested key inner = some value := by
  unfold entries at?
  rw [List.mem_flatMap, Option.bind_eq_some_iff]
  constructor
  · rintro ⟨group, stored, member⟩
    rcases List.mem_map.mp member with ⟨entry, listed, same⟩
    cases same
    exact ⟨group.2, (Dict.get?_eq_some_iff _ _ _).mpr stored,
      (Dict.get?_eq_some_iff _ _ _).mpr listed⟩
  · rintro ⟨group, stored, present⟩
    refine ⟨(key, group), (Dict.get?_eq_some_iff _ _ _).mp stored, ?_⟩
    exact List.mem_map_of_mem ((Dict.get?_eq_some_iff _ _ _).mp present)

theorem at?_mapValues (nested : Nested κ ι α) (change : κ → ι → α → β) (key : κ) (inner : ι) :
    at? (mapValues nested change) key inner = (at? nested key inner).map (change key inner) := by
  unfold at? mapValues
  rw [Dict.get?_mapValues]
  cases Dict.get? nested key with
  | none => rfl
  | some group => exact Dict.get?_mapValues group inner (change key)

/-- The entries under two keys are finitely many. -/
instance finite_present (nested : Nested κ ι α) :
    Finite {pair : κ × ι // (at? nested pair.1 pair.2).isSome} := by
  apply Set.Finite.subset
    ((entries nested).map fun entry => (entry.1, entry.2.1)).finite_toSet
  intro pair present
  rcases Option.isSome_iff_exists.mp present with ⟨value, found⟩
  exact List.mem_map.mpr ⟨(pair.1, pair.2, value), mem_entries.mpr found, rfl⟩

/-! ## Filing -/

theorem at?_append (nested : Nested κ ι (List α)) (key other : κ) (inner further : ι) (item : α) :
    at? (append nested key inner item) other further =
      if other = key ∧ further = inner then some ((at? nested key inner).getD [] ++ [item])
      else at? nested other further := by
  unfold append at?
  dsimp only
  rw [Dict.get?_set]
  by_cases same : other = key
  · subst same
    rw [if_pos rfl, Option.bind_some, Dict.get?_set]
    by_cases inside : further = inner
    · subst inside
      rw [if_pos rfl, if_pos ⟨rfl, rfl⟩]
      cases Dict.get? nested other with
      | none => rfl
      | some group => rfl
    · rw [if_neg inside, if_neg fun both => inside both.2]
      cases Dict.get? nested other with
      | none => rfl
      | some group => rfl
  · rw [if_neg same, if_neg fun both => same both.1]

theorem collect_concat (items : List (κ × ι × α)) (item : κ × ι × α) :
    collect (items ++ [item]) = append (collect items) item.1 item.2.1 item.2.2 := by
  simp [collect]

theorem filed_append (items others : List (κ × ι × α)) (key : κ) (inner : ι) :
    filed (items ++ others) key inner = filed items key inner ++ filed others key inner := by
  unfold filed
  rw [List.filter_append, List.map_append]

theorem filed_concat (items : List (κ × ι × α)) (item : κ × ι × α) (key : κ) (inner : ι) :
    filed (items ++ [item]) key inner =
      if key = item.1 ∧ inner = item.2.1 then filed items key inner ++ [item.2.2]
      else filed items key inner := by
  rw [filed_append]
  unfold filed
  by_cases here : key = item.1 ∧ inner = item.2.1
  · rcases here with ⟨rfl, rfl⟩
    simp
  · have there : ¬ (item.1 = key ∧ item.2.1 = inner) := fun both =>
      here ⟨both.1.symm, both.2.symm⟩
    simp [here, there]

/-- A bucket holds what was filed under its keys, and there is no other. -/
theorem at?_collect (items : List (κ × ι × α)) (key : κ) (inner : ι) :
    at? (collect items) key inner =
      if filed items key inner = [] then none else some (filed items key inner) := by
  induction items using List.reverseRecOn with
  | nil => rfl
  | append_singleton items item ih =>
    rw [collect_concat, at?_append, filed_concat]
    by_cases here : key = item.1 ∧ inner = item.2.1
    · rcases here with ⟨rfl, rfl⟩
      have here : item.1 = item.1 ∧ item.2.1 = item.2.1 := ⟨rfl, rfl⟩
      have grown : filed items item.1 item.2.1 ++ [item.2.2] ≠ [] := by simp
      rw [if_pos here, if_pos here, if_neg grown, ih]
      split_ifs with empty
      · rw [empty]
        rfl
      · rfl
    · rw [if_neg here, if_neg here, ih]

theorem Full.collect (items : List (κ × ι × α)) : Full (collect items) := by
  induction items using List.reverseRecOn with
  | nil =>
    intro key group absent
    cases absent
  | append_singleton items item ih =>
    rw [collect_concat]
    intro key group present
    unfold append at present
    dsimp only at present
    rw [Dict.get?_set] at present
    split_ifs at present with same
    · cases present
      exact ⟨item.2.1, by simp [Dict.get?_set]⟩
    · exact ih key group present

theorem Full.mapValues {nested : Nested κ ι α} (full : Full nested)
    (change : κ → ι → α → β) : Full (mapValues nested change) := by
  intro key group present
  unfold Nested.mapValues at present
  rw [Dict.get?_mapValues] at present
  rcases Option.map_eq_some_iff.mp present with ⟨before, found, rfl⟩
  rcases full key before found with ⟨inner, some_⟩
  refine ⟨inner, ?_⟩
  rw [Dict.get?_mapValues, Option.isSome_map]
  exact some_

/-- Full dictionaries with the same values under every two keys are equal as
mappings. -/
theorem Same.of_at? {first second : Nested κ ι α} (full : Full first) (other : Full second)
    (same : ∀ key inner, at? first key inner = at? second key inner) : Same first second := by
  intro key
  have inside := same key
  unfold at? at inside
  cases left : Dict.get? first key with
  | none =>
    cases right : Dict.get? second key with
    | none => exact .none
    | some group =>
      rcases other key group right with ⟨inner, some_⟩
      have absent := inside inner
      rw [left, right] at absent
      rw [Option.bind_some] at absent
      rw [← absent] at some_
      cases some_
  | some group =>
    cases right : Dict.get? second key with
    | none =>
      rcases full key group left with ⟨inner, some_⟩
      have absent := inside inner
      rw [left, right, Option.bind_some] at absent
      rw [absent] at some_
      cases some_
    | some others =>
      simp only [left, right, Option.bind_some] at inside
      exact .some (Dict.SameItems.of_get? inside)

theorem Same.at? {first second : Nested κ ι α} (same : Same first second) (key : κ)
    (inner : ι) : Nested.at? first key inner = Nested.at? second key inner := by
  have groups := same key
  unfold Nested.at?
  cases left : Dict.get? first key with
  | none =>
    rw [left] at groups
    cases right : Dict.get? second key with
    | none => rfl
    | some group =>
      rw [right] at groups
      cases groups
  | some group =>
    rw [left] at groups
    cases right : Dict.get? second key with
    | none =>
      rw [right] at groups
      cases groups
    | some other =>
      rw [right] at groups
      cases groups with
      | some items => exact items.get? inner

end Nested

end Library
