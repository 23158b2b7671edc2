import ForgeRL.Library.Table

/-!
# Ordered dictionaries

A dictionary is a table of pairs keyed by their first component.  It keeps
the order of insertion: an assignment to a present key rewrites the pair in
place, and a new key goes to the end.  Two dictionaries are equal as mappings
when every key has the same value in both, whatever the order.
-/

namespace Library

universe u v

abbrev Dict (κ : Type u) (α : Type v) := Table (κ × α) κ Prod.fst

namespace Dict

variable {κ : Type u} {α : Type v}

def keys (dict : Dict κ α) : List κ := dict.rows.map Prod.fst

variable [DecidableEq κ]

def get? (dict : Dict κ α) (key : κ) : Option α := (dict.find? key).map Prod.snd

/-- Assign a value to a key. -/
def set (dict : Dict κ α) (key : κ) (value : α) : Dict κ α :=
  match dict.insert? (key, value) with
  | some grown => grown
  | none => dict.update (fun entry => entry.1 = key) (fun entry => (entry.1, value)) (fun _ => rfl)

/-- Assign every pair of another dictionary, in its order. -/
def merge (dict other : Dict κ α) : Dict κ α :=
  other.rows.foldl (fun merged entry => set merged entry.1 entry.2) dict

/-- The dictionary with every value replaced, its keys in the same order. -/
def mapValues {β : Type v} (dict : Dict κ α) (change : κ → α → β) : Dict κ β where
  rows := dict.rows.map fun entry => (entry.1, change entry.1 entry.2)
  keys_nodup := by
    rw [List.map_map]
    exact dict.keys_nodup

/-- Count one more occurrence of a key. -/
def count (counter : Dict κ ℕ) (key : κ) : Dict κ ℕ :=
  set counter key ((get? counter key).getD 0 + 1)

/-- The sum of all counts. -/
def total (counter : Dict κ ℕ) : ℕ := (counter.rows.map Prod.snd).sum

/-- Equality as mappings. -/
def SameItems (first second : Dict κ α) : Prop :=
  (∀ key ∈ keys first, get? first key = get? second key) ∧
    ∀ key ∈ keys second, get? first key = get? second key

instance [DecidableEq α] (first second : Dict κ α) : Decidable (SameItems first second) :=
  inferInstanceAs (Decidable (_ ∧ _))

section Lookup

variable (dict : Dict κ α) (key other : κ) (value : α)

theorem get?_eq_some_iff : get? dict key = some value ↔ (key, value) ∈ dict.rows := by
  unfold get?
  constructor
  · intro found
    rcases Option.map_eq_some_iff.mp found with ⟨entry, stored, rfl⟩
    rcases (dict.find?_eq_some_iff key entry).mp stored with ⟨member, rfl⟩
    exact member
  · intro member
    rw [(dict.find?_eq_some_iff key (key, value)).mpr ⟨member, rfl⟩]
    rfl

theorem get?_eq_none_iff : get? dict key = none ↔ key ∉ keys dict := by
  unfold get? keys
  rw [Option.map_eq_none_iff, dict.find?_eq_none_iff]
  constructor
  · intro absent member
    rcases List.mem_map.mp member with ⟨entry, stored, rfl⟩
    exact absent entry stored rfl
  · rintro absent entry stored rfl
    exact absent (List.mem_map_of_mem stored)

/-- An assigned key has the assigned value, and the others keep theirs. -/
theorem get?_set :
    get? (set dict key value) other = if other = key then some value else get? dict other := by
  apply Option.ext
  intro found
  rw [get?_eq_some_iff]
  unfold set
  cases grown : dict.insert? (key, value) with
  | some stored =>
    rcases Table.insert?_eq_some grown with ⟨rows, fresh⟩
    dsimp only
    rw [rows, List.mem_append, List.mem_singleton]
    by_cases same : other = key
    · subst same
      rw [if_pos rfl]
      constructor
      · rintro (earlier | now)
        · exact (fresh _ earlier rfl).elim
        · exact congrArg (fun entry => some entry.2) now.symm
      · intro assigned
        exact .inr (congrArg (Prod.mk other) (Option.some.inj assigned).symm)
    · rw [if_neg same, get?_eq_some_iff]
      exact or_iff_left (fun now => same (congrArg Prod.fst now))
  | none =>
    have present : key ∈ dict.rows.map Prod.fst := by
      unfold Table.insert? at grown
      split at grown
      next member => exact member
      · cases grown
    dsimp only
    rw [Table.update_rows, List.mem_map]
    by_cases same : other = key
    · subst same
      rw [if_pos rfl]
      rcases List.mem_map.mp present with ⟨entry, stored, named⟩
      constructor
      · rintro ⟨changed, _, rewritten⟩
        split_ifs at rewritten with selected
        · exact congrArg (fun entry => some entry.2) rewritten
        · exact absurd (congrArg Prod.fst rewritten) selected
      · intro assigned
        refine ⟨entry, stored, ?_⟩
        rw [if_pos named, Option.some.inj assigned, named]
    · rw [if_neg same, get?_eq_some_iff]
      constructor
      · rintro ⟨changed, stored, rewritten⟩
        split_ifs at rewritten with selected
        · exact absurd ((congrArg Prod.fst rewritten).symm.trans selected) same
        · exact rewritten ▸ stored
      · intro stored
        exact ⟨_, stored, if_neg same⟩

/-- A new key goes to the end. -/
theorem rows_set_of_not_mem (fresh : key ∉ keys dict) :
    (set dict key value).rows = dict.rows ++ [(key, value)] := by
  unfold set
  cases grown : dict.insert? (key, value) with
  | some stored => exact (Table.insert?_eq_some grown).1
  | none =>
    unfold Table.insert? at grown
    split at grown
    next member => exact absurd member fresh
    · cases grown

/-- An assignment to a present key keeps the keys and their order. -/
theorem keys_set_of_mem (present : key ∈ keys dict) : keys (set dict key value) = keys dict := by
  unfold set
  cases grown : dict.insert? (key, value) with
  | some stored =>
    rcases List.mem_map.mp present with ⟨entry, member, same⟩
    exact absurd same ((Table.insert?_eq_some grown).2 entry member)
  | none => exact Table.update_keys _ _ _ _

theorem get?_mapValues {β : Type v} (change : κ → α → β) :
    get? (mapValues dict change) key = (get? dict key).map (change key) := by
  apply Option.ext
  intro found
  rw [get?_eq_some_iff, Option.map_eq_some_iff]
  constructor
  · intro stored
    rcases List.mem_map.mp stored with ⟨entry, member, same⟩
    cases same
    exact ⟨entry.2, (get?_eq_some_iff dict _ _).mpr member, rfl⟩
  · rintro ⟨value, present, rfl⟩
    exact List.mem_map.mpr ⟨(key, value), (get?_eq_some_iff dict _ _).mp present, rfl⟩

end Lookup

/-- A counter that counts once more has one more in total. -/
theorem total_count (counter : Dict κ ℕ) (key : κ) :
    total (count counter key) = total counter + 1 := by
  unfold total count set
  cases grown : counter.insert? (key, (get? counter key).getD 0 + 1) with
  | some stored =>
    rcases Table.insert?_eq_some grown with ⟨rows, fresh⟩
    have absent : get? counter key = none := by
      rw [get?_eq_none_iff]
      intro present
      rcases List.mem_map.mp present with ⟨entry, member, same⟩
      exact fresh entry member same
    dsimp only
    rw [rows, List.map_append, List.sum_append, absent]
    rfl
  | none =>
    have present : key ∈ counter.rows.map Prod.fst := by
      unfold Table.insert? at grown
      split at grown
      next member => exact member
      · cases grown
    rcases List.mem_map.mp present with ⟨⟨here, value⟩, stored, rfl⟩
    rw [(get?_eq_some_iff counter _ value).mpr stored]
    dsimp only [Option.getD_some]
    rcases List.append_of_mem stored with ⟨before, after, rows⟩
    have keys := counter.keys_nodup
    rw [rows, List.map_append, List.map_cons, List.nodup_middle, List.nodup_cons,
      ← List.map_append] at keys
    have others (entry : κ × ℕ) (member : entry ∈ before ++ after) : ¬ entry.1 = here :=
      fun same => keys.1 (List.mem_map.mpr ⟨entry, member, same⟩)
    have kept (part : List (κ × ℕ)) (inside : ∀ entry ∈ part, entry ∈ before ++ after) :
        part.map (fun entry => if entry.1 = here then (entry.1, value + 1) else entry) = part := by
      rw [List.map_congr_left fun entry member => if_neg (others entry (inside entry member))]
      exact List.map_id part
    rw [Table.update_rows, rows, List.map_append, List.map_cons,
      kept before fun entry member => List.mem_append_left _ member,
      kept after fun entry member => List.mem_append_right _ member, if_pos rfl]
    simp only [List.map_append, List.map_cons, List.sum_append, List.sum_cons]
    omega

/-- What is found after some rows were filed under their keys is one of them, or
it was there before. -/
theorem get?_foldl_set {key : α → κ} {rows : List α} {start : Dict κ α} {name : κ} {value : α}
    (found : get? (rows.foldl (fun known row => set known (key row) row) start) name =
      some value) : (value ∈ rows ∧ key value = name) ∨ get? start name = some value := by
  induction rows generalizing start with
  | nil => exact .inr found
  | cons row rows ih =>
    rcases ih found with ⟨member, named⟩ | before
    · exact .inl ⟨List.mem_cons_of_mem row member, named⟩
    · rw [get?_set] at before
      split_ifs at before with same
      · cases before
        exact .inl ⟨List.mem_cons_self, same.symm⟩
      · exact .inr before

/-- The key of a row that was filed is present. -/
theorem isSome_get?_foldl_set {key : α → κ} {rows : List α} {start : Dict κ α} {name : κ}
    (filed : name ∈ rows.map key ∨ (get? start name).isSome = true) :
    (get? (rows.foldl (fun known row => set known (key row) row) start) name).isSome = true := by
  induction rows generalizing start with
  | nil => exact filed.resolve_left List.not_mem_nil
  | cons row rows ih =>
    apply ih
    rw [get?_set]
    by_cases same : name = key row
    · rw [if_pos same]
      exact .inr rfl
    · rw [if_neg same]
      rw [List.map_cons, List.mem_cons] at filed
      exact filed.imp_left fun member => member.resolve_left same

/-- Dictionaries with the same value under every key are equal as mappings. -/
theorem SameItems.of_get? {first second : Dict κ α}
    (same : ∀ key, get? first key = get? second key) : SameItems first second :=
  ⟨fun key _ => same key, fun key _ => same key⟩

theorem SameItems.get? {first second : Dict κ α} (same : SameItems first second) (key : κ) :
    Dict.get? first key = Dict.get? second key := by
  by_cases left : key ∈ keys first
  · exact same.1 key left
  · by_cases right : key ∈ keys second
    · exact same.2 key right
    · rw [(get?_eq_none_iff _ _).mpr left, (get?_eq_none_iff _ _).mpr right]

end Dict

end Library
