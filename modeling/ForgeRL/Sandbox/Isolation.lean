import ForgeRL.Sandbox.Runner

namespace ForgeRL

open Library

/-!
# Cases that do not see each other

A case of a repository gets new modules, so its row depends on nothing but
its own call.  The one thing that reaches the other cases is an exception of
the runner itself: it writes the arguments after the call outside of its
`try`, and what the candidate has put there may be impossible to write.
-/

namespace Runner

namespace PyObject

theorem itemsRefusal_eq_none_iff (items : List PyObject) :
    itemsRefusal items = none ↔ ∀ item ∈ items, refusal item = none := by
  induction items with
  | nil => exact iff_of_true rfl (fun _ member => absurd member List.not_mem_nil)
  | cons item items ih => rw [itemsRefusal, Option.or_eq_none_iff, ih, List.forall_mem_cons]

theorem entriesRefusal_eq_none_iff (entries : List (Text × PyObject)) :
    entriesRefusal entries = none ↔ ∀ entry ∈ entries, refusal entry.2 = none := by
  induction entries with
  | nil => exact iff_of_true rfl (fun _ member => absurd member List.not_mem_nil)
  | cons entry entries ih =>
    rw [entriesRefusal, Option.or_eq_none_iff, ih, List.forall_mem_cons]

mutual

/-- A decoded value can be written again. -/
theorem refusal_ofJson : ∀ value, refusal (ofJson value) = none
  | .null => rfl
  | .bool _ => rfl
  | .int _ => rfl
  | .float _ => rfl
  | .str _ => rfl
  | .arr items => (itemsRefusal_eq_none_iff _).mpr (refusal_ofItems items)
  | .obj fields => by
    apply (entriesRefusal_eq_none_iff _).mpr
    intro entry member
    exact refusal_ofFields fields entry ((List.perm_insertionSort _ _).mem_iff.mp member)

theorem refusal_ofItems : ∀ items, ∀ item ∈ ofItems items, refusal item = none
  | [] => fun _ member => absurd member List.not_mem_nil
  | item :: items => by
    rw [ofItems, List.forall_mem_cons]
    exact ⟨refusal_ofJson item, refusal_ofItems items⟩

theorem refusal_ofFields : ∀ fields, ∀ entry ∈ ofFields fields, refusal entry.2 = none
  | [] => fun _ member => absurd member List.not_mem_nil
  | (_, value) :: fields => by
    rw [ofFields, List.forall_mem_cons]
    exact ⟨refusal_ofJson value, refusal_ofFields fields⟩

end

theorem fieldsStandard_setField {fields : JsonObject} {name : Text} {value : Json}
    (earlier : Json.fieldsStandard fields = true) (standard : value.isStandard = true) :
    Json.fieldsStandard (Json.setField fields name value) = true := by
  rw [Json.fieldsStandard_iff] at earlier ⊢
  unfold Json.setField
  intro entry member
  split_ifs at member
  · rcases List.mem_map.mp member with ⟨other, stored, rfl⟩
    split_ifs
    · exact standard
    · exact earlier other stored
  · rcases List.mem_append.mp member with stored | added
    · exact earlier entry stored
    · rw [List.mem_singleton.mp added]
      exact standard

mutual

/-- A converted value has no NaN and no infinities. -/
theorem isStandard_convert : ∀ {object : PyObject} {value : Json},
    convert object = .ok value → value.isStandard = true
  | .null, _, converted => by
    cases converted
    rfl
  | .bool _, _, converted => by
    cases converted
    rfl
  | .int _, _, converted => by
    cases converted
    rfl
  | .float (.finite _), _, converted => by
    cases converted
    rfl
  | .float .nan, _, converted => by cases converted
  | .float (.infinity _), _, converted => by cases converted
  | .str _, _, converted => by
    cases converted
    rfl
  | .list items, _, converted => by
    rw [convert] at converted
    cases each : convertItems items with
    | error error =>
      rw [each] at converted
      cases converted
    | ok values =>
      rw [each] at converted
      cases converted
      exact areStandard_convertItems each
  | .dict entries, _, converted => by
    rw [convert] at converted
    cases each : convertEntries [] entries with
    | error error =>
      rw [each] at converted
      cases converted
    | ok fields =>
      rw [each] at converted
      cases converted
      exact fieldsStandard_convertEntries rfl each
  | .refused _, _, converted => by cases converted

theorem areStandard_convertItems : ∀ {items : List PyObject} {values : List Json},
    convertItems items = .ok values → Json.areStandard values = true
  | [], _, converted => by
    cases converted
    rfl
  | item :: items, _, converted => by
    rw [convertItems] at converted
    cases first : convert item with
    | error error =>
      rw [first] at converted
      cases converted
    | ok value =>
      cases later : convertItems items with
      | error error =>
        rw [first, later] at converted
        cases converted
      | ok values =>
        rw [first, later] at converted
        cases converted
        rw [Json.areStandard, isStandard_convert first, areStandard_convertItems later]
        rfl

theorem fieldsStandard_convertEntries : ∀ {entries : List (Text × PyObject)}
    {start fields : JsonObject}, Json.fieldsStandard start = true →
    convertEntries start entries = .ok fields → Json.fieldsStandard fields = true
  | [], _, _, earlier, converted => by
    cases converted
    exact earlier
  | (key, object) :: entries, _, _, earlier, converted => by
    rw [convertEntries] at converted
    cases first : convert object with
    | error error =>
      rw [first] at converted
      cases converted
    | ok value =>
      rw [first] at converted
      exact fieldsStandard_convertEntries
        (fieldsStandard_setField earlier (isStandard_convert first)) converted

end

end PyObject

open Sandbox (CleanCase Payload)

section Rows

variable {σ : Type} (candidate : Candidate σ) (files : Files) (entrypoint : Text)

/-- The objects that the case of a repository leaves in its arguments. -/
def leftArguments (case : CleanCase) : PyObject :=
  (tryRepository candidate files entrypoint case).left

/-- A case has a row when its arguments can be written after the call. -/
theorem resultRow_cases (case : CleanCase) (tried : Tried σ) :
    (tried.left.refusal = none ∧ ∃ row, resultRow candidate case tried = .ok row ∧
      row.name = case.name ∧
      (row.actual = .null ∨ tried.actual = .ok row.actual)) ∨
    ∃ error, tried.left.refusal = some error ∧ resultRow candidate case tried = .error error := by
  have before : PyObject.dumps candidate.floatText (inputs case) =
      .ok (PyObject.written candidate.floatText (inputs case)) := by
    rw [PyObject.dumps, inputs, PyObject.refusal_ofJson]
  rw [resultRow, before, PyObject.dumps]
  cases tried.left.refusal with
  | none =>
    refine .inl ⟨rfl, _, rfl, rfl, ?_⟩
    cases tried.actual with
    | ok actual => exact .inr rfl
    | error error => exact .inl rfl
  | some error => exact .inr ⟨error, rfl, rfl⟩

/-- A value of a row has been converted. -/
theorem tryRepository_standard {case : CleanCase} {actual : Json}
    (converted : (tryRepository candidate files entrypoint case).actual = .ok actual) :
    actual.isStandard = true := by
  unfold tryRepository at converted
  split at converted
  · cases converted
  next state _ =>
    unfold tryCall at converted
    dsimp only at converted
    generalize (candidate.call state (beforeMark 0x3A entrypoint) (afterMark 0x3A entrypoint)
      case.args case.kwargs).ending = ending at converted
    cases ending with
    | error error => cases converted
    | ok returned => exact PyObject.isStandard_convert converted

/-- The row of a case by itself. -/
def RowAlone (case : CleanCase) (row : ResultRow) : Prop :=
  row.name = case.name ∧ main candidate (.repository files entrypoint [case]) = .ok [row]

/-- The rows of a repository are printed one for each case, and each is the
row of the case by itself. -/
def Independent (cases : List CleanCase) : Prop :=
  ∃ rows, main candidate (.repository files entrypoint cases) = .ok rows ∧
    List.Forall₂ (RowAlone candidate files entrypoint) cases rows

/-- A row as the loop finds it for a case. -/
def Found (case : CleanCase) (row : ResultRow) : Prop :=
  row.name = case.name ∧ row.actual.isStandard = true ∧
    resultRow candidate case (tryRepository candidate files entrypoint case) = .ok row

theorem printable {cases : List CleanCase} {rows : List ResultRow}
    (each : List.Forall₂ (Found candidate files entrypoint) cases rows) :
    rows.all (fun row => row.actual.isStandard) = true := by
  induction each with
  | nil => rfl
  | cons found _ ih =>
    rw [List.all_cons, found.2.1, ih]
    rfl

/-- The loop over the cases. -/
theorem repositoryRows_cases (cases : List CleanCase) :
    ((∀ case ∈ cases, (leftArguments candidate files entrypoint case).refusal = none) ∧
      ∃ rows, repositoryRows candidate files entrypoint cases = .ok rows ∧
        List.Forall₂ (Found candidate files entrypoint) cases rows) ∨
    ((¬ ∀ case ∈ cases, (leftArguments candidate files entrypoint case).refusal = none) ∧
      ∃ error, repositoryRows candidate files entrypoint cases = .error error) := by
  induction cases with
  | nil => exact .inl ⟨fun _ member => absurd member List.not_mem_nil, [], rfl, .nil⟩
  | cons case cases ih =>
    rw [List.forall_mem_cons, repositoryRows]
    rcases resultRow_cases candidate case (tryRepository candidate files entrypoint case) with
      ⟨writable, row, same, named, value⟩ | ⟨error, refused, same⟩
    · rw [same]
      rcases ih with ⟨all, rows, later, each⟩ | ⟨some_, error, later⟩
      · rw [later]
        have standard : row.actual.isStandard = true := by
          rcases value with null | converted
          · rw [null]
            rfl
          · exact tryRepository_standard candidate files entrypoint converted
        exact .inl ⟨⟨writable, all⟩, _, rfl, .cons ⟨named, standard, same⟩ each⟩
      · rw [later]
        exact .inr ⟨fun both => some_ both.2, error, rfl⟩
    · rw [same]
      refine .inr ⟨fun both => ?_, error, rfl⟩
      rw [leftArguments, refused] at both
      cases both.1

/-- An accepted payload prints the rows of its loop. -/
theorem main_of_accepted (accepted : repositoryError files entrypoint = none)
    {cases : List CleanCase} (few : cases.length ≤ 24) :
    rowsOf candidate (.repository files entrypoint cases) =
      repositoryRows candidate files entrypoint cases := by
  rw [rowsOf, accepted]
  exact if_neg (not_lt.mpr few)

/-- A case whose row the loop has found prints it when it is alone. -/
theorem rowAlone_of_row (accepted : repositoryError files entrypoint = none) {case : CleanCase}
    {row : ResultRow} (found : Found candidate files entrypoint case row) :
    RowAlone candidate files entrypoint case row := by
  refine ⟨found.1, ?_⟩
  have single : repositoryRows candidate files entrypoint [case] = .ok [row] := by
    rw [repositoryRows, found.2.2, repositoryRows]
  have few : [case].length ≤ 24 := Nat.le_add_left 1 23
  rw [main, main_of_accepted candidate files entrypoint accepted few, single]
  simp only [List.all_cons, List.all_nil, found.2.1, Bool.and_true, if_true]

end Rows

/-- A function that appends a set to its first argument. -/
def appendingSet : Candidate Unit where
  fresh := ()
  checked_tree := fun _ _ => none
  body := fun _ state => .done state
  standardImport := fun _ state => (.ok (), state)
  hasCallable := fun _ _ _ => true
  call := fun state _ _ _ _ =>
    ⟨state, .list [.list [.list [.refused "TypeError"]], .dict []], .ok .null⟩
  floatText := fun _ => []

end Runner

end ForgeRL
