import ForgeRL.Library.Buckets
import ForgeRL.Bench.FittedQ
import ForgeRL.Bench.Harness
import ForgeRL.Bench.Task

namespace ForgeRL

open Library

/-!
# The audit of training rows

The audit walks over the logged rows once, refuses the first that is not a
transition of a training task of the catalog with observable states, a legal
action and finite amounts, and counts what it has seen.  It fits nothing: the
report describes which actions were observed in which encoded states.
-/

namespace Audit

/-- The training tasks of the catalog by their identifiers. -/
def training (catalog : List RepoTask) : Dict Text RepoTask :=
  (catalog.filter fun task => task.split = Text.ofString "train").foldl
    (fun tasks task => Dict.set tasks task.id task) ∅

def notTraining : Escape :=
  .valueError "Audit accepts only catalog-verified training tasks, never validation/test rows"

/-- The training task of a row.  An identifier that cannot be a key raises. -/
def knownTask (tasks : Dict Text RepoTask) (row : TrainingRow) : Except Escape RepoTask :=
  if Json.differs row.split (Json.string "train") = true then .error notTraining
  else
    match row.task_id.key? with
    | none => .error .other
    | some (.text id) =>
      match Dict.get? tasks id with
      | some task => .ok task
      | none => .error notTraining
    | some _ => .error notTraining

/-- A recorded reward or cost. -/
def recorded (value : Json) : Except Escape ℚ :=
  match Router.finiteNumber value with
  | .error escape => .error escape
  | .ok none => .error (.valueError "Reward and cost must be finite recorded numbers")
  | .ok (some amount) => .ok amount

/-- Whether the propensity of the action was logged. -/
def propensity : Json → Except Escape Bool
  | .null => .ok false
  | probability =>
    match Router.finiteNumber probability with
    | .error escape => .error escape
    | .ok (some chance) =>
      if 0 < chance ∧ chance ≤ 1 then .ok true
      else .error (.valueError "Behavior propensity must be a finite probability in (0, 1]")
    | .ok none =>
      .error (.valueError "Behavior propensity must be a finite probability in (0, 1]")

def isBool : Json → Bool
  | .bool _ => true
  | _ => false

/-- The amounts of a row and its propensity, which are checked last. -/
def checkAmounts (row : TrainingRow) : Except Escape Bool :=
  match recorded row.reward with
  | .error escape => .error escape
  | .ok _ =>
    match recorded row.cost_usd with
    | .error escape => .error escape
    | .ok cost =>
      if cost < 0 then .error (.valueError "Cost cannot be negative")
      else propensity row.behavior_action_probability

/-- The checks of one row: its task, and whether a propensity was logged.  The
keys of a state are the declared ones when it has no verification view. -/
def checkRow (tasks : Dict Text RepoTask) (row : TrainingRow) :
    Except Escape (RepoTask × Bool) :=
  match knownTask tasks row with
  | .error escape => .error escape
  | .ok task =>
    if row.state.verification.isSome ∨ row.next_state.verification.isSome then
      .error (.valueError "Expected only declared v0.2 observable state features")
    else if row.action ∉ Router.allowed_actions row.state then
      .error (.valueError "Observed action was not legal in its recorded state")
    else if isBool row.terminal = false then
      .error (.valueError "Terminal marker must be boolean")
    else
      match checkAmounts row with
      | .error escape => .error escape
      | .ok logged => .ok (task, logged)

/-- What the audit has counted. -/
structure Tally where
  support : Nested String Action ℕ
  legal_union : Dict String (List Action)
  tasks : Dict Text ℕ
  actions : Dict Action ℕ
  family_counts : Dict Text ℕ
  missing : ℕ
  observed : ℕ
  terminal : ℕ

def Tally.empty : Tally := ⟨∅, ∅, ∅, ∅, ∅, 0, 0, 0⟩

/-- `set.update`, in the order of insertion. -/
def union (known added : List Action) : List Action :=
  known ++ added.filter fun action => action ∉ known

def Tally.record (tally : Tally) (row : TrainingRow) (task : RepoTask) (logged : Bool) : Tally :=
  let key := Router.encode_state row.state
  let counts := (Dict.get? tally.support key).getD ∅
  let known := (Dict.get? tally.legal_union key).getD []
  { support := Dict.set tally.support key (Dict.count counts row.action)
    legal_union :=
      Dict.set tally.legal_union key (union known (Router.allowed_actions row.state))
    tasks := Dict.count tally.tasks task.id
    actions := Dict.count tally.actions row.action
    family_counts := Dict.count tally.family_counts task.family
    missing := if logged then tally.missing else tally.missing + 1
    observed := if logged then tally.observed + 1 else tally.observed
    terminal := if row.terminal.isFalsy then tally.terminal else tally.terminal + 1 }

/-- The loop over the rows. -/
def walk (tasks : Dict Text RepoTask) : List TrainingRow → Tally → Except Escape Tally
  | [], tally => .ok tally
  | row :: rows, tally =>
    match checkRow tasks row with
    | .error escape => .error escape
    | .ok (task, logged) => walk tasks rows (tally.record row task logged)

/-- The support of an encoded state. -/
structure StateSupport where
  encoded_state : String
  observed_action_counts : Dict Action ℕ
  legal_action_union : List Action
  unobserved_legal_actions : List Action

/-- The report, without its fixed texts.  The counts are mappings; actions are
sorted by their names and states by their encoding. -/
structure Report where
  training_transitions : ℕ
  training_unique_tasks : ℕ
  training_families : ℕ
  terminal_transitions : ℕ
  encoded_states : ℕ
  observed_state_action_pairs : ℕ
  legal_pairs_in_observed_state_bins : ℕ
  states_with_only_one_observed_action : ℕ
  action_counts : Dict Action ℕ
  family_transition_counts : Dict Text ℕ
  task_transition_counts : Dict Text ℕ
  logged_propensities : ℕ
  missing_propensities : ℕ
  propensity_prerequisite_satisfied : Bool
  states : List StateSupport

def sortedActions (actions : List Action) : List Action :=
  actions.mergeSort fun first second => first.name ≤ second.name

def Tally.stateSupport (tally : Tally) (key : String) : StateSupport :=
  let counts := (Dict.get? tally.support key).getD ∅
  let legal := (Dict.get? tally.legal_union key).getD []
  { encoded_state := key
    observed_action_counts := counts
    legal_action_union := sortedActions legal
    unobserved_legal_actions :=
      sortedActions (legal.filter fun action => action ∉ Dict.keys counts) }

def Tally.report (tally : Tally) : Report where
  training_transitions := Dict.total tally.tasks
  training_unique_tasks := tally.tasks.rows.length
  training_families := tally.family_counts.rows.length
  terminal_transitions := tally.terminal
  encoded_states := tally.support.rows.length
  observed_state_action_pairs := (tally.support.rows.map fun group => group.2.rows.length).sum
  legal_pairs_in_observed_state_bins :=
    (tally.legal_union.rows.map fun group => group.2.length).sum
  states_with_only_one_observed_action :=
    (tally.support.rows.filter fun group => group.2.rows.length = 1).length
  action_counts := tally.actions
  family_transition_counts := tally.family_counts
  task_transition_counts := tally.tasks
  logged_propensities := tally.observed
  missing_propensities := tally.missing
  propensity_prerequisite_satisfied := tally.missing = 0
  states :=
    ((Dict.keys tally.support).mergeSort fun first second => first ≤ second).map
      tally.stateSupport

def audit_rows (catalog : List RepoTask) (rows : List TrainingRow) (require_propensity : Bool) :
    Except Escape Report :=
  match walk (training catalog) rows .empty with
  | .error escape => .error escape
  | .ok tally =>
    if tally.tasks.rows.isEmpty then .error (.valueError "No recorded training transitions")
    else if require_propensity = true ∧ tally.missing ≠ 0 then
      .error (.valueError
        "Missing logged behavior propensities; strict off-policy prerequisite check failed")
    else .ok tally.report

/-! ## What is accepted -/

/-- The row passes every check. -/
def Passes (tasks : Dict Text RepoTask) (row : TrainingRow) : Prop :=
  ∃ checked, checkRow tasks row = .ok checked

/-- A value with a text as its key is that text. -/
theorem eq_str_of_key? {value : Json} {id : Text} (key : value.key? = some (.text id)) :
    value = .str id := by
  unfold Json.key? at key
  split at key <;> cases key
  rfl

theorem knownTask_str {tasks : Dict Text RepoTask} {row : TrainingRow} {task : RepoTask}
    (known : knownTask tasks row = .ok task) : ∃ id, row.task_id = .str id := by
  unfold knownTask at known
  split_ifs at known
  cases key : row.task_id.key? with
  | none =>
    rw [key] at known
    cases known
  | some name =>
    rw [key] at known
    cases name with
    | text id => exact ⟨id, eq_str_of_key? key⟩
    | _ => cases known

/-- The task identifier of a row that passes is a text. -/
theorem Passes.task_id {tasks : Dict Text RepoTask} {row : TrainingRow}
    (passes : Passes tasks row) : ∃ id, row.task_id = .str id := by
  rcases passes with ⟨checked, accepted⟩
  unfold checkRow at accepted
  cases known : knownTask tasks row with
  | error escape =>
    rw [known] at accepted
    cases accepted
  | ok task => exact knownTask_str known

/-- Every row that is walked is counted once, by its task. -/
theorem walk_total {tasks : Dict Text RepoTask} {rows : List TrainingRow} {tally walked : Tally}
    (accepted : walk tasks rows tally = .ok walked) :
    Dict.total walked.tasks = Dict.total tally.tasks + rows.length := by
  induction rows generalizing tally with
  | nil =>
    cases accepted
    rfl
  | cons row rows ih =>
    unfold walk at accepted
    split at accepted
    · cases accepted
    · rename_i task logged _
      have counted : Dict.total (tally.record row task logged).tasks =
          Dict.total tally.tasks + 1 := Dict.total_count _ _
      rw [ih accepted, counted, List.length_cons]
      omega

/-- The walk goes through when every row passes, whatever was counted before. -/
theorem walk_ok_iff {tasks : Dict Text RepoTask} {rows : List TrainingRow} {tally : Tally} :
    (∃ walked, walk tasks rows tally = .ok walked) ↔ ∀ row ∈ rows, Passes tasks row := by
  induction rows generalizing tally with
  | nil => simp [walk]
  | cons row rows ih =>
    unfold walk
    rw [List.forall_mem_cons]
    cases check : checkRow tasks row with
    | error escape =>
      constructor
      · rintro ⟨_, ⟨⟩⟩
      · rintro ⟨⟨checked, passed⟩, _⟩
        cases check.symm.trans passed
    | ok checked =>
      dsimp only
      rw [ih]
      exact ⟨fun rest => ⟨⟨checked, check⟩, rest⟩, And.right⟩

/-- Rows are accepted when there are some and each of them passes. -/
theorem audit_rows_ok_iff {catalog : List RepoTask} {rows : List TrainingRow} :
    (∃ report, audit_rows catalog rows false = .ok report) ↔
      rows ≠ [] ∧ ∀ row ∈ rows, Passes (training catalog) row := by
  unfold audit_rows
  cases walks : walk (training catalog) rows .empty with
  | error escape =>
    constructor
    · rintro ⟨_, ⟨⟩⟩
    · rintro ⟨_, pass⟩
      have through : ∃ walked, walk (training catalog) rows .empty = .ok walked :=
        walk_ok_iff.mpr pass
      rcases through with ⟨walked, accepted⟩
      cases walks.symm.trans accepted
  | ok tally =>
    have counted := walk_total walks
    have pass := walk_ok_iff.mp ⟨tally, walks⟩
    dsimp only
    by_cases none_ : rows = []
    · subst none_
      cases walks
      simp [Tally.empty]
    · have some_ : ¬ tally.tasks.rows.isEmpty = true := by
        intro empty
        have before : Dict.total Tally.empty.tasks = 0 := rfl
        have after : Dict.total tally.tasks = 0 := by
          unfold Dict.total
          rw [List.isEmpty_iff.mp empty]
          rfl
        exact none_ (List.length_eq_zero_iff.mp (by omega))
      rw [if_neg some_, if_neg (by simp)]
      exact ⟨fun _ => ⟨none_, pass⟩, fun _ => ⟨_, rfl⟩⟩

end Audit

end ForgeRL
