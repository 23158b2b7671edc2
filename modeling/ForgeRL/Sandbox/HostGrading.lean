import ForgeRL.Sandbox.Validation
import ForgeRL.Bench.Run

namespace ForgeRL

open Library

/-!
# What a grading depends on

Host grading is the same for both versions of the sandbox once the execution
has a validated result.  A result without rows fails every case through its
message, unless the message is empty: an empty message counts as false, and
then the cases are graded against a missing answer.
-/

namespace Sandbox

/-! ## Graded rows -/

section Rows

variable {host : Host} {hidden no_mutation : Bool}
  {nameOf : ℕ → JsonObject → Except Escape Json} {validated : Validated}

/-- Each row of a grading that returns is the row of one case. -/
theorem gradeFrom_row {start : ℕ} {cases : List JsonObject} {rows : List GradedRow}
    (graded : gradeFrom host hidden no_mutation nameOf validated start cases = .ok rows) :
    rows.length = cases.length ∧ ∀ (index : ℕ) (row : GradedRow), rows[index]? = some row →
      ∃ case graded name, cases[index]? = some case ∧
        gradeCase host no_mutation validated (start + index) case = .ok graded ∧
        nameOf (start + index) case = .ok name ∧ row = exportRow hidden name graded := by
  induction cases generalizing start rows with
  | nil =>
    cases graded
    exact ⟨rfl, by simp⟩
  | cons case cases ih =>
    unfold gradeFrom at graded
    split at graded
    · cases graded
    next first gradedFirst =>
      split at graded
      · cases graded
      next name named =>
        split at graded
        · cases graded
        next later gradedLater =>
          cases graded
          rcases ih gradedLater with ⟨count, each⟩
          refine ⟨congrArg Nat.succ count, ?_⟩
          intro index row found
          cases index with
          | zero =>
            cases found
            exact ⟨case, first, name, rfl, gradedFirst, named, rfl⟩
          | succ index =>
            have shifted : start + (index + 1) = start + 1 + index := by omega
            rw [shifted]
            exact each index row found

/-- Each case of a grading that returns has its row. -/
theorem gradeFrom_case {cases : List JsonObject} {rows : List GradedRow}
    (graded : gradeFrom host hidden no_mutation nameOf validated 0 cases = .ok rows) {index : ℕ}
    {case : JsonObject} (found : cases[index]? = some case) :
    ∃ result name, gradeCase host no_mutation validated index case = .ok result ∧
      nameOf index case = .ok name ∧ rows[index]? = some (exportRow hidden name result) := by
  rcases gradeFrom_row graded with ⟨count, each⟩
  have inside : index < rows.length := by
    rw [count]
    exact (List.getElem?_eq_some_iff.mp found).1
  have stored := List.getElem?_eq_getElem inside
  rcases each index _ stored with ⟨other, result, name, same, gradedCase, named, exported⟩
  rw [found] at same
  cases same
  rw [Nat.zero_add] at gradedCase named
  exact ⟨result, name, gradedCase, named, by rw [stored, exported]⟩

/-- A grading returns when every case can be graded and named. -/
theorem gradeFrom_returns {start : ℕ} {cases : List JsonObject}
    (each : ∀ (index : ℕ) (case : JsonObject), cases[index]? = some case →
      (∃ graded, gradeCase host no_mutation validated (start + index) case = .ok graded) ∧
        ∃ name, nameOf (start + index) case = .ok name) :
    ∃ rows, gradeFrom host hidden no_mutation nameOf validated start cases = .ok rows := by
  induction cases generalizing start with
  | nil => exact ⟨[], rfl⟩
  | cons case cases ih =>
    rcases each 0 case rfl with ⟨⟨first, graded⟩, name, named⟩
    have later : ∃ rows, gradeFrom host hidden no_mutation nameOf validated (start + 1) cases =
        .ok rows := by
      apply ih
      intro index other found
      have shifted : start + 1 + index = start + (index + 1) := by omega
      rw [shifted]
      exact each (index + 1) other found
    rcases later with ⟨rows, gradedLater⟩
    rw [Nat.add_zero] at graded named
    exact ⟨exportRow hidden name first :: rows, by rw [gradeFrom, graded, named, gradedLater]⟩

end Rows

/-! ## Failing closed -/

section FailClosed

variable {host : Host}

/-- A case passes only on a row that carries its name, and a result without
rows passes no case. -/
def FailClosed (rows : List JsonObject) (executed : Except Escape Validated)
    (evaluated : Except Escape Evaluation) : Prop :=
  ∀ validated evaluation, executed = .ok validated → evaluated = .ok evaluation →
    (∀ (index : ℕ) (row : GradedRow), evaluation.cases[index]? = some row → row.passed = true →
      ∃ executed case, validated.row? index = some executed ∧ rows[index]? = some case ∧
        Json.field? case "name" = some (.str executed.name)) ∧
    ((∃ message, validated = .execution_error message) → evaluation.passed = 0)

/-- The case expects no error and the answer `null`, which is what a missing
row gives. -/
def ExpectsNull (case : JsonObject) : Prop :=
  expectedError? case = none ∧ Json.field? case "expected" = some .null

/-- A case that expects no error has an expected answer. -/
def Gradable (case : JsonObject) : Prop :=
  expectedError? case = none → (Json.field? case "expected").isSome = true

/-- The executor's object reports the empty string as its error, although some
case expects `null`. -/
structure Unanswered (rows : List JsonObject) (accepted : Prop) (executor : Executor) : Prop where
  accepted : accepted
  blank : executor.Blank
  expectsNull : ∃ case ∈ rows, ExpectsNull case
  gradable : ∀ case ∈ rows, Gradable case

theorem same_null (expected : Json) :
    ∃ decision, same host.close .null expected = .ok decision ∧
      (decision = true ↔ expected = .null) := by
  cases expected <;> exact ⟨_, rfl, by simp⟩

/-- Without a row and without a message a case is graded against a missing
answer. -/
theorem gradeCase_missing {no_mutation : Bool} {validated : Validated} {index : ℕ}
    {case : JsonObject} (silent : validated.error? = none) (missing : validated.row? index = none) :
    gradeCase host no_mutation validated index case =
      match expectedError? case with
      | some expected => .ok ⟨sameError none expected, .null, none⟩
      | none =>
        match Json.field? case "expected" with
        | none => .error keyError
        | some expected =>
          match same host.close .null expected with
          | .error escape => .error escape
          | .ok passed => .ok ⟨passed, .null, none⟩ := by
  have unmutated : ¬ (no_mutation = true ∧
      ((none : Option Row).map Row.input_mutated).getD false = true) :=
    fun mutated => Bool.false_ne_true mutated.2
  unfold gradeCase
  rw [silent, missing]
  dsimp only
  rw [if_neg unmutated]
  rfl

/-- Then it passes when it expects `null`. -/
theorem gradeCase_blank {no_mutation : Bool} {index : ℕ} {case : JsonObject} :
    (Gradable case → ∃ graded,
      gradeCase host no_mutation (.execution_error []) index case = .ok graded) ∧
    ∀ graded, gradeCase host no_mutation (.execution_error []) index case = .ok graded →
      Gradable case ∧ (graded.passed = true ↔ ExpectsNull case) := by
  rw [gradeCase_missing rfl rfl]
  unfold Gradable ExpectsNull
  cases expectedError? case with
  | some error =>
    refine ⟨fun _ => ⟨_, rfl⟩, ?_⟩
    rintro graded ⟨⟩
    exact ⟨by simp, by simp [sameError]⟩
  | none =>
    cases Json.field? case "expected" with
    | none => exact ⟨by simp, by simp⟩
    | some expected =>
      rcases @same_null host expected with ⟨decision, walked, decided⟩
      dsimp only
      rw [walked]
      refine ⟨fun _ => ⟨_, rfl⟩, ?_⟩
      rintro graded ⟨⟩
      exact ⟨by simp, by simpa using decided⟩

/-- With a message no case passes. -/
theorem gradeCase_message {no_mutation : Bool} {index : ℕ} {case : JsonObject} {message : Text}
    (some_ : message ≠ []) {graded : Graded}
    (returned : gradeCase host no_mutation (.execution_error message) index case = .ok graded) :
    graded.passed = false := by
  unfold gradeCase at returned
  simp only [Validated.error?, Validated.message?, Option.filter, ne_eq, some_,
    not_false_eq_true, decide_true, if_true] at returned
  cases returned
  rfl

/-- The grading of an execution. -/
def grading (host : Host) (hidden no_mutation : Bool)
    (nameOf : ℕ → JsonObject → Except Escape Json) (rows : List JsonObject)
    (executed : Except Escape Validated) : Except Escape Evaluation :=
  match executed with
  | .error escape => .error escape
  | .ok validated =>
    (gradeFrom host hidden no_mutation nameOf validated 0 rows).map summary

section Execution

variable {rows : List JsonObject} {valid accepted : Prop} {executor : Executor}
  {outcome : Except Escape Validated} {hidden no_mutation : Bool}
  {nameOf : ℕ → JsonObject → Except Escape Json}

/-- A `null` that is left unanswered passes on a missing row. -/
theorem not_failClosed_of_unanswered
    (named : ∀ index case, (Json.field? case "name").isSome = true →
      ∃ name, nameOf index case = .ok name)
    (executed : Executed host rows valid accepted executor outcome)
    (unanswered : Unanswered rows accepted executor) :
    ¬ FailClosed rows outcome (grading host hidden no_mutation nameOf rows outcome) := by
  intro closed
  have blank : outcome = .ok (.execution_error []) :=
    executed.blank_iff.mpr ⟨unanswered.accepted, unanswered.blank⟩
  have returns : ∃ graded, gradeFrom host hidden no_mutation nameOf (.execution_error []) 0 rows =
      .ok graded := by
    apply gradeFrom_returns
    intro index case found
    have member : case ∈ rows := List.mem_of_getElem? found
    exact ⟨gradeCase_blank.1 (unanswered.gradable case member),
      named _ _ ((executed.of_accepted unanswered.accepted).1 case member)⟩
  rcases returns with ⟨graded, returned⟩
  rcases unanswered.expectsNull with ⟨case, member, expectsNull⟩
  rcases List.getElem?_of_mem member with ⟨index, found⟩
  rcases gradeFrom_case returned found with ⟨result, name, gradedCase, _, stored⟩
  have passed : result.passed = true := (gradeCase_blank.2 _ gradedCase).2.mpr expectsNull
  have grounded := (closed (.execution_error []) (summary graded) blank
    (by rw [blank, grading, returned]; rfl)).1 index _ stored passed
  rcases grounded with ⟨row, _, missing, _⟩
  cases missing

/-- A case that passes without rows expects `null`, and the error is empty. -/
theorem unanswered_of_passed {message : Text}
    (executed : Executed host rows valid accepted executor (.ok (.execution_error message)))
    {graded : List GradedRow}
    (returned : gradeFrom host hidden no_mutation nameOf (.execution_error message) 0 rows =
      .ok graded)
    {index : ℕ} {row : GradedRow} (stored : graded[index]? = some row)
    (passed : row.passed = true) : Unanswered rows accepted executor := by
  rcases (gradeFrom_row returned).2 index row stored with
    ⟨case, result, name, found, gradedCase, _, rfl⟩
  rw [Nat.zero_add] at gradedCase
  by_cases empty : message = []
  · subst empty
    rcases executed.blank_iff.mp rfl with ⟨acceptance, blank⟩
    refine ⟨acceptance, blank, ?_, ?_⟩
    · exact ⟨case, List.mem_of_getElem? found, (gradeCase_blank.2 _ gradedCase).2.mp passed⟩
    · intro other member
      rcases List.getElem?_of_mem member with ⟨position, at_⟩
      rcases gradeFrom_case returned at_ with ⟨_, _, gradedOther, _⟩
      exact (gradeCase_blank.2 _ gradedOther).1
  · have failed := gradeCase_message empty gradedCase
    rw [show result.passed = true from passed] at failed
    cases failed

theorem failClosed_of_answered
    (executed : Executed host rows valid accepted executor outcome)
    (answered : ¬ Unanswered rows accepted executor) :
    FailClosed rows outcome (grading host hidden no_mutation nameOf rows outcome) := by
  rintro validated evaluation rfl evaluated
  unfold grading at evaluated
  cases returned : gradeFrom host hidden no_mutation nameOf validated 0 rows with
  | error escape =>
    simp only [returned] at evaluated
    cases evaluated
  | ok graded =>
    simp only [returned] at evaluated
    cases evaluated
    refine ⟨?_, ?_⟩
    · intro index row stored passed
      cases validated with
      | execution_error message =>
        exact absurd (unanswered_of_passed executed returned stored passed) answered
      | cases valid =>
        rcases executed.identified valid rfl with ⟨lengths, identified⟩
        have inside : index < valid.length := by
          rw [lengths, ← (gradeFrom_row returned).1]
          exact (List.getElem?_eq_some_iff.mp stored).1
        have present := List.getElem?_eq_getElem inside
        rcases identified index _ present with ⟨case, found, name⟩
        exact ⟨_, case, present, found, name⟩
    · rintro ⟨message, rfl⟩
      show graded.countP GradedRow.passed = 0
      rw [List.countP_eq_zero]
      intro row member passed
      rcases List.getElem?_of_mem member with ⟨index, stored⟩
      exact answered (unanswered_of_passed executed returned stored passed)

/-- A grading fails closed unless the executor leaves a `null` unanswered. -/
theorem grading_failClosed
    (named : ∀ index case, (Json.field? case "name").isSome = true →
      ∃ name, nameOf index case = .ok name)
    (executed : Executed host rows valid accepted executor outcome) :
    FailClosed rows outcome (grading host hidden no_mutation nameOf rows outcome) ↔
      ¬ Unanswered rows accepted executor :=
  ⟨fun closed unanswered => not_failClosed_of_unanswered named executed unanswered closed,
    failClosed_of_answered executed⟩

end Execution

theorem caseName_named (case : JsonObject) (present : (Json.field? case "name").isSome = true) :
    ∃ name, caseName case = .ok name := by
  rcases Option.isSome_iff_exists.mp present with ⟨name, found⟩
  exact ⟨name, by rw [caseName, found]⟩

theorem rowName_named (hidden : Bool) (index : ℕ) (case : JsonObject)
    (present : (Json.field? case "name").isSome = true) :
    ∃ name, RepoSandbox.rowName hidden index case = .ok name := by
  unfold RepoSandbox.rowName
  split_ifs
  · exact ⟨_, rfl⟩
  · exact caseName_named case present

theorem repo_evaluate_eq (task : RepoTask) (files : Files) (hidden : Bool) (executor : Executor) :
    (RepoSandbox.evaluate host task files hidden executor).map
        RepoSandbox.RepoEvaluation.toEvaluation =
      grading host hidden (forbidsMutation host task.description) (RepoSandbox.rowName hidden)
        (RepoSandbox.cases task hidden) (RepoSandbox.executed host task files hidden executor) := by
  unfold RepoSandbox.evaluate grading
  cases RepoSandbox.executed host task files hidden executor with
  | error escape => rfl
  | ok validated =>
    dsimp only
    cases gradeFrom host hidden (forbidsMutation host task.description)
      (RepoSandbox.rowName hidden) validated 0 (RepoSandbox.cases task hidden) <;> rfl

/-- Both versions of `evaluate` pass a case only on a validated row that
carries the name of the case, and pass nothing without rows, exactly when the
executor does not report the empty string as its error for an accepted payload
some case of which expects `null`. -/
theorem evaluate_fail_closed (host : Host) (executor : Executor) (hidden : Bool) :
    (∀ (task : RepoTask) (files : Files),
      FailClosed (RepoSandbox.cases task hidden)
          (RepoSandbox.executed host task files hidden executor)
          ((RepoSandbox.evaluate host task files hidden executor).map
            RepoSandbox.RepoEvaluation.toEvaluation) ↔
        ¬ Unanswered (RepoSandbox.cases task hidden) (RepoAccepted host task files hidden)
          executor) ∧
    (∀ (task : Task) (source : Text),
      FailClosed (task.cases hidden) (executed host task source hidden executor)
          (evaluate host task source hidden executor) ↔
        ¬ Unanswered (task.cases hidden)
          (∃ clean,
            source_payload host source task.function_name (task.cases hidden) = .ok clean)
          executor) := by
  constructor
  · intro task files
    rw [repo_evaluate_eq]
    exact grading_failClosed (rowName_named hidden)
      (repo_executed_cases host task files hidden executor)
  · intro task source
    exact grading_failClosed (fun _ => caseName_named)
      (executed_cases host task source hidden executor)

/-! ### An empty message -/

/-- A host whose validators accept everything. -/
def smallHost : Host where
  lower := id
  floatText := fun _ => Text.ofString "0.0"
  quote := id
  close := exactlyClose
  depth := 100
  validate_source := fun _ _ => .ok ()
  validate_files := fun _ _ => .ok ()
  floatText_ne := fun _ => ofString_ne (by decide)
  source_message_ne := by simp
  files_message_ne := by simp

/-- A case without arguments. -/
def plainCase (expected : Json) : JsonObject :=
  [(Text.ofString "name", Json.string "n"), (Text.ofString "args", .arr []),
    (Text.ofString "expected", expected)]

def plainTask (expected : Json) : RepoTask :=
  { smallTask with public_cases := [plainCase expected] }

/-- The container prints this value. -/
def printing (value : Json) : Executor := .docker (.exited 0 [] (some value))

theorem plainTask_accepted (expected : Json) :
    RepoAccepted smallHost (plainTask expected) smallTask.files false := by
  let clean : Payload := .repository smallTask.files smallTask.entrypoint
    [⟨Text.ofString "n", [], []⟩]
  have shallow : ¬ smallHost.depth < Json.nesting clean.json := by decide +kernel
  have writable : ¬ (¬ clean.json.isStandard = true ∨ ¬ Json.intsShort clean.json = true) := by
    decide +kernel
  have small : ¬ (Json.dumps smallHost.floatText Json.compactSeparators clean.json).length >
      MAX_PAYLOAD_BYTES := by decide +kernel
  have edits : RepoSandbox.validate_edits smallHost.validate_files smallTask smallTask.files =
      .ok () := by
    have same : ¬ ¬ ((∀ name ∈ Dict.keys smallTask.files, name ∈ Dict.keys smallTask.files) ∧
        ∀ name ∈ Dict.keys smallTask.files, name ∈ Dict.keys smallTask.files) :=
      not_not.mpr ⟨fun _ member => member, fun _ member => member⟩
    have kept : ¬ ∃ entry ∈ smallTask.files.rows, Dict.get? smallTask.files entry.1 ≠ some entry.2 ∧
        entry.1 ∉ smallTask.allowed_edit_files := by decide +kernel
    rw [RepoSandbox.validate_edits, if_neg same, if_neg kept]
    rfl
  have encodes : encode smallHost.floatText smallHost.depth repositoryRefusals clean =
      .ok (Json.dumps smallHost.floatText Json.compactSeparators clean.json) := by
    unfold encode
    rw [if_neg shallow, if_neg writable]
    exact if_neg small
  have packs : pack smallHost.floatText smallHost.depth repositoryRefusals
      (.repository smallTask.files smallTask.entrypoint)
      ((RepoSandbox.cases (plainTask expected) false).map Json.obj) =
        .ok (clean, Json.dumps smallHost.floatText Json.compactSeparators clean.json) := by
    have cleaned : cleanRows? ((RepoSandbox.cases (plainTask expected) false).map Json.obj) =
        some clean.cases := rfl
    have made : Payload.repository smallTask.files smallTask.entrypoint clean.cases = clean := rfl
    rw [pack, cleaned, if_neg (by show ¬ 1 > 24; decide)]
    dsimp only
    rw [made, encodes]
  have valid : smallHost.validate_files smallTask.files (plainTask expected).entrypoint =
      .ok () := rfl
  refine ⟨edits, clean, ?_⟩
  rw [RepoSandbox.payload, valid]
  dsimp only
  rw [show (plainTask expected).entrypoint = smallTask.entrypoint from rfl, packs, packed]

/-- An object with an empty message passes a case that expects `null`. -/
theorem evaluate_blank_passes :
    ¬ ∀ (host : Host) (task : RepoTask) (files : Files) (hidden : Bool) (executor : Executor),
      FailClosed (RepoSandbox.cases task hidden)
        (RepoSandbox.executed host task files hidden executor)
        ((RepoSandbox.evaluate host task files hidden executor).map
          RepoSandbox.RepoEvaluation.toEvaluation) := by
  intro closed
  have closed := closed smallHost (plainTask .null) smallTask.files false
    (printing (Json.object [("execution_error", .str [])]))
  rw [repo_evaluate_eq, grading_failClosed (rowName_named false)
    (repo_executed_cases _ _ _ _ _)] at closed
  exact closed ⟨plainTask_accepted .null, ⟨_, rfl, rfl⟩,
    ⟨_, List.mem_singleton_self _, rfl, rfl⟩, by
      intro case member
      cases List.mem_singleton.mp member
      exact fun _ => rfl⟩

end FailClosed

/-! ## Totality -/

section Total

variable {host : Host}

/-- The grading of a case compares the answer of its row with this value. -/
structure Compared (no_mutation : Bool) (row : Row) (case : JsonObject) (expected : Json) :
    Prop where
  kept : ¬ (no_mutation = true ∧ row.input_mutated = true)
  unexceptional : expectedError? case = none
  errorless : row.error = none
  wanted : Json.field? case "expected" = some expected

theorem gradeCase_row {no_mutation : Bool} {validated : Validated} {index : ℕ} {case : JsonObject}
    {row : Row} (silent : validated.error? = none) (found : validated.row? index = some row) :
    gradeCase host no_mutation validated index case =
      if no_mutation = true ∧ row.input_mutated = true then
        .ok ⟨false, row.actual, some (Text.ofString "InputMutation")⟩
      else
        match expectedError? case with
        | some expected => .ok ⟨sameError row.error expected, row.actual, row.error⟩
        | none =>
          if row.error.isSome then .ok ⟨false, row.actual, row.error⟩
          else
            match Json.field? case "expected" with
            | none => .error keyError
            | some expected =>
              match same host.close row.actual expected with
              | .error escape => .error escape
              | .ok passed => .ok ⟨passed, row.actual, row.error⟩ := by
  unfold gradeCase
  rw [silent, found]
  rfl

theorem same_returns {actual expected : Json} (fits : ¬ Overflows host.close actual expected) :
    ∃ decision, same host.close actual expected = .ok decision := by
  rcases @same_decides host.close actual expected with
    ⟨overflows, _⟩ | ⟨_, decision, walked, _⟩
  · exact absurd overflows fits
  · exact ⟨decision, walked⟩

theorem gradeCase_missing_returns {no_mutation : Bool} {validated : Validated} {index : ℕ}
    {case : JsonObject} {expected : Json} (silent : validated.error? = none)
    (missing : validated.row? index = none)
    (wanted : Json.field? case "expected" = some expected) :
    ∃ graded, gradeCase host no_mutation validated index case = .ok graded := by
  rw [gradeCase_missing silent missing]
  cases expectedError? case with
  | some error => exact ⟨_, rfl⟩
  | none =>
    rcases @same_null host expected with ⟨decision, walked, _⟩
    dsimp only
    rw [wanted]
    dsimp only
    rw [walked]
    exact ⟨_, rfl⟩

theorem gradeCase_row_returns_iff {no_mutation : Bool} {validated : Validated} {index : ℕ}
    {case : JsonObject} {row : Row} {expected : Json} (silent : validated.error? = none)
    (found : validated.row? index = some row)
    (wanted : Json.field? case "expected" = some expected) :
    (∃ graded, gradeCase host no_mutation validated index case = .ok graded) ↔
      (Compared no_mutation row case expected → ¬ Overflows host.close row.actual expected) := by
  rw [gradeCase_row silent found]
  by_cases mutated : no_mutation = true ∧ row.input_mutated = true
  · rw [if_pos mutated]
    exact iff_of_true ⟨_, rfl⟩ fun compared => absurd mutated compared.kept
  · rw [if_neg mutated]
    cases exceptional : expectedError? case with
    | some error =>
      refine iff_of_true ⟨_, rfl⟩ fun compared => ?_
      rw [compared.unexceptional] at exceptional
      cases exceptional
    | none =>
      cases failed : row.error with
      | some message =>
        refine iff_of_true ⟨_, rfl⟩ fun compared => ?_
        rw [compared.errorless] at failed
        cases failed
      | none =>
        have compared : Compared no_mutation row case expected :=
          ⟨mutated, exceptional, failed, wanted⟩
        dsimp only
        rw [wanted]
        dsimp only
        rcases @same_decides host.close row.actual expected with
          ⟨overflows, walked⟩ | ⟨fits, decision, walked, _⟩
        · rw [walked]
          exact iff_of_false (by simp) fun holds => holds compared overflows
        · rw [walked]
          exact iff_of_true ⟨_, rfl⟩ fun _ => fits

/-- A case that has an expected answer is graded, unless its answer is compared
and the comparison meets an integer that does not convert. -/
theorem gradeCase_returns_iff {no_mutation : Bool} {validated : Validated} {index : ℕ}
    {case : JsonObject} (answer : (Json.field? case "expected").isSome = true) :
    (∃ graded, gradeCase host no_mutation validated index case = .ok graded) ↔
      ∀ row expected, validated.row? index = some row → Compared no_mutation row case expected →
        ¬ Overflows host.close row.actual expected := by
  rcases Option.isSome_iff_exists.mp answer with ⟨expected, wanted⟩
  cases silent : validated.error? with
  | some message =>
    have missing : validated.row? index = none := by
      cases validated with
      | execution_error _ => rfl
      | cases rows => cases silent
    refine iff_of_true ⟨_, by unfold gradeCase; rw [silent]⟩ ?_
    simp [missing]
  | none =>
    cases found : validated.row? index with
    | none => exact iff_of_true (gradeCase_missing_returns silent found wanted) (by simp)
    | some row =>
      rw [gradeCase_row_returns_iff silent found wanted]
      constructor
      · rintro one _ other ⟨⟩ compared
        cases wanted.symm.trans compared.wanted
        exact one compared
      · exact fun each => each row expected rfl

/-- A grading raises nothing but what the language raises. -/
theorem gradeCase_error {no_mutation : Bool} {validated : Validated} {index : ℕ}
    {case : JsonObject} {escape : Escape}
    (raised : gradeCase host no_mutation validated index case = .error escape) :
    escape = .other := by
  have walk (actual expected : Json) (raised : same host.close actual expected = .error escape) :
      escape = .other := by
    rcases @same_decides host.close actual expected with
      ⟨_, walked⟩ | ⟨_, decision, walked, _⟩
    · rw [walked] at raised
      cases raised
      rfl
    · rw [walked] at raised
      cases raised
  unfold gradeCase at raised
  dsimp only at raised
  split at raised
  · cases raised
  · split at raised
    · cases raised
    · split at raised
      · cases raised
      · split at raised
        · cases raised
        · split at raised
          · cases raised
            rfl
          · split at raised
            next failed =>
              cases raised
              exact walk _ _ failed
            · cases raised

theorem gradeFrom_error {hidden no_mutation : Bool}
    {nameOf : ℕ → JsonObject → Except Escape Json} {validated : Validated} {start : ℕ}
    {cases : List JsonObject} {escape : Escape}
    (naming : ∀ index case escape, nameOf index case = .error escape → escape = .other)
    (raised : gradeFrom host hidden no_mutation nameOf validated start cases = .error escape) :
    escape = .other := by
  induction cases generalizing start with
  | nil => cases raised
  | cons case cases ih =>
    unfold gradeFrom at raised
    split at raised
    next error failed =>
      cases raised
      exact gradeCase_error failed
    · split at raised
      next error failed =>
        cases raised
        exact naming _ _ _ failed
      · split at raised
        next error failed =>
          cases raised
          exact ih failed
        · cases raised

theorem caseName_error {case : JsonObject} {escape : Escape}
    (raised : caseName case = .error escape) : escape = .other := by
  unfold caseName at raised
  split at raised
  · cases raised
  · cases raised
    rfl

theorem rowName_error (hidden : Bool) (index : ℕ) (case : JsonObject) (escape : Escape)
    (raised : RepoSandbox.rowName hidden index case = .error escape) : escape = .other := by
  unfold RepoSandbox.rowName at raised
  split_ifs at raised
  exact caseName_error raised

/-- What a repository grading needs in order to raise nothing of its own: a
visible case is named by its name, the encoder can write the inputs unless the
cases are rejected before, an executor that is reached does not break, and no
comparison that the grading makes meets an integer that `float` does not
convert. -/
structure Supported (host : Host) (task : RepoTask) (files : Files) (hidden : Bool)
    (executor : Executor) : Prop where
  named : hidden = false → ∀ case ∈ RepoSandbox.cases task hidden,
    (Json.field? case "name").isSome = true
  writable : Writable host (RepoSandbox.cases task hidden)
  whole : RepoAccepted host task files hidden → executor.breaks = false
  fits : ∀ rows : List Row,
    RepoSandbox.executed host task files hidden executor = .ok (.cases rows) →
    ∀ (index : ℕ) (row : Row) (case : JsonObject) (expected : Json), rows[index]? = some row →
      (RepoSandbox.cases task hidden)[index]? = some case →
      Compared (forbidsMutation host task.description) row case expected →
      ¬ Overflows host.close row.actual expected

/-- A grading that raises only an unavailable sandbox, and counts the passed
among all cases. -/
def Total (rows : List JsonObject) (evaluated : Except Escape Evaluation) : Prop :=
  (∀ escape, evaluated = .error escape → ∃ message, escape = .sandboxUnavailable message) ∧
    ∀ evaluation, evaluated = .ok evaluation →
      evaluation.passed ≤ evaluation.total ∧ evaluation.total = rows.length

theorem grading_counts {hidden no_mutation : Bool} {nameOf : ℕ → JsonObject → Except Escape Json}
    {rows : List JsonObject} {executed : Except Escape Validated} {evaluation : Evaluation}
    (returned : grading host hidden no_mutation nameOf rows executed = .ok evaluation) :
    evaluation.passed ≤ evaluation.total ∧ evaluation.total = rows.length := by
  unfold grading at returned
  split at returned
  · cases returned
  next validated =>
    cases graded : gradeFrom host hidden no_mutation nameOf validated 0 rows with
    | error escape =>
      rw [graded] at returned
      cases returned
    | ok exported =>
      rw [graded] at returned
      cases returned
      exact ⟨List.countP_le_length, (gradeFrom_row graded).1⟩

/-- With a validated result, a grading is total when it returns. -/
theorem grading_total_iff {hidden no_mutation : Bool}
    {nameOf : ℕ → JsonObject → Except Escape Json}
    (naming : ∀ index case escape, nameOf index case = .error escape → escape = .other)
    {rows : List JsonObject} {validated : Validated} :
    Total rows (grading host hidden no_mutation nameOf rows (.ok validated)) ↔
      ∀ (index : ℕ) (case : JsonObject), rows[index]? = some case →
        (∃ graded, gradeCase host no_mutation validated index case = .ok graded) ∧
          ∃ name, nameOf index case = .ok name := by
  constructor
  · intro total index case found
    cases graded : gradeFrom host hidden no_mutation nameOf validated 0 rows with
    | error escape =>
      have other := gradeFrom_error naming graded
      rcases total.1 escape (by rw [grading, graded]; rfl) with ⟨message, wrong⟩
      rw [other] at wrong
      cases wrong
    | ok exported =>
      rcases gradeFrom_case graded found with ⟨result, name, gradedCase, named, _⟩
      exact ⟨⟨result, gradedCase⟩, name, named⟩
  · intro each
    have returns : ∃ exported, gradeFrom host hidden no_mutation nameOf validated 0 rows =
        .ok exported := by
      apply gradeFrom_returns
      intro index case found
      rw [Nat.zero_add]
      exact each index case found
    rcases returns with ⟨exported, graded⟩
    refine ⟨?_, fun evaluation returned => grading_counts returned⟩
    intro escape raised
    rw [grading, graded] at raised
    cases raised

/-- The name of a hidden row needs no name of the case. -/
theorem rowName_iff {hidden : Bool} {index : ℕ} {case : JsonObject} :
    (∃ name, RepoSandbox.rowName hidden index case = .ok name) ↔
      (hidden = false → (Json.field? case "name").isSome = true) := by
  unfold RepoSandbox.rowName caseName
  cases hidden with
  | true => simp
  | false => cases Json.field? case "name" <;> simp

theorem evaluate_total_iff (host : Host) (task : RepoTask) (files : Files) (hidden : Bool)
    (executor : Executor) (edits : RepoSandbox.validate_edits host.validate_files task files = .ok ())
    (answers : ∀ case ∈ RepoSandbox.cases task hidden,
      (Json.field? case "expected").isSome = true) :
    Total (RepoSandbox.cases task hidden)
        ((RepoSandbox.evaluate host task files hidden executor).map
          RepoSandbox.RepoEvaluation.toEvaluation) ↔
      Supported host task files hidden executor := by
  have ways := repo_executed_cases host task files hidden executor
  rw [repo_evaluate_eq]
  cases outcome : RepoSandbox.executed host task files hidden executor with
  | error escape =>
    rw [outcome] at ways
    rcases ways.error_cases edits with ⟨foreign, reason⟩ | ⟨message, rfl, writable, whole, named⟩
    · refine iff_of_false ?_ fun supported => ?_
      · intro total
        rcases total.1 _ rfl with ⟨message, wrong⟩
        exact foreign message wrong
      · rcases reason with unwritable | ⟨accepted, breaks⟩
        · exact unwritable supported.writable
        · rw [supported.whole accepted] at breaks
          cases breaks
    · refine iff_of_true ⟨?_, ?_⟩
        ⟨fun _ => named, writable, fun _ => whole, by simp [outcome]⟩
      · rintro _ ⟨⟩
        exact ⟨message, rfl⟩
      · rintro _ ⟨⟩
  | ok validated =>
    rw [outcome] at ways
    rw [grading_total_iff (rowName_error hidden)]
    constructor
    · intro each
      refine ⟨?_, (ways.ok_cases edits).1, (ways.ok_cases edits).2, ?_⟩
      · intro visible case member
        rcases List.getElem?_of_mem member with ⟨index, found⟩
        exact rowName_iff.mp (each index case found).2 visible
      · intro rows same index row case expected stored found compared
        rw [outcome] at same
        cases same
        exact (gradeCase_returns_iff (answers case (List.mem_of_getElem? found))).mp
          (each index case found).1 row expected stored compared
    · intro supported index case found
      have member := List.mem_of_getElem? found
      refine ⟨(gradeCase_returns_iff (answers case member)).mpr ?_,
        rowName_iff.mpr fun visible => supported.named visible case member⟩
      intro row expected stored compared
      cases validated with
      | execution_error message => cases stored
      | cases rows =>
        exact supported.fits rows outcome index row case expected stored found compared

/-- The container of the plain task answers its one case. -/
theorem plainTask_executed (expected result : Json) :
    RepoSandbox.executed smallHost (plainTask expected) smallTask.files false (printing result) =
      .ok (validate_result smallHost result [⟨Text.ofString "n", [], []⟩]) := by
  rcases plainTask_accepted expected with ⟨edits, clean, accepted⟩
  have same := validated_payload_of_repository accepted
  rcases repository_payload_eq accepted with ⟨cases, cleaned, rfl⟩
  have only_ : cases = [⟨Text.ofString "n", [], []⟩] := Option.some.inj (cleaned.symm.trans rfl)
  unfold RepoSandbox.executed
  rw [edits]
  dsimp only
  rw [accepted]
  dsimp only
  rw [printing, execute, execute_docker, same, only_]
  rfl

theorem plainTask_answers (expected : Json) :
    ∀ case ∈ RepoSandbox.cases (plainTask expected) false,
      (Json.field? case "expected").isSome = true := by
  intro case member
  cases List.mem_singleton.mp member
  rfl

/-- For a repository whose files are accepted and whose cases all have an
expected answer, `evaluate` raises nothing but an unavailable sandbox, and
returns a count of passed cases among all of them, exactly when it is
supported.  `_same` returns exactly when it meets no integer that `float` does
not convert. -/
theorem evaluate_total (host : Host) (task : RepoTask) (files : Files) (hidden : Bool)
    (executor : Executor) (edits : RepoSandbox.validate_edits host.validate_files task files = .ok ())
    (answers : ∀ case ∈ RepoSandbox.cases task hidden,
      (Json.field? case "expected").isSome = true) :
    (Total (RepoSandbox.cases task hidden)
        ((RepoSandbox.evaluate host task files hidden executor).map
          RepoSandbox.RepoEvaluation.toEvaluation) ↔
      Supported host task files hidden executor) ∧
    ∀ actual expected, (∃ decision, same host.close actual expected = .ok decision) ↔
      ¬ Overflows host.close actual expected := by
  refine ⟨evaluate_total_iff host task files hidden executor edits answers, ?_⟩
  intro actual expected
  constructor
  · rintro ⟨decision, walked⟩ overflows
    rcases @same_decides host.close actual expected with ⟨_, raised⟩ | ⟨fits, _⟩
    · rw [raised] at walked
      cases walked
    · exact fits overflows
  · exact same_returns

/-- A row of the executor for the plain case. -/
def plainRow (actual : Json) : Json :=
  Json.object [("name", Json.string "n"), ("actual", actual), ("input_mutated", .bool false),
    ("error", .null)]

/-- The container answers the plain case with a number. -/
def answering (actual : ℤ) : Executor :=
  printing (Json.object [("cases", .arr [plainRow (.int actual)])])

/-- The answer of the plain case is compared with the expected one. -/
theorem evaluate_total_plain :
    Total (RepoSandbox.cases (plainTask (.int 1)) false)
      ((RepoSandbox.evaluate smallHost (plainTask (.int 1)) smallTask.files false
        (answering 1)).map RepoSandbox.RepoEvaluation.toEvaluation) := by
  have total := evaluate_total smallHost (plainTask (.int 1)) smallTask.files false (answering 1)
    (plainTask_accepted (.int 1)).1 (plainTask_answers (.int 1))
  have accepted := plainTask_accepted (.int 1)
  have writable := ((repo_executed_cases smallHost (plainTask (.int 1)) smallTask.files false
    (answering 1)).of_accepted accepted).2
  refine total.1.mpr ⟨fun _ case member => ?_, writable, fun _ => rfl, ?_⟩
  · rw [List.mem_singleton.mp member]
    rfl
  · intro rows executed index row case expected stored found compared
    rw [answering, plainTask_executed] at executed
    have only_ : rows = [⟨Text.ofString "n", .int 1, false, none⟩] := by
      injection executed with same
      injection same with same
      exact same.symm
    have first : index = 0 := by
      have inside := (List.getElem?_eq_some_iff.mp found).1
      exact Nat.lt_one_iff.mp inside
    subst only_ first
    cases stored
    cases found
    cases compared.wanted
    exact (total.2 (.int 1) (.int 1)).mp ⟨true, by decide +kernel⟩

/-- An answer beyond the range of the floats makes the grading raise. -/
theorem evaluate_overflows :
    ¬ ∀ (host : Host) (task : RepoTask) (files : Files) (hidden : Bool) (executor : Executor),
      RepoSandbox.validate_edits host.validate_files task files = .ok () →
      (∀ case ∈ RepoSandbox.cases task hidden, (Json.field? case "expected").isSome = true) →
      Total (RepoSandbox.cases task hidden)
        ((RepoSandbox.evaluate host task files hidden executor).map
          RepoSandbox.RepoEvaluation.toEvaluation) := by
  intro total
  have large : ¬ Fits (10 ^ 400) := by decide +kernel
  have raises := total smallHost (plainTask (.int 1)) smallTask.files false
    (answering (10 ^ 400))
    (plainTask_accepted (.int 1)).1 (plainTask_answers (.int 1))
  rw [repo_evaluate_eq, answering, plainTask_executed, grading_total_iff (rowName_error false)] at raises
  have graded := (gradeCase_returns_iff (plainTask_answers (.int 1) _ (List.mem_singleton_self _))).mp
    (raises 0 (plainCase (.int 1)) rfl).1
  exact graded ⟨Text.ofString "n", .int (10 ^ 400), false, none⟩ (.int 1) rfl
    ⟨by simp, rfl, rfl, rfl⟩ ⟨.int (10 ^ 400), .int 1, ⟨rfl, rfl⟩, trivial, .inl large⟩

end Total

end Sandbox

end ForgeRL
