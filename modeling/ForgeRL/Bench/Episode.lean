import ForgeRL.Bench.Router
import ForgeRL.Bench.Provider

namespace ForgeRL

open Library

/-!
# The state of a repair episode

An episode is explicit state.  Its environment (the provider, the evaluator,
the clock that may be cancelled) is a function of what it has been asked
before, so one configuration determines one run.

Beside the fields of the source the state keeps a log: every decision, every
provider request and every evaluation in the order in which they happened,
with the answers.  No method reads the answers back from the log; it tells the
environment its own history, and it is what statements about a whole run are
made of.
-/

/-! ## Evaluations -/

/-- A row of an evaluation result. -/
structure CaseRow where
  name : Text
  passed : Bool
  /-- `row["actual"]`, when the key is present. -/
  actual : Option Json
  error : Json

/-- The result of `evaluator(task, files, hidden)`. -/
structure EvalResult where
  passed : ℕ
  total : ℕ
  cases : List CaseRow
  execution_error : Bool

/-- Every case passes, and there are some. -/
def EvalResult.AllPass (result : EvalResult) : Prop :=
  result.total ≠ 0 ∧ result.passed = result.total

instance (result : EvalResult) : Decidable result.AllPass :=
  inferInstanceAs (Decidable (_ ∧ _))

/-- Which cases an evaluation runs: the task's public ones, the supplemental
ones of a verification task, or the hidden ones. -/
inductive Checks where
  | visible
  | supplemental
  | hidden
deriving DecidableEq, Repr

structure EvalCall where
  checks : Checks
  files : Files

inductive EvalOutcome where
  | result (result : EvalResult)
  | raised (escape : Escape)

/-- An evaluator, for a fixed task, as a function of its earlier calls. -/
abbrev Evaluator := List EvalCall → EvalCall → EvalOutcome

/-! ## Providers -/

/-- The arguments of the estimates and of `build_messages`. -/
structure Query where
  task : VisibleTask
  files : Files
  feedback : Json
  role : Role

structure Request extends Query where
  seed : ℤ

inductive PreflightError where
  | providerError (message : String)
  | other (escape : Escape)

inductive GenerateOutcome where
  | result (result : RepoResult)
  | failure (failed : ProviderFailure)
  /-- An exception that is no provider error, no refusal and no cancellation. -/
  | escaped (escape : Escape)

/-- The reservation was refused: no request was made. -/
def GenerateOutcome.refused : GenerateOutcome → Bool
  | .failure failed => failed.kind = .budgetExceeded
  | _ => false

/-- A provider as a function of its earlier requests.  A provider may lack the
estimates and the message builder. -/
structure HostedProvider where
  estimate_reservation_usd : Option (List Request → Query → Except PreflightError ℚ)
  estimate_token_bound : Option (List Request → Query → Except PreflightError ℤ)
  build_messages : Option (List Request → Query → Except PreflightError Json)
  generate : List Request → Request → GenerateOutcome

/-! ## The log and the exported trajectory -/

inductive Occurrence where
  | decision (action : Action) (source : String) (state : Observation)
  | request (request : Request) (outcome : GenerateOutcome)
  | evaluation (call : EvalCall) (outcome : EvalOutcome)

inductive Status where
  | running
  | completed
  | failed
  | interrupted
  | budget_exhausted
deriving DecidableEq, Repr

/-- The exported events, without their times. -/
inductive Event where
  | specification (id description success_criterion : Text)
  | context (files : Files) (entrypoint : Text)
  | toolCall (checks : Checks) (files_sha256 : Text)
  | tests (result : EvalResult)
  /-- Hidden results are exported without their rows. -/
  | heldOutTests (passed total : ℕ)
  | supplementalTests (result : EvalResult) (files_sha256 : Text)
  | decision (action : Action) (source : String) (state : Observation) (policy : Policy)
  | rollback (previous restored : Files) (public_passed : ℕ)
  | costCap
  | tokenCap
  | outboundPrompt (messages : Json) (role : Role)
  | preflightError (error : String)
  | retry (attempt : ℕ) (role : Role)
  | request (attempt : ℕ) (role : Role) (action : Action) (files : List Text) (seed : ℤ)
  | modelSwitch (before after : String)
  | failure (error : String) (failed : ProviderFailure)
  | inference (result : RepoResult)
  | rejected (error : String) (candidate : Files)
  | patch (previous candidate : Files)
  | backoff (retry : ℕ) (delay_s : ℚ) (role : Role)
  | gradingUnavailable (error : String)
  | verificationUnavailable (files_sha256 : Text)
  | executionUnavailable (error : String)
  | complete (status : Status) (solved : Bool) (stop_reason : Option String)

structure Transition where
  task_id : Text
  split : Text
  action : Action
  state : Observation
  next_state : Observation
  cost_usd : ℚ
  terminal : Bool

/-! ## Configuration -/

/-- How a check of files or of a payload fails. -/
inductive Sandbox.Rejection where
  /-- `SandboxRejected` -/
  | rejected (message : String)
  | escaped (escape : Escape)

/-- `bench.sandbox.validate_edits`, given `validate_files`. -/
def RepoSandbox.validate_edits (validate_files : Files → Text → Except Sandbox.Rejection Unit)
    (task : RepoTask) (files : Files) : Except Sandbox.Rejection Unit :=
  if ¬ ((∀ name ∈ Dict.keys files, name ∈ Dict.keys task.files) ∧
      ∀ name ∈ Dict.keys task.files, name ∈ Dict.keys files) then
    .error (.rejected "Adding or deleting repository files is unsupported")
  else if ∃ entry ∈ task.files.rows,
      Dict.get? files entry.1 ≠ some entry.2 ∧ entry.1 ∉ task.allowed_edit_files then
    .error (.rejected "Candidate changed a protected repository file")
  else validate_files files task.entrypoint

/-- Only the check of the files raises anything but a rejection. -/
theorem RepoSandbox.validate_files_of_escaped
    {validate_files : Files → Text → Except Sandbox.Rejection Unit} {task : RepoTask}
    {files : Files} {escape : Escape}
    (escaped : validate_edits validate_files task files = .error (.escaped escape)) :
    validate_files files task.entrypoint = .error (.escaped escape) := by
  unfold validate_edits at escaped
  split at escaped
  · cases escaped
  · split at escaped
    · cases escaped
    · exact escaped

/-- The four episode classes. -/
inductive Harness where
  | repo
  | verification
  | pilot
  | ablation (verify_enabled : Bool)
deriving DecidableEq, Repr

/-- The bounds that the constructor accepts. -/
structure Bounds where
  max_steps : ℕ
  max_decisions : ℕ
  max_cost_usd : ℚ
  rate_limit_retries : ℕ
  steps : 1 ≤ max_steps ∧ max_steps ≤ 6
  decisions : 1 ≤ max_decisions ∧ max_decisions ≤ 10
  cost : 0 < max_cost_usd ∧ max_cost_usd ≤ 5
  retries : rate_limit_retries ≤ 2

/-- The artifacts of a pilot episode. -/
structure Controllers where
  fitted_q : Option Router.Artifact
  supervised_cost : Option Router.Artifact

structure Config where
  harness : Harness
  task : RepoTask
  /-- `spec.verification_cases` -/
  verification_cases : List JsonObject
  policy : Policy
  artifact : Option Router.Artifact
  controllers : Controllers
  bounds : Bounds
  max_verifications : ℕ
  seed : ℤ
  provider : HostedProvider
  evaluator : Evaluator
  /-- The wait before a retry is cancelled, by the number of decisions so far. -/
  sleepCancelled : ℕ → Bool
  floatText : ℚ → Text
  /-- SHA-256 of the sorted JSON text. -/
  fingerprint : Files → Text
  /-- `bench.sandbox.validate_files` -/
  validate_files : Files → Text → Except Sandbox.Rejection Unit
  arithmetic : Arithmetic

/-- `RepoEpisode.max_tokens` -/
def maxEpisodeTokens : ℤ := 100000

/-! ## Episodes -/

structure Episode where
  files : Files
  best_files : Files
  publicResult : EvalResult
  bestPublic : EvalResult
  hidden : Option EvalResult
  public_measured : Bool
  unnecessary_edits : Option ℕ
  attempts : ℕ
  decisions : ℕ
  rollbacks : ℕ
  escalations : ℕ
  retries : ℕ
  invalid_responses : ℕ
  provider_retries : ℕ
  pending_provider_delay : Option ℚ
  unknown_token_bound : ℤ
  tool_calls : ℕ
  regressions : ℕ
  tokens : ℤ
  cost_usd : ℚ
  improvement : ℤ
  current_model : Role
  last_model_id : Option String
  events : List Event
  transitions : List Transition
  models : List String
  failure_labels : List String
  snapshots : List Text
  status : Status
  stop_reason : Option String
  error : Option String
  started_flag : Bool
  terminal : Bool
  finished : Bool
  tokens_complete : Bool
  learned_decisions : ℕ
  fallback_decisions : ℕ
  had_visible_failure : Bool
  verification_calls : ℕ
  verified_candidates : Dict Text EvalResult
  verification_attempted : List Text
  log : List Occurrence

/-- The end of a method: it returns, or an exception leaves it; in both cases
the episode keeps what was assigned. -/
inductive Outcome (α : Type) where
  | ok (value : α) (episode : Episode)
  | raised (escape : Escape) (episode : Episode)

namespace Outcome

variable {α β : Type}

def episode : Outcome α → Episode
  | .ok _ episode => episode
  | .raised _ episode => episode

/-- Go on after a normal return. -/
def andThen (outcome : Outcome α) (next : α → Episode → Outcome β) : Outcome β :=
  match outcome with
  | .ok value episode => next value episode
  | .raised escape episode => .raised escape episode

/-- Change the episode in either case, as a `finally` does. -/
def mapEpisode (outcome : Outcome α) (change : Episode → Episode) : Outcome α :=
  match outcome with
  | .ok value episode => .ok value (change episode)
  | .raised escape episode => .raised escape (change episode)

/-- A test of a method that has to return. -/
def test (outcome : Outcome α) (accepts : α → Episode → Bool) : Bool :=
  match outcome with
  | .ok value episode => accepts value episode
  | .raised _ _ => false

theorem returned_of_test {outcome : Outcome α} {accepts : α → Episode → Bool}
    (passed : outcome.test accepts = true) :
    ∃ value episode, outcome = .ok value episode ∧ accepts value episode = true := by
  cases outcome with
  | ok value episode => exact ⟨value, episode, rfl, passed⟩
  | raised escape episode => cases passed

end Outcome

/-- `RepoEpisode.__init__` -/
def Episode.initial (cfg : Config) : Episode where
  files := cfg.task.files
  best_files := cfg.task.files
  publicResult := ⟨0, cfg.task.public_cases.length, [], false⟩
  bestPublic := ⟨0, cfg.task.public_cases.length, [], false⟩
  hidden := none
  public_measured := false
  unnecessary_edits := none
  attempts := 0
  decisions := 0
  rollbacks := 0
  escalations := 0
  retries := 0
  invalid_responses := 0
  provider_retries := 0
  pending_provider_delay := none
  unknown_token_bound := 0
  tool_calls := 0
  regressions := 0
  tokens := 0
  cost_usd := 0
  improvement := 0
  current_model := .cheap
  last_model_id := none
  events := []
  transitions := []
  models := []
  failure_labels := []
  snapshots := [cfg.fingerprint cfg.task.files]
  status := .running
  stop_reason := none
  error := none
  started_flag := false
  terminal := false
  finished := false
  tokens_complete := true
  learned_decisions := 0
  fallback_decisions := 0
  had_visible_failure := false
  verification_calls := 0
  verified_candidates := ∅
  verification_attempted := []
  log := []

namespace Episode

/-- The provider requests so far. -/
def requests (ep : Episode) : List Request :=
  ep.log.filterMap fun occurrence =>
    match occurrence with
    | .request request _ => some request
    | _ => none

/-- The evaluator calls so far. -/
def evaluations (ep : Episode) : List EvalCall :=
  ep.log.filterMap fun occurrence =>
    match occurrence with
    | .evaluation call _ => some call
    | _ => none

/-- Append an event. -/
def emit (ep : Episode) (event : Event) : Episode := { ep with events := ep.events ++ [event] }

/-- Append to the log. -/
def note (ep : Episode) (occurrence : Occurrence) : Episode :=
  { ep with log := ep.log ++ [occurrence] }

def record_failure (ep : Episode) (label : String) : Episode :=
  if label ∈ ep.failure_labels then ep
  else { ep with failure_labels := ep.failure_labels ++ [label] }

/-- End the episode. -/
def stop (ep : Episode) (reason : String) : Episode :=
  { ep with terminal := true, stop_reason := some reason }

/-- A failure leaves nothing but its label. -/
theorem record_failure_eq (ep : Episode) (label : String) :
    ∃ labels, ep.record_failure label = { ep with failure_labels := labels } := by
  unfold record_failure
  split_ifs
  · exact ⟨ep.failure_labels, rfl⟩
  · exact ⟨_, rfl⟩

end Episode

end ForgeRL
