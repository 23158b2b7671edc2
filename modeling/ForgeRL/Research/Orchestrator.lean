import ForgeRL.Library.Attempt
import ForgeRL.Library.Json
import Mathlib.Algebra.Order.Field.Power

namespace ForgeRL.Research

open Library

/-!
# Measured repair episodes

The episode of the first pilot: one Python file, repaired in at most three
requests.  Unlike in the bench, a session of several episodes shares one
provider and one sandbox, because the tree of a training task is made of clones
of one episode.  So the log of what has happened is beside the episodes and not
in them.

Costs are whole millionths of a dollar: the provider divides the integer that
its ledger has settled by a million, and a result rounds to six digits.
-/

structure Task where
  id : String
  title : String
  family : String
  split : String
  description : String
  source : String
  function_name : String
  public_cases : List JsonObject
  hidden_cases : List JsonObject
  filename : String

/-- The `policy_id` of an episode of the study. -/
inductive Policy where
  | research_tree
  | fixed
  | deliberate
  | heuristic
  | adaptive
deriving DecidableEq, Repr

inductive Action where
  | fast
  | deliberate
  | replan
  | stop
deriving DecidableEq, Repr

inductive Status where
  | running
  | completed
  | failed
  | budget_exhausted
deriving DecidableEq, Repr

/-- What a request, an evaluation, a copy, a record or a parameter of the study
may raise. -/
inductive Failure where
  | providerError (message : String)
  | budgetExceeded (message : String)
  | sandboxUnavailable (message : String)
  | valueError (message : String)
  | typeError (message : String)
  | other (kind message : String)
  /-- `asyncio.CancelledError`, which `except Exception` does not catch. -/
  | cancelled
deriving DecidableEq, Repr

namespace Failure

/-- `type(exc).__name__` -/
def kind : Failure → String
  | providerError _ => "ProviderError"
  | budgetExceeded _ => "BudgetExceeded"
  | sandboxUnavailable _ => "SandboxUnavailable"
  | valueError _ => "ValueError"
  | typeError _ => "TypeError"
  | other kind _ => kind
  | cancelled => "CancelledError"

/-- `str(exc)` -/
def message : Failure → String
  | providerError message => message
  | budgetExceeded message => message
  | sandboxUnavailable message => message
  | valueError message => message
  | typeError message => message
  | other _ message => message
  | cancelled => ""

end Failure

/-! ## Requests and evaluations -/

structure CaseRow where
  name : String
  passed : Bool
  actual : Json
  error : Option String

/-- The result of `sandbox.evaluate`. -/
structure EvalResult where
  passed : ℕ
  total : ℕ
  cases : List CaseRow

/-- The test of `start` and of `step` for a visible pass. -/
def EvalResult.AllPass (result : EvalResult) : Prop :=
  result.total ≠ 0 ∧ result.passed = result.total

instance (result : EvalResult) : Decidable result.AllPass :=
  inferInstanceAs (Decidable (_ ∧ _))

structure EvalCall where
  task : Task
  source : String
  hidden : Bool

inductive EvalOutcome where
  | result (result : EvalResult)
  | raised (failure : Failure)

structure Feedback where
  passed : ℕ
  total : ℕ
  cases : List CaseRow
  attempt : ℕ
  instruction : Option String

/-- The arguments of `provider.generate`, without the random identifier of the
run. -/
structure Request where
  task : Task
  source : String
  feedback : Feedback
  action : Action
  seed : ℤ

structure ProviderResult where
  source : String
  model : String
  prompt_tokens : ℤ
  completion_tokens : ℤ
  cost_usd : ℕ

inductive GenerateOutcome where
  | result (generated : ProviderResult)
  | providerError (message : String) (cost_usd : ℕ)
      (prompt_tokens completion_tokens : Option ℤ)
  /-- The reservation is refused, and nothing is charged. -/
  | budgetExceeded (message : String)
  | cancelled (cost_usd : ℕ) (prompt_tokens completion_tokens : Option ℤ)
  /-- Another exception, before the reservation. -/
  | raised (kind message : String)

/-- What a request has cost. -/
def GenerateOutcome.cost_usd : GenerateOutcome → ℕ
  | result generated => generated.cost_usd
  | providerError _ cost_usd _ _ => cost_usd
  | budgetExceeded _ => 0
  | cancelled cost_usd _ _ => cost_usd
  | raised _ _ => 0

/-! ## Results and records -/

/-- A result of the study. -/
structure EpisodeResult where
  task_id : String
  task_title : String
  family : String
  split : String
  policy : Policy
  status : Status
  steps : ℕ
  tokens : Option ℤ
  known_tokens : ℤ
  tokens_complete : Bool
  cost_usd : ℕ
  public_passed : ℕ
  public_total : ℕ
  heldout_passed : Option ℕ
  heldout_total : ℕ
  solved : Bool
  stop_reason : Option String
  model_ids : List String
  initial_source : String
  final_source : String
  error : Option String

structure Observation where
  attempts : ℕ
  max_steps : ℕ
  public_passed : ℕ
  public_total : ℕ
  cost_usd : ℕ
  max_cost_usd : ℕ
  last_action : Option Action
  improvement : ℤ
  replan_count : ℕ

structure Transition where
  state : Observation
  action : Action
  reward : ℚ
  next_state : Observation
  terminal : Bool
  task_id : String
  split : String
  route : List Action

structure Trace where
  kind : String
  task_id : String
  split : String
  route : List Action
  run : EpisodeResult

/-- What a study gives its `EvidenceWriter`: a line of one of the two lists of
records, or a whole file. -/
inductive Record where
  | trace (trace : Trace)
  | transition (transition : Transition)
  | evaluation (run : EpisodeResult)
  | file (name : String)

/-! ## What happens -/

/-- What has been asked and answered, with the policy of the episode that asked,
and what has been copied and written. -/
inductive Occurrence where
  | request (policy : Policy) (request : Request) (outcome : GenerateOutcome)
  | evaluation (policy : Policy) (call : EvalCall) (outcome : EvalOutcome)
  | clone (policy : Policy) (task : Task) (raised : Option Failure)
  | written (record : Record) (raised : Option Failure)

/-- The provider, the sandbox, the interpreter and the file system, as functions
of what has happened before.  A copy of the results of an episode raises where
they are nested too deeply, and a record is not written where its text is not
JSON or too deep, or where the file system fails. -/
structure Environment where
  generate : List Occurrence → Request → GenerateOutcome
  evaluate : List Occurrence → EvalCall → EvalOutcome
  deepcopy : List Occurrence → Option Failure
  write : List Occurrence → Record → Option Failure

/-- `EvidenceWriter.append` and `EvidenceWriter.write_json` -/
def Environment.record (env : Environment) (record : Record) (log : List Occurrence) :
    Attempt Failure (List Occurrence) :=
  let raised := env.write log record
  let log := log ++ [.written record raised]
  match raised with
  | none => .done log
  | some failure => .thrown failure log

/-! ## Episodes -/

/-- `Episode`, without its events, its times and its identifier. -/
structure Episode where
  task : Task
  policy_id : Policy
  max_steps : ℕ
  seed : ℤ
  source : String
  attempts : ℕ
  tokens : ℤ
  cost_usd : ℕ
  model_ids : List String
  publicResult : EvalResult
  hidden : Option EvalResult
  terminal : Bool
  stop_reason : Option String
  error : Option String
  /-- Initially `"start"`. -/
  last_action : Option Action
  improvement : ℤ
  replan_count : ℕ
  status : Status
  finished : Bool
  started : Bool
  token_accounting_complete : Bool

/-- The characters that `str.rstrip` removes. -/
def isSpace (letter : Char) : Bool :=
  let code := letter.toNat
  decide ((9 ≤ code ∧ code ≤ 13) ∨ (28 ≤ code ∧ code ≤ 32) ∨ code = 0x85 ∨ code = 0xA0 ∨
    code = 0x1680 ∨ (0x2000 ≤ code ∧ code ≤ 0x200A) ∨ code = 0x2028 ∨ code = 0x2029 ∨
    code = 0x202F ∨ code = 0x205F ∨ code = 0x3000)

/-- `source.rstrip() + "\n"` -/
def normalized (source : String) : String :=
  String.ofList ((source.toList.reverse.dropWhile isSpace).reverse ++ ['\n'])

/-- An episode and the log of the session. -/
structure Session where
  episode : Episode
  log : List Occurrence

/-- Half a dollar. -/
def maxEpisodeCost : ℕ := 500000

namespace Episode

/-- `Episode.__init__` -/
def new (task : Task) (policy_id : Policy) (max_steps seed : ℤ) : Episode where
  task := task
  policy_id := policy_id
  max_steps := (min 3 (max 1 max_steps)).toNat
  seed := seed
  source := normalized task.source
  attempts := 0
  tokens := 0
  cost_usd := 0
  model_ids := []
  publicResult := ⟨0, task.public_cases.length, []⟩
  hidden := none
  terminal := false
  stop_reason := none
  error := none
  last_action := none
  improvement := 0
  replan_count := 0
  status := .running
  finished := false
  started := false
  token_accounting_complete := true

def observation (ep : Episode) : Observation where
  attempts := ep.attempts
  max_steps := ep.max_steps
  public_passed := ep.publicResult.passed
  public_total := ep.publicResult.total
  cost_usd := ep.cost_usd
  max_cost_usd := maxEpisodeCost
  last_action := ep.last_action
  improvement := ep.improvement
  replan_count := ep.replan_count

/-- A clone has the fields of the original, and its own copies of them. -/
def clone (env : Environment) (session : Session) : Attempt Failure Session :=
  let raised := env.deepcopy session.log
  let log := session.log ++ [.clone session.episode.policy_id session.episode.task raised]
  match raised with
  | none => .done { session with log := log }
  | some failure => .thrown failure { session with log := log }

/-- The visible and the held-out cases all pass in a finished episode. -/
def Solved (ep : Episode) : Prop :=
  match ep.hidden with
  | some hidden => ep.finished = true ∧ ep.publicResult.AllPass ∧ hidden.AllPass
  | none => False

instance (ep : Episode) : Decidable ep.Solved := by
  unfold Solved
  cases ep.hidden <;> infer_instance

def result (ep : Episode) : EpisodeResult where
  task_id := ep.task.id
  task_title := ep.task.title
  family := ep.task.family
  split := ep.task.split
  policy := ep.policy_id
  status := ep.status
  steps := ep.attempts
  tokens := if ep.token_accounting_complete then some ep.tokens else none
  known_tokens := ep.tokens
  tokens_complete := ep.token_accounting_complete
  cost_usd := ep.cost_usd
  public_passed := ep.publicResult.passed
  public_total := ep.publicResult.total
  heldout_passed := ep.hidden.map EvalResult.passed
  heldout_total := (ep.hidden.map EvalResult.total).getD ep.task.hidden_cases.length
  solved := decide ep.Solved
  stop_reason := ep.stop_reason
  model_ids := ep.model_ids
  initial_source := ep.task.source
  final_source := ep.source
  error := ep.error

/-! ### Evaluations -/

def evalCall (hidden : Bool) (ep : Episode) : EvalCall := ⟨ep.task, ep.source, hidden⟩

/-- `sandbox.evaluate`, whose result is assigned unless it raises. -/
def evaluate (env : Environment) (hidden : Bool) (assign : EvalResult → Episode → Episode)
    (session : Session) : Attempt Failure Session :=
  let call := session.episode.evalCall hidden
  let outcome := env.evaluate session.log call
  let log := session.log ++ [.evaluation session.episode.policy_id call outcome]
  match outcome with
  | .result result => .done ⟨assign result session.episode, log⟩
  | .raised failure => .thrown failure ⟨session.episode, log⟩

def assignBaseline (result : EvalResult) (ep : Episode) : Episode :=
  if result.AllPass then
    { ep with
      publicResult := result
      terminal := true
      stop_reason := some "visible_tests_already_pass" }
  else { ep with publicResult := result }

def start (env : Environment) (session : Session) : Attempt Failure Session :=
  if session.episode.started then .done session
  else
    evaluate env false assignBaseline
      { session with episode := { session.episode with started := true } }

/-! ### Requests -/

/-- `_failed_tokens` -/
def failedTokens (prompt_tokens completion_tokens : Option ℤ) (ep : Episode) : Episode :=
  match prompt_tokens, completion_tokens with
  | some incoming, some outgoing => { ep with tokens := ep.tokens + (incoming + outgoing) }
  | _, _ => { ep with token_accounting_complete := false }

/-- The counters and the feedback of a request. -/
def beginRequest (action : Action) (ep : Episode) : Episode :=
  { ep with
    replan_count := if action = .replan then ep.replan_count + 1 else ep.replan_count
    attempts := ep.attempts + 1 }

def feedback (action : Action) (ep : Episode) : Feedback where
  passed := ep.publicResult.passed
  total := ep.publicResult.total
  cases := ep.publicResult.cases
  attempt := ep.attempts
  instruction :=
    if action = .replan then
      some "Reconsider the approach using only the visible failures."
    else none

def request (action : Action) (ep : Episode) : Request where
  task := ep.task
  source := ep.source
  feedback := ep.feedback action
  action := action
  seed := ep.seed + ep.attempts

def acceptResult (generated : ProviderResult) (ep : Episode) : Episode :=
  { ep with
    tokens := ep.tokens + (generated.prompt_tokens + generated.completion_tokens)
    cost_usd := ep.cost_usd + generated.cost_usd
    model_ids :=
      if generated.model ∈ ep.model_ids then ep.model_ids else ep.model_ids ++ [generated.model]
    source := generated.source }

def assignMeasured (before : ℕ) (result : EvalResult) (ep : Episode) : Episode :=
  let measured :=
    { ep with
      publicResult := result
      improvement := (result.passed : ℤ) - before }
  if result.AllPass then
    { measured with
      terminal := true
      stop_reason := some "visible_tests_pass" }
  else if measured.attempts ≥ measured.max_steps then
    { measured with
      terminal := true
      stop_reason := some "step_budget" }
  else measured

def failRequest (stop_reason : String) (status : Status) (error : String) (ep : Episode) :
    Episode :=
  { ep with
    terminal := true
    stop_reason := some stop_reason
    status := status
    error := some error }

/-- `provider.generate`, with the handlers of its exceptions, and the visible
tests of what it has generated. -/
def sendRequest (env : Environment) (action : Action) (session : Session) :
    Attempt Failure Session :=
  let ep := session.episode
  let outcome := env.generate session.log (ep.request action)
  let log := session.log ++ [.request ep.policy_id (ep.request action) outcome]
  match outcome with
  | .cancelled cost_usd prompt_tokens completion_tokens =>
    .thrown .cancelled ⟨failRequest "request_cancelled" .failed
      "The request was cancelled; any outstanding reservation is retained."
      (failedTokens prompt_tokens completion_tokens
        { ep with cost_usd := ep.cost_usd + cost_usd }), log⟩
  | .budgetExceeded message =>
    .thrown (.budgetExceeded message) ⟨failRequest "inference_budget" .budget_exhausted
      "The shared inference allowance has been reached." ep, log⟩
  | .providerError message cost_usd prompt_tokens completion_tokens =>
    .thrown (.providerError message) ⟨failRequest "provider_error" .failed message
      (failedTokens prompt_tokens completion_tokens
        { ep with cost_usd := ep.cost_usd + cost_usd }), log⟩
  | .raised kind message => .thrown (.other kind message) ⟨ep, log⟩
  | .result generated =>
    evaluate env false (assignMeasured ep.publicResult.passed) ⟨acceptResult generated ep, log⟩

def act (env : Environment) (action : Action) (session : Session) : Attempt Failure Session :=
  let ep := { session.episode with last_action := some action }
  if action = .stop then
    .done { session with
      episode := { ep with terminal := true, stop_reason := some "controller_stop" } }
  else if ep.attempts ≥ ep.max_steps ∨ ep.cost_usd ≥ maxEpisodeCost then
    .done { session with
      episode := { ep with terminal := true, stop_reason := some "episode_budget" } }
  else sendRequest env action { session with episode := beginRequest action ep }

def step (env : Environment) (action : Action) (session : Session) : Attempt Failure Session :=
  (start env session).andThen fun session =>
    if session.episode.terminal then .done session else act env action session

/-! ### The end -/

def assignGrading (result : EvalResult) (ep : Episode) : Episode :=
  { ep with
    hidden := some result
    status := if ep.status = .running then .completed else ep.status
    finished := true }

def endDecisions (ep : Episode) : Episode :=
  { ep with
    terminal := true
    stop_reason := some (ep.stop_reason.getD "controller_stop") }

def finish (env : Environment) (session : Session) : Attempt Failure Session :=
  if session.episode.finished then .done session
  else
    (start env session).andThen fun session =>
      evaluate env true assignGrading { session with episode := endDecisions session.episode }

end Episode

end ForgeRL.Research
