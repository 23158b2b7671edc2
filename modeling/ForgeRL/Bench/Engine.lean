import ForgeRL.Bench.Harness

namespace ForgeRL

open Library

/-!
# The repair engine

`RepoEpisode.step` is one long method with a dozen exits.  It is cut here at
its awaits: the preflight, the request, the two ways a request can end, and
the evaluation of an applied candidate.  Each piece returns the episode it
leaves behind, also when an exception passes through it.
-/

namespace Episode

/-- The evaluator call of a check of the task's own cases. -/
def checkCall (hidden : Bool) (ep : Episode) : EvalCall :=
  ⟨if hidden then .hidden else .visible, ep.files⟩

def checkAnswer (cfg : Config) (hidden : Bool) (ep : Episode) : EvalOutcome :=
  cfg.evaluator ep.evaluations (ep.checkCall hidden)

/-- Call the evaluator. -/
def askCheck (cfg : Config) (hidden : Bool) (ep : Episode) : Episode :=
  ({ ep with tool_calls := ep.tool_calls + 1 }.emit
    (.toolCall (ep.checkCall hidden).checks (cfg.fingerprint ep.files))).note
    (.evaluation (ep.checkCall hidden) (checkAnswer cfg hidden ep))

/-- The event of a check that has returned. -/
def checkEvent (hidden : Bool) (result : EvalResult) : Event :=
  if hidden then .heldOutTests result.passed result.total else .tests result

/-- `RepoEpisode.check` -/
def check (cfg : Config) (hidden : Bool) (ep : Episode) : Outcome EvalResult :=
  match checkAnswer cfg hidden ep with
  | .result result =>
    .ok result ((askCheck cfg hidden ep).emit (checkEvent hidden result))
  | .raised escape => .raised escape (askCheck cfg hidden ep)

theorem check_of_result {cfg : Config} {hidden : Bool} {ep : Episode} {result : EvalResult}
    (answer : checkAnswer cfg hidden ep = .result result) :
    check cfg hidden ep =
      .ok result ((askCheck cfg hidden ep).emit (checkEvent hidden result)) := by
  rw [check, answer]

theorem check_of_raised {cfg : Config} {hidden : Bool} {ep : Episode} {escape : Escape}
    (answer : checkAnswer cfg hidden ep = .raised escape) :
    check cfg hidden ep = .raised escape (askCheck cfg hidden ep) := by
  rw [check, answer]

def beginStart (cfg : Config) (ep : Episode) : Episode :=
  ({ ep with started_flag := true }.emit
    (.specification cfg.task.id cfg.task.description cfg.task.success_criterion)).emit
    (.context ep.files cfg.task.entrypoint)

def assignBaseline (result : EvalResult) (ep : Episode) : Episode :=
  { ep with
    publicResult := result
    public_measured := true
    bestPublic := result
    had_visible_failure := decide (result.passed < result.total) }

def stopIfGreen (cfg : Config) (ep : Episode) : Episode :=
  if ¬ ep.had_visible_failure ∧ stop_after_visible_success cfg then
    ep.stop "visible_tests_already_pass"
  else ep

/-- `RepoEpisode.start` -/
def start (cfg : Config) (ep : Episode) : Outcome Unit :=
  if ep.started_flag then .ok () ep
  else
    (check cfg false (beginStart cfg ep)).andThen fun result measured =>
      .ok () (stopIfGreen cfg (assignBaseline result measured))

/-! ## The parts of a step -/

/-- What a step remembers of its beginning. -/
structure StepContext where
  action : Action
  state : Observation
  prior_cost : ℚ
  prior_passed : ℕ

/-- Append the transition of the step. -/
def record (cfg : Config) (context : StepContext) (ep : Episode) : Episode :=
  { ep with
    transitions := ep.transitions ++ [{
      task_id := cfg.task.id
      split := cfg.task.split
      action := context.action
      state := context.state
      next_state := ep.observation cfg
      cost_usd := cfg.arithmetic.round (ep.cost_usd - context.prior_cost)
      terminal := ep.terminal }] }

/-- The bounds on attempts and decisions are used up. -/
def Spent (cfg : Config) (ep : Episode) : Prop :=
  ep.attempts ≥ cfg.bounds.max_steps ∨ ep.decisions ≥ cfg.bounds.max_decisions

instance (cfg : Config) (ep : Episode) : Decidable (Spent cfg ep) :=
  inferInstanceAs (Decidable (_ ∨ _))

def endBudget (cfg : Config) (ep : Episode) : Episode :=
  if ¬ ep.terminal ∧ Spent cfg ep then ep.stop "step_budget" else ep

/-- The end of a step that was not left early. -/
def close (cfg : Config) (context : StepContext) (ep : Episode) : Episode :=
  record cfg context (endBudget cfg ep)

def recordDecision (cfg : Config) (action : Action) (source : String) (ep : Episode) : Episode :=
  ({ ep with
    decisions := ep.decisions + 1
    learned_decisions := ep.learned_decisions + if source = "learned_q" then 1 else 0
    fallback_decisions := ep.fallback_decisions + if source = "heuristic_fallback" then 1 else 0
    }.emit (.decision action source (ep.observation cfg) cfg.policy)).note
    (.decision action source (ep.observation cfg))

def stopStep (ep : Episode) : Episode :=
  ep.stop (if ep.publicResult.passed = ep.publicResult.total then "visible_tests_pass"
    else "controller_stop")

def rollbackStep (ep : Episode) : Episode :=
  { ep with
    files := ep.best_files
    publicResult := ep.bestPublic
    rollbacks := ep.rollbacks + 1
    improvement := (ep.bestPublic.passed : ℤ) - ep.publicResult.passed }.emit
    (.rollback ep.files ep.best_files ep.bestPublic.passed)

/-! ### The preflight -/

inductive Preflight where
  /-- The request may be made; its token bound. -/
  | passed (bound : ℤ) (episode : Episode)
  /-- The episode has ended without a request. -/
  | stopped (episode : Episode)
  | raised (escape : Escape) (episode : Episode)

def exhaust (reason : String) (event : Event) (ep : Episode) : Episode :=
  ({ ep with status := .budget_exhausted }.stop reason).emit event

def failPrompt (message : String) (ep : Episode) : Episode :=
  ({ ep with status := .failed, error := some message }.stop "prompt_preflight_error").emit
    (.preflightError message)

def failPreflight (ep : Episode) : PreflightError → Preflight
  | .providerError message => .stopped (failPrompt message ep)
  | .other escape => .raised escape ep

def previewPrompt (cfg : Config) (query : Query) (bound : ℤ) (ep : Episode) : Preflight :=
  match cfg.provider.build_messages with
  | none => .passed bound ep
  | some build =>
    match build ep.requests query with
    | .error raised => failPreflight ep raised
    | .ok messages => .passed bound (ep.emit (.outboundPrompt messages query.role))

def checkTokens (cfg : Config) (query : Query) (ep : Episode) : Preflight :=
  match cfg.provider.estimate_token_bound with
  | none => previewPrompt cfg query 0 ep
  | some estimate =>
    match estimate ep.requests query with
    | .error raised => failPreflight ep raised
    | .ok bound =>
      if ep.tokens + ep.unknown_token_bound + bound > maxEpisodeTokens then
        .stopped (exhaust "episode_token_cap" .tokenCap ep)
      else previewPrompt cfg query bound ep

/-- `self.max_cost_usd - self.cost_usd + 1e-9` -/
def allowance (cfg : Config) (ep : Episode) : ℚ :=
  cfg.arithmetic.round (cfg.arithmetic.round (cfg.bounds.max_cost_usd - ep.cost_usd) +
    cfg.arithmetic.round (1 / 1000000000))

theorem allowance_of_exact {cfg : Config} {ep : Episode} (exact_ : cfg.arithmetic.Exact) :
    allowance cfg ep = cfg.bounds.max_cost_usd - ep.cost_usd + 1 / 1000000000 := by
  rw [allowance, exact_, exact_, exact_]

def preflight (cfg : Config) (query : Query) (ep : Episode) : Preflight :=
  match cfg.provider.estimate_reservation_usd with
  | none => checkTokens cfg query ep
  | some estimate =>
    match estimate ep.requests query with
    | .error raised => failPreflight ep raised
    | .ok expected =>
      if expected > allowance cfg ep then
        .stopped (exhaust "episode_cost_cap" .costCap ep)
      else checkTokens cfg query ep

/-- Everything that a preflight can do. -/
inductive Preflighted (cfg : Config) (query : Query) (ep : Episode) : Preflight → Prop where
  | passed (bound : ℤ) (ready : Episode)
      (same : ready = ep ∨ ∃ event, ready = ep.emit event)
      (affordable : ∀ estimate, cfg.provider.estimate_reservation_usd = some estimate →
        ∃ expected, estimate ep.requests query = .ok expected ∧
          expected ≤ allowance cfg ep)
      (bounded : ∀ estimate, cfg.provider.estimate_token_bound = some estimate →
        estimate ep.requests query = .ok bound ∧
          ep.tokens + ep.unknown_token_bound + bound ≤ maxEpisodeTokens) :
      Preflighted cfg query ep (.passed bound ready)
  | exhausted (reason : String) (event : Event) :
      Preflighted cfg query ep (.stopped (exhaust reason event ep))
  | failed (message : String) : Preflighted cfg query ep (.stopped (failPrompt message ep))
  | raised (escape : Escape) : Preflighted cfg query ep (.raised escape ep)

theorem failPreflight_cases (cfg : Config) (query : Query) (ep : Episode)
    (error : PreflightError) : Preflighted cfg query ep (failPreflight ep error) := by
  cases error with
  | providerError message => exact .failed message
  | other escape => exact .raised escape

theorem preflight_cases (cfg : Config) (query : Query) (ep : Episode) :
    Preflighted cfg query ep (preflight cfg query ep) := by
  have previewed (bound : ℤ)
      (affordable : ∀ estimate, cfg.provider.estimate_reservation_usd = some estimate →
        ∃ expected, estimate ep.requests query = .ok expected ∧
          expected ≤ allowance cfg ep)
      (bounded : ∀ estimate, cfg.provider.estimate_token_bound = some estimate →
        estimate ep.requests query = .ok bound ∧
          ep.tokens + ep.unknown_token_bound + bound ≤ maxEpisodeTokens) :
      Preflighted cfg query ep (previewPrompt cfg query bound ep) := by
    unfold previewPrompt
    split
    · exact .passed bound ep (.inl rfl) affordable bounded
    · split
      · exact failPreflight_cases cfg query ep _
      · exact .passed bound _ (.inr ⟨_, rfl⟩) affordable bounded
  have checked
      (affordable : ∀ estimate, cfg.provider.estimate_reservation_usd = some estimate →
        ∃ expected, estimate ep.requests query = .ok expected ∧
          expected ≤ allowance cfg ep) :
      Preflighted cfg query ep (checkTokens cfg query ep) := by
    unfold checkTokens
    split
    next absent => exact previewed 0 affordable (by simp [absent])
    next estimate given =>
      split
      · exact failPreflight_cases cfg query ep _
      next bound answer =>
        split_ifs with exceeded
        · exact .exhausted _ _
        · apply previewed bound affordable
          intro other same
          rw [given] at same
          cases same
          exact ⟨answer, not_lt.mp exceeded⟩
  unfold preflight
  split
  next absent => exact checked (by simp [absent])
  next estimate given =>
    split
    · exact failPreflight_cases cfg query ep _
    next expected answer =>
      split_ifs with exceeded
      · exact .exhausted _ _
      · apply checked
        intro other same
        rw [given] at same
        cases same
        exact ⟨expected, answer, not_lt.mp exceeded⟩

/-! ### The request -/

structure RequestContext extends StepContext where
  role : Role
  /-- The request switches from cheap to strong after an earlier attempt. -/
  pending_escalation : Bool
  bound : ℤ

def countRetry (action : Action) (role : Role) (ep : Episode) : Episode :=
  if action = .retry ∧ ep.attempts > 1 then
    { ep with retries := ep.retries + 1 }.emit (.retry ep.attempts role)
  else ep

def announceRequest (action : Action) (role : Role) (seed : ℤ) (ep : Episode) : Episode :=
  ep.emit (.request ep.attempts role action (Dict.keys ep.files) (seed + ep.attempts))

def beginRequest (action : Action) (role : Role) (seed : ℤ) (ep : Episode) : Episode :=
  announceRequest action role seed
    (countRetry action role { ep with attempts := ep.attempts + 1 })

/-- The role switch is committed once a hosted request has occurred. -/
def commitRole (context : RequestContext) (ep : Episode) : Episode :=
  { ep with
    escalations := ep.escalations + if context.pending_escalation then 1 else 0
    current_model := context.role }

def addModel (model : String) (ep : Episode) : Episode :=
  if model ∈ ep.models then ep else { ep with models := ep.models ++ [model] }

def announceSwitch (model : String) (ep : Episode) : Episode :=
  match ep.last_model_id with
  | some last => if last ≠ "" ∧ last ≠ model then ep.emit (.modelSwitch last model) else ep
  | none => ep

/-- The bookkeeping of the model that answered. -/
def recordModel (model : String) (ep : Episode) : Episode :=
  { announceSwitch model (addModel model ep) with last_model_id := some model }

/-- A failed request may name no model, or an empty one. -/
def recordFailedModel (model : Option String) (ep : Episode) : Episode :=
  match model with
  | some model => if model = "" then ep else recordModel model ep
  | none => ep

/-- The total that a provider reports, or the sum of its two counts. -/
def totalTokens (reported : Option ℤ) (incoming outgoing : ℤ) : ℤ :=
  match reported with
  | some total => if total = 0 then incoming + outgoing else total
  | none => incoming + outgoing

def recordTokens (bound : ℤ) (failed : ProviderFailure) (ep : Episode) : Episode :=
  match failed.prompt_tokens, failed.completion_tokens with
  | some incoming, some outgoing =>
    { ep with tokens := ep.tokens + totalTokens failed.total_tokens incoming outgoing }
  | _, _ =>
    if failed.kind = FailureKind.budgetExceeded then ep
    else { ep with
      tokens_complete := false
      unknown_token_bound := ep.unknown_token_bound + bound }

/-- A hosted request has occurred. -/
def requestObserved (failed : ProviderFailure) : Prop :=
  failed.kind ≠ FailureKind.budgetExceeded ∧
    (0 < failed.cost_usd ∨ failed.request_id ≠ none ∨ failed.response_text.isSome)

instance (failed : ProviderFailure) : Decidable (requestObserved failed) :=
  inferInstanceAs (Decidable (_ ∧ _))

def chargeFailure (cfg : Config) (failed : ProviderFailure) (ep : Episode) : Episode :=
  { ep with cost_usd := cfg.arithmetic.add ep.cost_usd failed.cost_usd }

def commitObserved (context : RequestContext) (failed : ProviderFailure) (ep : Episode) :
    Episode :=
  if requestObserved failed then commitRole context ep else ep

def failedStatus (kind : FailureKind) : Status :=
  match kind with
  | .budgetExceeded => .budget_exhausted
  | .cancelled => .interrupted
  | _ => .failed

def endFailure (failed : ProviderFailure) (ep : Episode) : Episode :=
  let error := if failed.message = "" then "Request cancelled" else failed.message
  { ep with
    status := failedStatus failed.kind
    stop_reason := some (if failed.kind = FailureKind.budgetExceeded then "inference_budget"
      else "provider_error")
    error := some error
    terminal := true }.emit (.failure error failed)

/-- The part of the handler that every failure passes. -/
def recordFailedRequest (cfg : Config) (context : RequestContext) (failed : ProviderFailure)
    (ep : Episode) : Episode :=
  endFailure failed (recordTokens context.bound failed (recordFailedModel failed.model
    (commitObserved context failed (chargeFailure cfg failed ep))))

/-- Run on after a failure. -/
def resume (ep : Episode) : Episode :=
  { ep with status := .running, terminal := false, error := none, stop_reason := none }

/-- The delay before the next retry of a rate-limited request. -/
def retryWait (failed : ProviderFailure) (ep : Episode) : ℚ :=
  max (30 * 2 ^ ep.provider_retries) (failed.retry_after_s.getD 0)

def armRetry (cfg : Config) (failed : ProviderFailure) (ep : Episode) : Episode :=
  if ep.provider_retries < cfg.bounds.rate_limit_retries ∧ ep.attempts < cfg.bounds.max_steps ∧
      ep.decisions < cfg.bounds.max_decisions ∧ ep.cost_usd < cfg.bounds.max_cost_usd ∧
      retryWait failed ep ≤ 60 then
    { resume ep with pending_provider_delay := some (retryWait failed ep), improvement := 0 }
  else ep

def countInvalid (ep : Episode) : Episode :=
  { ep with
    improvement := 0
    invalid_responses := ep.invalid_responses + 1 }.record_failure
      "implementation:invalid_candidate"

def capSteps (cfg : Config) (ep : Episode) : Episode :=
  if Spent cfg ep then ep.stop "step_budget" else ep

def capInvalid (ep : Episode) : Episode :=
  if ep.invalid_responses ≥ 3 then ep.stop "invalid_response_retry_cap" else ep

/-- The handler of a failed request. -/
def handleFailure (cfg : Config) (context : RequestContext) (failed : ProviderFailure)
    (ep : Episode) : Outcome Unit :=
  let recorded := recordFailedRequest cfg context failed ep
  match failed.kind with
  | .cancelled => .raised .cancelled recorded
  | .budgetExceeded => .ok () { recorded with attempts := recorded.attempts - 1 }
  | _ =>
    if failed.http_status = some 429 then
      .ok () (record cfg context.toStepContext (armRetry cfg failed recorded))
    else if failed.kind = FailureKind.invalidCandidate then
      .ok () (record cfg context.toStepContext
        (capInvalid (capSteps cfg (countInvalid (resume recorded)))))
    else .ok () recorded

/-! ### The candidate -/

/-- `validate_edits`, for the task of the episode. -/
def validate_edits (cfg : Config) (candidate : Files) : Except Sandbox.Rejection Unit :=
  RepoSandbox.validate_edits cfg.validate_files cfg.task candidate

def rejectCandidate (error : String) (supplied : Files) (ep : Episode) : Episode :=
  capInvalid ((countInvalid ep).emit (.rejected error supplied))

def labelRepeated (cfg : Config) (candidate : Files) (ep : Episode) : Episode :=
  if cfg.fingerprint candidate ∈ ep.snapshots then ep.record_failure "looping:repeated_candidate"
  else ep

def addSnapshot (cfg : Config) (candidate : Files) (ep : Episode) : Episode :=
  { ep with snapshots := ep.snapshots ++ [cfg.fingerprint candidate] }

/-- Assign the candidate, before it is checked. -/
def applyCandidate (cfg : Config) (candidate : Files) (ep : Episode) : Episode :=
  addSnapshot cfg candidate
    (labelRepeated cfg candidate ({ ep with files := candidate }.emit (.patch ep.files candidate)))

/-- `before_rows.get(name) is True`: the last row of a name counts. -/
def passedBefore (cases : List CaseRow) (name : Text) : Bool :=
  match cases.reverse.find? (fun row => row.name = name) with
  | some row => row.passed
  | none => false

def assignResult (prior_passed : ℕ) (before : List CaseRow) (result : EvalResult) (ep : Episode) :
    Episode :=
  { ep with
    publicResult := result
    regressions := ep.regressions +
      result.cases.countP (fun row => passedBefore before row.name && !row.passed)
    improvement := (result.passed : ℤ) - prior_passed }

def labelResult (result : EvalResult) (ep : Episode) : Episode :=
  let regressed :=
    if ep.improvement < 0 then ep.record_failure "implementation:visible_regression" else ep
  if result.execution_error then regressed.record_failure "implementation:execution_rejected"
  else regressed

def keepBest (result : EvalResult) (ep : Episode) : Episode :=
  if result.passed > ep.bestPublic.passed then
    { ep with best_files := ep.files, bestPublic := result }
  else ep

def stopOnSuccess (cfg : Config) (result : EvalResult) (ep : Episode) : Episode :=
  if result.AllPass ∧ stop_after_visible_success cfg then ep.stop "visible_tests_pass" else ep

/-- The bookkeeping of a measured candidate. -/
def measureCandidate (cfg : Config) (context : RequestContext) (before : List CaseRow)
    (result : EvalResult) (ep : Episode) : Episode :=
  stopOnSuccess cfg result (keepBest result (labelResult result
    (assignResult context.prior_passed before result ep)))

def acceptCandidate (cfg : Config) (context : RequestContext) (candidate : Files) (ep : Episode) :
    Outcome Unit :=
  (check cfg false (applyCandidate cfg candidate ep)).andThen fun result checked =>
    .ok () (measureCandidate cfg context ep.publicResult.cases result checked)

def chargeResult (cfg : Config) (generated : RepoResult) (ep : Episode) : Episode :=
  { ep with
    tokens := ep.tokens + totalTokens (some generated.total_tokens)
      generated.prompt_tokens generated.completion_tokens
    cost_usd := cfg.arithmetic.add ep.cost_usd generated.cost_usd }

/-- The bookkeeping of a generated result, before its candidate is looked at. -/
def recordResult (cfg : Config) (context : RequestContext) (generated : RepoResult)
    (ep : Episode) : Episode :=
  (recordModel generated.model (chargeResult cfg generated (commitRole context ep))).emit
    (.inference generated)

def handleResult (cfg : Config) (context : RequestContext) (generated : RepoResult)
    (ep : Episode) : Outcome Unit :=
  let recorded := recordResult cfg context generated ep
  let candidate := Dict.merge recorded.files generated.files
  match validate_edits cfg candidate with
  | .error (.rejected error) =>
    .ok () (close cfg context.toStepContext (rejectCandidate error generated.files recorded))
  | .error (.escaped escape) => .raised escape recorded
  | .ok _ =>
    (acceptCandidate cfg context candidate recorded).andThen fun _ accepted =>
      .ok () (close cfg context.toStepContext accepted)

/-- The request that a begun attempt sends. -/
def outgoing (cfg : Config) (query : Query) (ep : Episode) : Request :=
  ⟨query, cfg.seed + ep.attempts⟩

def answerRequest (cfg : Config) (query : Query) (ep : Episode) : GenerateOutcome :=
  cfg.provider.generate ep.requests (outgoing cfg query ep)

def noteRequest (cfg : Config) (query : Query) (ep : Episode) : Episode :=
  ep.note (.request (outgoing cfg query ep) (answerRequest cfg query ep))

/-- `await self.provider.generate(...)`, and what follows it. -/
def sendRequest (cfg : Config) (context : RequestContext) (query : Query) (ep : Episode) :
    Outcome Unit :=
  match answerRequest cfg query ep with
  | .result generated => handleResult cfg context generated (noteRequest cfg query ep)
  | .failure failed => handleFailure cfg context failed (noteRequest cfg query ep)
  | .escaped escape => .raised escape (noteRequest cfg query ep)

def requestedRole (action : Action) (ep : Episode) : Role :=
  if action = .escalate then .strong else ep.current_model

def pendingEscalation (action : Action) (ep : Episode) : Prop :=
  action = .escalate ∧ 0 < ep.attempts ∧ ep.current_model ≠ .strong

instance (action : Action) (ep : Episode) : Decidable (pendingEscalation action ep) :=
  inferInstanceAs (Decidable (_ ∧ _))

def requestContext (context : StepContext) (bound : ℤ) (ep : Episode) : RequestContext :=
  ⟨context, requestedRole context.action ep, decide (pendingEscalation context.action ep), bound⟩

/-- A preflight that passes leads to the request. -/
def continueRequest (cfg : Config) (context : StepContext) (query : Query) (ep : Episode)
    (outcome : Preflight) : Outcome Unit :=
  match outcome with
  | .stopped stopped => .ok () stopped
  | .raised escape left => .raised escape left
  | .passed bound ready =>
    sendRequest cfg (requestContext context bound ep) query
      (beginRequest context.action query.role cfg.seed ready)

def requestStep (cfg : Config) (context : StepContext) (ep : Episode) : Outcome Unit :=
  match ep.feedback cfg context.action with
  | .error escape => .raised escape ep
  | .ok fields =>
    let query : Query :=
      ⟨cfg.task.visible, ep.files, Json.object fields, requestedRole context.action ep⟩
    continueRequest cfg context query ep (preflight cfg query ep)

/-- The effect of a legal action. -/
def act (cfg : Config) (context : StepContext) (ep : Episode) : Outcome Unit :=
  match context.action with
  | .stop => .ok () (close cfg context (stopStep ep))
  | .rollback => .ok () (close cfg context (rollbackStep ep))
  | _ => requestStep cfg context ep

/-- `RepoEpisode.step` once the episode is started. -/
def startedStep (cfg : Config) (action : Action) (source : String) (ep : Episode) : Outcome Unit :=
  if ep.terminal then .ok () ep
  else if action ∉ ep.legal_actions cfg (ep.observation cfg) then
    .raised (.valueError "Illegal bounded routing action") ep
  else
    act cfg ⟨action, ep.observation cfg, ep.cost_usd, ep.publicResult.passed⟩
      (recordDecision cfg action source ep)

/-! ## What the pieces change -/

section Changes

variable (cfg : Config) (ep : Episode)

theorem endBudget_eq : ∃ terminal reason,
    endBudget cfg ep = { ep with terminal := terminal, stop_reason := reason } := by
  unfold endBudget
  split_ifs
  · exact ⟨true, some "step_budget", rfl⟩
  · exact ⟨ep.terminal, ep.stop_reason, rfl⟩

theorem countRetry_eq (action : Action) (role : Role) : ∃ events,
    countRetry action role ep =
      { ep with
        retries := ep.retries + if action = Action.retry ∧ ep.attempts > 1 then 1 else 0
        events := events } := by
  unfold countRetry
  by_cases again : action = Action.retry ∧ ep.attempts > 1
  · rw [if_pos again, if_pos again]
    exact ⟨_, rfl⟩
  · rw [if_neg again, if_neg again]
    exact ⟨ep.events, rfl⟩

theorem recordModel_eq (model : String) : ∃ models events,
    recordModel model ep =
      { ep with models := models, events := events, last_model_id := some model } := by
  have added : ∃ models, addModel model ep = { ep with models := models } := by
    unfold addModel
    split_ifs
    · exact ⟨ep.models, rfl⟩
    · exact ⟨_, rfl⟩
  have announced (ep : Episode) :
      ∃ events, announceSwitch model ep = { ep with events := events } := by
    unfold announceSwitch
    split
    · split_ifs
      · exact ⟨_, rfl⟩
      · exact ⟨ep.events, rfl⟩
    · exact ⟨ep.events, rfl⟩
  rcases added with ⟨models, added⟩
  rcases announced (addModel model ep) with ⟨events, announced⟩
  rw [recordModel, announced, added]
  exact ⟨models, events, rfl⟩

theorem recordFailedModel_eq (model : Option String) : ∃ models events last,
    recordFailedModel model ep =
      { ep with models := models, events := events, last_model_id := last } := by
  unfold recordFailedModel
  split
  · split_ifs
    · exact ⟨ep.models, ep.events, ep.last_model_id, rfl⟩
    · next model _ =>
        rcases recordModel_eq ep model with ⟨models, events, same⟩
        exact ⟨models, events, some model, same⟩
  · exact ⟨ep.models, ep.events, ep.last_model_id, rfl⟩

theorem recordTokens_eq (bound : ℤ) (failed : ProviderFailure) : ∃ tokens complete unknown,
    recordTokens bound failed ep =
      { ep with
        tokens := tokens
        tokens_complete := complete
        unknown_token_bound := unknown } := by
  unfold recordTokens
  split
  · exact ⟨_, ep.tokens_complete, ep.unknown_token_bound, rfl⟩
  · split_ifs
    · exact ⟨ep.tokens, ep.tokens_complete, ep.unknown_token_bound, rfl⟩
    · exact ⟨ep.tokens, false, _, rfl⟩

theorem capSteps_eq : ∃ terminal reason,
    capSteps cfg ep = { ep with terminal := terminal, stop_reason := reason } := by
  unfold capSteps
  split_ifs
  · exact ⟨true, some "step_budget", rfl⟩
  · exact ⟨ep.terminal, ep.stop_reason, rfl⟩

theorem capInvalid_eq : ∃ terminal reason,
    ep.capInvalid = { ep with terminal := terminal, stop_reason := reason } := by
  unfold capInvalid
  split_ifs
  · exact ⟨true, some "invalid_response_retry_cap", rfl⟩
  · exact ⟨ep.terminal, ep.stop_reason, rfl⟩

theorem applyCandidate_eq (candidate : Files) : ∃ labels events,
    applyCandidate cfg candidate ep =
      { ep with
        files := candidate
        snapshots := ep.snapshots ++ [cfg.fingerprint candidate]
        failure_labels := labels
        events := events } := by
  unfold applyCandidate labelRepeated
  split_ifs
  · rcases record_failure_eq ({ ep with files := candidate }.emit (.patch ep.files candidate))
      "looping:repeated_candidate" with ⟨labels, same⟩
    rw [same]
    exact ⟨labels, _, rfl⟩
  · exact ⟨ep.failure_labels, _, rfl⟩

theorem labelResult_eq (result : EvalResult) :
    ∃ labels, labelResult result ep = { ep with failure_labels := labels } := by
  have regressed : ∃ labels,
      (if ep.improvement < 0 then ep.record_failure "implementation:visible_regression" else ep) =
        { ep with failure_labels := labels } := by
    split_ifs
    · exact record_failure_eq ep _
    · exact ⟨ep.failure_labels, rfl⟩
  rcases regressed with ⟨labels, same⟩
  unfold labelResult
  dsimp only
  rw [same]
  split_ifs
  · exact record_failure_eq _ _
  · exact ⟨labels, rfl⟩

theorem keepBest_eq (result : EvalResult) : keepBest result ep =
    { ep with
      best_files := if result.passed > ep.bestPublic.passed then ep.files else ep.best_files
      bestPublic := if result.passed > ep.bestPublic.passed then result else ep.bestPublic } := by
  unfold keepBest
  split_ifs <;> rfl

theorem stopOnSuccess_eq (result : EvalResult) : ∃ terminal reason,
    stopOnSuccess cfg result ep = { ep with terminal := terminal, stop_reason := reason } := by
  unfold stopOnSuccess
  split_ifs
  · exact ⟨true, some "visible_tests_pass", rfl⟩
  · exact ⟨ep.terminal, ep.stop_reason, rfl⟩

/-- Everything that a measured candidate changes. -/
theorem measureCandidate_eq (context : RequestContext) (before : List CaseRow)
    (result : EvalResult) : ∃ regressions labels terminal reason,
    measureCandidate cfg context before result ep =
      { ep with
        publicResult := result
        regressions := regressions
        improvement := (result.passed : ℤ) - context.prior_passed
        failure_labels := labels
        best_files := if result.passed > ep.bestPublic.passed then ep.files else ep.best_files
        bestPublic := if result.passed > ep.bestPublic.passed then result else ep.bestPublic
        terminal := terminal
        stop_reason := reason } := by
  rcases labelResult_eq (assignResult context.prior_passed before result ep) result with
    ⟨labels, labelled⟩
  rcases stopOnSuccess_eq cfg (keepBest result (labelResult result
    (assignResult context.prior_passed before result ep))) result with ⟨terminal, reason, stopped⟩
  rw [measureCandidate, stopped, keepBest_eq, labelled]
  exact ⟨_, labels, terminal, reason, rfl⟩

end Changes

end Episode

/-- `RepoEpisode.step` -/
def RepoEpisode.step (cfg : Config) (action : Action) (source : String) (ep : Episode) :
    Outcome Unit :=
  (ep.start cfg).andThen fun _ started => started.startedStep cfg action source

end ForgeRL
