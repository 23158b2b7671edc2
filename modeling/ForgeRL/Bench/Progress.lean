import ForgeRL.Bench.Workspace

namespace ForgeRL

open Library

/-!
# What a step can do

The progress of an episode is the part of its state that observations, masks
and trajectories are made of.  A step decides, may send one request, and may
append one transition; here every way through a step is listed once, as a
change of the progress.  What is left out of the progress is bookkeeping that
no decision depends on.
-/

structure Progress where
  files : Files
  best_files : Files
  publicResult : EvalResult
  bestPublic : EvalResult
  attempts : ℕ
  decisions : ℕ
  rollbacks : ℕ
  retries : ℕ
  improvement : ℤ
  current_model : Role
  cost_usd : ℚ
  pending : Option ℚ
  verification_calls : ℕ
  verified_candidates : Dict Text EvalResult
  verification_attempted : List Text
  transitions : List Transition
  status : Status
  terminal : Bool
  started : Bool
  log : List Occurrence

namespace Progress

/-- An episode with this progress. -/
def episode (cfg : Config) (p : Progress) : Episode :=
  { Episode.initial cfg with
    files := p.files
    best_files := p.best_files
    publicResult := p.publicResult
    bestPublic := p.bestPublic
    attempts := p.attempts
    decisions := p.decisions
    rollbacks := p.rollbacks
    retries := p.retries
    improvement := p.improvement
    current_model := p.current_model
    cost_usd := p.cost_usd
    pending_provider_delay := p.pending
    verification_calls := p.verification_calls
    verified_candidates := p.verified_candidates
    verification_attempted := p.verification_attempted
    transitions := p.transitions
    status := p.status
    terminal := p.terminal
    started_flag := p.started
    log := p.log }

def observation (cfg : Config) (p : Progress) : Observation := (p.episode cfg).observation cfg

def legal_actions (cfg : Config) (p : Progress) : List Action :=
  (p.episode cfg).legal_actions cfg (p.observation cfg)

/-! ## Changes -/

def note (p : Progress) (occurrence : Occurrence) : Progress :=
  { p with log := p.log ++ [occurrence] }

def decided (cfg : Config) (action : Action) (source : String) (p : Progress) : Progress :=
  { p with decisions := p.decisions + 1 }.note (.decision action source (p.observation cfg))

/-- An attempt has sent its request. -/
def sent (action : Action) (request : Request) (outcome : GenerateOutcome) (p : Progress) :
    Progress :=
  { p with
    attempts := p.attempts + 1
    retries := p.retries + if action = Action.retry ∧ p.attempts + 1 > 1 then 1 else 0 }.note
      (.request request outcome)

def charged (cfg : Config) (cost_usd : ℚ) (role : Role) (p : Progress) : Progress :=
  { p with
    cost_usd := cfg.arithmetic.add p.cost_usd cost_usd
    current_model := role }

def ended (status : Status) (p : Progress) : Progress :=
  { p with
    status := status
    terminal := true }

def restored (p : Progress) : Progress :=
  { p with
    files := p.best_files
    publicResult := p.bestPublic
    rollbacks := p.rollbacks + 1
    improvement := (p.bestPublic.passed : ℤ) - p.publicResult.passed }

/-- A candidate replaces the files and is checked. -/
def applied (candidate : Files) (outcome : EvalOutcome) (p : Progress) : Progress :=
  { p with files := candidate }.note (.evaluation ⟨.visible, candidate⟩ outcome)

/-- Keep the files and their result when the result is better than the best. -/
def checkpointed (result : EvalResult) (p : Progress) : Progress :=
  { p with
    best_files := if result.passed > p.bestPublic.passed then p.files else p.best_files
    bestPublic := if result.passed > p.bestPublic.passed then result else p.bestPublic }

def measured (prior_passed : ℕ) (result : EvalResult) (p : Progress) : Progress :=
  { p with
    publicResult := result
    improvement := (result.passed : ℤ) - prior_passed }.checkpointed result

/-- The transition from an earlier progress to the present one. -/
def transition (cfg : Config) (action : Action) (before p : Progress) : Transition where
  task_id := cfg.task.id
  split := cfg.task.split
  action := action
  state := before.observation cfg
  next_state := p.observation cfg
  cost_usd := cfg.arithmetic.round (p.cost_usd - before.cost_usd)
  terminal := p.terminal

def recorded (cfg : Config) (action : Action) (before p : Progress) : Progress :=
  { p with transitions := p.transitions ++ [transition cfg action before p] }

/-- The terminal flag as the end of a step leaves it. -/
def flagged (terminal : Bool) (p : Progress) : Progress := { p with terminal := terminal }

/-- A verification of the files has been asked for. -/
def verifying (cfg : Config) (source : String) (outcome : EvalOutcome) (p : Progress) : Progress :=
  ({ p with
    decisions := p.decisions + 1
    verification_calls := p.verification_calls + 1
    verification_attempted := p.verification_attempted ++ [cfg.fingerprint p.files] }.note
      (.decision .verify source (p.observation cfg))).note
      (.evaluation ⟨.supplemental, p.files⟩ outcome)

def verified (cfg : Config) (result : EvalResult) (p : Progress) : Progress :=
  { p with
    verified_candidates := Dict.set p.verified_candidates (cfg.fingerprint p.files) result }

/-- The first check of an episode has been asked for. -/
def opened (outcome : EvalOutcome) (p : Progress) : Progress :=
  { p with started := true }.note (.evaluation ⟨.visible, p.files⟩ outcome)

def baseline (result : EvalResult) (p : Progress) : Progress :=
  { p with
    publicResult := result
    bestPublic := result }

/-- The wait before a repeated request has begun. -/
def waited (p : Progress) : Progress := { p with pending := none }

/-- The end of an episode: a status, and perhaps a check of the hidden cases. -/
def closed (status : Status) (terminal : Bool) (occurrences : List Occurrence) (p : Progress) :
    Progress :=
  { p with
    status := status
    terminal := terminal
    log := p.log ++ occurrences }

/-- The answer to a request that a decision has sent. -/
def answered (cfg : Config) (action : Action) (source : String) (request : Request)
    (outcome : GenerateOutcome) (p : Progress) : Progress :=
  (p.decided cfg action source).sent action request outcome

/-- An answer leaves no candidate. -/
def dismissed (status : Status) (terminal : Bool) (p : Progress) : Progress :=
  { p with
    improvement := 0
    status := status
    terminal := terminal }

/-- A failed request is repeated after a delay. -/
def armed (delay : ℚ) (p : Progress) : Progress :=
  { p with
    improvement := 0
    pending := some delay
    status := .running
    terminal := false }

/-- The counters and the cost are below their bounds. -/
structure Affords (bounds : Bounds) (p : Progress) : Prop where
  attempts : p.attempts < bounds.max_steps
  decisions : p.decisions < bounds.max_decisions
  cost_usd : p.cost_usd < bounds.max_cost_usd

/-- An observation differs from that of the released harness in its extra keys
only. -/
theorem observation_shape (cfg : Config) (p : Progress) : ∃ verification,
    p.observation cfg =
      { RepoEpisode.observation cfg (p.episode cfg) with verification := verification } := by
  unfold observation Episode.observation
  cases cfg.harness <;> exact ⟨_, rfl⟩

/-! ## What an observation does not show -/

section Unobserved

variable (cfg : Config) (p : Progress)

@[simp] theorem observation_recorded (action : Action) (before : Progress) :
    (recorded cfg action before p).observation cfg = p.observation cfg := by
  unfold observation Episode.observation
  cases cfg.harness <;> rfl

@[simp] theorem observation_waited : p.waited.observation cfg = p.observation cfg := by
  unfold observation Episode.observation
  cases cfg.harness <;> rfl

@[simp] theorem observation_closed (status : Status) (terminal : Bool)
    (occurrences : List Occurrence) :
    (p.closed status terminal occurrences).observation cfg = p.observation cfg := by
  unfold observation Episode.observation
  cases cfg.harness <;> rfl

end Unobserved

end Progress

/-! ## Every way through a step -/

/-- A status with which an episode is not graded. -/
def Status.Broken (status : Status) : Prop := status ≠ .running ∧ status ≠ .completed

/-- The actions that send a request. -/
def Action.Requests (action : Action) : Prop :=
  action ≠ .stop ∧ action ≠ .rollback ∧ action ≠ .verify

/-- The exceptions that do not come from a check of the harness: those of the
evaluator, of the provider, of the screen of the files and of the encoder of the
feedback. -/
inductive Outside (cfg : Config) (escape : Escape) : Prop where
  | evaluator (calls : List EvalCall) (call : EvalCall)
      (raised : cfg.evaluator calls call = .raised escape)
  | generate (earlier : List Request) (request : Request)
      (escaped : cfg.provider.generate earlier request = .escaped escape)
  | estimate_reservation_usd (estimate : List Request → Query → Except PreflightError ℚ)
      (given : cfg.provider.estimate_reservation_usd = some estimate)
      (earlier : List Request) (query : Query)
      (raised : estimate earlier query = .error (.other escape))
  | estimate_token_bound (estimate : List Request → Query → Except PreflightError ℤ)
      (given : cfg.provider.estimate_token_bound = some estimate)
      (earlier : List Request) (query : Query)
      (raised : estimate earlier query = .error (.other escape))
  | build_messages (build : List Request → Query → Except PreflightError Json)
      (given : cfg.provider.build_messages = some build)
      (earlier : List Request) (query : Query)
      (raised : build earlier query = .error (.other escape))
  | validate_files (candidate : Files)
      (raised : cfg.validate_files candidate cfg.task.entrypoint = .error (.escaped escape))
  | feedback (cases : List CaseRow)
      (raised : bounded_visible_cases cfg.floatText previewLimit cases = .error escape)

namespace Progress

/-- What a legal action leaves before the transition of the step is appended. -/
inductive Effect (cfg : Config) (source : String) (p : Progress) : Action → Progress → Prop where
  | stopped : Effect cfg source p .stop ((p.decided cfg .stop source).flagged true)
  | restored (terminal : Bool) :
      Effect cfg source p .rollback ((p.decided cfg .rollback source).restored.flagged terminal)
  /-- A rate limit, too late for another request. -/
  | limited {action : Action} (requests : action.Requests) (request : Request)
      (failed : ProviderFailure) (role : Role) (status : Status) (broken : status.Broken) :
      Effect cfg source p action
        (((p.answered cfg action source request (.failure failed)).charged cfg failed.cost_usd
          role).ended status)
  | armed {action : Action} (requests : action.Requests) (request : Request)
      (failed : ProviderFailure) (role : Role) (delay : ℚ)
      (affords : Affords cfg.bounds
        ((p.answered cfg action source request (.failure failed)).charged cfg failed.cost_usd role)) :
      Effect cfg source p action
        (((p.answered cfg action source request (.failure failed)).charged cfg failed.cost_usd
          role).armed delay)
  /-- A response without a candidate, or with one that is rejected. -/
  | dismissed {action : Action} (requests : action.Requests) (request : Request)
      (outcome : GenerateOutcome) (cost_usd : ℚ) (role : Role) (status : Status)
      (runs : status = p.status ∨ status = .running) (terminal : Bool) :
      Effect cfg source p action
        (((p.answered cfg action source request outcome).charged cfg cost_usd role).dismissed status
          terminal)
  | measured {action : Action} (requests : action.Requests) (request : Request)
      (generated : RepoResult) (role : Role) (candidate : Files) (result : EvalResult)
      (valid : Episode.validate_edits cfg candidate = .ok ())
      (answer : ∃ calls, cfg.evaluator calls ⟨.visible, candidate⟩ = .result result)
      (terminal : Bool) :
      Effect cfg source p action
        (((((p.answered cfg action source request (.result generated)).charged cfg generated.cost_usd
          role).applied candidate (.result result)).measured p.publicResult.passed result).flagged
            terminal)
  | verified (result : EvalResult)
      (answer : ∃ calls, cfg.evaluator calls ⟨.supplemental, p.files⟩ = .result result)
      (terminal : Bool) :
      Effect cfg source p .verify
        (((p.verifying cfg source (.result result)).verified cfg result).flagged terminal)

/-- A step that ends the episode without a transition. -/
inductive Halted (cfg : Config) (source : String) (p : Progress) : Action → Progress → Prop where
  | unsent {action : Action} (requests : action.Requests) (status : Status)
      (broken : status.Broken) :
      Halted cfg source p action ((p.decided cfg action source).ended status)
  /-- A request that the ledger has refused is no attempt. -/
  | failed {action : Action} (requests : action.Requests) (request : Request)
      (failed : ProviderFailure) (role : Role) (status : Status) (broken : status.Broken)
      (attempts : ℕ) (counted : attempts = p.attempts + 1 ∨ attempts = p.attempts) :
      Halted cfg source p action
        { ((p.answered cfg action source request (.failure failed)).charged cfg failed.cost_usd
          role).ended status with attempts := attempts }

/-- What an exception leaves that passes through the effect of a legal action. -/
inductive Raised (cfg : Config) (source : String) (p : Progress) :
    Action → Escape → Progress → Prop where
  | unsent {action : Action} (requests : action.Requests) (escape : Escape)
      (outside : Outside cfg escape) :
      Raised cfg source p action escape (p.decided cfg action source)
  | escaped {action : Action} (requests : action.Requests) (request : Request) (escape : Escape)
      (outside : Outside cfg escape) :
      Raised cfg source p action escape (p.answered cfg action source request (.escaped escape))
  | cancelled {action : Action} (requests : action.Requests) (request : Request)
      (failed : ProviderFailure) (role : Role) :
      Raised cfg source p action .cancelled
        (((p.answered cfg action source request (.failure failed)).charged cfg failed.cost_usd
          role).ended .interrupted)
  /-- The screen of a candidate raises. -/
  | unscreened {action : Action} (requests : action.Requests) (request : Request)
      (generated : RepoResult) (role : Role) (escape : Escape) (outside : Outside cfg escape) :
      Raised cfg source p action escape
        ((p.answered cfg action source request (.result generated)).charged cfg
          generated.cost_usd role)
  | stranded {action : Action} (requests : action.Requests) (request : Request)
      (generated : RepoResult) (role : Role) (candidate : Files)
      (valid : Episode.validate_edits cfg candidate = .ok ()) (escape : Escape)
      (outside : Outside cfg escape) :
      Raised cfg source p action escape
        (((p.answered cfg action source request (.result generated)).charged cfg generated.cost_usd
          role).applied candidate (.raised escape))
  | unverified (escape : Escape) (outside : Outside cfg escape) :
      Raised cfg source p .verify escape (p.verifying cfg source (.raised escape))

section Inversion

variable {cfg : Config} {source : String} {p q : Progress}

/-- Only a request has another effect than its own action. -/
theorem Effect.of_verify (effected : Effect cfg source p .verify q) :
    ∃ result terminal, (∃ calls, cfg.evaluator calls ⟨.supplemental, p.files⟩ = .result result) ∧
      q = ((p.verifying cfg source (.result result)).verified cfg result).flagged terminal := by
  cases effected with
  | verified result answer terminal => exact ⟨result, terminal, answer, rfl⟩
  | limited requests => exact absurd rfl requests.2.2
  | armed requests => exact absurd rfl requests.2.2
  | dismissed requests => exact absurd rfl requests.2.2
  | measured requests => exact absurd rfl requests.2.2

theorem Effect.of_stop (effected : Effect cfg source p .stop q) :
    q = (p.decided cfg .stop source).flagged true := by
  cases effected with
  | stopped => rfl
  | limited requests => exact absurd rfl requests.1
  | armed requests => exact absurd rfl requests.1
  | dismissed requests => exact absurd rfl requests.1
  | measured requests => exact absurd rfl requests.1

theorem Raised.of_verify {escape : Escape} (raised : Raised cfg source p .verify escape q) :
    q = p.verifying cfg source (.raised escape) := by
  cases raised with
  | unverified => rfl
  | unsent requests => exact absurd rfl requests.2.2
  | escaped requests => exact absurd rfl requests.2.2
  | cancelled requests => exact absurd rfl requests.2.2
  | unscreened requests => exact absurd rfl requests.2.2
  | stranded requests => exact absurd rfl requests.2.2

end Inversion

/-! ## What a step logs -/

/-- A step logs its decision first, and no other. -/
def Decides (cfg : Config) (action : Action) (source : String) (p q : Progress) : Prop :=
  ∃ more, q.log = p.log ++ .decision action source (p.observation cfg) :: more ∧
    ∀ other name state, .decision other name state ∉ more

section Logs

variable {cfg : Config} {p q : Progress} {action : Action} {source : String}

theorem log_answered (request : Request) (outcome : GenerateOutcome) :
    (p.answered cfg action source request outcome).log =
      p.log ++ [.decision action source (p.observation cfg), .request request outcome] :=
  List.append_assoc _ _ _

theorem log_applied (request : Request) (outcome : GenerateOutcome) (candidate : Files)
    (checked : EvalOutcome) (role : Role) (cost_usd : ℚ) :
    (((p.answered cfg action source request outcome).charged cfg cost_usd role).applied candidate
      checked).log =
      p.log ++ [.decision action source (p.observation cfg), .request request outcome,
        .evaluation ⟨.visible, candidate⟩ checked] := by
  show (p.answered cfg action source request outcome).log ++ _ = _
  rw [log_answered, List.append_assoc]
  rfl

theorem log_verifying (source : String) (outcome : EvalOutcome) :
    (p.verifying cfg source outcome).log =
      p.log ++ [.decision .verify source (p.observation cfg),
        .evaluation ⟨.supplemental, p.files⟩ outcome] :=
  List.append_assoc _ _ _

theorem Decides.alone (log : q.log = p.log ++ [.decision action source (p.observation cfg)]) :
    Decides cfg action source p q :=
  ⟨[], log, fun _ _ _ => List.not_mem_nil⟩

theorem Decides.answered {request : Request} {outcome : GenerateOutcome}
    (log : q.log = (p.answered cfg action source request outcome).log) :
    Decides cfg action source p q :=
  ⟨_, log.trans (log_answered request outcome),
    fun _ _ _ member => by cases List.mem_singleton.mp member⟩

theorem Decides.applied {request : Request} {outcome : GenerateOutcome} {candidate : Files}
    {checked : EvalOutcome} {role : Role} {cost_usd : ℚ}
    (log : q.log = (((p.answered cfg action source request outcome).charged cfg cost_usd role).applied
      candidate checked).log) : Decides cfg action source p q :=
  ⟨_, log.trans (log_applied request outcome candidate checked role cost_usd),
    fun _ _ _ member => by simp at member⟩

theorem Decides.verifying {outcome : EvalOutcome}
    (log : q.log = (p.verifying cfg source outcome).log) : Decides cfg .verify source p q :=
  ⟨_, log.trans (log_verifying source outcome),
    fun _ _ _ member => by cases List.mem_singleton.mp member⟩

theorem Effect.decides (effected : Effect cfg source p action q) :
    Decides cfg action source p q := by
  cases effected with
  | stopped => exact .alone rfl
  | restored terminal => exact .alone rfl
  | limited => exact .answered rfl
  | armed => exact .answered rfl
  | dismissed => exact .answered rfl
  | measured => exact .applied rfl
  | verified => exact .verifying rfl

theorem Halted.decides (halted : Halted cfg source p action q) : Decides cfg action source p q := by
  cases halted with
  | unsent => exact .alone rfl
  | failed => exact .answered rfl

theorem Raised.decides {escape : Escape} (raised : Raised cfg source p action escape q) :
    Decides cfg action source p q := by
  cases raised with
  | unsent => exact .alone rfl
  | escaped => exact .answered rfl
  | cancelled => exact .answered rfl
  | unscreened => exact .answered rfl
  | stranded => exact .applied rfl
  | unverified => exact .verifying rfl

/-- Only a request ends a step without a transition. -/
theorem Halted.requests (halted : Halted cfg source p action q) : action.Requests := by
  cases halted with
  | unsent requests => exact requests
  | failed requests => exact requests

theorem Raised.not_stop {escape : Escape} (raised : Raised cfg source p action escape q) :
    action ≠ .stop := by
  cases raised with
  | unsent requests => exact requests.1
  | escaped requests => exact requests.1
  | cancelled requests => exact requests.1
  | unscreened requests => exact requests.1
  | stranded requests => exact requests.1
  | unverified => decide

end Logs

end Progress

namespace Episode

def progress (ep : Episode) : Progress where
  files := ep.files
  best_files := ep.best_files
  publicResult := ep.publicResult
  bestPublic := ep.bestPublic
  attempts := ep.attempts
  decisions := ep.decisions
  rollbacks := ep.rollbacks
  retries := ep.retries
  improvement := ep.improvement
  current_model := ep.current_model
  cost_usd := ep.cost_usd
  pending := ep.pending_provider_delay
  verification_calls := ep.verification_calls
  verified_candidates := ep.verified_candidates
  verification_attempted := ep.verification_attempted
  transitions := ep.transitions
  status := ep.status
  terminal := ep.terminal
  started := ep.started_flag
  log := ep.log

theorem observation_progress (cfg : Config) (ep : Episode) :
    ep.progress.observation cfg = ep.observation cfg := by
  unfold Progress.observation observation
  cases cfg.harness <;> rfl

theorem legal_actions_progress (cfg : Config) (ep : Episode) :
    ep.progress.legal_actions cfg = ep.legal_actions cfg (ep.observation cfg) := by
  unfold Progress.legal_actions
  rw [observation_progress]
  unfold legal_actions
  cases cfg.harness <;> rfl

/-! ## The progress of each piece -/

section Pieces

variable (cfg : Config) (ep : Episode)

@[simp] theorem progress_emit (event : Event) : (ep.emit event).progress = ep.progress := rfl

@[simp] theorem progress_note (occurrence : Occurrence) :
    (ep.note occurrence).progress = ep.progress.note occurrence := rfl

@[simp] theorem progress_record_failure (label : String) :
    (ep.record_failure label).progress = ep.progress := by
  rcases record_failure_eq ep label with ⟨labels, same⟩
  rw [same]
  rfl

/-- What a step remembers of the episode in which it begins. -/
structure Remembers (cfg : Config) (context : StepContext) (before : Episode) : Prop where
  state : context.state = before.observation cfg
  prior_cost : context.prior_cost = before.cost_usd
  prior_passed : context.prior_passed = before.publicResult.passed

theorem progress_record {context : StepContext} {before : Episode}
    (remembers : Remembers cfg context before) :
    (record cfg context ep).progress =
      Progress.recorded cfg context.action before.progress ep.progress := by
  have cost : before.progress.cost_usd = context.prior_cost := remembers.prior_cost.symm
  unfold Progress.recorded Progress.transition
  rw [observation_progress, observation_progress, ← remembers.state, cost]
  rfl

@[simp] theorem progress_stop (reason : String) :
    (ep.stop reason).progress = ep.progress.flagged true := rfl

/-- The budget sets the terminal flag, or leaves it. -/
theorem progress_endBudget :
    ∃ terminal, (endBudget cfg ep).progress = ep.progress.flagged terminal := by
  rcases endBudget_eq cfg ep with ⟨terminal, reason, same⟩
  exact ⟨terminal, congrArg progress same⟩

@[simp] theorem progress_recordDecision (action : Action) (source : String) :
    (recordDecision cfg action source ep).progress = ep.progress.decided cfg action source := by
  unfold Progress.decided
  rw [observation_progress]
  rfl

@[simp] theorem progress_rollbackStep : ep.rollbackStep.progress = ep.progress.restored := rfl

@[simp] theorem progress_recordModel (model : String) :
    (recordModel model ep).progress = ep.progress := by
  rcases recordModel_eq ep model with ⟨models, events, same⟩
  rw [same]
  rfl

@[simp] theorem progress_recordFailedModel (model : Option String) :
    (recordFailedModel model ep).progress = ep.progress := by
  rcases recordFailedModel_eq ep model with ⟨models, events, last, same⟩
  rw [same]
  rfl

@[simp] theorem progress_recordTokens (bound : ℤ) (failed : ProviderFailure) :
    (recordTokens bound failed ep).progress = ep.progress := by
  rcases recordTokens_eq ep bound failed with ⟨tokens, complete, unknown, same⟩
  rw [same]
  rfl

theorem failedStatus_broken (kind : FailureKind) : (failedStatus kind).Broken := by
  cases kind <;> exact ⟨by decide, by decide⟩

/-- A failed request is charged, may commit a role, and ends the episode. -/
theorem progress_recordFailedRequest (context : RequestContext) (failed : ProviderFailure) :
    ∃ role, (recordFailedRequest cfg context failed ep).progress =
      (ep.progress.charged cfg failed.cost_usd role).ended (failedStatus failed.kind) := by
  have ended (ep : Episode) : (endFailure failed ep).progress =
      ep.progress.ended (failedStatus failed.kind) := rfl
  unfold recordFailedRequest
  rw [ended, progress_recordTokens, progress_recordFailedModel]
  unfold commitObserved
  split_ifs
  · exact ⟨context.role, rfl⟩
  · exact ⟨ep.current_model, rfl⟩

theorem progress_countRetry (action : Action) (role : Role) :
    (countRetry action role ep).progress =
      { ep.progress with
        retries := ep.retries + if action = Action.retry ∧ ep.attempts > 1 then 1 else 0 } := by
  rcases countRetry_eq ep action role with ⟨events, same⟩
  rw [same]
  rfl

@[simp] theorem progress_beginRequest (action : Action) (role : Role) (seed : ℤ) (request : Request)
    (outcome : GenerateOutcome) :
    ((beginRequest action role seed ep).note (.request request outcome)).progress =
      ep.progress.sent action request outcome := by
  have counted := progress_countRetry { ep with attempts := ep.attempts + 1 } action role
  unfold beginRequest announceRequest
  rw [progress_note, progress_emit, counted]
  rfl

@[simp] theorem progress_applyCandidate (candidate : Files) :
    (applyCandidate cfg candidate ep).progress = { ep.progress with files := candidate } := by
  rcases applyCandidate_eq cfg ep candidate with ⟨labels, events, same⟩
  rw [same]
  rfl

theorem progress_askCheck :
    (askCheck cfg false ep).progress =
      ep.progress.note (.evaluation ⟨.visible, ep.files⟩ (checkAnswer cfg false ep)) := rfl

@[simp] theorem progress_countInvalid :
    (countInvalid ep).progress = { ep.progress with improvement := 0 } :=
  progress_record_failure _ _

/-- The two caps of an invalid response set the terminal flag, or leave it. -/
theorem progress_capInvalid :
    ∃ terminal, ep.capInvalid.progress = ep.progress.flagged terminal := by
  rcases capInvalid_eq ep with ⟨terminal, reason, same⟩
  exact ⟨terminal, congrArg progress same⟩

theorem progress_capSteps :
    ∃ terminal, (capSteps cfg ep).progress = ep.progress.flagged terminal := by
  rcases capSteps_eq cfg ep with ⟨terminal, reason, same⟩
  exact ⟨terminal, congrArg progress same⟩

/-- A measured candidate ends the episode, or leaves the flag. -/
theorem progress_measureCandidate (context : RequestContext) (before : List CaseRow)
    (result : EvalResult) :
    ∃ terminal, (measureCandidate cfg context before result ep).progress =
      (ep.progress.measured context.prior_passed result).flagged terminal := by
  rcases measureCandidate_eq cfg ep context before result with
    ⟨regressions, labels, terminal, reason, same⟩
  exact ⟨terminal, congrArg progress same⟩

@[simp] theorem progress_recordResult (context : RequestContext) (generated : RepoResult) :
    (recordResult cfg context generated ep).progress =
      ep.progress.charged cfg generated.cost_usd context.role := by
  rw [recordResult, progress_emit, progress_recordModel]
  rfl

end Pieces

end Episode

end ForgeRL
