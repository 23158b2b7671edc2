import ForgeRL.Bench.Advance

namespace ForgeRL

open Library

/-!
# What a step does to the books of an episode

The standing of an episode is what it holds and what it owes: the files and
the checkpoint, every counter, the money and the tokens, and the log.  A step
leaves it through one of a dozen exits.  Each exit is listed here once, with
the standing that it leaves, and with what the preflight has found out about
the request.
-/

structure Standing where
  files : Files
  best_files : Files
  publicResult : EvalResult
  bestPublic : EvalResult
  snapshots : List Text
  attempts : ℕ
  decisions : ℕ
  retries : ℕ
  rollbacks : ℕ
  escalations : ℕ
  invalid_responses : ℕ
  provider_retries : ℕ
  pending : Option ℚ
  cost_usd : ℚ
  tokens : ℤ
  unknown_token_bound : ℤ
  current_model : Role
  started : Bool
  log : List Occurrence

/-- The tokens that a failed request reports. -/
def ProviderFailure.reportedTokens (failed : ProviderFailure) : Option ℤ :=
  match failed.prompt_tokens, failed.completion_tokens with
  | some incoming, some outgoing =>
    some (Episode.totalTokens failed.total_tokens incoming outgoing)
  | _, _ => none

/-- An exception without attributes. -/
def ProviderFailure.bare (kind : FailureKind) (message : String) : ProviderFailure :=
  ⟨kind, message, 0, none, none, none, none, none, none, none, none, none, none, none, none, none⟩

/-- The tokens of a generated result. -/
def RepoResult.usedTokens (generated : RepoResult) : ℤ :=
  Episode.totalTokens (some generated.total_tokens) generated.prompt_tokens
    generated.completion_tokens

namespace Standing

def note (s : Standing) (occurrence : Occurrence) : Standing :=
  { s with log := s.log ++ [occurrence] }

def requests (s : Standing) : List Request :=
  s.log.filterMap fun occurrence =>
    match occurrence with
    | .request request _ => some request
    | _ => none

def decided (action : Action) (source : String) (state : Observation) (s : Standing) : Standing :=
  { s with decisions := s.decisions + 1 }.note (.decision action source state)

/-- The role that an action asks for. -/
def roleFor (action : Action) (s : Standing) : Role :=
  if action = .escalate then .strong else s.current_model

/-- The action switches from cheap to strong after an earlier attempt. -/
def Escalates (action : Action) (s : Standing) : Prop :=
  action = .escalate ∧ 0 < s.attempts ∧ s.current_model ≠ .strong

instance (action : Action) (s : Standing) : Decidable (s.Escalates action) :=
  inferInstanceAs (Decidable (_ ∧ _))

/-- An attempt has sent its request. -/
def called (action : Action) (request : Request) (outcome : GenerateOutcome) (s : Standing) :
    Standing :=
  { s with
    attempts := s.attempts + 1
    retries := s.retries + if action = Action.retry ∧ s.attempts + 1 > 1 then 1 else 0 }.note
      (.request request outcome)

/-- The role of an observed request is the current one. -/
def committed (role : Role) (escalates : Bool) (s : Standing) : Standing :=
  { s with
    escalations := s.escalations + if escalates then 1 else 0
    current_model := role }

/-- What every failure of a request leaves; the role is committed if the
request has been observed. -/
def failed (cfg : Config) (role : Role) (escalates : Bool) (bound : ℤ)
    (failure : ProviderFailure) (s : Standing) : Standing :=
  { s with
    escalations := s.escalations +
      if Episode.requestObserved failure ∧ escalates = true then 1 else 0
    current_model := if Episode.requestObserved failure then role else s.current_model
    cost_usd := cfg.arithmetic.add s.cost_usd failure.cost_usd
    tokens := s.tokens + failure.reportedTokens.getD 0
    unknown_token_bound := s.unknown_token_bound +
      if failure.reportedTokens = none ∧ failure.kind ≠ FailureKind.budgetExceeded then bound
      else 0 }

/-- What every generated result leaves, before its candidate is looked at. -/
def generated (cfg : Config) (role : Role) (escalates : Bool) (result : RepoResult)
    (s : Standing) : Standing :=
  { s.committed role escalates with
    tokens := s.tokens + result.usedTokens
    cost_usd := cfg.arithmetic.add s.cost_usd result.cost_usd }

/-- What a request may be expected to cost at most. -/
def allowance (cfg : Config) (s : Standing) : ℚ :=
  cfg.arithmetic.round (cfg.arithmetic.round (cfg.bounds.max_cost_usd - s.cost_usd) +
    cfg.arithmetic.round (1 / 1000000000))

/-- An invalid response has been counted. -/
def invalid (s : Standing) : Standing := { s with invalid_responses := s.invalid_responses + 1 }

/-- A candidate replaces the files and is checked. -/
def applied (cfg : Config) (candidate : Files) (outcome : EvalOutcome) (s : Standing) : Standing :=
  { s with
    files := candidate
    snapshots := s.snapshots ++ [cfg.fingerprint candidate] }.note
      (.evaluation ⟨.visible, candidate⟩ outcome)

def measured (result : EvalResult) (s : Standing) : Standing :=
  { s with
    publicResult := result
    best_files := if result.passed > s.bestPublic.passed then s.files else s.best_files
    bestPublic := if result.passed > s.bestPublic.passed then result else s.bestPublic }

def restored (s : Standing) : Standing :=
  { s with
    files := s.best_files
    publicResult := s.bestPublic
    rollbacks := s.rollbacks + 1 }

/-- The first check of an episode has been asked for. -/
def opened (outcome : EvalOutcome) (s : Standing) : Standing :=
  { s with started := true }.note (.evaluation ⟨.visible, s.files⟩ outcome)

def baseline (result : EvalResult) (s : Standing) : Standing :=
  { s with
    publicResult := result
    bestPublic := result }

@[simp] theorem requests_decided (action : Action) (source : String) (state : Observation)
    (s : Standing) : (s.decided action source state).requests = s.requests := by
  simp [requests, decided, note]

theorem requests_called (action : Action) (request : Request) (outcome : GenerateOutcome)
    (s : Standing) : (s.called action request outcome).requests = s.requests ++ [request] := by
  simp [requests, called, note]

@[simp] theorem requests_evaluation (call : EvalCall) (outcome : EvalOutcome) (s : Standing) :
    (s.note (.evaluation call outcome)).requests = s.requests := by
  simp [requests, note]

end Standing

namespace Episode

def standing (ep : Episode) : Standing where
  files := ep.files
  best_files := ep.best_files
  publicResult := ep.publicResult
  bestPublic := ep.bestPublic
  snapshots := ep.snapshots
  attempts := ep.attempts
  decisions := ep.decisions
  retries := ep.retries
  rollbacks := ep.rollbacks
  escalations := ep.escalations
  invalid_responses := ep.invalid_responses
  provider_retries := ep.provider_retries
  pending := ep.pending_provider_delay
  cost_usd := ep.cost_usd
  tokens := ep.tokens
  unknown_token_bound := ep.unknown_token_bound
  current_model := ep.current_model
  started := ep.started_flag
  log := ep.log

/-! ## The standing of each piece -/

section Pieces

variable (cfg : Config) (ep : Episode)

@[simp] theorem standing_emit (event : Event) : (ep.emit event).standing = ep.standing := rfl

@[simp] theorem standing_note (occurrence : Occurrence) :
    (ep.note occurrence).standing = ep.standing.note occurrence := rfl

@[simp] theorem standing_record_failure (label : String) :
    (ep.record_failure label).standing = ep.standing := by
  rcases record_failure_eq ep label with ⟨labels, same⟩
  rw [same]
  rfl

@[simp] theorem standing_record (context : StepContext) :
    (record cfg context ep).standing = ep.standing := rfl

@[simp] theorem standing_close (context : StepContext) :
    (close cfg context ep).standing = ep.standing := by
  rcases endBudget_eq cfg ep with ⟨terminal, reason, same⟩
  rw [close, same]
  rfl

@[simp] theorem standing_recordDecision (action : Action) (source : String) :
    (recordDecision cfg action source ep).standing =
      ep.standing.decided action source (ep.observation cfg) := rfl

@[simp] theorem standing_stopStep : ep.stopStep.standing = ep.standing := rfl

@[simp] theorem standing_rollbackStep : ep.rollbackStep.standing = ep.standing.restored := rfl

theorem standing_countRetry (action : Action) (role : Role) :
    (countRetry action role ep).standing =
      { ep.standing with
        retries := ep.retries + if action = Action.retry ∧ ep.attempts > 1 then 1 else 0 } := by
  rcases countRetry_eq ep action role with ⟨events, same⟩
  rw [same]
  rfl

theorem standing_beginRequest (action : Action) (role : Role) (seed : ℤ) (request : Request)
    (outcome : GenerateOutcome) :
    ((beginRequest action role seed ep).note (.request request outcome)).standing =
      ep.standing.called action request outcome := by
  have counted := standing_countRetry { ep with attempts := ep.attempts + 1 } action role
  unfold beginRequest announceRequest
  rw [standing_note, standing_emit, counted]
  rfl

@[simp] theorem standing_recordModel (model : String) :
    (recordModel model ep).standing = ep.standing := by
  rcases recordModel_eq ep model with ⟨models, events, same⟩
  rw [same]
  rfl

@[simp] theorem standing_recordFailedModel (model : Option String) :
    (recordFailedModel model ep).standing = ep.standing := by
  rcases recordFailedModel_eq ep model with ⟨models, events, last, same⟩
  rw [same]
  rfl

theorem standing_recordTokens (bound : ℤ) (failure : ProviderFailure) :
    (recordTokens bound failure ep).standing =
      { ep.standing with
        tokens := ep.tokens + failure.reportedTokens.getD 0
        unknown_token_bound := ep.unknown_token_bound +
          if failure.reportedTokens = none ∧ failure.kind ≠ FailureKind.budgetExceeded then bound
          else 0 } := by
  unfold recordTokens ProviderFailure.reportedTokens
  cases prompt : failure.prompt_tokens <;> cases completion : failure.completion_tokens
  case some.some incoming outgoing => simp [standing]
  all_goals
    dsimp only
    by_cases refused : failure.kind = FailureKind.budgetExceeded
    · rw [if_pos refused]
      simp [standing, refused]
    · rw [if_neg refused]
      simp [standing, refused]

theorem standing_commitObserved (context : RequestContext) (failure : ProviderFailure) :
    (commitObserved context failure ep).standing =
      { ep.standing with
        escalations := ep.escalations +
          if requestObserved failure ∧ context.pending_escalation = true then 1 else 0
        current_model := if requestObserved failure then context.role else ep.current_model } := by
  unfold commitObserved
  by_cases observed : requestObserved failure
  · simp [observed, standing, commitRole]
  · simp [observed, standing]

theorem standing_recordFailedRequest (context : RequestContext) (failure : ProviderFailure) :
    (recordFailedRequest cfg context failure ep).standing =
      ep.standing.failed cfg context.role context.pending_escalation context.bound failure := by
  have ended (ep : Episode) : (endFailure failure ep).standing = ep.standing := rfl
  have named := standing_recordFailedModel
    (commitObserved context failure (chargeFailure cfg failure ep)) failure.model
  rw [standing_commitObserved] at named
  have tokens := congrArg Standing.tokens named
  have unknown := congrArg Standing.unknown_token_bound named
  dsimp only [standing] at tokens unknown
  unfold recordFailedRequest
  rw [ended, standing_recordTokens, named, tokens, unknown]
  rfl

@[simp] theorem standing_resume : (resume ep).standing = ep.standing := rfl

@[simp] theorem standing_countInvalid : (countInvalid ep).standing = ep.standing.invalid :=
  standing_record_failure _ _

@[simp] theorem standing_capSteps : (capSteps cfg ep).standing = ep.standing := by
  rcases capSteps_eq cfg ep with ⟨terminal, reason, same⟩
  rw [same]
  rfl

@[simp] theorem standing_capInvalid : ep.capInvalid.standing = ep.standing := by
  rcases capInvalid_eq ep with ⟨terminal, reason, same⟩
  rw [same]
  rfl

@[simp] theorem standing_rejectCandidate (error : String) (supplied : Files) :
    (rejectCandidate error supplied ep).standing = ep.standing.invalid := by
  rw [rejectCandidate, standing_capInvalid, standing_emit, standing_countInvalid]

@[simp] theorem standing_applyCandidate (candidate : Files) :
    (applyCandidate cfg candidate ep).standing =
      { ep.standing with
        files := candidate
        snapshots := ep.snapshots ++ [cfg.fingerprint candidate] } := by
  rcases applyCandidate_eq cfg ep candidate with ⟨labels, events, same⟩
  rw [same]
  rfl

theorem standing_measureCandidate (context : RequestContext) (before : List CaseRow)
    (result : EvalResult) :
    (measureCandidate cfg context before result ep).standing = ep.standing.measured result := by
  rcases measureCandidate_eq cfg ep context before result with
    ⟨regressions, labels, terminal, reason, same⟩
  rw [same]
  rfl

@[simp] theorem standing_askCheck (hidden : Bool) : (askCheck cfg hidden ep).standing =
    ep.standing.note (.evaluation (ep.checkCall hidden) (checkAnswer cfg hidden ep)) := rfl

@[simp] theorem standing_recordResult (context : RequestContext) (result : RepoResult) :
    (recordResult cfg context result ep).standing =
      ep.standing.generated cfg context.role context.pending_escalation result := by
  rw [recordResult, standing_emit, standing_recordModel]
  rfl

end Pieces

end Episode

/-! ## The exits of a step -/

/-- What the preflight of a request has found out. -/
structure Issued (cfg : Config) (s : Standing) (action : Action) (bound : ℤ) (request : Request)
    (answer : GenerateOutcome) : Prop where
  requests : action.Requests
  files : request.files = s.files
  role : request.role = s.roleFor action
  answered : cfg.provider.generate s.requests request = answer
  affordable : ∀ estimate, cfg.provider.estimate_reservation_usd = some estimate →
    ∃ expected, estimate s.requests request.toQuery = .ok expected ∧
      expected ≤ s.allowance cfg
  bounded : ∀ estimate, cfg.provider.estimate_token_bound = some estimate →
    estimate s.requests request.toQuery = .ok bound ∧
      s.tokens + s.unknown_token_bound + bound ≤ maxEpisodeTokens
  unbounded : cfg.provider.estimate_token_bound = none → bound = 0

/-- What a step can still do once its request is answered; the standing is
that of the attempt. -/
inductive Answered (cfg : Config) (role : Role) (escalates : Bool) (bound : ℤ) (s : Standing) :
    GenerateOutcome → Outcome Unit → Prop where
  | escaped (escape : Escape) (left : Episode) (same : left.standing = s) :
      Answered cfg role escalates bound s (.escaped escape) (.raised escape left)
  | cancelled (failure : ProviderFailure) (kind : failure.kind = .cancelled) (left : Episode)
      (same : left.standing = s.failed cfg role escalates bound failure) :
      Answered cfg role escalates bound s (.failure failure) (.raised .cancelled left)
  /-- A request that the ledger has refused is no attempt. -/
  | refused (failure : ProviderFailure) (kind : failure.kind = .budgetExceeded) (after : Episode)
      (ended : after.terminal = true)
      (same : after.standing =
        { s.failed cfg role escalates bound failure with attempts := s.attempts - 1 }) :
      Answered cfg role escalates bound s (.failure failure) (.ok () after)
  | armed (failure : ProviderFailure) (limited : failure.http_status = some 429)
      (kind : failure.kind ≠ .budgetExceeded) (after : Episode) (delay : ℚ)
      (waits : delay = max (30 * 2 ^ s.provider_retries) (failure.retry_after_s.getD 0))
      (short : delay ≤ 60) (retries : s.provider_retries < cfg.bounds.rate_limit_retries)
      (attempts : s.attempts < cfg.bounds.max_steps)
      (decisions : s.decisions < cfg.bounds.max_decisions)
      (same : after.standing =
        { s.failed cfg role escalates bound failure with pending := some delay }) :
      Answered cfg role escalates bound s (.failure failure) (.ok () after)
  /-- A rate limit, too late for another request, or another error of the
  provider. -/
  | broken (failure : ProviderFailure) (kind : failure.kind ≠ .budgetExceeded)
      (incurable : failure.http_status = some 429 ∨ failure.kind ≠ .invalidCandidate)
      (after : Episode) (ended : after.terminal = true)
      (same : after.standing = s.failed cfg role escalates bound failure) :
      Answered cfg role escalates bound s (.failure failure) (.ok () after)
  | invalid (failure : ProviderFailure) (kind : failure.kind = .invalidCandidate)
      (unlimited : failure.http_status ≠ some 429) (after : Episode)
      (same : after.standing = (s.failed cfg role escalates bound failure).invalid) :
      Answered cfg role escalates bound s (.failure failure) (.ok () after)
  | rejected (result : RepoResult) (error : String)
      (rejects : Episode.validate_edits cfg (Dict.merge s.files result.files) =
        .error (.rejected error))
      (after : Episode) (same : after.standing = (s.generated cfg role escalates result).invalid) :
      Answered cfg role escalates bound s (.result result) (.ok () after)
  /-- An exception has left the screen of a candidate. -/
  | unscreened (result : RepoResult) (escape : Escape)
      (raises : Episode.validate_edits cfg (Dict.merge s.files result.files) =
        .error (.escaped escape))
      (left : Episode) (same : left.standing = s.generated cfg role escalates result) :
      Answered cfg role escalates bound s (.result result) (.raised escape left)
  | measured (result : RepoResult) (candidate : Files)
      (merged : candidate = Dict.merge s.files result.files)
      (valid : Episode.validate_edits cfg candidate = .ok ()) (evaluation : EvalResult)
      (after : Episode)
      (same : after.standing = ((s.generated cfg role escalates result).applied cfg candidate
        (.result evaluation)).measured evaluation) :
      Answered cfg role escalates bound s (.result result) (.ok () after)
  | stranded (result : RepoResult) (candidate : Files)
      (merged : candidate = Dict.merge s.files result.files)
      (valid : Episode.validate_edits cfg candidate = .ok ()) (escape : Escape) (left : Episode)
      (same : left.standing = (s.generated cfg role escalates result).applied cfg candidate
        (.raised escape)) :
      Answered cfg role escalates bound s (.result result) (.raised escape left)

/-- Everything that a legal action of a started episode can do, apart from a
verification. -/
inductive Exit (cfg : Config) (action : Action) (source : String) (state : Observation)
    (s : Standing) : Outcome Unit → Prop where
  | stopped (stops : action = .stop) (after : Episode) (ended : after.terminal = true)
      (same : after.standing = s.decided action source state) :
      Exit cfg action source state s (.ok () after)
  | restored (rolls : action = .rollback) (after : Episode)
      (same : after.standing = (s.decided action source state).restored) :
      Exit cfg action source state s (.ok () after)
  /-- The preflight has stopped the step, or an exception has left it. -/
  | unsent (requests : action.Requests) (outcome : Outcome Unit)
      (ended : ∀ after, outcome = .ok () after → after.terminal = true)
      (same : outcome.episode.standing = s.decided action source state) :
      Exit cfg action source state s outcome
  | sent (bound : ℤ) (request : Request) (answer : GenerateOutcome)
      (issued : Issued cfg s action bound request answer) (outcome : Outcome Unit)
      (answered : Answered cfg (s.roleFor action) (decide (s.Escalates action)) bound
        ((s.decided action source state).called action request answer) answer outcome) :
      Exit cfg action source state s outcome

/-- After its answer a step sends no other request. -/
theorem Answered.requests {cfg : Config} {role : Role} {escalates : Bool} {bound : ℤ}
    {s : Standing} {answer : GenerateOutcome} {outcome : Outcome Unit}
    (answered : Answered cfg role escalates bound s answer outcome) :
    outcome.episode.standing.requests = s.requests := by
  have applied (standing : Standing) (candidate : Files) (evaluation : EvalOutcome) :
      (standing.applied cfg candidate evaluation).requests = standing.requests :=
    Standing.requests_evaluation _ _ _
  cases answered
  case measured result candidate merged valid evaluation after same =>
    rw [Outcome.episode, same]
    exact applied _ candidate _
  case stranded result candidate merged valid escape left same =>
    rw [Outcome.episode, same]
    exact applied _ candidate _
  all_goals
    rename_i same
    exact (congrArg Standing.requests same).trans rfl

namespace Episode

section Exits

variable {cfg : Config} {role : Role} {escalates : Bool} {bound : ℤ} {ep : Episode}

theorem handleResult_answered (context : RequestContext) (result : RepoResult) :
    Answered cfg context.role context.pending_escalation bound ep.standing (.result result)
      (handleResult cfg context result ep) := by
  have recorded := standing_recordResult cfg ep context result
  have files : (recordResult cfg context result ep).files = ep.files :=
    congrArg Standing.files recorded
  unfold handleResult
  dsimp only
  rw [files]
  generalize recordResult cfg context result ep = left at recorded
  split
  next error rejects =>
    refine .rejected result error rejects _ ?_
    rw [standing_close, standing_rejectCandidate, recorded]
  next escape raises => exact .unscreened result escape raises _ recorded
  next valid =>
    generalize merged : Dict.merge ep.files result.files = candidate at valid
    have applied := standing_applyCandidate cfg left candidate
    have asked : (askCheck cfg false (applyCandidate cfg candidate left)).standing =
        left.standing.applied cfg candidate
          (checkAnswer cfg false (applyCandidate cfg candidate left)) := by
      have call : (applyCandidate cfg candidate left).checkCall false = ⟨.visible, candidate⟩ := by
        rw [checkCall, show (applyCandidate cfg candidate left).files = candidate from
          congrArg Standing.files applied]
        rfl
      rw [standing_askCheck, applied, call]
      rfl
    unfold acceptCandidate
    cases answer : checkAnswer cfg false (applyCandidate cfg candidate left) with
    | result evaluation =>
      rw [check_of_result answer]
      refine .measured result candidate merged.symm valid evaluation _ ?_
      rw [standing_close, standing_measureCandidate, standing_emit, asked, answer, recorded]
    | raised escape =>
      rw [check_of_raised answer]
      refine .stranded result candidate merged.symm valid escape _ ?_
      rw [asked, answer, recorded]

theorem armRetry_answered (context : RequestContext) {failure : ProviderFailure}
    {left : Episode} (limited : failure.http_status = some 429)
    (kind : failure.kind ≠ .budgetExceeded) (ended : left.terminal = true)
    (recorded : left.standing =
      ep.standing.failed cfg context.role context.pending_escalation context.bound failure) :
    Answered cfg context.role context.pending_escalation context.bound ep.standing
      (.failure failure)
      (.ok () (record cfg context.toStepContext (armRetry cfg failure left))) := by
  have counted : left.provider_retries = ep.provider_retries :=
    congrArg Standing.provider_retries recorded
  have attempted : left.attempts = ep.attempts := congrArg Standing.attempts recorded
  have decided : left.decisions = ep.decisions := congrArg Standing.decisions recorded
  by_cases room : left.provider_retries < cfg.bounds.rate_limit_retries ∧
      left.attempts < cfg.bounds.max_steps ∧ left.decisions < cfg.bounds.max_decisions ∧
      left.cost_usd < cfg.bounds.max_cost_usd ∧ retryWait failure left ≤ 60
  · rw [armRetry, if_pos room]
    refine .armed failure limited kind _ (retryWait failure left) ?_ room.2.2.2.2
      (counted.symm.trans_lt room.1) (attempted.symm.trans_lt room.2.1)
      (decided.symm.trans_lt room.2.2.1) ?_
    · rw [retryWait, counted]
      rfl
    · rw [standing_record, ← recorded]
      rfl
  · rw [armRetry, if_neg room]
    exact .broken failure kind (.inl limited) _ ended recorded

theorem handleFailure_answered (context : RequestContext) (failure : ProviderFailure) :
    Answered cfg context.role context.pending_escalation context.bound ep.standing
      (.failure failure) (handleFailure cfg context failure ep) := by
  have recorded := standing_recordFailedRequest cfg ep context failure
  have ended : (recordFailedRequest cfg context failure ep).terminal = true := rfl
  unfold handleFailure
  dsimp only
  generalize recordFailedRequest cfg context failure ep = left at recorded ended
  split
  next cancelled => exact .cancelled failure cancelled left recorded
  next refused =>
    have attempted : left.attempts = ep.standing.attempts := congrArg Standing.attempts recorded
    refine .refused failure refused _ ended ?_
    rw [← attempted, ← recorded]
    rfl
  next uncancelled unrefused =>
    split_ifs with limited invalid
    · exact armRetry_answered context limited unrefused ended recorded
    · refine .invalid failure invalid limited _ ?_
      rw [standing_record, standing_capInvalid, standing_capSteps, standing_countInvalid,
        standing_resume, recorded]
    · exact .broken failure unrefused (.inr invalid) left ended recorded

/-- The standing of a request is that of its attempt. -/
theorem sendRequest_answered (context : RequestContext) (query : Query)
    (action : Action) (seed : ℤ) :
    ∃ request answer, request = outgoing cfg query (beginRequest action query.role seed ep) ∧
      cfg.provider.generate ep.requests request = answer ∧
      Answered cfg context.role context.pending_escalation context.bound
        (ep.standing.called action request answer) answer
        (sendRequest cfg context query (beginRequest action query.role seed ep)) := by
  have asked : cfg.provider.generate ep.requests
      (outgoing cfg query (beginRequest action query.role seed ep)) =
        answerRequest cfg query (beginRequest action query.role seed ep) := by
    rw [answerRequest, beginRequest_requests]
  refine ⟨_, _, rfl, asked, ?_⟩
  rw [← standing_beginRequest ep action query.role seed]
  show Answered cfg _ _ _ (noteRequest cfg query (beginRequest action query.role seed ep)).standing
    _ _
  unfold sendRequest
  cases answer : answerRequest cfg query (beginRequest action query.role seed ep) with
  | result result => exact handleResult_answered context result
  | failure failure => exact handleFailure_answered context failure
  | escaped escape => exact .escaped escape _ rfl

/-- Without an estimate the token bound of a request is zero. -/
theorem preflight_unbounded {query : Query} {ready : Episode}
    (absent : cfg.provider.estimate_token_bound = none)
    (passed : preflight cfg query ep = .passed bound ready) : bound = 0 := by
  have failed {error : PreflightError} (passed : failPreflight ep error = .passed bound ready) :
      False := by
    cases error <;> cases passed
  have checked (passed : checkTokens cfg query ep = .passed bound ready) : bound = 0 := by
    unfold checkTokens at passed
    rw [absent] at passed
    dsimp only at passed
    unfold previewPrompt at passed
    split at passed
    · cases passed
      rfl
    · split at passed
      · exact (failed passed).elim
      · cases passed
        rfl
  unfold preflight at passed
  split at passed
  · exact checked passed
  · split at passed
    · exact (failed passed).elim
    · split_ifs at passed
      exact checked passed

section Decided

variable {before : Episode} {action : Action} {source : String} {state : Observation}

theorem requests_of_decided (decided : ep.standing = before.standing.decided action source state) :
    ep.requests = before.standing.requests := by
  show ep.standing.requests = _
  rw [decided, Standing.requests_decided]

theorem role_of_decided (decided : ep.standing = before.standing.decided action source state) :
    requestedRole action ep = before.standing.roleFor action := by
  have model : ep.current_model = before.current_model := congrArg Standing.current_model decided
  rw [requestedRole, model]
  rfl

theorem escalates_of_decided (decided : ep.standing = before.standing.decided action source state) :
    decide (pendingEscalation action ep) = decide (before.standing.Escalates action) := by
  have attempts : ep.attempts = before.attempts := congrArg Standing.attempts decided
  have model : ep.current_model = before.current_model := congrArg Standing.current_model decided
  apply decide_eq_decide.mpr
  rw [pendingEscalation, attempts, model]
  rfl

/-- A request that has passed its preflight after the decision. -/
theorem issued_of_preflight (decided : ep.standing = before.standing.decided action source state)
    (requests : action.Requests) {query : Query} {request : Request} {answer : GenerateOutcome}
    {bound : ℤ} {ready : Episode} (supplied : query.files = ep.files)
    (asks : query.role = requestedRole action ep) (queries : request.toQuery = query)
    (asked : cfg.provider.generate ep.requests request = answer)
    (preflighted : preflight cfg query ep = .passed bound ready) :
    Issued cfg before.standing action bound request answer := by
  have files : ep.files = before.files := congrArg Standing.files decided
  have earlier := requests_of_decided decided
  have spent : ep.cost_usd = before.standing.cost_usd := congrArg Standing.cost_usd decided
  have used : ep.tokens = before.standing.tokens := congrArg Standing.tokens decided
  have unknown : ep.unknown_token_bound = before.standing.unknown_token_bound :=
    congrArg Standing.unknown_token_bound decided
  have cases_ := preflight_cases cfg query ep
  rw [preflighted] at cases_
  cases cases_ with
  | passed _ _ same affordable bounded =>
    refine ⟨requests, ?_, ?_, ?_, ?_, ?_, fun absent => preflight_unbounded absent preflighted⟩
    · rw [queries, supplied, files]
      rfl
    · rw [queries, asks, role_of_decided decided]
    · rw [← earlier]
      exact asked
    · intro estimate given
      rw [← earlier, queries, Standing.allowance, ← spent]
      exact affordable estimate given
    · intro estimate given
      rw [← earlier, queries, ← used, ← unknown]
      exact bounded estimate given

end Decided

theorem requestStep_exit {context : StepContext} {source : String} {state : Observation}
    {before : Episode} (requests : context.action.Requests)
    (decided : ep.standing = before.standing.decided context.action source state) :
    Exit cfg context.action source state before.standing (requestStep cfg context ep) := by
  have unsent (outcome : Outcome Unit)
      (ended : ∀ after, outcome = .ok () after → after.terminal = true)
      (same : outcome.episode.standing = ep.standing) :
      Exit cfg context.action source state before.standing outcome :=
    .unsent requests outcome ended (same.trans decided)
  unfold requestStep
  split
  · exact unsent _ (fun _ impossible => by cases impossible) rfl
  next fields _ =>
    dsimp only
    generalize built : Query.mk _ _ _ _ = query
    have supplied : query.files = ep.files := by rw [← built]
    have asks : query.role = requestedRole context.action ep := by rw [← built]
    have cases_ := preflight_cases cfg query ep
    cases preflighted : preflight cfg query ep with
    | stopped stopped =>
      rw [preflighted] at cases_
      cases cases_ with
      | exhausted reason event => exact unsent _ (fun _ same => by cases same; rfl) rfl
      | failed message => exact unsent _ (fun _ same => by cases same; rfl) rfl
    | raised escape left =>
      rw [preflighted] at cases_
      cases cases_
      exact unsent _ (fun _ impossible => by cases impossible) rfl
    | passed bound ready =>
      rw [preflighted] at cases_
      cases cases_ with
      | passed _ _ same _ _ =>
        have kept : ready.standing = ep.standing := by
          rcases same with rfl | ⟨event, rfl⟩
          · rfl
          · exact standing_emit ep event
        have history : ready.requests = ep.requests :=
          congrArg Standing.requests kept
        rcases @sendRequest_answered cfg ready (requestContext context bound ep) query
          context.action cfg.seed with ⟨request, answer, outgoing, asked, answered⟩
        rw [kept, decided] at answered
        rw [history] at asked
        have queries : request.toQuery = query := by rw [outgoing]; rfl
        refine .sent bound request answer
          (issued_of_preflight decided requests supplied asks queries asked preflighted) _ ?_
        rw [← role_of_decided decided, ← escalates_of_decided decided]
        exact answered

theorem act_exit {context : StepContext} {source : String} {state : Observation}
    {before : Episode} (unverified : context.action ≠ .verify)
    (decided : ep.standing = before.standing.decided context.action source state) :
    Exit cfg context.action source state before.standing (act cfg context ep) := by
  unfold act
  split
  next stops =>
    refine .stopped stops _ ?_ ?_
    · show (endBudget cfg (stopStep ep)).terminal = true
      rw [endBudget, if_neg (fun open_ => open_.1 rfl)]
      rfl
    · rw [standing_close, standing_stopStep, decided]
  next rolls =>
    refine .restored rolls _ ?_
    rw [standing_close, standing_rollbackStep, decided]
  next acts keeps => exact requestStep_exit ⟨acts, keeps, unverified⟩ decided

/-- A legal action of a started episode, other than a verification. -/
theorem startedStep_exit {action : Action} (source : String) (runs : ep.terminal = false)
    (legal : action ∈ ep.legal_actions cfg (ep.observation cfg)) (unverified : action ≠ .verify) :
    Exit cfg action source (ep.observation cfg) ep.standing (startedStep cfg action source ep) := by
  unfold startedStep
  rw [if_neg (Bool.eq_false_iff.mp runs), if_neg (not_not.mpr legal)]
  exact @act_exit cfg _ ⟨action, ep.observation cfg, ep.cost_usd, ep.publicResult.passed⟩ source _
    ep unverified (standing_recordDecision cfg ep action source)

end Exits

/-! ## Whole steps -/

/-- What a step can do once the episode is started. -/
inductive Acted (cfg : Config) (action : Action) (source : String) (s : Standing) :
    Outcome Unit → Prop where
  /-- The episode is over, or the action is not legal. -/
  | kept (outcome : Outcome Unit) (ended : ∀ after, outcome = .ok () after → after.terminal = true)
      (same : outcome.episode.standing = s) : Acted cfg action source s outcome
  | exit (state : Observation) (outcome : Outcome Unit)
      (exits : Exit cfg action source state s outcome) : Acted cfg action source s outcome
  | verified (verifies : action = .verify) (state : Observation) (answer : EvalOutcome)
      (outcome : Outcome Unit)
      (same : outcome.episode.standing =
        (s.decided .verify source state).note (.evaluation ⟨.supplemental, s.files⟩ answer)) :
      Acted cfg action source s outcome

/-- What the start can do. -/
inductive Opening (cfg : Config) (s : Standing) : Outcome Unit → Prop where
  | again (outcome : Outcome Unit) (same : outcome.episode.standing = s) : Opening cfg s outcome
  | unopened (fresh : s.started = false) (escape : Escape) (left : Episode)
      (same : left.standing = s.opened (.raised escape)) : Opening cfg s (.raised escape left)
  | opened (fresh : s.started = false) (result : EvalResult) (after : Episode)
      (same : after.standing = (s.opened (.result result)).baseline result) :
      Opening cfg s (.ok () after)

/-- What one piece of a run can do: the start, the rest of a step, or a wait. -/
inductive Moved (cfg : Config) (s : Standing) : Outcome Unit → Prop where
  | start (outcome : Outcome Unit) (opening : Opening cfg s outcome) : Moved cfg s outcome
  | waited (pending : Option ℚ) (provider_retries : ℕ) (outcome : Outcome Unit)
      (same : outcome.episode.standing =
        { s with
          pending := pending
          provider_retries := provider_retries }) : Moved cfg s outcome
  | acted (begun : s.started = true) (action : Action) (source : String) (outcome : Outcome Unit)
      (acts : Acted cfg action source s outcome) : Moved cfg s outcome

/-- The pieces of a run in their order; an exception can leave the last one
only. -/
inductive Passage (cfg : Config) (s : Standing) : Outcome Unit → Prop where
  | last {outcome : Outcome Unit} (moved : Moved cfg s outcome) : Passage cfg s outcome
  | step {between : Episode} {outcome : Outcome Unit} (passage : Passage cfg s (.ok () between))
      (moved : Moved cfg between.standing outcome) : Passage cfg s outcome

section Steps

variable {cfg : Config} {ep : Episode}

theorem start_opening : Opening cfg ep.standing (ep.start cfg) := by
  unfold start
  by_cases started : ep.started_flag = true
  · rw [if_pos started]
    exact .again _ rfl
  · rw [if_neg started]
    have fresh : ep.standing.started = false := Bool.not_eq_true _ ▸ started
    have asked : (askCheck cfg false (beginStart cfg ep)).standing =
        ep.standing.opened (checkAnswer cfg false (beginStart cfg ep)) := rfl
    cases answer : checkAnswer cfg false (beginStart cfg ep) with
    | result result =>
      rw [answer] at asked
      rw [check_of_result answer]
      have measured : (assignBaseline result ((askCheck cfg false (beginStart cfg ep)).emit
          (checkEvent false result))).standing =
            (askCheck cfg false (beginStart cfg ep)).standing.baseline result := rfl
      refine .opened fresh result _ ?_
      rw [← asked, ← measured]
      unfold stopIfGreen
      split_ifs <;> rfl
    | raised escape =>
      rw [answer] at asked
      rw [check_of_raised answer]
      exact .unopened fresh escape _ asked

theorem started_of_start {begun : Episode} (returned : ep.start cfg = .ok () begun) :
    begun.started_flag = true := by
  unfold start at returned
  split_ifs at returned with started
  · cases returned
    exact started
  · cases answer : checkAnswer cfg false (beginStart cfg ep) with
    | result result =>
      rw [check_of_result answer] at returned
      cases returned
      unfold stopIfGreen
      split_ifs <;> rfl
    | raised escape =>
      rw [check_of_raised answer] at returned
      cases returned

theorem startedStep_acted (action : Action) (source : String)
    (repairs : action ≠ .verify ∨ cfg.harness = .repo) :
    Acted cfg action source ep.standing (startedStep cfg action source ep) := by
  by_cases ended : ep.terminal = true
  · rw [startedStep, if_pos ended]
    exact .kept _ (fun _ same => by cases same; exact ended) rfl
  · by_cases legal : action ∈ ep.legal_actions cfg (ep.observation cfg)
    · have unverified : action ≠ .verify := by
        rintro rfl
        have plain := repairs.resolve_left (fun differs => differs rfl)
        rw [legal_actions, plain] at legal
        exact Router.verify_not_allowed _ legal
      exact .exit _ _ (startedStep_exit source (Bool.not_eq_true _ ▸ ended) legal unverified)
    · rw [startedStep, if_neg ended, if_pos legal]
      exact .kept _ (fun _ impossible => by cases impossible) rfl

theorem verify_acted (source : String) :
    Acted cfg .verify source ep.standing (VerificationEpisode.verify cfg source ep) := by
  have asked : (VerificationEpisode.askVerification cfg source ep).standing =
      (ep.standing.decided .verify source (ep.observation cfg)).note
        (.evaluation ⟨.supplemental, ep.files⟩ (VerificationEpisode.verifyAnswer cfg ep)) := rfl
  have labelled (result : EvalResult) (ep : Episode) :
      (VerificationEpisode.labelVerification result ep).standing = ep.standing := by
    unfold VerificationEpisode.labelVerification
    split_ifs
    · exact standing_record_failure ep _
    · rfl
  have capped (ep : Episode) :
      (VerificationEpisode.capDecisions cfg ep).standing = ep.standing := by
    unfold VerificationEpisode.capDecisions
    split_ifs <;> rfl
  have reported (escape : Escape) (files_sha256 : Text) (ep : Episode) :
      (VerificationEpisode.reportUnavailable escape files_sha256 ep).standing = ep.standing := by
    rcases VerificationEpisode.reportUnavailable_eq escape files_sha256 ep with ⟨events, same⟩
    rw [same]
    rfl
  have accepted (state : Observation) (files_sha256 : Text) (result : EvalResult) (ep : Episode) :
      (VerificationEpisode.acceptVerification cfg state files_sha256 result ep).standing =
        ep.standing := by
    show (VerificationEpisode.capDecisions cfg _).standing = _
    rw [capped, standing_emit, labelled]
    rfl
  refine .verified rfl _ _ _ (Eq.trans ?_ asked)
  unfold VerificationEpisode.verify
  split
  · exact reported _ _ _
  · split_ifs
    · rfl
    · exact accepted _ _ _ _

/-- A step of any of the four classes starts the episode and then acts, or is
refused at once. -/
theorem step_through (action : Action) (source : String) {holds : Outcome Unit → Prop}
    (refused : ∀ escape, holds (.raised escape ep))
    (through : ∀ (twin : Episode) (next : Unit → Episode → Outcome Unit),
      twin.standing = ep.standing →
      (∀ begun, Acted cfg action source begun.standing (next () begun)) →
      holds ((twin.start cfg).andThen next)) : holds (step cfg action source ep) := by
  have repaired (twin : Episode) (same : twin.standing = ep.standing)
      (repairs : action ≠ .verify ∨ cfg.harness = .repo) :
      holds (RepoEpisode.step cfg action source twin) :=
    through twin _ same fun begun => startedStep_acted action source repairs
  have verified (twin : Episode) (same : twin.standing = ep.standing) :
      holds (VerificationEpisode.step cfg action source twin) := by
    unfold VerificationEpisode.step
    by_cases repairs : action ≠ .verify
    · rw [if_pos repairs]
      exact repaired twin same (.inl repairs)
    · rw [if_neg repairs]
      cases not_not.mp repairs
      apply through twin _ same
      intro begun
      split_ifs with ended
      · exact .kept _ (fun _ same => by cases same; exact ended) rfl
      · exact verify_acted source
      · exact .kept _ (fun _ impossible => by cases impossible) rfl
  have piloted : holds (PilotEpisode.step cfg action source ep) :=
    verified (PilotEpisode.countLearned source ep) rfl
  unfold step
  split
  next plain => exact repaired ep rfl (.inr plain)
  · exact verified ep rfl
  · exact piloted
  · unfold AblationEpisode.step
    split_ifs
    · exact refused _
    · exact piloted

theorem step_passage (action : Action) (source : String) :
    Passage cfg ep.standing (step cfg action source ep) := by
  apply step_through action source
  · exact fun escape => .last (.start _ (.again _ rfl))
  · intro twin next same acts
    rw [← same]
    have opening := @start_opening cfg twin
    cases returned : twin.start cfg with
    | ok value begun =>
      rw [returned] at opening
      exact .step (.last (.start _ opening))
        (.acted (started_of_start returned) action source _ (acts begun))
    | raised escape left =>
      rw [returned] at opening
      exact .last (.start _ opening)

/-- A step of a started episode only acts. -/
theorem step_acted (action : Action) (source : String) (started : ep.started_flag = true) :
    Acted cfg action source ep.standing (step cfg action source ep) := by
  apply step_through action source
  · exact fun escape => .kept _ (fun _ impossible => by cases impossible) rfl
  · intro twin next same acts
    have begun : twin.started_flag = true := (congrArg Standing.started same).trans started
    rw [start_of_started cfg twin begun, ← same]
    exact acts twin

theorem stopIfGreen_countLearned (source : String) :
    stopIfGreen cfg (PilotEpisode.countLearned source ep) =
      PilotEpisode.countLearned source (stopIfGreen cfg ep) := by
  unfold stopIfGreen
  by_cases green : ¬ ep.had_visible_failure ∧ stop_after_visible_success cfg
  · rw [if_pos green]
    exact if_pos green
  · rw [if_neg green]
    exact if_neg green

theorem start_countLearned (source : String) :
    (PilotEpisode.countLearned source ep).start cfg =
      (ep.start cfg).mapEpisode (PilotEpisode.countLearned source) := by
  have begun : beginStart cfg (PilotEpisode.countLearned source ep) =
      PilotEpisode.countLearned source (beginStart cfg ep) := rfl
  have asks (ep : Episode) : askCheck cfg false (PilotEpisode.countLearned source ep) =
      PilotEpisode.countLearned source (askCheck cfg false ep) := rfl
  have asked : askCheck cfg false (beginStart cfg (PilotEpisode.countLearned source ep)) =
      PilotEpisode.countLearned source (askCheck cfg false (beginStart cfg ep)) := by
    rw [begun, asks]
  have emitted (ep : Episode) (event : Event) :
      (PilotEpisode.countLearned source ep).emit event =
        PilotEpisode.countLearned source (ep.emit event) := rfl
  have assigned (ep : Episode) (result : EvalResult) :
      assignBaseline result (PilotEpisode.countLearned source ep) =
        PilotEpisode.countLearned source (assignBaseline result ep) := rfl
  unfold start
  by_cases started : ep.started_flag = true
  · rw [if_pos started]
    exact if_pos started
  · rw [if_neg started]
    refine (if_neg started).trans ?_
    have same : checkAnswer cfg false (beginStart cfg (PilotEpisode.countLearned source ep)) =
        checkAnswer cfg false (beginStart cfg ep) := rfl
    cases answer : checkAnswer cfg false (beginStart cfg ep) with
    | result result =>
      rw [check_of_result answer, check_of_result (same.trans answer), asked, emitted]
      simp only [Outcome.andThen, Outcome.mapEpisode, assigned, stopIfGreen_countLearned]
    | raised escape =>
      rw [check_of_raised answer, check_of_raised (same.trans answer), asked]
      rfl

/-- A step that does not verify, once the episode is started; the pilot classes
have counted a learned decision before. -/
theorem step_of_start {begun : Episode} {action : Action} (source : String)
    (returned : ep.start cfg = .ok () begun) (unverified : action ≠ .verify) :
    ∃ twin, twin.progress = begun.progress ∧ twin.standing = begun.standing ∧
      step cfg action source ep = startedStep cfg action source twin := by
  have plain (ep begun : Episode) (returned : ep.start cfg = .ok () begun) :
      RepoEpisode.step cfg action source ep = startedStep cfg action source begun := by
    rw [RepoEpisode.step, returned]
    rfl
  have repaired (ep : Episode) : VerificationEpisode.step cfg action source ep =
      RepoEpisode.step cfg action source ep := by
    rw [VerificationEpisode.step, if_pos unverified]
  have piloted : PilotEpisode.step cfg action source ep =
      startedStep cfg action source (PilotEpisode.countLearned source begun) := by
    rw [PilotEpisode.step, repaired]
    apply plain
    rw [start_countLearned, returned]
    rfl
  unfold step
  split
  · exact ⟨begun, rfl, rfl, plain ep begun returned⟩
  · exact ⟨begun, rfl, rfl, (repaired ep).trans (plain ep begun returned)⟩
  · exact ⟨PilotEpisode.countLearned source begun, rfl, rfl, piloted⟩
  · rw [AblationEpisode.step, if_neg (fun disabled => unverified disabled.2)]
    exact ⟨PilotEpisode.countLearned source begun, rfl, rfl, piloted⟩

/-- A legal action of any of the four classes, other than a verification. -/
theorem step_exit {begun : Episode} {action : Action} (source : String)
    (returned : ep.start cfg = .ok () begun) (runs : begun.terminal = false)
    (legal : action ∈ begun.legal_actions cfg (begun.observation cfg))
    (unverified : action ≠ .verify) :
    Exit cfg action source (begun.observation cfg) begun.standing (step cfg action source ep) := by
  rcases step_of_start source returned unverified with ⟨twin, progress, standing, same⟩
  have legal_ : action ∈ twin.legal_actions cfg (twin.observation cfg) := by
    rw [← legal_actions_progress, progress, legal_actions_progress]
    exact legal
  have observed : twin.observation cfg = begun.observation cfg := by
    rw [← observation_progress, progress, observation_progress]
  rw [same, ← standing, ← observed]
  exact startedStep_exit source ((congrArg Progress.terminal progress).trans runs) legal_ unverified

theorem standing_conclude : (conclude cfg ep).standing = ep.standing := by
  unfold conclude describeEdits
  split_ifs <;> rfl

/-- Grading adds at most a check of the hidden cases to the log. -/
theorem standing_finish : (ep.finish cfg).episode.standing = ep.standing ∨
    ∃ answer, (ep.finish cfg).episode.standing =
      ep.standing.note (.evaluation ⟨.hidden, ep.files⟩ answer) := by
  have asked : (askCheck cfg true (endDecisions ep)).standing =
      ep.standing.note (.evaluation ⟨.hidden, ep.files⟩
        (checkAnswer cfg true (endDecisions ep))) := rfl
  have labelled (result : EvalResult) (ep : Episode) :
      (labelGrading result ep).standing = ep.standing := by
    unfold labelGrading
    split_ifs
    · exact standing_record_failure ep _
    · rfl
  have ways := finish_outcome cfg ep
  generalize ep.finish cfg = outcome at ways ⊢
  cases ways with
  | again => exact .inl rfl
  | idle => exact .inl standing_conclude
  | graded result =>
    exact .inr ⟨_, standing_conclude.trans ((labelled result _).trans asked)⟩
  | unavailable message => exact .inr ⟨_, standing_conclude.trans asked⟩
  | raised escape => exact .inr ⟨_, asked⟩

/-- A wait that is cancelled ends the episode where it stands, and without
grading it. -/
theorem finish_cancelWait (delay : ℚ) : ∃ result done,
    finish cfg (cancelWait (beginWait delay ep)) = .ok result done ∧ done.finished = true ∧
      done.hidden = ep.hidden ∧ done.standing = { ep.standing with pending := none } := by
  by_cases finished : (cancelWait (beginWait delay ep)).finished = true
  · exact ⟨_, _, finish_of_finished finished, finished, rfl, rfl⟩
  · refine ⟨_, _, finish_of_not_running finished (fun impossible => by cases impossible), ?_⟩
    exact ⟨rfl, rfl, standing_conclude⟩

end Steps

/-! ## What every reachable state keeps -/

/-- What a method leaves: the first property when it returns, the second when
an exception leaves it. -/
def Leaves (holds loose : Standing → Prop) (outcome : Outcome Unit) : Prop :=
  match outcome with
  | .ok _ after => holds after.standing
  | .raised _ left => loose left.standing

/-- Two properties that the pieces of a run keep: one of the states from which
a run goes on, and a weaker one of those in which it has been left. -/
structure Books (cfg : Config) (holds loose : Standing → Prop) : Prop where
  initial : holds (initial cfg).standing
  moved {s : Standing} {outcome : Outcome Unit} : holds s → Moved cfg s outcome →
    Leaves holds loose outcome
  weaken {s : Standing} : holds s → loose s
  recounted {s : Standing} (provider_retries : ℕ) : loose s →
    loose { s with provider_retries := provider_retries }
  graded {s : Standing} (answer : EvalOutcome) : loose s →
    loose (s.note (.evaluation ⟨.hidden, s.files⟩ answer))

section Books

variable {cfg : Config} {holds loose : Standing → Prop} {ep : Episode}

theorem Books.passage (books : Books cfg holds loose) {s : Standing} {outcome : Outcome Unit}
    (start : holds s) (passage : Passage cfg s outcome) : Leaves holds loose outcome := by
  induction passage with
  | last moved => exact books.moved start moved
  | step _ moved ih => exact books.moved ih moved

theorem Books.backoff (books : Books cfg holds loose) (delay : ℚ) (start : holds ep.standing) :
    Leaves holds loose (backoff cfg delay ep) := by
  have waited (provider_retries : ℕ) (outcome : Outcome Unit)
      (same : outcome.episode.standing =
        { ep.standing with
          pending := none
          provider_retries := provider_retries }) : Leaves holds loose outcome :=
    books.moved start (.waited none provider_retries outcome same)
  unfold Episode.backoff
  split_ifs
  · rcases @finish_cancelWait cfg ep delay with ⟨result, done, finished, _, _, standing⟩
    rw [finished]
    exact waited ep.provider_retries (.raised .cancelled done) standing
  · have counted : holds (countProviderRetry (beginWait delay ep)).standing :=
      waited (ep.provider_retries + 1) (.ok () (countProviderRetry (beginWait delay ep))) rfl
    have stepped := books.passage counted
      (@step_passage cfg (countProviderRetry (beginWait delay ep)) .repair "provider_retry")
    have undone (previous : ℕ) (ep : Episode) :
        (undoProviderRetry previous ep).standing =
          { ep.standing with
            provider_retries := (undoProviderRetry previous ep).provider_retries } := by
      unfold undoProviderRetry
      split_ifs <;> rfl
    unfold retryStep
    cases outcome : step cfg .repair "provider_retry" (countProviderRetry (beginWait delay ep)) with
    | ok value after =>
      rw [outcome] at stepped
      exact books.moved stepped (.waited after.pending_provider_delay _
        (.ok () (undoProviderRetry (beginWait delay ep).attempts after)) (undone _ after))
    | raised escape left =>
      rw [outcome] at stepped
      show loose (undoProviderRetry _ left).standing
      rw [undone]
      exact books.recounted _ stepped

theorem Books.drives (books : Books cfg holds loose) {outcome : Outcome Unit}
    (drives : Drives cfg ep outcome) (start : holds ep.standing) : Leaves holds loose outcome := by
  cases drives with
  | start => exact books.moved start (.start _ start_opening)
  | step action source => exact books.passage start (step_passage action source)
  | retry delay pending => exact books.backoff delay start

theorem Running.books (running : Running cfg ep) (books : Books cfg holds loose) :
    holds ep.standing := by
  induction running with
  | initial => exact books.initial
  | next _ drives ih => exact books.drives drives ih

theorem Reachable.books (reachable : Reachable cfg ep) (books : Books cfg holds loose) :
    loose ep.standing := by
  induction reachable with
  | running running => exact books.weaken (running.books books)
  | left running drives => exact books.drives drives (running.books books)
  | failed _ message ih => exact ih
  | @finished ep _ ih =>
    rcases @standing_finish cfg ep with same | ⟨answer, same⟩
    · rw [same]
      exact ih
    · rw [same]
      exact books.graded answer ih

end Books

end Episode

end ForgeRL
