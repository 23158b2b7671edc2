import ForgeRL.Bench.Progress
import ForgeRL.Bench.Caps

namespace ForgeRL

open Library

/-!
# Steps and runs as progress

Each method of the engine is read once as a change of the progress, with all
its exits.  What these changes keep holds in every state that a run reaches,
and between the rounds of its loop.
-/

namespace Episode

/-! ## The effect of a legal action -/

/-- Everything that the effect of a legal action can do. -/
def Advances (cfg : Config) (source : String) (before : Progress) (action : Action)
    (outcome : Outcome Unit) : Prop :=
  match outcome with
  | .ok _ after =>
    (∃ effect, Progress.Effect cfg source before action effect ∧
      after.progress = Progress.recorded cfg action before effect) ∨
      Progress.Halted cfg source before action after.progress
  | .raised escape after => Progress.Raised cfg source before action escape after.progress

/-- Everything that a step of a started episode can do. -/
inductive Stepped (cfg : Config) (action : Action) (source : String) (p : Progress) :
    Outcome Unit → Prop where
  | idle (ended : p.terminal = true) (after : Episode) (same : after.progress = p) :
      Stepped cfg action source p (.ok () after)
  | illegal (refused : action ∉ p.legal_actions cfg) (escape : Escape) (left : Episode)
      (same : left.progress = p) : Stepped cfg action source p (.raised escape left)
  | advanced (runs : p.terminal = false) (legal : action ∈ p.legal_actions cfg)
      (outcome : Outcome Unit) (advances : Advances cfg source p action outcome) :
      Stepped cfg action source p outcome

section Steps

variable {cfg : Config} {source : String} {before ep : Episode}

theorem close_advances {context : StepContext} (remembers : Remembers cfg context before)
    (effect : ∀ terminal, Progress.Effect cfg source before.progress context.action
      (ep.progress.flagged terminal)) :
    Advances cfg source before.progress context.action (.ok () (close cfg context ep)) := by
  rcases progress_endBudget cfg ep with ⟨terminal, same⟩
  refine .inl ⟨_, effect terminal, ?_⟩
  rw [close, progress_record cfg _ remembers, same]

/-- The answer to the request of a step that began before. -/
structure Sent (cfg : Config) (source : String) (before : Episode) (context : StepContext)
    (request : Request) (outcome : GenerateOutcome) (ep : Episode) : Prop where
  remembers : Remembers cfg context before
  requests : context.action.Requests
  progress : ep.progress = before.progress.answered cfg context.action source request outcome

theorem handleResult_advances {context : RequestContext} {request : Request}
    {generated : RepoResult}
    (sent : Sent cfg source before context.toStepContext request (.result generated) ep) :
    Advances cfg source before.progress context.action
      (handleResult cfg context generated ep) := by
  have recorded := progress_recordResult cfg ep context generated
  rw [sent.progress] at recorded
  unfold handleResult
  dsimp only
  generalize recordResult cfg context generated ep = left at recorded
  split
  next error _ =>
    apply close_advances sent.remembers
    intro terminal
    rcases progress_capInvalid ((countInvalid left).emit (.rejected error generated.files)) with
      ⟨capped, same⟩
    have dismissed : (rejectCandidate error generated.files left).progress.flagged terminal =
        left.progress.dismissed left.status terminal := by
      rw [rejectCandidate, same, progress_emit, progress_countInvalid]
      rfl
    have runs : left.status = before.progress.status := congrArg Progress.status recorded
    rw [dismissed, recorded]
    exact .dismissed sent.requests request (.result generated) generated.cost_usd context.role
      left.status (.inl runs) terminal
  next escape escaped =>
    show Progress.Raised _ _ _ _ _ left.progress
    rw [recorded]
    exact .unscreened sent.requests request generated context.role escape
      (.validate_files _ (RepoSandbox.validate_files_of_escaped escaped))
  next valid =>
    generalize Dict.merge left.files generated.files = candidate at valid
    have applied := progress_applyCandidate cfg left candidate
    have files : (applyCandidate cfg candidate left).files = candidate :=
      congrArg Progress.files applied
    have asked : (askCheck cfg false (applyCandidate cfg candidate left)).progress =
        left.progress.applied candidate
          (checkAnswer cfg false (applyCandidate cfg candidate left)) := by
      rw [progress_askCheck, applied, files]
      rfl
    unfold acceptCandidate
    cases answer : checkAnswer cfg false (applyCandidate cfg candidate left) with
    | result result =>
      rw [check_of_result answer]
      apply close_advances sent.remembers
      intro terminal
      rcases progress_measureCandidate cfg
        ((askCheck cfg false (applyCandidate cfg candidate left)).emit (checkEvent false result))
        context left.publicResult.cases result with ⟨stopped, same⟩
      have answered : cfg.evaluator (applyCandidate cfg candidate left).evaluations
          ⟨.visible, candidate⟩ = .result result := by
        rw [← answer, checkAnswer, checkCall, files]
        rfl
      rw [same, progress_emit, asked, answer, recorded, sent.remembers.prior_passed]
      exact .measured sent.requests request generated context.role candidate result valid
        ⟨_, answered⟩ terminal
    | raised escape =>
      rw [check_of_raised answer]
      show Progress.Raised _ _ _ _ _ (askCheck cfg false (applyCandidate cfg candidate left)).progress
      rw [asked, answer, recorded]
      exact .stranded sent.requests request generated context.role candidate valid escape
        (.evaluator _ _ answer)

theorem armRetry_advances {context : RequestContext} {request : Request}
    {failed : ProviderFailure} {left : Episode} {role : Role} {status : Status}
    (remembers : Remembers cfg context.toStepContext before)
    (requests : context.action.Requests) (broken : status.Broken)
    (recorded : left.progress = (((before.progress.answered cfg context.action source request
      (.failure failed)).charged cfg failed.cost_usd role).ended status)) :
    Advances cfg source before.progress context.action
      (.ok () (record cfg context.toStepContext (armRetry cfg failed left))) := by
  refine .inl ⟨_, ?_, progress_record cfg _ remembers⟩
  unfold armRetry
  split_ifs with room
  · have armed : ({ resume left with
        pending_provider_delay := some (retryWait failed left)
        improvement := 0 } : Episode).progress =
          left.progress.armed (retryWait failed left) := rfl
    have affords : Progress.Affords cfg.bounds left.progress :=
      ⟨room.2.1, room.2.2.1, room.2.2.2.1⟩
    rw [recorded] at affords
    rw [armed, recorded]
    exact .armed requests request failed role _
      ⟨affords.attempts, affords.decisions, affords.cost_usd⟩
  · rw [recorded]
    exact .limited requests request failed role status broken

theorem handleFailure_advances {context : RequestContext} {request : Request}
    {failed : ProviderFailure}
    (sent : Sent cfg source before context.toStepContext request (.failure failed) ep) :
    Advances cfg source before.progress context.action
      (handleFailure cfg context failed ep) := by
  rcases progress_recordFailedRequest cfg ep context failed with ⟨role, recorded⟩
  rw [sent.progress] at recorded
  have broken := failedStatus_broken failed.kind
  unfold handleFailure
  dsimp only
  generalize recordFailedRequest cfg context failed ep = left at recorded
  split
  next cancelled =>
    rw [cancelled] at recorded
    show Progress.Raised _ _ _ _ _ left.progress
    rw [recorded]
    exact .cancelled sent.requests request failed role
  next refused =>
    right
    show Progress.Halted _ _ _ _ { left.progress with attempts := left.progress.attempts - 1 }
    rw [recorded]
    exact .failed sent.requests request failed role _ broken _ (.inr rfl)
  · split_ifs
    · exact armRetry_advances sent.remembers sent.requests broken recorded
    · refine .inl ⟨_, ?_, progress_record cfg _ sent.remembers⟩
      rcases progress_capInvalid (capSteps cfg (countInvalid (resume left))) with ⟨last, capped⟩
      rcases progress_capSteps cfg (countInvalid (resume left)) with ⟨spent, same⟩
      have dismissed : (capInvalid (capSteps cfg (countInvalid (resume left)))).progress =
          left.progress.dismissed .running last := by
        rw [capped, same, progress_countInvalid]
        rfl
      rw [dismissed, recorded]
      exact .dismissed sent.requests request _ _ role _ (.inr rfl) last
    · right
      show Progress.Halted _ _ _ _ left.progress
      rw [recorded]
      exact .failed sent.requests request failed role _ broken _ (.inl rfl)

theorem sendRequest_advances {context : RequestContext} (query : Query)
    (remembers : Remembers cfg context.toStepContext before)
    (requests : context.action.Requests)
    (decided : ep.progress = before.progress.decided cfg context.action source) :
    Advances cfg source before.progress context.action
      (sendRequest cfg context query (beginRequest context.action query.role cfg.seed ep)) := by
  generalize begun : beginRequest context.action query.role cfg.seed ep = first
  have noted : (noteRequest cfg query first).progress =
      before.progress.answered cfg context.action source (outgoing cfg query first)
        (answerRequest cfg query first) := by
    rw [noteRequest, ← begun, progress_beginRequest, decided]
    rfl
  unfold sendRequest
  split
  next generated answer =>
    rw [answer] at noted
    exact handleResult_advances ⟨remembers, requests, noted⟩
  next failed answer =>
    rw [answer] at noted
    exact handleFailure_advances ⟨remembers, requests, noted⟩
  next escape answer =>
    rw [answer] at noted
    show Progress.Raised _ _ _ _ _ (noteRequest cfg query first).progress
    rw [noted]
    exact .escaped requests _ escape (.generate _ _ answer)

/-- An exception of the preflight is one of the provider. -/
theorem preflight_raised {query : Query} {escape : Escape} {left : Episode}
    (raised : preflight cfg query ep = .raised escape left) : Outside cfg escape := by
  have failed {error : PreflightError} (raised : failPreflight ep error = .raised escape left) :
      error = .other escape := by
    cases error with
    | providerError message => cases raised
    | other cause =>
      cases raised
      rfl
  have previewed {bound : ℤ} (raised : previewPrompt cfg query bound ep = .raised escape left) :
      Outside cfg escape := by
    unfold previewPrompt at raised
    split at raised
    · cases raised
    next build given =>
      split at raised
      next answer => exact .build_messages build given _ query (failed raised ▸ answer)
      · cases raised
  have checked (raised : checkTokens cfg query ep = .raised escape left) : Outside cfg escape := by
    unfold checkTokens at raised
    split at raised
    · exact previewed raised
    next estimate given =>
      split at raised
      next answer => exact .estimate_token_bound estimate given _ query (failed raised ▸ answer)
      · split_ifs at raised
        exact previewed raised
  unfold preflight at raised
  split at raised
  · exact checked raised
  next estimate given =>
    split at raised
    next answer => exact .estimate_reservation_usd estimate given _ query (failed raised ▸ answer)
    · split_ifs at raised
      exact checked raised

/-- Feedback fails in the encoder only. -/
theorem feedback_raised {action : Action} {escape : Escape}
    (raised : ep.feedback cfg action = .error escape) : Outside cfg escape := by
  have plain {ep : Episode} (raised : RepoEpisode.feedback cfg ep action = .error escape) :
      Outside cfg escape := by
    unfold RepoEpisode.feedback at raised
    split at raised
    next bounded =>
      cases raised
      exact .feedback _ bounded
    · cases raised
  have verified (raised : VerificationEpisode.feedback cfg ep action = .error escape) :
      Outside cfg escape := by
    unfold VerificationEpisode.feedback at raised
    split at raised
    next inherited =>
      cases raised
      exact plain inherited
    · split at raised
      · cases raised
      · split at raised
        next bounded =>
          cases raised
          exact .feedback _ bounded
        · cases raised
  unfold feedback at raised
  split at raised
  · exact plain raised
  · exact verified raised

theorem requestStep_advances {context : StepContext} (remembers : Remembers cfg context before)
    (requests : context.action.Requests)
    (decided : ep.progress = before.progress.decided cfg context.action source) :
    Advances cfg source before.progress context.action (requestStep cfg context ep) := by
  unfold requestStep
  split
  next escape raised =>
    show Progress.Raised _ _ _ _ _ ep.progress
    rw [decided]
    exact .unsent requests escape (feedback_raised raised)
  next fields _ =>
    dsimp only
    generalize Query.mk _ _ _ _ = query
    have halted (status : Status) (broken : status.Broken) : Progress.Halted cfg source
        before.progress context.action (ep.progress.ended status) := by
      rw [decided]
      exact .unsent requests status broken
    have cases_ := preflight_cases cfg query ep
    cases outcome : preflight cfg query ep with
    | stopped stopped =>
      rw [outcome] at cases_
      cases cases_ with
      | exhausted reason event =>
        exact .inr (halted .budget_exhausted ⟨by decide, by decide⟩)
      | failed message => exact .inr (halted .failed ⟨by decide, by decide⟩)
    | raised escape left =>
      have outside := preflight_raised outcome
      rw [outcome] at cases_
      cases cases_
      show Progress.Raised _ _ _ _ _ ep.progress
      rw [decided]
      exact .unsent requests escape outside
    | passed bound ready =>
      rw [outcome] at cases_
      have same : ready.progress = ep.progress := by
        cases cases_ with
        | passed _ _ same =>
          rcases same with rfl | ⟨event, rfl⟩
          · rfl
          · exact progress_emit ep event
      have request : Remembers cfg (requestContext context bound ep).toStepContext before :=
        remembers
      exact sendRequest_advances query request requests (same.trans decided)

theorem act_advances {context : StepContext} (remembers : Remembers cfg context before)
    (repairs : context.action ≠ .verify)
    (decided : ep.progress = before.progress.decided cfg context.action source) :
    Advances cfg source before.progress context.action (act cfg context ep) := by
  unfold act
  split
  next stops =>
    have ended : endBudget cfg (stopStep ep) = stopStep ep := if_neg (fun open_ => open_.1 rfl)
    refine .inl ⟨_, ?_, progress_record cfg _ remembers⟩
    rw [ended, stopStep, progress_stop, decided, stops]
    exact .stopped
  next rolls =>
    apply close_advances remembers
    intro terminal
    rw [progress_rollbackStep, decided, rolls]
    exact .restored terminal
  next acts keeps => exact requestStep_advances remembers ⟨acts, keeps, repairs⟩ decided

theorem startedStep_stepped (action : Action) (repairs : action ≠ .verify ∨ cfg.harness = .repo) :
    Stepped cfg action source ep.progress (startedStep cfg action source ep) := by
  unfold startedStep
  split_ifs with ended legal
  · exact .idle ended ep rfl
  · rw [← legal_actions_progress] at legal
    have unverified : action ≠ .verify := by
      rintro rfl
      have plain := repairs.resolve_left (fun differs => differs rfl)
      rw [legal_actions_progress, legal_actions, plain] at legal
      exact Router.verify_not_allowed _ legal
    refine .advanced (Bool.not_eq_true _ ▸ ended) legal _ ?_
    have remembers : Remembers cfg
        ⟨action, ep.observation cfg, ep.cost_usd, ep.publicResult.passed⟩ ep := ⟨rfl, rfl, rfl⟩
    exact act_advances remembers unverified (progress_recordDecision cfg ep action source)
  · rw [← legal_actions_progress] at legal
    exact .illegal legal _ ep rfl

theorem verify_advances : Advances cfg source ep.progress .verify
    (VerificationEpisode.verify cfg source ep) := by
  have asked : (VerificationEpisode.askVerification cfg source ep).progress =
      ep.progress.verifying cfg source (VerificationEpisode.verifyAnswer cfg ep) := by
    unfold Progress.verifying
    rw [observation_progress]
    rfl
  unfold VerificationEpisode.verify
  split
  next escape answer =>
    rcases VerificationEpisode.reportUnavailable_eq escape (cfg.fingerprint ep.files)
      (VerificationEpisode.askVerification cfg source ep) with ⟨events, same⟩
    rw [same]
    show Progress.Raised _ _ _ _ _ (VerificationEpisode.askVerification cfg source ep).progress
    rw [asked, answer]
    exact .unverified escape (.evaluator _ _ answer)
  next result answer =>
    have unchanged : cfg.fingerprint (VerificationEpisode.askVerification cfg source ep).files =
        cfg.fingerprint ep.files := rfl
    rw [if_neg (not_not.mpr unchanged)]
    rw [answer] at asked
    generalize VerificationEpisode.askVerification cfg source ep = left at asked unchanged
    have stored : (VerificationEpisode.labelVerification result
        (VerificationEpisode.storeVerification (cfg.fingerprint ep.files) result left)).progress =
          left.progress.verified cfg result := by
      rw [← unchanged]
      unfold VerificationEpisode.labelVerification
      split_ifs
      · exact progress_record_failure _ _
      · rfl
    have capped (ep : Episode) : ∃ terminal, (VerificationEpisode.capDecisions cfg ep).progress =
        ep.progress.flagged terminal := by
      unfold VerificationEpisode.capDecisions
      split_ifs
      · exact ⟨true, rfl⟩
      · exact ⟨ep.terminal, rfl⟩
    rcases capped ((VerificationEpisode.labelVerification result
      (VerificationEpisode.storeVerification (cfg.fingerprint ep.files) result left)).emit
        (.supplementalTests result (cfg.fingerprint ep.files))) with ⟨terminal, same⟩
    rw [progress_emit, stored, asked] at same
    refine .inl ⟨_, .verified result ⟨_, answer⟩ terminal, ?_⟩
    rw [← same]
    unfold VerificationEpisode.acceptVerification
    generalize VerificationEpisode.capDecisions cfg _ = last at same
    -- a verification adds no cost, so the zero of its transition is the difference
    have free : cfg.arithmetic.round (last.progress.cost_usd - ep.progress.cost_usd) = 0 := by
      rw [same]
      exact (congrArg _ (sub_self _)).trans cfg.arithmetic.round_zero
    unfold Progress.recorded Progress.transition
    rw [observation_progress, observation_progress, free]
    rfl

/-! ## The start -/

/-- The progress with which a step begins that has to start the episode. -/
inductive Entered (cfg : Config) (p : Progress) : Progress → Prop where
  | again (started : p.started = true) : Entered cfg p p
  | baseline (fresh : p.started = false) (result : EvalResult)
      (answer : ∃ calls, cfg.evaluator calls ⟨.visible, p.files⟩ = .result result)
      (terminal : Bool) (ended : terminal = true ∨ terminal = p.terminal) :
      Entered cfg p (((p.opened (.result result)).baseline result).flagged terminal)

theorem start_entered : match ep.start cfg with
    | .ok _ after => Entered cfg ep.progress after.progress
    | .raised escape left =>
      ep.progress.started = false ∧ Outside cfg escape ∧
        left.progress = ep.progress.opened (.raised escape) := by
  unfold start
  by_cases started : ep.started_flag = true
  · rw [if_pos started]
    exact .again started
  · rw [if_neg started]
    cases answer : checkAnswer cfg false (beginStart cfg ep) with
    | result result =>
      rw [check_of_result answer]
      have baseline (asked : Episode) :
          (assignBaseline result (asked.emit (checkEvent false result))).progress =
            asked.progress.baseline result := rfl
      have opened : (askCheck cfg false (beginStart cfg ep)).progress =
          ep.progress.opened (checkAnswer cfg false (beginStart cfg ep)) := rfl
      have measured : (assignBaseline result ((askCheck cfg false (beginStart cfg ep)).emit
          (checkEvent false result))).progress =
            (ep.progress.opened (.result result)).baseline result := by
        rw [baseline, opened, answer]
      have fresh : ep.progress.started = false := Bool.not_eq_true _ ▸ started
      show Entered cfg ep.progress (stopIfGreen cfg _).progress
      unfold stopIfGreen
      split_ifs
      · rw [progress_stop, measured]
        exact .baseline fresh result ⟨_, answer⟩ true (.inl rfl)
      · rw [measured]
        exact .baseline fresh result ⟨_, answer⟩ ep.terminal (.inr rfl)
    | raised escape =>
      rw [check_of_raised answer]
      refine ⟨Bool.not_eq_true _ ▸ started, .evaluator _ _ answer, ?_⟩
      rw [← answer]
      rfl

/-- Everything that a step can do, also one that has to start the episode. -/
inductive Taken (cfg : Config) (action : Action) (source : String) (p : Progress) :
    Outcome Unit → Prop where
  /-- The control arm refuses to verify, before it starts. -/
  | disabled (off : cfg.harness = .ablation false) (verifies : action = .verify)
      (escape : Escape) (left : Episode) (same : left.progress = p) :
      Taken cfg action source p (.raised escape left)
  | unstarted (fresh : p.started = false) (escape : Escape) (outside : Outside cfg escape)
      (left : Episode) (same : left.progress = p.opened (.raised escape)) :
      Taken cfg action source p (.raised escape left)
  | stepped (begun : Progress) (entered : Entered cfg p begun) (outcome : Outcome Unit)
      (stepped : Stepped cfg action source begun outcome) : Taken cfg action source p outcome

theorem taken_of_start {action : Action} {next : Unit → Episode → Outcome Unit}
    (rest : ∀ started, Stepped cfg action source started.progress (next () started)) :
    Taken cfg action source ep.progress ((ep.start cfg).andThen next) := by
  have entered := @start_entered cfg ep
  cases outcome : ep.start cfg with
  | ok value started =>
    rw [outcome] at entered
    exact .stepped started.progress entered _ (rest started)
  | raised escape left =>
    rw [outcome] at entered
    exact .unstarted entered.1 escape entered.2.1 left entered.2.2

theorem repoStep_taken (action : Action) (repairs : action ≠ .verify ∨ cfg.harness = .repo) :
    Taken cfg action source ep.progress (RepoEpisode.step cfg action source ep) :=
  taken_of_start fun _ => startedStep_stepped action repairs

theorem verificationStep_taken (action : Action) :
    Taken cfg action source ep.progress (VerificationEpisode.step cfg action source ep) := by
  unfold VerificationEpisode.step
  by_cases repairs : action ≠ .verify
  · rw [if_pos repairs]
    exact repoStep_taken action (.inl repairs)
  · rw [if_neg repairs]
    cases not_not.mp repairs
    apply taken_of_start
    intro started
    split_ifs with ended legal
    · exact .idle ended started rfl
    · rw [← legal_actions_progress] at legal
      exact .advanced (Bool.not_eq_true _ ▸ ended) legal _ verify_advances
    · rw [← legal_actions_progress] at legal
      exact .illegal legal _ started rfl

/-- A step of any of the four classes. -/
theorem step_taken (action : Action) : Taken cfg action source ep.progress
    (step cfg action source ep) := by
  have piloted : Taken cfg action source ep.progress (PilotEpisode.step cfg action source ep) :=
    @verificationStep_taken cfg source (PilotEpisode.countLearned source ep) action
  unfold step
  split
  next plain => exact repoStep_taken action (.inr plain)
  · exact verificationStep_taken action
  · exact piloted
  next verify_enabled harness =>
    unfold AblationEpisode.step
    split_ifs with disabled
    · have off : verify_enabled = false := Bool.not_eq_true _ ▸ disabled.1
      exact .disabled (off ▸ harness) disabled.2 _ ep rfl
    · exact piloted

/-! ## The other methods of a run -/

/-- What `finish` may append to the log. -/
def Graded (files : Files) (occurrences : List Occurrence) : Prop :=
  occurrences = [] ∨ ∃ outcome, occurrences = [.evaluation ⟨.hidden, files⟩ outcome]

theorem progress_conclude : (conclude cfg ep).progress = ep.progress := by
  unfold conclude describeEdits
  split_ifs <;> rfl

theorem progress_finish : ∃ status terminal occurrences, Graded ep.files occurrences ∧
    (ep.finish cfg).episode.progress = ep.progress.closed status terminal occurrences := by
  have asked (status : Status) (outcome : EvalOutcome)
      (answer : checkAnswer cfg true (endDecisions ep) = outcome) :
      { (askCheck cfg true (endDecisions ep)).progress with status := status } =
        ep.progress.closed status true [.evaluation ⟨.hidden, ep.files⟩ outcome] := by
    rw [← answer]
    rfl
  have labelled (result : EvalResult) (ep : Episode) :
      (labelGrading result ep).progress = ep.progress := by
    unfold labelGrading
    split_ifs
    · exact progress_record_failure ep _
    · rfl
  have ways := finish_outcome cfg ep
  generalize ep.finish cfg = outcome at ways ⊢
  cases ways with
  | again =>
    refine ⟨ep.status, ep.terminal, [], .inl rfl, ?_⟩
    rw [Progress.closed, List.append_nil]
    rfl
  | idle =>
    refine ⟨ep.status, true, [], .inl rfl, progress_conclude.trans ?_⟩
    rw [Progress.closed, List.append_nil]
    rfl
  | graded result running answer =>
    refine ⟨.completed, true, _, .inr ⟨.result result, rfl⟩, progress_conclude.trans ?_⟩
    rw [acceptGrading, labelled, ← asked .completed _ answer]
    rfl
  | unavailable message answer =>
    refine ⟨.failed, true, _, .inr ⟨.raised (.sandboxUnavailable message), rfl⟩,
      progress_conclude.trans ?_⟩
    rw [← asked .failed _ answer]
    rfl
  | raised escape answer =>
    refine ⟨ep.status, true, _, .inr ⟨.raised escape, rfl⟩, ?_⟩
    rw [← asked ep.status _ answer]
    rfl

/-- A round with a pending delay: the wait is cancelled, or the request is
repeated. -/
inductive Waits (cfg : Config) (p : Progress) : Outcome Unit → Prop where
  | cancelled (escape : Escape) (outside : escape = .cancelled) (left : Episode)
      (same : left.progress = p.waited.ended .interrupted) : Waits cfg p (.raised escape left)
  | retried (outcome : Outcome Unit) (taken : Taken cfg .repair "provider_retry" p.waited outcome)
      (after : Outcome Unit) (same : ∃ change : Episode → Episode,
        (∀ ep, (change ep).progress = ep.progress) ∧ after = outcome.mapEpisode change) :
      Waits cfg p after

theorem backoff_waits (delay : ℚ) : Waits cfg ep.progress (backoff cfg delay ep) := by
  have undone (previous : ℕ) (ep : Episode) :
      (undoProviderRetry previous ep).progress = ep.progress := by
    unfold undoProviderRetry
    split_ifs <;> rfl
  unfold backoff
  split_ifs
  · have interrupted : (cancelWait (beginWait delay ep)).progress =
        ep.progress.waited.ended .interrupted := rfl
    have left : ∃ result done, finish cfg (cancelWait (beginWait delay ep)) = .ok result done ∧
        done.progress = (cancelWait (beginWait delay ep)).progress := by
      by_cases finished : (cancelWait (beginWait delay ep)).finished = true
      · exact ⟨_, _, finish_of_finished finished, rfl⟩
      · exact ⟨_, _, finish_of_not_running finished (fun impossible => by cases impossible),
          progress_conclude⟩
    rcases left with ⟨result, done, same, unchanged⟩
    rw [same]
    exact .cancelled .cancelled rfl done (unchanged.trans interrupted)
  · have taken : Taken cfg .repair "provider_retry" ep.progress.waited
        (step cfg .repair "provider_retry" (countProviderRetry (beginWait delay ep))) :=
      @step_taken cfg _ (countProviderRetry (beginWait delay ep)) .repair
    exact .retried _ taken _ ⟨_, undone _, rfl⟩

end Steps

/-! ## What every reachable state keeps -/

/-- A property of the progress that every change of a run keeps. -/
structure Keeps (cfg : Config) (holds : Progress → Prop) : Prop where
  initial : holds (initial cfg).progress
  entered {p begun : Progress} : holds p → Entered cfg p begun → holds begun
  opened {p : Progress} {escape : Escape} : holds p → holds (p.opened (.raised escape))
  effect {p effect : Progress} {action : Action} {source : String} : holds p →
    p.terminal = false → action ∈ p.legal_actions cfg →
    Progress.Effect cfg source p action effect → holds (Progress.recorded cfg action p effect)
  halted {p halted : Progress} {action : Action} {source : String} : holds p →
    Progress.Halted cfg source p action halted → holds halted
  raised {p left : Progress} {action : Action} {source : String} {escape : Escape} : holds p →
    p.terminal = false → action ∈ p.legal_actions cfg →
    Progress.Raised cfg source p action escape left → holds left
  waited {p : Progress} : holds p → holds p.waited
  closed {p : Progress} {occurrences : List Occurrence} (status : Status) (terminal : Bool) :
    holds p → Graded p.files occurrences → holds (p.closed status terminal occurrences)

section Keeps

variable {cfg : Config} {holds : Progress → Prop} {p : Progress} {outcome : Outcome Unit}

theorem Keeps.taken (keeps : Keeps cfg holds) {action : Action} {source : String}
    (taken : Taken cfg action source p outcome) (start : holds p) :
    holds outcome.episode.progress := by
  cases taken with
  | disabled off verifies escape left same => exact same ▸ start
  | unstarted _ escape outside left same => exact same ▸ keeps.opened start
  | stepped begun entered _ stepped =>
    have begins := keeps.entered start entered
    cases stepped with
    | idle ended after same => exact same ▸ begins
    | illegal refused escape left same => exact same ▸ begins
    | advanced runs legal _ advances =>
      cases outcome with
      | ok value after =>
        rcases advances with ⟨effect, effected, same⟩ | halted
        · exact same ▸ keeps.effect begins runs legal effected
        · exact keeps.halted begins halted
      | raised escape left => exact keeps.raised begins runs legal advances

theorem Keeps.waits (keeps : Keeps cfg holds) (waits : Waits cfg p outcome) (start : holds p) :
    holds outcome.episode.progress := by
  cases waits with
  | cancelled escape outside left same =>
    rw [Outcome.episode, same]
    have closed := keeps.closed .interrupted true (keeps.waited start) (.inl rfl)
    rw [Progress.closed, List.append_nil] at closed
    exact closed
  | retried before taken _ same =>
    rcases same with ⟨change, unchanged, rfl⟩
    have progress : (before.mapEpisode change).episode.progress = before.episode.progress := by
      cases before <;> exact unchanged _
    exact progress ▸ keeps.taken taken (keeps.waited start)

theorem Keeps.drives (keeps : Keeps cfg holds) {ep : Episode} (drives : Drives cfg ep outcome)
    (start : holds ep.progress) : holds outcome.episode.progress := by
  cases drives with
  | start =>
    have entered := @start_entered cfg ep
    cases begun : ep.start cfg with
    | ok value after =>
      rw [begun] at entered
      exact keeps.entered start entered
    | raised escape left =>
      rw [begun] at entered
      rw [Outcome.episode, entered.2.2]
      exact keeps.opened start
  | step action source => exact keeps.taken (step_taken action) start
  | retry delay pending => exact keeps.waits (backoff_waits delay) start

theorem Reachable.keeps {ep : Episode} (reachable : Reachable cfg ep) (keeps : Keeps cfg holds) :
    holds ep.progress := by
  have runs {ep : Episode} (running : Running cfg ep) : holds ep.progress := by
    induction running with
    | initial => exact keeps.initial
    | next _ drives ih => exact keeps.drives drives ih
  induction reachable with
  | running running => exact runs running
  | left running drives => exact keeps.drives drives (runs running)
  | @failed ep _ message ih =>
    have closed := keeps.closed .failed true ih (.inl rfl)
    rw [Progress.closed, List.append_nil] at closed
    exact closed
  | @finished ep _ ih =>
    rcases @progress_finish cfg ep with ⟨status, terminal, occurrences, graded, same⟩
    rw [same]
    exact keeps.closed status terminal ih graded

end Keeps

/-! ## The rounds of a run -/

/-- The states in which the loop of a run begins a round, each with what its
selector has been shown. -/
inductive Rounds (cfg : Config) (selector : Selector) : List Observation → Episode → Prop where
  | start {started : Episode} (returned : (initial cfg).start cfg = .ok () started) :
      Rounds cfg selector [] started
  | next {seen later : List Observation} {ep after : Episode}
      (rounds : Rounds cfg selector seen ep) (runs : ep.terminal = false)
      (returned : round cfg selector seen ep = .ok later after) : Rounds cfg selector later after

section Rounds

variable {cfg : Config} {selector : Selector}

/-- A loop ends with a round's end, or with an exception of its last round. -/
theorem loop_rounds {rounds : ℕ} {seen : List Observation} {ep : Episode}
    (begins : Rounds cfg selector seen ep) :
    (∃ later after, loop cfg selector rounds seen ep = .ok () after ∧
      Rounds cfg selector later after) ∨
    ∃ escape left later last, loop cfg selector rounds seen ep = .raised escape left ∧
      Rounds cfg selector later last ∧ last.terminal = false ∧
      round cfg selector later last = .raised escape left := by
  induction rounds generalizing seen ep with
  | zero => exact .inl ⟨seen, ep, rfl, begins⟩
  | succ rounds ih =>
    unfold loop
    by_cases ended : ep.terminal = true
    · rw [if_pos ended]
      exact .inl ⟨seen, ep, rfl, begins⟩
    · rw [if_neg ended]
      have runs : ep.terminal = false := Bool.not_eq_true _ ▸ ended
      cases outcome : round cfg selector seen ep with
      | ok later after => exact ih (begins.next runs outcome)
      | raised escape left => exact .inr ⟨escape, left, seen, ep, rfl, begins, runs, outcome⟩

/-- How the body of a run ends. -/
theorem drive_rounds (cfg : Config) (selector : Selector) :
    (∃ later after, drive cfg selector (initial cfg) = .ok () after ∧
      Rounds cfg selector later after ∧ after.terminal = true) ∨
    (∃ escape left, drive cfg selector (initial cfg) = .raised escape left ∧
      (initial cfg).start cfg = .raised escape left) ∨
    ∃ escape left later last, drive cfg selector (initial cfg) = .raised escape left ∧
      Rounds cfg selector later last ∧ last.terminal = false ∧
      round cfg selector later last = .raised escape left := by
  cases begun : (initial cfg).start cfg with
  | ok value started =>
    have same : drive cfg selector (initial cfg) =
        loop cfg selector cfg.bounds.max_decisions [] started := by
      rw [drive, begun]
      rfl
    rcases loop_rounds (Rounds.start begun) with ⟨later, after, returned, rounds⟩ | failed
    · exact .inl ⟨later, after, same.trans returned, rounds,
        drive_ends cfg selector after (same.trans returned)⟩
    · rcases failed with ⟨escape, left, later, last, raised, rounds, runs, outcome⟩
      exact .inr (.inr ⟨escape, left, later, last, same.trans raised, rounds, runs, outcome⟩)
  | raised escape left =>
    refine .inr (.inl ⟨escape, left, ?_, rfl⟩)
    rw [drive, begun]
    rfl

/-- The loop visits started episodes only. -/
theorem Rounds.started {seen : List Observation} {ep : Episode}
    (rounds : Rounds cfg selector seen ep) : ep.started_flag = true := by
  induction rounds with
  | start returned =>
    rcases start_cases cfg with ⟨started, same, baseline⟩ | ⟨escape, left, same, _⟩
    · rw [returned] at same
      cases same
      exact baseline.started
    · rw [returned] at same
      cases same
  | @next seen later ep after _ _ returned ih =>
    have follows := round_follows cfg ep selector seen ih
    rw [returned] at follows
    have moves : Workspace.Moves cfg ep.workspace after.workspace := follows
    exact moves.started_eq.trans ih

theorem Rounds.running {seen : List Observation} {ep : Episode}
    (rounds : Rounds cfg selector seen ep) : Running cfg ep := by
  induction rounds with
  | start returned => exact .next .initial (returned ▸ .start)
  | @next seen later ep after _ _ returned ih =>
    have visits := round_visits ih selector seen
    rw [returned] at visits
    exact visits

/-- A round begins below the bound on decisions. -/
theorem Rounds.room {seen : List Observation} {ep : Episode}
    (rounds : Rounds cfg selector seen ep) (runs : ep.terminal = false) :
    Early 0 ep.meter ∧ ep.decisions < cfg.bounds.max_decisions := by
  have free (impossible : False) : cfg.provider.Honest := impossible.elim
  apply (rounds.running.stays free).2.resolve_left
  rw [runs]
  decide

/-- The step that a round takes, and the progress with which it begins. -/
inductive Turn (cfg : Config) (selector : Selector) (seen : List Observation) (ep : Episode) :
    Action → String → Progress → Prop where
  | waited (delay : ℚ) (pending : ep.pending_provider_delay = some delay) :
      Turn cfg selector seen ep .repair "provider_retry" ep.progress.waited
  | chosen (idle : ep.pending_provider_delay = none) (selection : Selection)
      (chosen : selector.choose cfg seen ep = .ok selection) :
      Turn cfg selector seen ep selection.action selection.source ep.progress

/-- Everything that a round of the loop can do. -/
inductive Rounded (cfg : Config) (selector : Selector) (seen : List Observation) (ep : Episode) :
    Outcome (List Observation) → Prop where
  | recorded {action : Action} {source : String} {p : Progress}
      (turn : Turn cfg selector seen ep action source p) (legal : action ∈ p.legal_actions cfg)
      (effect : Progress) (effected : Progress.Effect cfg source p action effect)
      (later : List Observation) (after : Episode)
      (same : after.progress = Progress.recorded cfg action p effect) :
      Rounded cfg selector seen ep (.ok later after)
  | halted {action : Action} {source : String} {p : Progress}
      (turn : Turn cfg selector seen ep action source p) (later : List Observation)
      (after : Episode) (halted : Progress.Halted cfg source p action after.progress) :
      Rounded cfg selector seen ep (.ok later after)
  | unchosen (idle : ep.pending_provider_delay = none) (escape : Escape)
      (failed : selector.choose cfg seen ep = .error escape) :
      Rounded cfg selector seen ep (.raised escape ep)
  | cancelled (left : Episode) (same : left.progress = ep.progress.waited.ended .interrupted) :
      Rounded cfg selector seen ep (.raised .cancelled left)
  | illegal {action : Action} {source : String} {p : Progress}
      (turn : Turn cfg selector seen ep action source p) (refused : action ∉ p.legal_actions cfg)
      (escape : Escape) (left : Episode) (same : left.progress = p) :
      Rounded cfg selector seen ep (.raised escape left)
  | raised {action : Action} {source : String} {p : Progress}
      (turn : Turn cfg selector seen ep action source p) (legal : action ∈ p.legal_actions cfg)
      (escape : Escape) (left : Episode)
      (raised : Progress.Raised cfg source p action escape left.progress) :
      Rounded cfg selector seen ep (.raised escape left)

/-- The control arm never allows a verification. -/
theorem verify_illegal_off (off : cfg.harness = .ablation false) (p : Progress) :
    .verify ∉ p.legal_actions cfg := by
  unfold Progress.legal_actions legal_actions
  rw [off]
  intro member
  exact of_decide_eq_true (List.mem_filter.mp member).2 rfl

theorem taken_rounded {seen : List Observation} {ep : Episode} {action : Action}
    {source : String} {p : Progress} {outcome : Outcome Unit}
    (turn : Turn cfg selector seen ep action source p) (started : p.started = true)
    (runs : p.terminal = false) (taken : Taken cfg action source p outcome)
    (later : List Observation) :
    Rounded cfg selector seen ep (outcome.andThen fun _ after => .ok later after) := by
  cases taken with
  | disabled off verifies escape left same =>
    subst verifies
    exact .illegal turn (verify_illegal_off off p) escape left same
  | unstarted fresh =>
    rw [started] at fresh
    cases fresh
  | stepped begun entered _ stepped =>
    cases entered with
    | baseline fresh =>
      rw [started] at fresh
      cases fresh
    | again =>
      cases stepped with
      | idle ended after same =>
        rw [runs] at ended
        cases ended
      | illegal refused escape left same => exact .illegal turn refused escape left same
      | advanced runs legal _ advances =>
        cases outcome with
        | ok value after =>
          rcases advances with ⟨effect, effected, same⟩ | halted
          · exact .recorded turn legal effect effected later after same
          · exact .halted turn later after halted
        | raised escape left => exact .raised turn legal escape left advances

theorem round_rounded {seen : List Observation} {ep : Episode}
    (rounds : Rounds cfg selector seen ep) (runs : ep.terminal = false) :
    Rounded cfg selector seen ep (round cfg selector seen ep) := by
  have started : ep.progress.started = true := rounds.started
  have open_ : ep.progress.terminal = false := runs
  unfold round
  cases pending : ep.pending_provider_delay with
  | some delay =>
    dsimp only
    have waits := @backoff_waits cfg ep delay
    generalize backoff cfg delay ep = outcome at waits
    cases waits with
    | cancelled escape interrupted left same =>
      subst interrupted
      exact .cancelled left same
    | retried before taken _ same =>
      rcases same with ⟨change, unchanged, rfl⟩
      have turn : Turn cfg selector seen ep .repair "provider_retry" ep.progress.waited :=
        .waited delay pending
      have rounded := taken_rounded turn started open_ taken seen
      cases before with
      | ok value after =>
        cases rounded with
        | recorded turn legal effect effected _ _ same =>
          exact .recorded turn legal effect effected seen _ ((unchanged after).trans same)
        | halted turn _ _ halted => exact .halted turn seen _ ((unchanged after).symm ▸ halted)
      | raised escape left =>
        have same := unchanged left
        cases rounded with
        | unchosen idle =>
          rw [idle] at pending
          cases pending
        | cancelled _ left_ => exact .cancelled _ (same.trans left_)
        | illegal turn refused _ _ left_ => exact .illegal turn refused escape _ (same.trans left_)
        | raised turn legal _ _ raised => exact .raised turn legal escape _ (same.symm ▸ raised)
  | none =>
    dsimp only
    cases chosen : selector.choose cfg seen ep with
    | error escape => exact .unchosen pending escape chosen
    | ok selection =>
      exact taken_rounded (Turn.chosen pending selection chosen) started open_
        (step_taken selection.action) _

/-- What the first observation of a run satisfies and every round that returns
keeps, holds in all its rounds. -/
theorem Rounds.keeps {holds : Progress → Prop}
    (start : ∀ started, (initial cfg).start cfg = .ok () started → holds started.progress)
    (kept : ∀ seen ep later after, Rounds cfg selector seen ep → ep.terminal = false →
      holds ep.progress → Rounded cfg selector seen ep (.ok later after) → holds after.progress)
    {seen : List Observation} {ep : Episode} (rounds : Rounds cfg selector seen ep) :
    holds ep.progress := by
  induction rounds with
  | start returned => exact start _ returned
  | next rounds runs returned ih =>
    have rounded := round_rounded rounds runs
    rw [returned] at rounded
    exact kept _ _ _ _ rounds runs ih rounded

end Rounds

end Episode

end ForgeRL
