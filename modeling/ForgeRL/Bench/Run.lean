import ForgeRL.Bench.Engine

namespace ForgeRL

open Library

/-!
# Whole episodes

The three derived classes wrap `RepoEpisode.step`; `VerificationEpisode` adds
the verify action.  `run_episode` starts an episode, lets a selector choose
until the episode is terminal, waits and repeats a rate-limited request on its
own, and finally grades.

The loop takes its number of rounds as an argument.  `max_decisions` rounds
are enough: every round that returns decides once.
-/

/-! ## Steps of the derived classes -/

namespace VerificationEpisode

def storeVerification (files_sha256 : Text) (result : EvalResult) (ep : Episode) : Episode :=
  { ep with verified_candidates := Dict.set ep.verified_candidates files_sha256 result }

def labelVerification (result : EvalResult) (ep : Episode) : Episode :=
  if result.passed < result.total then
    ep.record_failure "verification:public_supplemental_fail"
  else ep

def capDecisions (cfg : Config) (ep : Episode) : Episode :=
  if ep.decisions ≥ cfg.bounds.max_decisions then ep.stop "step_budget" else ep

/-- The transition of a verification has no cost. -/
def recordVerified (cfg : Config) (state : Observation) (ep : Episode) : Episode :=
  { ep with
    transitions := ep.transitions ++ [{
      task_id := cfg.task.id
      split := cfg.task.split
      action := .verify
      state := state
      next_state := ep.observation cfg
      cost_usd := 0
      terminal := ep.terminal }] }

def acceptVerification (cfg : Config) (state : Observation) (files_sha256 : Text)
    (result : EvalResult) (ep : Episode) : Episode :=
  recordVerified cfg state (capDecisions cfg
    ((labelVerification result (storeVerification files_sha256 result ep)).emit
      (.supplementalTests result files_sha256)))

def countVerification (files_sha256 : Text) (ep : Episode) : Episode :=
  { ep with
    decisions := ep.decisions + 1
    verification_calls := ep.verification_calls + 1
    tool_calls := ep.tool_calls + 1
    verification_attempted := ep.verification_attempted ++ [files_sha256] }

def beginVerification (cfg : Config) (source : String) (ep : Episode) : Episode :=
  (((countVerification (cfg.fingerprint ep.files) ep).emit
    (.decision .verify source (ep.observation cfg) cfg.policy)).note
    (.decision .verify source (ep.observation cfg))).emit
    (.toolCall .supplemental (cfg.fingerprint ep.files))

def verifyAnswer (cfg : Config) (ep : Episode) : EvalOutcome :=
  cfg.evaluator ep.evaluations ⟨.supplemental, ep.files⟩

def askVerification (cfg : Config) (source : String) (ep : Episode) : Episode :=
  (beginVerification cfg source ep).note
    (.evaluation ⟨.supplemental, ep.files⟩ (verifyAnswer cfg ep))

/-- The handler of a verification that raises, which a cancellation passes. -/
def reportUnavailable (escape : Escape) (files_sha256 : Text) (ep : Episode) : Episode :=
  if escape = .cancelled then ep else ep.emit (.verificationUnavailable files_sha256)

theorem reportUnavailable_eq (escape : Escape) (files_sha256 : Text) (ep : Episode) :
    ∃ events, reportUnavailable escape files_sha256 ep = { ep with events := events } := by
  unfold reportUnavailable
  split_ifs
  · exact ⟨ep.events, rfl⟩
  · exact ⟨_, rfl⟩

/-- A verification of the current files, once it is found legal. -/
def verify (cfg : Config) (source : String) (ep : Episode) : Outcome Unit :=
  match verifyAnswer cfg ep with
  | .raised escape =>
    .raised escape (reportUnavailable escape (cfg.fingerprint ep.files)
      (askVerification cfg source ep))
  | .result result =>
    if cfg.fingerprint (askVerification cfg source ep).files ≠ cfg.fingerprint ep.files then
      .raised (.runtimeError "Candidate changed during verification")
        (askVerification cfg source ep)
    else
      .ok () (acceptVerification cfg (ep.observation cfg) (cfg.fingerprint ep.files) result
        (askVerification cfg source ep))

/-- `VerificationEpisode.step` -/
def step (cfg : Config) (action : Action) (source : String) (ep : Episode) : Outcome Unit :=
  if action ≠ .verify then RepoEpisode.step cfg action source ep
  else
    (ep.start cfg).andThen fun _ started =>
      if started.terminal then .ok () started
      else if .verify ∉ started.legal_actions cfg (started.observation cfg) then
        .raised (.valueError "Illegal bounded verification action") started
      else verify cfg source started

end VerificationEpisode

def PilotEpisode.countLearned (source : String) (ep : Episode) : Episode :=
  { ep with
    learned_decisions := ep.learned_decisions + if source = "learned_supervised_cost" then 1 else 0 }

/-- `PilotEpisode.step` -/
def PilotEpisode.step (cfg : Config) (action : Action) (source : String) (ep : Episode) :
    Outcome Unit :=
  VerificationEpisode.step cfg action source (PilotEpisode.countLearned source ep)

/-- `AblationEpisode.step` -/
def AblationEpisode.step (verify_enabled : Bool) (cfg : Config) (action : Action)
    (source : String) (ep : Episode) : Outcome Unit :=
  if ¬ verify_enabled ∧ action = .verify then
    .raised (.valueError "VERIFY is disabled in this condition") ep
  else PilotEpisode.step cfg action source ep

namespace Episode

def step (cfg : Config) (action : Action) (source : String) (ep : Episode) : Outcome Unit :=
  match cfg.harness with
  | .repo => RepoEpisode.step cfg action source ep
  | .verification => VerificationEpisode.step cfg action source ep
  | .pilot => PilotEpisode.step cfg action source ep
  | .ablation verify_enabled => AblationEpisode.step verify_enabled cfg action source ep

/-! ## The end of an episode -/

/-- `result["solved"]` -/
def Solved (ep : Episode) : Prop :=
  ep.finished = true ∧ ep.status = .completed ∧ ep.publicResult.AllPass ∧
    match ep.hidden with
    | some result => result.AllPass
    | none => False

instance (ep : Episode) : Decidable ep.Solved := by
  unfold Solved
  cases ep.hidden <;> infer_instance

/-- Python's `round(value, 8)`. -/
def roundedCost (cost_usd : ℚ) : ℚ := roundHalfEven (cost_usd * 100000000) / 100000000

/-- The part of a result that a verification harness adds. -/
structure VerificationReport where
  verification_calls : ℕ
  verification_passed : Option ℕ
  verification_total : Option ℕ
  verification_grader_disagreement : Option Bool

end Episode

/-- The exported result, without its times, texts and version metadata. -/
structure EpisodeResult where
  task_id : Text
  split : Text
  policy : Policy
  seed : ℤ
  status : Status
  solved : Bool
  public_passed : Option ℕ
  public_total : ℕ
  heldout_passed : Option ℕ
  heldout_total : ℕ
  cost_usd : ℚ
  tokens : Option ℤ
  known_tokens : ℤ
  tokens_complete : Bool
  tool_calls : ℕ
  attempts : ℕ
  retries : ℕ
  invalid_responses : ℕ
  provider_retries : ℕ
  unknown_token_upper_bound : ℤ
  decisions : ℕ
  regressions_introduced : ℕ
  unnecessary_edits : Option ℕ
  success_after_repair : Bool
  escalations : ℕ
  rollbacks : ℕ
  failure_labels : List String
  learned_decisions : ℕ
  fallback_decisions : ℕ
  model_ids : List String
  initial_files : Files
  final_files : Files
  events : List Event
  error : Option String
  stop_reason : Option String
  verification : Option Episode.VerificationReport

namespace Episode

/-- What `VerificationEpisode.result` adds. -/
def verificationReport (cfg : Config) (ep : Episode) : VerificationReport where
  verification_calls := ep.verification_calls
  verification_passed := (VerificationEpisode.current_verification cfg ep).map EvalResult.passed
  verification_total := (VerificationEpisode.current_verification cfg ep).map EvalResult.total
  verification_grader_disagreement :=
    match VerificationEpisode.current_verification cfg ep with
    | some verification =>
      if ep.status = .completed ∧ ep.hidden.isSome then
        some (decide (verification.passed = verification.total) != decide ep.Solved)
      else none
    | none => none

def result (cfg : Config) (ep : Episode) : EpisodeResult where
  task_id := cfg.task.id
  split := cfg.task.split
  policy := cfg.policy
  seed := cfg.seed
  status := ep.status
  solved := decide ep.Solved
  public_passed := if ep.public_measured then some ep.publicResult.passed else none
  public_total := ep.publicResult.total
  heldout_passed := ep.hidden.map EvalResult.passed
  heldout_total := cfg.task.hidden_cases.length
  cost_usd := cfg.arithmetic.round (roundedCost ep.cost_usd)
  tokens := if ep.tokens_complete then some ep.tokens else none
  known_tokens := ep.tokens
  tokens_complete := ep.tokens_complete
  tool_calls := ep.tool_calls
  attempts := ep.attempts
  retries := ep.retries
  invalid_responses := ep.invalid_responses
  provider_retries := ep.provider_retries
  unknown_token_upper_bound := ep.unknown_token_bound
  decisions := ep.decisions
  regressions_introduced := ep.regressions
  unnecessary_edits := ep.unnecessary_edits
  success_after_repair := decide (ep.Solved ∧ 1 < ep.attempts)
  escalations := ep.escalations
  rollbacks := ep.rollbacks
  failure_labels := ep.failure_labels
  learned_decisions := ep.learned_decisions
  fallback_decisions := ep.fallback_decisions
  model_ids := ep.models
  initial_files := cfg.task.files
  final_files := ep.files
  events := ep.events
  error := ep.error
  stop_reason := ep.stop_reason
  verification :=
    if cfg.harness = .repo then none else some (verificationReport cfg ep)

/-- The edited files outside the reference patch. -/
def unnecessaryEdits (task : RepoTask) (files : Files) : ℕ :=
  (Dict.keys files).countP fun name =>
    Dict.get? files name ≠ Dict.get? task.files name ∧
      ¬ (name ∈ Dict.keys task.files ∧
        Dict.get? task.reference_files name ≠ Dict.get? task.files name)

def assignGrading (result : EvalResult) (ep : Episode) : Episode :=
  { ep with hidden := some result, status := .completed }

def labelGrading (result : EvalResult) (ep : Episode) : Episode :=
  if ep.publicResult.passed = ep.publicResult.total ∧ result.passed < result.total then
    ep.record_failure "verification:visible_pass_hidden_fail"
  else ep

def failGrading (message : String) (ep : Episode) : Episode :=
  { ep with
    status := .failed
    error := some message
    stop_reason := some "sandbox_unavailable" }.emit (.gradingUnavailable message)

/-- The hidden grading of an episode that is still running. -/
def grade (cfg : Config) (ep : Episode) : Outcome Unit :=
  match check cfg true ep with
  | .raised (.sandboxUnavailable message) left => .ok () (failGrading message left)
  | .raised escape left => .raised escape left
  | .ok result checked => .ok () (labelGrading result (assignGrading result checked))

def describeEdits (cfg : Config) (ep : Episode) : Episode :=
  if ep.status = .completed then
    { ep with unnecessary_edits := some (unnecessaryEdits cfg.task ep.files) }
  else ep

def announceEnd (ep : Episode) : Episode :=
  ep.emit (.complete ep.status (decide ep.Solved) ep.stop_reason)

/-- The part of `finish` after the grading. -/
def conclude (cfg : Config) (ep : Episode) : Episode :=
  announceEnd { describeEdits cfg ep with finished := true }

/-- The first assignments of `finish`; an empty reason counts as none. -/
def endDecisions (ep : Episode) : Episode :=
  { ep with
    terminal := true
    stop_reason := some (match ep.stop_reason with
      | none | some "" => "controller_stop"
      | some reason => reason) }

def gradeRunning (cfg : Config) (ep : Episode) : Outcome Unit :=
  if ep.started_flag = true ∧ ep.status = .running then grade cfg ep else .ok () ep

/-- `RepoEpisode.finish` -/
def finish (cfg : Config) (ep : Episode) : Outcome EpisodeResult :=
  if ep.finished then .ok (ep.result cfg) ep
  else
    (gradeRunning cfg (endDecisions ep)).andThen fun _ graded =>
      .ok ((conclude cfg graded).result cfg) (conclude cfg graded)

theorem finish_of_finished {cfg : Config} {ep : Episode} (finished : ep.finished = true) :
    ep.finish cfg = .ok (ep.result cfg) ep := by
  rw [finish, if_pos finished]

/-- An episode that is not running is finished without grading. -/
theorem finish_of_not_running {cfg : Config} {ep : Episode} (unfinished : ¬ ep.finished = true)
    (ended : ep.status ≠ .running) :
    ep.finish cfg =
      .ok ((conclude cfg (endDecisions ep)).result cfg) (conclude cfg (endDecisions ep)) := by
  rw [finish, if_neg unfinished, gradeRunning, if_neg (fun runs => ended runs.2)]
  rfl

/-- The episode that the hidden check leaves when it returns. -/
def acceptGrading (cfg : Config) (result : EvalResult) (ep : Episode) : Episode :=
  labelGrading result (assignGrading result ((askCheck cfg true ep).emit (checkEvent true result)))

/-- Everything that `finish` can do. -/
inductive Finishing (cfg : Config) (ep : Episode) : Outcome EpisodeResult → Prop where
  | again (finished : ep.finished = true) : Finishing cfg ep (.ok (ep.result cfg) ep)
  | idle :
      Finishing cfg ep
        (.ok ((conclude cfg (endDecisions ep)).result cfg) (conclude cfg (endDecisions ep)))
  | graded (result : EvalResult) (running : ep.status = .running)
      (answer : checkAnswer cfg true (endDecisions ep) = .result result) :
      Finishing cfg ep
        (.ok ((conclude cfg (acceptGrading cfg result (endDecisions ep))).result cfg)
          (conclude cfg (acceptGrading cfg result (endDecisions ep))))
  | unavailable (message : String)
      (answer : checkAnswer cfg true (endDecisions ep) = .raised (.sandboxUnavailable message)) :
      Finishing cfg ep
        (.ok ((conclude cfg (failGrading message (askCheck cfg true (endDecisions ep)))).result cfg)
          (conclude cfg (failGrading message (askCheck cfg true (endDecisions ep)))))
  | raised (escape : Escape)
      (answer : checkAnswer cfg true (endDecisions ep) = .raised escape) :
      Finishing cfg ep (.raised escape (askCheck cfg true (endDecisions ep)))

theorem finish_outcome (cfg : Config) (ep : Episode) : Finishing cfg ep (ep.finish cfg) := by
  unfold finish
  split_ifs with finished
  · exact .again finished
  · unfold gradeRunning
    split_ifs with runs
    · unfold grade
      cases answer : checkAnswer cfg true (endDecisions ep) with
      | result result =>
        rw [check_of_result answer]
        exact .graded result runs.2 answer
      | raised escape =>
        rw [check_of_raised answer]
        cases escape with
        | sandboxUnavailable message => exact .unavailable message answer
        | _ => exact .raised _ answer
    · exact .idle

end Episode

/-! ## `run_episode` -/

/-- What chooses the actions of a run. -/
inductive Selector where
  /-- No selector: `router.choose_action` with the policy of the episode. -/
  | policy
  /-- A selector is a closure: it may remember what it has been shown. -/
  | custom (choose : List Observation → Observation → Except Escape Selection)
  /-- `episode.select` of a pilot or ablation episode. -/
  | select
  /-- `run_verification_episode` without a selector. -/
  | development

namespace Selector

def choose (cfg : Config) (selector : Selector) (seen : List Observation) (ep : Episode) :
    Except Escape Selection :=
  let state := ep.observation cfg
  match selector with
  | .policy => Router.choose_action cfg.policy state cfg.artifact
  | .custom choose => choose seen state
  | .select => PilotEpisode.select cfg ep state
  | .development => VerificationEpisode.choose cfg ep state

end Selector

namespace Episode

def countProviderRetry (ep : Episode) : Episode :=
  { ep with provider_retries := ep.provider_retries + 1 }

/-- The `finally` of a provider retry: it counts only if it made a request. -/
def undoProviderRetry (previous_attempts : ℕ) (ep : Episode) : Episode :=
  if ep.attempts ≤ previous_attempts then
    { ep with provider_retries := ep.provider_retries - 1 }
  else ep

def retryStep (cfg : Config) (ep : Episode) : Outcome Unit :=
  (step cfg .repair "provider_retry" (countProviderRetry ep)).mapEpisode
    (undoProviderRetry ep.attempts)

def beginWait (delay : ℚ) (ep : Episode) : Episode :=
  { ep with pending_provider_delay := none }.emit
    (.backoff (ep.provider_retries + 1) delay ep.current_model)

def cancelWait (ep : Episode) : Episode :=
  { ep with
    status := .interrupted
    terminal := true
    error := some "Cancelled while waiting for the rate-limited provider"
    stop_reason := some "cancelled_during_backoff" }

/-- A round with a pending delay. -/
def backoff (cfg : Config) (delay : ℚ) (ep : Episode) : Outcome Unit :=
  if cfg.sleepCancelled ep.decisions then
    (finish cfg (cancelWait (beginWait delay ep))).andThen fun _ done => .raised .cancelled done
  else retryStep cfg (beginWait delay ep)

/-- One round of the loop: the observations that the selector has seen after
it, and the episode. -/
def round (cfg : Config) (selector : Selector) (seen : List Observation) (ep : Episode) :
    Outcome (List Observation) :=
  match ep.pending_provider_delay with
  | some delay => (backoff cfg delay ep).andThen fun _ after => .ok seen after
  | none =>
    match selector.choose cfg seen ep with
    | .error escape => .raised escape ep
    | .ok selection =>
      (step cfg selection.action selection.source ep).andThen fun _ after =>
        .ok (seen ++ [ep.observation cfg]) after

/-- The loop of `run_episode`. -/
def loop (cfg : Config) (selector : Selector) :
    ℕ → List Observation → Episode → Outcome Unit
  | 0, _, ep => .ok () ep
  | rounds + 1, seen, ep =>
    if ep.terminal then .ok () ep
    else (round cfg selector seen ep).andThen (loop cfg selector rounds)

/-- The body of the `try` of `run_episode`. -/
def drive (cfg : Config) (selector : Selector) (ep : Episode) : Outcome Unit :=
  (ep.start cfg).andThen fun _ started => loop cfg selector cfg.bounds.max_decisions [] started

def failExecution (message : String) (ep : Episode) : Episode :=
  { ep with
    status := .failed
    terminal := true
    stop_reason := some "sandbox_unavailable"
    error := some message }.emit (.executionUnavailable message)

/-- The handler of `SandboxUnavailable`. -/
def caught (outcome : Outcome Unit) : Outcome Unit :=
  match outcome with
  | .raised (.sandboxUnavailable message) left => .ok () (failExecution message left)
  | other => other

end Episode

def run_episode (cfg : Config) (selector : Selector) : Outcome EpisodeResult :=
  (Episode.caught (Episode.drive cfg selector (Episode.initial cfg))).andThen fun _ ended =>
    ended.finish cfg

/-! ## A small episode

One file, one visible and one hidden case, and a provider that always sends
the same file for a cent and a hundred tokens, and whose estimates are exact.
-/

def smallFiles (content : String) : Files :=
  Dict.set ∅ (Text.ofString "a") (Text.ofString content)

def smallTask : RepoTask where
  id := Text.ofString "t"
  title := []
  family := []
  split := []
  category := []
  description := []
  files := smallFiles "0"
  reference_files := smallFiles "1"
  entrypoint := Text.ofString "a"
  public_cases := [[]]
  hidden_cases := [[]]
  allowed_edit_files := [Text.ofString "a"]
  success_criterion := []

def smallResult : RepoResult where
  files := smallFiles "1"
  model := "m"
  prompt_tokens := 60
  completion_tokens := 40
  total_tokens := 100
  cost_usd := 1 / 100
  request_id := none
  finish_reason := none
  prompt_messages := .null
  response_text := []
  provider_id := none
  provider_reported_cost_usd := none

def smallProvider : HostedProvider where
  estimate_reservation_usd := some fun _ _ => .ok (1 / 100)
  estimate_token_bound := some fun _ _ => .ok 100
  build_messages := none
  generate := fun _ _ => .result smallResult

/-- One case, passed or not. -/
def oneCase (passed : Bool) : EvalOutcome := .result ⟨if passed then 1 else 0, 1, [], false⟩

def smallConfig (evaluator : Evaluator) : Config where
  harness := .repo
  task := smallTask
  verification_cases := []
  policy := .cheap_only
  artifact := none
  controllers := ⟨none, none⟩
  bounds := ⟨2, 2, 1, 0, by decide, by decide, by decide +kernel, by decide⟩
  max_verifications := 2
  seed := 17
  provider := smallProvider
  evaluator := evaluator
  sleepCancelled := fun _ => false
  floatText := fun _ => []
  fingerprint := fun files => (files.rows.map Prod.snd).flatten
  validate_files := fun _ _ => .ok ()
  arithmetic := .rational

end ForgeRL
