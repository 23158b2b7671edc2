import ForgeRL.Bench.Grading
import ForgeRL.Bench.Caps

namespace ForgeRL

open Library

/-!
# The control arm of the ablation

With verification disabled the ablation harness still runs through the code of
four classes: it builds observations with extra keys, masks its actions, asks
for verification feedback and stops by a rule of its own.  None of this has an
effect.  The core of an episode forgets the extra keys, and every piece of a
step of the control arm is, on cores, the same piece of the released harness.
-/

def Occurrence.core (occurrence : Occurrence) : Occurrence :=
  match occurrence with
  | .decision action source state => .decision action source state.core
  | other => other

def Event.core (event : Event) : Event :=
  match event with
  | .decision action source state policy => .decision action source state.core policy
  | other => other

def Transition.core (transition : Transition) : Transition :=
  { transition with
    state := transition.state.core
    next_state := transition.next_state.core }

/-- The episode without the extra keys of its observations. -/
def Episode.core (ep : Episode) : Episode :=
  { ep with
    events := ep.events.map Event.core
    transitions := ep.transitions.map Transition.core
    log := ep.log.map Occurrence.core }

/-- The result without its verification report. -/
def EpisodeResult.core (result : EpisodeResult) : EpisodeResult :=
  { result with
    events := result.events.map Event.core
    verification := none }

/-- The core of a finished run. -/
def Outcome.core (outcome : Outcome EpisodeResult) : Outcome EpisodeResult :=
  match outcome with
  | .ok result ep => .ok result.core ep.core
  | .raised escape ep => .raised escape ep.core

/-- The released harness with the artifact of the control arm. -/
def Config.released (cfg : Config) : Config :=
  { cfg with
    harness := .repo
    artifact := cfg.controllers.fitted_q }

/-- The outcome without its value. -/
def Outcome.forget {α : Type} (outcome : Outcome α) : Outcome Unit :=
  outcome.andThen fun _ ep => .ok () ep

theorem Outcome.mapEpisode_andThen {α β : Type} {outcome : Outcome α}
    {next other : α → Episode → Outcome β} {change : Episode → Episode}
    (rest : ∀ value ep, (next value ep).mapEpisode change = other value (change ep)) :
    (outcome.andThen next).mapEpisode change = (outcome.mapEpisode change).andThen other := by
  cases outcome with
  | ok value ep => exact rest value ep
  | raised escape ep => rfl

namespace Episode

def StepContext.core (context : StepContext) : StepContext :=
  { context with state := context.state.core }

def RequestContext.core (context : RequestContext) : RequestContext :=
  { context with toStepContext := context.toStepContext.core }

def Preflight.core (outcome : Preflight) : Preflight :=
  match outcome with
  | .passed bound ep => .passed bound ep.core
  | .stopped ep => .stopped ep.core
  | .raised escape ep => .raised escape ep.core

/-! ## Pieces that do not look at the harness -/

section Pieces

variable (cfg : Config) (ep : Episode)

@[simp] theorem core_emit (event : Event) : (ep.emit event).core = ep.core.emit event.core := by
  simp only [core, emit, List.map_append, List.map_cons, List.map_nil]

@[simp] theorem core_note (occurrence : Occurrence) :
    (ep.note occurrence).core = ep.core.note occurrence.core := by
  simp only [core, note, List.map_append, List.map_cons, List.map_nil]

@[simp] theorem core_record_failure (label : String) :
    (ep.record_failure label).core = ep.core.record_failure label := by
  unfold record_failure
  exact apply_ite core _ _ _

/-- Requests stay in the log as they are. -/
@[simp] theorem requests_core : ep.core.requests = ep.requests := by
  show (ep.log.map Occurrence.core).filterMap _ = _
  rw [List.filterMap_map]
  apply List.filterMap_congr
  intro occurrence _
  cases occurrence <;> rfl

@[simp] theorem evaluations_core : ep.core.evaluations = ep.evaluations := by
  show (ep.log.map Occurrence.core).filterMap _ = _
  rw [List.filterMap_map]
  apply List.filterMap_congr
  intro occurrence _
  cases occurrence <;> rfl

theorem checkAnswer_core (hidden : Bool) :
    checkAnswer cfg.released hidden ep.core = checkAnswer cfg hidden ep :=
  congrArg (fun calls => cfg.evaluator calls (ep.checkCall hidden)) ep.evaluations_core

theorem core_askCheck (hidden : Bool) :
    (askCheck cfg hidden ep).core = askCheck cfg.released hidden ep.core := by
  unfold askCheck
  rw [core_note, core_emit, checkAnswer_core]
  rfl

/-- A check answers the same in both harnesses. -/
theorem check_core (hidden : Bool) :
    (check cfg hidden ep).mapEpisode core = check cfg.released hidden ep.core := by
  have answered := checkAnswer_core cfg ep hidden
  cases answer : checkAnswer cfg hidden ep with
  | result result =>
    have unchanged : (checkEvent hidden result).core = checkEvent hidden result := by
      cases hidden <;> rfl
    rw [check_of_result answer, check_of_result (answered.trans answer), ← core_askCheck]
    show Outcome.ok result ((askCheck cfg hidden ep).emit (checkEvent hidden result)).core = _
    rw [core_emit, unchanged]
  | raised escape =>
    rw [check_of_raised answer, check_of_raised (answered.trans answer), ← core_askCheck]
    rfl

theorem core_endBudget : (endBudget cfg ep).core = endBudget cfg.released ep.core := by
  unfold endBudget
  exact apply_ite core _ _ _

theorem core_stopStep : (stopStep ep).core = stopStep ep.core := rfl

theorem core_rollbackStep : (rollbackStep ep).core = rollbackStep ep.core := core_emit _ _

theorem core_exhaust (reason : String) (event : Event) (plain : event.core = event) :
    (exhaust reason event ep).core = exhaust reason event ep.core := by
  unfold exhaust
  rw [core_emit, plain]
  rfl

theorem failPreflight_core (error : PreflightError) :
    (failPreflight ep error).core = failPreflight ep.core error := by
  cases error with
  | providerError message =>
    have failed : (failPrompt message ep).core = failPrompt message ep.core := core_emit _ _
    exact congrArg Preflight.stopped failed
  | other escape => rfl

/-- A preflight reads the requests, the cost and the tokens. -/
theorem preflight_core (query : Query) :
    (preflight cfg query ep).core = preflight cfg.released query ep.core := by
  have previewed (bound : ℤ) : (previewPrompt cfg query bound ep).core =
      previewPrompt cfg.released query bound ep.core := by
    have builder : cfg.released.provider.build_messages = cfg.provider.build_messages := rfl
    unfold previewPrompt
    rw [builder]
    split
    · rfl
    · rw [requests_core]
      split
      · exact failPreflight_core ep _
      · exact congrArg (Preflight.passed bound) (core_emit ep _)
  have checked : (checkTokens cfg query ep).core = checkTokens cfg.released query ep.core := by
    have estimates : cfg.released.provider.estimate_token_bound =
        cfg.provider.estimate_token_bound := rfl
    unfold checkTokens
    rw [estimates]
    split
    · exact previewed 0
    · rw [requests_core]
      split
      · exact failPreflight_core ep _
      · rw [apply_ite Preflight.core, previewed]
        exact congrArg (ite _ · _) (congrArg Preflight.stopped (core_exhaust ep _ _ rfl))
  have estimates : cfg.released.provider.estimate_reservation_usd =
      cfg.provider.estimate_reservation_usd := rfl
  unfold preflight
  rw [estimates]
  split
  · exact checked
  · rw [requests_core]
    split
    · exact failPreflight_core ep _
    · rw [apply_ite Preflight.core, checked]
      exact congrArg (ite _ · _) (congrArg Preflight.stopped (core_exhaust ep _ _ rfl))

theorem core_beginRequest (action : Action) (role : Role) (seed : ℤ) :
    (beginRequest action role seed ep).core = beginRequest action role seed ep.core := by
  have counted (ep : Episode) : (countRetry action role ep).core =
      countRetry action role ep.core := by
    unfold countRetry
    rw [apply_ite core, core_emit]
    rfl
  have announced (ep : Episode) : (announceRequest action role seed ep).core =
      announceRequest action role seed ep.core :=
    core_emit _ _
  unfold beginRequest
  rw [announced, counted]
  rfl

theorem files_core : ep.core.files = ep.files := rfl

theorem validate_edits_released (candidate : Files) :
    validate_edits cfg.released candidate = validate_edits cfg candidate := rfl

theorem answerRequest_core (query : Query) :
    answerRequest cfg.released query ep.core = answerRequest cfg query ep :=
  congrArg (fun requests => cfg.provider.generate requests (outgoing cfg query ep))
    ep.requests_core

theorem core_noteRequest (query : Query) :
    (noteRequest cfg query ep).core = noteRequest cfg.released query ep.core := by
  unfold noteRequest
  rw [core_note, answerRequest_core]
  rfl

theorem core_recordModel (model : String) :
    (recordModel model ep).core = recordModel model ep.core := by
  have added : (addModel model ep).core = addModel model ep.core := by
    unfold addModel
    exact apply_ite core _ _ _
  have announced (ep : Episode) : (announceSwitch model ep).core =
      announceSwitch model ep.core := by
    have same : ep.core.last_model_id = ep.last_model_id := rfl
    unfold announceSwitch
    rw [same]
    split
    · rw [apply_ite core, core_emit]
      rfl
    · rfl
  have assigned (ep : Episode) : { ep with last_model_id := some model }.core =
      { ep.core with last_model_id := some model } := rfl
  unfold recordModel
  rw [assigned, announced, added]

theorem core_recordFailedModel (model : Option String) :
    (recordFailedModel model ep).core = recordFailedModel model ep.core := by
  unfold recordFailedModel
  split
  · rw [apply_ite core, core_recordModel]
  · rfl

theorem core_recordTokens (bound : ℤ) (failed : ProviderFailure) :
    (recordTokens bound failed ep).core = recordTokens bound failed ep.core := by
  unfold recordTokens
  split
  · rfl
  · exact apply_ite core _ _ _

/-- The handler of a failure takes cores to cores. -/
theorem core_recordFailedRequest (context : RequestContext) (failed : ProviderFailure) :
    (recordFailedRequest cfg context failed ep).core =
      recordFailedRequest cfg.released context.core failed ep.core := by
  have committed (ep : Episode) : (commitObserved context failed ep).core =
      commitObserved context.core failed ep.core := by
    unfold commitObserved
    exact apply_ite core _ _ _
  have ended (ep : Episode) : (endFailure failed ep).core = endFailure failed ep.core :=
    core_emit _ _
  unfold recordFailedRequest
  rw [ended, core_recordTokens, core_recordFailedModel, committed]
  rfl

theorem core_armRetry (failed : ProviderFailure) :
    (armRetry cfg failed ep).core = armRetry cfg.released failed ep.core := by
  unfold armRetry
  exact apply_ite core _ _ _

theorem core_capInvalid : ep.capInvalid.core = ep.core.capInvalid := by
  unfold capInvalid
  exact apply_ite core _ _ _

theorem core_countInvalid : (countInvalid ep).core = countInvalid ep.core :=
  core_record_failure _ _

theorem core_capSteps : (capSteps cfg ep).core = capSteps cfg.released ep.core := by
  unfold capSteps
  exact apply_ite core _ _ _

theorem core_rejectCandidate (error : String) (supplied : Files) :
    (rejectCandidate error supplied ep).core = rejectCandidate error supplied ep.core := by
  unfold rejectCandidate
  rw [core_capInvalid, core_emit, core_countInvalid]
  rfl

theorem core_applyCandidate (candidate : Files) :
    (applyCandidate cfg candidate ep).core = applyCandidate cfg.released candidate ep.core := by
  have labelled (ep : Episode) : (labelRepeated cfg candidate ep).core =
      labelRepeated cfg.released candidate ep.core := by
    unfold labelRepeated
    rw [apply_ite core, core_record_failure]
    rfl
  have added (ep : Episode) : (addSnapshot cfg candidate ep).core =
      addSnapshot cfg.released candidate ep.core := rfl
  unfold applyCandidate
  rw [added, labelled, core_emit]
  rfl

theorem core_keepBest (result : EvalResult) :
    (keepBest result ep).core = keepBest result ep.core := by
  unfold keepBest
  exact apply_ite core _ _ _

theorem core_labelResult (result : EvalResult) :
    (labelResult result ep).core = labelResult result ep.core := by
  unfold labelResult
  dsimp only
  rw [apply_ite core, core_record_failure, apply_ite core, core_record_failure]
  rfl

theorem core_recordResult (context : RequestContext) (generated : RepoResult) :
    (recordResult cfg context generated ep).core =
      recordResult cfg.released context.core generated ep.core := by
  unfold recordResult
  rw [core_emit, core_recordModel]
  rfl

/-! ### The end of an episode -/

theorem result_core : (ep.result cfg).core = ep.core.result cfg.released := by
  unfold result
  rw [if_pos (show cfg.released.harness = .repo from rfl)]
  rfl

theorem core_conclude : (conclude cfg ep).core = conclude cfg.released ep.core := by
  have described : (describeEdits cfg ep).core = describeEdits cfg.released ep.core := by
    unfold describeEdits
    exact apply_ite core _ _ _
  have announced (ep : Episode) : (announceEnd ep).core = announceEnd ep.core := core_emit _ _
  unfold conclude
  rw [announced, ← described]
  rfl

theorem grade_core : (grade cfg ep).mapEpisode core = grade cfg.released ep.core := by
  have labelled (result : EvalResult) (ep : Episode) :
      (labelGrading result ep).core = labelGrading result ep.core := by
    unfold labelGrading
    rw [apply_ite core, core_record_failure]
    rfl
  unfold grade
  rw [← check_core]
  cases check cfg true ep with
  | ok result checked => exact congrArg (Outcome.ok ()) (labelled result _)
  | raised escape left =>
    cases escape with
    | sandboxUnavailable message => exact congrArg (Outcome.ok ()) (core_emit _ _)
    | _ => rfl

theorem finish_core : (ep.finish cfg).core = ep.core.finish cfg.released := by
  have graded : (gradeRunning cfg (endDecisions ep)).mapEpisode core =
      gradeRunning cfg.released (endDecisions ep.core) := by
    unfold gradeRunning
    rw [apply_ite (Outcome.mapEpisode · core), grade_core]
    rfl
  unfold finish
  rw [apply_ite Outcome.core, ← graded]
  apply congrArg₂ (ite _) (congrArg (Outcome.ok · ep.core) (result_core cfg ep))
  cases gradeRunning cfg (endDecisions ep) with
  | ok value ended =>
    show Outcome.ok ((conclude cfg ended).result cfg).core (conclude cfg ended).core = _
    rw [result_core, core_conclude]
    rfl
  | raised escape left => rfl

end Pieces

/-! ## The overridden methods without verification -/

section Overrides

variable {cfg : Config} {ep : Episode} {enabled : Bool}
  (ablation : cfg.harness = .ablation enabled)

theorem stop_after_visible_success_core (off : cfg.harness = .ablation false) :
    stop_after_visible_success cfg.released = stop_after_visible_success cfg := by
  unfold stop_after_visible_success
  rw [off]
  rfl

include ablation

theorem observation_core : ep.core.observation cfg.released = (ep.observation cfg).core := by
  unfold observation
  rw [ablation]
  rfl

variable (unverified : ep.verified_candidates = ∅)

include unverified

omit ablation in
theorem current_verification_none : VerificationEpisode.current_verification cfg ep = none := by
  rw [VerificationEpisode.current_verification, unverified]
  rfl

/-- Nothing has been verified, so an observation shows no verification. -/
theorem verified_observation : VerificationEpisode.verified (ep.observation cfg) = none := by
  unfold observation
  rw [ablation]
  show (VerificationEpisode.current_verification cfg ep).map _ = none
  rw [current_verification_none unverified]
  rfl

theorem routing_signal_observation :
    VerificationEpisode.routing_signal (ep.observation cfg) = ep.observation cfg := by
  unfold VerificationEpisode.routing_signal
  rw [verified_observation ablation unverified]

/-- In the control arm, and in the other as long as a visible case fails, the
masks of the derived classes leave the released actions. -/
theorem legal_actions_quiet (quiet : enabled = false ∨ ¬ (ep.observation cfg).VisibleGreen) :
    ep.legal_actions cfg (ep.observation cfg) = Router.allowed_actions (ep.observation cfg) := by
  have inner : VerificationEpisode.legal_actions cfg ep (ep.observation cfg) =
      Router.allowed_actions (ep.observation cfg) := by
    unfold VerificationEpisode.legal_actions
    rw [routing_signal_observation ablation unverified]
    by_cases full : (ep.observation cfg).decisions ≥ (ep.observation cfg).max_decisions
    · rw [if_pos full, Router.allowed_actions_of_decided full]
    · rw [if_neg full]
      dsimp only
      -- "verify" is never put in front: a case fails, or no calls are left below zero
      apply if_neg
      rintro ⟨green, _, calls, _⟩
      rcases quiet with off | failing
      · subst off
        have verifications : VerificationEpisode.max_verifications cfg = 0 := if_pos ablation
        rw [verifications] at calls
        exact absurd calls (Nat.not_lt_zero _)
      · exact failing green
  unfold legal_actions
  rw [ablation]
  show AblationEpisode.legal_actions enabled cfg ep (ep.observation cfg) = _
  unfold AblationEpisode.legal_actions
  dsimp only
  rw [inner]
  split_ifs
  · rfl
  · rw [List.filter_eq_self]
    intro action legal
    have acts : action ≠ .verify := by
      rintro rfl
      exact Router.verify_not_allowed _ legal
    exact decide_eq_true acts

theorem feedback_core (action : Action) :
    ep.core.feedback cfg.released action = ep.feedback cfg action := by
  have plain : ep.feedback cfg action = VerificationEpisode.feedback cfg ep action := by
    unfold feedback
    rw [ablation]
  rw [plain]
  unfold VerificationEpisode.feedback
  rw [current_verification_none unverified]
  show RepoEpisode.feedback cfg ep action = _
  cases RepoEpisode.feedback cfg ep action <;> rfl

end Overrides

/-! ## A step of either arm -/

section Steps

variable {cfg : Config} {enabled : Bool} (ablation : cfg.harness = .ablation enabled)

include ablation

theorem core_record (context : StepContext) (ep : Episode) :
    (record cfg context ep).core = record cfg.released context.core ep.core := by
  have recorded : ep.core.observation cfg.released = (ep.observation cfg).core :=
    observation_core ablation
  unfold record
  rw [recorded]
  simp only [core, List.map_append, List.map_cons, List.map_nil]
  rfl

theorem core_close (context : StepContext) (ep : Episode) :
    (close cfg context ep).core = close cfg.released context.core ep.core := by
  unfold close
  rw [core_record ablation, core_endBudget]

theorem core_recordDecision (action : Action) (source : String) (ep : Episode) :
    (recordDecision cfg action source ep).core =
      recordDecision cfg.released action source ep.core := by
  have recorded : ep.core.observation cfg.released = (ep.observation cfg).core :=
    observation_core ablation
  unfold recordDecision
  rw [core_note, core_emit, recorded]
  rfl

theorem handleFailure_core (context : RequestContext) (failed : ProviderFailure) (ep : Episode) :
    (handleFailure cfg context failed ep).mapEpisode core =
      handleFailure cfg.released context.core failed ep.core := by
  unfold handleFailure
  dsimp only
  rw [← core_recordFailedRequest]
  split
  · rfl
  · rfl
  · split_ifs
    · rw [← core_armRetry]
      exact congrArg (Outcome.ok ()) (core_record ablation _ _)
    · have resumed (ep : Episode) : (resume ep).core = resume ep.core := rfl
      rw [← resumed, ← core_countInvalid, ← core_capSteps, ← core_capInvalid]
      exact congrArg (Outcome.ok ()) (core_record ablation _ _)
    · rfl

/-- The stop after a green candidate is the released one, or nothing stops. -/
theorem core_measureCandidate (context : RequestContext) (before : List CaseRow)
    {result : EvalResult} (quiet : enabled = false ∨ ¬ result.AllPass) (ep : Episode) :
    (measureCandidate cfg context before result ep).core =
      measureCandidate cfg.released context.core before result ep.core := by
  have stopped (ep : Episode) : (stopOnSuccess cfg result ep).core =
      stopOnSuccess cfg.released result ep.core := by
    unfold stopOnSuccess
    rcases quiet with off | failing
    · subst off
      rw [stop_after_visible_success_core ablation]
      exact apply_ite core _ _ _
    · rw [if_neg (fun green => failing green.1), if_neg (fun green => failing green.1)]
  unfold measureCandidate
  rw [stopped, core_keepBest, core_labelResult]
  rfl

end Steps

/-! ## A step of the control arm -/

section Control

variable {cfg : Config} (off : cfg.harness = .ablation false)

include off

theorem acceptCandidate_core (context : RequestContext) (candidate : Files) (ep : Episode) :
    (acceptCandidate cfg context candidate ep).mapEpisode core =
      acceptCandidate cfg.released context.core candidate ep.core := by
  unfold acceptCandidate
  rw [← core_applyCandidate, ← check_core]
  apply Outcome.mapEpisode_andThen
  intro result checked
  exact congrArg (Outcome.ok ()) (core_measureCandidate off context _ (.inl rfl) checked)

theorem handleResult_core (context : RequestContext) (generated : RepoResult) (ep : Episode) :
    (handleResult cfg context generated ep).mapEpisode core =
      handleResult cfg.released context.core generated ep.core := by
  unfold handleResult
  dsimp only
  rw [← core_recordResult, files_core, validate_edits_released]
  split
  · rw [← core_rejectCandidate]
    exact congrArg (Outcome.ok ()) (core_close off _ _)
  · rfl
  · rw [← acceptCandidate_core off]
    apply Outcome.mapEpisode_andThen
    intro _ accepted
    exact congrArg (Outcome.ok ()) (core_close off _ accepted)

theorem sendRequest_core (context : RequestContext) (query : Query) (ep : Episode) :
    (sendRequest cfg context query ep).mapEpisode core =
      sendRequest cfg.released context.core query ep.core := by
  unfold sendRequest
  rw [answerRequest_core, ← core_noteRequest]
  cases answerRequest cfg query ep with
  | result generated => exact handleResult_core off context generated _
  | failure failed => exact handleFailure_core off context failed _
  | escaped escape => rfl

theorem continueRequest_core (context : StepContext) (query : Query) (ep : Episode)
    (outcome : Preflight) :
    (continueRequest cfg context query ep outcome).mapEpisode core =
      continueRequest cfg.released context.core query ep.core outcome.core := by
  cases outcome with
  | passed bound ready =>
    show Outcome.mapEpisode (sendRequest cfg _ query _) core =
      sendRequest cfg.released _ query (beginRequest _ _ _ ready.core)
    rw [sendRequest_core off, core_beginRequest]
    rfl
  | stopped stopped => rfl
  | raised escape left => rfl

theorem requestStep_core (context : StepContext) {ep : Episode}
    (unverified : ep.verified_candidates = ∅) :
    (requestStep cfg context ep).mapEpisode core =
      requestStep cfg.released context.core ep.core := by
  have action : context.core.action = context.action := rfl
  unfold requestStep
  rw [action, feedback_core off unverified]
  split
  · rfl
  · dsimp only
    rw [continueRequest_core off, preflight_core]
    rfl

theorem act_core (context : StepContext) {ep : Episode}
    (unverified : ep.verified_candidates = ∅) :
    (act cfg context ep).mapEpisode core = act cfg.released context.core ep.core := by
  have action : context.core.action = context.action := rfl
  unfold act
  rw [action]
  split
  · rw [← core_stopStep]
    exact congrArg (Outcome.ok ()) (core_close off context _)
  · rw [← core_rollbackStep]
    exact congrArg (Outcome.ok ()) (core_close off context _)
  · exact requestStep_core off context unverified

theorem startedStep_core (action : Action) (source : String) {ep : Episode}
    (unverified : ep.verified_candidates = ∅) :
    (startedStep cfg action source ep).mapEpisode core =
      startedStep cfg.released action source ep.core := by
  have released : ep.core.legal_actions cfg.released (ep.core.observation cfg.released) =
      ep.legal_actions cfg (ep.observation cfg) := by
    rw [legal_actions_quiet off unverified (.inl rfl), observation_core off]
    rfl
  have decided : (recordDecision cfg action source ep).verified_candidates = ∅ := unverified
  unfold startedStep
  rw [released, apply_ite (Outcome.mapEpisode · core), apply_ite (Outcome.mapEpisode · core),
    act_core off _ decided, core_recordDecision off, observation_core off]
  rfl

theorem start_core (ep : Episode) :
    (ep.start cfg).mapEpisode core = ep.core.start cfg.released := by
  have begun : (beginStart cfg ep).core = beginStart cfg.released ep.core := by
    unfold beginStart
    rw [core_emit, core_emit]
    rfl
  have stopped (ep : Episode) : (stopIfGreen cfg ep).core = stopIfGreen cfg.released ep.core := by
    unfold stopIfGreen
    rw [stop_after_visible_success_core off]
    exact apply_ite core _ _ _
  unfold start
  rw [apply_ite (Outcome.mapEpisode · core), ← begun, ← check_core]
  apply congrArg (ite _ _)
  apply Outcome.mapEpisode_andThen
  intro result measured
  exact congrArg (Outcome.ok ()) (stopped _)

/-- A step that neither verifies nor counts as learned by the supervised
controller is a step of the released harness. -/
theorem step_core {action : Action} {source : String} {ep : Episode}
    (started : ep.started_flag = true) (unverified : ep.verified_candidates = ∅)
    (repairs : action ≠ .verify) (counted : source ≠ "learned_supervised_cost") :
    (ep.step cfg action source).mapEpisode core = ep.core.step cfg.released action source := by
  have learned : PilotEpisode.countLearned source ep = ep := by
    rw [PilotEpisode.countLearned, if_neg counted]
    rfl
  have inherited : ep.step cfg action source = RepoEpisode.step cfg action source ep := by
    unfold step
    rw [off]
    dsimp only
    rw [AblationEpisode.step, if_neg (fun disabled => repairs disabled.2), PilotEpisode.step,
      learned, VerificationEpisode.step, if_pos repairs]
  have released : ep.core.step cfg.released action source =
      RepoEpisode.step cfg.released action source ep.core := rfl
  have still : ep.core.started_flag = true := started
  rw [inherited, released, RepoEpisode.step, RepoEpisode.step, start_of_started cfg ep started,
    start_of_started cfg.released ep.core still]
  exact startedStep_core off action source unverified

/-! ## Waiting and retrying -/

theorem retryStep_core {ep : Episode} (started : ep.started_flag = true)
    (unverified : ep.verified_candidates = ∅) :
    (retryStep cfg ep).mapEpisode core = retryStep cfg.released ep.core := by
  have undone (ep after : Episode) : (undoProviderRetry ep.attempts after).core =
      undoProviderRetry ep.attempts after.core := by
    unfold undoProviderRetry
    exact apply_ite core _ _ _
  have stepped : (step cfg .repair "provider_retry" (countProviderRetry ep)).mapEpisode core =
      step cfg.released .repair "provider_retry" (countProviderRetry ep.core) :=
    step_core off started unverified (by decide) (by decide)
  unfold retryStep
  rw [← stepped]
  cases step cfg .repair "provider_retry" (countProviderRetry ep) with
  | ok value after => exact congrArg (Outcome.ok value) (undone ep after)
  | raised escape left => exact congrArg (Outcome.raised escape) (undone ep left)

theorem backoff_core (delay : ℚ) {ep : Episode} (started : ep.started_flag = true)
    (unverified : ep.verified_candidates = ∅) :
    (backoff cfg delay ep).mapEpisode core = backoff cfg.released delay ep.core := by
  have waiting : (beginWait delay ep).core = beginWait delay ep.core := core_emit _ _
  have cancelled : (finish cfg (cancelWait (beginWait delay ep))).core =
      finish cfg.released (cancelWait (beginWait delay ep.core)) := by
    rw [finish_core, ← waiting]
    rfl
  have retried : (retryStep cfg (beginWait delay ep)).mapEpisode core =
      retryStep cfg.released (beginWait delay ep).core :=
    retryStep_core off started unverified
  unfold backoff
  rw [apply_ite (Outcome.mapEpisode · core), retried, waiting, ← cancelled]
  apply congrArg (ite _ · _)
  cases finish cfg (cancelWait (beginWait delay ep)) <;> rfl

end Control

/-! ## A run of the control arm -/

/-- What the control arm keeps between its rounds. -/
structure Lockstep (cfg : Config) (low : ℕ) (ep : Episode) : Prop where
  started : ep.started_flag = true
  unverified : ep.verified_candidates = ∅
  metered : Metered False cfg ep.meter
  open_ : Open cfg low ep

section Runs

variable {cfg : Config} {ep : Episode} {low : ℕ} (off : cfg.harness = .ablation false)

include off

theorem Lockstep.round {later : List Observation} {after : Episode} (lockstep : Lockstep cfg low ep)
    (seen : List Observation) (returned : round cfg .select seen ep = .ok later after) :
    Lockstep cfg (low + 1) after := by
  have follows := round_follows cfg ep .select seen lockstep.started
  have stays := round_stays .select seen False.elim lockstep.metered lockstep.open_
  rw [returned] at follows stays
  have moves : Workspace.Moves cfg ep.workspace after.workspace := follows
  have unable : ¬ cfg.harness.Verifies := fun verifies => verifies.2 off
  exact ⟨moves.started_eq.trans lockstep.started,
    (moves.verified_eq unable).trans lockstep.unverified, stays.1, stays.2⟩

theorem Lockstep.fresh (lockstep : Lockstep cfg low ep) (running : ¬ ep.terminal = true) :
    (ep.observation cfg).Fresh := by
  rcases lockstep.open_.resolve_left running with ⟨early, room⟩
  unfold observation
  rw [off]
  exact early.2.2

/-- The selector of the control arm is the router on the core of the
observation, and its mask refuses nothing. -/
theorem choose_core (released : cfg.policy.Released) (lockstep : Lockstep cfg low ep)
    (running : ¬ ep.terminal = true) (seen others : List Observation) :
    ∃ selection, Selector.choose cfg .select seen ep = .ok selection ∧
      Selector.choose cfg.released .policy others ep.core = .ok selection ∧
      selection.action ≠ .verify ∧ selection.source ≠ "learned_supervised_cost" := by
  rcases Router.choose_action_released cfg.controllers.fitted_q released
    (lockstep.fresh off running) with ⟨selection, chosen, legal, counted⟩
  refine ⟨selection, ?_, ?_, ?_, counted⟩
  · show PilotEpisode.select cfg ep (ep.observation cfg) = _
    unfold PilotEpisode.select
    rw [legal_actions_quiet off lockstep.unverified (.inl rfl),
      routing_signal_observation off lockstep.unverified]
    dsimp only
    rw [if_neg (Router.verify_not_allowed _), if_neg released.2, chosen]
    exact if_neg (not_not.mpr legal)
  · show Router.choose_action cfg.policy (ep.core.observation cfg.released)
      cfg.controllers.fitted_q = _
    rw [observation_core off]
    exact chosen
  · rintro verifies
    rw [verifies] at legal
    exact Router.verify_not_allowed _ legal

/-- A round, without the observations that its selector remembers. -/
theorem round_core (released : cfg.policy.Released) (lockstep : Lockstep cfg low ep)
    (running : ¬ ep.terminal = true) (seen others : List Observation) :
    ((round cfg .select seen ep).forget).mapEpisode core =
      (round cfg.released .policy others ep.core).forget := by
  have pending : ep.core.pending_provider_delay = ep.pending_provider_delay := rfl
  unfold round
  rw [pending]
  cases ep.pending_provider_delay with
  | some delay =>
    dsimp only
    rw [← backoff_core off delay lockstep.started lockstep.unverified]
    cases backoff cfg delay ep <;> rfl
  | none =>
    rcases choose_core off released lockstep running seen others with
      ⟨selection, chosen, same, repairs, counted⟩
    dsimp only
    rw [chosen, same]
    dsimp only
    rw [← step_core off lockstep.started lockstep.unverified repairs counted]
    cases step cfg selection.action selection.source ep <;> rfl

theorem loop_core (released : cfg.policy.Released) (lockstep : Lockstep cfg low ep) (rounds : ℕ)
    (seen others : List Observation) :
    (loop cfg .select rounds seen ep).mapEpisode core =
      loop cfg.released .policy rounds others ep.core := by
  induction rounds generalizing low seen others ep with
  | zero => rfl
  | succ rounds ih =>
    have same : ep.core.terminal = ep.terminal := rfl
    unfold loop
    rw [same]
    by_cases ended : ep.terminal = true
    · rw [if_pos ended, if_pos ended]
      rfl
    · rw [if_neg ended, if_neg ended]
      -- both rounds return or both raise, and what they leave has one core
      have stepped := round_core off released lockstep ended seen others
      cases first : round cfg .select seen ep with
      | ok later after =>
        have kept : Lockstep cfg (low + 1) after := lockstep.round off seen first
        rw [first] at stepped
        cases second : round cfg.released .policy others ep.core with
        | ok more next =>
          rw [second] at stepped
          cases stepped
          exact ih kept later more
        | raised escape left =>
          rw [second] at stepped
          cases stepped
      | raised escape left =>
        rw [first] at stepped
        cases second : round cfg.released .policy others ep.core with
        | ok more next =>
          rw [second] at stepped
          cases stepped
        | raised cause other =>
          rw [second] at stepped
          cases stepped
          rfl

/-- The loops of the two harnesses, each from its own initial episode. -/
theorem drive_core (released : cfg.policy.Released) :
    (drive cfg .select (initial cfg)).mapEpisode core =
      drive cfg.released .policy (initial cfg.released) := by
  have begun : ((initial cfg).start cfg).mapEpisode core =
      (initial cfg.released).start cfg.released := start_core off _
  have stays : Stays False cfg 0 ((initial cfg).start cfg) :=
    start_stays (initial_metered False cfg) (initial_open cfg)
  unfold drive
  rw [← begun]
  rcases start_cases cfg with ⟨started, same, baseline⟩ | ⟨escape, left, same, _⟩
  · rw [same] at stays
    rw [same]
    exact loop_core off released ⟨baseline.started, baseline.verified, stays.1, stays.2⟩ _ _ _
  · rw [same]
    rfl

end Runs

/-- The control arm of the ablation is the released harness.  With verification
disabled and one of the released policies, a run that chooses by `select` is,
up to the extra keys of its observations and the verification report, the run
of the released harness with the same artifact: the same decisions with their
sources, requests, evaluations and answers, the same events and transitions,
the same result. -/
theorem control_arm_released (cfg : Config) (off : cfg.harness = .ablation false)
    (released : cfg.policy.Released) :
    (run_episode cfg .select).core = run_episode cfg.released .policy := by
  unfold run_episode
  rw [← drive_core off released]
  cases drive cfg .select (initial cfg) with
  | ok value ended => exact finish_core cfg ended
  | raised escape left =>
    cases escape with
    | sandboxUnavailable message =>
      have failed : (failExecution message left).core = failExecution message left.core :=
        core_emit _ _
      exact (finish_core cfg _).trans (congrArg (finish cfg.released) failed)
    | _ => rfl

/-- The control arm of the small episode. -/
def smallControl (evaluator : Evaluator) : Config :=
  { smallConfig evaluator with harness := .ablation false }

theorem control_arm_released_small :
    (run_episode (smallControl fun _ _ => oneCase false) .select).core =
      run_episode (smallControl fun _ _ => oneCase false).released .policy :=
  control_arm_released _ rfl (by decide)

end Episode

end ForgeRL
