import ForgeRL.Bench.Run
import Mathlib.Logic.Relation

namespace ForgeRL

open Library

/-!
# The workspace of an episode

Seen from the repository, an episode does very little: it writes something
down, it restores the best files together with their result, and it replaces
the files by a candidate together with the result of checking it.  `Move` is
this abstract machine, and every step of the engine is a sequence of its
moves, unless the check of a candidate raises: then the files are already
replaced and the result is still the old one.
-/

structure Workspace where
  files : Files
  best_files : Files
  publicResult : EvalResult
  bestPublic : EvalResult
  hidden : Option EvalResult
  started : Bool
  public_measured : Bool
  completed : Bool
  verified : Dict Text EvalResult
  log : List Occurrence

/-- The classes that verify on their own. -/
def Harness.Verifies (harness : Harness) : Prop := harness ≠ .repo ∧ harness ≠ .ablation false

/-- Neither a check of the task's visible cases nor a hidden one. -/
def Occurrence.Quiet (occurrence : Occurrence) : Prop :=
  match occurrence with
  | .evaluation call _ => call.checks = .supplemental
  | _ => True

namespace Workspace

/-- A visible check of some files, with its answer. -/
def visible (files : Files) (outcome : EvalOutcome) : Occurrence :=
  .evaluation ⟨.visible, files⟩ outcome

def note (space : Workspace) (occurrence : Occurrence) : Workspace :=
  { space with log := space.log ++ [occurrence] }

/-- Some exit of a step gives the episode a status other than "completed". -/
def withdraw (space : Workspace) : Workspace := { space with completed := false }

def restore (space : Workspace) : Workspace :=
  { space with files := space.best_files, publicResult := space.bestPublic }

/-- Replace the files by a candidate and check it. -/
def attempt (space : Workspace) (candidate : Files) (outcome : EvalOutcome) : Workspace :=
  { space with files := candidate }.note (visible candidate outcome)

/-- Take the result of the current files, and keep the better checkpoint. -/
def settle (space : Workspace) (result : EvalResult) : Workspace :=
  { space with
    publicResult := result
    best_files := if result.passed > space.bestPublic.passed then space.files else space.best_files
    bestPublic := if result.passed > space.bestPublic.passed then result else space.bestPublic }

/-- The check of the candidate has returned. -/
def measure (space : Workspace) (candidate : Files) (result : EvalResult) : Workspace :=
  (space.attempt candidate (.result result)).settle result

/-- The check of the candidate has raised. -/
def strand (space : Workspace) (candidate : Files) (escape : Escape) : Workspace :=
  space.attempt candidate (.raised escape)

inductive Move (cfg : Config) : Workspace → Workspace → Prop where
  | noted (space : Workspace) (occurrence : Occurrence) (quiet : occurrence.Quiet) :
      Move cfg space (space.note occurrence)
  | withdrawn (space : Workspace) : Move cfg space space.withdraw
  | stored (space : Workspace) (verified : Dict Text EvalResult)
      (verifies : cfg.harness.Verifies) : Move cfg space { space with verified := verified }
  | restored (space : Workspace) : Move cfg space space.restore
  | measured (space : Workspace) (calls : List EvalCall) (candidate : Files) (result : EvalResult)
      (answer : cfg.evaluator calls ⟨.visible, candidate⟩ = .result result) :
      Move cfg space (space.measure candidate result)

abbrev Moves (cfg : Config) : Workspace → Workspace → Prop := Relation.ReflTransGen (Move cfg)

/-! ## What moves keep -/

/-- In this run the evaluator was called so, and returned this result. -/
structure Returned (cfg : Config) (log : List Occurrence) (call : EvalCall) (result : EvalResult) :
    Prop where
  logged : .evaluation call (.result result) ∈ log
  answered : ∃ calls, cfg.evaluator calls call = .result result

/-- Both remembered results belong to the files beside them. -/
structure Tied (cfg : Config) (space : Workspace) : Prop where
  current : Returned cfg space.log ⟨.visible, space.files⟩ space.publicResult
  best : Returned cfg space.log ⟨.visible, space.best_files⟩ space.bestPublic

/-- No hidden case has been run, and none is claimed. -/
structure Ungraded (space : Workspace) : Prop where
  hidden : space.hidden = none
  open_ : space.completed = false
  unlogged : ∀ files outcome, .evaluation ⟨.hidden, files⟩ outcome ∉ space.log

variable {cfg : Config} {space later : Workspace}

theorem Returned.append {log : List Occurrence} {call : EvalCall} {result : EvalResult}
    (returned : Returned cfg log call result) (more : List Occurrence) :
    Returned cfg (log ++ more) call result :=
  ⟨List.mem_append_left more returned.logged, returned.answered⟩

theorem Tied.move (tied : Tied cfg space) (move : Move cfg space later) : Tied cfg later := by
  cases move with
  | noted occurrence => exact ⟨tied.current.append _, tied.best.append _⟩
  | withdrawn => exact ⟨tied.current, tied.best⟩
  | stored => exact ⟨tied.current, tied.best⟩
  | restored => exact ⟨tied.best, tied.best⟩
  | measured calls candidate result answer =>
    have fresh : Returned cfg (space.log ++ [visible candidate (.result result)])
        ⟨.visible, candidate⟩ result :=
      ⟨List.mem_append_right _ (List.mem_singleton_self _), ⟨calls, answer⟩⟩
    refine ⟨fresh, ?_⟩
    show Returned cfg _
      ⟨.visible, if result.passed > space.bestPublic.passed then candidate else space.best_files⟩
      (if result.passed > space.bestPublic.passed then result else space.bestPublic)
    split_ifs
    · exact fresh
    · exact tied.best.append _

theorem Ungraded.note (ungraded : Ungraded space) (occurrence : Occurrence)
    (visible : ∀ files outcome, occurrence ≠ .evaluation ⟨.hidden, files⟩ outcome) :
    Ungraded (space.note occurrence) where
  hidden := ungraded.hidden
  open_ := ungraded.open_
  unlogged files outcome member := by
    rcases List.mem_append.mp member with earlier | now
    · exact ungraded.unlogged files outcome earlier
    · exact visible files outcome (List.mem_singleton.mp now).symm

theorem Ungraded.withdraw_eq (ungraded : Ungraded space) : space.withdraw = space := by
  rw [withdraw, ← ungraded.open_]

theorem Ungraded.withdraw (ungraded : Ungraded space) : Ungraded space.withdraw :=
  ⟨ungraded.hidden, rfl, ungraded.unlogged⟩

theorem Ungraded.strand (ungraded : Ungraded space) (candidate : Files) (escape : Escape) :
    Ungraded (space.strand candidate escape) where
  hidden := ungraded.hidden
  open_ := ungraded.open_
  unlogged := (ungraded.note (visible candidate (.raised escape))
    (fun _ _ same => by cases same)).unlogged

theorem Ungraded.move (ungraded : Ungraded space) (move : Move cfg space later) :
    Ungraded later := by
  cases move with
  | noted occurrence quiet =>
    apply ungraded.note occurrence
    rintro files outcome rfl
    cases quiet
  | withdrawn => exact ungraded.withdraw
  | stored => exact ⟨ungraded.hidden, ungraded.open_, ungraded.unlogged⟩
  | restored => exact ⟨ungraded.hidden, ungraded.open_, ungraded.unlogged⟩
  | measured calls candidate result answer =>
    exact ⟨ungraded.hidden, ungraded.open_,
      (ungraded.note (visible candidate (.result result))
        (fun _ _ same => by cases same)).unlogged⟩

/-- What every move keeps, every sequence of moves keeps. -/
theorem Moves.keep {holds : Workspace → Prop}
    (kept : ∀ {space later}, holds space → Move cfg space later → holds later)
    (moves : Moves cfg space later) (start : holds space) : holds later := by
  induction moves with
  | refl => exact start
  | tail _ move ih => exact kept ih move

theorem Moves.tied (moves : Moves cfg space later) (tied : Tied cfg space) : Tied cfg later :=
  moves.keep Tied.move tied

theorem Moves.ungraded (moves : Moves cfg space later) (ungraded : Ungraded space) :
    Ungraded later :=
  moves.keep Ungraded.move ungraded

theorem Moves.started_eq (moves : Moves cfg space later) : later.started = space.started := by
  induction moves with
  | refl => rfl
  | tail _ move ih =>
    rw [← ih]
    cases move <;> rfl

theorem Moves.verified_eq (moves : Moves cfg space later) (off : ¬ cfg.harness.Verifies) :
    later.verified = space.verified := by
  induction moves with
  | refl => rfl
  | tail _ move ih =>
    rw [← ih]
    cases move with
    | stored _ verifies => exact absurd verifies off
    | _ => rfl

theorem Moves.log_prefix (moves : Moves cfg space later) : space.log <+: later.log := by
  induction moves with
  | refl => exact List.prefix_rfl
  | tail _ move ih =>
    apply ih.trans
    cases move with
    | noted occurrence => exact List.prefix_append _ _
    | withdrawn => exact List.prefix_rfl
    | stored => exact List.prefix_rfl
    | restored => exact List.prefix_rfl
    | measured calls candidate result => exact List.prefix_append _ _

end Workspace

/-! ## The workspace of each piece of a step -/

namespace Episode

open Workspace

def workspace (ep : Episode) : Workspace where
  files := ep.files
  best_files := ep.best_files
  publicResult := ep.publicResult
  bestPublic := ep.bestPublic
  hidden := ep.hidden
  started := ep.started_flag
  public_measured := ep.public_measured
  completed := decide (ep.status = .completed)
  verified := ep.verified_candidates
  log := ep.log

section Pieces

variable (cfg : Config) (ep : Episode)

@[simp] theorem workspace_emit (event : Event) : (ep.emit event).workspace = ep.workspace := rfl

@[simp] theorem workspace_record_failure (label : String) :
    (ep.record_failure label).workspace = ep.workspace := by
  rcases record_failure_eq ep label with ⟨labels, same⟩
  rw [same]
  rfl

@[simp] theorem workspace_record (context : StepContext) :
    (record cfg context ep).workspace = ep.workspace := rfl

@[simp] theorem workspace_close (context : StepContext) :
    (close cfg context ep).workspace = ep.workspace := by
  rcases endBudget_eq cfg ep with ⟨terminal, reason, same⟩
  rw [close, same]
  rfl

@[simp] theorem workspace_stopStep : ep.stopStep.workspace = ep.workspace := rfl

@[simp] theorem workspace_beginRequest (action : Action) (role : Role) (seed : ℤ) :
    (beginRequest action role seed ep).workspace = ep.workspace := by
  rcases countRetry_eq { ep with attempts := ep.attempts + 1 } action role with ⟨events, same⟩
  rw [beginRequest, same]
  rfl

@[simp] theorem workspace_recordModel (model : String) :
    (recordModel model ep).workspace = ep.workspace := by
  rcases recordModel_eq ep model with ⟨models, events, same⟩
  rw [same]
  rfl

@[simp] theorem workspace_recordFailedModel (model : Option String) :
    (recordFailedModel model ep).workspace = ep.workspace := by
  rcases recordFailedModel_eq ep model with ⟨models, events, last, same⟩
  rw [same]
  rfl

@[simp] theorem workspace_recordTokens (bound : ℤ) (failed : ProviderFailure) :
    (recordTokens bound failed ep).workspace = ep.workspace := by
  rcases recordTokens_eq ep bound failed with ⟨tokens, complete, unknown, same⟩
  rw [same]
  rfl

@[simp] theorem workspace_commitObserved (context : RequestContext) (failed : ProviderFailure) :
    (commitObserved context failed ep).workspace = ep.workspace := by
  unfold commitObserved
  split_ifs <;> rfl

theorem workspace_endFailure (failed : ProviderFailure) :
    (endFailure failed ep).workspace = ep.workspace.withdraw := by
  have status : failedStatus failed.kind ≠ .completed := by
    cases failed.kind <;> decide
  show { ep.workspace with completed := decide (failedStatus failed.kind = Status.completed) } = _
  rw [decide_eq_false status]
  rfl

@[simp] theorem workspace_recordFailedRequest (context : RequestContext)
    (failed : ProviderFailure) :
    (recordFailedRequest cfg context failed ep).workspace = ep.workspace.withdraw := by
  rw [recordFailedRequest, workspace_endFailure, workspace_recordTokens,
    workspace_recordFailedModel, workspace_commitObserved]
  rfl

@[simp] theorem workspace_resume : (resume ep).workspace = ep.workspace.withdraw := rfl

theorem workspace_armRetry (failed : ProviderFailure) {space : Workspace}
    (ended : ep.workspace = space.withdraw) :
    (armRetry cfg failed ep).workspace = space.withdraw := by
  unfold armRetry
  split_ifs
  · calc (resume ep).workspace = ep.workspace.withdraw := workspace_resume ep
      _ = space.withdraw := by rw [ended]; rfl
  · exact ended

@[simp] theorem workspace_countInvalid : (countInvalid ep).workspace = ep.workspace :=
  workspace_record_failure _ _

@[simp] theorem workspace_capSteps : (capSteps cfg ep).workspace = ep.workspace := by
  rcases capSteps_eq cfg ep with ⟨terminal, reason, same⟩
  rw [same]
  rfl

@[simp] theorem workspace_capInvalid : ep.capInvalid.workspace = ep.workspace := by
  rcases capInvalid_eq ep with ⟨terminal, reason, same⟩
  rw [same]
  rfl

@[simp] theorem workspace_rejectCandidate (error : String) (supplied : Files) :
    (rejectCandidate error supplied ep).workspace = ep.workspace := by
  rw [rejectCandidate, workspace_capInvalid, workspace_emit, workspace_countInvalid]

@[simp] theorem workspace_applyCandidate (candidate : Files) :
    (applyCandidate cfg candidate ep).workspace = { ep.workspace with files := candidate } := by
  rcases applyCandidate_eq cfg ep candidate with ⟨labels, events, same⟩
  rw [same]
  rfl

theorem workspace_measureCandidate (context : RequestContext) (before : List CaseRow)
    (result : EvalResult) :
    (measureCandidate cfg context before result ep).workspace = ep.workspace.settle result := by
  rcases measureCandidate_eq cfg ep context before result with
    ⟨regressions, labels, terminal, reason, same⟩
  rw [same]
  rfl

@[simp] theorem workspace_recordResult (context : RequestContext) (generated : RepoResult) :
    (recordResult cfg context generated ep).workspace = ep.workspace := by
  rw [recordResult, workspace_emit, workspace_recordModel]
  rfl

end Pieces

/-! ## Methods as sequences of moves -/

/-- A method that returns makes moves; one that raises may also leave the files
of a candidate whose check has raised. -/
def Follows {α : Type} (cfg : Config) (space : Workspace) (outcome : Outcome α) : Prop :=
  match outcome with
  | .ok _ ep => Moves cfg space ep.workspace
  | .raised _ ep =>
    Moves cfg space ep.workspace ∨
      ∃ between candidate escape, Moves cfg space between ∧
        ep.workspace = between.strand candidate escape

section Follows

variable {α β : Type} {cfg : Config} {space between : Workspace}

theorem Follows.after {outcome : Outcome α} (moves : Moves cfg space between)
    (follows : Follows cfg between outcome) : Follows cfg space outcome := by
  cases outcome with
  | ok value ep => exact moves.trans follows
  | raised escape ep =>
    rcases follows with more | ⟨last, candidate, cause, more, stranded⟩
    · exact .inl (moves.trans more)
    · exact .inr ⟨last, candidate, cause, moves.trans more, stranded⟩

theorem Follows.andThen {outcome : Outcome α} {next : α → Episode → Outcome β}
    (first : Follows cfg space outcome)
    (rest : ∀ value ep, Moves cfg space ep.workspace → Follows cfg ep.workspace (next value ep)) :
    Follows cfg space (outcome.andThen next) := by
  cases outcome with
  | ok value ep => exact (rest value ep first).after first
  | raised escape ep => exact first

theorem Follows.mapEpisode {outcome : Outcome α} {change : Episode → Episode}
    (follows : Follows cfg space outcome)
    (same : ∀ ep, (change ep).workspace = ep.workspace) :
    Follows cfg space (outcome.mapEpisode change) := by
  cases outcome with
  | ok value ep =>
    show Moves cfg space (change ep).workspace
    rw [same]
    exact follows
  | raised escape ep =>
    show Moves cfg space (change ep).workspace ∨ _
    rw [same]
    exact follows

/-- A method that leaves the workspace as it is. -/
theorem Follows.of_eq {outcome : Outcome α} (same : outcome.episode.workspace = space) :
    Follows cfg space outcome := by
  cases outcome with
  | ok value ep => exact same ▸ .refl
  | raised escape ep => exact .inl (same ▸ .refl)

theorem Follows.ok {value : α} {ep : Episode} (same : ep.workspace = space) :
    Follows cfg space (.ok value ep) :=
  Follows.of_eq same

theorem Follows.of_withdraw {outcome : Outcome α}
    (same : outcome.episode.workspace = space.withdraw) : Follows cfg space outcome :=
  (Follows.of_eq same).after (.single (.withdrawn space))

/-- A log is never cut. -/
theorem Follows.log_grows {outcome : Outcome α} (follows : Follows cfg space outcome) :
    space.log <+: outcome.episode.log := by
  cases outcome with
  | ok value ep => exact Moves.log_prefix follows
  | raised escape ep =>
    rcases follows with moves | ⟨between, candidate, cause, moves, stranded⟩
    · exact Moves.log_prefix moves
    · have logged : ep.log = between.log ++ [visible candidate (.raised cause)] :=
        congrArg Workspace.log stranded
      exact moves.log_prefix.trans ⟨_, logged.symm⟩

end Follows

section Steps

variable (cfg : Config) (ep : Episode)

@[simp] theorem workspace_askCheck : (askCheck cfg false ep).workspace =
    ep.workspace.note (visible ep.files (checkAnswer cfg false ep)) := rfl

/-- Checking an applied candidate measures it or strands its files. -/
theorem acceptCandidate_follows (context : RequestContext) (candidate : Files) :
    Follows cfg ep.workspace (acceptCandidate cfg context candidate ep) := by
  have files : (applyCandidate cfg candidate ep).files = candidate :=
    congrArg Workspace.files (workspace_applyCandidate cfg ep candidate)
  have asked : (askCheck cfg false (applyCandidate cfg candidate ep)).workspace =
      ep.workspace.attempt candidate (checkAnswer cfg false (applyCandidate cfg candidate ep)) := by
    rw [workspace_askCheck, workspace_applyCandidate, files]
    rfl
  unfold acceptCandidate check
  cases answer : checkAnswer cfg false (applyCandidate cfg candidate ep) with
  | result result =>
    have answered : cfg.evaluator (applyCandidate cfg candidate ep).evaluations
        ⟨.visible, candidate⟩ = .result result := by
      rw [← answer, checkAnswer, checkCall, files]
      rfl
    have measured := workspace_measureCandidate cfg
      ((askCheck cfg false (applyCandidate cfg candidate ep)).emit (.tests result))
      context ep.publicResult.cases result
    rw [workspace_emit, asked, answer] at measured
    exact .single (measured ▸ Move.measured ep.workspace _ candidate result answered)
  | raised escape =>
    right
    refine ⟨_, candidate, escape, .refl, ?_⟩
    rw [asked, answer]
    rfl

theorem handleResult_follows (context : RequestContext) (generated : RepoResult) :
    Follows cfg ep.workspace (handleResult cfg context generated ep) := by
  have recorded := workspace_recordResult cfg ep context generated
  unfold handleResult
  dsimp only
  split
  · apply Follows.of_eq
    simp only [Outcome.episode, workspace_close, workspace_rejectCandidate, recorded]
  · exact Follows.of_eq recorded
  · rw [← recorded]
    apply (acceptCandidate_follows cfg _ context _).andThen
    intro _ accepted _
    exact Follows.of_eq (workspace_close cfg accepted context.toStepContext)

theorem handleFailure_follows (context : RequestContext) (failed : ProviderFailure) :
    Follows cfg ep.workspace (handleFailure cfg context failed ep) := by
  have recorded := workspace_recordFailedRequest cfg ep context failed
  apply Follows.of_withdraw
  unfold handleFailure
  dsimp only
  split
  · exact recorded
  · exact recorded
  · split_ifs
    · exact workspace_armRetry cfg _ failed recorded
    · simp only [Outcome.episode, workspace_record, workspace_capInvalid, workspace_capSteps,
        workspace_countInvalid, workspace_resume, recorded]
      rfl
    · exact recorded

theorem sendRequest_follows (context : RequestContext) (query : Query) :
    Follows cfg ep.workspace (sendRequest cfg context query ep) := by
  have noted : Moves cfg ep.workspace (noteRequest cfg query ep).workspace :=
    .single (.noted ep.workspace _ trivial)
  unfold sendRequest
  split
  · exact (handleResult_follows cfg _ context _).after noted
  · exact (handleFailure_follows cfg _ context _).after noted
  · exact .inl noted

theorem requestStep_follows (context : StepContext) :
    Follows cfg ep.workspace (requestStep cfg context ep) := by
  unfold requestStep
  dsimp only
  split
  · exact Follows.of_eq rfl
  next fields _ =>
    generalize Query.mk _ _ _ _ = query
    have cases_ := preflight_cases cfg query ep
    generalize preflight cfg query ep = preflighted at cases_
    cases cases_ with
    | exhausted reason event => exact Follows.of_withdraw rfl
    | failed message => exact Follows.of_withdraw rfl
    | raised escape => exact Follows.of_eq rfl
    | passed bound ready same =>
      have begun : (beginRequest context.action query.role cfg.seed ready).workspace =
          ep.workspace := by
        rw [workspace_beginRequest]
        rcases same with rfl | ⟨event, rfl⟩ <;> rfl
      rw [← begun]
      exact sendRequest_follows cfg _ _ query

theorem act_follows (context : StepContext) : Follows cfg ep.workspace (act cfg context ep) := by
  unfold act
  split
  · apply Follows.ok
    rw [workspace_close, workspace_stopStep]
  · have restored : Moves cfg ep.workspace ep.rollbackStep.workspace := .single (.restored _)
    exact (Follows.ok (workspace_close cfg _ context)).after restored
  · exact requestStep_follows cfg ep context

theorem startedStep_follows (action : Action) (source : String) :
    Follows cfg ep.workspace (startedStep cfg action source ep) := by
  unfold startedStep
  split_ifs
  · exact Follows.of_eq rfl
  · apply (act_follows cfg _ _).after
    exact .single (.noted ep.workspace _ trivial)
  · exact Follows.of_eq rfl

theorem start_of_started (started : ep.started_flag = true) : ep.start cfg = .ok () ep := by
  rw [start, if_pos started]

theorem repoStep_follows (started : ep.started_flag = true) (action : Action) (source : String) :
    Follows cfg ep.workspace (RepoEpisode.step cfg action source ep) := by
  rw [RepoEpisode.step, start_of_started cfg ep started]
  exact startedStep_follows cfg ep action source

theorem workspace_acceptVerification (state : Observation) (files_sha256 : Text)
    (result : EvalResult) :
    (VerificationEpisode.acceptVerification cfg state files_sha256 result ep).workspace =
      { ep.workspace with verified := Dict.set ep.verified_candidates files_sha256 result } := by
  have labelled (ep : Episode) :
      (VerificationEpisode.labelVerification result ep).workspace = ep.workspace := by
    unfold VerificationEpisode.labelVerification
    split_ifs
    · exact workspace_record_failure ep _
    · rfl
  have capped (ep : Episode) :
      (VerificationEpisode.capDecisions cfg ep).workspace = ep.workspace := by
    unfold VerificationEpisode.capDecisions
    split_ifs <;> rfl
  calc (VerificationEpisode.acceptVerification cfg state files_sha256 result ep).workspace
      = (VerificationEpisode.capDecisions cfg _).workspace := rfl
    _ = (VerificationEpisode.labelVerification result
          (VerificationEpisode.storeVerification files_sha256 result ep)).workspace := capped _
    _ = (VerificationEpisode.storeVerification files_sha256 result ep).workspace := labelled _

theorem verify_follows (source : String) (verifies : cfg.harness.Verifies) :
    Follows cfg ep.workspace (VerificationEpisode.verify cfg source ep) := by
  have asked : Moves cfg ep.workspace
      (VerificationEpisode.askVerification cfg source ep).workspace :=
    (Relation.ReflTransGen.single (.noted ep.workspace
      (.decision .verify source (ep.observation cfg)) trivial)).tail
      (.noted _ (.evaluation ⟨.supplemental, ep.files⟩ (VerificationEpisode.verifyAnswer cfg ep)) rfl)
  unfold VerificationEpisode.verify
  split
  next escape _ =>
    rcases VerificationEpisode.reportUnavailable_eq escape (cfg.fingerprint ep.files)
      (VerificationEpisode.askVerification cfg source ep) with ⟨events, same⟩
    rw [same]
    exact .inl asked
  · split_ifs
    · exact .inl asked
    · refine (Follows.ok (workspace_acceptVerification cfg _ _ _ _)).after (asked.tail ?_)
      exact .stored _ _ verifies

theorem verificationStep_follows (started : ep.started_flag = true) (action : Action)
    (source : String) (verifies : action = .verify → cfg.harness.Verifies) :
    Follows cfg ep.workspace (VerificationEpisode.step cfg action source ep) := by
  unfold VerificationEpisode.step
  split_ifs with repairs
  · exact repoStep_follows cfg ep started action source
  · rw [start_of_started cfg ep started]
    show Follows cfg ep.workspace (ite _ _ _)
    split_ifs
    · exact Follows.of_eq rfl
    · exact verify_follows cfg ep source (verifies (not_not.mp repairs))
    · exact Follows.of_eq rfl

/-- A step of any of the four classes is a sequence of moves. -/
theorem step_follows (started : ep.started_flag = true) (action : Action) (source : String) :
    Follows cfg ep.workspace (step cfg action source ep) := by
  have piloted (verifies : action = .verify → cfg.harness.Verifies) :
      Follows cfg ep.workspace (PilotEpisode.step cfg action source ep) :=
    verificationStep_follows cfg (PilotEpisode.countLearned source ep) started action source verifies
  unfold step
  split
  next => exact repoStep_follows cfg ep started action source
  next harness =>
    exact verificationStep_follows cfg ep started action source
      fun _ => by simp [Harness.Verifies, harness]
  next harness => exact piloted fun _ => by simp [Harness.Verifies, harness]
  next verify_enabled harness =>
    unfold AblationEpisode.step
    split_ifs with disabled
    · exact Follows.of_eq rfl
    · apply piloted
      rintro rfl
      have enabled : verify_enabled = true := by
        by_contra off
        exact disabled ⟨off, rfl⟩
      simp [Harness.Verifies, harness, enabled]

theorem retryStep_follows (started : ep.started_flag = true) :
    Follows cfg ep.workspace (retryStep cfg ep) := by
  apply Follows.mapEpisode (step_follows cfg (countProviderRetry ep) started .repair _)
  intro after
  unfold undoProviderRetry
  split_ifs <;> rfl

theorem workspace_conclude : (conclude cfg ep).workspace = ep.workspace := by
  unfold conclude describeEdits
  split_ifs <;> rfl

theorem backoff_follows (started : ep.started_flag = true) (delay : ℚ) :
    Follows cfg ep.workspace (backoff cfg delay ep) := by
  unfold backoff
  split_ifs
  · -- a cancelled wait finishes the episode without grading, and raises
    have interrupted : (cancelWait (beginWait delay ep)).workspace = ep.workspace.withdraw := rfl
    apply Follows.of_withdraw
    by_cases finished : (cancelWait (beginWait delay ep)).finished = true
    · rw [finish_of_finished finished]
      exact interrupted
    · rw [finish_of_not_running finished (by simp [cancelWait])]
      exact (workspace_conclude cfg _).trans interrupted
  · exact retryStep_follows cfg (beginWait delay ep) started

theorem round_follows (selector : Selector) (seen : List Observation)
    (started : ep.started_flag = true) :
    Follows cfg ep.workspace (round cfg selector seen ep) := by
  unfold round
  split
  · exact (backoff_follows cfg ep started _).andThen fun _ _ _ => Follows.ok rfl
  · split
    · exact Follows.of_eq rfl
    · exact (step_follows cfg ep started _ _).andThen fun _ _ _ => Follows.ok rfl

/-- The loop makes moves, whatever the number of its rounds. -/
theorem loop_follows (selector : Selector) (rounds : ℕ) (seen : List Observation)
    (started : ep.started_flag = true) :
    Follows cfg ep.workspace (loop cfg selector rounds seen ep) := by
  induction rounds generalizing seen ep with
  | zero => exact Follows.ok rfl
  | succ rounds ih =>
    unfold loop
    split_ifs
    · exact Follows.ok rfl
    · apply (round_follows cfg ep selector seen started).andThen
      intro later after moves
      have still : after.started_flag = true := moves.started_eq.trans started
      exact ih after later still

end Steps

/-! ## The run of an episode -/

/-- The state after the first check has returned. -/
structure Baseline (cfg : Config) (space : Workspace) : Prop where
  tied : Tied cfg space
  ungraded : Ungraded space
  started : space.started = true
  measured : space.public_measured = true
  verified : space.verified = ∅
  logged : ∃ files outcome, space.log = [visible files outcome]

/-- The state after the first check has raised. -/
structure Unmeasured (space : Workspace) : Prop where
  ungraded : Ungraded space
  unmeasured : space.public_measured = false

theorem start_cases (cfg : Config) :
    (∃ started, (initial cfg).start cfg = .ok () started ∧ Baseline cfg started.workspace) ∨
    (∃ escape left, (initial cfg).start cfg = .raised escape left ∧ Unmeasured left.workspace) := by
  have unlogged (outcome : EvalOutcome) (files : Files) (hidden : EvalOutcome) :
      Occurrence.evaluation ⟨.hidden, files⟩ hidden ∉ [visible cfg.task.files outcome] := by
    simp [visible]
  have unfolded : (initial cfg).start cfg =
      (check cfg false (beginStart cfg (initial cfg))).andThen fun result measured =>
        .ok () (stopIfGreen cfg (assignBaseline result measured)) := rfl
  rw [unfolded, check]
  cases answer : checkAnswer cfg false (beginStart cfg (initial cfg)) with
  | result result =>
    left
    refine ⟨_, rfl, ?_⟩
    have assigned : (stopIfGreen cfg (assignBaseline result
        ((askCheck cfg false (beginStart cfg (initial cfg))).emit (.tests result)))).workspace =
        { (initial cfg).workspace with
          publicResult := result
          bestPublic := result
          public_measured := true
          started := true
          log := [visible cfg.task.files (.result result)] } := by
      rw [← answer]
      unfold stopIfGreen
      split_ifs <;> rfl
    have returned : Returned cfg [visible cfg.task.files (.result result)]
        ⟨.visible, cfg.task.files⟩ result :=
      ⟨List.mem_singleton_self _, ⟨_, answer⟩⟩
    exact assigned ▸ ⟨⟨returned, returned⟩, ⟨rfl, rfl, fun files outcome => unlogged _ files outcome⟩,
      rfl, rfl, rfl, ⟨_, _, rfl⟩⟩
  | raised escape =>
    right
    refine ⟨escape, _, rfl, ⟨⟨rfl, rfl, ?_⟩, rfl⟩⟩
    exact fun files outcome => unlogged _ files outcome

/-- A run starts with the first check and goes on with moves. -/
theorem drive_cases (cfg : Config) (selector : Selector) :
    (∃ space, Baseline cfg space ∧ Follows cfg space (drive cfg selector (initial cfg))) ∨
    (∃ escape left, drive cfg selector (initial cfg) = .raised escape left ∧
      Unmeasured left.workspace) := by
  rcases start_cases cfg with ⟨started, same, baseline⟩ | ⟨escape, left, same, unmeasured⟩
  · refine .inl ⟨started.workspace, baseline, ?_⟩
    rw [drive, same]
    exact loop_follows cfg started selector _ _ baseline.started
  · refine .inr ⟨escape, left, ?_, unmeasured⟩
    rw [drive, same]
    rfl

end Episode

end ForgeRL
