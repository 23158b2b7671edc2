import ForgeRL.Bench.Workspace

namespace ForgeRL

open Library

/-!
# What the result of a run says of its files

A run ends in `finish`, which grades an episode that is still running and
nothing else.  Up to there the workspace has only made moves, so the visible
result belongs to the final files; the one exception is a candidate whose
check raises.  An unavailable sandbox then fails the episode, so that "solved"
stays sound, but the reported visible count is still the one of the files
before the candidate.
-/

namespace Episode

open Workspace

/-- The hidden check of some files, with its answer. -/
def hiddenCheck (files : Files) (outcome : EvalOutcome) : Occurrence :=
  .evaluation ⟨.hidden, files⟩ outcome

/-- The workspace after the hidden check has returned. -/
def graded (space : Workspace) (result : EvalResult) : Workspace :=
  { space.note (hiddenCheck space.files (.result result)) with
    hidden := some result
    completed := true }

/-- Everything that `finish` can do to an ungraded episode. -/
inductive Finished (cfg : Config) (ended : Episode) : Outcome EpisodeResult → Prop where
  | ungraded (done : Episode) (same : done.workspace = ended.workspace) :
      Finished cfg ended (.ok (done.result cfg) done)
  | unavailable (escape : Escape) (done : Episode)
      (same : done.workspace =
        ended.workspace.note (hiddenCheck ended.files (.raised escape))) :
      Finished cfg ended (.ok (done.result cfg) done)
  | graded (calls : List EvalCall) (result : EvalResult) (done : Episode)
      (running : ended.status = .running) (finished : done.finished = true)
      (answer : cfg.evaluator calls ⟨.hidden, ended.files⟩ = .result result)
      (same : done.workspace = Episode.graded ended.workspace result) :
      Finished cfg ended (.ok (done.result cfg) done)
  | raised (escape : Escape) (left : Episode)
      (same : left.workspace =
        ended.workspace.note (hiddenCheck ended.files (.raised escape))) :
      Finished cfg ended (.raised escape left)

theorem workspace_labelGrading (result : EvalResult) (ep : Episode) :
    (labelGrading result ep).workspace = ep.workspace := by
  unfold labelGrading
  split_ifs
  · exact workspace_record_failure ep _
  · rfl

theorem conclude_finished (cfg : Config) (ep : Episode) : (conclude cfg ep).finished = true := rfl

theorem finish_cases (cfg : Config) (ended : Episode) (open_ : Ungraded ended.workspace) :
    Finished cfg ended (ended.finish cfg) := by
  have asked (outcome : EvalOutcome) (answer : checkAnswer cfg true (endDecisions ended) = outcome) :
      (askCheck cfg true (endDecisions ended)).workspace =
        ended.workspace.note (hiddenCheck ended.files outcome) := by
    rw [← answer]
    rfl
  have ways := finish_outcome cfg ended
  generalize ended.finish cfg = outcome at ways ⊢
  cases ways with
  | again => exact .ungraded ended rfl
  | idle => exact .ungraded _ (workspace_conclude cfg _)
  | graded result running answer =>
    refine .graded _ result _ running (conclude_finished cfg _) answer ?_
    rw [workspace_conclude, acceptGrading, workspace_labelGrading]
    show { (askCheck cfg true (endDecisions ended)).workspace with
      hidden := some result, completed := true } = _
    rw [asked _ answer]
    rfl
  | unavailable message answer =>
    refine .unavailable (.sandboxUnavailable message) _ ?_
    rw [workspace_conclude]
    calc (failGrading message (askCheck cfg true (endDecisions ended))).workspace
        = (askCheck cfg true (endDecisions ended)).workspace.withdraw := rfl
      _ = ended.workspace.withdraw.note (hiddenCheck ended.files _) := by
          rw [asked _ answer]
          rfl
      _ = ended.workspace.note (hiddenCheck ended.files _) := by
          rw [open_.withdraw_eq]
  | raised escape answer => exact .raised escape _ (asked _ answer)

/-- How an episode reaches `finish`. -/
inductive Ending (cfg : Config) (ended : Episode) : Prop where
  | tied (tied : Tied cfg ended.workspace)
  | unmeasured (failed : ended.status = .failed) (unmeasured : ended.public_measured = false)
  | stranded (failed : ended.status = .failed) (candidate : Files) (escape : Escape)
      (logged : visible candidate (.raised escape) ∈ ended.log.tail)

theorem Follows.ungraded {α : Type} {cfg : Config} {space : Workspace} {outcome : Outcome α}
    (follows : Follows cfg space outcome) (ungraded : Ungraded space) :
    Ungraded outcome.episode.workspace := by
  cases outcome with
  | ok value ep => exact Moves.ungraded follows ungraded
  | raised escape ep =>
    rcases follows with moves | ⟨between, candidate, cause, moves, stranded⟩
    · exact moves.ungraded ungraded
    · exact stranded ▸ (moves.ungraded ungraded).strand candidate cause

/-- Nothing is graded before `finish`. -/
theorem drive_ungraded (cfg : Config) (selector : Selector) :
    Ungraded (caught (drive cfg selector (initial cfg))).episode.workspace := by
  have driven : Ungraded (drive cfg selector (initial cfg)).episode.workspace := by
    rcases drive_cases cfg selector with ⟨space, baseline, follows⟩ | ⟨escape, left, same, left_⟩
    · exact follows.ungraded baseline.ungraded
    · rw [same]
      exact left_.ungraded
  generalize drive cfg selector (initial cfg) = outcome at driven
  cases outcome with
  | ok value ended => exact driven
  | raised escape left =>
    cases escape with
    | sandboxUnavailable message => exact driven.withdraw
    | _ => exact driven

/-- A stranded candidate is checked after the first check. -/
theorem stranded_logged {cfg : Config} {space between : Workspace} (baseline : Baseline cfg space)
    (moves : Moves cfg space between) (candidate : Files) (escape : Escape) :
    visible candidate (.raised escape) ∈ (between.strand candidate escape).log.tail := by
  rcases baseline.logged with ⟨files, outcome, first⟩
  rcases moves.log_prefix with ⟨more, same⟩
  have log : (between.strand candidate escape).log =
      visible files outcome :: (more ++ [visible candidate (.raised escape)]) := by
    show between.log ++ _ = _
    rw [← same, first]
    rfl
  rw [log]
  exact List.mem_append_right more (List.mem_singleton_self _)

/-- A run that returns a result has finished an ungraded episode. -/
theorem run_cases {cfg : Config} {selector : Selector} {result : EpisodeResult} {done : Episode}
    (returned : run_episode cfg selector = .ok result done) :
    ∃ ended, Finished cfg ended (.ok result done) ∧ Ungraded ended.workspace ∧
      Ending cfg ended := by
  have finished {ended : Episode} (open_ : Ungraded ended.workspace)
      (same : ended.finish cfg = .ok result done) : Finished cfg ended (.ok result done) :=
    same ▸ finish_cases cfg ended open_
  unfold run_episode at returned
  rcases drive_cases cfg selector with ⟨space, baseline, follows⟩ | ⟨escape, left, same, unmeasured⟩
  · have open_ := follows.ungraded baseline.ungraded
    generalize drive cfg selector (initial cfg) = outcome at returned follows open_
    cases outcome with
    | ok value ended =>
      exact ⟨ended, finished open_ returned, open_, .tied (Moves.tied follows baseline.tied)⟩
    | raised escape left =>
      cases escape with
      | sandboxUnavailable message =>
        have withdrawn : Moves cfg left.workspace (failExecution message left).workspace :=
          .single (.withdrawn _)
        have still := withdrawn.ungraded open_
        refine ⟨failExecution message left, finished still returned, still, ?_⟩
        rcases follows with moves | ⟨between, candidate, cause, moves, stranded⟩
        · exact .tied (withdrawn.tied (moves.tied baseline.tied))
        · have logged := stranded_logged baseline moves candidate cause
          rw [← stranded] at logged
          exact .stranded rfl candidate cause logged
      | _ => cases returned
  · rw [same] at returned
    cases escape with
    | sandboxUnavailable message =>
      have withdrawn : Moves cfg left.workspace (failExecution message left).workspace :=
        .single (.withdrawn _)
      have still := withdrawn.ungraded unmeasured.ungraded
      exact ⟨failExecution message left, finished still returned, still,
        .unmeasured rfl unmeasured.unmeasured⟩
    | _ => cases returned

/-! ## Solved episodes -/

/-- The evaluator has passed every case of some files in this run. -/
def Passed (cfg : Config) (log : List Occurrence) (call : EvalCall) : Prop :=
  ∃ result, Returned cfg log call result ∧ result.AllPass

theorem status_of_open {done : Episode} (open_ : done.workspace.completed = false) :
    done.status ≠ .completed :=
  of_decide_eq_false open_

theorem not_solved_of_open {done : Episode} (open_ : done.workspace.completed = false) :
    ¬ done.Solved :=
  fun solved => status_of_open open_ solved.2.1

/-- What a graded episode is, field by field. -/
structure GradedEpisode (ended done : Episode) (onHidden : EvalResult) : Prop where
  files : done.files = ended.files
  publicResult : done.publicResult = ended.publicResult
  status : done.status = .completed
  hidden : done.hidden = some onHidden
  log : done.log = ended.log ++ [hiddenCheck ended.files (.result onHidden)]

theorem gradedEpisode_of_workspace {ended done : Episode} {onHidden : EvalResult}
    (same : done.workspace = graded ended.workspace onHidden) :
    GradedEpisode ended done onHidden where
  files := congrArg Workspace.files same
  publicResult := congrArg Workspace.publicResult same
  status := of_decide_eq_true (congrArg Workspace.completed same)
  hidden := congrArg Workspace.hidden same
  log := congrArg Workspace.log same

theorem GradedEpisode.solved_iff {ended done : Episode} {onHidden : EvalResult}
    (graded : GradedEpisode ended done onHidden) (finished : done.finished = true) :
    done.Solved ↔ ended.publicResult.AllPass ∧ onHidden.AllPass := by
  unfold Solved
  rw [graded.hidden, graded.publicResult]
  simp only [finished, graded.status, true_and]

/-- A result that says "solved" belongs to a completed episode, and the
evaluator has passed exactly its final files on the visible and on the hidden
cases.  When the evaluator is a function of the call, a completed episode whose
final files it passes so is solved. -/
theorem solved_sound (cfg : Config) (selector : Selector) (result : EpisodeResult)
    (done : Episode) (returned : run_episode cfg selector = .ok result done) :
    (result.solved = true → result.status = .completed ∧
      Passed cfg done.log ⟨.visible, result.final_files⟩ ∧
      Passed cfg done.log ⟨.hidden, result.final_files⟩) ∧
    (∀ grade : EvalCall → EvalOutcome, (∀ calls call, cfg.evaluator calls call = grade call) →
      ∀ onVisible onHidden, result.status = .completed →
        grade ⟨.visible, result.final_files⟩ = .result onVisible → onVisible.AllPass →
        grade ⟨.hidden, result.final_files⟩ = .result onHidden → onHidden.AllPass →
        result.solved = true) := by
  rcases run_cases returned with ⟨ended, finished, open_, ending⟩
  have ungraded (open_ : done.workspace.completed = false) :
      ((done.result cfg).solved = true → (done.result cfg).status = .completed ∧
        Passed cfg done.log ⟨.visible, done.files⟩ ∧ Passed cfg done.log ⟨.hidden, done.files⟩) ∧
      ((done.result cfg).status = .completed → (done.result cfg).solved = true) :=
    ⟨fun solved => absurd (of_decide_eq_true solved) (not_solved_of_open open_),
      fun status => absurd status (status_of_open open_)⟩
  cases finished with
  | ungraded _ same =>
    have closed := ungraded (same ▸ open_.open_)
    exact ⟨closed.1, fun _ _ _ _ status _ _ _ _ => closed.2 status⟩
  | unavailable escape _ same =>
    have closed := ungraded (same ▸ open_.open_)
    exact ⟨closed.1, fun _ _ _ _ status _ _ _ _ => closed.2 status⟩
  | graded calls hidden _ running finished answer same =>
    have graded := gradedEpisode_of_workspace same
    have solved := graded.solved_iff finished
    have tied : Tied cfg ended.workspace := by
      cases ending with
      | tied tied => exact tied
      | unmeasured failed => exact absurd (failed.symm.trans running) (by decide)
      | stranded failed => exact absurd (failed.symm.trans running) (by decide)
    have visibleReturned : Returned cfg done.log ⟨.visible, done.files⟩ ended.publicResult := by
      rw [graded.log, graded.files]
      exact tied.current.append _
    have hiddenReturned : Returned cfg done.log ⟨.hidden, done.files⟩ hidden := by
      rw [graded.log, graded.files]
      exact ⟨List.mem_append_right _ (List.mem_singleton_self _), ⟨calls, answer⟩⟩
    constructor
    · intro claimed
      rcases solved.mp (of_decide_eq_true claimed) with ⟨onVisible, onHidden⟩
      exact ⟨graded.status, ⟨_, visibleReturned, onVisible⟩, ⟨_, hiddenReturned, onHidden⟩⟩
    · intro grade pure_ onVisible onHidden _ visibleAnswer visiblePasses hiddenAnswer hiddenPasses
      have determined {call : EvalCall} {first second : EvalResult}
          (logged : Returned cfg done.log call first) (answer : grade call = .result second) :
          first = second := by
        rcases logged.answered with ⟨earlier, same⟩
        rw [pure_, answer] at same
        cases same
        rfl
      apply decide_eq_true
      rw [solved, determined visibleReturned visibleAnswer, determined hiddenReturned hiddenAnswer]
      exact ⟨visiblePasses, hiddenPasses⟩

/-- The evaluator passes the file that the small provider sends. -/
def solvedRun : Config :=
  smallConfig fun _ call =>
    oneCase (call.files.get? (Text.ofString "a") = some (Text.ofString "1"))

theorem solvedRun_returns :
    ∃ result done, run_episode solvedRun .policy = .ok result done ∧
      (result.solved && done.log.tail.all (fun occurrence => match occurrence with
        | .evaluation _ (.raised _) => false
        | _ => true)) = true :=
  Outcome.returned_of_test (show (run_episode solvedRun .policy).test (fun result done =>
    result.solved && done.log.tail.all (fun occurrence => match occurrence with
      | .evaluation _ (.raised _) => false
      | _ => true)) = true by decide +kernel)

theorem solved_sound_solvedRun :
    ∃ result done, run_episode solvedRun .policy = .ok result done ∧
      Passed solvedRun done.log ⟨.visible, result.final_files⟩ ∧
      Passed solvedRun done.log ⟨.hidden, result.final_files⟩ := by
  rcases solvedRun_returns with ⟨result, done, returned, tested⟩
  have solved : result.solved = true := (Bool.and_eq_true_iff.mp tested).1
  have sound := (solved_sound solvedRun .policy result done returned).1 solved
  exact ⟨result, done, returned, sound.2⟩

/-! ## The reported visible count -/

/-- The reported visible count is one that the evaluator has returned for
exactly the reported files. -/
def Reported (cfg : Config) (log : List Occurrence) (result : EpisodeResult) : Prop :=
  ∀ count, result.public_passed = some count →
    ∃ measured, Returned cfg log ⟨.visible, result.final_files⟩ measured ∧
      measured.passed = count

/-- Every check of an applied candidate has returned.  The first check of a run
is the one of the initial files. -/
def CandidateChecksReturn (log : List Occurrence) : Prop :=
  ∀ candidate escape, visible candidate (.raised escape) ∉ log.tail

theorem reported_of_tied {cfg : Config} {ended done : Episode} (tied : Tied cfg ended.workspace)
    (files : done.files = ended.files) (publicResult : done.publicResult = ended.publicResult)
    (log : ended.log <+: done.log) : Reported cfg done.log (done.result cfg) := by
  intro count reported
  rcases log with ⟨more, same⟩
  refine ⟨done.publicResult, ?_, ?_⟩
  · rw [← same]
    show Returned cfg _ ⟨.visible, done.files⟩ _
    rw [files, publicResult]
    exact tied.current.append more
  · simp only [result] at reported
    split_ifs at reported
    exact Option.some.inj reported

/-- What `finish` leaves of the visible side. -/
structure Carried (ended done : Episode) : Prop where
  files : done.files = ended.files
  publicResult : done.publicResult = ended.publicResult
  measured : done.public_measured = ended.public_measured
  log : ended.log <+: done.log

theorem Finished.carried {cfg : Config} {ended done : Episode} {result : EpisodeResult}
    (finished : Finished cfg ended (.ok result done)) :
    result = done.result cfg ∧ Carried ended done := by
  cases finished with
  | ungraded _ same =>
    exact ⟨rfl, congrArg Workspace.files same, congrArg Workspace.publicResult same,
      congrArg Workspace.public_measured same, by
        have logged : done.log = ended.log := congrArg Workspace.log same
        exact logged ▸ List.prefix_rfl⟩
  | unavailable escape _ same =>
    exact ⟨rfl, congrArg Workspace.files same, congrArg Workspace.publicResult same,
      congrArg Workspace.public_measured same, by
        rw [show done.log = ended.log ++ _ from congrArg Workspace.log same]
        exact List.prefix_append _ _⟩
  | graded calls hidden _ running finished answer same =>
    exact ⟨rfl, congrArg Workspace.files same, congrArg Workspace.publicResult same,
      congrArg Workspace.public_measured same, by
        rw [show done.log = ended.log ++ _ from congrArg Workspace.log same]
        exact List.prefix_append _ _⟩

theorem isPrefix_tail {α : Type} {first second : List α} (shorter : first <+: second) :
    first.tail <+: second.tail := by
  rcases shorter with ⟨more, rfl⟩
  cases first with
  | nil => exact List.nil_prefix
  | cons head rest => exact List.prefix_append rest more

/-- In a run whose candidates are all checked, the reported visible count
belongs to the reported files. -/
theorem public_passed_reported (cfg : Config) (selector : Selector) (result : EpisodeResult)
    (done : Episode) (returned : run_episode cfg selector = .ok result done)
    (checked : CandidateChecksReturn done.log) : Reported cfg done.log result := by
  rcases run_cases returned with ⟨ended, finished, _, ending⟩
  rcases finished.carried with ⟨rfl, carried⟩
  cases ending with
  | tied tied => exact reported_of_tied tied carried.files carried.publicResult carried.log
  | unmeasured _ unmeasured =>
    intro count reported
    simp [Episode.result, carried.measured, unmeasured] at reported
  | stranded _ candidate escape logged =>
    exact absurd ((isPrefix_tail carried.log).subset logged) (checked candidate escape)

theorem public_passed_reported_solvedRun :
    ∃ result done, run_episode solvedRun .policy = .ok result done ∧
      Reported solvedRun done.log result := by
  rcases solvedRun_returns with ⟨result, done, returned, tested⟩
  have answered := List.all_eq_true.mp (Bool.and_eq_true_iff.mp tested).2
  have checked : CandidateChecksReturn done.log := fun _ _ logged => by
    cases answered _ logged
  exact ⟨result, done, returned, public_passed_reported solvedRun .policy result done returned checked⟩

/-- The sandbox is unavailable from the second check on. -/
def strandedRun : Config :=
  smallConfig fun calls _ =>
    if calls.length = 0 then oneCase false else .raised (.sandboxUnavailable "offline")

/-- No result was returned for this content of the one file. -/
def unreturned (files : Files) (occurrence : Occurrence) : Bool :=
  match occurrence with
  | .evaluation call (.result _) =>
    call.files.get? (Text.ofString "a") ≠ files.get? (Text.ofString "a")
  | _ => true

/-- The candidate's check raises: its files are reported with the count of the
initial files. -/
theorem strandedRun_unreported :
    ∃ result done, run_episode strandedRun .policy = .ok result done ∧
      ¬ Reported strandedRun done.log result := by
  have tested : ∃ result done, run_episode strandedRun .policy = .ok result done ∧
      (result.public_passed = some 0 && done.log.all (unreturned result.final_files)) = true :=
    Outcome.returned_of_test (show (run_episode strandedRun .policy).test (fun result done =>
      result.public_passed = some 0 && done.log.all (unreturned result.final_files)) = true
      by decide +kernel)
  rcases tested with ⟨result, done, returned, tested⟩
  refine ⟨result, done, returned, ?_⟩
  intro reported
  rw [Bool.and_eq_true, decide_eq_true_eq, List.all_eq_true] at tested
  rcases reported 0 tested.1 with ⟨measured, answered, _⟩
  have elsewhere := tested.2 _ answered.logged
  simp [unreturned] at elsewhere

end Episode

end ForgeRL
