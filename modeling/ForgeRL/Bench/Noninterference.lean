import ForgeRL.Bench.Grading

namespace ForgeRL

open Library

/-!
# Hidden grading is never fed back

Two configurations that differ in the hidden cases, in the reference files and
in what the evaluator answers to hidden calls run alike until `finish`.  Each
method that the loop calls is the same function for both; the only call of the
hidden check is in `finish`, behind the last decision.

The harness hands the task itself to the provider.  What a provider reads of
it is the visible part, from which alone a prompt is built.
-/

namespace Episode

open Workspace

/-- The same configuration with other hidden cases, other reference files and
another evaluator. -/
def regraded (cfg : Config) (hidden_cases : List JsonObject) (reference_files : Files)
    (evaluator : Evaluator) : Config :=
  { cfg with
    task := { cfg.task with hidden_cases := hidden_cases, reference_files := reference_files }
    evaluator := evaluator }

/-- Two evaluators that answer alike to every call but the hidden ones. -/
def AgreeVisibly (first second : Evaluator) : Prop :=
  ∀ calls call, call.checks ≠ .hidden → first calls call = second calls call

section Regraded

variable {cfg : Config} {evaluator : Evaluator} (agree : AgreeVisibly cfg.evaluator evaluator)
  (hidden_cases : List JsonObject) (reference_files : Files)

include agree

theorem check_regraded (ep : Episode) :
    check (regraded cfg hidden_cases reference_files evaluator) false ep = check cfg false ep := by
  have answer : checkAnswer (regraded cfg hidden_cases reference_files evaluator) false ep =
      checkAnswer cfg false ep :=
    (agree _ _ (fun impossible => by cases impossible)).symm
  have asked : askCheck (regraded cfg hidden_cases reference_files evaluator) false ep =
      askCheck cfg false ep := by
    unfold askCheck
    rw [answer]
    rfl
  unfold check
  rw [answer, asked]

theorem start_regraded (ep : Episode) :
    ep.start (regraded cfg hidden_cases reference_files evaluator) = ep.start cfg := by
  unfold start
  rw [show beginStart (regraded cfg hidden_cases reference_files evaluator) ep =
    beginStart cfg ep from rfl, check_regraded agree]
  rfl

theorem handleResult_regraded (context : RequestContext) (generated : RepoResult) (ep : Episode) :
    handleResult (regraded cfg hidden_cases reference_files evaluator) context generated ep =
      handleResult cfg context generated ep := by
  have accepted (candidate : Files) (ep : Episode) :
      acceptCandidate (regraded cfg hidden_cases reference_files evaluator) context candidate ep =
        acceptCandidate cfg context candidate ep := by
    unfold acceptCandidate
    rw [show applyCandidate (regraded cfg hidden_cases reference_files evaluator) candidate ep =
      applyCandidate cfg candidate ep from rfl, check_regraded agree]
    rfl
  unfold handleResult
  simp only [accepted]
  rfl

theorem requestStep_regraded (context : StepContext) (ep : Episode) :
    requestStep (regraded cfg hidden_cases reference_files evaluator) context ep =
      requestStep cfg context ep := by
  have sent (context : RequestContext) (query : Query) (ep : Episode) :
      sendRequest (regraded cfg hidden_cases reference_files evaluator) context query ep =
        sendRequest cfg context query ep := by
    unfold sendRequest
    simp only [handleResult_regraded agree]
    rfl
  unfold requestStep continueRequest
  simp only [sent]
  rfl

theorem repoStep_regraded (action : Action) (source : String) (ep : Episode) :
    RepoEpisode.step (regraded cfg hidden_cases reference_files evaluator) action source ep =
      RepoEpisode.step cfg action source ep := by
  have acted (context : StepContext) (ep : Episode) :
      act (regraded cfg hidden_cases reference_files evaluator) context ep = act cfg context ep := by
    unfold act
    rw [requestStep_regraded agree]
    rfl
  unfold RepoEpisode.step startedStep
  rw [start_regraded agree]
  simp only [acted]
  rfl

theorem verificationStep_regraded (action : Action) (source : String) (ep : Episode) :
    VerificationEpisode.step (regraded cfg hidden_cases reference_files evaluator) action source ep =
      VerificationEpisode.step cfg action source ep := by
  have verified (ep : Episode) :
      VerificationEpisode.verify (regraded cfg hidden_cases reference_files evaluator) source ep =
        VerificationEpisode.verify cfg source ep := by
    have answer : VerificationEpisode.verifyAnswer
        (regraded cfg hidden_cases reference_files evaluator) ep =
          VerificationEpisode.verifyAnswer cfg ep :=
      (agree _ _ (fun impossible => by cases impossible)).symm
    have asked : VerificationEpisode.askVerification
        (regraded cfg hidden_cases reference_files evaluator) source ep =
          VerificationEpisode.askVerification cfg source ep := by
      unfold VerificationEpisode.askVerification
      rw [answer]
      rfl
    unfold VerificationEpisode.verify
    rw [answer, asked]
    rfl
  unfold VerificationEpisode.step
  rw [start_regraded agree, repoStep_regraded agree]
  simp only [verified]
  rfl

/-- No step of any class sees the hidden cases, the reference files or an
answer to a hidden call. -/
theorem step_regraded (action : Action) (source : String) (ep : Episode) :
    ep.step (regraded cfg hidden_cases reference_files evaluator) action source =
      ep.step cfg action source := by
  have piloted : PilotEpisode.step (regraded cfg hidden_cases reference_files evaluator) action
      source ep = PilotEpisode.step cfg action source ep :=
    verificationStep_regraded agree hidden_cases reference_files action source _
  unfold step
  rw [show (regraded cfg hidden_cases reference_files evaluator).harness = cfg.harness from rfl]
  split
  · exact repoStep_regraded agree hidden_cases reference_files action source ep
  · exact verificationStep_regraded agree hidden_cases reference_files action source ep
  · exact piloted
  · unfold AblationEpisode.step
    rw [piloted]

omit agree in
/-- A cancelled wait does not grade, so it describes no edits either. -/
theorem cancelWait_regraded (ep : Episode) :
    ((finish (regraded cfg hidden_cases reference_files evaluator) (cancelWait ep)).andThen
      fun _ done => (.raised .cancelled done : Outcome Unit)) =
    (finish cfg (cancelWait ep)).andThen fun _ done => .raised .cancelled done := by
  by_cases finished : (cancelWait ep).finished = true
  · rw [finish_of_finished finished, finish_of_finished finished]
    rfl
  · have interrupted : (cancelWait ep).status ≠ .running := fun impossible => by cases impossible
    rw [finish_of_not_running finished interrupted, finish_of_not_running finished interrupted]
    have undescribed (cfg : Config) : describeEdits cfg (endDecisions (cancelWait ep)) =
        endDecisions (cancelWait ep) :=
      if_neg (fun impossible => by cases impossible)
    unfold conclude
    rw [undescribed, undescribed]
    rfl

theorem round_regraded (selector : Selector) (seen : List Observation) (ep : Episode) :
    round (regraded cfg hidden_cases reference_files evaluator) selector seen ep =
      round cfg selector seen ep := by
  have waited (delay : ℚ) (ep : Episode) :
      backoff (regraded cfg hidden_cases reference_files evaluator) delay ep =
        backoff cfg delay ep := by
    unfold backoff retryStep
    rw [step_regraded agree, cancelWait_regraded]
    rfl
  have chosen : selector.choose (regraded cfg hidden_cases reference_files evaluator) seen ep =
      selector.choose cfg seen ep := by
    cases selector <;> rfl
  unfold round
  rw [chosen]
  simp only [waited, step_regraded agree]
  rfl

theorem drive_regraded (selector : Selector) (ep : Episode) :
    drive (regraded cfg hidden_cases reference_files evaluator) selector ep =
      drive cfg selector ep := by
  have looped (rounds : ℕ) (seen : List Observation) (ep : Episode) :
      loop (regraded cfg hidden_cases reference_files evaluator) selector rounds seen ep =
        loop cfg selector rounds seen ep := by
    induction rounds generalizing seen ep with
    | zero => rfl
    | succ rounds ih =>
      unfold loop
      rw [round_regraded agree, funext fun seen => funext fun ep => ih seen ep]
  unfold drive
  rw [start_regraded agree]
  simp only [looped]
  rfl

end Regraded

/-! ## What a run exports before its hidden check -/

/-- The decisions, requests and evaluations of an episode with their answers,
its events, its transitions and its files. -/
structure Trace where
  log : List Occurrence
  events : List Event
  transitions : List Transition
  files : Files

def trace (ep : Episode) : Trace := ⟨ep.log, ep.events, ep.transitions, ep.files⟩

/-- What may follow the last decision: nothing, the closing event, or one
hidden check, with which the remaining events begin. -/
inductive Closing : List Occurrence → List Event → Prop where
  | none : Closing [] []
  | ended (status : Status) (solved : Bool) (stop_reason : Option String) :
      Closing [] [.complete status solved stop_reason]
  | checked (files : Files) (outcome : EvalOutcome) (files_sha256 : Text) (rest : List Event) :
      Closing [hiddenCheck files outcome] (.toolCall .hidden files_sha256 :: rest)

/-- An episode that has gone on from a trace with a closing only. -/
structure Closes (before : Trace) (done : Episode) : Prop where
  closing : ∃ occurrences events, Closing occurrences events ∧
    done.log = before.log ++ occurrences ∧ done.events = before.events ++ events
  transitions : done.transitions = before.transitions
  files : done.files = before.files

theorem Closes.of_eq {before : Trace} {done : Episode} (same : done.trace = before) :
    Closes before done where
  closing := ⟨[], [], .none, by rw [← same, List.append_nil]; rfl,
    by rw [← same, List.append_nil]; rfl⟩
  transitions := congrArg Trace.transitions same
  files := congrArg Trace.files same

theorem trace_conclude (cfg : Config) (ep : Episode) :
    ∃ status solved stop_reason, (conclude cfg ep).trace =
      { ep.trace with events := ep.events ++ [.complete status solved stop_reason] } := by
  unfold conclude describeEdits
  split_ifs <;> exact ⟨_, _, _, rfl⟩

theorem trace_labelGrading (result : EvalResult) (ep : Episode) :
    (labelGrading result ep).trace = ep.trace := by
  unfold labelGrading record_failure
  split_ifs <;> rfl

/-- `finish` adds a closing. -/
theorem finish_closes (cfg : Config) (ended : Episode) :
    Closes ended.trace (ended.finish cfg).episode := by
  let asked := askCheck cfg true (endDecisions ended)
  have checked {done : Episode} (rest : List Event)
      (same : done.trace = { asked.trace with events := asked.events ++ rest }) :
      Closes ended.trace done := by
    refine ⟨⟨_, _, .checked ended.files (checkAnswer cfg true (endDecisions ended))
      (cfg.fingerprint ended.files) rest, congrArg Trace.log same, ?_⟩,
      congrArg Trace.transitions same, congrArg Trace.files same⟩
    exact (congrArg Trace.events same).trans (List.append_assoc _ _ _)
  have ways := finish_outcome cfg ended
  generalize ended.finish cfg = outcome at ways ⊢
  cases ways with
  | again => exact Closes.of_eq rfl
  | idle =>
    rcases trace_conclude cfg (endDecisions ended) with ⟨status, solved, stop_reason, same⟩
    exact ⟨⟨_, _, .ended status solved stop_reason,
      (congrArg Trace.log same).trans (List.append_nil _).symm, congrArg Trace.events same⟩,
      congrArg Trace.transitions same, congrArg Trace.files same⟩
  | graded result =>
    let graded := acceptGrading cfg result (endDecisions ended)
    have labelled : graded.trace =
        { asked.trace with events := asked.events ++ [checkEvent true result] } :=
      trace_labelGrading _ _
    rcases trace_conclude cfg graded with ⟨status, solved, stop_reason, same⟩
    apply checked [checkEvent true result, .complete status solved stop_reason]
    calc (conclude cfg graded).trace
        = { graded.trace with
            events := graded.trace.events ++ [.complete status solved stop_reason] } := same
      _ = _ := by
          rw [labelled]
          exact congrArg (fun events => { asked.trace with events := events })
            (List.append_assoc asked.events _ _)
  | unavailable message =>
    let left := failGrading message asked
    rcases trace_conclude cfg left with ⟨status, solved, stop_reason, same⟩
    apply checked [.gradingUnavailable message, .complete status solved stop_reason]
    calc (conclude cfg left).trace
        = { left.trace with
            events := left.trace.events ++ [.complete status solved stop_reason] } := same
      _ = _ := congrArg (fun events => { asked.trace with events := events })
          (List.append_assoc asked.events _ _)
  | raised escape =>
    exact checked [] (congrArg (fun events => { asked.trace with events := events })
      (List.append_nil asked.events).symm)

/-- A run closes what its loop leaves. -/
theorem run_episode_closes (cfg : Config) (selector : Selector) :
    Closes (caught (drive cfg selector (initial cfg))).episode.trace
      (run_episode cfg selector).episode := by
  unfold run_episode
  cases caught (drive cfg selector (initial cfg)) with
  | ok value ended => exact finish_closes cfg ended
  | raised escape left => exact Closes.of_eq rfl

/-- Hidden grading does not interfere.  Two tasks that differ only in their
hidden cases and reference files, with two evaluators that agree on every call
but the hidden ones, export the same decisions, requests, evaluations, events,
transitions and files; each run then goes on with a closing only, which makes at
most one hidden call and nothing after it. -/
theorem noninterference (cfg : Config) (selector : Selector) (hidden_cases : List JsonObject)
    (reference_files : Files) (evaluator : Evaluator)
    (agree : AgreeVisibly cfg.evaluator evaluator) :
    ∃ before : Trace, (∀ files outcome, hiddenCheck files outcome ∉ before.log) ∧
      Closes before (run_episode cfg selector).episode ∧
      Closes before (run_episode (regraded cfg hidden_cases reference_files evaluator)
        selector).episode := by
  refine ⟨_, (drive_ungraded cfg selector).unlogged, run_episode_closes cfg selector, ?_⟩
  have same : drive (regraded cfg hidden_cases reference_files evaluator) selector
      (initial (regraded cfg hidden_cases reference_files evaluator)) =
        drive cfg selector (initial cfg) :=
    drive_regraded agree hidden_cases reference_files selector (initial cfg)
  rw [← same]
  exact run_episode_closes _ selector

/-- The hidden cases of the one run pass where those of the other raise. -/
theorem noninterference_small :
    ∃ before : Trace, (∀ files outcome, hiddenCheck files outcome ∉ before.log) ∧
      Closes before (run_episode (smallConfig fun _ _ => oneCase true) .policy).episode ∧
      Closes before (run_episode (regraded (smallConfig fun _ _ => oneCase true) [] ∅
        fun _ call => if call.checks = .hidden then .raised .other else oneCase true)
          .policy).episode := by
  apply noninterference
  intro calls call visible
  exact (if_neg visible).symm

end Episode

end ForgeRL
