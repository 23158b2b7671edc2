import ForgeRL.Bench.StudyEvidence

namespace ForgeRL

open Library

/-!
# The coverage of a study

The report of a study says which of its planned runs are missing.  It is right
about them in every surroundings: the runs are a beginning of the shuffled
designs, each with its own cell, and the cells of the runs and the missing rows
are the plan.  A study counts as complete exactly when nothing stopped it, and
then nothing is missing.
-/

namespace Study

/-! ## The report -/

/-- What the last lines of `run_study` make of the variables. -/
structure Concluded (env : Surroundings) (tasks : List RepoTask) (configuration : Configuration)
    (runs : List (Text × EpisodeResult)) (stop : Option Stop) (p : Progress)
    (benchmark : Benchmark) (written : List Written) : Prop where
  running : stop ≠ some (.escaped .cancelled)
  written : written = p.written ++ [.benchmark benchmark, .manifest benchmark.provenance]
  reported : benchmark.runs = runs
  configured : benchmark.provenance.configuration = configuration
  stop_reason : benchmark.provenance.stop_reason = stop
  status : benchmark.status = if missingRows id (expected configuration)
    (runs.map fun run => resultCell run.2) ≠ [] ∨ stop.isSome then .partial_ else .complete
  missing : benchmark.coverage.missing =
    missingRows id (expected configuration) (runs.map fun run => resultCell run.2)
  planned : benchmark.coverage.planned = (expected configuration).length
  completed : benchmark.coverage.completed = runs.length
  training_completed : benchmark.coverage.training_completed = p.training_completed
  summary : summarize (runsIn test runs) (plannedIn tasks configuration test) =
    .ok benchmark.summary
  validation_summary : summarize (runsIn validation runs)
    (plannedIn tasks configuration validation) = .ok benchmark.validation_summary
  paired_differences : benchmark.paired_differences =
    paired_intervals (env.draws configuration.seed) (runsIn test runs)

section Report

variable {env : Surroundings} {settings : Settings} {tasks : List RepoTask}
  {configuration : Configuration} {bounded : CappedProvider} {benchmark : Benchmark}
  {written : List Written}

theorem concluded_of_finished {fitted : Option Router.Fitted} {runs : List (Text × EpisodeResult)}
    {stop : Option Stop} {p : Progress}
    (finished : concludeStop env tasks bounded configuration fitted runs stop p =
      .finished benchmark written) :
    Concluded env tasks configuration runs stop p benchmark written := by
  unfold concludeStop at finished
  split_ifs at finished with cancelled
  unfold conclude at finished
  dsimp only at finished
  cases summary : summarize (runsIn test runs) (plannedIn tasks configuration test) with
  | error escape =>
    rw [summary] at finished
    cases finished
  | ok rows =>
    cases validated : summarize (runsIn validation runs)
        (plannedIn tasks configuration validation) with
    | error escape =>
      rw [summary, validated] at finished
      cases finished
    | ok others =>
      rw [summary, validated] at finished
      cases finished
      exact ⟨cancelled, rfl, rfl, rfl, rfl, rfl, rfl, rfl, rfl, rfl, summary, validated, rfl⟩

/-- A finished study in which the evaluation has begun, or not. -/
inductive Finished (env : Surroundings) (settings : Settings) (tasks : List RepoTask)
    (configuration : Configuration) (bounded : CappedProvider) (benchmark : Benchmark)
    (written : List Written) : Prop where
  | untrained (stop : Stop)
      (concluded : Concluded env tasks configuration [] (some stop)
        (trainedBy env settings tasks configuration bounded).state benchmark written)
  | evaluated (fitted : Router.Fitted)
      (whole : (trainedBy env settings tasks configuration bounded).reason = none)
      (concluded : Concluded env tasks configuration
        ((evaluatedBy env settings tasks configuration bounded fitted
          (trainedBy env settings tasks configuration bounded).state).records.map Recorded.entry)
        (evaluatedBy env settings tasks configuration bounded fitted
          (trainedBy env settings tasks configuration bounded).state).reason
        (evaluatedBy env settings tasks configuration bounded fitted
          (trainedBy env settings tasks configuration bounded).state).state benchmark written)

theorem finished_of_run (returned : run_study env settings tasks = .finished benchmark written) :
    ∃ configuration bounded, Begun env settings tasks configuration bounded ∧
      Finished env settings tasks configuration bounded benchmark written := by
  rcases @run_study_cases env settings tasks with ⟨_, unfinished⟩ | ⟨configuration, bounded, begun,
    studying⟩
  · exact absurd returned (unfinished benchmark written)
  · refine ⟨configuration, bounded, begun, ?_⟩
    generalize run_study env settings tasks = studied at returned studying
    cases studying with
    | stopped stop reason => exact .untrained stop (concluded_of_finished returned)
    | unfitted escape whole refused => exact .untrained _ (concluded_of_finished returned)
    | evaluated fitted whole accepted =>
      exact .evaluated fitted whole (concluded_of_finished returned)

end Report

/-! ## Coverage -/

/-- The report covers the plan. -/
structure Covers (env : Surroundings) (settings : Settings) (benchmark : Benchmark)
    (written : List Written) : Prop where
  /-- The index of the evidence directory lists the reported runs. -/
  index : runsOf .evaluation written = benchmark.runs
  order : benchmark.runs.map (fun run => resultCell run.2) <+:
    (evaluationDesigns env benchmark.provenance.configuration).map (designCell settings.seed)
  once : (expected benchmark.provenance.configuration).Nodup
  partition : (benchmark.runs.map (fun run => resultCell run.2) ++
    benchmark.coverage.missing).Perm (expected benchmark.provenance.configuration)
  counted : benchmark.coverage.planned =
    benchmark.coverage.completed + benchmark.coverage.missing.length
  training : (runsOf .train written).map (fun run => (run.2.task_id, run.2.seed)) <+:
    (trainingDesigns benchmark.provenance.configuration).map
      fun design => (design.1, stableSeed env settings design)
  training_counted : benchmark.coverage.training_completed = (runsOf .train written).length
  complete : benchmark.status = .complete ↔ benchmark.provenance.stop_reason = none
  whole : benchmark.status = .complete → benchmark.coverage.missing = [] ∧
    (runsOf .train written).map (fun run => (run.2.task_id, run.2.seed)) =
      (trainingDesigns benchmark.provenance.configuration).map
        fun design => (design.1, stableSeed env settings design)

section Coverage

variable {env : Surroundings} {settings : Settings} {tasks : List RepoTask}
  {configuration : Configuration} {bounded : CappedProvider} {benchmark : Benchmark}
  {written : List Written}

theorem runsOf_closed (phase : Phase) (records : List Written) (benchmark : Benchmark) :
    runsOf phase (records ++ [.benchmark benchmark, .manifest benchmark.provenance]) =
      runsOf phase records := by
  rw [runsOf_append]
  exact List.append_nil _

/-- The index of the training runs, when training has ended. -/
theorem runsOf_trained (env : Surroundings) (settings : Settings) (tasks : List RepoTask)
    (configuration : Configuration) (bounded : CappedProvider) :
    runsOf .train (trainedBy env settings tasks configuration bounded).state.written =
      (trainedBy env settings tasks configuration bounded).records.map Recorded.entry :=
  train_runs (trainingDesigns configuration) (opened env bounded configuration)

/-- No evaluation is recorded while the study trains. -/
theorem runsOf_untrained (env : Surroundings) (settings : Settings) (tasks : List RepoTask)
    (configuration : Configuration) (bounded : CappedProvider) :
    runsOf .evaluation (trainedBy env settings tasks configuration bounded).state.written = [] := by
  apply campaign_keeps (fun p : Progress => runsOf .evaluation p.written = []) _ rfl
  intro design _ before none_
  have ways := @trainAttempt_cases env settings bounded tasks configuration design before
  generalize trainAttempt env settings bounded tasks configuration design before = upshot at ways
  cases ways with
  | unstarted escape missing => exact none_
  | raised escape left task cfg setup ran =>
    exact (runsOf_leave .evaluation before _ left).trans none_
  | completed task cfg result done trained status =>
    simp only [Upshot.state, runsOf_collect, runsOf_count, runsOf_write, runsOf_leave, none_]
    rfl
  | exhausted task cfg result done trained status =>
    simp only [Upshot.state, runsOf_fail, runsOf_count, runsOf_write, runsOf_leave, none_]
    rfl
  | failed task cfg result done trained status =>
    simp only [Upshot.state, runsOf_fail, runsOf_count, runsOf_write, runsOf_leave, none_]
    rfl

/-- The training runs are a beginning of their designs. -/
theorem trained_beginning (env : Surroundings) (settings : Settings) (tasks : List RepoTask)
    (configuration : Configuration) (bounded : CappedProvider) :
    ((trainedBy env settings tasks configuration bounded).records.map Recorded.entry).map
        (fun run => (run.2.task_id, run.2.seed)) <+:
      (trainingDesigns configuration).map fun design =>
        (design.1, stableSeed env settings design) := by
  rw [List.map_map]
  exact recorded_beginning train_names

/-- When the cells of some runs begin the designs, they and the missing rows
are the plan. -/
theorem partition_of_order (planned : Planned settings tasks configuration)
    {cells : List PlannedRun}
    (order : cells <+: (evaluationDesigns env configuration).map (designCell settings.seed)) :
    (cells ++ missingRows id (expected configuration) cells).Perm (expected configuration) ∧
      (expected configuration).length =
        cells.length + (missingRows id (expected configuration) cells).length := by
  have arranged := designs_perm env configuration
  rw [planned.seed] at arranged
  have distinct : ((expected configuration).map id).Nodup := by
    rw [List.map_id]
    exact planned.nodup_expected
  have once : cells.Nodup :=
    (arranged.nodup_iff.mpr planned.nodup_expected).sublist order.sublist
  have inside : ∀ seen ∈ cells, seen ∈ (expected configuration).map id := by
    intro seen member
    rw [List.map_id]
    exact arranged.mem_iff.mp (order.subset member)
  have parts := perm_plan distinct once inside
  rw [List.map_id, List.map_id] at parts
  exact ⟨parts, length_plan distinct once inside⟩

/-- The parts of the coverage that hold of every study. -/
theorem covers_of_concluded (planned : Planned settings tasks configuration)
    {runs : List (Text × EpisodeResult)} {stop : Option Stop} {p : Progress}
    (concluded : Concluded env tasks configuration runs stop p benchmark written)
    (evaluations : runsOf .evaluation p.written = runs)
    (trainings : runsOf .train p.written =
      (trainedBy env settings tasks configuration bounded).records.map Recorded.entry)
    (counted : p.training_completed =
      (trainedBy env settings tasks configuration bounded).records.length)
    (order : runs.map (fun run => resultCell run.2) <+:
      (evaluationDesigns env configuration).map (designCell settings.seed))
    (whole : stop = none → missingRows id (expected configuration)
        (runs.map fun run => resultCell run.2) = [] ∧
      (trainedBy env settings tasks configuration bounded).reason = none) :
    Covers env settings benchmark written := by
  have parts := partition_of_order planned order
  have trained : runsOf .train written =
      (trainedBy env settings tasks configuration bounded).records.map Recorded.entry := by
    rw [concluded.written, runsOf_closed, trainings]
  have complete : benchmark.status = .complete ↔ stop = none := by
    rw [concluded.status]
    constructor
    · intro done
      by_cases stopped : missingRows id (expected configuration)
          (runs.map fun run => resultCell run.2) ≠ [] ∨ stop.isSome = true
      · rw [if_pos stopped] at done
        cases done
      · rw [not_or, Bool.not_eq_true, Option.isSome_eq_false_iff, Option.isNone_iff_eq_none]
          at stopped
        exact stopped.2
    · intro ended
      rw [if_neg]
      rw [ended, not_or]
      exact ⟨not_not.mpr (whole ended).1, Bool.false_ne_true⟩
  constructor
  · rw [concluded.written, runsOf_closed, evaluations, concluded.reported]
  · rw [concluded.reported, concluded.configured]
    exact order
  · rw [concluded.configured]
    exact planned.nodup_expected
  · rw [concluded.reported, concluded.configured, concluded.missing]
    exact parts.1
  · rw [concluded.planned, concluded.completed, concluded.missing, parts.2, List.length_map]
  · rw [trained, concluded.configured]
    exact trained_beginning env settings tasks configuration bounded
  · rw [concluded.training_completed, counted, trained, List.length_map]
  · rw [concluded.stop_reason]
    exact complete
  · intro done
    have ended := whole (complete.mp done)
    rw [concluded.missing, trained, concluded.configured, List.map_map]
    exact ⟨ended.1, records_all train_names ended.2⟩

/-- The coverage of a study, whatever its surroundings do. -/
theorem study_coverage (env : Surroundings) (settings : Settings) (tasks : List RepoTask)
    {benchmark : Benchmark} {written : List Written}
    (returned : run_study env settings tasks = .finished benchmark written) :
    Covers env settings benchmark written := by
  rcases finished_of_run returned with ⟨configuration, bounded, begun, finished⟩
  have planned := planned_of_plan begun.planned
  have counted : (trainedBy env settings tasks configuration bounded).state.training_completed =
      (trainedBy env settings tasks configuration bounded).records.length := by
    have counts := @train_counts env settings bounded tasks configuration
      (trainingDesigns configuration) (opened env bounded configuration)
    exact counts.trans (Nat.zero_add _)
  cases finished with
  | untrained stop concluded =>
    apply covers_of_concluded planned concluded
    · exact runsOf_untrained env settings tasks configuration bounded
    · exact runsOf_trained env settings tasks configuration bounded
    · exact counted
    · exact List.nil_prefix
    · exact fun none_ => absurd none_ (Option.some_ne_none stop)
  | evaluated fitted trained concluded =>
    have before (phase : Phase) : runsOf phase (frozen env configuration bounded fitted
        (trainedBy env settings tasks configuration bounded).state).written =
          runsOf phase (trainedBy env settings tasks configuration bounded).state.written := by
      unfold frozen
      rw [runsOf_write]
      exact List.append_nil _
    have arranged := designs_perm env configuration
    rw [planned.seed] at arranged
    apply covers_of_concluded planned concluded
    · unfold evaluatedBy
      rw [evaluate_runs, before, runsOf_untrained, if_pos rfl]
      rfl
    · unfold evaluatedBy
      rw [evaluate_runs, before, if_neg (by decide), List.append_nil]
      exact runsOf_trained env settings tasks configuration bounded
    · rw [← counted]
      exact evaluate_counts fitted.artifact (evaluationDesigns env configuration) _
    · rw [List.map_map]
      exact recorded_beginning (evaluate_names fitted.artifact)
    · intro ended
      refine ⟨?_, trained⟩
      rw [List.map_map]
      have arranged : ((evaluationDesigns env configuration).map (designCell settings.seed)).Perm
          ((expected configuration).map id) := by
        rw [List.map_id]
        exact arranged
      exact missing_of_whole (evaluate_names fitted.artifact) arranged ended

/-- The small study is complete after two tasks with five policies each. -/
theorem study_coverage_small : ∃ benchmark written,
    run_study smallSurroundings smallSettings smallTasks = .finished benchmark written ∧
      (benchmark.status = .complete ∧ benchmark.runs.length = 10) ∧
      Covers smallSurroundings smallSettings benchmark written := by
  rcases finished_of_test (show (run_study smallSurroundings smallSettings smallTasks).test
      (fun benchmark _ => decide (benchmark.status = .complete ∧ benchmark.runs.length = 10)) =
        true by decide +kernel) with ⟨benchmark, written, returned, tested⟩
  exact ⟨benchmark, written, returned, of_decide_eq_true tested,
    study_coverage smallSurroundings smallSettings smallTasks returned⟩

end Coverage

end Study

end ForgeRL
