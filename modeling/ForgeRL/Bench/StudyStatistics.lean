import ForgeRL.Bench.StudyCoverage
import ForgeRL.Bench.StudyPhases
import ForgeRL.Bench.Grading

namespace ForgeRL

open Library

/-!
# What the statistics of a study count

The rows of the two summaries divide the reported runs by their split and
their policy, so that every run is counted once, and no row counts more runs
than were planned for it.  Of a complete study every row counts exactly as
many, and every planned test task is in every paired comparison.  Rates and
differences are exact here, where the source divides floats: a difference of
two rounded rates is not always the rounded difference.
-/

namespace Study

/-! ## One run -/

/-- A result has a hidden grading exactly when its episode has completed. -/
theorem graded_iff_completed {cfg : Config} {selector : Selector} {result : EpisodeResult}
    {done : Episode} (returned : run_episode cfg selector = .ok result done) :
    result.heldout_passed.isSome = true ↔ result.status = .completed := by
  rcases Episode.run_cases returned with ⟨ended, finished, ungraded, _⟩
  have open_ {space : Workspace} (same : done.workspace = space) (none_ : space.hidden = none)
      (running : space.completed = false) :
      (done.result cfg).heldout_passed.isSome = true ↔ (done.result cfg).status = .completed := by
    have hidden : done.hidden = none := (congrArg Workspace.hidden same).trans none_
    have status := Episode.status_of_open ((congrArg Workspace.completed same).trans running)
    show (done.hidden.map EvalResult.passed).isSome = true ↔ done.status = .completed
    rw [hidden]
    exact ⟨fun absent => absurd absent Bool.false_ne_true, fun completed => absurd completed status⟩
  cases finished with
  | ungraded done same => exact open_ same ungraded.1 ungraded.2
  | unavailable escape done same => exact open_ same ungraded.1 ungraded.2
  | graded calls onHidden done running finished answer same =>
    have graded := Episode.gradedEpisode_of_workspace same
    show (done.hidden.map EvalResult.passed).isSome = true ↔ done.status = .completed
    rw [graded.hidden, graded.status]
    exact ⟨fun _ => rfl, fun _ => rfl⟩

/-! ## The reported runs -/

section Runs

variable {env : Surroundings} {settings : Settings} {tasks : List RepoTask}
  {configuration : Configuration} {bounded : CappedProvider} {benchmark : Benchmark}
  {written : List Written}

/-- The split of a planned task. -/
def splitOf (tasks : List RepoTask) (task_id : Text) : Option Text :=
  (Dict.get? (by_id tasks) task_id).map RepoTask.split

/-- The planned tasks of a split. -/
def idsIn (tasks : List RepoTask) (configuration : Configuration) (split : Text) : List Text :=
  configuration.evaluation_ids.filter fun ident => splitOf tasks ident = some split

theorem plannedIn_eq (split : Text) :
    plannedIn tasks configuration split = (idsIn tasks configuration split).length :=
  List.countP_eq_length_filter

theorem splitOf_task (planned : Planned settings tasks configuration) {task : RepoTask}
    (member : task ∈ tasks) : splitOf tasks task.id = some task.split := by
  unfold splitOf
  cases found : Dict.get? (by_id tasks) task.id with
  | none =>
    have filed : (Dict.get? (by_id tasks) task.id).isSome = true :=
      Dict.isSome_get?_foldl_set (.inl (List.mem_map_of_mem member))
    rw [found] at filed
    cases filed
  | some other =>
    rw [planned.by_id_eq member found]
    rfl

/-- What is known of a run of the report. -/
structure Counted (tasks : List RepoTask) (configuration : Configuration) (run : EpisodeResult) :
    Prop where
  expected : resultCell run ∈ expected configuration
  split : splitOf tasks run.task_id = some run.split
  measured : run.heldout_passed.isSome = true ↔ run.status = .completed

theorem Counted.planned {run : EpisodeResult} (counted : Counted tasks configuration run) :
    run.task_id ∈ configuration.evaluation_ids ∧ run.policy ∈ Router.POLICIES ∧
      run.seed = configuration.seed := by
  rcases List.mem_flatMap.mp counted.expected with ⟨task_id, listed, inside⟩
  rcases List.mem_map.mp inside with ⟨policy, offered, same⟩
  have named : task_id = run.task_id := congrArg PlannedRun.task_id same
  have chosen : policy = run.policy := congrArg PlannedRun.policy same
  exact ⟨named ▸ listed, chosen ▸ offered, (congrArg PlannedRun.seed same).symm⟩

/-- The reported runs of a study: each cell once, and all of them if the study
is complete. -/
structure Reports (tasks : List RepoTask) (configuration : Configuration)
    (runs : List EpisodeResult) (complete : Prop) : Prop where
  counted : ∀ run ∈ runs, Counted tasks configuration run
  once : (runs.map resultCell).Nodup
  whole : complete → ∀ cell ∈ expected configuration, cell ∈ runs.map resultCell

theorem reports_of_finished (planned : Planned settings tasks configuration)
    (finished : Finished env settings tasks configuration bounded benchmark written) :
    Reports tasks configuration (benchmark.runs.map Prod.snd) (benchmark.status = .complete) := by
  have cells {runs : List (Text × EpisodeResult)} {stop : Option Stop} {p : Progress}
      (concluded : Concluded env tasks configuration runs stop p benchmark written)
      (counted : ∀ run ∈ runs, Counted tasks configuration run.2)
      (order : runs.map (fun run => resultCell run.2) <+:
        (evaluationDesigns env configuration).map (designCell settings.seed)) :
      Reports tasks configuration (benchmark.runs.map Prod.snd)
        (benchmark.status = .complete) := by
    have parts := (partition_of_order planned order).1
    have once := parts.nodup_iff.mpr planned.nodup_expected
    rw [concluded.reported]
    refine ⟨List.forall_mem_map.mpr counted, ?_, fun complete cell member => ?_⟩
    · rw [List.map_map]
      exact (List.nodup_append.mp once).1
    · rw [List.map_map]
      have nothing : missingRows id (expected configuration)
          (runs.map fun run => resultCell run.2) = [] := by
        by_contra some_
        rw [concluded.status, if_pos (.inl some_)] at complete
        cases complete
      rw [nothing, List.append_nil] at parts
      exact parts.mem_iff.mpr member
  cases finished with
  | untrained stop concluded =>
    exact cells concluded (fun run member => absurd member List.not_mem_nil) List.nil_prefix
  | evaluated fitted whole concluded =>
    have order := @recorded_beginning _ _ _ _ _ (evaluateAttempt env settings bounded tasks
      fitted.artifact) (evaluationDesigns env configuration) (frozen env configuration bounded
        fitted (trainedBy env settings tasks configuration bounded).state) _ _
          (evaluate_names fitted.artifact)
    have arranged := designs_perm env configuration
    rw [planned.seed] at arranged
    refine cells concluded ?_ (by rw [List.map_map]; exact order)
    rw [List.forall_mem_map]
    intro record member
    rcases exists_attempt (fun _ => True) (fun _ _ _ _ => trivial) trivial member with
      ⟨design, designed, before, _, attempted⟩
    have ways := @evaluateAttempt_cases env settings bounded tasks fitted.artifact design before
    generalize evaluateAttempt env settings bounded tasks fitted.artifact design before = upshot
      at ways attempted
    have counted {task : RepoTask} {cfg : Config} {result : EpisodeResult} {done : Episode}
        (evaluated : Evaluated env settings bounded tasks fitted.artifact design before.seen task
          cfg result done) : Counted tasks configuration result := by
      have cell := evaluated.cell
      constructor
      · rw [cell.1]
        exact arranged.mem_iff.mp (List.mem_map_of_mem designed)
      · have named : result.task_id = task.id :=
          (congrArg PlannedRun.task_id cell.1).trans (task_id_of_found evaluated.found).symm
        rw [cell.2, named]
        exact splitOf_task planned (evaluated.toEvaluationSetup.known planned designed).1
      · exact graded_iff_completed evaluated.returned
    cases ways with
    | unstarted escape missing => cases attempted
    | raised escape left task cfg setup ran => cases attempted
    | exhausted task cfg result done evaluated status =>
      cases attempted
      exact counted evaluated
    | recorded task cfg result done evaluated status =>
      cases attempted
      exact counted evaluated

end Runs

/-! ## The rows of a summary -/

section Rows

variable {tasks : List RepoTask} {configuration : Configuration} {runs : List EpisodeResult}
  {complete : Prop}

/-- The runs of a row of the summaries. -/
def rowRuns (runs : List EpisodeResult) (split : Text) (policy : Policy) : List EpisodeResult :=
  ofPolicy policy (runs.filter (·.split = split))

theorem mem_rowRuns {split : Text} {policy : Policy} {run : EpisodeResult} :
    run ∈ rowRuns runs split policy ↔ run ∈ runs ∧ run.split = split ∧ run.policy = policy := by
  unfold rowRuns ofPolicy
  rw [List.mem_filter, List.mem_filter, decide_eq_true_iff, decide_eq_true_iff, and_assoc]

/-- The tasks of the runs of a row are planned tasks, each once. -/
theorem Reports.listed (reports : Reports tasks configuration runs complete) (split : Text)
    (policy : Policy) : ((rowRuns runs split policy).map EpisodeResult.task_id).Nodup ∧
      (rowRuns runs split policy).map EpisodeResult.task_id ⊆ idsIn tasks configuration split := by
  have sublist : (rowRuns runs split policy).Sublist runs :=
    List.filter_sublist.trans List.filter_sublist
  have once : (rowRuns runs split policy).Nodup := reports.once.of_map.sublist sublist
  constructor
  · apply once.map_on
    intro first here second there same
    rcases mem_rowRuns.mp here with ⟨known, _, chosen⟩
    rcases mem_rowRuns.mp there with ⟨found, _, other⟩
    apply List.inj_on_of_nodup_map reports.once known found
    have seeds := (reports.counted first known).planned.2.2.trans
      (reports.counted second found).planned.2.2.symm
    unfold resultCell
    rw [same, seeds, chosen, other]
  · intro task_id member
    rcases List.mem_map.mp member with ⟨run, inside, rfl⟩
    rcases mem_rowRuns.mp inside with ⟨known, rfl, _⟩
    have counted := reports.counted run known
    exact List.mem_filter.mpr ⟨counted.planned.1, decide_eq_true counted.split⟩

/-- A complete study has a run of every planned task for every policy. -/
theorem Reports.ran (reports : Reports tasks configuration runs complete) (whole : complete)
    {split task_id : Text} (listed : task_id ∈ idsIn tasks configuration split) {policy : Policy}
    (offered : policy ∈ Router.POLICIES) :
    task_id ∈ (rowRuns runs split policy).map EpisodeResult.task_id := by
  rcases List.mem_filter.mp listed with ⟨planned, known⟩
  have cell : (⟨task_id, policy, configuration.seed⟩ : PlannedRun) ∈ expected configuration :=
    List.mem_flatMap.mpr ⟨task_id, planned, List.mem_map.mpr ⟨policy, offered, rfl⟩⟩
  rcases List.mem_map.mp (reports.whole whole _ cell) with ⟨run, inside, same⟩
  have named : run.task_id = task_id := congrArg PlannedRun.task_id same
  have split_ := (reports.counted run inside).split
  rw [named, of_decide_eq_true known] at split_
  refine List.mem_map.mpr ⟨run, mem_rowRuns.mpr ⟨inside, ?_, ?_⟩, named⟩
  · exact (Option.some.inj split_).symm
  · exact congrArg PlannedRun.policy same

theorem Reports.length_le (reports : Reports tasks configuration runs complete) (split : Text)
    (policy : Policy) :
    (rowRuns runs split policy).length ≤ plannedIn tasks configuration split := by
  have listed := reports.listed split policy
  rw [plannedIn_eq, ← List.length_map EpisodeResult.task_id]
  exact (listed.1.subperm listed.2).length_le

theorem idsIn_nodup {settings : Settings} (planned : Planned settings tasks configuration)
    (split : Text) : (idsIn tasks configuration split).Nodup :=
  planned.nodup_evaluation.filter _

theorem Reports.length_eq {settings : Settings} (planned : Planned settings tasks configuration)
    (reports : Reports tasks configuration runs complete) (whole : complete) (split : Text)
    {policy : Policy} (offered : policy ∈ Router.POLICIES) :
    (rowRuns runs split policy).length = plannedIn tasks configuration split := by
  apply (reports.length_le split policy).antisymm
  rw [plannedIn_eq, ← List.length_map EpisodeResult.task_id]
  apply List.Subperm.length_le
  apply (idsIn_nodup planned split).subperm
  exact fun task_id listed => reports.ran whole listed offered

/-- A row counts these runs and no others. -/
structure Summary.Counts (row : Summary) (rows : List EpisodeResult) : Prop where
  n : row.n = rows.length
  solved : row.solved = rows.countP fun run => SolvedRun run
  graded_runs : row.graded_runs = rows.countP fun run => run.heldout_passed.isSome
  failed_runs : row.failed_runs = rows.countP fun run => run.status ≠ .completed
  token_measured_runs : row.token_measured_runs = rows.countP fun run => run.tokens.isSome
  repair_eligible_runs : row.repair_eligible_runs = rows.countP fun run => 1 < run.attempts

theorem counts_summaryOf (policy : Policy) (planned : ℕ) (rows : List EpisodeResult) :
    (summaryOf policy planned rows).Counts rows where
  n := rfl
  solved := rfl
  graded_runs := List.countP_eq_length_filter.symm
  failed_runs := rfl
  token_measured_runs := rfl
  repair_eligible_runs := List.countP_eq_length_filter.symm

/-- What a row counts, whatever has run. -/
structure Summary.Sound (row : Summary) : Prop where
  graded : row.graded_runs + row.failed_runs = row.n
  solved : row.solved + row.failed_runs ≤ row.n
  repaired : row.repair_eligible_runs ≤ row.n
  measured : row.token_measured_runs ≤ row.n
  within : row.n ≤ row.planned
  unmeasured : row.solve_rate = none ↔ row.n = 0
  solve_rate : ∀ rate, row.solve_rate = some rate → 0 ≤ rate ∧ rate ≤ 1
  repair_rate : ∀ rate, row.success_after_repair_rate = some rate → 0 ≤ rate ∧ rate ≤ 1
  escalation_frequency : ∀ rate, row.escalation_frequency = some rate → 0 ≤ rate ∧ rate ≤ 1

/-- No run passes more hidden cases than it has. -/
def Honest (runs : List EpisodeResult) : Prop :=
  ∀ run ∈ runs, ∀ passed, run.heldout_passed = some passed → passed ≤ run.heldout_total

theorem hiddenPassed_le {rows : List EpisodeResult} (honest : Honest rows) :
    hiddenPassed rows ≤ hiddenTotal rows := by
  apply List.sum_le_sum
  intro run member
  rcases List.mem_filter.mp member with ⟨inside, graded⟩
  rcases Option.isSome_iff_exists.mp graded with ⟨passed, found⟩
  rw [found]
  exact honest run inside passed found

theorem Reports.sound (reports : Reports tasks configuration runs complete) (split : Text)
    (policy : Policy) :
    (summaryOf policy (plannedIn tasks configuration split) (rowRuns runs split policy)).Sound := by
  have known : ∀ run ∈ rowRuns runs split policy, Counted tasks configuration run :=
    fun run member => reports.counted run (mem_rowRuns.mp member).1
  have length := reports.length_le split policy
  generalize rowRuns runs split policy = rows at known length
  have completed : rows.length = rows.countP (fun run => run.status = .completed) +
      rows.countP fun run => run.status ≠ .completed := by
    rw [List.length_eq_countP_add_countP fun run : EpisodeResult => run.status = .completed]
    congr 1
    apply List.countP_congr
    intro run _
    rw [decide_eq_true_iff, decide_eq_true_iff, decide_eq_true_iff]
  constructor
  · show (gradedRuns rows).length + rows.countP (fun run => run.status ≠ .completed) = rows.length
    rw [completed]
    unfold gradedRuns
    rw [← List.countP_eq_length_filter, List.countP_congr]
    intro run member
    rw [(known run member).measured, decide_eq_true_iff]
  · show rows.countP (fun run => SolvedRun run) +
      rows.countP (fun run => run.status ≠ .completed) ≤ rows.length
    rw [completed]
    apply Nat.add_le_add_right
    apply List.countP_mono_left
    exact fun run _ solved => decide_eq_true (of_decide_eq_true solved).1
  · exact List.length_filter_le _ _
  · exact List.countP_le_length
  · exact length
  · exact proportion?_eq_none_iff
  · exact fun rate measured => proportion?_bounds List.countP_le_length measured
  · exact fun rate measured => proportion?_bounds List.countP_le_length measured
  · exact fun rate measured => proportion?_bounds List.countP_le_length measured

end Rows

/-! ## The paired comparisons -/

section Pairs

variable {runs : List EpisodeResult}

/-- Whether the runs of a task with a policy have solved it. -/
def outcomes (runs : List EpisodeResult) (task_id : Text) (policy : Policy) : List ℚ :=
  (runs.filter fun run => run.task_id = task_id ∧ run.policy = policy).map fun run =>
    if SolvedRun run then (1 : ℚ) else 0

theorem filed_runs (task_id : Text) (policy : Policy) :
    Nested.filed (runs.map fun run =>
      (run.task_id, run.policy, if SolvedRun run then (1 : ℚ) else 0)) task_id policy =
        outcomes runs task_id policy := by
  unfold Nested.filed outcomes
  rw [List.filter_map, List.map_map]
  rfl

theorem outcomes_bounds {task_id : Text} {policy : Policy} :
    ∀ value ∈ outcomes runs task_id policy, 0 ≤ value ∧ value ≤ 1 := by
  intro value member
  rcases List.mem_map.mp member with ⟨run, _, rfl⟩
  split_ifs <;> norm_num

theorem outcomes_eq_nil_iff {task_id : Text} {policy : Policy} :
    outcomes runs task_id policy = [] ↔
      ∀ run ∈ runs, run.task_id = task_id → run.policy ≠ policy := by
  unfold outcomes
  rw [List.map_eq_nil_iff, List.filter_eq_nil_iff]
  simp only [decide_eq_true_eq, not_and, ne_eq]

/-- The lists of a group. -/
theorem get?_group {task_id : Text} {group : Dict Policy (List ℚ)}
    (member : (task_id, group) ∈ (groupedRuns runs).rows) (policy : Policy) :
    (Dict.get? group policy).getD [] = outcomes runs task_id policy := by
  have found : Dict.get? (groupedRuns runs) task_id = some group :=
    (Dict.get?_eq_some_iff _ _ _).mpr member
  have looked : Nested.at? (groupedRuns runs) task_id policy = Dict.get? group policy := by
    unfold Nested.at?
    rw [found]
    rfl
  unfold groupedRuns at looked
  rw [Nested.at?_collect, filed_runs] at looked
  rw [← looked]
  split_ifs with empty
  · exact empty.symm
  · rfl

/-- The tasks of the groups are those of the runs. -/
theorem mem_keys_grouped {task_id : Text} :
    task_id ∈ Dict.keys (groupedRuns runs) ↔ ∃ run ∈ runs, run.task_id = task_id := by
  constructor
  · intro member
    rcases List.mem_map.mp member with ⟨⟨named, group⟩, inside, rfl⟩
    have found : Dict.get? (groupedRuns runs) named = some group :=
      (Dict.get?_eq_some_iff _ _ _).mpr inside
    rcases Nested.Full.collect _ named group found with ⟨policy, present⟩
    have filed := get?_group inside policy
    by_contra none_
    have empty : outcomes runs named policy = [] :=
      outcomes_eq_nil_iff.mpr fun run known same => absurd ⟨run, known, same⟩ none_
    have looked : Nested.at? (groupedRuns runs) named policy = none := by
      unfold groupedRuns
      rw [Nested.at?_collect, filed_runs, if_pos empty]
    unfold Nested.at? at looked
    rw [found] at looked
    have absent : Dict.get? group policy = none := looked
    rw [absent] at present
    cases present
  · rintro ⟨run, known, rfl⟩
    by_contra absent
    have looked : Nested.at? (groupedRuns runs) run.task_id run.policy = none := by
      unfold Nested.at?
      rw [(Dict.get?_eq_none_iff _ _).mpr absent]
      rfl
    unfold groupedRuns at looked
    rw [Nested.at?_collect, filed_runs] at looked
    split_ifs at looked with empty
    exact outcomes_eq_nil_iff.mp empty run known rfl rfl

/-- The difference of a task is that of two means, when both policies have run. -/
theorem taskDifference_group {task_id : Text} {group : Dict Policy (List ℚ)}
    (member : (task_id, group) ∈ (groupedRuns runs).rows) (policy : Policy) :
    taskDifference policy group =
      if outcomes runs task_id .adaptive = [] ∨ outcomes runs task_id policy = [] then none
      else some (mean (outcomes runs task_id .adaptive) - mean (outcomes runs task_id policy)) := by
  unfold taskDifference
  rw [get?_group member, get?_group member]
  generalize outcomes runs task_id .adaptive = adaptive
  generalize outcomes runs task_id policy = baseline
  cases adaptive with
  | nil => rw [if_pos (.inl rfl)]
  | cons first rest =>
    cases baseline with
    | nil => rw [if_pos (.inr rfl)]
    | cons other others => rw [if_neg (by simp)]

theorem taskDifferences_bounds {policy : Policy} :
    ∀ value ∈ taskDifferences runs policy, -1 ≤ value ∧ value ≤ 1 := by
  intro value member
  rcases List.mem_filterMap.mp member with ⟨⟨task_id, group⟩, inside, paired⟩
  dsimp only at paired
  rw [taskDifference_group inside] at paired
  split_ifs at paired with empty
  rw [not_or] at empty
  have above := mean_bounds empty.1 outcomes_bounds
  have below := mean_bounds empty.2 outcomes_bounds
  cases paired
  constructor <;> linarith [above.1, above.2, below.1, below.2]

/-- The differences of a policy, when every task of its runs is paired. -/
theorem taskDifferences_eq {policy : Policy}
    (paired : ∀ run ∈ runs, outcomes runs run.task_id .adaptive ≠ [] ∧
      outcomes runs run.task_id policy ≠ []) :
    taskDifferences runs policy = (Dict.keys (groupedRuns runs)).map fun task_id =>
      mean (outcomes runs task_id .adaptive) - mean (outcomes runs task_id policy) := by
  unfold taskDifferences Dict.keys
  rw [List.map_map, ← List.filterMap_eq_map]
  apply List.filterMap_congr
  rintro ⟨task_id, group⟩ member
  have known : task_id ∈ Dict.keys (groupedRuns runs) := List.mem_map_of_mem member
  rcases mem_keys_grouped.mp known with ⟨run, inside, rfl⟩
  rcases paired run inside with ⟨adaptive, baseline⟩
  dsimp only [Function.comp_apply]
  rw [taskDifference_group member, if_neg (not_or.mpr ⟨adaptive, baseline⟩)]

theorem length_taskDifferences_le (policy : Policy) :
    (taskDifferences runs policy).length ≤ (Dict.keys (groupedRuns runs)).length := by
  unfold Dict.keys
  rw [List.length_map]
  exact List.length_filterMap_le _ _

/-- What a comparison says, whatever has run. -/
structure PairedInterval.Sound (pair : PairedInterval) : Prop where
  unmeasured : pair.solve_rate_difference = none ↔ pair.paired_tasks = 0
  difference : ∀ value, pair.solve_rate_difference = some value → -1 ≤ value ∧ value ≤ 1
  resampled : pair.task_bootstrap_95.isSome = true ↔ 3 ≤ pair.paired_tasks
  interval : ∀ low high, pair.task_bootstrap_95 = some (low, high) →
    -1 ≤ low ∧ low ≤ high ∧ high ≤ 1

theorem pairedInterval_sound (draws : Draws) (policy : Policy) {values : List ℚ}
    (bounded : ∀ value ∈ values, -1 ≤ value ∧ value ≤ 1) :
    (pairedInterval draws policy values).Sound := by
  constructor
  · show mean? values = none ↔ values.length = 0
    rw [mean?_eq_none_iff, List.length_eq_zero_iff]
  · exact fun value measured => mean?_bounds measured bounded
  · unfold pairedInterval
    dsimp only
    split_ifs with enough
    · exact ⟨fun _ => enough, fun _ => rfl⟩
    · exact ⟨fun absent => absurd absent Bool.false_ne_true, fun three => absurd three enough⟩
  · intro low high drawn
    unfold pairedInterval at drawn
    dsimp only at drawn
    split_ifs at drawn with enough
    rcases Prod.mk.inj (Option.some.inj drawn) with ⟨rfl, rfl⟩
    have some_ : values ≠ [] := by
      rintro rfl
      exact absurd enough (by decide)
    have inside {position : ℕ} (before : position < 2000) :
        -1 ≤ (bootstrap draws 2000 values).getD position 0 ∧
          (bootstrap draws 2000 values).getD position 0 ≤ 1 := by
      apply bootstrap_bounds some_ bounded
      rw [List.getD_eq_getElem?_getD, List.getElem?_eq_getElem (by rwa [length_bootstrap])]
      exact List.getElem_mem _
    refine ⟨(inside (by decide)).1, ?_, (inside (by decide)).2⟩
    exact bootstrap_le (by decide) (by decide)

end Pairs

/-! ## The comparisons of a study -/

section Comparisons

variable {settings : Settings} {tasks : List RepoTask} {configuration : Configuration}
  {runs : List EpisodeResult} {complete : Prop}

/-- A run is the only one of its task and its policy. -/
theorem Reports.outcomes_eq (reports : Reports tasks configuration runs complete) {split : Text}
    {policy : Policy} {run : EpisodeResult} (member : run ∈ rowRuns runs split policy) :
    outcomes (runs.filter (·.split = split)) run.task_id policy =
      [if SolvedRun run then (1 : ℚ) else 0] := by
  have single := filter_cell (reports.listed split policy).1 member
  unfold rowRuns ofPolicy at single
  generalize runs.filter (·.split = split) = part at single
  unfold outcomes
  rw [List.filter_filter] at single
  rw [List.filter_congr (q := fun other => decide (other.task_id = run.task_id) &&
    decide (other.policy = policy)) fun other _ => Bool.decide_and _ _, single]
  rfl

/-- The tasks of the groups are planned ones. -/
theorem Reports.keys_subset (reports : Reports tasks configuration runs complete) (split : Text) :
    Dict.keys (groupedRuns (runs.filter (·.split = split))) ⊆ idsIn tasks configuration split := by
  intro task_id member
  rcases mem_keys_grouped.mp member with ⟨run, inside, rfl⟩
  rcases List.mem_filter.mp inside with ⟨known, split_⟩
  apply (reports.listed split run.policy).2
  exact List.mem_map_of_mem (mem_rowRuns.mpr ⟨known, of_decide_eq_true split_, rfl⟩)

theorem Reports.pairs_le (reports : Reports tasks configuration runs complete) (split : Text)
    (policy : Policy) : (taskDifferences (runs.filter (·.split = split)) policy).length ≤
      plannedIn tasks configuration split := by
  rw [plannedIn_eq]
  apply (length_taskDifferences_le policy).trans
  have distinct : (Dict.keys (groupedRuns (runs.filter (·.split = split)))).Nodup :=
    (groupedRuns _).keys_nodup
  exact (distinct.subperm (reports.keys_subset split)).length_le

/-- The tasks of a complete study, in the order of the groups and of a row. -/
theorem Reports.keys_perm (reports : Reports tasks configuration runs complete) (whole : complete)
    (split : Text) {policy : Policy} (offered : policy ∈ Router.POLICIES) :
    (Dict.keys (groupedRuns (runs.filter (·.split = split)))).Perm
      ((rowRuns runs split policy).map EpisodeResult.task_id) := by
  have listed := reports.listed split policy
  apply (List.perm_ext_iff_of_nodup (groupedRuns _).keys_nodup listed.1).mpr
  intro task_id
  constructor
  · exact fun member => reports.ran whole (reports.keys_subset split member) offered
  · intro member
    rcases List.mem_map.mp member with ⟨run, inside, rfl⟩
    rcases mem_rowRuns.mp inside with ⟨known, same, _⟩
    exact mem_keys_grouped.mpr ⟨run, List.mem_filter.mpr ⟨known, decide_eq_true same⟩, rfl⟩

/-- The outcomes of a policy of a complete study sum up to its solved runs. -/
theorem Reports.sum_outcomes (reports : Reports tasks configuration runs complete)
    (whole : complete) (split : Text) {policy : Policy} (offered : policy ∈ Router.POLICIES) :
    ((Dict.keys (groupedRuns (runs.filter (·.split = split)))).map fun task_id =>
      mean (outcomes (runs.filter (·.split = split)) task_id policy)).sum =
        ((rowRuns runs split policy).countP fun run => SolvedRun run : ℕ) := by
  have arranged := (reports.keys_perm whole split offered).map fun task_id =>
    mean (outcomes (runs.filter (·.split = split)) task_id policy)
  have single : ((rowRuns runs split policy).map EpisodeResult.task_id).map (fun task_id =>
      mean (outcomes (runs.filter (·.split = split)) task_id policy)) =
        (rowRuns runs split policy).map fun run => if SolvedRun run then (1 : ℚ) else 0 := by
    rw [List.map_map]
    apply List.map_congr_left
    intro run member
    show mean (outcomes _ run.task_id policy) = _
    rw [reports.outcomes_eq member]
    unfold mean
    rw [List.sum_singleton, List.length_singleton, Nat.cast_one, div_one]
  rw [arranged.sum_eq, single, sum_indicator]

theorem adaptive_offered : Policy.adaptive ∈ Router.POLICIES := by decide

/-- Every task of a complete study is paired. -/
theorem Reports.paired (reports : Reports tasks configuration runs complete) (whole : complete)
    (split : Text) {policy : Policy} (offered : policy ∈ Router.POLICIES) :
    ∀ run ∈ runs.filter (·.split = split),
      outcomes (runs.filter (·.split = split)) run.task_id policy ≠ [] := by
  intro run member empty
  have known : run.task_id ∈ Dict.keys (groupedRuns (runs.filter (·.split = split))) :=
    mem_keys_grouped.mpr ⟨run, member, rfl⟩
  rcases List.mem_map.mp ((reports.keys_perm whole split offered).mem_iff.mp known) with
    ⟨other, inside, same⟩
  rcases List.mem_filter.mp inside with ⟨part, chosen⟩
  exact outcomes_eq_nil_iff.mp empty other part same (of_decide_eq_true chosen)

/-- The differences of a complete study, one for each planned task. -/
theorem Reports.differences (planned : Planned settings tasks configuration)
    (reports : Reports tasks configuration runs complete) (whole : complete) (split : Text)
    {policy : Policy} (offered : policy ∈ Router.POLICIES) :
    (taskDifferences (runs.filter (·.split = split)) policy).length =
        plannedIn tasks configuration split ∧
      (taskDifferences (runs.filter (·.split = split)) policy).sum =
        ((rowRuns runs split .adaptive).countP fun run => SolvedRun run : ℕ) -
          ((rowRuns runs split policy).countP fun run => SolvedRun run : ℕ) := by
  have paired := @taskDifferences_eq (runs.filter (·.split = split)) policy fun run member =>
    ⟨reports.paired whole split adaptive_offered run member,
      reports.paired whole split offered run member⟩
  rw [paired]
  constructor
  · rw [List.length_map, (reports.keys_perm whole split offered).length_eq, List.length_map]
    exact reports.length_eq planned whole split offered
  · rw [← reports.sum_outcomes whole split adaptive_offered,
      ← reports.sum_outcomes whole split offered, eq_sub_iff_add_eq, ← List.sum_map_add]
    simp only [sub_add_cancel]

/-- The mean difference is the difference of the solve rates. -/
theorem Reports.rates (planned : Planned settings tasks configuration)
    (reports : Reports tasks configuration runs complete) (whole : complete) (split : Text)
    {policy : Policy} (offered : policy ∈ Router.POLICIES) {first second : ℚ}
    (adaptive : (summaryOf .adaptive (plannedIn tasks configuration split)
      (rowRuns runs split .adaptive)).solve_rate = some first)
    (baseline : (summaryOf policy (plannedIn tasks configuration split)
      (rowRuns runs split policy)).solve_rate = some second) :
    mean? (taskDifferences (runs.filter (·.split = split)) policy) = some (first - second) := by
  have differences := reports.differences planned whole split offered
  have rate {chosen : Policy} (listed : chosen ∈ Router.POLICIES) {value : ℚ}
      (measured : proportion? ((rowRuns runs split chosen).countP fun run => SolvedRun run)
        (rowRuns runs split chosen).length = some value) :
      plannedIn tasks configuration split ≠ 0 ∧
        value = ((rowRuns runs split chosen).countP fun run => SolvedRun run : ℕ) /
          (plannedIn tasks configuration split : ℚ) := by
    rw [reports.length_eq planned whole split listed] at measured
    unfold proportion? at measured
    split_ifs at measured with empty
    exact ⟨empty, (Option.some.inj measured).symm⟩
  have above := rate adaptive_offered adaptive
  have below := rate offered baseline
  generalize taskDifferences (runs.filter (·.split = split)) policy = values at differences
  unfold mean?
  rw [if_neg]
  · unfold mean
    rw [differences.1, differences.2, above.2, below.2, sub_div]
  · intro empty
    rw [List.isEmpty_iff] at empty
    rw [empty] at differences
    exact above.1 differences.1.symm

end Comparisons

/-! ## The whole report -/

/-- What the statistics of a report count. -/
structure Statistics (benchmark : Benchmark) : Prop where
  policies : benchmark.summary.map Summary.policy = Router.POLICIES ∧
    benchmark.validation_summary.map Summary.policy = Router.POLICIES
  /-- Each row counts exactly the runs of its split and its policy. -/
  tests : ∀ row ∈ benchmark.summary,
    row.Counts (rowRuns (benchmark.runs.map Prod.snd) test row.policy)
  validations : ∀ row ∈ benchmark.validation_summary,
    row.Counts (rowRuns (benchmark.runs.map Prod.snd) validation row.policy)
  /-- Every reported run is counted in one row. -/
  accounted : (benchmark.summary.map Summary.n).sum +
    (benchmark.validation_summary.map Summary.n).sum = benchmark.coverage.completed
  planned : (benchmark.summary.map Summary.planned).sum +
    (benchmark.validation_summary.map Summary.planned).sum = benchmark.coverage.planned
  sound : ∀ row ∈ benchmark.summary ++ benchmark.validation_summary, row.Sound
  hidden : Honest (benchmark.runs.map Prod.snd) →
    ∀ row ∈ benchmark.summary ++ benchmark.validation_summary,
      ∀ rate, row.hidden_test_pass_rate = some rate → 0 ≤ rate ∧ rate ≤ 1
  baselines : benchmark.paired_differences.map PairedInterval.baseline =
    Router.POLICIES.filter fun policy => policy ≠ .adaptive
  paired : ∀ pair ∈ benchmark.paired_differences, pair.Sound ∧
    ∀ row ∈ benchmark.summary, pair.paired_tasks ≤ row.planned
  whole : benchmark.status = .complete →
    ∀ row ∈ benchmark.summary ++ benchmark.validation_summary, row.n = row.planned
  /-- The difference of a complete study is that of the two rates of its summary. -/
  difference : benchmark.status = .complete → ∀ pair ∈ benchmark.paired_differences,
    ∀ adaptive ∈ benchmark.summary, ∀ row ∈ benchmark.summary, adaptive.policy = .adaptive →
      row.policy = pair.baseline → ∀ first, adaptive.solve_rate = some first →
        ∀ second, row.solve_rate = some second →
          pair.solve_rate_difference = some (first - second)

section Report

variable {settings : Settings} {tasks : List RepoTask} {configuration : Configuration}
  {runs : List EpisodeResult} {complete : Prop}

theorem summarize_ok {runs : List EpisodeResult} {planned : ℕ} {summary : List Summary}
    (made : summarize runs planned = .ok summary) :
    summary =
      Router.POLICIES.map fun policy => summaryOf policy planned (ofPolicy policy runs) := by
  unfold summarize at made
  split_ifs at made
  exact (Except.ok.inj made).symm

/-- The runs of the rows of one split are its runs. -/
theorem sum_rows (planned : ℕ) (offered : ∀ run ∈ runs, run.policy ∈ Router.POLICIES) :
    ((Router.POLICIES.map fun policy => summaryOf policy planned (ofPolicy policy runs)).map
      Summary.n).sum = runs.length := by
  rw [List.map_map]
  exact sum_groups nodup_policies offered

theorem sum_planned_rows (planned : ℕ) :
    ((Router.POLICIES.map fun policy => summaryOf policy planned (ofPolicy policy runs)).map
      Summary.planned).sum = Router.POLICIES.length * planned := by
  rw [List.map_map]
  show (Router.POLICIES.map fun _ => planned).sum = _
  rw [List.map_const', List.sum_replicate, smul_eq_mul]

/-- The two splits of the planned tasks. -/
theorem Planned.split_cases (planned : Planned settings tasks configuration) {task_id : Text}
    (listed : task_id ∈ configuration.evaluation_ids) :
    splitOf tasks task_id = some test ∨ splitOf tasks task_id = some validation := by
  rcases planned.evaluation_task listed with ⟨task, member, rfl, evaluated⟩
  rw [splitOf_task planned member]
  rcases List.mem_cons.mp (planned.separated.supported task member) with trains | rest
  · exact absurd trains evaluated
  · rcases List.mem_cons.mp rest with validated | tested
    · exact .inr (congrArg some validated)
    · exact .inl (congrArg some (List.mem_singleton.mp tested))

theorem test_ne_validation : test ≠ validation := by decide

/-- Two exclusive properties that cover a list count it. -/
theorem countP_splits {α : Type} {rows : List α} {split : α → Option Text}
    (cases_ : ∀ row ∈ rows, split row = some test ∨ split row = some validation) :
    rows.countP (fun row => split row = some test) +
      rows.countP (fun row => split row = some validation) = rows.length := by
  rw [List.length_eq_countP_add_countP fun row => decide (split row = some test)]
  congr 1
  apply List.countP_congr
  intro row member
  rw [decide_eq_true_iff, decide_eq_true_iff, decide_eq_true_iff]
  rcases cases_ row member with tests | validates
  · rw [tests]
    simp [test_ne_validation]
  · rw [validates]
    simp [test_ne_validation.symm]

/-- The planned rows of both summaries make up the plan. -/
theorem sum_planned (planned : Planned settings tasks configuration) :
    Router.POLICIES.length * plannedIn tasks configuration test +
      Router.POLICIES.length * plannedIn tasks configuration validation =
        (expected configuration).length := by
  have both := countP_splits fun task_id listed => @Planned.split_cases settings tasks
    configuration planned task_id listed
  unfold plannedIn expected
  unfold splitOf at both
  rw [← Nat.mul_add, both, List.length_flatMap]
  simp only [List.length_map, List.map_const', List.sum_replicate, smul_eq_mul]
  exact Nat.mul_comm _ _

/-- The statistics of what has been counted. -/
theorem statistics_of_reports {benchmark : Benchmark} {draws : Draws}
    (planned : Planned settings tasks configuration)
    (reports : Reports tasks configuration (benchmark.runs.map Prod.snd)
      (benchmark.status = .complete))
    (completed : benchmark.coverage.completed = benchmark.runs.length)
    (plan : benchmark.coverage.planned = (expected configuration).length)
    (summary : summarize (runsIn test benchmark.runs) (plannedIn tasks configuration test) =
      .ok benchmark.summary)
    (validated : summarize (runsIn validation benchmark.runs)
      (plannedIn tasks configuration validation) = .ok benchmark.validation_summary)
    (pairs : benchmark.paired_differences =
      paired_intervals draws (runsIn test benchmark.runs)) : Statistics benchmark := by
  have tests := summarize_ok summary
  have validations := summarize_ok validated
  have rows : ∀ row ∈ benchmark.summary ++ benchmark.validation_summary, ∃ split,
      ∃ policy ∈ Router.POLICIES, row = summaryOf policy (plannedIn tasks configuration split)
        (rowRuns (benchmark.runs.map Prod.snd) split policy) := by
    intro row member
    rw [tests, validations] at member
    rcases List.mem_append.mp member with tested | checked
    · rcases List.mem_map.mp tested with ⟨policy, offered, rfl⟩
      exact ⟨test, policy, offered, rfl⟩
    · rcases List.mem_map.mp checked with ⟨policy, offered, rfl⟩
      exact ⟨validation, policy, offered, rfl⟩
  have offered (split : Text) : ∀ run ∈ runsIn split benchmark.runs,
      run.policy ∈ Router.POLICIES := by
    intro run member
    exact (reports.counted run (List.mem_filter.mp member).1).planned.2.1
  have splits := @countP_splits _ (benchmark.runs.map Prod.snd) (fun run => some run.split)
    fun run member => by
      have counted := reports.counted run member
      rw [← counted.split]
      exact planned.split_cases counted.planned.1
  have part (split : Text) : (runsIn split benchmark.runs).length =
      (benchmark.runs.map Prod.snd).countP fun run => some run.split = some split := by
    unfold runsIn
    rw [← List.countP_eq_length_filter]
    apply List.countP_congr
    intro run _
    rw [decide_eq_true_iff, decide_eq_true_iff, Option.some.injEq]
  constructor
  · rw [tests, validations, List.map_map, List.map_map]
    exact ⟨List.map_id _, List.map_id _⟩
  · intro row member
    rw [tests] at member
    rcases List.mem_map.mp member with ⟨policy, _, rfl⟩
    exact counts_summaryOf policy _ _
  · intro row member
    rw [validations] at member
    rcases List.mem_map.mp member with ⟨policy, _, rfl⟩
    exact counts_summaryOf policy _ _
  · rw [tests, validations, sum_rows _ (offered test), sum_rows _ (offered validation), completed,
      part, part, splits, List.length_map]
  · rw [tests, validations, plan, ← sum_planned planned, sum_planned_rows, sum_planned_rows]
  · intro row member
    rcases rows row member with ⟨split, policy, _, rfl⟩
    exact reports.sound split policy
  · intro honest row member rate measured
    rcases rows row member with ⟨split, policy, _, rfl⟩
    apply proportion?_bounds (hiddenPassed_le fun run inside => ?_) measured
    exact honest run (mem_rowRuns.mp inside).1
  · rw [pairs]
    unfold paired_intervals
    rw [List.map_map]
    exact List.map_id _
  · intro pair member
    rw [pairs] at member
    rcases List.mem_map.mp member with ⟨policy, _, rfl⟩
    refine ⟨pairedInterval_sound draws policy taskDifferences_bounds, fun row inside => ?_⟩
    rw [tests] at inside
    rcases List.mem_map.mp inside with ⟨other, _, rfl⟩
    exact reports.pairs_le test policy
  · intro complete row member
    rcases rows row member with ⟨split, policy, listed, rfl⟩
    exact reports.length_eq planned complete split listed
  · intro complete pair member adaptive inside row other named chosen first above second below
    rw [pairs] at member
    rw [tests] at inside other
    rcases List.mem_map.mp member with ⟨policy, listed, rfl⟩
    rcases List.mem_map.mp inside with ⟨_, _, rfl⟩
    rcases List.mem_map.mp other with ⟨_, _, rfl⟩
    cases named
    cases chosen
    exact reports.rates planned complete test (List.mem_filter.mp listed).1 above below

/-- The statistics of a study, whatever its surroundings do. -/
theorem study_statistics (env : Surroundings) (settings : Settings) (tasks : List RepoTask)
    {benchmark : Benchmark} {written : List Written}
    (returned : run_study env settings tasks = .finished benchmark written) :
    Statistics benchmark := by
  rcases finished_of_run returned with ⟨configuration, bounded, begun, finished⟩
  have planned := planned_of_plan begun.planned
  have reports := reports_of_finished planned finished
  have statistics {runs : List (Text × EpisodeResult)} {stop : Option Stop} {p : Progress}
      (concluded : Concluded env tasks configuration runs stop p benchmark written) :
      Statistics benchmark := by
    have same := concluded.reported
    apply statistics_of_reports planned reports
    · rw [concluded.completed, same]
    · exact concluded.planned
    · rw [same]
      exact concluded.summary
    · rw [same]
      exact concluded.validation_summary
    · rw [same]
      exact concluded.paired_differences
  cases finished with
  | untrained stop concluded => exact statistics concluded
  | evaluated fitted whole concluded => exact statistics concluded

/-- The small study is complete: each of its rows counts one run. -/
theorem study_statistics_small : ∃ benchmark written,
    run_study smallSurroundings smallSettings smallTasks = .finished benchmark written ∧
      (benchmark.status = .complete ∧ benchmark.summary.map Summary.n = [1, 1, 1, 1, 1]) ∧
      Statistics benchmark := by
  rcases finished_of_test (show (run_study smallSurroundings smallSettings smallTasks).test
      (fun benchmark _ => decide (benchmark.status = .complete ∧
        benchmark.summary.map Summary.n = [1, 1, 1, 1, 1])) = true by decide +kernel) with
    ⟨benchmark, written, returned, tested⟩
  exact ⟨benchmark, written, returned, of_decide_eq_true tested,
    study_statistics smallSurroundings smallSettings smallTasks returned⟩

end Report

end Study

end ForgeRL
