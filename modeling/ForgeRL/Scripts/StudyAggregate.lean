import ForgeRL.Bench.StudyStatistics
import ForgeRL.Scripts.StudySubmission

namespace ForgeRL.Study

open Library

/-!
# The studies of a release are aggregated

Whatever beginnings of the studies of one release the directories hold,
`aggregate_studies` makes its report unless an index ends with a piece of a line.
Its records are the listed runs, its summaries count them as the studies do, and
its status is complete exactly if every study has ended complete.
-/

/-! ## What the directories hold -/

/-- The directories of a release, one for each seed that has begun. -/
structure Release.Deposited (release : Release) (env : ℤ → Surroundings) (done : ℤ → List Written)
    (endings : ℤ → Ending) (studies : Aggregate.Studies) : Prop where
  sound : release.Sound env
  charges : ∀ seed, (env seed).Charges
  counts : ∀ seed, (env seed).Counts
  beginning : ∀ seed ∈ Aggregate.EXPECTED_SEEDS,
    done seed <+: (run_study (env seed) (release.settingsOf seed) release.tasks).written
  filed : ∀ seed ∈ Aggregate.EXPECTED_SEEDS, release.Filed (env seed) (done seed)
  /-- The identifiers of all runs are different. -/
  apart : ((Aggregate.EXPECTED_SEEDS.flatMap fun seed => listedIn (done seed)).map
    Listed.run_id).Nodup
  declared : ∀ seed ∈ studies.keys, seed ∈ Aggregate.EXPECTED_SEEDS
  found : ∀ seed ∈ Aggregate.EXPECTED_SEEDS,
    studies.get? seed = some (release.directory (done seed) (endings seed)) ∨
      studies.get? seed = none ∧ done seed = []
  /-- Without an index no run is listed, and a piece of a line is none of the first
  entries. -/
  created : ∀ seed ∈ Aggregate.EXPECTED_SEEDS, endings seed = .absent → listedIn (done seed) = []
  torn : ∀ seed ∈ Aggregate.EXPECTED_SEEDS, endings seed = .torn → done seed ≠ []
  begun : ∃ seed ∈ Aggregate.EXPECTED_SEEDS, done seed ≠ []

/-- The listed runs of all seeds. -/
def Release.records (release : Release) (done : ℤ → List Written) : List Aggregate.Record :=
  Aggregate.EXPECTED_SEEDS.flatMap fun seed => (listedIn (done seed)).map (release.record seed)

/-- The evaluations of all seeds. -/
def evaluated (done : ℤ → List Written) : List (Text × EpisodeResult) :=
  Aggregate.EXPECTED_SEEDS.flatMap fun seed => runsOf .evaluation (done seed)

/-- A row of `summarize`, in the words of the aggregation. -/
def Summary.aggregated (row : Summary) : Aggregate.Summary where
  policy := policyText row.policy
  n := row.n
  planned := row.planned
  solved := row.solved
  failed_runs := row.failed_runs

/-- A summary of a report is what `summarize` says of some runs. -/
def Summarizes (summary : List Aggregate.Summary) (runs : List EpisodeResult) (planned : ℕ) :
    Prop :=
  ∃ rows, summarize runs planned = .ok rows ∧ summary = rows.map Summary.aggregated

/-- `observed_models` -/
def observedModels (done : ℤ → List Written) : List Key :=
  (evaluated done).flatMap fun run => run.2.model_ids.map fun model => .text (Text.ofString model)

/-- What a report says of the studies. -/
structure Agrees (release : Release) (env : ℤ → Surroundings) (done : ℤ → List Written)
    (report : Aggregate.Report) : Prop where
  records : report.full_runs = release.records done
  /-- The manifest of a study that has ended is taken at its word. -/
  ended : ∀ seed ∈ Aggregate.EXPECTED_SEEDS, ∀ provenance,
    (manifestsIn (done seed)).getLast? = some provenance → provenance.status ≠ .running →
      ∃ source ∈ report.sources, source.seed = seed ∧
        source.status = Json.string (studyStatusText provenance.status) ∧
        ∃ counters, source.counters = some counters ∧ counters.source_counter_mismatches = [] ∧
          counters.training_completed = provenance.training_completed ∧
          counters.training_failures = provenance.training_failures
  /-- The summaries count the evaluations of all seeds as the studies do, and no
  division in them fails. -/
  summaries : ∀ seed configuration,
    plan (release.settingsOf seed) release.tasks = .ok configuration →
      Summarizes report.summary (runsIn test (evaluated done))
        (plannedIn release.tasks configuration test * 3) ∧
      Summarizes report.validation_summary (runsIn validation (evaluated done))
        (plannedIn release.tasks configuration validation * 3)
  /-- The models of the provider that an evaluation has used are found. -/
  models : ∀ models, Lists release.provider models → ∃ kept,
    publishedModels release.provider (observedModels done) = .ok kept ∧
      ∀ model, model ∈ kept ↔
        model ∈ models ∧ ∃ ident ∈ observedModels done, modelId model = .ok ident
  complete : report.status = "complete" ↔ ∀ seed ∈ Aggregate.EXPECTED_SEEDS, ∃ benchmark,
    run_study (env seed) (release.settingsOf seed) release.tasks =
      .finished benchmark (done seed) ∧ benchmark.status = .complete

/-! ## The ends of the studies -/

section Ends

variable {env : Surroundings} {settings : Settings} {tasks : List RepoTask}
  {configuration : Configuration} {done : List Written} {provenance : Provenance}

/-- A study whose last manifest says that it has ended is whole. -/
theorem whole_of_ended (beginning : done <+: (run_study env settings tasks).written)
    (last : (manifestsIn done).getLast? = some provenance) (ended : provenance.status ≠ .running) :
    done = (run_study env settings tasks).written ∧
      ∃ front, done = front ++ [.manifest provenance] := by
  rcases split_last_manifest last with ⟨front, back, split⟩
  rcases beginning with ⟨rest, whole⟩
  have closed : back ++ rest = [] := by
    refine @run_study_closes env settings tasks front provenance (back ++ rest) ?_ ended
    rw [← whole, split, List.append_assoc, List.cons_append]
  rcases List.append_eq_nil_iff.mp closed with ⟨rfl, rfl⟩
  rw [List.append_nil] at whole
  exact ⟨whole, front, split⟩

/-- The last manifest of a finished study is that of its report. -/
theorem last_of_finished {benchmark : Benchmark} {written : List Written}
    (returned : run_study env settings tasks = .finished benchmark written) :
    (manifestsIn written).getLast? = some benchmark.provenance ∧
      benchmark.provenance.status = benchmark.status ∧ benchmark.status ≠ .running := by
  rcases @run_study_cases env settings tasks with ⟨_, impossible⟩ | ⟨configuration, bounded, begun,
    studying⟩
  · exact absurd returned (impossible benchmark written)
  · have closes {fitted : Option Router.Fitted} {runs : List (Text × EpisodeResult)}
        {stop : Option Stop} {p : Progress} {studied : Studied}
        (closing : Closing env tasks bounded configuration fitted runs stop p studied)
        (finished : studied = .finished benchmark written) :
        (manifestsIn written).getLast? = some benchmark.provenance ∧
          benchmark.provenance.status = benchmark.status ∧ benchmark.status ≠ .running := by
      cases closing with
      | cancelled => cases finished
      | unreported escape => cases finished
      | reported benchmark status whole said =>
        cases finished
        refine ⟨?_, ?_, status⟩
        · rw [manifestsIn, List.filterMap_append]
          exact List.getLast?_concat
        · rw [said]
          rfl
    generalize run_study env settings tasks = studied at returned studying
    cases studying with
    | stopped stop reason => exact closes (concludeStop_closing ..) returned
    | unfitted escape whole refused => exact closes (concludeStop_closing ..) returned
    | evaluated fitted whole accepted => exact closes (concludeStop_closing ..) returned

/-- A study selects some task to evaluate. -/
theorem evaluation_ids_nonempty (made : plan settings tasks = .ok configuration) :
    configuration.evaluation_ids ≠ [] := by
  have planned := planned_of_plan made
  have validated : ∃ task ∈ tasks, task.split = validation := by
    unfold plan at made
    cases checked : validate_splits tasks with
    | error escape =>
      rw [checked] at made
      cases made
    | ok =>
      unfold validate_splits at checked
      cases looped : validateTasks [] [] tasks with
      | error escape =>
        rw [looped] at checked
        cases checked
      | ok =>
        rw [looped] at checked
        dsimp only at checked
        split_ifs at checked with absent
        by_contra none_
        apply absent
        apply List.any_eq_true.mpr
        refine ⟨validation, List.mem_cons_of_mem _ List.mem_cons_self, ?_⟩
        rw [List.isEmpty_iff, List.filter_eq_nil_iff]
        intro task member split
        exact none_ ⟨task, member, of_decide_eq_true split⟩
  rcases validated with ⟨task, member, split⟩
  have kept : task ∈ tasks.filter (·.split ≠ train) :=
    List.mem_filter.mpr ⟨member, decide_eq_true (by rw [split]; decide)⟩
  have positive : 0 < settings.eval_per_family.toNat := by
    have bounds := planned.bounded.eval_per_family
    omega
  rw [planned.evaluation_ids]
  intro nothing
  have unselected := List.map_eq_nil_iff.mp nothing
  unfold select_tasks at unselected
  have family : task.family ∈ (((tasks.filter (·.split ≠ train)).map
      RepoTask.family).dedup).insertionSort fun first second => first ≤ second :=
    (List.mem_insertionSort _).mpr (List.mem_dedup.mpr (List.mem_map_of_mem kept))
  have taken := List.flatMap_eq_nil_iff.mp unselected task.family family
  rcases List.take_eq_nil_iff.mp taken with zero | empty
  · omega
  · have among : task ∈ ((tasks.filter (·.split ≠ train)).filter
        (·.family = task.family)).insertionSort fun first second => first.id ≤ second.id :=
      (List.mem_insertionSort _).mpr (List.mem_filter.mpr ⟨kept, decide_eq_true rfl⟩)
    rw [empty] at among
    cases among

/-- A complete study lists some evaluation. -/
theorem listed_of_complete {benchmark : Benchmark} {written : List Written}
    (returned : run_study env settings tasks = .finished benchmark written)
    (complete : benchmark.status = .complete) (made : plan settings tasks = .ok configuration) :
    listedIn written ≠ [] := by
  intro nothing
  have unlisted : runsOf .evaluation written = [] := by
    rw [runsOf_listed, nothing]
    rfl
  have covered := run_study_whole returned complete made
  rw [unlisted] at covered
  cases ids : configuration.evaluation_ids with
  | nil => exact evaluation_ids_nonempty made ids
  | cons task_id rest =>
    have planned : (⟨task_id, .strong_only, configuration.seed⟩ : PlannedRun) ∈
        expected configuration :=
      List.mem_flatMap.mpr ⟨task_id, ids ▸ List.mem_cons_self,
        List.mem_map.mpr ⟨.strong_only, List.mem_cons_self, rfl⟩⟩
    cases covered _ planned

end Ends

/-! ## The counters -/

section Counters

variable {release : Release} {seed : ℤ} {provenance : Provenance}

theorem differs_self_number (count : ℕ) : Json.differs (number count) (.int count) = false := by
  simp [number, Json.differs, Json.equal, Json.key?]

/-- Counters that are those of the manifest. -/
theorem reconcile_manifest (status : Json) :
    Aggregate.reconcile_training_counters (release.manifestJson provenance) seed status
        provenance.training_completed provenance.training_failures =
      ⟨seed, status, some ⟨provenance.training_completed, provenance.training_failures,
        number provenance.training_completed, number provenance.training_failures, [],
        "consistent", none⟩⟩ := by
  rcases @get_manifest release provenance with ⟨_, _, _, _, _, _, _, completed, failures⟩
  unfold Aggregate.reconcile_training_counters
  simp only [completed, failures, List.filter_cons, differs_self_number, Bool.false_eq_true,
    if_false, List.filter_nil, List.isEmpty_nil, not_true_eq_false, false_and]

/-- The training runs of a directory and of its records. -/
theorem trainedRuns_records (done : List Written) :
    Aggregate.trainedRuns ((listedIn done).map (release.record seed)) =
      (runsOf .train done).length := by
  unfold Aggregate.trainedRuns
  rw [runsOf_listed, List.length_map, List.filter_map, List.length_map]
  congr 1
  apply List.filter_congr
  intro run _
  apply decide_eq_decide.mpr
  show Release.phaseOf run.phase = .train ↔ run.phase = .train
  cases run.phase <;> decide

theorem named_inj {first second : String} :
    Aggregate.named first = Aggregate.named second ↔ first = second :=
  ⟨fun same => Text.ofString_inj.mp (Key.text.inj (Option.some.inj same)), congrArg _⟩

theorem statusText_completed (status : Status) :
    statusText status = "completed" ↔ status = .completed := by
  cases status <;> decide

/-- A run that was not completed. -/
theorem failed_iff {run : Listed} :
    Aggregate.Failed (release.record seed run).run ↔ run.result.status ≠ .completed := by
  rcases @value_record release seed run with ⟨_, _, _, status⟩
  unfold Aggregate.Failed
  rw [status, ne_eq, named_inj, statusText_completed]

theorem failedRuns_records (done : List Written) :
    Aggregate.failedRuns ((listedIn done).map (release.record seed)) =
      (runsOf .train done).countP fun run => run.2.status ≠ .completed := by
  unfold Aggregate.failedRuns
  rw [runsOf_listed, List.filter_map, List.length_map, List.countP_map, List.countP_filter,
    ← List.countP_eq_length_filter]
  apply List.countP_congr
  intro run _
  have phase : (release.record seed run).phase = .train ↔ run.phase = .train := by
    show Release.phaseOf run.phase = .train ↔ run.phase = .train
    cases run.phase <;> decide
  simp only [Function.comp_apply, decide_eq_true_eq, Bool.and_eq_true, phase, failed_iff]
  exact and_comm

end Counters

/-! ## A study that has ended -/

section Ended

variable {release : Release} {env : ℤ → Surroundings} {seed : ℤ} {done : List Written}
  {provenance : Provenance}

/-- The source of a study that has ended. -/
theorem source_ended (charges : (env seed).Charges) (counts : (env seed).Counts)
    (beginning : done <+: (run_study (env seed) (release.settingsOf seed) release.tasks).written)
    {submission : Aggregate.Submission}
    {ending : Ending} (submits : Submits release env seed done ending (some submission))
    (created : ending = .absent → listedIn done = []) (readable : ending ≠ .torn)
    (last : (manifestsIn done).getLast? = some provenance) (ended : provenance.status ≠ .running) :
    submission.source seed = ⟨seed, Json.string (studyStatusText provenance.status),
      some ⟨provenance.training_completed, provenance.training_failures,
        number provenance.training_completed, number provenance.training_failures, [],
        "consistent", none⟩⟩ := by
  rcases whole_of_ended beginning last ended with ⟨whole, front, split⟩
  have stated : Says (env seed) (release.settingsOf seed) release.tasks front provenance :=
    run_study_certified charges counts front provenance [] (by rw [← whole, split])
  have unchanged : runsOf .train done = runsOf .train front := by
    rw [split, runsOf, List.filterMap_append]
    exact List.append_nil _
  rcases stated.counted ended with ⟨completed, failures⟩
  have opened : manifestsIn done ≠ [] := by
    intro unopened
    rw [unopened] at last
    cases last
  have directory : submission.directory = release.directory done ending := by
    have submitted := submits.directory
    rw [if_neg opened] at submitted
    exact Option.some.inj submitted
  have manifest : submission.manifest = release.manifestJson provenance := by
    rcases submits.manifest provenance last with ⟨_, ⟨⟩, same⟩
    exact same
  have records : submission.records = (listedIn done).map (release.record seed) := submits.records
  have index : submission.directory.index = Release.indexOf (listedIn done) ending := by
    rw [directory]
    rfl
  -- A study that lists no run has not ended complete, so that a missing index says the same.
  have unlisted (none_ : listedIn done = []) : studyStatusText provenance.status = "partial" := by
    have unfinished : provenance.status ≠ .complete := by
      intro complete
      have member : .manifest provenance ∈
          (run_study (env seed) (release.settingsOf seed) release.tasks).written := by
        rw [← whole, split]
        exact List.mem_append_right _ List.mem_cons_self
      rcases run_study_ended member ended with ⟨benchmark, returned, _, same⟩
      apply listed_of_complete returned (same.trans complete) stated.planned
      rw [← whole, none_]
    cases known : provenance.status with
    | running => exact absurd known ended
    | partial_ => rfl
    | complete => exact absurd known unfinished
  have counted := @reconcile_manifest release seed provenance
    (Json.string (studyStatusText provenance.status))
  unfold Aggregate.Submission.source
  rw [index, manifest, records]
  cases ending with
  | torn => exact absurd rfl readable
  | absent =>
    have untrained : runsOf .train done = [] := by
      rw [runsOf_listed, created rfl]
      rfl
    rw [← unchanged, untrained] at completed failures
    rw [unlisted (created rfl), completed, failures] at counted ⊢
    exact counted
  | whole =>
    rcases @get_manifest release provenance with ⟨_, _, _, _, _, _, status, _⟩
    show Aggregate.reconcile_training_counters _ _ _ _ _ = _
    rw [status, trainedRuns_records, failedRuns_records, unchanged, ← completed, ← failures]
    exact counted

end Ended

/-! ## The summaries -/

section Summaries

variable {release : Release}

/-- The document of a run, with its identifier. -/
def Release.document (release : Release) (run : Text × EpisodeResult) : JsonObject :=
  release.resultJson run.1 run.2

theorem ofSplit_documents (split : String) (runs : List (Text × EpisodeResult)) :
    Aggregate.ofSplit split (runs.map release.document) =
      (runs.filter fun run => run.2.split = Text.ofString split).map release.document := by
  unfold Aggregate.ofSplit
  rw [List.filter_map]
  congr 1
  apply List.filter_congr
  intro run _
  rcases @get_result release run.1 run.2 with ⟨_, _, _, _, _, assigned, _⟩
  apply decide_eq_decide.mpr
  have key : Aggregate.value (release.document run) "split" = some (.text run.2.split) :=
    congrArg Json.key? assigned
  rw [key]
  exact ⟨fun same => Key.text.inj (Option.some.inj same), fun same => by rw [same]; rfl⟩

theorem policyText_inj {first second : Policy} :
    policyText first = policyText second ↔ first = second := by
  cases first <;> cases second <;> decide

theorem runsOf_documents (policy : Policy) (runs : List (Text × EpisodeResult)) :
    Aggregate.runsOf (runs.map release.document) (policyText policy) =
      (runs.filter fun run => run.2.policy = policy).map release.document := by
  unfold Aggregate.runsOf
  rw [List.filter_map]
  congr 1
  apply List.filter_congr
  intro run _
  rcases @get_result release run.1 run.2 with ⟨_, _, chosen, _⟩
  apply decide_eq_decide.mpr
  have key : Aggregate.value (release.document run) "policy" =
      Aggregate.named (policyText run.2.policy) := congrArg Json.key? chosen
  rw [key, named_inj, policyText_inj]

theorem failed_document (run : Text × EpisodeResult) :
    Aggregate.Failed (release.document run) ↔ run.2.status ≠ .completed :=
  @failed_iff release 0 ⟨.evaluation, run.1, run.2⟩

theorem solved_document (run : Text × EpisodeResult) :
    Aggregate.Solved (release.document run) ↔ SolvedRun run.2 := by
  rcases @get_result release run.1 run.2 with ⟨_, _, _, _, _, _, _, solved, _⟩
  have truthy : (Aggregate.get (release.document run) "solved").isFalsy = false ↔
      run.2.solved = true := by
    rw [Release.document, solved]
    cases run.2.solved <;> decide
  unfold Aggregate.Solved SolvedRun
  rw [failed_document, truthy, not_not]

/-- The rows of the aggregation are those of the studies. -/
theorem summarize_documents (split : String) (planned : ℕ) (runs : List (Text × EpisodeResult)) :
    Aggregate.summarize (Aggregate.ofSplit split (runs.map release.document)) planned =
      (Router.POLICIES.map fun policy => summaryOf policy planned
        (ofPolicy policy (runsIn (Text.ofString split) runs))).map Summary.aggregated := by
  have names : Aggregate.POLICIES = Router.POLICIES.map policyText := rfl
  have among (policy : Policy) : ofPolicy policy (runsIn (Text.ofString split) runs) =
      ((runs.filter fun run => run.2.split = Text.ofString split).filter
        fun run => run.2.policy = policy).map Prod.snd := by
    unfold ofPolicy runsIn
    rw [List.filter_map, List.filter_map]
    rfl
  unfold Aggregate.summarize
  rw [names, List.map_map, List.map_map]
  apply List.map_congr_left
  intro policy _
  rw [Function.comp_apply, Function.comp_apply, among, ofSplit_documents, runsOf_documents]
  generalize (runs.filter fun run => run.2.split = Text.ofString split).filter
    (fun run => run.2.policy = policy) = rows
  have failures : ((rows.map release.document).filter fun run => Aggregate.Failed run).length =
      (rows.map Prod.snd).countP fun run => run.status ≠ .completed := by
    rw [← List.countP_eq_length_filter, List.countP_map, List.countP_map]
    exact List.countP_congr fun run _ => by simp only [Function.comp_apply, failed_document]
  have solved : ((rows.map release.document).filter fun run => Aggregate.Solved run).length =
      (rows.map Prod.snd).countP fun run => SolvedRun run := by
    rw [← List.countP_eq_length_filter, List.countP_map, List.countP_map]
    exact List.countP_congr fun run _ => by simp only [Function.comp_apply, solved_document]
  rw [failures, solved, List.length_map]
  unfold summaryOf Summary.aggregated
  rw [List.length_map]

/-- Runs with hidden cases can be divided by them. -/
theorem summarize_divides {runs : List EpisodeResult} (planned : ℕ)
    (hidden : ∀ run ∈ runs, run.heldout_total ≠ 0) :
    summarize runs planned =
      .ok (Router.POLICIES.map fun policy => summaryOf policy planned (ofPolicy policy runs)) := by
  unfold summarize
  rw [if_neg]
  intro fails
  rcases List.any_eq_true.mp fails with ⟨policy, _, undivided⟩
  rcases of_decide_eq_true undivided with ⟨graded, total⟩
  rcases List.exists_mem_of_ne_nil _ graded with ⟨run, member⟩
  have among : run ∈ runs := List.mem_of_mem_filter (List.mem_of_mem_filter member)
  exact hidden run among (List.sum_eq_zero_iff.mp total _ (List.mem_map_of_mem member))

/-- A summary of documents is one of their runs. -/
theorem summarizes_documents (split : String) (planned : ℕ) (runs : List (Text × EpisodeResult))
    (hidden : ∀ run ∈ runs, run.2.heldout_total ≠ 0) :
    Summarizes (Aggregate.summarize (Aggregate.ofSplit split (runs.map release.document)) planned)
      (runsIn (Text.ofString split) runs) planned := by
  refine ⟨_, summarize_divides planned ?_, summarize_documents split planned runs⟩
  intro result member
  rcases List.mem_map.mp (List.mem_of_mem_filter member) with ⟨run, inside, rfl⟩
  exact hidden run inside

end Summaries

/-! ## The tests of the plan -/

section Tests

variable {release : Release} {settings : Settings} {configuration : Configuration}
  {gathered : Aggregate.Gathered}

/-- The split that the aggregation finds for a task. -/
theorem splitOf_release (planned : Planned settings release.tasks configuration)
    (knows : release.classes.Knows gathered) {task : RepoTask} (member : task ∈ release.tasks) :
    Aggregate.splitOf release.environment gathered (.str task.id) =
      .ok (some (.text task.split)) := by
  unfold Aggregate.splitOf
  cases known : (gathered.task_families.get? (Json.str task.id).key?).bind
      gathered.family_splits.get? with
  | some split =>
    rcases Option.bind_eq_some_iff.mp known with ⟨family, found, assigned⟩
    have named : family = some (.text task.family) := by
      rw [knows.families _ _ found]
      show (release.family task.id).map Key.text = _
      rw [Release.family_task planned member, Option.map_some]
    rw [named] at assigned
    dsimp only
    rw [knows.splits _ _ assigned, Release.split_task planned.separated member]
  | none =>
    have listed : release.environment.catalog (.str task.id) = some task.split := by
      show (release.tasks.find? fun other => other.id = task.id).map RepoTask.split = _
      cases found : release.tasks.find? fun other => other.id = task.id with
      | none => exact absurd (decide_eq_true rfl) (List.find?_eq_none.mp found task member)
      | some other =>
        have same := List.find?_some found
        rw [decide_eq_true_eq] at same
        rw [List.inj_on_of_nodup_map planned.separated.distinct
          (List.mem_of_find?_eq_some found) member same, Option.map_some]
    dsimp only
    rw [listed]

/-- The tests that the aggregation finds are the planned ones. -/
theorem testIds_release (planned : Planned settings release.tasks configuration)
    (knows : release.classes.Knows gathered) {task_ids : List Text}
    (known : ∀ task_id ∈ task_ids, ∃ task ∈ release.tasks, task.id = task_id) :
    Aggregate.testIds release.environment gathered (task_ids.map Json.str) =
      .ok ((task_ids.filter fun task_id => splitOf release.tasks task_id = some test).map
        Json.str) := by
  induction task_ids with
  | nil => rfl
  | cons task_id rest ih =>
    rcases known task_id List.mem_cons_self with ⟨task, member, rfl⟩
    have later := ih fun other inside => known other (List.mem_cons_of_mem _ inside)
    have found := splitOf_release planned knows member
    have tested : some (Key.text task.split) = Aggregate.named "test" ↔
        splitOf release.tasks task.id = some test := by
      rw [splitOf_task planned member]
      exact ⟨fun same => congrArg some (Key.text.inj (Option.some.inj same)),
        fun same => congrArg (fun split => some (Key.text split)) (Option.some.inj same)⟩
    simp only [List.map_cons, Aggregate.testIds, Aggregate.bind_ok_iff]
    refine ⟨_, found, _, later, ?_⟩
    rw [List.filter_cons]
    by_cases tests : splitOf release.tasks task.id = some test
    · rw [if_pos (tested.mpr tests), if_pos (decide_eq_true tests), List.map_cons]
    · rw [if_neg (mt tested.mp tests), if_neg (by rwa [decide_eq_true_eq])]

/-- The planned validations are those that are no tests. -/
theorem validations_release (planned : Planned settings release.tasks configuration) :
    ((configuration.evaluation_ids.map Json.str).filter fun task_id => task_id.key? ∉
      ((idsIn release.tasks configuration test).map Json.str).map Json.key?).length =
        plannedIn release.tasks configuration validation := by
  rw [List.filter_map, List.length_map, plannedIn, List.countP_eq_length_filter]
  congr 1
  apply List.filter_congr
  intro task_id member
  apply decide_eq_decide.mpr
  have tested : (Json.str task_id).key? ∈
      ((idsIn release.tasks configuration test).map Json.str).map Json.key? ↔
        splitOf release.tasks task_id = some test := by
    rw [List.map_map, List.mem_map]
    constructor
    · rintro ⟨other, inside, same⟩
      rw [← Key.text.inj (Option.some.inj same)]
      exact of_decide_eq_true (List.mem_filter.mp inside).2
    · intro tests
      exact ⟨task_id, List.mem_filter.mpr ⟨member, decide_eq_true tests⟩, rfl⟩
  show ¬ _ ↔ splitOf release.tasks task_id = some validation
  rw [tested]
  rcases planned.split_cases member with tests | validates
  · rw [tests]
    simp [test_ne_validation]
  · rw [validates]
    simp [test_ne_validation.symm]

end Tests

/-! ## The report -/

section Report

variable {release : Release} {env : ℤ → Surroundings} {done : ℤ → List Written}
  {endings : ℤ → Ending} {studies : Aggregate.Studies}

/-- A beginning that has written something has a manifest. -/
theorem manifestsIn_nonempty {surroundings : Surroundings} {settings : Settings}
    {tasks : List RepoTask} {part : List Written} (charges : surroundings.Charges)
    (counts : surroundings.Counts)
    (beginning : part <+: (run_study surroundings settings tasks).written) (some_ : part ≠ []) :
    manifestsIn part ≠ [] := by
  rcases beginning with ⟨rest, whole⟩
  cases part with
  | nil => exact absurd rfl some_
  | cons entry later =>
    rcases run_study_opens charges counts with empty | ⟨provenance, others, opens⟩
    · rw [empty] at whole
      cases whole
    · rw [opens] at whole
      cases whole
      exact List.cons_ne_nil _ _

/-- The plans of a release differ in their seeds. -/
theorem plan_of_release {first second : ℤ} {configuration other : Configuration}
    (made : plan (release.settingsOf first) release.tasks = .ok configuration)
    (also : plan (release.settingsOf second) release.tasks = .ok other) :
    other = { configuration with seed := second } :=
  Except.ok.inj (also.symm.trans (plan_seed made second))

/-- What the directories submit, seed by seed. -/
theorem Release.Deposited.exists_submitted (deposited : release.Deposited env done endings studies)
    (readable : ∀ seed ∈ Aggregate.EXPECTED_SEEDS, endings seed ≠ .torn) :
    ∃ submitted : ℤ → Option Aggregate.Submission, ∀ seed ∈ Aggregate.EXPECTED_SEEDS,
      Submits release env seed (done seed) (endings seed) (submitted seed) := by
  have each (seed : ℤ) : ∃ submitted, seed ∈ Aggregate.EXPECTED_SEEDS →
      Submits release env seed (done seed) (endings seed) submitted := by
    by_cases expected : seed ∈ Aggregate.EXPECTED_SEEDS
    · have apart : ((listedIn (done seed)).map Listed.run_id).Nodup := by
        have all := deposited.apart
        rw [List.map_flatMap] at all
        exact (List.nodup_flatMap.mp all).1 seed expected
      rcases Study.exists_submitted deposited.sound expected (deposited.charges seed)
        (deposited.counts seed) (deposited.beginning seed expected)
        (deposited.filed seed expected) apart (readable seed expected)
        (deposited.created seed expected) with ⟨submitted, submits⟩
      exact ⟨submitted, fun _ => submits⟩
    · exact ⟨none, fun known => absurd known expected⟩
  choose submitted submits using each
  exact ⟨submitted, submits⟩

/-- What is read in the evaluations among the records. -/
theorem map_evaluations {β : Type} (read : Aggregate.Record → β) :
    (Aggregate.evaluations (release.records done)).map read =
      Aggregate.EXPECTED_SEEDS.flatMap fun seed => (runsOf .evaluation (done seed)).map
        fun run => read (release.record seed ⟨.evaluation, run.1, run.2⟩) := by
  unfold Aggregate.evaluations Release.records
  rw [List.filter_flatMap, List.map_flatMap]
  apply List.flatMap_congr
  intro seed _
  rw [runsOf_listed, List.filter_map, List.map_map, List.map_map]
  have same : (fun record : Aggregate.Record => decide record.evaluated) ∘ release.record seed =
      fun run => decide (run.phase = .evaluation) := by
    funext run
    apply decide_eq_decide.mpr
    show Release.phaseOf run.phase = .evaluation ↔ run.phase = .evaluation
    cases run.phase <;> decide
  rw [same]
  apply List.map_congr_left
  rintro ⟨phase, run_id, result⟩ member
  have phased := of_decide_eq_true (List.mem_filter.mp member).2
  dsimp only at phased
  rw [phased]
  rfl

theorem cell_record (seed : ℤ) (run : Listed) :
    (release.record seed run).cell = (seed, some (.text run.result.task_id),
      Aggregate.named (policyText run.result.policy)) := by
  rcases @value_record release seed run with ⟨task_id, _, policy, _⟩
  unfold Aggregate.Record.cell
  rw [task_id, policy]
  rfl

/-- The evaluations of a seed have its seed. -/
theorem Release.Deposited.evaluation_seed (deposited : release.Deposited env done endings studies)
    {seed : ℤ} (expected : seed ∈ Aggregate.EXPECTED_SEEDS) {run : Text × EpisodeResult}
    (member : run ∈ runsOf .evaluation (done seed)) : run.2.seed = seed := by
  rw [runsOf_listed] at member
  rcases List.mem_map.mp member with ⟨listed, inside, rfl⟩
  rcases List.mem_filter.mp inside with ⟨known, phase⟩
  have whole := ((deposited.beginning seed expected).filterMap Written.listed?).subset known
  rcases run_study_listed (deposited.charges seed) (deposited.counts seed) whole with
    ⟨configuration, _, belongs, _⟩
  cases belongs with
  | train trained => exact absurd (trained.symm.trans (of_decide_eq_true phase)) (by decide)
  | evaluation _ _ _ _ _ _ _ _ same => exact same

/-- Every evaluation has hidden cases. -/
theorem Release.Deposited.evaluation_hidden
    (deposited : release.Deposited env done endings studies) :
    ∀ run ∈ evaluated done, run.2.heldout_total ≠ 0 := by
  intro run member
  rcases List.mem_flatMap.mp member with ⟨seed, expected, inside⟩
  rw [runsOf_listed] at inside
  rcases List.mem_map.mp inside with ⟨listed, among, rfl⟩
  have known := List.mem_of_mem_filter among
  have whole := ((deposited.beginning seed expected).filterMap Written.listed?).subset known
  rcases run_study_listed (deposited.charges seed) (deposited.counts seed) whole with
    ⟨configuration, _, belongs, _⟩
  have graded : ∃ task ∈ release.tasks,
      listed.result.heldout_total = task.hidden_cases.length := by
    cases belongs with
    | train _ task known _ _ _ _ _ heldout_total => exact ⟨task, known, heldout_total⟩
    | evaluation _ task known _ _ _ _ _ _ heldout_total => exact ⟨task, known, heldout_total⟩
  rcases graded with ⟨task, among, heldout_total⟩
  show listed.result.heldout_total ≠ 0
  rw [heldout_total]
  exact fun nothing => deposited.sound.hidden task among (List.eq_nil_of_length_eq_zero nothing)

/-- No identifier and no cell is met twice. -/
theorem Release.Deposited.separate (deposited : release.Deposited env done endings studies) :
    Aggregate.Separate .empty (release.records done) where
  ids := by
    have apart := deposited.apart
    have named : (release.records done).map Aggregate.Record.ident =
        (Aggregate.EXPECTED_SEEDS.flatMap fun seed => listedIn (done seed)).map Listed.run_id := by
      unfold Release.records
      rw [List.map_flatMap, List.map_flatMap]
      apply List.flatMap_congr
      intro seed _
      rw [List.map_map]
      rfl
    rw [named]
    exact apart
  cells := by
    show ((Aggregate.evaluations (release.records done)).map Aggregate.Record.cell).Nodup
    rw [map_evaluations, List.nodup_flatMap]
    constructor
    · intro seed expected
      have once : ((runsOf .evaluation (done seed)).map fun run => resultCell run.2).Nodup := by
        have whole := @run_study_once (env seed) (release.settingsOf seed) release.tasks
        exact whole.sublist
          (((deposited.beginning seed expected).filterMap (Written.run? .evaluation)).sublist.map _)
      apply (List.Nodup.of_map _ once).map_on
      intro first here second there same
      rw [cell_record, cell_record] at same
      rcases Prod.mk.inj same with ⟨_, others⟩
      rcases Prod.mk.inj others with ⟨task_id, policy⟩
      apply List.inj_on_of_nodup_map once here there
      unfold resultCell
      rw [Key.text.inj (Option.some.inj task_id), policyText_inj.mp (named_inj.mp policy),
        deposited.evaluation_seed expected here, deposited.evaluation_seed expected there]
    · have distinct : Aggregate.EXPECTED_SEEDS.Nodup := by decide
      apply distinct.imp
      intro first second different cell here there
      rcases List.mem_map.mp here with ⟨run, _, rfl⟩
      rcases List.mem_map.mp there with ⟨other, _, same⟩
      rw [cell_record, cell_record] at same
      exact different (Prod.mk.inj same).1.symm

section Submitted

variable {submitted : ℤ → Option Aggregate.Submission} {seed : ℤ}

/-- The directory of a seed is read once it has a manifest. -/
theorem studyOf_deposited (deposited : release.Deposited env done endings studies)
    (expected : seed ∈ Aggregate.EXPECTED_SEEDS) :
    Aggregate.studyOf studies seed = if manifestsIn (done seed) = [] then none
      else some (release.directory (done seed) (endings seed)) := by
  unfold Aggregate.studyOf
  rcases deposited.found seed expected with held | ⟨absent, nothing⟩
  · rw [held]
    have manifest : (release.directory (done seed) (endings seed)).manifest =
        Release.fileOf ((manifestsIn (done seed)).map release.manifestJson) := rfl
    dsimp only
    rw [manifest, Release.fileOf, List.getLast?_map]
    cases last : (manifestsIn (done seed)).getLast? with
    | none =>
      rw [if_pos (List.getLast?_eq_none_iff.mp last)]
      rfl
    | some provenance =>
      have some_ : manifestsIn (done seed) ≠ [] := by
        intro unopened
        rw [unopened] at last
        cases last
      rw [if_neg some_]
      rfl
  · rw [absent, nothing]
    rfl

theorem studyOf_release (deposited : release.Deposited env done endings studies)
    (expected : seed ∈ Aggregate.EXPECTED_SEEDS)
    (submits : Submits release env seed (done seed) (endings seed) (submitted seed)) :
    Aggregate.studyOf studies seed = (submitted seed).map Aggregate.Submission.directory := by
  rw [studyOf_deposited deposited expected, submits.directory]

/-- A study that a reader finds complete has ended complete. -/
theorem finished_of_sourceComplete (deposited : release.Deposited env done endings studies)
    (expected : seed ∈ Aggregate.EXPECTED_SEEDS)
    (submits : Submits release env seed (done seed) (endings seed) (submitted seed))
    {records : List Aggregate.Record}
    (complete : Aggregate.SourceComplete studies seed records) :
    ∃ benchmark, run_study (env seed) (release.settingsOf seed) release.tasks =
      .finished benchmark (done seed) ∧ benchmark.status = .complete := by
  rcases complete with ⟨directory, manifest, found, opened, _, status, _⟩
  rw [studyOf_release deposited expected submits, submits.directory] at found
  split_ifs at found
  cases found
  have last : ∃ provenance, (manifestsIn (done seed)).getLast? = some provenance ∧
      manifest = release.manifestJson provenance := by
    have stored : Release.fileOf ((manifestsIn (done seed)).map release.manifestJson) =
        .json (.obj manifest) := opened
    rw [Release.fileOf, List.getLast?_map] at stored
    cases known : (manifestsIn (done seed)).getLast? with
    | none =>
      rw [known] at stored
      cases stored
    | some provenance =>
      rw [known] at stored
      cases stored
      exact ⟨provenance, rfl, rfl⟩
  rcases last with ⟨provenance, last, rfl⟩
  have ended : provenance.status = .complete := by
    rcases @get_manifest release provenance with ⟨_, _, _, _, _, _, held, _⟩
    have written : Aggregate.value (release.manifestJson provenance) "status" =
        Aggregate.named (studyStatusText provenance.status) := congrArg Json.key? (held .null)
    rw [written, named_inj] at status
    cases known : provenance.status with
    | complete => rfl
    | _ =>
      rw [known] at status
      exact absurd status (by decide)
  have over_ : provenance.status ≠ .running := by
    rw [ended]
    decide
  rcases whole_of_ended (deposited.beginning seed expected) last over_ with ⟨whole, front, split⟩
  have member : .manifest provenance ∈
      (run_study (env seed) (release.settingsOf seed) release.tasks).written := by
    rw [← whole, split]
    exact List.mem_append_right _ List.mem_cons_self
  rcases run_study_ended member over_ with ⟨benchmark, returned, _, same⟩
  refine ⟨benchmark, ?_, same.trans ended⟩
  rw [whole]
  exact returned

end Submitted

/-- Every submitted signature is that of a plan of the release. -/
theorem signed_release {submitted : ℤ → Option Aggregate.Submission}
    (submits : ∀ seed ∈ Aggregate.EXPECTED_SEEDS,
      Submits release env seed (done seed) (endings seed) (submitted seed))
    {signature : Aggregate.Signature}
    (member : signature ∈ Aggregate.signaturesOf submitted Aggregate.EXPECTED_SEEDS) :
    ∃ seed configuration, plan (release.settingsOf seed) release.tasks = .ok configuration ∧
      Signed release configuration (env 0).task_manifest_hash signature := by
  rcases List.mem_flatMap.mp member with ⟨seed, expected, inside⟩
  cases held : submitted seed with
  | none =>
    rw [held] at inside
    cases inside
  | some submission =>
    rw [held] at inside
    rw [List.mem_singleton.mp inside]
    rcases (submits seed expected).signed submission held with ⟨configuration, made, signed⟩
    exact ⟨seed, configuration, made, signed⟩

/-- The task lists of a signature. -/
theorem ids_signed {configuration : Configuration} {hash : Text} {signature : Aggregate.Signature}
    (signed : Signed release configuration hash signature) :
    Aggregate.ids signature.full "evaluation_ids" = configuration.evaluation_ids.map Json.str := by
  rcases @get_configuration configuration with ⟨_, _, _, _, evaluation, _⟩
  unfold Aggregate.ids
  rw [signed.full, evaluation]
  rfl

/-- Some directory has a manifest, and it is the canonical one. -/
theorem exists_canonical (deposited : release.Deposited env done endings studies)
    {submitted : ℤ → Option Aggregate.Submission}
    (submits : ∀ seed ∈ Aggregate.EXPECTED_SEEDS,
      Submits release env seed (done seed) (endings seed) (submitted seed)) :
    ∃ canonical,
      (Aggregate.signaturesOf submitted Aggregate.EXPECTED_SEEDS).head? = some canonical := by
  rcases deposited.begun with ⟨seed, expected, begun⟩
  have opened := manifestsIn_nonempty (deposited.charges seed) (deposited.counts seed)
    (deposited.beginning seed expected) begun
  have directory := (submits seed expected).directory
  rw [if_neg opened] at directory
  rcases Option.map_eq_some_iff.mp directory with ⟨submission, held, _⟩
  have member : submission.signature ∈
      Aggregate.signaturesOf submitted Aggregate.EXPECTED_SEEDS :=
    List.mem_flatMap.mpr ⟨seed, expected, by rw [held]; exact List.mem_cons_self⟩
  cases known : (Aggregate.signaturesOf submitted Aggregate.EXPECTED_SEEDS).head? with
  | none =>
    rw [List.head?_eq_none_iff.mp known] at member
    cases member
  | some canonical => exact ⟨canonical, rfl⟩

/-- All signatures of a release are the same. -/
theorem comparable_release (sound : release.Sound env)
    {submitted : ℤ → Option Aggregate.Submission}
    (submits : ∀ seed ∈ Aggregate.EXPECTED_SEEDS,
      Submits release env seed (done seed) (endings seed) (submitted seed)) :
    Aggregate.Comparable .empty
      (Aggregate.signaturesOf submitted Aggregate.EXPECTED_SEEDS) := by
  intro signature member canonical known
  have first : canonical ∈ Aggregate.signaturesOf submitted Aggregate.EXPECTED_SEEDS :=
    List.mem_of_head? known
  rcases signed_release submits member with ⟨seed, configuration, made, signed⟩
  rcases signed_release submits first with ⟨other, declared, also, published⟩
  rw [plan_of_release also made] at signed
  exact same_signatures sound signed published

/-- The source of a seed whose study has ended. -/
theorem sourceOf_ended (deposited : release.Deposited env done endings studies) {seed : ℤ}
    (expected : seed ∈ Aggregate.EXPECTED_SEEDS) (readable : endings seed ≠ .torn)
    {submitted : Option Aggregate.Submission}
    (submits : Submits release env seed (done seed) (endings seed) submitted)
    {provenance : Provenance}
    (last : (manifestsIn (done seed)).getLast? = some provenance)
    (ended : provenance.status ≠ .running) :
    Aggregate.sourceOf seed submitted = ⟨seed, Json.string (studyStatusText provenance.status),
      some ⟨provenance.training_completed, provenance.training_failures,
        number provenance.training_completed, number provenance.training_failures, [],
        "consistent", none⟩⟩ := by
  cases submitted with
  | none =>
    rcases submits.manifest provenance last with ⟨_, impossible, _⟩
    cases impossible
  | some submission =>
    exact source_ended (deposited.charges seed) (deposited.counts seed)
      (deposited.beginning seed expected) submits (deposited.created seed expected) readable last
      ended

section Gathered

variable {submitted : ℤ → Option Aggregate.Submission} {canonical : Aggregate.Signature}
  {gathered : Aggregate.Gathered} {test_ids : List Json}

/-- The planned cells of complete studies are all covered. -/
theorem covered_release {configuration : Configuration} {first : ℤ}
    (made : plan (release.settingsOf first) release.tasks = .ok configuration)
    (finished : ∀ seed ∈ Aggregate.EXPECTED_SEEDS, ∃ benchmark,
      run_study (env seed) (release.settingsOf seed) release.tasks =
        .finished benchmark (done seed) ∧ benchmark.status = .complete)
    {row : Aggregate.Row}
    (planned : row ∈ Aggregate.expectedRows (configuration.evaluation_ids.map Json.str)) :
    row.cell ∈ (Aggregate.evaluations (release.records done)).map Aggregate.Record.cell := by
  rcases Aggregate.mem_expectedRows_iff.mp planned with ⟨expected, listed, offered⟩
  rcases List.mem_map.mp listed with ⟨task_id, selected, named⟩
  have names : Aggregate.POLICIES = Router.POLICIES.map policyText := rfl
  rw [names] at offered
  rcases List.mem_map.mp offered with ⟨policy, among, chosen⟩
  rcases finished row.seed expected with ⟨benchmark, returned, complete⟩
  have cell : (⟨task_id, policy, row.seed⟩ : PlannedRun) ∈
      Study.expected { configuration with seed := row.seed } :=
    List.mem_flatMap.mpr ⟨task_id, selected, List.mem_map.mpr ⟨policy, among, rfl⟩⟩
  rcases List.mem_map.mp (run_study_whole returned complete (plan_seed made row.seed) _ cell) with
    ⟨run, ran, same⟩
  rw [map_evaluations]
  refine List.mem_flatMap.mpr ⟨row.seed, expected, List.mem_map.mpr ⟨run, ran, ?_⟩⟩
  have task : run.2.task_id = task_id := congrArg PlannedRun.task_id same
  have picked : run.2.policy = policy := congrArg PlannedRun.policy same
  rw [cell_record, Aggregate.Row.cell, ← named, ← chosen]
  dsimp only
  rw [task, picked]
  rfl

theorem agrees_of_entered (deposited : release.Deposited env done endings studies)
    (readable : ∀ seed ∈ Aggregate.EXPECTED_SEEDS, endings seed ≠ .torn)
    (submits : ∀ seed ∈ Aggregate.EXPECTED_SEEDS,
      Submits release env seed (done seed) (endings seed) (submitted seed))
    (canonical_ : (Aggregate.signaturesOf submitted Aggregate.EXPECTED_SEEDS).head? =
      some canonical)
    (knows : release.classes.Knows gathered)
    (entered : Aggregate.Entered
      (Aggregate.submittedSources submitted Aggregate.EXPECTED_SEEDS)
      (Aggregate.signaturesOf submitted Aggregate.EXPECTED_SEEDS) (release.records done) .empty
      gathered)
    (followed : Aggregate.Followed studies Aggregate.EXPECTED_SEEDS gathered)
    (tests : Aggregate.testIds release.environment gathered
      (Aggregate.ids canonical.full "evaluation_ids") = .ok test_ids) :
    Agrees release env done (Aggregate.makeReport gathered canonical test_ids) := by
  rcases signed_release submits (List.mem_of_head? canonical_) with ⟨first, declared, made, signed⟩
  have planned := planned_of_plan made
  have listed := ids_signed signed
  have sources : gathered.sources =
      Aggregate.submittedSources submitted Aggregate.EXPECTED_SEEDS := entered.sources
  have evaluations : gathered.evaluation = (evaluated done).map release.document := by
    rw [show gathered.evaluation = _ from entered.evaluation]
    show (Aggregate.evaluations (release.records done)).map Aggregate.Record.run = _
    rw [map_evaluations, evaluated, List.map_flatMap]
    rfl
  have identities : gathered.identities =
      (Aggregate.evaluations (release.records done)).map Aggregate.Record.cell :=
    entered.identities
  have ended (seed : ℤ) (expected : seed ∈ Aggregate.EXPECTED_SEEDS) (provenance : Provenance)
      (last : (manifestsIn (done seed)).getLast? = some provenance)
      (over_ : provenance.status ≠ .running) := sourceOf_ended deposited expected
        (readable seed expected) (submits seed expected) last over_
  have member (seed : ℤ) (expected : seed ∈ Aggregate.EXPECTED_SEEDS) :
      Aggregate.sourceOf seed (submitted seed) ∈ gathered.sources := by
    rw [sources]
    exact List.mem_map_of_mem expected
  constructor
  · exact entered.full_runs
  · intro seed expected provenance last over_
    have found := ended seed expected provenance last over_
    refine ⟨_, member seed expected, ?_⟩
    rw [found]
    exact ⟨rfl, rfl, _, rfl, rfl, rfl, rfl⟩
  · intro seed configuration also
    have same := plan_of_release made also
    rw [same]
    have known : ∀ task_id ∈ declared.evaluation_ids,
        ∃ task ∈ release.tasks, task.id = task_id := by
      intro task_id inside
      rcases planned.evaluation_task inside with ⟨task, held, named, _⟩
      exact ⟨task, held, named⟩
    have counted : test_ids = (idsIn release.tasks declared test).map Json.str := by
      rw [listed] at tests
      exact Except.ok.inj (tests.symm.trans (testIds_release planned knows known))
    have seeds : Aggregate.EXPECTED_SEEDS.length = 3 := rfl
    constructor
    · show Summarizes (Aggregate.summarize (Aggregate.ofSplit "test" gathered.evaluation) _) _ _
      rw [evaluations, counted, List.length_map, ← plannedIn_eq, seeds]
      exact summarizes_documents "test" _ _ deposited.evaluation_hidden
    · show Summarizes
        (Aggregate.summarize (Aggregate.ofSplit "validation" gathered.evaluation) _) _ _
      rw [evaluations, listed, counted, validations_release planned, seeds]
      exact summarizes_documents "validation" _ _ deposited.evaluation_hidden
  · exact fun models lists => publishedModels_ok lists _
  · rw [Aggregate.makeReport_status_iff followed]
    constructor
    · rintro ⟨_, complete⟩ seed expected
      exact finished_of_sourceComplete deposited expected (submits seed expected)
        (complete seed expected)
    · intro finished
      constructor
      · show missingRows Aggregate.Row.cell _ gathered.identities = []
        apply List.eq_nil_iff_forall_not_mem.mpr
        intro row missing
        rcases (mem_missingRows_iff row).mp missing with ⟨inside, uncovered⟩
        rw [listed] at inside
        rw [identities] at uncovered
        exact uncovered (covered_release made finished inside)
      · intro seed expected
        rcases finished seed expected with ⟨benchmark, returned, complete⟩
        rcases last_of_finished returned with ⟨last, status, over_⟩
        have source := ended seed expected _ last (status ▸ over_)
        have known := (followed.complete _ (member seed expected)).mp
        rw [source] at known
        apply known
        show (Json.string (studyStatusText benchmark.provenance.status)).key? = _
        rw [status, complete]
        rfl

end Gathered

/-- The report on indexes that can all be read. -/
theorem exists_report (deposited : release.Deposited env done endings studies)
    (readable : ∀ seed ∈ Aggregate.EXPECTED_SEEDS, endings seed ≠ .torn) :
    ∃ report, Aggregate.aggregate_studies release.environment studies = .ok report ∧
      Agrees release env done report := by
  rcases deposited.exists_submitted readable with ⟨submitted, submits⟩
  rcases exists_canonical deposited submits with ⟨canonical, first⟩
  have records : Aggregate.submittedRecords submitted Aggregate.EXPECTED_SEEDS =
      release.records done :=
    List.flatMap_congr fun seed expected => (submits seed expected).records
  have separate := deposited.separate
  rw [← records] at separate
  have known : ∀ task_id ∈ Aggregate.ids canonical.full "evaluation_ids",
      (release.environment.catalog task_id).isSome = true := by
    rcases signed_release submits (List.mem_of_head? first) with ⟨seed, configuration, made, signed⟩
    rw [ids_signed signed]
    intro task_id member
    rcases List.mem_map.mp member with ⟨ident, listed, rfl⟩
    rcases (planned_of_plan made).evaluation_task listed with ⟨task, inside, named, _⟩
    show ((release.tasks.find? fun other => other.id = ident).map RepoTask.split).isSome = true
    rw [Option.isSome_map, List.find?_isSome]
    exact ⟨task, inside, decide_eq_true named⟩
  rcases Aggregate.aggregate_accepts deposited.declared
    (fun seed expected => studyOf_release deposited expected (submits seed expected))
    (fun seed expected => (submits seed expected).sound)
    (comparable_release deposited.sound submits) separate first known with
    ⟨gathered, test_ids, accepted, knows, entered, followed, tests⟩
  rw [records] at entered
  exact ⟨_, accepted,
    agrees_of_entered deposited readable submits first knows entered followed tests⟩

/-- A piece of a line at the end of an index is refused. -/
theorem readable_of_accepted (deposited : release.Deposited env done endings studies)
    {report : Aggregate.Report}
    (accepted : Aggregate.aggregate_studies release.environment studies = .ok report) {seed : ℤ}
    (expected : seed ∈ Aggregate.EXPECTED_SEEDS) : endings seed ≠ .torn := by
  intro torn
  have begun := deposited.torn seed expected torn
  have opened := manifestsIn_nonempty (deposited.charges seed) (deposited.counts seed)
    (deposited.beginning seed expected) begun
  have stored : Aggregate.indexOf studies seed =
      ((listedIn (done seed)).map fun run => some run.row) ++ [none] := by
    unfold Aggregate.indexOf
    rw [studyOf_deposited deposited expected, if_neg opened, torn]
    rfl
  simp only [Aggregate.aggregate_studies, Aggregate.bind_ok_iff] at accepted
  rcases accepted with ⟨_, _, gathered, added, _⟩
  have followed := Aggregate.Followed.run (.empty studies) (by decide)
    (fun _ member => member) added
  have piece : (seed, none) ∈ Aggregate.indexedLines studies Aggregate.EXPECTED_SEEDS := by
    apply List.mem_flatMap.mpr
    refine ⟨seed, expected, List.mem_map_of_mem ?_⟩
    rw [stored]
    exact List.mem_append_right _ List.mem_cons_self
  rcases exists_related followed.indexed.flip piece with ⟨record, _, indexed⟩
  rcases indexed.entry with ⟨_, impossible⟩
  cases impossible

/-- The directories of a release, whatever beginnings of its studies they hold, are
aggregated unless an index ends with a piece of a line, and the report agrees with
the studies. -/
theorem study_aggregated (release : Release) (env : ℤ → Surroundings) (done : ℤ → List Written)
    (endings : ℤ → Ending) (studies : Aggregate.Studies)
    (deposited : release.Deposited env done endings studies) :
    ((∃ report, Aggregate.aggregate_studies release.environment studies = .ok report) ↔
      ∀ seed ∈ Aggregate.EXPECTED_SEEDS, endings seed ≠ .torn) ∧
    ∀ report, Aggregate.aggregate_studies release.environment studies = .ok report →
      Agrees release env done report := by
  have refused (report : Aggregate.Report)
      (accepted : Aggregate.aggregate_studies release.environment studies = .ok report) :
      ∀ seed ∈ Aggregate.EXPECTED_SEEDS, endings seed ≠ .torn :=
    fun seed expected => readable_of_accepted deposited accepted expected
  constructor
  · constructor
    · rintro ⟨report, accepted⟩
      exact refused report accepted
    · intro readable
      rcases exists_report deposited readable with ⟨report, accepted, _⟩
      exact ⟨report, accepted⟩
  · intro report accepted
    rcases exists_report deposited (refused report accepted) with ⟨other, also, agrees⟩
    cases accepted.symm.trans also
    exact agrees

end Report

/-! ## Two studies in training -/

/-- A release of the small tasks, with the digests of its configurations and of
its one source file. -/
def smallRelease : Release where
  settings := smallSettings
  tasks := smallTasks
  provider := Json.object [("models", .arr [Json.object [("id", Json.string "fixture-model")]])]
  files := entries [("forgerl/bench/engine.py",
    Json.string "aaaaaaaaaaaaaaaaaaaaaaaaaaaaaaaaaaaaaaaaaaaaaaaaaaaaaaaaaaaaaaaa")]
  sandbox_image := Json.string
    "sha256:bbbbbbbbbbbbbbbbbbbbbbbbbbbbbbbbbbbbbbbbbbbbbbbbbbbbbbbbbbbbbbbb"
  digest value :=
    match value with
    | .obj fields =>
      some (Text.ofString (
        match Aggregate.get fields "seed" with
        | .int 17 => "a7d29dd72457be18048505d4819e6b5a1b7c9846796f77365290b34282602667"
        | .int 29 => "8609aac704f4556ff86e6072b61e71c1c569a9abb67d6282dc04487138d7227c"
        | .int 43 => "0ee26b0727d84373b3cf125aa20cd70c8c9c33f5cd8ad57ba7d710045a482b56"
        | _ => "a86c817dce86c55e374739b2d321d0581cf02d9cdf09d90c2bb6f50d1dc08f1b"))
    | _ => none
  controller _ := []
  event _ := .null
  stop _ := []
  elapsed_s _ := 1

/-- The small surroundings, with an identifier for the runs of each seed. -/
def seededSurroundings (seed : ℤ) : Surroundings :=
  { smallSurroundings with
    task_manifest_hash := Text.ofString "fixture-hash"
    behave := fun _ =>
      { smallBehaviour with
        ident := Text.ofString (
          if seed = 17 then "00000011000000000000000000000000"
          else "0000001d000000000000000000000000") } }

/-- Two studies have written everything before their controllers, and the third
has not begun. -/
def trainedOnly (seed : ℤ) : List Written :=
  if seed = 43 then []
  else
    (run_study (seededSurroundings seed) (smallRelease.settingsOf seed)
      smallTasks).written.takeWhile fun entry => entry.fitted?.isNone

/-- The first index is whole, and the second ends in some way. -/
def secondEnding (ending : Ending) (seed : ℤ) : Ending := if seed = 29 then ending else .whole

def trainingStudies (ending : Ending) : Aggregate.Studies :=
  ⟨[(17, smallRelease.directory (trainedOnly 17) .whole),
    (29, smallRelease.directory (trainedOnly 29) ending)],
    show ([17, 29] : List ℤ).Nodup by decide⟩

theorem trainedOnly_listed :
    (listedIn (trainedOnly 17)).map Listed.run_id =
        [Text.ofString "00000011000000000000000000000000"] ∧
      (listedIn (trainedOnly 29)).map Listed.run_id =
        [Text.ofString "0000001d000000000000000000000000"] ∧
      (∀ seed ∈ Aggregate.EXPECTED_SEEDS, ∀ run ∈ listedIn (trainedOnly seed),
        Aggregate.isHex 32 run.run_id ∧ Measured run.result) := by
  decide +kernel

theorem trainedOnly_beginning (seed : ℤ) :
    trainedOnly seed <+:
      (run_study (seededSurroundings seed) (smallRelease.settingsOf seed) smallTasks).written := by
  unfold trainedOnly
  split_ifs
  · exact List.nil_prefix
  · exact List.takeWhile_prefix _

/-- No controller is there yet. -/
theorem fittedIn_trainedOnly (seed : ℤ) : fittedIn (trainedOnly seed) = [] := by
  apply List.filterMap_eq_nil_iff.mpr
  intro entry member
  unfold trainedOnly at member
  split_ifs at member
  · cases member
  · have unfitted := List.mem_takeWhile_imp member
    exact Option.isNone_iff_eq_none.mp unfitted

theorem sound_smallRelease : smallRelease.Sound seededSurroundings where
  families := by decide
  tasks _ := rfl
  hash := by decide
  files := by decide
  sandbox_image := by decide
  digest_files := rfl
  digest_configuration _ _ _ _ := rfl
  provider := by decide
  models := ⟨_, _, rfl, rfl, by
    rw [List.forall_mem_singleton]
    exact ⟨_, rfl⟩⟩
  hidden := by decide
  elapsed_s _ := zero_le_one

theorem deposited_smallRelease {ending : Ending} (listed : ending ≠ .absent) :
    smallRelease.Deposited seededSurroundings trainedOnly (secondEnding ending)
      (trainingStudies ending) where
  sound := sound_smallRelease
  charges seed seen earlier request := show (0 : ℚ) ≤ 1 / 100 by norm_num
  counts seed seen earlier request := show (0 : ℤ) ≤ 100 by norm_num
  beginning seed _ := trainedOnly_beginning seed
  filed := by
    intro seed expected
    constructor
    · exact fun run member => (trainedOnly_listed.2.2 seed expected run member).1
    · exact fun run member => (trainedOnly_listed.2.2 seed expected run member).2
    · rw [fittedIn_trainedOnly]
      exact fun _ impossible => absurd impossible List.not_mem_nil
  apart := by
    rcases trainedOnly_listed with ⟨first, second, _⟩
    have runs : (Aggregate.EXPECTED_SEEDS.flatMap fun seed => listedIn (trainedOnly seed)) =
        listedIn (trainedOnly 17) ++ (listedIn (trainedOnly 29) ++ []) := rfl
    rw [runs, List.append_nil, List.map_append, first, second]
    decide
  declared := show ∀ seed ∈ ([17, 29] : List ℤ), seed ∈ Aggregate.EXPECTED_SEEDS by decide
  found := by
    simp only [Aggregate.EXPECTED_SEEDS, List.forall_mem_cons]
    exact ⟨.inl rfl, .inl rfl, .inr ⟨rfl, rfl⟩,
      fun _ impossible => absurd impossible List.not_mem_nil⟩
  created := by
    intro seed _ absent
    unfold secondEnding at absent
    split_ifs at absent
    exact absurd absent listed
  torn := by
    intro seed _ torn nothing
    unfold secondEnding at torn
    split_ifs at torn with second
    have runs := trainedOnly_listed.2.1
    rw [← second, nothing] at runs
    cases runs
  begun := by
    refine ⟨17, List.mem_cons_self, ?_⟩
    intro nothing
    have listed := trainedOnly_listed.1
    rw [nothing] at listed
    cases listed

/-- The two studies are aggregated, unless the second index ends with a piece of a
line. -/
theorem study_aggregated_small :
    (∃ report, Aggregate.aggregate_studies smallRelease.environment (trainingStudies .whole) =
      .ok report ∧ report.full_runs.length = 2 ∧
        Agrees smallRelease seededSurroundings trainedOnly report) ∧
    ¬ ∃ report, Aggregate.aggregate_studies smallRelease.environment (trainingStudies .torn) =
      .ok report := by
  rcases study_aggregated smallRelease seededSurroundings trainedOnly (secondEnding .whole)
    (trainingStudies .whole) (deposited_smallRelease (by decide)) with ⟨accepted, agrees⟩
  rcases study_aggregated smallRelease seededSurroundings trainedOnly (secondEnding .torn)
    (trainingStudies .torn) (deposited_smallRelease (by decide)) with ⟨refused, _⟩
  constructor
  · rcases accepted.mpr (by decide) with ⟨report, made⟩
    refine ⟨report, made, ?_, agrees report made⟩
    rcases trainedOnly_listed with ⟨first, second, _⟩
    have runs : smallRelease.records trainedOnly =
        (listedIn (trainedOnly 17)).map (smallRelease.record 17) ++
          ((listedIn (trainedOnly 29)).map (smallRelease.record 29) ++ []) := rfl
    rw [(agrees report made).records, runs, List.append_nil, List.length_append, List.length_map,
      List.length_map, ← List.length_map Listed.run_id, first, ← List.length_map Listed.run_id,
      second]
    rfl
  · exact fun made => refused.mp made 29 (by decide) rfl

end ForgeRL.Study
