import Mathlib.Data.List.ProdSigma
import ForgeRL.Scripts.Gathering

namespace ForgeRL.Aggregate

open Library

/-!
# The coverage partition

The plan has a cell for every seed, task and policy.  The records of the
evaluations are at different cells of the plan, so they and the missing rows
make it up; and a task has one split, so the planned cells of a split bound the
evaluations of that split.
-/

/-! ## The plan -/

theorem mem_expectedRows_iff {evaluation_ids : List Json} {row : Row} :
    row ∈ expectedRows evaluation_ids ↔
      row.seed ∈ EXPECTED_SEEDS ∧ row.task_id ∈ evaluation_ids ∧ row.policy ∈ POLICIES := by
  unfold expectedRows
  simp only [List.mem_flatMap, List.mem_map]
  constructor
  · rintro ⟨seed, declared, task_id, selected, policy, compared, rfl⟩
    exact ⟨declared, selected, compared⟩
  · rintro ⟨declared, selected, compared⟩
    exact ⟨row.seed, declared, row.task_id, selected, row.policy, compared, rfl⟩

theorem expectedRows_cells (evaluation_ids : List Json) :
    (expectedRows evaluation_ids).map Row.cell =
      EXPECTED_SEEDS ×ˢ ((evaluation_ids.map Json.key?) ×ˢ (POLICIES.map named)) := by
  unfold expectedRows
  simp only [SProd.sprod, List.product, List.map_flatMap, List.flatMap_map, List.map_map]
  rfl

theorem policies_nodup : (POLICIES.map named).Nodup := by decide

theorem expectedRows_nodup {evaluation_ids : List Json}
    (distinct : (evaluation_ids.map Json.key?).Nodup) :
    ((expectedRows evaluation_ids).map Row.cell).Nodup := by
  rw [expectedRows_cells]
  have seeds : EXPECTED_SEEDS.Nodup := by decide
  exact seeds.product (distinct.product policies_nodup)

theorem Placed.mem_plan {evaluation_ids : List Json} {record : Record}
    (placed : Placed (evaluation_ids.map Json.key?) record) :
    record.cell ∈ (expectedRows evaluation_ids).map Row.cell := by
  rw [expectedRows_cells]
  exact List.mem_product.mpr ⟨placed.seed, List.mem_product.mpr ⟨placed.task, placed.policy⟩⟩

/-! ## The splits of the tasks -/

section Splits

variable {env : Environment} {gathered : Gathered} {keys : List (Option Key)}

/-- The planned tests are the tasks whose split is the test split. -/
theorem mem_testIds_iff {evaluation_ids test_ids : List Json}
    (accepted : testIds env gathered evaluation_ids = .ok test_ids) (task_id : Json) :
    task_id ∈ test_ids ↔
      task_id ∈ evaluation_ids ∧ splitOf env gathered task_id = .ok (named "test") := by
  induction evaluation_ids generalizing test_ids with
  | nil =>
    cases accepted
    simp
  | cons first rest ih =>
    simp only [testIds, bind_ok_iff] at accepted
    rcases accepted with ⟨split, assigned, later, others, same⟩
    cases same
    have known := ih others
    by_cases here : task_id = first
    · subst here
      split_ifs with test
      · simp [assigned, test]
      · simp [assigned, test, known]
    · split_ifs
      · simp [here, known]
      · simp [here, known]

theorem testIds_sublist {evaluation_ids test_ids : List Json}
    (accepted : testIds env gathered evaluation_ids = .ok test_ids) :
    test_ids.Sublist evaluation_ids := by
  induction evaluation_ids generalizing test_ids with
  | nil =>
    cases accepted
    exact .slnil
  | cons first rest ih =>
    simp only [testIds, bind_ok_iff] at accepted
    rcases accepted with ⟨split, assigned, later, others, same⟩
    cases same
    split_ifs
    · exact (ih others).cons_cons first
    · exact (ih others).cons first

/-- A task with a run has the split of the run. -/
theorem splitOf_run (sound : Sound keys gathered) {record : Record}
    (member : record ∈ gathered.full_runs) {task_id : Json}
    (same : task_id.key? = value record.run "task_id") :
    splitOf env gathered task_id = .ok (value record.run "split") := by
  unfold splitOf
  rw [same, sound.families record member, Option.bind_some, sound.splits record member]

end Splits

/-! ## The summaries -/

/-- The entries of a summary count the runs of a split by their policies, and no
more of them than are planned. -/
structure Summarises (split : String) (runs : List JsonObject) (summary : List Summary) :
    Prop where
  policies : summary.map Summary.policy = POLICIES
  counted : ∀ entry ∈ summary, entry.n = (runsOf (ofSplit split runs) entry.policy).length
  covered : ∀ run ∈ ofSplit split runs, ∃ entry ∈ summary,
    run ∈ runsOf (ofSplit split runs) entry.policy
  total : (summary.map Summary.n).sum = (ofSplit split runs).length
  bounded : ∀ entry ∈ summary, entry.n ≤ entry.planned

/-- Evaluations of one split and policy are at different places of the plan. -/
theorem runsOf_length_le {records : List Record} {tasks : List (Option Key)} (split policy : String)
    (distinct : (records.map Record.cell).Nodup)
    (seeds : ∀ record ∈ records, record.study_seed ∈ EXPECTED_SEEDS)
    (within : ∀ record ∈ records, value record.run "split" = named split →
      value record.run "task_id" ∈ tasks) :
    (runsOf (ofSplit split (records.map Record.run)) policy).length ≤
      tasks.length * EXPECTED_SEEDS.length := by
  let place (record : Record) : ℤ × Option Key := (record.study_seed, value record.run "task_id")
  let chosen := (records.filter fun record => value record.run "split" = named split).filter
    fun record => value record.run "policy" = named policy
  have counted : (runsOf (ofSplit split (records.map Record.run)) policy).length =
      chosen.length := by
    unfold runsOf ofSplit
    rw [List.filter_map, List.filter_map, List.length_map]
    rfl
  have kept {record : Record} (member : record ∈ chosen) : record ∈ records ∧
      value record.run "split" = named split ∧ value record.run "policy" = named policy := by
    rcases List.mem_filter.mp member with ⟨inside, compared⟩
    rcases List.mem_filter.mp inside with ⟨known, assigned⟩
    exact ⟨known, of_decide_eq_true assigned, of_decide_eq_true compared⟩
  have cells : chosen.map Record.cell =
      (chosen.map place).map fun at_place => (at_place.1, at_place.2, named policy) := by
    rw [List.map_map]
    apply List.map_congr_left
    intro record member
    unfold Record.cell
    rw [(kept member).2.2]
    rfl
  have different : (chosen.map Record.cell).Nodup :=
    distinct.sublist ((List.filter_sublist.trans List.filter_sublist).map Record.cell)
  rw [cells] at different
  rw [counted, Nat.mul_comm, ← List.length_product]
  apply length_le_of_cells different.of_map
  intro record member
  rcases kept member with ⟨known, assigned, _⟩
  exact List.mem_product.mpr ⟨seeds record known, within record known assigned⟩

theorem summarize_summarises {split : String} {runs : List JsonObject} {planned : ℕ}
    (compared : ∀ run ∈ runs, value run "policy" ∈ POLICIES.map named)
    (bounded : ∀ policy ∈ POLICIES, (runsOf (ofSplit split runs) policy).length ≤ planned) :
    Summarises split runs (summarize (ofSplit split runs) planned) := by
  unfold summarize
  refine ⟨?_, ?_, ?_, ?_, ?_⟩
  · rw [List.map_map]
    exact List.map_id' POLICIES
  · intro entry member
    rcases List.mem_map.mp member with ⟨policy, _, rfl⟩
    rfl
  · intro run member
    have known := compared run (List.mem_filter.mp member).1
    rcases List.mem_map.mp known with ⟨policy, declared, same⟩
    exact ⟨_, List.mem_map_of_mem declared,
      List.mem_filter.mpr ⟨member, decide_eq_true same.symm⟩⟩
  · rw [List.map_map]
    have grouped := @sum_groups _ _ _ (fun run => value run "policy") (POLICIES.map named)
      policies_nodup (ofSplit split runs) fun run member => compared run (List.mem_filter.mp member).1
    rw [List.map_map] at grouped
    exact grouped
  · intro entry member
    rcases List.mem_map.mp member with ⟨policy, declared, rfl⟩
    exact bounded policy declared

/-! ## Evaluations and the plan -/

section Evaluations

variable {env : Environment} {gathered : Gathered} {evaluation_ids test_ids : List Json}

theorem Sound.evaluation_record {keys : List (Option Key)} (sound : Sound keys gathered)
    {run : JsonObject} (member : run ∈ gathered.evaluation) :
    ∃ record ∈ evaluations gathered.full_runs, record.run = run := by
  rw [sound.evaluation] at member
  exact List.mem_map.mp member

theorem Sound.identity_planned (sound : Sound (evaluation_ids.map Json.key?) gathered) {seen : Cell}
    (member : seen ∈ gathered.identities) : seen ∈ (expectedRows evaluation_ids).map Row.cell := by
  rw [sound.identities] at member
  rcases List.mem_map.mp member with ⟨record, evaluated, rfl⟩
  exact (sound.placed record evaluated).mem_plan

/-- The cells of the evaluations and the missing ones are the plan. -/
theorem Sound.partition (sound : Sound (evaluation_ids.map Json.key?) gathered)
    (selected : (evaluation_ids.map Json.key?).Nodup) :
    ((evaluations gathered.full_runs).map Record.cell ++
      (missingRows Row.cell (expectedRows evaluation_ids) gathered.identities).map Row.cell).Perm
        ((expectedRows evaluation_ids).map Row.cell) := by
  rw [← sound.identities]
  exact perm_plan (expectedRows_nodup selected) sound.distinct fun _ => sound.identity_planned

theorem Sound.planned_eq (sound : Sound (evaluation_ids.map Json.key?) gathered)
    (selected : (evaluation_ids.map Json.key?).Nodup) :
    (expectedRows evaluation_ids).length = gathered.evaluation.length +
      (missingRows Row.cell (expectedRows evaluation_ids) gathered.identities).length := by
  have counted : gathered.identities.length = gathered.evaluation.length := by
    rw [sound.identities, sound.evaluation, List.length_map, List.length_map]
  rw [← counted]
  exact length_plan (expectedRows_nodup selected) sound.distinct fun _ => sound.identity_planned

/-- The tasks of the evaluations of a split are among the planned ones. -/
theorem Sound.task_planned (sound : Sound (evaluation_ids.map Json.key?) gathered)
    (accepted : testIds env gathered evaluation_ids = .ok test_ids) {record : Record}
    (member : record ∈ evaluations gathered.full_runs) :
    (value record.run "split" = named "test" →
      value record.run "task_id" ∈ test_ids.map Json.key?) ∧
    (value record.run "split" = named "validation" →
      value record.run "task_id" ∈ (evaluation_ids.filter fun id =>
        id.key? ∉ test_ids.map Json.key?).map Json.key?) := by
  have kept := (List.mem_filter.mp member).1
  rcases List.mem_map.mp (sound.placed record member).task with ⟨task_id, planned, same⟩
  have assigned := @splitOf_run env _ _ sound _ kept _ same
  rw [← same]
  constructor
  · intro test
    rw [test] at assigned
    exact List.mem_map_of_mem ((mem_testIds_iff accepted task_id).mpr ⟨planned, assigned⟩)
  · intro validation
    refine List.mem_map_of_mem (List.mem_filter.mpr ⟨planned, decide_eq_true ?_⟩)
    intro tested
    rcases List.mem_map.mp tested with ⟨other, among, alike⟩
    have chosen := @splitOf_run env _ _ sound _ kept _ (alike.trans same)
    rw [((mem_testIds_iff accepted other).mp among).2, validation] at chosen
    exact absurd (Except.ok.inj chosen) (by decide)

theorem Sound.summarises {keys : List (Option Key)} (sound : Sound keys gathered) (split : String)
    {tasks : List Json} (within : ∀ record ∈ evaluations gathered.full_runs,
      value record.run "split" = named split → value record.run "task_id" ∈ tasks.map Json.key?) :
    Summarises split gathered.evaluation
      (summarize (ofSplit split gathered.evaluation) (tasks.length * EXPECTED_SEEDS.length)) := by
  have cells := sound.identities ▸ sound.distinct
  refine summarize_summarises ?_ ?_
  · intro run member
    rcases sound.evaluation_record member with ⟨record, evaluated, rfl⟩
    exact (sound.placed record evaluated).policy
  · intro policy _
    rw [sound.evaluation, ← List.length_map Json.key?]
    exact runsOf_length_le split policy cells
      (fun record member => (sound.placed record member).seed) within

end Evaluations

/-! ## The report -/

/-- A report accounts for the plan, for the evaluations and for every indexed
run. -/
structure CoveragePartition (studies : Studies) (report : Report) : Prop where
  planned : report.coverage.planned = report.coverage.completed + report.coverage.missing.length
  completed : report.coverage.completed = report.runs.length
  runs : report.runs = (evaluations report.full_runs).map Record.run
  /-- The missing rows are the predeclared cells without an evaluation. -/
  missing : ∀ row, row ∈ report.coverage.missing ↔ row.seed ∈ EXPECTED_SEEDS ∧
    row.task_id ∈ ids report.configuration "evaluation_ids" ∧ row.policy ∈ POLICIES ∧
    ∀ record ∈ evaluations report.full_runs, record.cell ≠ row.cell
  /-- No cell is counted twice, and every one is counted. -/
  distinct : ((evaluations report.full_runs).map Record.cell ++
    report.coverage.missing.map Row.cell).Nodup
  partition : ((evaluations report.full_runs).map Record.cell ++
    report.coverage.missing.map Row.cell).Perm
      ((expectedRows (ids report.configuration "evaluation_ids")).map Row.cell)
  /-- An evaluation is either in the summary of the tests or in the other one. -/
  splits : ∀ run ∈ report.runs,
    Xor (run ∈ ofSplit "test" report.runs) (run ∈ ofSplit "validation" report.runs)
  summary : Summarises "test" report.runs report.summary
  validation_summary : Summarises "validation" report.runs report.validation_summary
  denominators : ((report.summary ++ report.validation_summary).map Summary.planned).sum =
    report.coverage.planned
  families : ∀ first ∈ report.full_runs, ∀ second ∈ report.full_runs,
    value first.run "family" = value second.run "family" →
      value first.run "split" = value second.run "split"
  /-- The records are the indexed runs, each at its place and none twice. -/
  indexed : AllIndexed studies EXPECTED_SEEDS report.full_runs
  once : (report.full_runs.map Record.ident).Nodup
  sources : report.sources.map Source.seed = EXPECTED_SEEDS
  status : report.status = "complete" ↔ report.coverage.missing = [] ∧
    ∀ seed ∈ EXPECTED_SEEDS, SourceComplete studies seed (recordsOf report.full_runs seed)

section Report

variable {env : Environment} {studies : Studies} {gathered : Gathered} {canonical : Signature}
  {test_ids : List Json}

theorem sources_complete_iff {seeds : List ℤ} (followed : Followed studies seeds gathered) :
    (∀ source ∈ gathered.sources, source.Complete) ↔
      ∀ seed ∈ seeds, SourceComplete studies seed (recordsOf gathered.full_runs seed) := by
  constructor
  · intro complete seed member
    rw [← followed.seeds] at member
    rcases List.mem_map.mp member with ⟨source, inside, rfl⟩
    exact (followed.complete source inside).mp (complete source inside)
  · intro complete source inside
    refine (followed.complete source inside).mpr (complete source.seed ?_)
    exact followed.seeds ▸ List.mem_map_of_mem inside

/-- The planned tests and the planned validations are the plan. -/
theorem denominators_eq {evaluation_ids : List Json} (tests validation : List JsonObject)
    (distinct : (evaluation_ids.map Json.key?).Nodup) (within : test_ids.Sublist evaluation_ids) :
    ((summarize tests (test_ids.length * EXPECTED_SEEDS.length) ++
      summarize validation ((evaluation_ids.filter fun id =>
        id.key? ∉ test_ids.map Json.key?).length * EXPECTED_SEEDS.length)).map
          Summary.planned).sum = (expectedRows evaluation_ids).length := by
  have chosen : ∀ key ∈ test_ids.map Json.key?, key ∈ evaluation_ids.map Json.key? :=
    fun key member => (within.map Json.key?).subset member
  have covered : evaluation_ids.length = test_ids.length +
      (evaluation_ids.filter fun id => id.key? ∉ test_ids.map Json.key?).length := by
    rw [length_plan distinct (distinct.sublist (within.map Json.key?)) chosen, List.length_map]
    unfold missingRows
    congr 3
    funext id
    exact decide_eq_decide.mpr Iff.rfl
  have counted : (expectedRows evaluation_ids).length =
      EXPECTED_SEEDS.length * (evaluation_ids.length * POLICIES.length) := by
    rw [← List.length_map Row.cell, expectedRows_cells, List.length_product, List.length_product,
      List.length_map, List.length_map]
  rw [counted, covered]
  simp only [summarize, POLICIES, EXPECTED_SEEDS, List.map_append, List.map_cons, List.map_nil,
    List.sum_append, List.sum_cons, List.sum_nil, List.length_cons, List.length_nil]
  omega

theorem xor_ofSplit {keys : List (Option Key)} {record : Record} {runs : List JsonObject}
    (placed : Placed keys record) (member : record.run ∈ runs) :
    Xor (record.run ∈ ofSplit "test" runs) (record.run ∈ ofSplit "validation" runs) := by
  have different : named "validation" ≠ named "test" := by decide
  unfold ofSplit
  simp only [List.mem_filter, member, true_and, decide_eq_true_eq]
  rcases List.mem_cons.mp placed.split with validation | other
  · rw [validation]
    exact .inr ⟨rfl, different⟩
  · rw [List.mem_singleton.mp other]
    exact .inl ⟨rfl, different.symm⟩

theorem makeReport_status_iff (followed : Followed studies EXPECTED_SEEDS gathered) :
    (makeReport gathered canonical test_ids).status = "complete" ↔
      (makeReport gathered canonical test_ids).coverage.missing = [] ∧
        ∀ seed ∈ EXPECTED_SEEDS,
          SourceComplete studies seed (recordsOf gathered.full_runs seed) := by
  rw [← sources_complete_iff followed, ← List.isEmpty_iff]
  unfold makeReport
  dsimp only
  split_ifs with complete
  · exact iff_of_true rfl complete
  · exact iff_of_false (by decide) complete

theorem makeReport_partition (followed : Followed studies EXPECTED_SEEDS gathered)
    (known : gathered.canonical = some canonical)
    (accepted : testIds env gathered (ids canonical.full "evaluation_ids") = .ok test_ids) :
    CoveragePartition studies (makeReport gathered canonical test_ids) := by
  have keys : gathered.keys = (ids canonical.full "evaluation_ids").map Json.key? := by
    unfold Gathered.keys
    rw [known]
    rfl
  have sound := followed.sound
  rw [keys] at sound
  have configured : ids canonical.configuration "evaluation_ids" =
      ids canonical.full "evaluation_ids" := ids_parameters canonical (by decide)
  have selected : ((ids canonical.full "evaluation_ids").map Json.key?).Nodup :=
    canonical.evaluationKeys_nodup
  have partition := sound.partition selected
  have tasks {record : Record} := @Sound.task_planned env _ _ _ sound accepted record
  refine
    { planned := sound.planned_eq selected
      completed := rfl
      runs := sound.evaluation
      missing := ?_
      distinct := partition.nodup_iff.mpr (expectedRows_nodup selected)
      partition := ?_
      splits := ?_
      summary := sound.summarises "test" fun record member => (tasks member).1
      validation_summary := sound.summarises "validation" fun record member => (tasks member).2
      denominators := denominators_eq _ _ selected (testIds_sublist accepted)
      families := ?_
      indexed := followed.indexed
      once := sound.ids ▸ sound.once
      sources := followed.seeds
      status := makeReport_status_iff followed }
  · intro row
    show row ∈ missingRows _ _ _ ↔ _ ∧ row.task_id ∈ ids canonical.configuration _ ∧ _ ∧ _
    rw [mem_missingRows_iff, mem_expectedRows_iff, configured, sound.identities, and_assoc,
      and_assoc, List.mem_map, not_exists]
    simp only [not_and]
    rfl
  · show List.Perm _ ((expectedRows (ids canonical.configuration "evaluation_ids")).map Row.cell)
    rw [configured]
    exact partition
  · intro run member
    rcases sound.evaluation_record member with ⟨record, evaluated, rfl⟩
    exact xor_ofSplit (sound.placed record evaluated) member
  · intro first here second there same
    have found := sound.splits first here
    rw [same, sound.splits second there] at found
    exact (Option.some.inj found).symm

end Report

theorem coverage_partition (env : Environment) (studies : Studies) (report : Report)
    (accepted : aggregate_studies env studies = .ok report) :
    CoveragePartition studies report := by
  unfold aggregate_studies at accepted
  simp only [bind_ok_iff] at accepted
  rcases accepted with ⟨_, _, gathered, added, reported⟩
  have distinct : ([] ++ EXPECTED_SEEDS).Nodup := by decide
  have followed := (Followed.empty studies).run distinct (fun _ member => member) added
  split at reported
  · cases reported
  next canonical known =>
    simp only [bind_ok_iff] at reported
    rcases reported with ⟨test_ids, tested, same⟩
    cases same
    exact makeReport_partition followed known tested

/-! ## A study with one evaluation -/

/-- The configuration of a study of two tasks. -/
def sampleConfig : JsonObject :=
  [("version", Json.string "0.2"), ("protocol", Json.string "forgebench-v0.2-prespecified"),
    ("seed", .int 17), ("policies", .arr (POLICIES.map Json.string)),
    ("training_ids", .arr [Json.string "billing-credit-order"]),
    ("evaluation_ids", .arr [Json.string "analytics-window-boundary",
      Json.string "search-case-normalization"]),
    ("language_model_weights_updated", .bool false), ("task_count", .int 50),
    ("planned_training_episodes", .int 2)].map fun entry => (Text.ofString entry.1, entry.2)

def sampleFiles : Json :=
  Json.object
    [("forgerl/bench/engine.py",
      Json.string "aaaaaaaaaaaaaaaaaaaaaaaaaaaaaaaaaaaaaaaaaaaaaaaaaaaaaaaaaaaaaaaa")]

def sampleConfigDigest : String :=
  "39b07e69e4472906af97b622cedc5d4357b168cc20d64ea4bbb51e0da3baaf7b"

def sampleFilesDigest : String :=
  "a86c817dce86c55e374739b2d321d0581cf02d9cdf09d90c2bb6f50d1dc08f1b"

/-- The digests of the configuration and of the files, and two entries of the
catalog. -/
def sampleEnvironment : Environment where
  digest value :=
    if Json.equal value (.obj sampleConfig) then some (Text.ofString sampleConfigDigest)
    else if Json.equal value sampleFiles then some (Text.ofString sampleFilesDigest)
    else none
  catalog task_id :=
    if task_id.key? = named "analytics-window-boundary" then some (Text.ofString "validation")
    else if task_id.key? = named "search-case-normalization" then some (Text.ofString "test")
    else none

def sampleManifest : Json :=
  Json.object
    [("configuration", .obj sampleConfig),
      ("configuration_sha256", Json.string sampleConfigDigest),
      ("task_manifest_sha256", Json.string "fixture-hash"),
      ("provider", Json.object [("models", .arr [])]),
      ("status", Json.string "complete"),
      ("source_manifest", Json.object
        [("files", sampleFiles), ("sha256", Json.string sampleFilesDigest),
          ("sandbox_image", Json.string
            "sha256:bbbbbbbbbbbbbbbbbbbbbbbbbbbbbbbbbbbbbbbbbbbbbbbbbbbbbbbbbbbbbbbb")])]

def sampleId : Text := Text.ofString "00000011000000000000000000000000"

def sampleRun : Json :=
  Json.object
    [("id", .str sampleId), ("task_id", Json.string "search-case-normalization"),
      ("family", Json.string "search"), ("split", Json.string "test"), ("seed", .int 17),
      ("policy", Json.string "adaptive"), ("status", Json.string "completed"),
      ("solved", .bool true), ("attempts", .int 1), ("escalations", .int 0),
      ("learned_decisions", .int 0), ("fallback_decisions", .int 0), ("initial_files", .obj []),
      ("final_files", .obj []), ("events", .arr [])]

def sampleRow : Json :=
  Json.object
    [("run_id", .str sampleId), ("phase", Json.string "evaluation"),
      ("task_id", Json.string "search-case-normalization"), ("policy", Json.string "adaptive"),
      ("status", Json.string "completed")]

def sampleStudies : Studies :=
  ⟨[(17,
    { manifest := .json sampleManifest
      controller := .absent
      index := .lines [some sampleRow]
      run := fun ident => if ident = sampleId then .json sampleRun else .absent })],
    List.nodup_singleton _⟩

theorem coverage_partition_sample :
    ∃ report, aggregate_studies sampleEnvironment sampleStudies = .ok report ∧
      (report.coverage.planned, report.coverage.completed, report.coverage.missing.length) =
        (30, 1, 29) ∧
      CoveragePartition sampleStudies report := by
  have counted : (aggregate_studies sampleEnvironment sampleStudies).toOption.map (fun report =>
      (report.coverage.planned, report.coverage.completed, report.coverage.missing.length)) =
        some (30, 1, 29) := by
    decide +kernel
  cases accepted : aggregate_studies sampleEnvironment sampleStudies with
  | error refusal =>
    rw [accepted] at counted
    cases counted
  | ok report =>
    rw [accepted] at counted
    exact ⟨report, rfl, Option.some.inj counted,
      coverage_partition sampleEnvironment sampleStudies report accepted⟩

end ForgeRL.Aggregate
