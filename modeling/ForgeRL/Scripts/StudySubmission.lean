import ForgeRL.Bench.StudyStops
import ForgeRL.Scripts.StudyDirectory

namespace ForgeRL.Study

open Library

/-!
# The directory of a study is accepted

`run_study` writes what `aggregate_studies` reads, and the two share no code.
The directory of any beginning of a study of a release passes every check of the
aggregation, with the listed runs as its records.
-/

/-! ## What the writer and the reader share -/

/-- A count that a float holds. -/
def Countable (count : ℕ) : Prop := count < 2 ^ 63

instance (count : ℕ) : Decidable (Countable count) := inferInstanceAs (Decidable (_ < _))

/-- The integers among the metrics of a result. -/
structure Measured (result : EpisodeResult) : Prop where
  tokens : ∀ tokens, result.tokens = some tokens → tokens.natAbs < 2 ^ 63
  tool_calls : Countable result.tool_calls
  attempts : Countable result.attempts
  regressions_introduced : Countable result.regressions_introduced
  unnecessary_edits : ∀ edits, result.unnecessary_edits = some edits → Countable edits
  escalations : Countable result.escalations
  learned_decisions : Countable result.learned_decisions
  fallback_decisions : Countable result.fallback_decisions

instance (result : EpisodeResult) : Decidable (Measured result) :=
  decidable_of_iff
    ((∀ tokens ∈ result.tokens, tokens.natAbs < 2 ^ 63) ∧ Countable result.tool_calls ∧
      Countable result.attempts ∧ Countable result.regressions_introduced ∧
      (∀ edits ∈ result.unnecessary_edits, Countable edits) ∧ Countable result.escalations ∧
      Countable result.learned_decisions ∧ Countable result.fallback_decisions)
    ⟨fun ⟨tokens, calls, attempts, regressions, edits, escalations, learned, fallback⟩ =>
        ⟨tokens, calls, attempts, regressions, edits, escalations, learned, fallback⟩,
      fun measured => ⟨measured.1, measured.2, measured.3, measured.4, measured.5, measured.6,
        measured.7, measured.8⟩⟩

/-- What is expected of a release, whatever its studies do. -/
structure Release.Sound (release : Release) (env : ℤ → Surroundings) : Prop where
  families : ∀ task ∈ release.tasks, task.family ≠ []
  /-- Every study finds the same tasks. -/
  tasks : ∀ seed, (env seed).task_manifest_hash = (env 0).task_manifest_hash
  hash : (env 0).task_manifest_hash ≠ []
  files : release.files ≠ [] ∧ (release.files.map Prod.fst).Nodup ∧
    ∀ entry ∈ release.files, Aggregate.IsDigest entry.2
  sandbox_image : Aggregate.IsPinned release.sandbox_image
  digest_files : (release.digest (.obj release.files)).isSome = true
  digest_configuration : ∀ seed ∈ Aggregate.EXPECTED_SEEDS, ∀ configuration,
    plan (release.settingsOf seed) release.tasks = .ok configuration →
      (release.digest (.obj (configurationJson configuration))).isSome = true
  provider : Json.equal release.provider release.provider = true
  models : ∃ models, Lists release.provider models
  hidden : ∀ task ∈ release.tasks, task.hidden_cases ≠ []
  elapsed_s : ∀ run_id, 0 ≤ release.elapsed_s run_id

/-- The runs of a directory are named apart, and its controller has its hash. -/
structure Release.Filed (release : Release) (env : Surroundings) (done : List Written) :
    Prop where
  hex : ∀ run ∈ listedIn done, Aggregate.isHex 32 run.run_id
  measured : ∀ run ∈ listedIn done, Measured run.result
  controller : ∀ fitted ∈ fittedIn done,
    release.digest (.obj (release.controller fitted)) = some (env.artifactDigest fitted)

/-! ## The classes of the tasks -/

namespace Release

variable (release : Release)

/-- The family of a task, and the split of the first task of a family. -/
def classes : Aggregate.Classes where
  family key :=
    match key with
    | some (.text task_id) => (release.family task_id).map Key.text
    | _ => none
  split key :=
    match key with
    | some (.text family) =>
      (release.tasks.find? fun task => task.family = family).map fun task => .text task.split
    | _ => none

variable {release}

theorem family_task {settings : Settings} {configuration : Configuration}
    (planned : Planned settings release.tasks configuration) {task : RepoTask}
    (member : task ∈ release.tasks) : release.family task.id = some task.family := by
  unfold family
  cases found : Dict.get? (by_id release.tasks) task.id with
  | none => exact absurd found (by_id_found member)
  | some other => rw [planned.by_id_eq member found, Option.map_some]

theorem split_task (separated : Separated release.tasks) {task : RepoTask}
    (member : task ∈ release.tasks) :
    release.classes.split (some (.text task.family)) = some (.text task.split) := by
  unfold classes
  dsimp only
  cases found : release.tasks.find? fun other => other.family = task.family with
  | none =>
    have absent := List.find?_eq_none.mp found task member
    exact absurd (decide_eq_true rfl) absent
  | some other =>
    have same := List.find?_some found
    rw [decide_eq_true_eq] at same
    have listed := List.mem_of_find?_eq_some found
    rw [Option.map_some, separated.families other listed task member same]

end Release

/-! ## A run -/

section Run

variable {release : Release} {seed : ℤ} {configuration : Configuration} {run : Listed}

theorem holds_classes {settings : Settings}
    (planned : Planned settings release.tasks configuration)
    (families : ∀ task ∈ release.tasks, task.family ≠ [])
    (belongs : Belongs settings release.tasks configuration run) :
    release.classes.Holds (release.resultJson run.run_id run.result) := by
  have described : ∃ task ∈ release.tasks, run.result.task_id = task.id ∧
      run.result.split = task.split := by
    cases belongs with
    | train phase task known task_id split => exact ⟨task, known, task_id, split⟩
    | evaluation phase task known task_id split => exact ⟨task, known, task_id, split⟩
  rcases described with ⟨task, known, task_id, split⟩
  have family : release.family run.result.task_id = some task.family := by
    rw [task_id]
    exact Release.family_task planned known
  rcases @get_result release run.run_id run.result with
    ⟨_, named, _, _, _, assigned, grouped, _⟩
  rw [family] at grouped
  constructor
  · exact ⟨task.family, grouped, families task known⟩
  · show (Aggregate.get _ "family").key? = release.classes.family (Aggregate.get _ "task_id").key?
    rw [grouped, named]
    show some (Key.text task.family) = (release.family run.result.task_id).map Key.text
    rw [family, Option.map_some]
  · show (Aggregate.get _ "split").key? = release.classes.split (Aggregate.get _ "family").key?
    rw [grouped, assigned, split]
    exact (Release.split_task planned.separated known).symm

/-- The keys of a record. -/
theorem value_record :
    Aggregate.value (release.record seed run).run "task_id" = some (.text run.result.task_id) ∧
      Aggregate.value (release.record seed run).run "split" = some (.text run.result.split) ∧
      Aggregate.value (release.record seed run).run "policy" =
        Aggregate.named (policyText run.result.policy) ∧
      Aggregate.value (release.record seed run).run "status" =
        Aggregate.named (statusText run.result.status) := by
  rcases @get_result release run.run_id run.result with
    ⟨_, task_id, policy, status, _, split, _⟩
  exact ⟨congrArg Json.key? task_id, congrArg Json.key? split, congrArg Json.key? policy,
    congrArg Json.key? status⟩

/-- A run is one that its configuration declares. -/
theorem declared_record (planned : Planned (release.settingsOf seed) release.tasks configuration)
    (belongs : Belongs (release.settingsOf seed) release.tasks configuration run) :
    Aggregate.Declared (configurationJson configuration) (release.record seed run) := by
  rcases @get_result release run.run_id run.result with
    ⟨_, _, _, _, seeded, _, _, _, _, _, _, present⟩
  rcases @get_configuration configuration with ⟨_, _, _, training, evaluation, _⟩
  rcases @value_record release seed run with ⟨named, placed, chosen, _⟩
  have listed {name : String} {items : List Text}
      (written : Aggregate.get (configurationJson configuration) name = texts items)
      (selected : run.result.task_id ∈ items) :
      Aggregate.value (release.record seed run).run "task_id" ∈
        (Aggregate.ids (configurationJson configuration) name).map Json.key? := by
    unfold Aggregate.ids
    rw [named, written]
    exact List.mem_map_of_mem (List.mem_map_of_mem selected)
  cases belongs with
  | train phase task known task_id split trains selected policy =>
    apply Aggregate.Declared.train
    · exact congrArg Release.phaseOf phase
    · exact present
    · rw [placed, split, trains]
      rfl
    · exact listed training (task_id ▸ selected)
    · rw [chosen, policy]
      rfl
  | evaluation phase task known task_id split tests selected policy same =>
    apply Aggregate.Declared.evaluation
    · exact congrArg Release.phaseOf phase
    · exact present
    · rw [placed, split]
      rcases List.mem_cons.mp (planned.separated.supported task known) with trains | others
      · exact absurd trains tests
      · rcases List.mem_cons.mp others with validated | tested
        · rw [validated]
          exact List.mem_cons_self
        · rw [List.mem_singleton.mp tested]
          exact List.mem_cons_of_mem _ List.mem_cons_self
    · exact listed evaluation (task_id ▸ selected)
    · rw [chosen]
      generalize run.result.policy = offered at policy
      have among : ∀ offered ∈ Router.POLICIES, Aggregate.named (policyText offered) ∈
          Aggregate.POLICIES.map Aggregate.named := by decide
      exact among offered policy
    · have recorded : Aggregate.get (release.record seed run).run "seed" = .int seed :=
        seeded.trans (congrArg Json.int same)
      rw [recorded]
      simp [Json.differs, Json.equal, Json.key?, Release.record]

theorem checkMetrics_ok {fields : JsonObject} {metrics : List String}
    (accepted : ∀ metric ∈ metrics, Aggregate.checkMetric fields metric = .ok ()) :
    Aggregate.checkMetrics fields metrics = .ok () := by
  induction metrics with
  | nil => rfl
  | cons metric metrics ih =>
    simp only [Aggregate.checkMetrics, Aggregate.bind_ok_iff]
    exact ⟨(), accepted metric List.mem_cons_self,
      ih fun other member => accepted other (List.mem_cons_of_mem metric member)⟩

section Metric

variable {fields : JsonObject} {metric : String}

theorem checkMetric_number {count : ℕ} (written : Aggregate.get fields metric = number count)
    (countable : Countable count) : Aggregate.checkMetric fields metric = .ok () := by
  have held : (Binary64.ofInt? count).isSome = true := Binary64.ofInt?_isSome countable
  unfold Aggregate.checkMetric
  rw [written]
  dsimp only [number]
  rw [Option.isNone_eq_false_iff.mpr held, Aggregate.require, if_pos (Int.natCast_nonneg count)]
  rfl

theorem checkMetric_float {value : ℚ} (written : Aggregate.get fields metric = float value)
    (nonneg : 0 ≤ value) : Aggregate.checkMetric fields metric = .ok () := by
  unfold Aggregate.checkMetric
  rw [written]
  dsimp only [float]
  rw [Aggregate.require, if_pos nonneg]

theorem checkMetric_optional {count : Option ℕ}
    (written : Aggregate.get fields metric = optional number count)
    (countable : ∀ held, count = some held → Countable held) :
    Aggregate.checkMetric fields metric = .ok () := by
  cases count with
  | none =>
    unfold Aggregate.checkMetric
    rw [written]
    rfl
  | some held => exact checkMetric_number written (countable held rfl)

end Metric

/-- The metrics of a result are all accepted. -/
theorem checkMetrics_result (elapsed_s : ∀ run_id, 0 ≤ release.elapsed_s run_id)
    {result : EpisodeResult} (run_id : Text) (paid : Paid result) (measured : Measured result) :
    Aggregate.checkMetrics (release.resultJson run_id result) Aggregate.METRICS = .ok () := by
  rcases @get_metrics release run_id result with ⟨cost_usd, tokens, elapsed, tool_calls, steps,
    attempts, regressions, edits, escalations, learned, fallback⟩
  apply checkMetrics_ok
  simp only [Aggregate.METRICS, List.forall_mem_cons]
  refine ⟨checkMetric_float cost_usd paid.cost_usd, ?_,
    checkMetric_float elapsed (elapsed_s run_id), checkMetric_number tool_calls measured.tool_calls,
    checkMetric_number steps measured.attempts, checkMetric_number attempts measured.attempts,
    checkMetric_number regressions measured.regressions_introduced,
    checkMetric_optional edits measured.unnecessary_edits,
    checkMetric_number escalations measured.escalations,
    checkMetric_number learned measured.learned_decisions,
    checkMetric_number fallback measured.fallback_decisions,
    fun _ impossible => absurd impossible List.not_mem_nil⟩
  have counted : Aggregate.get (release.resultJson run_id result) "tokens" =
      optional number (result.tokens.map Int.toNat) := by
    rw [tokens]
    cases known : result.tokens with
    | none => rfl
    | some charged => exact congrArg Json.int (Int.toNat_of_nonneg (paid.tokens charged known)).symm
  apply checkMetric_optional counted
  intro held known
  rcases Option.map_eq_some_iff.mp known with ⟨charged, found, rfl⟩
  have small := measured.tokens charged found
  unfold Countable
  omega

/-- The last document of an identifier that one run has. -/
theorem run_directory {done : List Written} {ending : Ending}
    (apart : ((listedIn done).map Listed.run_id).Nodup)
    (member : run ∈ listedIn done) :
    (release.directory done ending).run run.run_id =
      .json (.obj (release.resultJson run.run_id run.result)) := by
  have alone : (namedRuns run.run_id done).getLast? = some run := by
    cases last : (namedRuns run.run_id done).getLast? with
    | none =>
      have inside : run ∈ namedRuns run.run_id done :=
        List.mem_filter.mpr ⟨member, decide_eq_true rfl⟩
      rw [List.getLast?_eq_none_iff.mp last] at inside
      cases inside
    | some other =>
      rcases List.mem_filter.mp (List.mem_of_getLast? last) with ⟨inside, same⟩
      rw [decide_eq_true_eq] at same
      rw [List.inj_on_of_nodup_map apart inside member same]
  show Release.fileOf ((namedRuns run.run_id done).map _) = _
  unfold Release.fileOf
  rw [List.getLast?_map, alone]
  rfl

theorem differs_self_str (text : Text) : Json.differs (.str text) (.str text) = false := by
  simp [Json.differs, Json.equal, Json.key?]

theorem phase?_text (phase : Phase) :
    Aggregate.phase? (Json.string (phaseText phase)) = some (Release.phaseOf phase) := by
  cases phase <;> rfl

/-- A line of the index can be followed. -/
theorem readable_record (elapsed_s : ∀ run_id, 0 ≤ release.elapsed_s run_id)
    {done : List Written} {ending : Ending} (apart : ((listedIn done).map Listed.run_id).Nodup)
    (member : run ∈ listedIn done) (hex : Aggregate.isHex 32 run.run_id)
    (paid : Paid run.result) (measured : Measured run.result) :
    Aggregate.Readable (release.directory done ending) (some run.row)
      (release.record seed run) := by
  rcases @get_row run with ⟨row, written, phase, run_id, task_id, policy, status⟩
  rcases @get_result release run.run_id run.result with
    ⟨ident, task, chosen, ended, _, _, _, solved, events, initial, final, _⟩
  refine ⟨row, ?_, ?_⟩
  · unfold Aggregate.readEntry
    rw [written]
    dsimp only
    rw [run_id]
    dsimp only
    rw [phase, phase?_text]
    dsimp only
    rw [if_pos hex]
    rfl
  · simp only [Aggregate.readRun, Aggregate.bind_ok_iff, Aggregate.require_ok_iff]
    refine ⟨release.resultJson run.run_id run.result, ?_, (), ⟨congrArg Json.key? ident, ?_⟩, (),
      ⟨?_, ?_, ?_⟩, (), ?_, (), checkMetrics_result elapsed_s run.run_id paid measured, rfl⟩
    · rw [show (release.record seed run).ident = run.run_id from rfl, run_directory apart member]
      rfl
    · simp only [List.forall_mem_cons]
      rw [task, task_id, chosen, policy, ended, status]
      exact ⟨differs_self_str _, differs_self_str _, differs_self_str _,
        fun _ impossible => absurd impossible List.not_mem_nil⟩
    · rw [events]
      trivial
    · rw [initial]
      trivial
    · rw [final]
      trivial
    · rw [solved]
      trivial

end Run

/-! ## A manifest -/

section Manifest

variable {settings : Settings} {tasks : List RepoTask} {configuration : Configuration}

/-- The entries of a configuration that are the same in every plan. -/
structure Prespecified (settings : Settings) (configuration : Configuration) : Prop where
  version : configuration.version = "0.2"
  protocol : configuration.protocol = Study.protocol settings.rate_limit_retries
  policies : configuration.policies = Router.POLICIES
  weights : configuration.language_model_weights_updated = false

theorem prespecified_of_plan (made : plan settings tasks = .ok configuration) :
    Prespecified settings configuration := by
  unfold plan at made
  split at made
  · cases made
  · split_ifs at made
    cases made
    exact ⟨rfl, rfl, rfl, rfl⟩

/-- A plan depends on its seed in one entry. -/
theorem plan_seed (made : plan settings tasks = .ok configuration) (seed : ℤ) :
    plan { settings with seed := seed } tasks = .ok { configuration with seed := seed } := by
  unfold plan at made ⊢
  cases validated : validate_splits tasks with
  | error escape =>
    rw [validated] at made
    cases made
  | ok =>
    rw [validated] at made
    dsimp only at made ⊢
    by_cases bounded : settings.Bounded
    · have still : Settings.Bounded { settings with seed := seed } :=
        ⟨bounded.1, bounded.2, bounded.3, bounded.4, bounded.5, bounded.6, bounded.7⟩
      rw [if_neg (not_not_intro bounded)] at made
      rw [if_neg (not_not_intro still)]
      cases made
      rfl
    · rw [if_pos bounded] at made
      cases made

/-- No task is selected twice. -/
theorem Planned.nodup_ids (planned : Planned settings tasks configuration) :
    (configuration.training_ids ++ configuration.evaluation_ids).Nodup := by
  apply List.nodup_append.mpr
  refine ⟨?_, planned.nodup_evaluation, ?_⟩
  · rw [planned.training_ids]
    exact nodup_selected_ids planned.separated List.filter_sublist
  · rintro task_id trained other evaluated rfl
    rcases planned.training_task trained with ⟨task, known, named, trains⟩
    rcases planned.evaluation_task evaluated with ⟨tested, also, same, tests⟩
    have one := List.inj_on_of_nodup_map planned.separated.distinct known also
      (named.trans same.symm)
    exact tests (one ▸ trains)

theorem selection_configuration (planned : Planned settings tasks configuration) :
    Aggregate.Selection (configurationJson configuration) := by
  rcases @get_configuration configuration with ⟨_, _, _, training, evaluation, _⟩
  have trained : Aggregate.ids (configurationJson configuration) "training_ids" =
      configuration.training_ids.map Json.str := by
    unfold Aggregate.ids
    rw [training]
    rfl
  have evaluated : Aggregate.ids (configurationJson configuration) "evaluation_ids" =
      configuration.evaluation_ids.map Json.str := by
    unfold Aggregate.ids
    rw [evaluation]
    rfl
  constructor
  · rw [training, evaluation]
    exact ⟨trivial, trivial⟩
  · rw [trained, evaluated, ← List.map_append]
    intro item member
    rcases List.mem_map.mp member with ⟨task_id, _, rfl⟩
    rfl
  · rw [trained, evaluated, ← List.map_append, List.map_map]
    apply planned.nodup_ids.map
    intro first second same
    exact Key.text.inj (Option.some.inj same)

end Manifest

/-- The signature of a study of a release. -/
structure Signed (release : Release) (configuration : Configuration) (hash : Text)
    (signature : Aggregate.Signature) : Prop where
  full : signature.full = configurationJson configuration
  task_manifest_sha256 : signature.task_manifest_sha256 = .str hash
  provider : signature.provider = release.provider
  source_manifest : signature.source_manifest = release.source_manifest
  runtime_source_sha256 : signature.runtime_source_sha256 =
    optional Json.str (release.digest (.obj release.files))

section Signatures

variable {release : Release} {env : ℤ → Surroundings} {seed : ℤ} {provenance : Provenance}

theorem requireDigest_ok {holder : Release} {value : Json}
    (hashed : (holder.digest value).isSome = true) (message : String) :
    Aggregate.requireDigest holder.environment (optional Json.str (holder.digest value)) value
      message = .ok () := by
  rcases Option.isSome_iff_exists.mp hashed with ⟨hash, found⟩
  unfold Aggregate.requireDigest
  rw [show holder.environment.digest value = some hash from found, found]
  exact if_pos rfl

theorem requireSource_manifest (sound : release.Sound env) :
    Aggregate.requireSource release.environment (release.manifestJson provenance) =
      .ok release.source_manifest := by
  rcases @get_manifest release provenance with ⟨_, _, _, _, source, _⟩
  rcases @get_source release with ⟨files, image, sha256⟩
  rcases sound.files with ⟨nonempty, _, digests⟩
  unfold Aggregate.requireSource
  rw [source]
  dsimp only
  rw [files]
  dsimp only
  simp only [Aggregate.bind_ok_iff, Aggregate.require_ok_iff]
  refine ⟨(), nonempty, (), ?_, (), digests, (), ?_, trivial⟩
  · rw [sha256]
    exact requireDigest_ok sound.digest_files _
  · rw [image]
    exact sound.sandbox_image

/-- The manifests of the studies of a release are accepted. -/
theorem exists_signature (sound : release.Sound env) (expected : seed ∈ Aggregate.EXPECTED_SEEDS)
    (made : plan (release.settingsOf seed) release.tasks = .ok provenance.configuration)
    (hashed : provenance.task_manifest_sha256 = (env 0).task_manifest_hash) :
    ∃ signature, Aggregate.configurationSignature release.environment
        (release.manifestJson provenance) = .ok signature ∧
      Signed release provenance.configuration (env 0).task_manifest_hash signature := by
  rcases @get_manifest release provenance with
    ⟨configured, digested, _, offered, _, manifest, _⟩
  rcases @get_configuration provenance.configuration with
    ⟨version, protocol, policies, _, _, _, weights⟩
  have prespecified := prespecified_of_plan made
  have selection := selection_configuration (planned_of_plan made)
  have opened : Aggregate.requireConfiguration (release.manifestJson provenance) =
      .ok (configurationJson provenance.configuration) := by
    unfold Aggregate.requireConfiguration
    rw [configured, manifest, hashed]
    dsimp only
    have truthy : ¬ (Json.str (env 0).task_manifest_hash).isFalsy = true := by
      cases named : (env 0).task_manifest_hash with
      | nil => exact absurd named sound.hash
      | cons point points => exact Bool.false_ne_true
    rw [if_neg truthy]
  have selected : Aggregate.requireSelection (configurationJson provenance.configuration) =
      .ok ⟨selection⟩ := by
    unfold Aggregate.requireSelection
    rw [dif_pos selection.lists, dif_pos selection.hashable, dif_pos selection.distinct]
  have sourced := @requireSource_manifest release env provenance sound
  simp only [Aggregate.configurationSignature, Aggregate.bind_ok_iff, Aggregate.require_ok_iff]
  refine ⟨_, ⟨_, opened, (), ?_, (), ⟨?_, ?_, ?_⟩, ⟨selection⟩, selected, (), ?_, _, sourced,
    rfl⟩, ⟨rfl, ?_, offered, rfl, ?_⟩⟩
  · rw [digested]
    exact requireDigest_ok (sound.digest_configuration seed expected _ made) _
  · rw [Aggregate.value, version, prespecified.version]
    rfl
  · rw [Aggregate.value, protocol, prespecified.protocol]
    unfold Study.protocol
    split_ifs
    · exact .inl rfl
    · exact .inr rfl
  · rw [policies, prespecified.policies]
    decide
  · rw [weights, prespecified.weights]
  · rw [← hashed]
    exact manifest
  · rcases @get_source release with ⟨_, _, sha256⟩
    exact sha256

theorem nodup_entries {named : List (String × Json)} (distinct : (named.map Prod.fst).Nodup) :
    ((entries named).map Prod.fst).Nodup := by
  have names : (entries named).map Prod.fst = (named.map Prod.fst).map Text.ofString := by
    unfold entries
    rw [List.map_map, List.map_map]
    rfl
  rw [names]
  exact distinct.map fun first second same => Text.ofString_inj.mp same

theorem equal_texts (items : List Text) : Json.equal (texts items) (texts items) = true := by
  apply Json.equal_arr_self
  intro item member
  rcases List.mem_map.mp member with ⟨text, _, rfl⟩
  exact Json.equal_self rfl

theorem equal_strings (items : List String) :
    Json.equal (strings items) (strings items) = true := by
  apply Json.equal_arr_self
  intro item member
  rcases List.mem_map.mp member with ⟨text, _, rfl⟩
  exact Json.equal_self rfl

theorem equal_configuration (configuration : Configuration) :
    ∀ entry ∈ configurationJson configuration, Json.equal entry.2 entry.2 = true := by
  simp only [configurationJson, entries, List.map_cons, List.map_nil, List.forall_mem_cons]
  refine ⟨?_, equal_texts _, ?_, ?_, ?_, ?_, ?_, equal_strings _, ?_, ?_, ?_, ?_, ?_, ?_, ?_,
    equal_texts _, ?_, fun _ impossible => absurd impossible List.not_mem_nil⟩
  all_goals exact Json.equal_self rfl

theorem nodup_configuration (configuration : Configuration) :
    ((configurationJson configuration).map Prod.fst).Nodup := by
  apply nodup_entries
  simp only [List.map_cons, List.map_nil]
  decide

/-- The parameters of a configuration are those of any seed. -/
theorem parameters_seed (configuration : Configuration) (seed : ℤ) :
    ((configurationJson { configuration with seed := seed }).filter fun entry =>
        entry.1 ≠ Text.ofString "seed") =
      (configurationJson configuration).filter fun entry => entry.1 ≠ Text.ofString "seed" := by
  simp only [configurationJson, entries, List.map_cons, List.map_nil, List.filter_cons, ne_eq,
    Text.ofString_inj, String.reduceEq, not_true_eq_false, decide_false, Bool.false_eq_true,
    if_false]

theorem equal_source_manifest (sound : release.Sound env) :
    Json.equal (.obj release.source_manifest) (.obj release.source_manifest) = true := by
  rcases sound.files with ⟨_, distinct, digests⟩
  apply Json.equal_obj_self
  · apply nodup_entries
    simp only [List.map_cons, List.map_nil]
    decide
  · simp only [Release.source_manifest, entries, List.map_cons, List.map_nil, List.forall_mem_cons]
    refine ⟨Json.equal_self rfl, Json.equal_obj_self distinct ?_, ?_, ?_,
      fun _ impossible => absurd impossible List.not_mem_nil⟩
    · intro entry member
      have digest := digests entry member
      cases written : entry.2 with
      | str text => exact Json.equal_self rfl
      | _ =>
        rw [written] at digest
        exact absurd digest id
    · have pinned := sound.sandbox_image
      cases written : release.sandbox_image with
      | str text => exact Json.equal_self rfl
      | _ =>
        rw [written] at pinned
        exact absurd pinned id
    · cases release.digest (.obj release.files) <;> exact Json.equal_self rfl

/-- The signatures of two seeds are the same. -/
theorem same_signatures (sound : release.Sound env) {configuration : Configuration} {hash : Text}
    {signature canonical : Aggregate.Signature}
    (signed : Signed release { configuration with seed := seed } hash signature)
    (other : Signed release configuration hash canonical) : signature.same canonical = true := by
  have parameters : signature.configuration = canonical.configuration := by
    rw [signature.parameters, canonical.parameters, signed.full, other.full, parameters_seed]
  have own : Json.equal (.obj canonical.configuration) (.obj canonical.configuration) = true := by
    rw [canonical.parameters, other.full]
    apply Json.equal_obj_self
    · exact (nodup_configuration configuration).sublist (List.filter_sublist.map Prod.fst)
    · exact fun entry member => equal_configuration configuration entry
        (List.mem_of_mem_filter member)
  unfold Aggregate.Signature.same
  rw [parameters, own, signed.task_manifest_sha256, other.task_manifest_sha256, signed.provider,
    other.provider, signed.source_manifest, other.source_manifest, signed.runtime_source_sha256,
    other.runtime_source_sha256, Json.equal_self rfl, sound.provider, equal_source_manifest sound]
  cases release.digest (.obj release.files) <;> exact Json.equal_self rfl

end Signatures

/-! ## A directory -/

section Directories

variable {release : Release} {env : ℤ → Surroundings} {seed : ℤ} {done : List Written}
  {ending : Ending}

/-- A study has one controller at most. -/
theorem fittedIn_length_le {surroundings : Surroundings} {settings : Settings}
    {tasks : List RepoTask} {written : List Written}
    (shaped : Shaped surroundings settings tasks written) :
    (fittedIn written).length ≤ 1 := by
  have silent {part : List Written} (none_ : ∀ entry ∈ part, entry.fitted? = none) :
      fittedIn part = [] := List.filterMap_eq_nil_iff.mpr none_
  cases shaped with
  | training written rehearsal =>
    have trained : fittedIn written = [] := silent fun entry member => by
      cases rehearsal.entries entry member <;> rfl
    rw [trained]
    exact Nat.zero_le 1
  | evaluation before after fitted rehearsal accepted evaluations =>
    have trained : fittedIn before = [] := silent fun entry member => by
      cases rehearsal.entries entry member <;> rfl
    have later : fittedIn after = [] := silent fun entry member => by
      cases evaluations entry member <;> rfl
    unfold fittedIn at trained later ⊢
    rw [List.filterMap_append, List.filterMap_cons, trained, later]
    rfl

/-- What the last manifest says of a beginning of a study. -/
theorem stated_last {surroundings : Surroundings} {settings : Settings} {tasks : List RepoTask}
    (charges : surroundings.Charges) (counts : surroundings.Counts)
    (beginning : done <+: (run_study surroundings settings tasks).written)
    {provenance : Provenance} (last : (manifestsIn done).getLast? = some provenance) :
    ∃ front back, done = front ++ .manifest provenance :: back ∧
      Says surroundings settings tasks front provenance := by
  rcases split_last_manifest last with ⟨front, back, split⟩
  refine ⟨front, back, split, ?_⟩
  rcases beginning with ⟨rest, whole⟩
  apply run_study_certified charges counts front provenance (back ++ rest)
  rw [← whole, split, List.append_assoc, List.cons_append]

/-- The controller that a manifest names is that of the directory. -/
theorem checkController_directory (filed : release.Filed (env seed) done)
    (beginning : done <+: (run_study (env seed) (release.settingsOf seed) release.tasks).written)
    {provenance : Provenance} {front back : List Written}
    (split : done = front ++ .manifest provenance :: back)
    (stated : Says (env seed) (release.settingsOf seed) release.tasks front provenance) :
    Aggregate.checkController release.environment (release.directory done ending)
      (release.manifestJson provenance) = .ok () := by
  rcases @get_manifest release provenance with ⟨_, _, named, _⟩
  unfold Aggregate.checkController
  rw [named]
  cases frozen : provenance.controller_sha256 with
  | none => rfl
  | some digest =>
    rcases stated.controller digest frozen with ⟨fitted, before, rfl⟩
    have alone : fittedIn done = [fitted] := by
      have short := (beginning.filterMap Written.fitted?).length_le.trans
        (fittedIn_length_le run_study_shaped)
      have whole : fittedIn done = fitted :: fittedIn (.manifest provenance :: back) := by
        rw [split, fittedIn, List.filterMap_append]
        exact congrArg (fun first => first ++ fittedIn (.manifest provenance :: back)) before
      have rest : fittedIn (.manifest provenance :: back) = [] := by
        apply List.eq_nil_of_length_eq_zero
        have counted : (fittedIn done).length ≤ 1 := short
        rw [whole, List.length_cons] at counted
        omega
      rw [whole, rest]
    have hashed := filed.controller fitted (alone ▸ List.mem_cons_self)
    split_ifs
    · rfl
    · have stored : (release.directory done ending).controller =
          .json (.obj (release.controller fitted)) := by
        show Release.fileOf ((fittedIn done).map release.controller) = _
        rw [alone]
        rfl
      rw [stored]
      simp only [Aggregate.bind_ok_iff]
      refine ⟨_, rfl, ?_⟩
      unfold Aggregate.requireDigest
      rw [show release.environment.digest (.obj (release.controller fitted)) = _ from hashed]
      exact if_pos rfl

/-- What a directory submits for its seed. -/
structure Submits (release : Release) (env : ℤ → Surroundings) (seed : ℤ) (done : List Written)
    (ending : Ending) (submitted : Option Aggregate.Submission) : Prop where
  directory : submitted.map Aggregate.Submission.directory =
    if manifestsIn done = [] then none else some (release.directory done ending)
  records : Aggregate.recordsIn submitted = (listedIn done).map (release.record seed)
  manifest : ∀ provenance, (manifestsIn done).getLast? = some provenance →
    ∃ submission ∈ submitted, submission.manifest = release.manifestJson provenance
  sound : ∀ submission ∈ submitted,
    submission.Sound release.environment release.classes seed
  signed : ∀ submission ∈ submitted, ∃ configuration,
    plan (release.settingsOf seed) release.tasks = .ok configuration ∧
      Signed release configuration (env 0).task_manifest_hash submission.signature

theorem exists_submitted (sound : release.Sound env) (expected : seed ∈ Aggregate.EXPECTED_SEEDS)
    (charges : (env seed).Charges) (counts : (env seed).Counts)
    (beginning : done <+: (run_study (env seed) (release.settingsOf seed) release.tasks).written)
    (filed : release.Filed (env seed) done) (apart : ((listedIn done).map Listed.run_id).Nodup)
    (readable : ending ≠ .torn) (created : ending = .absent → listedIn done = []) :
    ∃ submitted, Submits release env seed done ending submitted := by
  cases last : (manifestsIn done).getLast? with
  | none =>
    have unopened : manifestsIn done = [] := List.getLast?_eq_none_iff.mp last
    have nothing : done = [] := by
      rcases beginning with ⟨rest, whole⟩
      cases done with
      | nil => rfl
      | cons entry later =>
        rcases run_study_opens charges counts with empty | ⟨provenance, others, opens⟩
        · rw [empty] at whole
          cases whole
        · rw [opens] at whole
          cases whole
          cases unopened
    refine ⟨none, ⟨?_, ?_, ?_, fun _ impossible => (by cases impossible),
      fun _ impossible => (by cases impossible)⟩⟩
    · rw [if_pos unopened]
      rfl
    · rw [nothing]
      rfl
    · intro provenance found
      rw [last] at found
      cases found
  | some provenance =>
    have opened : manifestsIn done ≠ [] := by
      intro unopened
      rw [unopened] at last
      cases last
    rcases stated_last charges counts beginning last with ⟨front, back, split, stated⟩
    have hashed := stated.task_manifest_sha256.trans (sound.tasks seed)
    rcases exists_signature sound expected stated.planned hashed with ⟨signature, accepted, signed⟩
    have listed (run : Listed) (member : run ∈ listedIn done) :
        Belongs (release.settingsOf seed) release.tasks provenance.configuration run ∧
          Paid run.result := by
      have inside := (beginning.filterMap Written.listed?).subset member
      rcases run_study_listed charges counts inside with ⟨configuration, made, belongs, paid⟩
      cases made.symm.trans stated.planned
      exact ⟨belongs, paid⟩
    have planned := planned_of_plan stated.planned
    refine ⟨some ⟨release.directory done ending, release.manifestJson provenance, signature,
      (listedIn done).map (release.record seed)⟩, ⟨?_, rfl, ?_, ?_, ?_⟩⟩
    · rw [if_neg opened]
      rfl
    · intro other found
      exact ⟨_, rfl, congrArg release.manifestJson (Option.some.inj (last.symm.trans found))⟩
    · rintro submission ⟨⟩
      constructor
      · show Release.fileOf ((manifestsIn done).map release.manifestJson) = _
        unfold Release.fileOf
        rw [List.getLast?_map, last]
        rfl
      · exact accepted
      · rcases @get_configuration provenance.configuration with ⟨_, _, _, _, _, seeded, _⟩
        rw [signed.full, seeded, planned.seed]
        show Json.differs (.int seed) (.int seed) = false
        simp [Json.differs, Json.equal, Json.key?]
      · exact checkController_directory filed beginning split stated
      · show Release.indexOf (listedIn done) ending = _ ∧ _ ∨
          ∃ lines, Release.indexOf (listedIn done) ending = _ ∧ _
        cases ending with
        | torn => exact absurd rfl readable
        | absent => exact .inl ⟨rfl, by rw [created rfl]; rfl⟩
        | whole =>
          refine .inr ⟨_, rfl, ?_⟩
          rw [List.forall₂_map_left_iff, List.forall₂_map_right_iff, List.forall₂_same]
          intro other member
          exact readable_record sound.elapsed_s apart member (filed.hex other member)
            (listed other member).2 (filed.measured other member)
      · intro record member
        rcases List.mem_map.mp member with ⟨run, inside, rfl⟩
        refine ⟨rfl, ?_, holds_classes planned sound.families (listed run inside).1⟩
        rw [signed.full]
        exact declared_record planned (listed run inside).1
    · rintro submission ⟨⟩
      exact ⟨provenance.configuration, stated.planned, signed⟩

end Directories

end ForgeRL.Study
