import ForgeRL.Bench.StudyManifest
import ForgeRL.Scripts.Accepting

namespace ForgeRL.Study

open Library

/-!
# The evidence directory of a study, as it is read

`aggregate_studies` reads what `run_study` has written.  The directory here is
that of some entries of a study, decoded: its last manifest, its controller, the
lines of its index and the documents of its runs, with the names of every object
in order.  Times, titles and diffs are left out, and nothing reads them.
-/

/-- What the studies of a release have in common, beside their seeds. -/
structure Release where
  settings : Settings
  /-- `list_tasks()` -/
  tasks : List RepoTask
  /-- `provider.metadata()` -/
  provider : Json
  /-- The hashes of `source_manifest`, and `FORGEBENCH_EVALUATED_IMAGE`. -/
  files : JsonObject
  sandbox_image : Json
  digest : Json → Option Text
  controller : Router.Fitted → JsonObject
  event : Event → Json
  stop : Stop → Text
  elapsed_s : Text → ℚ

/-- How the index of a directory ends: it is not there, or it ends with a line that
can be read, perhaps without its line feed, or with a piece of a line. -/
inductive Ending where
  | absent
  | whole
  | torn
deriving DecidableEq

/-! ## Documents -/

def entries (named : List (String × Json)) : JsonObject :=
  named.map fun entry => (Text.ofString entry.1, entry.2)

def optional {α : Type} (encode : α → Json) : Option α → Json
  | none => .null
  | some value => encode value

def number (count : ℕ) : Json := .int count

def float (value : ℚ) : Json := .float (.finite value)

def texts (items : List Text) : Json := .arr (items.map Json.str)

def strings (items : List String) : Json := .arr (items.map Json.string)

def studyStatusText : StudyStatus → String
  | .running => "running"
  | .partial_ => "partial"
  | .complete => "complete"

def configurationJson (configuration : Configuration) : JsonObject :=
  entries [
    ("cost_weight", float configuration.cost_weight),
    ("evaluation_ids", texts configuration.evaluation_ids),
    ("language_model_weights_updated", .bool configuration.language_model_weights_updated),
    ("maximum_decisions", .int configuration.maximum_decisions),
    ("maximum_model_calls", .int configuration.maximum_model_calls),
    ("planned_evaluation_episodes", number configuration.planned_evaluation_episodes),
    ("planned_training_episodes", .int configuration.planned_training_episodes),
    ("policies", strings (configuration.policies.map policyText)),
    ("protocol", Json.string configuration.protocol),
    ("rate_limit_retries", .int configuration.rate_limit_retries),
    ("seed", .int configuration.seed),
    ("selection", Json.string configuration.selection),
    ("study_cost_cap_usd", float configuration.study_cost_cap_usd),
    ("task_count", number configuration.task_count),
    ("train_rollouts_per_task", .int configuration.train_rollouts_per_task),
    ("training_ids", texts configuration.training_ids),
    ("version", Json.string configuration.version)]

namespace Release

variable (release : Release)

/-- The settings of the study of a seed. -/
def settingsOf (seed : ℤ) : Settings := { release.settings with seed := seed }

def source_manifest : JsonObject :=
  entries [
    ("checkpoint_revision",
      Json.string "Hosted provider does not expose a fixed checkpoint revision."),
    ("files", .obj release.files),
    ("sandbox_image", release.sandbox_image),
    ("sha256", optional Json.str (release.digest (.obj release.files)))]

/-- A manifest.  An entry that is not there yet is null: it is only read by `get`. -/
def manifestJson (provenance : Provenance) : JsonObject :=
  entries [
    ("configuration", .obj (configurationJson provenance.configuration)),
    ("configuration_sha256", optional Json.str
      (release.digest (.obj (configurationJson provenance.configuration)))),
    ("controller_sha256", optional Json.str provenance.controller_sha256),
    ("controller_trained", optional Json.bool provenance.controller_trained),
    ("provider", release.provider),
    ("source_manifest", .obj release.source_manifest),
    ("status", Json.string (studyStatusText provenance.status)),
    ("stop_reason", optional (fun stop => .str (release.stop stop)) provenance.stop_reason),
    ("study_cap_usd", float provenance.study_cap_usd),
    ("task_manifest_sha256", .str provenance.task_manifest_sha256),
    ("training_completed", number provenance.training_completed),
    ("training_failures", number provenance.training_failures),
    ("training_transitions", optional number provenance.training_transitions)]

/-- `task.family` -/
def family (task_id : Text) : Option Text :=
  (Dict.get? (by_id release.tasks) task_id).map RepoTask.family

/-- The document of a run. -/
def resultJson (run_id : Text) (result : EpisodeResult) : JsonObject :=
  entries [
    ("attempts", number result.attempts),
    ("cost_usd", float result.cost_usd),
    ("decisions", number result.decisions),
    ("elapsed_s", float (release.elapsed_s run_id)),
    ("error", optional Json.string result.error),
    ("escalations", number result.escalations),
    ("events", .arr (result.events.map release.event)),
    ("failure_labels", strings result.failure_labels),
    ("fallback_decisions", number result.fallback_decisions),
    ("family", optional Json.str (release.family result.task_id)),
    ("final_files", filesJson result.final_files),
    ("heldout_passed", optional number result.heldout_passed),
    ("heldout_total", number result.heldout_total),
    ("id", .str run_id),
    ("initial_files", filesJson result.initial_files),
    ("invalid_responses", number result.invalid_responses),
    ("known_tokens", .int result.known_tokens),
    ("learned_decisions", number result.learned_decisions),
    ("model_ids", strings result.model_ids),
    ("policy", Json.string (policyText result.policy)),
    ("provider_retries", number result.provider_retries),
    ("public_passed", optional number result.public_passed),
    ("public_total", number result.public_total),
    ("regressions_introduced", number result.regressions_introduced),
    ("retries", number result.retries),
    ("rollbacks", number result.rollbacks),
    ("seed", .int result.seed),
    ("solved", .bool result.solved),
    ("split", .str result.split),
    ("status", Json.string (statusText result.status)),
    ("steps", number result.attempts),
    ("stop_reason", optional Json.string result.stop_reason),
    ("success_after_repair", .bool result.success_after_repair),
    ("task_id", .str result.task_id),
    ("tokens", optional Json.int result.tokens),
    ("tokens_complete", .bool result.tokens_complete),
    ("tool_calls", number result.tool_calls),
    ("unknown_token_upper_bound", .int result.unknown_token_upper_bound),
    ("unnecessary_edits", optional number result.unnecessary_edits),
    ("version", Json.string "0.2")]

/-- A file that holds the last of some documents. -/
def fileOf (documents : List JsonObject) : Aggregate.File :=
  match documents.getLast? with
  | none => .absent
  | some document => .json (.obj document)

/-- The index of some runs, up to its end. -/
def indexOf (runs : List Listed) : Ending → Aggregate.Index
  | .absent => .absent
  | .whole => .lines (runs.map fun run => some run.row)
  | .torn => .lines ((runs.map fun run => some run.row) ++ [none])

/-- The directory after some entries. -/
def directory (done : List Written) (ending : Ending) : Aggregate.Directory where
  manifest := fileOf ((manifestsIn done).map release.manifestJson)
  controller := fileOf ((fittedIn done).map release.controller)
  index := indexOf (listedIn done) ending
  run ident := fileOf ((namedRuns ident done).map fun run =>
    release.resultJson run.run_id run.result)

/-- What the script imports: `digest`, and the splits of `get_task`. -/
def environment : Aggregate.Environment where
  digest := release.digest
  catalog task_id :=
    match task_id with
    | .str ident => (release.tasks.find? fun task => task.id = ident).map RepoTask.split
    | _ => none

def phaseOf : Phase → Aggregate.Phase
  | .train => .train
  | .evaluation => .evaluation

/-- A listed run among the records of a report. -/
def record (seed : ℤ) (run : Listed) : Aggregate.Record :=
  ⟨phaseOf run.phase, seed, run.run_id, release.resultJson run.run_id run.result⟩

end Release

/-! ## The models of a release -/

/-- `model["id"]`, as a member of a set. -/
def modelId (model : Json) : Except Aggregate.Refusal Key :=
  match model with
  | .obj fields =>
    match Json.field? fields "id" with
    | none => .error (.raised "KeyError")
    | some ident =>
      match ident.key? with
      | none => .error (.raised "TypeError")
      | some key => .ok key
  | _ => .error (.raised "TypeError")

/-- The models that have been observed. -/
def keepModels (observed : List Key) : List Json → Except Aggregate.Refusal (List Json)
  | [] => .ok []
  | model :: rest => do
    let ident ← modelId model
    let later ← keepModels observed rest
    .ok (if ident ∈ observed then model :: later else later)

/-- The comprehension over `provider["models"]`, and the read of the cost basis. -/
def publishedModels (provider : Json) (observed : List Key) :
    Except Aggregate.Refusal (List Json) :=
  match provider with
  | .obj fields =>
    match Json.field? fields "models" with
    | none => .error (.raised "KeyError")
    | some (.arr models) => keepModels observed models
    -- The items of a text, and the names of an object, have no `id`.
    | some (.str []) => .ok []
    | some (.obj []) => .ok []
    | some _ => .error (.raised "TypeError")
  | _ => .error (.raised "TypeError")

/-- A provider that names its models. -/
def Lists (provider : Json) (models : List Json) : Prop :=
  ∃ fields, provider = .obj fields ∧ Json.field? fields "models" = some (.arr models) ∧
    ∀ model ∈ models, ∃ ident, modelId model = .ok ident

theorem keepModels_ok {observed : List Key} {models : List Json}
    (named : ∀ model ∈ models, ∃ ident, modelId model = .ok ident) :
    ∃ kept, keepModels observed models = .ok kept ∧ ∀ model, model ∈ kept ↔
      model ∈ models ∧ ∃ ident ∈ observed, modelId model = .ok ident := by
  induction models with
  | nil => exact ⟨[], rfl, fun model => by simp⟩
  | cons model rest ih =>
    rcases named model List.mem_cons_self with ⟨ident, found⟩
    rcases ih fun other member => named other (List.mem_cons_of_mem model member) with
      ⟨later, others, members⟩
    refine ⟨if ident ∈ observed then model :: later else later, ?_, ?_⟩
    · simp only [keepModels, Aggregate.bind_ok_iff]
      exact ⟨ident, found, later, others, rfl⟩
    · intro other
      rw [List.mem_cons, or_and_right, ← members other]
      split_ifs with used
      · rw [List.mem_cons]
        constructor
        · rintro (rfl | kept)
          · exact .inl ⟨rfl, ident, used, found⟩
          · exact .inr kept
        · rintro (⟨rfl, _⟩ | kept)
          · exact .inl rfl
          · exact .inr kept
      · constructor
        · exact .inr
        · rintro (⟨rfl, also, among, same⟩ | kept)
          · cases found.symm.trans same
            exact absurd among used
          · exact kept

/-- The models of a provider that names them are those that were observed. -/
theorem publishedModels_ok {provider : Json} {models : List Json} (lists : Lists provider models)
    (observed : List Key) : ∃ kept, publishedModels provider observed = .ok kept ∧
      ∀ model, model ∈ kept ↔
        model ∈ models ∧ ∃ ident ∈ observed, modelId model = .ok ident := by
  rcases lists with ⟨fields, rfl, found, named⟩
  unfold publishedModels
  dsimp only
  rw [found]
  exact keepModels_ok named

/-! ## What is read in a document -/

section Fields

variable {release : Release} {run : Listed}

theorem get_result {run_id : Text} {result : EpisodeResult} :
    let fields := release.resultJson run_id result
    Aggregate.get fields "id" = .str run_id ∧
      Aggregate.get fields "task_id" = .str result.task_id ∧
      Aggregate.get fields "policy" = Json.string (policyText result.policy) ∧
      Aggregate.get fields "status" = Json.string (statusText result.status) ∧
      Aggregate.get fields "seed" = .int result.seed ∧
      Aggregate.get fields "split" = .str result.split ∧
      Aggregate.get fields "family" = optional Json.str (release.family result.task_id) ∧
      Aggregate.get fields "solved" = .bool result.solved ∧
      Aggregate.get fields "events" = .arr (result.events.map release.event) ∧
      Aggregate.get fields "initial_files" = filesJson result.initial_files ∧
      Aggregate.get fields "final_files" = filesJson result.final_files ∧
      (Json.field? fields "task_id").isSome = true := by
  simp only [Release.resultJson, entries, Aggregate.get, List.map_cons, Json.field?_cons,
    Text.ofString_inj, String.reduceEq, if_true, if_false, Option.getD_some, Option.isSome_some,
    and_self]

theorem get_metrics {run_id : Text} {result : EpisodeResult} :
    let fields := release.resultJson run_id result
    Aggregate.get fields "cost_usd" = float result.cost_usd ∧
      Aggregate.get fields "tokens" = optional Json.int result.tokens ∧
      Aggregate.get fields "elapsed_s" = float (release.elapsed_s run_id) ∧
      Aggregate.get fields "tool_calls" = number result.tool_calls ∧
      Aggregate.get fields "steps" = number result.attempts ∧
      Aggregate.get fields "attempts" = number result.attempts ∧
      Aggregate.get fields "regressions_introduced" = number result.regressions_introduced ∧
      Aggregate.get fields "unnecessary_edits" = optional number result.unnecessary_edits ∧
      Aggregate.get fields "escalations" = number result.escalations ∧
      Aggregate.get fields "learned_decisions" = number result.learned_decisions ∧
      Aggregate.get fields "fallback_decisions" = number result.fallback_decisions := by
  simp only [Release.resultJson, entries, Aggregate.get, List.map_cons, Json.field?_cons,
    Text.ofString_inj, String.reduceEq, if_true, if_false, Option.getD_some, and_self]

theorem get_row :
    ∃ fields, run.row = .obj fields ∧
      Aggregate.get fields "phase" = Json.string (phaseText run.phase) ∧
      Aggregate.getD fields "run_id" (Json.string "") = .str run.run_id ∧
      Aggregate.get fields "task_id" = .str run.result.task_id ∧
      Aggregate.get fields "policy" = Json.string (policyText run.result.policy) ∧
      Aggregate.get fields "status" = Json.string (statusText run.result.status) := by
  refine ⟨_, rfl, ?_⟩
  simp only [Aggregate.get, Aggregate.getD, List.map_cons, Json.field?_cons,
    Text.ofString_inj, String.reduceEq, if_true, if_false, Option.getD_some, and_self]

theorem get_manifest {provenance : Provenance} :
    let fields := release.manifestJson provenance
    Aggregate.get fields "configuration" = .obj (configurationJson provenance.configuration) ∧
      Aggregate.get fields "configuration_sha256" = optional Json.str
        (release.digest (.obj (configurationJson provenance.configuration))) ∧
      Aggregate.get fields "controller_sha256" =
        optional Json.str provenance.controller_sha256 ∧
      Aggregate.get fields "provider" = release.provider ∧
      Aggregate.get fields "source_manifest" = .obj release.source_manifest ∧
      Aggregate.get fields "task_manifest_sha256" = .str provenance.task_manifest_sha256 ∧
      (∀ missing, Aggregate.getD fields "status" missing =
        Json.string (studyStatusText provenance.status)) ∧
      (∀ missing, Aggregate.getD fields "training_completed" missing =
        number provenance.training_completed) ∧
      ∀ missing, Aggregate.getD fields "training_failures" missing =
        number provenance.training_failures := by
  simp only [Release.manifestJson, entries, Aggregate.get, Aggregate.getD, List.map_cons,
    Json.field?_cons, Text.ofString_inj, String.reduceEq, if_true, if_false, Option.getD_some,
    and_self, implies_true]

theorem get_source :
    let fields := release.source_manifest
    Aggregate.get fields "files" = .obj release.files ∧
      Aggregate.get fields "sandbox_image" = release.sandbox_image ∧
      Aggregate.get fields "sha256" = optional Json.str (release.digest (.obj release.files)) := by
  simp only [Release.source_manifest, entries, Aggregate.get, List.map_cons, Json.field?_cons,
    Text.ofString_inj, String.reduceEq, if_true, if_false, Option.getD_some, and_self]

theorem get_configuration {configuration : Configuration} :
    let fields := configurationJson configuration
    Aggregate.get fields "version" = Json.string configuration.version ∧
      Aggregate.get fields "protocol" = Json.string configuration.protocol ∧
      Aggregate.get fields "policies" = strings (configuration.policies.map policyText) ∧
      Aggregate.get fields "training_ids" = texts configuration.training_ids ∧
      Aggregate.get fields "evaluation_ids" = texts configuration.evaluation_ids ∧
      Aggregate.get fields "seed" = .int configuration.seed ∧
      Aggregate.get fields "language_model_weights_updated" =
        .bool configuration.language_model_weights_updated := by
  simp only [configurationJson, entries, Aggregate.get, List.map_cons, Json.field?_cons,
    Text.ofString_inj, String.reduceEq, if_true, if_false, Option.getD_some, and_self]

end Fields

end ForgeRL.Study
