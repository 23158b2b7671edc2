import ForgeRL.Library.Equality
import ForgeRL.Library.Dict
import ForgeRL.Library.Rounding
import ForgeRL.Library.Coverage

namespace ForgeRL.Aggregate

open Library

/-!
# Aggregating the seeds of a study

`aggregate_studies` reads one directory for each predeclared seed, checks its
manifest, its index and every indexed run against each other, and reports what
has been covered.  Its input are files, so almost everything is checked: a value
is a decoded JSON value until a check has said more.

Identifiers, policies, splits and families are compared by their keys, as
members of sets and dictionaries are.
-/

def EXPECTED_SEEDS : List ℤ := [17, 29, 43]

def POLICIES : List String :=
  ["strong_only", "cheap_only", "escalate_on_failure", "static_router", "adaptive"]

def METRICS : List String :=
  ["cost_usd", "tokens", "elapsed_s", "tool_calls", "steps", "attempts", "regressions_introduced",
    "unnecessary_edits", "escalations", "learned_decisions", "fallback_decisions"]

/-! ## Files and values -/

/-- Why an input is not accepted: a check, or another exception by its type. -/
inductive Refusal where
  | valueError (message : String)
  | raised (kind : String)
deriving DecidableEq, Repr

def require (holds : Prop) [Decidable holds] (refusal : Refusal) : Except Refusal Unit :=
  if holds then .ok () else .error refusal

theorem require_ok_iff {holds : Prop} [Decidable holds] {refusal : Refusal} {value : Unit} :
    require holds refusal = .ok value ↔ holds := by
  unfold require
  split_ifs with met
  · exact iff_of_true rfl met
  · exact iff_of_false (fun impossible => by cases impossible) met

theorem bind_ok_iff {α β : Type} {first : Except Refusal α} {next : α → Except Refusal β}
    {result : β} :
    (first >>= next) = .ok result ↔ ∃ value, first = .ok value ∧ next value = .ok result := by
  cases first with
  | error refusal => simp [bind, Except.bind]
  | ok value => simp [bind, Except.bind]

inductive File where
  | absent
  | malformed
  | json (value : Json)

/-- An index: its lines that are not blank, decoded if they can be. -/
inductive Index where
  | absent
  | malformed
  | lines (rows : List (Option Json))

structure Directory where
  manifest : File
  controller : File
  index : Index
  /-- `runs/<id>.json` -/
  run : Text → File

/-- What the script imports. -/
structure Environment where
  /-- `digest`, which raises for a value that is not a number. -/
  digest : Json → Option Text
  /-- `get_task(id).split` -/
  catalog : Json → Option Text

def read_json (file : File) : Except Refusal JsonObject :=
  match file with
  | .absent => .error (.raised "FileNotFoundError")
  | .malformed => .error (.raised "JSONDecodeError")
  | .json (.obj fields) => .ok fields
  | .json _ => .error (.valueError "Expected a JSON object")

/-- `fields.get(name)` -/
def get (fields : JsonObject) (name : String) : Json := (Json.field? fields name).getD .null

/-- `fields.get(name, default)` -/
def getD (fields : JsonObject) (name : String) (default : Json) : Json :=
  (Json.field? fields name).getD default

/-- The key of `fields.get(name)`. -/
def value (fields : JsonObject) (name : String) : Option Key := (get fields name).key?

def named (source : String) : Option Key := some (.text (Text.ofString source))

def IsObject (value : Json) : Prop :=
  match value with
  | .obj _ => True
  | _ => False

def IsList (value : Json) : Prop :=
  match value with
  | .arr _ => True
  | _ => False

def IsBool (value : Json) : Prop :=
  match value with
  | .bool _ => True
  | _ => False

instance : (value : Json) → Decidable (IsObject value)
  | .obj _ => .isTrue trivial
  | .null | .bool _ | .int _ | .float _ | .str _ | .arr _ => .isFalse id

instance : (value : Json) → Decidable (IsList value)
  | .arr _ => .isTrue trivial
  | .null | .bool _ | .int _ | .float _ | .str _ | .obj _ => .isFalse id

instance : (value : Json) → Decidable (IsBool value)
  | .bool _ => .isTrue trivial
  | .null | .int _ | .float _ | .str _ | .arr _ | .obj _ => .isFalse id

/-- `re.fullmatch("[a-f0-9]{length}", text)` -/
def isHex (length : ℕ) (text : Text) : Prop :=
  text.length = length ∧
    ∀ point ∈ text, (0x61 ≤ point.val ∧ point.val ≤ 0x66) ∨ (0x30 ≤ point.val ∧ point.val ≤ 0x39)

-- The search for an instance would go through all code points, not those of the text.
instance (length : ℕ) (text : Text) : Decidable (isHex length text) :=
  @instDecidableAnd _ _ inferInstance (List.decidableBAll _ text)

def IsDigest (value : Json) : Prop :=
  match value with
  | .str text => isHex 64 text
  | _ => False

/-- A sandbox image that is pinned by its digest. -/
def IsPinned (value : Json) : Prop :=
  match value with
  | .str text => Text.ofString "sha256:" <+: text ∧ isHex 64 (text.drop 7)
  | _ => False

instance : (value : Json) → Decidable (IsDigest value)
  | .str text => inferInstanceAs (Decidable (isHex 64 text))
  | .null | .bool _ | .int _ | .float _ | .arr _ | .obj _ => .isFalse id

instance : (value : Json) → Decidable (IsPinned value)
  | .str text => inferInstanceAs (Decidable (_ ∧ isHex 64 (text.drop 7)))
  | .null | .bool _ | .int _ | .float _ | .arr _ | .obj _ => .isFalse id

/-! ## The configuration of a study -/

/-- The identifiers of a list of the configuration. -/
def ids (config : JsonObject) (name : String) : List Json :=
  match get config name with
  | .arr items => items
  | _ => []

/-- The task selection of a configuration is two lists of members of a set, in
which no member is repeated. -/
structure Selection (config : JsonObject) : Prop where
  lists : IsList (get config "training_ids") ∧ IsList (get config "evaluation_ids")
  hashable : ∀ id ∈ ids config "training_ids" ++ ids config "evaluation_ids", id.key?.isSome = true
  distinct : ((ids config "training_ids" ++ ids config "evaluation_ids").map Json.key?).Nodup

def requireSelection (config : JsonObject) : Except Refusal (PLift (Selection config)) :=
  if lists : IsList (get config "training_ids") ∧ IsList (get config "evaluation_ids") then
    if hashable : ∀ id ∈ ids config "training_ids" ++ ids config "evaluation_ids",
        id.key?.isSome = true then
      if distinct : ((ids config "training_ids" ++ ids config "evaluation_ids").map
          Json.key?).Nodup then .ok ⟨⟨lists, hashable, distinct⟩⟩
      else .error (.valueError "Task selection repeats or overlaps IDs")
    else .error (.raised "TypeError")
  else .error (.valueError "Task selection repeats or overlaps IDs")

/-- `value == digest(of)` -/
def requireDigest (env : Environment) (value of : Json) (message : String) :
    Except Refusal Unit :=
  match env.digest of with
  | none => .error (.raised "ValueError")
  | some hash => require (value.key? = some (.text hash)) (.valueError message)

/-- `_configuration_signature`, with the whole configuration and its selection
beside the parameters that are compared. -/
structure Signature where
  full : JsonObject
  selection : Selection full
  configuration : JsonObject
  task_manifest_sha256 : Json
  provider : Json
  source_manifest : JsonObject
  runtime_source_sha256 : Json
  parameters : configuration = full.filter fun entry => entry.1 ≠ Text.ofString "seed"

def requireConfiguration (manifest : JsonObject) : Except Refusal JsonObject :=
  match get manifest "configuration" with
  | .obj config =>
    if (get manifest "task_manifest_sha256").isFalsy then
      .error (.valueError "Study has no configuration or task manifest")
    else .ok config
  | _ => .error (.valueError "Study has no configuration or task manifest")

/-- The checks of the evaluated source. -/
def requireSource (env : Environment) (manifest : JsonObject) : Except Refusal JsonObject :=
  match get manifest "source_manifest" with
  | .obj source =>
    match get source "files" with
    | .obj files => do
      let missing := "Evaluated source manifest is missing or its digest is invalid"
      require (files ≠ []) (.valueError missing)
      requireDigest env (get source "sha256") (.obj files) missing
      require (∀ entry ∈ files, IsDigest entry.2)
        (.valueError "Invalid evaluated source file digest")
      require (IsPinned (get source "sandbox_image"))
        (.valueError "Evaluated sandbox image must be pinned by immutable digest")
      .ok source
    | _ => .error (.valueError "Evaluated source manifest is missing or its digest is invalid")
  | _ => .error (.valueError "Evaluated source manifest is missing or its digest is invalid")

def configurationSignature (env : Environment) (manifest : JsonObject) :
    Except Refusal Signature := do
  let config ← requireConfiguration manifest
  requireDigest env (get manifest "configuration_sha256") (.obj config)
    "Study configuration hash mismatch"
  require (value config "version" = named "0.2" ∧
      (value config "protocol" = named "forgebench-v0.2-prespecified" ∨
        value config "protocol" = named "forgebench-v0.2-prespecified-rate-limit-retry-v1") ∧
      Json.equal (get config "policies") (.arr (POLICIES.map Json.string)) = true)
    (.valueError "Unsupported study version, protocol or policy set")
  let ⟨selection⟩ ← requireSelection config
  require (get config "language_model_weights_updated" matches .bool false)
    (.valueError "Frozen hosted weights must be explicit")
  let source ← requireSource env manifest
  .ok
    { full := config
      selection := selection
      configuration := config.filter fun entry => entry.1 ≠ Text.ofString "seed"
      task_manifest_sha256 := get manifest "task_manifest_sha256"
      provider := get manifest "provider"
      source_manifest := source
      runtime_source_sha256 := get source "sha256"
      parameters := rfl }

/-- `signature == canonical` -/
def Signature.same (signature canonical : Signature) : Bool :=
  Json.equal (.obj signature.configuration) (.obj canonical.configuration) &&
    Json.equal signature.task_manifest_sha256 canonical.task_manifest_sha256 &&
    Json.equal signature.provider canonical.provider &&
    Json.equal (.obj signature.source_manifest) (.obj canonical.source_manifest) &&
    Json.equal signature.runtime_source_sha256 canonical.runtime_source_sha256

/-- The keys of the tasks to evaluate. -/
def Signature.evaluationKeys (signature : Signature) : List (Option Key) :=
  (ids signature.full "evaluation_ids").map Json.key?

/-! ## Sources -/

structure Mismatch where
  field : String
  manifest : Json
  observed : ℕ

/-- The training counters of a source. -/
structure Counters where
  training_completed : ℕ
  training_failures : ℕ
  training_completed_manifest : Json
  training_failures_manifest : Json
  source_counter_mismatches : List Mismatch
  counter_consistency : String
  reported_status : Option Json

/-- A source of the report, without its hashes and dates; a missing study has no
counters. -/
structure Source where
  seed : ℤ
  status : Json
  counters : Option Counters

/-- `reconcile_training_counters` -/
def reconcile_training_counters (manifest : JsonObject) (seed : ℤ) (status : Json)
    (observed failed : ℕ) : Source :=
  let completed_manifest := getD manifest "training_completed" (.int 0)
  let failures_manifest := getD manifest "training_failures" (.int 0)
  let mismatches :=
    [Mismatch.mk "training_completed" completed_manifest observed,
      Mismatch.mk "training_failures" failures_manifest failed].filter
        fun mismatch => Json.differs mismatch.manifest (.int mismatch.observed)
  let counters (consistency : String) (reported : Option Json) : Counters :=
    ⟨observed, failed, completed_manifest, failures_manifest, mismatches, consistency, reported⟩
  if ¬ mismatches.isEmpty ∧ status.key? = named "running" then
    ⟨seed, status, some (counters "in_progress_manifest_may_be_stale" none)⟩
  else if ¬ mismatches.isEmpty then
    ⟨seed, Json.string "partial", some (counters "finished_manifest_mismatch" (some status))⟩
  else ⟨seed, status, some (counters "consistent" none)⟩

/-! ## Runs -/

inductive Phase where
  | train
  | evaluation
deriving DecidableEq, Repr

/-- A record of `full_runs`. -/
structure Record where
  phase : Phase
  study_seed : ℤ
  ident : Text
  run : JsonObject

/-- A seed, a task and a policy. -/
abbrev Cell := ℤ × Option Key × Option Key

def Record.cell (record : Record) : Cell :=
  (record.study_seed, value record.run "task_id", value record.run "policy")

/-- What the loops over the seeds and the rows have gathered. -/
structure Gathered where
  canonical : Option Signature
  sources : List Source
  full_runs : List Record
  evaluation : List JsonObject
  identities : List Cell
  ids : List Text
  family_splits : Dict (Option Key) (Option Key)
  task_families : Dict (Option Key) (Option Key)

def Gathered.empty : Gathered :=
  ⟨none, [], [], [], [], [], ⟨[], List.nodup_nil⟩, ⟨[], List.nodup_nil⟩⟩

/-- A row of the index. -/
structure Entry where
  row : JsonObject
  ident : Text
  phase : Phase

def phase? (value : Json) : Option Phase :=
  if value.key? = named "train" then some .train
  else if value.key? = named "evaluation" then some .evaluation
  else none

def readEntry (line : Option Json) : Except Refusal Entry :=
  match line with
  | none => .error (.raised "JSONDecodeError")
  | some (.obj row) =>
    match getD row "run_id" (Json.string "") with
    | .str ident =>
      match phase? (get row "phase") with
      | some phase =>
        if isHex 32 ident then .ok ⟨row, ident, phase⟩
        else .error (.valueError "Invalid run index entry")
      | none => .error (.valueError "Invalid run index entry")
    | _ => .error (.raised "TypeError")
  | some _ => .error (.raised "AttributeError")

/-- A metric is missing, or a finite number that is not negative; an integer
that no float holds raises in `math.isfinite`. -/
def checkMetric (run : JsonObject) (metric : String) : Except Refusal Unit :=
  match get run metric with
  | .null => .ok ()
  | .int number =>
    if (Binary64.ofInt? number).isNone then .error (.raised "OverflowError")
    else require (0 ≤ number) (.valueError ("Invalid nonnegative metric: " ++ metric))
  | .float (.finite number) =>
    require (0 ≤ number) (.valueError ("Invalid nonnegative metric: " ++ metric))
  | _ => .error (.valueError ("Invalid nonnegative metric: " ++ metric))

def checkMetrics (run : JsonObject) : List String → Except Refusal Unit
  | [] => .ok ()
  | metric :: metrics => do
    checkMetric run metric
    checkMetrics run metrics

/-- The run of an index row, and the checks that do not depend on the phase. -/
def readRun (directory : Directory) (entry : Entry) : Except Refusal JsonObject := do
  let run ← read_json (directory.run entry.ident)
  require (value run "id" = some (.text entry.ident) ∧
      ∀ name ∈ ["task_id", "policy", "status"],
        Json.differs (get run name) (get entry.row name) = false)
    (.valueError "Run/index identity mismatch")
  require (IsList (get run "events") ∧ IsObject (get run "initial_files") ∧
      IsObject (get run "final_files"))
    (.valueError "A published run must include its actual trajectory and files")
  require (IsBool (get run "solved")) (.valueError "A run must have a boolean success outcome")
  checkMetrics run METRICS
  .ok run

/-- The checks of the split, and the new cell of an evaluation. -/
def checkPhase (seed : ℤ) (config : JsonObject) (phase : Phase) (run : JsonObject)
    (gathered : Gathered) : Except Refusal Gathered :=
  match phase with
  | .train => do
    let outside := Refusal.valueError "Training row outside the declared split"
    require (value run "split" = named "train") outside
    require ((Json.field? run "task_id").isSome = true) (.raised "KeyError")
    require (value run "task_id" ∈ (ids config "training_ids").map Json.key? ∧
      value run "policy" = named "exploration") outside
    .ok gathered
  | .evaluation => do
    let outside := Refusal.valueError "Evaluation row outside declared split, policy or seed"
    require (value run "split" ∈ [named "validation", named "test"]) outside
    require ((Json.field? run "task_id").isSome = true) (.raised "KeyError")
    require (value run "task_id" ∈ (ids config "evaluation_ids").map Json.key? ∧
      value run "policy" ∈ POLICIES.map named ∧
      Json.differs (get run "seed") (.int seed) = false) outside
    let identity : Cell := (seed, value run "task_id", value run "policy")
    require (identity ∉ gathered.identities)
      (.valueError "Duplicate task/policy/seed evaluation")
    .ok { gathered with identities := gathered.identities ++ [identity] }

/-- The checks of the family, and what they remember. -/
def checkFamily (run : JsonObject) (gathered : Gathered) : Except Refusal Gathered :=
  match get run "family" with
  | .str family => do
    require (family ≠ []) (.valueError "Run has no family")
    require (∀ split, gathered.family_splits.get? (value run "family") = some split →
        split = value run "split")
      (.valueError "Family crosses train/validation/test splits")
    require (∀ known, gathered.task_families.get? (value run "task_id") = some known →
        known = value run "family")
      (.valueError "Task changed family across studies")
    .ok { gathered with
      family_splits := gathered.family_splits.set (value run "family") (value run "split")
      task_families := gathered.task_families.set (value run "task_id") (value run "family") }
  | _ => .error (.valueError "Run has no family")

/-- The loop over the rows of one study. -/
structure Pass where
  gathered : Gathered
  observed_training : ℕ
  observed_training_failures : ℕ

def Gathered.record (record : Record) (gathered : Gathered) : Gathered :=
  { gathered with
    full_runs := gathered.full_runs ++ [record]
    evaluation :=
      if record.phase = .evaluation then gathered.evaluation ++ [record.run]
      else gathered.evaluation }

/-- A training run that was not completed. -/
def Failed (run : JsonObject) : Prop := value run "status" ≠ named "completed"

instance (run : JsonObject) : Decidable (Failed run) := inferInstanceAs (Decidable (_ ≠ _))

def addRow (seed : ℤ) (config : JsonObject) (directory : Directory) (line : Option Json)
    (pass : Pass) : Except Refusal Pass := do
  let entry ← readEntry line
  require (entry.ident ∉ pass.gathered.ids)
    (.valueError "Duplicate run ID; do not select favorable duplicates")
  let run ← readRun directory entry
  let placed ← checkPhase seed config entry.phase run
    { pass.gathered with ids := pass.gathered.ids ++ [entry.ident] }
  let gathered ← checkFamily run placed
  .ok
    { gathered := gathered.record ⟨entry.phase, seed, entry.ident, run⟩
      observed_training := pass.observed_training + if entry.phase = .train then 1 else 0
      observed_training_failures := pass.observed_training_failures +
        if entry.phase = .train ∧ Failed run then 1 else 0 }

def addRows (seed : ℤ) (config : JsonObject) (directory : Directory) :
    List (Option Json) → Pass → Except Refusal Pass
  | [], pass => .ok pass
  | line :: lines, pass => do
    let later ← addRow seed config directory line pass
    addRows seed config directory lines later

/-! ## Studies -/

abbrev Studies := Dict ℤ Directory

def Gathered.addSource (source : Source) (gathered : Gathered) : Gathered :=
  { gathered with sources := gathered.sources ++ [source] }

/-- The first signature is canonical, and the others have to be the same. -/
def requireCanonical (signature : Signature) (gathered : Gathered) : Except Refusal Gathered :=
  match gathered.canonical with
  | none => .ok { gathered with canonical := some signature }
  | some canonical => do
    require (signature.same canonical = true)
      (.valueError ("Incompatible tasks, protocol, runtime source, provider or configuration " ++
        "across seeds"))
    .ok gathered

def checkController (env : Environment) (directory : Directory) (manifest : JsonObject) :
    Except Refusal Unit :=
  if (get manifest "controller_sha256").isFalsy then .ok ()
  else
    match directory.controller with
    | .absent => .error (.valueError "Frozen controller hash mismatch")
    | present => do
      let controller ← read_json present
      requireDigest env (get manifest "controller_sha256") (.obj controller)
        "Frozen controller hash mismatch"

/-- The index of a study whose manifest has been accepted. -/
def addIndex (seed : ℤ) (config manifest : JsonObject) (directory : Directory)
    (gathered : Gathered) : Except Refusal Gathered :=
  match directory.index with
  | .absent =>
    .ok (gathered.addSource
      (reconcile_training_counters manifest seed (Json.string "partial") 0 0))
  | .malformed => .error (.raised "UnicodeDecodeError")
  | .lines rows => do
    let pass ← addRows seed config directory rows ⟨gathered, 0, 0⟩
    .ok (pass.gathered.addSource
      (reconcile_training_counters manifest seed (getD manifest "status" (Json.string "partial"))
        pass.observed_training pass.observed_training_failures))

def addManifest (env : Environment) (seed : ℤ) (directory : Directory) (gathered : Gathered) :
    Except Refusal Gathered := do
  let manifest ← read_json directory.manifest
  let signature ← configurationSignature env manifest
  require (Json.differs (get signature.full "seed") (.int seed) = false)
    (.valueError "Source seed disagrees with declared mapping")
  let compared ← requireCanonical signature gathered
  checkController env directory manifest
  addIndex seed signature.full manifest directory compared

/-- The directory of a seed, if it has a manifest. -/
def studyOf (studies : Studies) (seed : ℤ) : Option Directory :=
  match studies.get? seed with
  | none => none
  | some directory =>
    match directory.manifest with
    | .absent => none
    | _ => some directory

def addStudy (env : Environment) (studies : Studies) (seed : ℤ) (gathered : Gathered) :
    Except Refusal Gathered :=
  match studyOf studies seed with
  | none => .ok (gathered.addSource ⟨seed, Json.string "missing", none⟩)
  | some directory => addManifest env seed directory gathered

def addStudies (env : Environment) (studies : Studies) :
    List ℤ → Gathered → Except Refusal Gathered
  | [], gathered => .ok gathered
  | seed :: seeds, gathered => do
    let later ← addStudy env studies seed gathered
    addStudies env studies seeds later

/-! ## The report -/

/-- A row of the plan. -/
structure Row where
  task_id : Json
  policy : String
  seed : ℤ

def Row.cell (row : Row) : Cell := (row.seed, row.task_id.key?, named row.policy)

/-- `expected` -/
def expectedRows (evaluation_ids : List Json) : List Row :=
  EXPECTED_SEEDS.flatMap fun seed => evaluation_ids.flatMap fun task_id =>
    POLICIES.map fun policy => ⟨task_id, policy, seed⟩

/-- The split of a planned task, from its runs or else from the catalog. -/
def splitOf (env : Environment) (gathered : Gathered) (task_id : Json) :
    Except Refusal (Option Key) :=
  match (gathered.task_families.get? task_id.key?).bind gathered.family_splits.get? with
  | some split => .ok split
  | none =>
    match env.catalog task_id with
    | some split => .ok (some (.text split))
    | none => .error (.raised "KeyError")

def testIds (env : Environment) (gathered : Gathered) : List Json → Except Refusal (List Json)
  | [] => .ok []
  | task_id :: rest => do
    let split ← splitOf env gathered task_id
    let later ← testIds env gathered rest
    .ok (if split = named "test" then task_id :: later else later)

/-- An entry of `summarize`, without its means. -/
structure Summary where
  policy : String
  n : ℕ
  planned : ℕ
  solved : ℕ
  failed_runs : ℕ

/-- A run that counts as solved. -/
def Solved (run : JsonObject) : Prop :=
  ¬ Failed run ∧ (get run "solved").isFalsy = false

instance (run : JsonObject) : Decidable (Solved run) := inferInstanceAs (Decidable (_ ∧ _))

def runsOf (runs : List JsonObject) (policy : String) : List JsonObject :=
  runs.filter fun run => value run "policy" = named policy

def summarize (runs : List JsonObject) (planned : ℕ) : List Summary :=
  POLICIES.map fun policy =>
    { policy := policy
      n := (runsOf runs policy).length
      planned := planned
      solved := ((runsOf runs policy).filter fun run => Solved run).length
      failed_runs := ((runsOf runs policy).filter fun run => Failed run).length }

structure Coverage where
  planned : ℕ
  completed : ℕ
  missing : List Row
  training_completed : ℕ
  test_unique_tasks : ℕ

structure Report where
  status : String
  configuration : JsonObject
  coverage : Coverage
  summary : List Summary
  validation_summary : List Summary
  sources : List Source
  runs : List JsonObject
  full_runs : List Record

/-- `tests` and `validation` -/
def ofSplit (split : String) (runs : List JsonObject) : List JsonObject :=
  runs.filter fun run => value run "split" = named split

def Source.Complete (source : Source) : Prop := source.status.key? = named "complete"

instance (source : Source) : Decidable source.Complete := inferInstanceAs (Decidable (_ = _))

/-- The report.  The entries that are left out can raise, and nothing that is here
reads them. -/
def makeReport (gathered : Gathered) (canonical : Signature) (test_ids : List Json) : Report :=
  let evaluation_ids := ids canonical.full "evaluation_ids"
  let expected := expectedRows evaluation_ids
  let missing := missingRows Row.cell expected gathered.identities
  let validation_ids := evaluation_ids.filter fun id => id.key? ∉ test_ids.map Json.key?
  { status :=
      if missing.isEmpty ∧ ∀ source ∈ gathered.sources, source.Complete then "complete"
      else "partial"
    configuration := canonical.configuration
    coverage :=
      { planned := expected.length
        completed := gathered.evaluation.length
        missing := missing
        training_completed := (gathered.sources.map fun source =>
          (source.counters.map Counters.training_completed).getD 0).sum
        test_unique_tasks := test_ids.length }
    summary := summarize (ofSplit "test" gathered.evaluation)
      (test_ids.length * EXPECTED_SEEDS.length)
    validation_summary := summarize (ofSplit "validation" gathered.evaluation)
      (validation_ids.length * EXPECTED_SEEDS.length)
    sources := gathered.sources
    runs := gathered.evaluation
    full_runs := gathered.full_runs }

def aggregate_studies (env : Environment) (studies : Studies) : Except Refusal Report := do
  require (∀ seed ∈ studies.keys, seed ∈ EXPECTED_SEEDS)
    (.valueError "Only predeclared seeds 17, 29 and 43 may be aggregated")
  let gathered ← addStudies env studies EXPECTED_SEEDS .empty
  match gathered.canonical with
  | none => .error (.valueError "No study manifest available; publish a not_run view instead")
  | some canonical => do
    let test_ids ← testIds env gathered (ids canonical.full "evaluation_ids")
    .ok (makeReport gathered canonical test_ids)

end ForgeRL.Aggregate
