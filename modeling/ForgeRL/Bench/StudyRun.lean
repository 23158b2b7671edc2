import ForgeRL.Library.Campaign
import ForgeRL.Bench.StudyReport
import ForgeRL.Bench.Legality
import ForgeRL.Bench.Standing
import ForgeRL.Bench.FittedQ
import ForgeRL.Ledger.StudyCap
import Mathlib.Data.List.Sort

namespace ForgeRL

open Library

/-!
# A prospective study

`run_study` fixes its plan before the first request.  It collects exploration
episodes on the training tasks, fits the controller to their transitions, and
writes it; only then does it run every policy on every evaluation task, in a
shuffled order of the policies.  Each episode is recorded before the next one
begins.  A stop, for whatever reason, leaves a partial study with its records;
a cancellation leaves the study itself.  `json.dump` may refuse an event or a
result, with a NaN or too deep; the file system takes every write.

The surroundings of a study (the hosted provider, the ledger, the evaluator,
the clock) answer each episode according to the episodes before it.
-/

namespace Study

/-! ## The plan -/

/-- The keyword arguments of `plan`. -/
structure Settings where
  seed : ℤ
  train_per_family : ℤ
  eval_per_family : ℤ
  train_rollouts : ℤ
  max_steps : ℤ
  max_decisions : ℤ
  max_cost_usd : ℚ
  rate_limit_retries : ℤ

structure Settings.Bounded (settings : Settings) : Prop where
  train_per_family : 1 ≤ settings.train_per_family ∧ settings.train_per_family ≤ 5
  eval_per_family : 1 ≤ settings.eval_per_family ∧ settings.eval_per_family ≤ 5
  train_rollouts : 1 ≤ settings.train_rollouts ∧ settings.train_rollouts ≤ 4
  max_steps : 1 ≤ settings.max_steps ∧ settings.max_steps ≤ 6
  max_decisions : 1 ≤ settings.max_decisions ∧ settings.max_decisions ≤ 10
  max_cost_usd : 0 < settings.max_cost_usd ∧ settings.max_cost_usd ≤ 10
  rate_limit_retries : 0 ≤ settings.rate_limit_retries ∧ settings.rate_limit_retries ≤ 2

instance (settings : Settings) : Decidable settings.Bounded :=
  decidable_of_iff ((1 ≤ settings.train_per_family ∧ settings.train_per_family ≤ 5) ∧
      (1 ≤ settings.eval_per_family ∧ settings.eval_per_family ≤ 5) ∧
      (1 ≤ settings.train_rollouts ∧ settings.train_rollouts ≤ 4) ∧
      (1 ≤ settings.max_steps ∧ settings.max_steps ≤ 6) ∧
      (1 ≤ settings.max_decisions ∧ settings.max_decisions ≤ 10) ∧
      (0 < settings.max_cost_usd ∧ settings.max_cost_usd ≤ 10) ∧
      (0 ≤ settings.rate_limit_retries ∧ settings.rate_limit_retries ≤ 2))
    ⟨fun ⟨train, eval, rollouts, steps, decisions, cost, retries⟩ =>
        ⟨train, eval, rollouts, steps, decisions, cost, retries⟩,
      fun bounded => ⟨bounded.1, bounded.2, bounded.3, bounded.4, bounded.5, bounded.6, bounded.7⟩⟩

/-- The texts of the splits. -/
def train : Text := Text.ofString "train"
def validation : Text := Text.ofString "validation"
def test : Text := Text.ofString "test"

/-- The loop of `validate_splits`: the families with their splits, and the
identifiers that have been met. -/
def validateTasks (families : List (Text × Text)) (ids : List Text) :
    List RepoTask → Except Escape Unit
  | [] => .ok ()
  | task :: tasks =>
    if task.split ∉ [train, validation, test] then .error (.valueError "Unsupported split")
    else if task.id ∈ ids then .error (.valueError "Duplicate task ID")
    else
      match families.lookup task.family with
      | none => validateTasks ((task.family, task.split) :: families) (task.id :: ids) tasks
      | some split =>
        if split ≠ task.split then .error (.valueError "Task family crosses splits")
        else validateTasks families (task.id :: ids) tasks

/-- `validate_splits`, for the tasks of the repository benchmark.  The names at
the end of its messages are left out. -/
def validate_splits (tasks : List RepoTask) : Except Escape Unit :=
  match validateTasks [] [] tasks with
  | .error escape => .error escape
  | .ok () =>
    if [train, validation, test].any fun split => (tasks.filter (·.split = split)).isEmpty then
      .error (.valueError "Training, validation and test tasks are all required")
    else .ok ()

/-- The first tasks of every family by their identifiers. -/
def select_tasks (tasks : List RepoTask) (per_family : ℕ) : List RepoTask :=
  ((tasks.map RepoTask.family).dedup.insertionSort fun first second => first ≤ second).flatMap
    fun name => ((tasks.filter (·.family = name)).insertionSort fun first second =>
      first.id ≤ second.id).take per_family

/-- `PROTOCOL`, with its suffix when rate limits are retried. -/
def protocol (rate_limit_retries : ℤ) : String :=
  if rate_limit_retries = 0 then "forgebench-v0.2-prespecified"
  else "forgebench-v0.2-prespecified-rate-limit-retry-v1"

structure Configuration where
  protocol : String
  rate_limit_retries : ℤ
  version : String
  seed : ℤ
  task_count : ℕ
  training_ids : List Text
  evaluation_ids : List Text
  train_rollouts_per_task : ℤ
  policies : List Policy
  maximum_model_calls : ℤ
  maximum_decisions : ℤ
  study_cost_cap_usd : ℚ
  planned_training_episodes : ℤ
  planned_evaluation_episodes : ℕ
  selection : String
  cost_weight : ℚ
  language_model_weights_updated : Bool

def plan (settings : Settings) (tasks : List RepoTask) : Except Escape Configuration :=
  match validate_splits tasks with
  | .error escape => .error escape
  | .ok () =>
    if ¬ settings.Bounded then .error (.valueError "Invalid bounded study configuration")
    else
      let training := select_tasks (tasks.filter (·.split = train))
        settings.train_per_family.toNat
      let evaluation := select_tasks (tasks.filter (·.split ≠ train))
        settings.eval_per_family.toNat
      .ok {
        protocol := protocol settings.rate_limit_retries
        rate_limit_retries := settings.rate_limit_retries
        version := "0.2"
        seed := settings.seed
        task_count := tasks.length
        training_ids := training.map RepoTask.id
        evaluation_ids := evaluation.map RepoTask.id
        train_rollouts_per_task := settings.train_rollouts
        policies := Router.POLICIES
        maximum_model_calls := settings.max_steps
        maximum_decisions := settings.max_decisions
        study_cost_cap_usd := settings.max_cost_usd
        planned_training_episodes := training.length * settings.train_rollouts
        planned_evaluation_episodes := evaluation.length * Router.POLICIES.length
        selection :=
          "Lexicographic task IDs within every selected family, declared before inference"
        cost_weight := 5
        language_model_weights_updated := false }

/-- `by_id` -/
def by_id (tasks : List RepoTask) : Dict Text RepoTask :=
  tasks.foldl (fun known task => Dict.set known task.id task) ∅

/-! ## The provider under the cap of the study -/

/-- `CappedProvider` around a provider.  The ledgers are those that `spent()`
and `remaining()` read. -/
def capped (provider : CappedProvider) (inner : HostedProvider)
    (ledgers : List Request → Ledger × Ledger) : HostedProvider where
  estimate_reservation_usd := some fun earlier query =>
    match inner.estimate_reservation_usd with
    | some estimate => estimate earlier query
    | none => .error (.other .other)
  estimate_token_bound := some fun earlier query =>
    match inner.estimate_token_bound with
    | some estimate => estimate earlier query
    | none => .ok 0
  build_messages := some fun earlier query =>
    match inner.build_messages with
    | some build => build earlier query
    | none => .error (.other .other)
  generate := fun earlier request =>
    match inner.estimate_reservation_usd with
    | none => .escaped .other
    | some estimate =>
      match estimate earlier request.toQuery with
      | .error (.providerError message) => .failure (.bare .providerError message)
      | .error (.other escape) => .escaped escape
      | .ok expected =>
        let read := ledgers earlier
        if expected > provider.remaining (provider.spent read.1) read.2 +
            CappedProvider.tolerance then
          .failure (.bare .budgetExceeded
            "Per-study cap reached before reserving another model request")
        else inner.generate earlier request

/-- What an episode meets. -/
structure Behaviour where
  /-- `episode.id` -/
  ident : Text
  provider : HostedProvider
  ledgers : List Request → Ledger × Ledger
  evaluator : Evaluator
  sleepCancelled : ℕ → Bool

/-- What `json` raises on a value, with `allow_nan=False`. -/
inductive Unencoded where
  | valueError (message : String)
  | recursionError
deriving DecidableEq, Repr

def Unencoded.escape : Unencoded → Escape
  | .valueError message => .valueError message
  | .recursionError => .other

/-- What a study is given, and what it meets: the ledger at its start, and the
behaviour in an episode after the episodes before it. -/
structure Surroundings where
  ledger : Ledger
  /-- The output directory exists and is not empty. -/
  occupied : Bool
  behave : List Episode → Behaviour
  task_manifest_hash : Text
  /-- The first six and the first eight hexadecimal digits of the SHA-256. -/
  shortHash : Text → ℕ
  longHash : Text → ℕ
  /-- `random.Random(seed)`, as a source of positions and as a shuffle. -/
  rng : ℤ → List Observation → (rest : ℕ) → Fin (rest + 1)
  shuffle : ℤ → { order : List Policy // order.Perm Router.POLICIES }
  draws : ℤ → Draws
  fitDigest : List Router.Entry → String
  artifactDigest : Router.Fitted → Text
  floatText : ℚ → Text
  fingerprint : Files → Text
  validate_files : Files → Text → Except Sandbox.Rejection Unit
  arithmetic : Arithmetic
  /-- An event, and a result with its events, as the writer encodes them. -/
  encodeEvent : Event → Option Unencoded
  encodeResult : EpisodeResult → List Event → Option Unencoded

/-- The default `max_cost_usd` of an episode is accepted. -/
theorem defaultCost : (0 : ℚ) < 1 ∧ (1 : ℚ) ≤ 5 := by norm_num

/-- The tests of `RepoEpisode.__init__`, for the default `max_cost_usd`. -/
def episodeBounds (settings : Settings) : Except Escape Bounds :=
  if bounded : ((1 ≤ settings.max_steps.toNat ∧ settings.max_steps.toNat ≤ 6) ∧
      (1 ≤ settings.max_decisions.toNat ∧ settings.max_decisions.toNat ≤ 10)) ∧
      (0 ≤ settings.rate_limit_retries ∧ settings.rate_limit_retries.toNat ≤ 2) then
    .ok {
      max_steps := settings.max_steps.toNat
      max_decisions := settings.max_decisions.toNat
      max_cost_usd := 1
      rate_limit_retries := settings.rate_limit_retries.toNat
      steps := bounded.1.1
      decisions := bounded.1.2
      cost := defaultCost
      retries := bounded.2.2 }
  else .error (.valueError "Episode bounds exceeded")

/-- `episode_factory`, which is `RepoEpisode`. -/
def episode_factory (env : Surroundings) (bounded : CappedProvider) (behaviour : Behaviour)
    (bounds : Bounds) (task : RepoTask) (policy : Policy) (artifact : Option Router.Artifact)
    (seed : ℤ) : Config where
  harness := .repo
  task := task
  verification_cases := []
  policy := policy
  artifact := artifact
  controllers := ⟨none, none⟩
  bounds := bounds
  max_verifications := 0
  seed := seed
  provider := capped bounded behaviour.provider behaviour.ledgers
  evaluator := behaviour.evaluator
  sleepCancelled := behaviour.sleepCancelled
  floatText := env.floatText
  fingerprint := env.fingerprint
  validate_files := env.validate_files
  arithmetic := env.arithmetic

/-! ## The records -/

inductive Phase where
  | train
  | evaluation
deriving DecidableEq, Repr

/-- Why a study stops. -/
inductive Stop where
  | budgetExceeded (message : String)
  | escaped (escape : Escape)
deriving DecidableEq, Repr

inductive StudyStatus where
  | running
  | partial_
  | complete
deriving DecidableEq, Repr

/-- The manifest, without its times and the readings of the ledger. -/
structure Provenance where
  task_manifest_sha256 : Text
  configuration : Configuration
  study_cap_usd : ℚ
  status : StudyStatus
  training_completed : ℕ
  training_failures : ℕ
  controller_sha256 : Option Text
  controller_trained : Option Bool
  stop_reason : Option Stop
  training_transitions : Option ℕ

/-- A row of `expected`. -/
structure PlannedRun where
  task_id : Text
  policy : Policy
  seed : ℤ
deriving DecidableEq

/-- `coverage` -/
structure CoverageReport where
  planned : ℕ
  completed : ℕ
  missing : List PlannedRun
  training_planned : ℤ
  training_completed : ℕ
  evaluated_unique_tasks : ℕ
  catalog_tasks : ℕ
  summary_split : String

/-- The report, with its runs by their identifiers. -/
structure Benchmark where
  status : StudyStatus
  task_count : ℕ
  policies : List Policy
  summary : List Summary
  validation_summary : List Summary
  coverage : CoverageReport
  runs : List (Text × EpisodeResult)
  paired_differences : List PairedInterval
  provenance : Provenance

/-- An episode that has been recorded: its design, its identifier and its
result. -/
structure Recorded (δ : Type) where
  design : δ
  run_id : Text
  result : EpisodeResult

/-- What a study writes, in its order. -/
inductive Written where
  | manifest (provenance : Provenance)
  | plan (configuration : Configuration)
  | event (run_id : Text) (event : Event)
  | run (phase : Phase) (run_id : Text) (result : EpisodeResult)
  | transition (row : TrainingRow)
  | controller (fitted : Router.Fitted)
  | benchmark (benchmark : Benchmark)

/-- The variables of `run_study` that its loops assign, and what is written. -/
structure Progress where
  seen : List Episode
  written : List Written
  training : List TrainingRow
  training_completed : ℕ
  training_failures : ℕ

namespace Progress

def write (records : List Written) (p : Progress) : Progress :=
  { p with written := p.written ++ records }

/-- An episode has run; the callback has written its events. -/
def leave (run_id : Text) (ep : Episode) (p : Progress) : Progress :=
  { p with
    seen := p.seen ++ [ep]
    written := p.written ++ ep.events.map (Written.event run_id) }

def count (p : Progress) : Progress := { p with training_completed := p.training_completed + 1 }

def fail (p : Progress) : Progress := { p with training_failures := p.training_failures + 1 }

def collect (rows : List TrainingRow) (p : Progress) : Progress :=
  { p with training := p.training ++ rows }.write (rows.map Written.transition)

end Progress

/-! ## Training -/

/-- A row of the training data: the last transition of an episode is terminal. -/
def trainingRow (arithmetic : Arithmetic) (solved : Bool) (cost_weight : ℚ) (terminal : Bool)
    (transition : Transition) : TrainingRow where
  split := .str transition.split
  task_id := .str transition.task_id
  state := transition.state
  action := transition.action
  reward := .float (.finite (arithmetic.round ((if terminal then (if solved then 1 else 0) else 0) -
    arithmetic.round (cost_weight * transition.cost_usd))))
  next_state := transition.next_state
  terminal := .bool terminal
  cost_usd := .float (.finite transition.cost_usd)
  behavior_action_probability := .null

/-- The rows of one episode. -/
def trainingRows (arithmetic : Arithmetic) (solved : Bool) (cost_weight : ℚ) :
    List Transition → List TrainingRow
  | [] => []
  | [transition] => [trainingRow arithmetic solved cost_weight true transition]
  | transition :: transitions =>
    trainingRow arithmetic solved cost_weight false transition ::
      trainingRows arithmetic solved cost_weight transitions

/-! ## The episodes -/

namespace Surroundings

variable (env : Surroundings)

/-- The events before the first that cannot be encoded. -/
def unencoded : List Event → Option (List Event × Unencoded)
  | [] => none
  | event :: events =>
    match env.encodeEvent event with
    | some refusal => some ([], refusal)
    | none => (unencoded events).map fun found => (event :: found.1, found.2)

/-- An episode with the callback of the study and then `Writer.run`.  What
cannot be encoded ends it, with the events that have been appended; nothing
comes after it in the study. -/
def write (run : Outcome EpisodeResult) : Outcome EpisodeResult :=
  match env.unencoded run.episode.events with
  | some (events, refusal) => .raised refusal.escape { run.episode with events := events }
  | none =>
    match run with
    | .raised escape left => .raised escape left
    | .ok result done =>
      match env.encodeResult result done.events with
      | some refusal => .raised refusal.escape done
      | none => .ok result done

end Surroundings

section Attempts

variable (env : Surroundings) (settings : Settings) (bounded : CappedProvider)
  (tasks : List RepoTask)

/-- `stable_seed` -/
def stableSeed (design : Text × ℕ) : ℤ :=
  settings.seed + design.2 * 10000 + env.shortHash design.1

/-- The body of the training loop. -/
def trainAttempt (configuration : Configuration) (design : Text × ℕ) (p : Progress) :
    Upshot (Recorded (Text × ℕ)) Stop Progress :=
  match Dict.get? (by_id tasks) design.1, episodeBounds settings with
  | none, _ => .lost (.escaped .other) p
  | some _, .error escape => .lost (.escaped escape) p
  | some task, .ok bounds =>
    let behaviour := env.behave p.seen
    let seed := stableSeed env settings design
    let cfg := episode_factory env bounded behaviour bounds task .exploration none seed
    match env.write (run_episode cfg (.custom (explore design.2 (env.rng seed)))) with
    | .raised escape left => .lost (.escaped escape) (p.leave behaviour.ident left)
    | .ok result done =>
      let record : Recorded (Text × ℕ) := ⟨design, behaviour.ident, result⟩
      let p := ((p.leave behaviour.ident done).write
        [.run .train behaviour.ident result]).count
      if result.status = .completed then
        .recorded record
          (p.collect (trainingRows env.arithmetic result.solved configuration.cost_weight
            done.transitions))
      else if result.status = .budget_exhausted then
        .last record (.budgetExceeded "Training reached the bounded allowance") p.fail
      else .recorded record p.fail

/-- The body of the evaluation loop. -/
def evaluateAttempt (artifact : Router.Artifact) (design : Text × Policy) (p : Progress) :
    Upshot (Recorded (Text × Policy)) Stop Progress :=
  match Dict.get? (by_id tasks) design.1, episodeBounds settings with
  | none, _ => .lost (.escaped .other) p
  | some _, .error escape => .lost (.escaped escape) p
  | some task, .ok bounds =>
    let behaviour := env.behave p.seen
    let cfg := episode_factory env bounded behaviour bounds task design.2 (some artifact)
      settings.seed
    match env.write (run_episode cfg .policy) with
    | .raised escape left => .lost (.escaped escape) (p.leave behaviour.ident left)
    | .ok result done =>
      let record : Recorded (Text × Policy) := ⟨design, behaviour.ident, result⟩
      let p := (p.leave behaviour.ident done).write [.run .evaluation behaviour.ident result]
      if result.status = .budget_exhausted then
        .last record (.budgetExceeded "Evaluation reached the bounded allowance") p
      else .recorded record p

end Attempts

/-- The training episodes in their order. -/
def trainingDesigns (configuration : Configuration) : List (Text × ℕ) :=
  configuration.training_ids.flatMap fun task_id =>
    (List.range configuration.train_rollouts_per_task.toNat).map (Prod.mk task_id)

/-- The evaluation episodes in their order. -/
def evaluationDesigns (env : Surroundings) (configuration : Configuration) :
    List (Text × Policy) :=
  configuration.evaluation_ids.flatMap fun task_id =>
    (env.shuffle (configuration.seed + env.longHash task_id)).1.map (Prod.mk task_id)

/-! ## The study -/

def expected (configuration : Configuration) : List PlannedRun :=
  configuration.evaluation_ids.flatMap fun task_id =>
    Router.POLICIES.map fun policy => ⟨task_id, policy, configuration.seed⟩

/-- The cell of a result. -/
def resultCell (result : EpisodeResult) : PlannedRun := ⟨result.task_id, result.policy, result.seed⟩

/-- How a call of `run_study` ends, with what it has written. -/
inductive Studied where
  /-- Refused before anything is written. -/
  | invalid (escape : Escape)
  | noAllowance (error : StoreError)
  | fileExists
  | cancelled (written : List Written)
  /-- The report cannot be made. -/
  | unreported (escape : Escape) (written : List Written)
  | finished (benchmark : Benchmark) (written : List Written)

section Runs

variable (env : Surroundings) (settings : Settings) (tasks : List RepoTask)

/-- The manifest while the study runs. -/
def openManifest (bounded : CappedProvider) (configuration : Configuration) : Provenance where
  task_manifest_sha256 := env.task_manifest_hash
  configuration := configuration
  study_cap_usd := bounded.cap_usd
  status := .running
  training_completed := 0
  training_failures := 0
  controller_sha256 := none
  controller_trained := none
  stop_reason := none
  training_transitions := none

/-- The manifest when the controller is frozen. -/
def frozenManifest (bounded : CappedProvider) (configuration : Configuration) (p : Progress)
    (fitted : Router.Fitted) : Provenance :=
  { openManifest env bounded configuration with
    training_completed := p.training_completed
    training_failures := p.training_failures
    controller_sha256 := some (env.artifactDigest fitted)
    controller_trained := some fitted.artifact.trained }

/-- The runs of a split. -/
def runsIn (split : Text) (runs : List (Text × EpisodeResult)) : List EpisodeResult :=
  (runs.map Prod.snd).filter (·.split = split)

/-- `test_n` and `val_n` -/
def plannedIn (configuration : Configuration) (split : Text) : ℕ :=
  configuration.evaluation_ids.countP fun ident =>
    (Dict.get? (by_id tasks) ident).map RepoTask.split = some split

/-- The last manifest. -/
def lastManifest (bounded : CappedProvider) (configuration : Configuration)
    (fitted : Option Router.Fitted) (status : StudyStatus) (stop : Option Stop) (p : Progress) :
    Provenance :=
  { openManifest env bounded configuration with
    status := status
    training_completed := p.training_completed
    training_failures := p.training_failures
    controller_sha256 := fitted.map env.artifactDigest
    controller_trained := fitted.map fun fitted => fitted.artifact.trained
    stop_reason := stop
    training_transitions := some p.training.length }

/-- The rows of the plan that have no run. -/
def missingRuns (configuration : Configuration) (runs : List (Text × EpisodeResult)) :
    List PlannedRun :=
  missingRows id (expected configuration) (runs.map fun run => resultCell run.2)

def studyStatus (missing : List PlannedRun) (stop : Option Stop) : StudyStatus :=
  if missing ≠ [] ∨ stop.isSome then .partial_ else .complete

/-- The end of `run_study`, which writes the report. -/
def conclude (bounded : CappedProvider) (configuration : Configuration)
    (fitted : Option Router.Fitted) (runs : List (Text × EpisodeResult)) (stop : Option Stop)
    (p : Progress) : Studied :=
  let missing := missingRuns configuration runs
  let status := studyStatus missing stop
  let provenance := lastManifest env bounded configuration fitted status stop p
  match summarize (runsIn test runs) (plannedIn tasks configuration test),
      summarize (runsIn validation runs) (plannedIn tasks configuration validation) with
  | .error escape, _ => .unreported escape p.written
  | .ok _, .error escape => .unreported escape p.written
  | .ok summary, .ok validation_summary =>
    let benchmark : Benchmark := {
      status := status
      task_count := tasks.length
      policies := Router.POLICIES
      summary := summary
      validation_summary := validation_summary
      coverage := {
        planned := (expected configuration).length
        completed := runs.length
        missing := missing
        training_planned := configuration.planned_training_episodes
        training_completed := p.training_completed
        evaluated_unique_tasks := (runs.map fun run => run.2.task_id).dedup.length
        catalog_tasks := tasks.length
        summary_split := "test" }
      runs := runs
      paired_differences := paired_intervals (env.draws configuration.seed) (runsIn test runs)
      provenance := provenance }
    .finished benchmark (p.written ++ [.benchmark benchmark, .manifest provenance])

/-- A cancellation leaves the study; every other reason is reported. -/
def concludeStop (bounded : CappedProvider) (configuration : Configuration)
    (fitted : Option Router.Fitted) (runs : List (Text × EpisodeResult)) (stop : Option Stop)
    (p : Progress) : Studied :=
  if stop = some (.escaped .cancelled) then .cancelled p.written
  else conclude env tasks bounded configuration fitted runs stop p

/-- The study after its training. -/
def evaluate (bounded : CappedProvider) (configuration : Configuration) (p : Progress) :
    Studied :=
  match Router.fit_q env.fitDigest p.training (9 / 10) 100 12 with
  | .error escape => concludeStop env tasks bounded configuration none [] (some (.escaped escape)) p
  | .ok fitted =>
    let frozen := p.write
      [.controller fitted, .manifest (frozenManifest env bounded configuration p fitted)]
    let evaluated := campaign (evaluateAttempt env settings bounded tasks fitted.artifact)
      (evaluationDesigns env configuration) frozen
    concludeStop env tasks bounded configuration (some fitted)
      (evaluated.records.map fun record => (record.run_id, record.result)) evaluated.reason
      evaluated.state

/-- The study before its first episode. -/
def opened (bounded : CappedProvider) (configuration : Configuration) : Progress :=
  ⟨[], [.manifest (openManifest env bounded configuration), .plan configuration], [], 0, 0⟩

def run_study : Studied :=
  match plan settings tasks with
  | .error escape => .invalid escape
  | .ok configuration =>
    match CappedProvider.init env.ledger settings.max_cost_usd with
    | .error error => .noAllowance error
    | .ok bounded =>
      if env.occupied then .fileExists
      else
        let trained := campaign (trainAttempt env settings bounded tasks configuration)
          (trainingDesigns configuration) (opened env bounded configuration)
        match trained.reason with
        | some stop =>
          concludeStop env tasks bounded configuration none [] (some stop) trained.state
        | none => evaluate env settings tasks bounded configuration trained.state

end Runs

/-- A test of a study that has to finish. -/
def Studied.test (studied : Studied) (accepts : Benchmark → List Written → Bool) : Bool :=
  match studied with
  | .finished benchmark written => accepts benchmark written
  | _ => false

theorem finished_of_test {studied : Studied} {accepts : Benchmark → List Written → Bool}
    (passed : studied.test accepts = true) :
    ∃ benchmark written, studied = .finished benchmark written ∧
      accepts benchmark written = true := by
  cases studied with
  | finished benchmark written => exact ⟨benchmark, written, rfl, passed⟩
  | _ => cases passed

/-! ## A small study

Three small tasks, one of each split, and an evaluator that no candidate passes.
-/

def smallTaskOf (id split : String) : RepoTask :=
  { smallTask with
    id := Text.ofString id
    family := Text.ofString id
    split := Text.ofString split }

def smallTasks : List RepoTask :=
  [smallTaskOf "a" "train", smallTaskOf "b" "validation", smallTaskOf "c" "test"]

def smallBehaviour : Behaviour where
  ident := []
  provider := { smallProvider with build_messages := some fun _ _ => .ok .null }
  ledgers := fun _ => (Database.empty.ledger, Database.empty.ledger)
  evaluator := fun _ _ => oneCase false
  sleepCancelled := fun _ => false

def smallSurroundings : Surroundings where
  ledger := Database.empty.ledger
  occupied := false
  behave := fun _ => smallBehaviour
  task_manifest_hash := []
  shortHash := fun _ => 0
  longHash := fun _ => 0
  rng := fun _ _ _ => 0
  shuffle := fun _ => ⟨Router.POLICIES.reverse, List.reverse_perm _⟩
  draws := fun _ _ _ => 0
  fitDigest := fun _ => ""
  artifactDigest := fun _ => []
  floatText := fun _ => []
  fingerprint := fun files => (files.rows.map Prod.snd).flatten
  validate_files := fun _ _ => .ok ()
  arithmetic := .rational
  encodeEvent := fun _ => none
  encodeResult := fun _ _ => none

def smallSettings : Settings := ⟨17, 1, 1, 1, 2, 2, 1, 0⟩

end Study

end ForgeRL
