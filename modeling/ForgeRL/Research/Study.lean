import ForgeRL.Research.Orchestrator
import Mathlib.Data.Rat.Defs
import Mathlib.Data.List.Perm.Basic

namespace ForgeRL.Research

open Library

/-!
# The study of the first pilot

`run_research` collects a tree of branches on every training task, fits a
controller to its transitions and evaluates four policies on fresh episodes.
The records of the evidence directory are written as it goes on, and so are its
files, of which the contents of the last manifest are modelled.
-/

def EVALUATION_POLICIES : List Policy := [.fixed, .deliberate, .heuristic, .adaptive]

def PATCH_ACTIONS : List Action := [.fast, .deliberate]

/-! ## The splits -/

/-- The families with their splits and the identifiers that have been met. -/
structure Seen where
  families : List (String × String)
  ids : List String

def validateTask (seen : Seen) (task : Task) : Except Failure Seen :=
  if task.split ∉ ["train", "validation", "test"] then
    .error (.valueError ("Unsupported split for " ++ task.id ++ ": " ++ task.split))
  else if task.id ∈ seen.ids then .error (.valueError ("Duplicate task ID: " ++ task.id))
  else
    match seen.families.lookup task.family with
    | none => .ok ⟨(task.family, task.split) :: seen.families, task.id :: seen.ids⟩
    | some split =>
      if split ≠ task.split then
        .error (.valueError ("Task family crosses splits: " ++ task.family))
      else .ok { seen with ids := task.id :: seen.ids }

def validateTasks : Seen → List Task → Except Failure Seen
  | seen, [] => .ok seen
  | seen, task :: tasks =>
    match validateTask seen task with
    | .error failure => .error failure
    | .ok later => validateTasks later tasks

/-- The tasks of a split, in their order. -/
def ofSplit (split : String) (tasks : List Task) : List Task :=
  tasks.filter fun task => task.split = split

def validate_splits (tasks : List Task) : Except Failure (List (String × List String)) :=
  match validateTasks ⟨[], []⟩ tasks with
  | .error failure => .error failure
  | .ok _ =>
    if ["train", "validation", "test"].any fun split => (ofSplit split tasks).isEmpty then
      .error (.valueError "Training, validation and test tasks are all required")
    else
      .ok (["train", "validation", "test"].map fun split =>
        (split, (ofSplit split tasks).map Task.id))

/-! ## Results -/

/-- `_public_pass` -/
def PublicPass (state : Observation) : Prop :=
  0 < state.public_total ∧ state.public_passed = state.public_total

instance (state : Observation) : Decidable (PublicPass state) :=
  inferInstanceAs (Decidable (_ ∧ _))

/-- `_terminal_status`; no episode has the status `"cancelled"`. -/
def TerminalStatus (result : EpisodeResult) : Prop :=
  result.status = .failed ∨ result.status = .budget_exhausted

instance (result : EpisodeResult) : Decidable (TerminalStatus result) :=
  inferInstanceAs (Decidable (_ ∨ _))

def Status.name : Status → String
  | running => "running"
  | completed => "completed"
  | failed => "failed"
  | budget_exhausted => "budget_exhausted"

/-- `str(result.get("error") or result.get("status"))` -/
def failureText (result : EpisodeResult) : String :=
  match result.error with
  | none => result.status.name
  | some error => if error = "" then result.status.name else error

/-- The reason that the handler of an exception records. -/
def exceptionReason (failure : Failure) : String :=
  match failure with
  | .budgetExceeded _ => "budget_exhausted"
  | other => other.kind

/-- The result of an episode whose step has raised. -/
def exceptionResult (failure : Failure) (ep : Episode) : EpisodeResult :=
  { ep.result with
    status := if exceptionReason failure = "budget_exhausted" then .budget_exhausted else .failed
    error := some failure.message }

/-! ## The tree of a training task -/

/-- The variables that the branches of a tree share, and the log. -/
structure Collection where
  transitions : List Transition
  traces : List Trace
  isPartial : Bool
  reason : Option String
  requests : ℕ
  billed_cost : ℕ
  log : List Occurrence

namespace Collection

def empty (log : List Occurrence) : Collection := ⟨[], [], false, none, 0, 0, log⟩

def leave (log : List Occurrence) (c : Collection) : Collection := { c with log := log }

def fail (reason : String) (c : Collection) : Collection :=
  { c with
    isPartial := true
    reason := some reason }

def count (c : Collection) : Collection := { c with requests := c.requests + 1 }

def bill (cost : ℕ) (c : Collection) : Collection := { c with billed_cost := c.billed_cost + cost }

end Collection

/-- The arguments of `collect_task_tree` that its branches read. -/
structure Tree where
  env : Environment
  task : Task
  cost_weight : ℚ

/-- Where a branch is taken: the state and the route before it, and its action. -/
structure Branch where
  state : Observation
  route : List Action
  action : Action

namespace Tree

variable (tree : Tree)

def transition (branch : Branch) (reward : ℚ) (next_state : Observation) (terminal : Bool) :
    Transition :=
  ⟨branch.state, branch.action, reward, next_state, terminal, tree.task.id, "train", branch.route⟩

def save_trace (kind : String) (route : List Action) (run : EpisodeResult) (c : Collection) :
    Attempt Failure Collection :=
  let trace : Trace := ⟨kind, tree.task.id, "train", route, run⟩
  let c := { c with traces := c.traces ++ [trace] }
  (tree.env.record (.trace trace) c.log).within c.leave

def save_transition (transition : Transition) (c : Collection) : Attempt Failure Collection :=
  let c := { c with transitions := c.transitions ++ [transition] }
  (tree.env.record (.transition transition) c.log).within c.leave

/-- The handler of an exception of `branch.step`. -/
def failBranch (route : List Action) (before : ℕ) (failure : Failure) (left : Session)
    (c : Collection) : Attempt Failure Collection :=
  let result := exceptionResult failure left.episode
  tree.save_trace "training-error" route result
    (((c.leave left.log).fail (exceptionReason failure)).bill (result.cost_usd - before))

/-- A terminal branch is graded. -/
def closeBranch (branch : Branch) (reward : ℚ) (stepped : Session) (c : Collection) :
    Attempt Failure Collection :=
  match Episode.finish tree.env stepped with
  | .thrown failure left => .thrown failure (c.leave left.log)
  | .done graded =>
    let result := graded.episode.result
    (tree.save_trace "training-terminal" (branch.route ++ [branch.action]) result
      (c.leave graded.log)).andThen fun c =>
        if TerminalStatus result then .done (c.fail (failureText result))
        else
          tree.save_transition (tree.transition branch
            (reward + if result.solved then 1 else 0) stepped.episode.observation true) c

/-- A branch whose step has returned. -/
def followBranch (last : Prop) [Decidable last]
    (descend : Episode → List Action → Collection → Attempt Failure Collection) (branch : Branch)
    (before : ℕ) (stepped : Session) (c : Collection) : Attempt Failure Collection :=
  let current := stepped.episode.result
  let route := branch.route ++ [branch.action]
  let incremental_cost := current.cost_usd - before
  let c := (c.leave stepped.log).bill incremental_cost
  let next_state := stepped.episode.observation
  let reward := -tree.cost_weight * (incremental_cost / 1000000)
  if TerminalStatus current then
    tree.save_trace "training-error" route current
      (c.fail (if current.status = .budget_exhausted then "budget_exhausted"
        else failureText current))
  else if last ∨ PublicPass next_state ∨ stepped.episode.terminal then
    tree.closeBranch branch reward stepped c
  else
    ((tree.save_trace "training-transition" route current c).andThen
      (tree.save_transition (tree.transition branch reward next_state false))).andThen
        (descend stepped.episode route)

/-- One action in the loop of `visit`. -/
def explore (last : Prop) [Decidable last]
    (descend : Episode → List Action → Collection → Attempt Failure Collection) (episode : Episode)
    (branch : Branch) (c : Collection) : Attempt Failure Collection :=
  match Episode.clone tree.env ⟨episode, c.log⟩ with
  | .thrown failure left => .thrown failure (c.leave left.log)
  | .done cloned =>
    let before := cloned.episode.result.cost_usd
    let c := (c.leave cloned.log).count
    match Episode.step tree.env branch.action cloned with
    | .thrown .cancelled left => .thrown .cancelled (c.leave left.log)
    | .thrown failure left =>
      tree.failBranch (branch.route ++ [branch.action]) before failure left c
    | .done stepped => tree.followBranch last descend branch before stepped c

/-- The loop of `visit`.  After a refused request it is left by a `break`; the
test at its head leaves it as well. -/
def branches (last : Prop) [Decidable last]
    (descend : Episode → List Action → Collection → Attempt Failure Collection) (episode : Episode)
    (route : List Action) : List Action → Collection → Attempt Failure Collection
  | [], c => .done c
  | action :: actions, c =>
    if c.isPartial ∧ c.reason = some "budget_exhausted" then .done c
    else
      (tree.explore last descend episode ⟨episode.observation, route, action⟩ c).andThen
        (branches last descend episode route actions)

/-- `visit` up to its loop: a clone is stopped and graded. -/
def audit (episode : Episode) (route : List Action)
    (deeper : Collection → Attempt Failure Collection) (c : Collection) :
    Attempt Failure Collection :=
  let state := episode.observation
  match (Episode.clone tree.env ⟨episode, c.log⟩).andThen (Episode.finish tree.env) with
  | .thrown failure left => .thrown failure (c.leave left.log)
  | .done stopped =>
    let stop_result := stopped.episode.result
    (tree.save_trace "training-stop-audit" (route ++ [.stop]) stop_result
      (c.leave stopped.log)).andThen fun c =>
        if TerminalStatus stop_result then .done (c.fail (failureText stop_result))
        else
          (tree.save_transition (tree.transition ⟨state, route, .stop⟩
            (if stop_result.solved then 1 else 0) state true) c).andThen fun c =>
              if PublicPass state ∨ episode.terminal then .done c else deeper c

/-- `visit`, by recursion on `max_steps - len(route)`. -/
def visit : ℕ → Episode → List Action → Collection → Attempt Failure Collection
  | 0, episode, route, c => tree.audit episode route .done c
  | remaining + 1, episode, route, c =>
    tree.audit episode route
      (tree.branches (remaining = 0) (visit remaining) episode route PATCH_ACTIONS) c

end Tree

/-- The configuration of a study, with the functions that it is given. -/
structure Study where
  tasks : List Task
  env : Environment
  seed : ℤ
  max_steps : ℤ
  cost_weight : ℚ
  /-- The artifact, and the diagnostics that some fits return beside it. -/
  fit_controller : List Transition → ℤ → Except Failure (Json × Option Json)
  selector : Policy → Observation → JsonObject → Except Failure String
  /-- `random.Random(stable_seed).shuffle`, by the seed and the task. -/
  shuffle : ℤ → String → { order : List Policy // order.Perm EVALUATION_POLICIES }

namespace Study

variable (study : Study)

def collect_task_tree (task : Task) (log : List Occurrence) : Attempt Failure Collection :=
  if task.split ≠ "train" then
    .thrown (.valueError "Controller transition collection is training-only") (.empty log)
  else if study.max_steps < 1 ∨ study.max_steps > 3 ∨ study.cost_weight < 0 then
    .thrown (.valueError "Invalid bounded research configuration") (.empty log)
  else
    match Episode.start study.env
        ⟨Episode.new task .research_tree study.max_steps study.seed, log⟩ with
    | .thrown failure left => .thrown failure (.empty left.log)
    | .done started =>
      Tree.visit ⟨study.env, task, study.cost_weight⟩ study.max_steps.toNat started.episode []
        (.empty started.log)

/-! ## Prospective evaluation -/

/-- The actions that `evaluate_policy` passes on to a step. -/
def patchAction? : String → Option Action
  | "fast" => some .fast
  | "deliberate" => some .deliberate
  | "replan" => some .replan
  | _ => none

def chooseAction (policy : Policy) (artifact : JsonObject) (state : Observation) :
    Except Failure String :=
  if policy = .deliberate then .ok "deliberate" else study.selector policy state artifact

/-- The loop of `evaluate_policy`. -/
def evaluationSteps (policy : Policy) (artifact : JsonObject) :
    ℕ → Session → Attempt Failure Session
  | 0, session => .done session
  | rounds + 1, session =>
    let state := session.episode.observation
    if PublicPass state ∨ session.episode.terminal then .done session
    else
      match study.chooseAction policy artifact state with
      | .error failure => .thrown failure session
      | .ok name =>
        if name = "stop" then Episode.step study.env .stop session
        else
          match patchAction? name with
          | none => .thrown (.valueError "Controller returned an unsupported action") session
          | some action =>
            (Episode.step study.env action session).andThen fun stepped =>
              if TerminalStatus stepped.episode.result then .done stepped
              else evaluationSteps policy artifact rounds stepped

/-- The body of the `try` of `evaluate_policy`. -/
def evaluationBody (policy : Policy) (artifact : JsonObject) (session : Session) :
    Attempt Failure Session :=
  ((Episode.start study.env session).andThen
    (study.evaluationSteps policy artifact study.max_steps.toNat)).andThen
      (Episode.finish study.env)

def evaluate_policy (task : Task) (policy : Policy) (artifact : JsonObject)
    (log : List Occurrence) : Except Failure EpisodeResult × List Occurrence :=
  let fresh : Session := ⟨Episode.new task policy study.max_steps study.seed, log⟩
  match study.evaluationBody policy artifact fresh with
  | .done ended => (.ok ended.episode.result, ended.log)
  | .thrown .cancelled left => (.error .cancelled, left.log)
  | .thrown failure left => (.ok (exceptionResult failure left.episode), left.log)

/-! ## `run_research` -/

/-- The summary of a task whose tree has been collected. -/
structure TaskSummary where
  task_id : String
  isPartial : Bool
  reason : Option String
  requests_attempted : ℕ
  collection_cost_usd : ℕ

/-- The local variables of `run_research`, and the log. -/
structure Evidence where
  transitions : List Transition
  training_summary : List TaskSummary
  runs : List EpisodeResult
  budget_exhausted : Bool
  status : String
  reason : Option String
  log : List Occurrence

/-- The fields of the manifest that are written at the end. -/
structure Manifest where
  status : String
  reason : Option String
  training_tasks_completed : ℕ
  training_partial : Bool
  transition_count : ℕ
  collection_cost_usd : ℕ
  evaluation_cost_usd : ℕ
deriving DecidableEq

namespace Evidence

def initial : Evidence := ⟨[], [], [], false, "running", none, []⟩

def collected (task : Task) (c : Collection) (evidence : Evidence) : Evidence :=
  { evidence with
    transitions := evidence.transitions ++ c.transitions
    training_summary := evidence.training_summary ++
      [⟨task.id, c.isPartial, c.reason, c.requests, c.billed_cost⟩]
    log := c.log }

def evaluated (result : EpisodeResult) (log : List Occurrence) (evidence : Evidence) : Evidence :=
  { evidence with
    runs := evidence.runs ++ [result]
    log := log }

def collection_cost_usd (evidence : Evidence) : ℕ :=
  (evidence.training_summary.map TaskSummary.collection_cost_usd).sum

def evaluation_cost_usd (evidence : Evidence) : ℕ :=
  (evidence.runs.map EpisodeResult.cost_usd).sum

/-- What is written after the `try`. -/
def manifest (evidence : Evidence) : Manifest where
  status := if evidence.training_summary.any TaskSummary.isPartial then "partial"
    else evidence.status
  reason := evidence.reason
  training_tasks_completed := evidence.training_summary.length
  training_partial := evidence.training_summary.any TaskSummary.isPartial
  transition_count := evidence.transitions.length
  collection_cost_usd := evidence.collection_cost_usd
  evaluation_cost_usd := evidence.evaluation_cost_usd

end Evidence

/-- A record is written. -/
def record (record : Record) (evidence : Evidence) : Attempt Failure Evidence :=
  (study.env.record record evidence.log).within fun log => { evidence with log := log }

/-- The loop over the training tasks. -/
def collectAll : List Task → Evidence → Attempt Failure Evidence
  | [], evidence => .done evidence
  | task :: tasks, evidence =>
    match study.collect_task_tree task evidence.log with
    | .thrown failure left => .thrown failure { evidence with log := left.log }
    | .done c =>
      let evidence := evidence.collected task c
      if c.reason = some "budget_exhausted" then .done { evidence with budget_exhausted := true }
      else collectAll tasks evidence

/-- The loops over the evaluated tasks and their policies: an exhausted budget
leaves all of them. -/
def evaluateAll (artifact : JsonObject) :
    List (Task × Policy) → Evidence → Attempt Failure Evidence
  | [], evidence => .done { evidence with status := "complete" }
  | (task, policy) :: rest, evidence =>
    match study.evaluate_policy task policy artifact evidence.log with
    | (.error failure, log) => .thrown failure { evidence with log := log }
    | (.ok result, log) =>
      let evidence := evidence.evaluated result log
      match study.record (.evaluation result) evidence with
      | .thrown failure left => .thrown failure left
      | .done evidence =>
        if result.status = .budget_exhausted then
          .done { evidence with
            budget_exhausted := true
            status := "partial" }
        else evaluateAll artifact rest evidence

/-- The evaluations of a study, in their order. -/
def planned : List (Task × Policy) :=
  (ofSplit "validation" study.tasks ++ ofSplit "test" study.tasks).flatMap fun task =>
    (study.shuffle study.seed task.id).val.map fun policy => (task, policy)

/-- What follows the fit: an artifact that is an object and says that it is
trained is frozen and evaluated. -/
def evaluateFitted (fitted : Json × Option Json) (evidence : Evidence) :
    Attempt Failure Evidence :=
  match fitted.1 with
  | .obj artifact =>
    (study.record (.file "controller.json") evidence).andThen fun evidence =>
      match Json.field? artifact "trained" with
      | some (.bool true) =>
        (if fitted.2.isSome then study.record (.file "training-diagnostics.json") evidence
          else .done evidence).andThen (study.evaluateAll artifact study.planned)
      | _ => .thrown (.valueError ("Insufficient evidence to fit a trained controller; " ++
          "adaptive evaluation was not run")) evidence
  | _ => .thrown (.typeError "Controller fit must return a JSON artifact") evidence

def fitAndEvaluate (evidence : Evidence) : Attempt Failure Evidence :=
  if evidence.transitions.isEmpty ∨ evidence.budget_exhausted then
    .done { evidence with
      status := "partial"
      reason := some (if evidence.budget_exhausted then "budget_exhausted"
        else "no_valid_training_transitions") }
  else
    match study.fit_controller evidence.transitions study.seed with
    | .error failure => .thrown failure evidence
    | .ok fitted => study.evaluateFitted fitted evidence

/-- The body of the `try` of `run_research`. -/
def body (evidence : Evidence) : Attempt Failure Evidence :=
  (study.collectAll (ofSplit "train" study.tasks) evidence).andThen study.fitAndEvaluate

/-- How `run_research` ends: with its last manifest, or by an exception that it
does not catch, in which case the manifest of its beginning stays. -/
inductive Ending where
  | written (manifest : Manifest) (log : List Occurrence)
  | raised (failure : Failure) (log : List Occurrence)

/-- The files that are written after the `try`. -/
def publish (evidence : Evidence) : Ending :=
  match ((study.record (.file "training-summary.json") evidence).andThen
      (study.record (.file "benchmark.json"))).andThen (study.record (.file "manifest.json")) with
  | .thrown failure left => .raised failure left.log
  | .done left => .written evidence.manifest left.log

def run_research : Ending :=
  match validate_splits study.tasks with
  | .error failure => .raised failure []
  | .ok _ =>
    -- the directory is made, and the manifest of the beginning is written
    match study.record (.file "manifest.json") .initial with
    | .thrown failure left => .raised failure left.log
    | .done opened =>
      match study.body opened with
      | .done evidence => study.publish evidence
      | .thrown .cancelled left => .raised .cancelled left.log
      | .thrown failure left =>
        study.publish { left with
          status := "partial"
          reason := some (failure.kind ++ ": " ++ failure.message) }

end Study

end ForgeRL.Research
