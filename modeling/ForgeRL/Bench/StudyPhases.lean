import ForgeRL.Bench.StudyCoverage
import ForgeRL.Bench.Expenses

namespace ForgeRL

open Library

/-!
# The phases of a study

What a study has written, whether it has finished or was cancelled, is in two
parts.  Before the controller there are training runs on training tasks and
their transitions; the controller is fitted to exactly these transitions; and
after it there are evaluations with it, on tasks that share no family with a
training task, and nothing that could change it.
-/

namespace Study

/-- A row that was recorded from a transition of a training episode. -/
structure Sound (tasks : List RepoTask) (row : TrainingRow) : Prop where
  task : ∃ task ∈ tasks, task.split = train ∧ row.task_id = .str task.id
  split : row.split = .str train
  legal : row.action ∈ Router.allowed_actions row.state
  plain : row.state.verification = none ∧ row.next_state.verification = none
  marked : ∃ terminal, row.terminal = .bool terminal
  reward : ∃ reward, row.reward = .float (.finite reward)
  cost_usd : ∃ cost, row.cost_usd = .float (.finite cost)
  propensity : row.behavior_action_probability = .null

section Entries

variable (env : Surroundings) (settings : Settings) (tasks : List RepoTask)

/-- A run is that of a training episode of the study, on a training task. -/
structure Practised (result : EpisodeResult) : Prop where
  run : ∃ bounded design earlier task cfg done,
    CappedProvider.init env.ledger settings.max_cost_usd = .ok bounded ∧
    Trained env settings bounded tasks design earlier task cfg result done ∧
    task ∈ tasks ∧ task.split = train ∧ result.task_id = task.id

/-- A run is that of an evaluation of the study with an artifact, on a task of
another split. -/
structure Ran (artifact : Router.Artifact) (result : EpisodeResult) : Prop where
  run : ∃ bounded design earlier task cfg done,
    CappedProvider.init env.ledger settings.max_cost_usd = .ok bounded ∧
    Evaluated env settings bounded tasks artifact design earlier task cfg result done ∧
    task ∈ tasks ∧ task.split ≠ train ∧ result.task_id = task.id

/-- A completed training run has this row. -/
structure Yields (result : EpisodeResult) (row : TrainingRow) : Prop where
  completed : result.status = .completed
  run : ∃ bounded design earlier task cfg done,
    CappedProvider.init env.ledger settings.max_cost_usd = .ok bounded ∧
    Trained env settings bounded tasks design earlier task cfg result done ∧
    row ∈ trainingRows env.arithmetic result.solved 5 done.transitions

/-- An entry of the training phase. -/
inductive TrainingEntry : Written → Prop where
  | manifest (provenance : Provenance) : TrainingEntry (.manifest provenance)
  | benchmark (benchmark : Benchmark) : TrainingEntry (.benchmark benchmark)
  | plan (configuration : Configuration) : TrainingEntry (.plan configuration)
  | event (run_id : Text) (event : Event) : TrainingEntry (.event run_id event)
  | run (run_id : Text) (result : EpisodeResult) (practised : Practised env settings tasks result) :
      TrainingEntry (.run .train run_id result)
  | transition (row : TrainingRow) (sound : Sound tasks row) : TrainingEntry (.transition row)

/-- An entry of the evaluation phase. -/
inductive EvaluationEntry (artifact : Router.Artifact) : Written → Prop where
  | manifest (provenance : Provenance) : EvaluationEntry artifact (.manifest provenance)
  | benchmark (benchmark : Benchmark) : EvaluationEntry artifact (.benchmark benchmark)
  | event (run_id : Text) (event : Event) : EvaluationEntry artifact (.event run_id event)
  | run (run_id : Text) (result : EpisodeResult) (ran : Ran env settings tasks artifact result) :
      EvaluationEntry artifact (.run .evaluation run_id result)

/-- The entries of the training phase, with each row from a run that is among
them. -/
structure Rehearsal (written : List Written) : Prop where
  entries : ∀ entry ∈ written, TrainingEntry env settings tasks entry
  origins : ∀ row ∈ transitionsOf written, ∃ run ∈ runsOf .train written,
    Yields env settings tasks run.2 row

/-- What the training phase has written, with the rows that it has collected. -/
structure Trains (p : Progress) : Prop extends Rehearsal env settings tasks p.written where
  rows : transitionsOf p.written = p.training

/-- The two parts of what a study has written. -/
inductive Shaped : List Written → Prop where
  | training (written : List Written) (rehearsal : Rehearsal env settings tasks written) :
      Shaped written
  | evaluation (before after : List Written) (fitted : Router.Fitted)
      (rehearsal : Rehearsal env settings tasks before)
      (accepted : Router.fit_q env.fitDigest (transitionsOf before) (9 / 10) 100 12 = .ok fitted)
      (evaluations : ∀ entry ∈ after, EvaluationEntry env settings tasks fitted.artifact entry) :
      Shaped (before ++ .controller fitted :: after)

end Entries

/-! ## Training -/

section Training

variable {env : Surroundings} {settings : Settings} {tasks : List RepoTask} {p : Progress}

theorem transitionsOf_events (run_id : Text) (events : List Event) :
    transitionsOf (events.map (Written.event run_id)) = [] := by
  apply List.filterMap_eq_nil_iff.mpr
  intro entry member
  rcases List.mem_map.mp member with ⟨event, _, rfl⟩
  rfl

theorem transitionsOf_rows (rows : List TrainingRow) :
    transitionsOf (rows.map Written.transition) = rows := by
  unfold transitionsOf
  rw [List.filterMap_map]
  exact List.filterMap_some

/-- More entries of the training phase, whose rows come from the runs so far. -/
theorem Rehearsal.append {written records : List Written}
    (rehearsal : Rehearsal env settings tasks written)
    (entries : ∀ entry ∈ records, TrainingEntry env settings tasks entry)
    (origins : ∀ row ∈ transitionsOf records, ∃ run ∈ runsOf .train written,
      Yields env settings tasks run.2 row) :
    Rehearsal env settings tasks (written ++ records) where
  entries := by
    intro entry member
    rcases List.mem_append.mp member with before | now
    · exact rehearsal.entries entry before
    · exact entries entry now
  origins := by
    rw [transitionsOf_append, runsOf_append]
    have kept {row : TrainingRow}
        (found : ∃ run ∈ runsOf .train written, Yields env settings tasks run.2 row) :
        ∃ run ∈ runsOf .train written ++ runsOf .train records,
          Yields env settings tasks run.2 row := by
      rcases found with ⟨run, listed, yields⟩
      exact ⟨run, List.mem_append_left _ listed, yields⟩
    intro row member
    rcases List.mem_append.mp member with before | now
    · exact kept (rehearsal.origins row before)
    · exact kept (origins row now)

theorem Trains.leave (trains : Trains env settings tasks p) (run_id : Text) (ep : Episode) :
    Trains env settings tasks (p.leave run_id ep) where
  toRehearsal := by
    apply trains.toRehearsal.append
    · intro entry member
      rcases List.mem_map.mp member with ⟨event, _, rfl⟩
      exact .event run_id event
    · rw [transitionsOf_events]
      exact fun _ member => absurd member List.not_mem_nil
  rows := by
    show transitionsOf (p.written ++ ep.events.map (Written.event run_id)) = p.training
    rw [transitionsOf_append, transitionsOf_events, List.append_nil, trains.rows]

theorem Trains.record (trains : Trains env settings tasks p) (run_id : Text)
    {result : EpisodeResult} (practised : Practised env settings tasks result) :
    Trains env settings tasks (p.write [.run .train run_id result]) where
  toRehearsal := by
    apply trains.toRehearsal.append
    · intro entry now
      rw [List.mem_singleton.mp now]
      exact .run run_id result practised
    · exact fun _ member => absurd member List.not_mem_nil
  rows := by
    show transitionsOf (p.written ++ [.run .train run_id result]) = p.training
    rw [transitionsOf_append, trains.rows]
    exact List.append_nil _

theorem Trains.count (trains : Trains env settings tasks p) : Trains env settings tasks p.count :=
  ⟨trains.toRehearsal, trains.rows⟩

theorem Trains.fail (trains : Trains env settings tasks p) : Trains env settings tasks p.fail :=
  ⟨trains.toRehearsal, trains.rows⟩

theorem Trains.collect (trains : Trains env settings tasks p) {rows : List TrainingRow}
    (sound : ∀ row ∈ rows, Sound tasks row)
    (origins : ∀ row ∈ rows, ∃ run ∈ runsOf .train p.written,
      Yields env settings tasks run.2 row) :
    Trains env settings tasks (p.collect rows) where
  toRehearsal := by
    apply trains.toRehearsal.append
    · intro entry now
      rcases List.mem_map.mp now with ⟨row, collected, rfl⟩
      exact .transition row (sound row collected)
    · rw [transitionsOf_rows]
      exact origins
  rows := by
    show transitionsOf (p.written ++ rows.map Written.transition) = p.training ++ rows
    rw [transitionsOf_append, transitionsOf_rows, trains.rows]

end Training

/-! ## The rows of an episode -/

section Rows

variable {arithmetic : Arithmetic} {solved : Bool} {cost_weight : ℚ}

theorem trainingRows_concat (earlier : List Transition) (last : Transition) :
    trainingRows arithmetic solved cost_weight (earlier ++ [last]) =
      earlier.map (trainingRow arithmetic solved cost_weight false) ++
        [trainingRow arithmetic solved cost_weight true last] := by
  induction earlier with
  | nil => rfl
  | cons first earlier ih =>
    have next : trainingRows arithmetic solved cost_weight (first :: (earlier ++ [last])) =
        trainingRow arithmetic solved cost_weight false first ::
          trainingRows arithmetic solved cost_weight (earlier ++ [last]) := by
      cases earlier <;> rfl
    rw [List.cons_append, next, ih]
    rfl

/-- Where the rows of an episode come from. -/
theorem mem_trainingRows {transitions : List Transition} {row : TrainingRow}
    (member : row ∈ trainingRows arithmetic solved cost_weight transitions) :
    ∃ transition ∈ transitions, ∃ terminal,
      row = trainingRow arithmetic solved cost_weight terminal transition := by
  rcases transitions.eq_nil_or_concat' with rfl | ⟨earlier, last, rfl⟩
  · cases member
  · rw [trainingRows_concat, List.mem_append, List.mem_singleton] at member
    rcases member with inside | rfl
    · rcases List.mem_map.mp inside with ⟨transition, before, rfl⟩
      exact ⟨transition, List.mem_append_left _ before, false, rfl⟩
    · exact ⟨last, List.mem_append_right _ (List.mem_singleton_self last), true, rfl⟩

end Rows

/-- The transitions of a released episode name its task and take actions that
were legal in their states. -/
def LegalTransitions (cfg : Config) (p : ForgeRL.Progress) : Prop :=
  ∀ transition ∈ p.transitions, transition.task_id = cfg.task.id ∧
    transition.split = cfg.task.split ∧
    transition.action ∈ Router.allowed_actions transition.state ∧
    transition.state.verification = none ∧ transition.next_state.verification = none

theorem legalTransitions_keeps {cfg : Config} (released : cfg.harness = .repo) :
    Episode.Keeps cfg (LegalTransitions cfg) where
  initial := fun _ member => absurd member List.not_mem_nil
  entered holds entered := by cases entered <;> exact holds
  opened holds := holds
  effect {p effect action source} holds _ legal effected := by
    have kept : effect.transitions = p.transitions := by cases effected <;> rfl
    have plain (q : ForgeRL.Progress) : (q.observation cfg).verification = none := by
      unfold ForgeRL.Progress.observation Episode.observation
      rw [released]
      rfl
    have allowed : action ∈ Router.allowed_actions (p.observation cfg) := by
      unfold ForgeRL.Progress.legal_actions Episode.legal_actions at legal
      rw [released] at legal
      exact legal
    intro transition member
    have recorded : transition ∈ effect.transitions ++
        [ForgeRL.Progress.transition cfg action p effect] := member
    rw [kept] at recorded
    rcases List.mem_append.mp recorded with before | now
    · exact holds transition before
    · rw [List.mem_singleton.mp now]
      exact ⟨rfl, rfl, allowed, plain p, plain effect⟩
  halted holds halted := by cases halted <;> exact holds
  raised holds _ _ raised := by cases raised <;> exact holds
  waited holds := holds
  closed _ _ holds _ := holds

theorem legal_of_run {cfg : Config} {selector : Selector} {result : EpisodeResult}
    {done : Episode} (released : cfg.harness = .repo)
    (returned : run_episode cfg selector = .ok result done) :
    LegalTransitions cfg done.progress := by
  have reachable := Episode.run_episode_reachable cfg selector
  rw [returned] at reachable
  exact Episode.Reachable.keeps reachable (legalTransitions_keeps released)

section Loops

variable {env : Surroundings} {settings : Settings} {bounded : CappedProvider}
  {tasks : List RepoTask} {configuration : Configuration}

/-- The task of a training design. -/
theorem mem_trainingDesigns {design : Text × ℕ} (member : design ∈ trainingDesigns configuration) :
    design.1 ∈ configuration.training_ids := by
  unfold trainingDesigns at member
  rcases List.mem_flatMap.mp member with ⟨task_id, listed, inside⟩
  rcases List.mem_map.mp inside with ⟨rollout, _, rfl⟩
  exact listed

theorem mem_evaluationDesigns {design : Text × Policy}
    (member : design ∈ evaluationDesigns env configuration) :
    design.1 ∈ configuration.evaluation_ids := by
  unfold evaluationDesigns at member
  rcases List.mem_flatMap.mp member with ⟨task_id, listed, inside⟩
  rcases List.mem_map.mp inside with ⟨policy, _, rfl⟩
  exact listed

theorem policy_of_design {design : Text × Policy}
    (member : design ∈ evaluationDesigns env configuration) : design.2 ∈ Router.POLICIES := by
  unfold evaluationDesigns at member
  rcases List.mem_flatMap.mp member with ⟨task_id, _, inside⟩
  rcases List.mem_map.mp inside with ⟨policy, listed, rfl⟩
  exact (env.shuffle _).2.mem_iff.mp listed

theorem TrainingSetup.known (planned : Planned settings tasks configuration) {design : Text × ℕ}
    (designed : design ∈ trainingDesigns configuration) {earlier : List Episode}
    {task : RepoTask} {cfg : Config}
    (setup : TrainingSetup env settings bounded tasks design earlier task cfg) :
    task ∈ tasks ∧ task.split = train := by
  rcases planned.training_task (mem_trainingDesigns designed) with ⟨other, member, named, split⟩
  have found := setup.found
  rw [← named] at found
  rw [planned.by_id_eq member found]
  exact ⟨member, split⟩

theorem EvaluationSetup.known (planned : Planned settings tasks configuration)
    {artifact : Router.Artifact} {design : Text × Policy}
    (designed : design ∈ evaluationDesigns env configuration) {earlier : List Episode}
    {task : RepoTask} {cfg : Config}
    (setup : EvaluationSetup env settings bounded tasks artifact design earlier task cfg) :
    task ∈ tasks ∧ task.split ≠ train := by
  rcases planned.evaluation_task (mem_evaluationDesigns designed) with ⟨other, member, named, split⟩
  have found := setup.found
  rw [← named] at found
  rw [planned.by_id_eq member found]
  exact ⟨member, split⟩

/-- The rows of a training episode are sound. -/
theorem Trained.sound (planned : Planned settings tasks configuration) {design : Text × ℕ}
    (designed : design ∈ trainingDesigns configuration) {earlier : List Episode}
    {task : RepoTask} {cfg : Config} {result : EpisodeResult} {done : Episode}
    (trained : Trained env settings bounded tasks design earlier task cfg result done)
    {row : TrainingRow} {cost_weight : ℚ}
    (member : row ∈ trainingRows env.arithmetic result.solved cost_weight done.transitions) :
    Sound tasks row := by
  rcases trained.toTrainingSetup.known planned designed with ⟨known, split⟩
  have returned := trained.returned
  rcases trained.config with ⟨bounds, _, rfl⟩
  rcases mem_trainingRows member with ⟨transition, listed, terminal, rfl⟩
  rcases legal_of_run rfl returned transition listed with
    ⟨named, trains, legal, before, after⟩
  constructor
  · exact ⟨task, known, split, congrArg Json.str named⟩
  · exact congrArg Json.str (trains.trans split)
  · exact legal
  · exact ⟨before, after⟩
  · exact ⟨terminal, rfl⟩
  · exact ⟨_, rfl⟩
  · exact ⟨_, rfl⟩
  · rfl

/-- A training attempt writes what belongs to the training phase. -/
theorem trains_attempt (begun : Begun env settings tasks configuration bounded)
    {design : Text × ℕ} (designed : design ∈ trainingDesigns configuration) {p : Progress}
    (trains : Trains env settings tasks p) :
    Trains env settings tasks
      (trainAttempt env settings bounded tasks configuration design p).state := by
  have planned := planned_of_plan begun.planned
  have ways := @trainAttempt_cases env settings bounded tasks configuration design p
  generalize trainAttempt env settings bounded tasks configuration design p = upshot at ways
  have practised {task : RepoTask} {cfg : Config} {result : EpisodeResult} {done : Episode}
      (trained : Trained env settings bounded tasks design p.seen task cfg result done) :
      Practised env settings tasks result := by
    rcases trained.toTrainingSetup.known planned designed with ⟨known, split⟩
    have named := trained.cell.1.trans (task_id_of_found trained.found).symm
    exact ⟨bounded, design, p.seen, task, cfg, done, begun.allowed, trained, known, split, named⟩
  cases ways with
  | unstarted escape missing => exact trains
  | raised escape left task cfg setup ran => exact trains.leave _ left
  | completed task cfg result done trained status =>
    apply Trains.collect (((trains.leave _ done).record _ (practised trained)).count)
    · exact fun row member => trained.sound planned designed member
    · intro row member
      rw [planned.cost_weight] at member
      refine ⟨((env.behave p.seen).ident, result), ?_, status, bounded, design, p.seen, task, cfg,
        done, begun.allowed, trained, member⟩
      rw [runsOf_count, runsOf_write]
      exact List.mem_append_right _ (List.mem_singleton_self _)
  | exhausted task cfg result done trained status =>
    exact ((trains.leave _ done).record _ (practised trained)).count.fail
  | failed task cfg result done trained status =>
    exact ((trains.leave _ done).record _ (practised trained)).count.fail

theorem trains_trained (begun : Begun env settings tasks configuration bounded) :
    Trains env settings tasks (trainedBy env settings tasks configuration bounded).state := by
  apply campaign_keeps (Trains env settings tasks)
  · exact fun design designed before trains => trains_attempt begun designed trains
  · refine ⟨⟨?_, fun _ member => absurd member List.not_mem_nil⟩, rfl⟩
    intro entry member
    rcases List.mem_cons.mp member with rfl | rest
    · exact .manifest _
    · rw [List.mem_singleton.mp rest]
      exact .plan _

/-! ## Evaluation -/

/-- What an evaluation writes after what was written before. -/
def Extends (env : Surroundings) (settings : Settings) (tasks : List RepoTask)
    (artifact : Router.Artifact) (before : List Written) (p : Progress) : Prop :=
  ∃ after, p.written = before ++ after ∧
    ∀ entry ∈ after, EvaluationEntry env settings tasks artifact entry

theorem Extends.write {artifact : Router.Artifact} {before records : List Written} {p : Progress}
    (grown : Extends env settings tasks artifact before p)
    (entries : ∀ entry ∈ records, EvaluationEntry env settings tasks artifact entry) :
    Extends env settings tasks artifact before (p.write records) := by
  rcases grown with ⟨after, written, inside⟩
  refine ⟨after ++ records, ?_, ?_⟩
  · show p.written ++ records = before ++ (after ++ records)
    rw [written, List.append_assoc]
  · intro entry member
    rcases List.mem_append.mp member with earlier | now
    · exact inside entry earlier
    · exact entries entry now

theorem Extends.leave {artifact : Router.Artifact} {before : List Written} {p : Progress}
    (grown : Extends env settings tasks artifact before p) (run_id : Text) (ep : Episode) :
    Extends env settings tasks artifact before (p.leave run_id ep) := by
  have entries : ∀ entry ∈ ep.events.map (Written.event run_id),
      EvaluationEntry env settings tasks artifact entry := by
    intro entry member
    rcases List.mem_map.mp member with ⟨event, _, rfl⟩
    exact .event run_id event
  exact grown.write entries

theorem extends_evaluated (begun : Begun env settings tasks configuration bounded)
    (fitted : Router.Fitted) (p : Progress) :
    Extends env settings tasks fitted.artifact (frozen env configuration bounded fitted p).written
      (evaluatedBy env settings tasks configuration bounded fitted p).state := by
  have planned := planned_of_plan begun.planned
  apply campaign_keeps (Extends env settings tasks fitted.artifact
    (frozen env configuration bounded fitted p).written)
  · intro design designed before grown
    have ways := @evaluateAttempt_cases env settings bounded tasks fitted.artifact design before
    generalize evaluateAttempt env settings bounded tasks fitted.artifact design before = upshot
      at ways
    have single {run_id : Text} {task : RepoTask} {cfg : Config} {result : EpisodeResult}
        {done : Episode} (evaluated : Evaluated env settings bounded tasks fitted.artifact design
          before.seen task cfg result done) :
        ∀ entry ∈ [Written.run .evaluation run_id result],
          EvaluationEntry env settings tasks fitted.artifact entry := by
      rcases evaluated.toEvaluationSetup.known planned designed with ⟨known, split⟩
      have named : result.task_id = task.id := by
        rw [task_id_of_found evaluated.found]
        exact congrArg PlannedRun.task_id evaluated.cell.1
      intro entry member
      rw [List.mem_singleton.mp member]
      exact .run run_id result ⟨bounded, design, before.seen, task, cfg, done, begun.allowed,
        evaluated, known, split, named⟩
    cases ways with
    | unstarted escape missing => exact grown
    | raised escape left task cfg setup ran => exact grown.leave _ left
    | exhausted task cfg result done evaluated status =>
      exact (grown.leave _ done).write (single evaluated)
    | recorded task cfg result done evaluated status =>
      exact (grown.leave _ done).write (single evaluated)
  · exact ⟨[], (List.append_nil _).symm, fun _ member => absurd member List.not_mem_nil⟩

end Loops

/-! ## The whole study -/

section Studies

variable {env : Surroundings} {settings : Settings} {tasks : List RepoTask}

/-- The report and a last manifest, when the study makes its report. -/
theorem written_concludeStop (bounded : CappedProvider) (configuration : Configuration)
    (fitted : Option Router.Fitted) (runs : List (Text × EpisodeResult)) (stop : Option Stop)
    (p : Progress) :
    (concludeStop env tasks bounded configuration fitted runs stop p).written = p.written ∨
      ∃ benchmark : Benchmark,
        (concludeStop env tasks bounded configuration fitted runs stop p).written =
          p.written ++ [.benchmark benchmark, .manifest benchmark.provenance] := by
  unfold concludeStop
  split_ifs
  · exact .inl rfl
  · unfold conclude
    dsimp only
    cases summarize (runsIn test runs) (plannedIn tasks configuration test) with
    | error escape => exact .inl rfl
    | ok rows =>
      cases summarize (runsIn validation runs) (plannedIn tasks configuration validation) with
      | error escape => exact .inl rfl
      | ok others => exact .inr ⟨_, rfl⟩

theorem run_study_shaped : Shaped env settings tasks (run_study env settings tasks).written := by
  rcases @run_study_cases env settings tasks with ⟨nothing, _⟩ | ⟨configuration, bounded, begun,
    studying⟩
  · rw [nothing]
    exact .training [] ⟨fun _ member => absurd member List.not_mem_nil,
      fun _ member => absurd member List.not_mem_nil⟩
  · have trains := trains_trained begun
    generalize run_study env settings tasks = studied at studying
    have untrained (stop : Option Stop) : Shaped env settings tasks
        (concludeStop env tasks bounded configuration none [] stop
          (trainedBy env settings tasks configuration bounded).state).written := by
      rcases @written_concludeStop env tasks bounded configuration none [] stop
        (trainedBy env settings tasks configuration bounded).state with same | ⟨benchmark, same⟩
      · rw [same]
        exact .training _ trains.toRehearsal
      · rw [same]
        apply Shaped.training
        apply trains.toRehearsal.append
        · intro entry last
          rcases List.mem_cons.mp last with rfl | closing
          · exact .benchmark benchmark
          · rw [List.mem_singleton.mp closing]
            exact .manifest _
        · exact fun _ member => absurd member List.not_mem_nil
    cases studying with
    | stopped stop reason => exact untrained _
    | unfitted escape whole refused => exact untrained _
    | evaluated fitted whole accepted =>
      rcases extends_evaluated begun fitted
        (trainedBy env settings tasks configuration bounded).state with ⟨after, written, entries⟩
      have frozen_ : (frozen env configuration bounded fitted
          (trainedBy env settings tasks configuration bounded).state).written =
        (trainedBy env settings tasks configuration bounded).state.written ++
          [.controller fitted, .manifest (frozenManifest env bounded configuration
            (trainedBy env settings tasks configuration bounded).state fitted)] := rfl
      rw [← trains.rows] at accepted
      have first (last : List Written)
          (closing : ∀ entry ∈ last, EvaluationEntry env settings tasks fitted.artifact entry) :
          Shaped env settings tasks ((evaluatedBy env settings tasks configuration bounded fitted
            (trainedBy env settings tasks configuration bounded).state).state.written ++ last) := by
        rw [written, frozen_, List.append_assoc, List.append_assoc]
        apply Shaped.evaluation _ _ _ trains.toRehearsal accepted
        intro entry member
        rcases List.mem_cons.mp member with rfl | rest
        · exact .manifest _
        · have later : entry ∈ after ++ last := rest
          rcases List.mem_append.mp later with evaluated | closes
          · exact entries entry evaluated
          · exact closing entry closes
      rcases @written_concludeStop env tasks bounded configuration (some fitted) _ _ _ with
        same | ⟨benchmark, same⟩
      · rw [same, ← List.append_nil (Progress.written _)]
        exact first [] fun _ member => absurd member List.not_mem_nil
      · rw [same]
        apply first
        intro entry member
        rcases List.mem_cons.mp member with rfl | closing
        · exact .benchmark benchmark
        · rw [List.mem_singleton.mp closing]
          exact .manifest _

/-- The order of a study, read off what it has written. -/
structure Phased (env : Surroundings) (settings : Settings) (tasks : List RepoTask)
    (written : List Written) : Prop where
  trains : ∀ run ∈ runsOf .train written, Practised env settings tasks run.2
  /-- The rows are those of completed training runs that were written. -/
  rows : ∀ row ∈ transitionsOf written, Sound tasks row ∧
    ∃ run ∈ runsOf .train written, Yields env settings tasks run.2 row
  /-- Every evaluation runs with the artifact of a controller that was written. -/
  evaluates : ∀ run ∈ runsOf .evaluation written, ∃ fitted, .controller fitted ∈ written ∧
    Ran env settings tasks fitted.artifact run.2
  /-- A controller is fitted to all the transitions, before any evaluation. -/
  frozen : ∀ earlier fitted later, written = earlier ++ .controller fitted :: later →
    Router.fit_q env.fitDigest (transitionsOf written) (9 / 10) 100 12 = .ok fitted ∧
      runsOf .evaluation earlier = [] ∧ runsOf .train later = [] ∧ transitionsOf later = []
  /-- No family has a training run and an evaluation. -/
  separate : ∀ run ∈ runsOf .train written, ∀ other ∈ runsOf .evaluation written,
    ∀ task ∈ tasks, ∀ held ∈ tasks, task.id = run.2.task_id → held.id = other.2.task_id →
      task.family ≠ held.family

theorem mem_runsOf {phase : Phase} {written : List Written} {run : Text × EpisodeResult}
    (member : run ∈ runsOf phase written) : .run phase run.1 run.2 ∈ written := by
  rcases List.mem_filterMap.mp member with ⟨entry, inside, read⟩
  cases entry with
  | run recorded run_id result =>
    have read : (if recorded = phase then some (run_id, result) else none) = some run := read
    split_ifs at read with same
    cases read
    rw [← same]
    exact inside
  | _ => cases read

theorem mem_transitionsOf {written : List Written} {row : TrainingRow}
    (member : row ∈ transitionsOf written) : .transition row ∈ written := by
  rcases List.mem_filterMap.mp member with ⟨entry, inside, read⟩
  cases entry with
  | transition recorded =>
    cases read
    exact inside
  | _ => cases read

theorem runsOf_training {written : List Written}
    (entries : ∀ entry ∈ written, TrainingEntry env settings tasks entry) :
    runsOf .evaluation written = [] := by
  apply List.filterMap_eq_nil_iff.mpr
  intro entry member
  cases entries entry member <;> rfl

theorem runsOf_evaluating {written : List Written} {artifact : Router.Artifact}
    (entries : ∀ entry ∈ written, EvaluationEntry env settings tasks artifact entry) :
    runsOf .train written = [] ∧ transitionsOf written = [] := by
  constructor
  · apply List.filterMap_eq_nil_iff.mpr
    intro entry member
    cases entries entry member <;> rfl
  · apply List.filterMap_eq_nil_iff.mpr
    intro entry member
    cases entries entry member <;> rfl

/-- The one place of a controller. -/
theorem split_controller {before after earlier later : List Written} {artifact : Router.Artifact}
    {fitted other : Router.Fitted}
    (trains : ∀ entry ∈ before, TrainingEntry env settings tasks entry)
    (evaluates : ∀ entry ∈ after, EvaluationEntry env settings tasks artifact entry)
    (same : before ++ .controller fitted :: after = earlier ++ .controller other :: later) :
    earlier = before ∧ other = fitted ∧ later = after := by
  rcases List.append_eq_append_iff.mp same with ⟨middle, earlier_, rest⟩ | ⟨middle, before_, rest⟩
  · cases middle with
    | nil =>
      cases rest
      exact ⟨earlier_.trans (List.append_nil before), rfl, rfl⟩
    | cons first middle =>
      have inside : .controller other ∈ after := by
        rw [(List.cons.inj rest).2]
        exact List.mem_append_right _ List.mem_cons_self
      cases evaluates _ inside
  · cases middle with
    | nil =>
      cases rest
      exact ⟨((List.append_nil earlier).symm.trans before_.symm), rfl, rfl⟩
    | cons first middle =>
      have inside : .controller other ∈ before := by
        rw [before_, (List.cons.inj rest).1]
        exact List.mem_append_right _ List.mem_cons_self
      cases trains _ inside

theorem phased_of_shaped (separated : Separated tasks) {written : List Written}
    (shaped : Shaped env settings tasks written) : Phased env settings tasks written := by
  have practised {before : List Written} (rehearsal : Rehearsal env settings tasks before)
      (run : Text × EpisodeResult) (member : run ∈ runsOf .train before) :
      Practised env settings tasks run.2 := by
    cases rehearsal.entries _ (mem_runsOf member) with
    | run _ _ practised => exact practised
  have rows {before : List Written} (rehearsal : Rehearsal env settings tasks before)
      (row : TrainingRow) (member : row ∈ transitionsOf before) : Sound tasks row ∧
        ∃ run ∈ runsOf .train before, Yields env settings tasks run.2 row := by
    cases rehearsal.entries _ (mem_transitionsOf member) with
    | transition _ sound => exact ⟨sound, rehearsal.origins row member⟩
  cases shaped with
  | training written rehearsal =>
    have none_ := runsOf_training rehearsal.entries
    constructor
    · exact practised rehearsal
    · exact rows rehearsal
    · intro run member
      rw [none_] at member
      cases member
    · intro earlier fitted later same
      have inside : .controller fitted ∈ written := by
        rw [same]
        exact List.mem_append_right _ List.mem_cons_self
      cases rehearsal.entries _ inside
    · intro run _ other member
      rw [none_] at member
      cases member
  | evaluation before after fitted rehearsal accepted evaluations =>
    have unread := runsOf_evaluating evaluations
    have trained :
        runsOf .train (before ++ .controller fitted :: after) = runsOf .train before := by
      rw [runsOf_append]
      show runsOf .train before ++ runsOf .train after = _
      rw [unread.1, List.append_nil]
    have collected : transitionsOf (before ++ .controller fitted :: after) =
        transitionsOf before := by
      rw [transitionsOf_append]
      show transitionsOf before ++ transitionsOf after = _
      rw [unread.2, List.append_nil]
    have evaluated : runsOf .evaluation (before ++ .controller fitted :: after) =
        runsOf .evaluation after := by
      rw [runsOf_append, runsOf_training rehearsal.entries]
      rfl
    have ran (run : Text × EpisodeResult) (member : run ∈ runsOf .evaluation after) :
        Ran env settings tasks fitted.artifact run.2 := by
      cases evaluations _ (mem_runsOf member) with
      | run _ _ ran => exact ran
    constructor
    · rw [trained]
      exact practised rehearsal
    · rw [collected, trained]
      exact rows rehearsal
    · rw [evaluated]
      exact fun run member =>
        ⟨fitted, List.mem_append_right _ List.mem_cons_self, ran run member⟩
    · intro earlier other later same
      rcases split_controller rehearsal.entries evaluations same with ⟨rfl, rfl, rfl⟩
      rw [collected]
      exact ⟨accepted, runsOf_training rehearsal.entries, unread⟩
    · rw [trained, evaluated]
      intro run listed other recorded task member held member_ named named_ same
      rcases (practised rehearsal run listed).run with ⟨_, _, _, first, _, _, _, _, known, split,
        first_⟩
      rcases (ran other recorded).run with ⟨_, _, _, second, _, _, _, _, known_, split_, second_⟩
      have task_ : task = first :=
        List.inj_on_of_nodup_map separated.distinct member known (named.trans first_)
      have held_ : held = second :=
        List.inj_on_of_nodup_map separated.distinct member_ known_ (named_.trans second_)
      have splits := separated.families task member held member_ same
      rw [task_, held_, split] at splits
      exact split_ splits.symm

/-- The order of every study, also of one that was cancelled, whatever its
surroundings do. -/
theorem study_phases (env : Surroundings) (settings : Settings) (tasks : List RepoTask) :
    Phased env settings tasks (run_study env settings tasks).written := by
  rcases @run_study_cases env settings tasks with ⟨nothing, _⟩ | ⟨configuration, bounded, begun, _⟩
  · rw [nothing]
    constructor
    · exact fun _ member => absurd member List.not_mem_nil
    · exact fun _ member => absurd member List.not_mem_nil
    · exact fun _ member => absurd member List.not_mem_nil
    · intro earlier fitted later same
      cases earlier <;> cases same
    · exact fun _ member => absurd member List.not_mem_nil
  · exact phased_of_shaped (planned_of_plan begun.planned).separated run_study_shaped

end Studies

end Study

end ForgeRL
