import ForgeRL.Bench.StudyRun

namespace ForgeRL

open Library

/-!
# The evidence of a study

Whatever the surroundings do, the evaluation runs of a study are a beginning of
its shuffled designs, each once, and the missing rows are the rest of the plan.
What a study has written shows the order of its phases: training on training
tasks first, then one controller, fitted to exactly the transitions that were
written, then evaluations on tasks of other families with that controller.
-/

namespace Study

/-! ## The plan -/

/-- What `validate_splits` has found. -/
structure Separated (tasks : List RepoTask) : Prop where
  supported : ∀ task ∈ tasks, task.split ∈ [train, validation, test]
  distinct : (tasks.map RepoTask.id).Nodup
  families : ∀ task ∈ tasks, ∀ other ∈ tasks, task.family = other.family →
    task.split = other.split

/-- What the loop of `validate_splits` has found, with what it has met before. -/
structure Validated (families : List (Text × Text)) (ids : List Text) (tasks : List RepoTask) :
    Prop where
  supported : ∀ task ∈ tasks, task.split ∈ [train, validation, test]
  fresh : ∀ task ∈ tasks, task.id ∉ ids
  distinct : (tasks.map RepoTask.id).Nodup
  known : ∀ task ∈ tasks, ∀ split, families.lookup task.family = some split →
    task.split = split
  families : ∀ task ∈ tasks, ∀ other ∈ tasks, task.family = other.family →
    task.split = other.split

theorem Validated.cons {families later : List (Text × Text)} {ids : List Text} {task : RepoTask}
    {tasks : List RepoTask} (supported : task.split ∈ [train, validation, test])
    (fresh : task.id ∉ ids)
    (known : ∀ split, families.lookup task.family = some split → task.split = split)
    (kept : ∀ family split, families.lookup family = some split →
      later.lookup family = some split)
    (entered : later.lookup task.family = some task.split)
    (rest : Validated later (task.id :: ids) tasks) : Validated families ids (task :: tasks) where
  supported := List.forall_mem_cons.mpr ⟨supported, rest.supported⟩
  fresh := by
    intro other member
    rcases List.mem_cons.mp member with rfl | inside
    · exact fresh
    · exact fun seen => rest.fresh other inside (List.mem_cons_of_mem _ seen)
  distinct := by
    rw [List.map_cons, List.nodup_cons]
    refine ⟨fun repeated => ?_, rest.distinct⟩
    rcases List.mem_map.mp repeated with ⟨other, inside, same⟩
    exact rest.fresh other inside (same ▸ List.mem_cons_self)
  known := by
    intro other member split found
    rcases List.mem_cons.mp member with rfl | inside
    · exact known split found
    · exact rest.known other inside split (kept _ _ found)
  families := by
    have first (other : RepoTask) (inside : other ∈ tasks) (same : other.family = task.family) :
        other.split = task.split := by
      apply rest.known other inside
      rw [same]
      exact entered
    intro one here two there same
    rcases List.mem_cons.mp here with rfl | inside
    · rcases List.mem_cons.mp there with rfl | other
      · rfl
      · exact (first two other same.symm).symm
    · rcases List.mem_cons.mp there with rfl | other
      · exact first one inside same
      · exact rest.families one inside two other same

theorem validateTasks_ok {families : List (Text × Text)} {ids : List Text}
    {tasks : List RepoTask} (accepted : validateTasks families ids tasks = .ok ()) :
    Validated families ids tasks := by
  induction tasks generalizing families ids with
  | nil =>
    constructor
    · exact fun _ member => absurd member List.not_mem_nil
    · exact fun _ member => absurd member List.not_mem_nil
    · exact List.nodup_nil
    · exact fun _ member => absurd member List.not_mem_nil
    · exact fun _ member => absurd member List.not_mem_nil
  | cons task tasks ih =>
    unfold validateTasks at accepted
    split_ifs at accepted with unsupported repeated
    cases found : families.lookup task.family with
    | none =>
      rw [found] at accepted
      apply Validated.cons unsupported repeated
        (fun split same => by rw [found] at same; cases same) _ _ (ih accepted)
      · intro family split same
        rw [List.lookup_cons]
        by_cases equal : family = task.family
        · rw [equal, found] at same
          cases same
        · rw [beq_false_of_ne equal]
          exact same
      · exact List.lookup_cons_self
    | some split =>
      rw [found] at accepted
      dsimp only at accepted
      split_ifs at accepted with crosses
      have same := not_not.mp crosses
      apply Validated.cons unsupported repeated _ (fun _ _ kept => kept) (same ▸ found)
        (ih accepted)
      intro other known
      rw [found] at known
      cases known
      exact same.symm

theorem separated_of_validate {tasks : List RepoTask}
    (accepted : validate_splits tasks = .ok ()) : Separated tasks := by
  unfold validate_splits at accepted
  cases walked : validateTasks [] [] tasks with
  | error escape =>
    rw [walked] at accepted
    cases accepted
  | ok =>
    have validated := validateTasks_ok walked
    exact ⟨validated.supported, validated.distinct, validated.families⟩

theorem mem_of_mem_select {tasks : List RepoTask} {per_family : ℕ} {task : RepoTask}
    (selected : task ∈ select_tasks tasks per_family) : task ∈ tasks := by
  unfold select_tasks at selected
  rcases List.mem_flatMap.mp selected with ⟨name, _, inside⟩
  have sorted := List.mem_of_mem_take inside
  exact (List.mem_filter.mp ((List.mem_insertionSort _).mp sorted)).1

/-- A task is selected once, with its family. -/
theorem nodup_select {tasks : List RepoTask} {per_family : ℕ} (distinct : tasks.Nodup) :
    (select_tasks tasks per_family).Nodup := by
  unfold select_tasks
  apply List.nodup_flatMap.mpr
  constructor
  · intro name _
    exact ((List.perm_insertionSort _ _).nodup_iff.mpr (distinct.filter _)).sublist
      (List.take_sublist _ _)
  · have names : ((tasks.map RepoTask.family).dedup.insertionSort
        fun first second => first ≤ second).Nodup :=
      (List.perm_insertionSort _ _).nodup_iff.mpr (List.nodup_dedup _)
    apply names.imp
    intro name other different task here there
    have first := (List.mem_insertionSort _).mp (List.mem_of_mem_take here)
    have second := (List.mem_insertionSort _).mp (List.mem_of_mem_take there)
    have named : task.family = name := of_decide_eq_true (List.mem_filter.mp first).2
    have also : task.family = other := of_decide_eq_true (List.mem_filter.mp second).2
    exact different (named.symm.trans also)

theorem nodup_selected_ids {tasks part : List RepoTask} {per_family : ℕ}
    (separated : Separated tasks) (sublist : part.Sublist tasks) :
    ((select_tasks part per_family).map RepoTask.id).Nodup := by
  have ids := separated.distinct.sublist (sublist.map RepoTask.id)
  apply (nodup_select ids.of_map).map_on
  intro task here other there same
  exact List.inj_on_of_nodup_map ids (mem_of_mem_select here) (mem_of_mem_select there) same

/-- A plan that has been made. -/
structure Planned (settings : Settings) (tasks : List RepoTask) (configuration : Configuration) :
    Prop where
  separated : Separated tasks
  bounded : settings.Bounded
  seed : configuration.seed = settings.seed
  rollouts : configuration.train_rollouts_per_task = settings.train_rollouts
  cost_weight : configuration.cost_weight = 5
  training_ids : configuration.training_ids = (select_tasks (tasks.filter (·.split = train))
    settings.train_per_family.toNat).map RepoTask.id
  evaluation_ids : configuration.evaluation_ids =
    (select_tasks (tasks.filter (·.split ≠ train)) settings.eval_per_family.toNat).map RepoTask.id

theorem planned_of_plan {settings : Settings} {tasks : List RepoTask}
    {configuration : Configuration} (made : plan settings tasks = .ok configuration) :
    Planned settings tasks configuration := by
  unfold plan at made
  cases validated : validate_splits tasks with
  | error escape =>
    rw [validated] at made
    cases made
  | ok =>
    rw [validated] at made
    dsimp only at made
    split_ifs at made with refused
    cases made
    exact ⟨separated_of_validate validated, refused, rfl, rfl, rfl, rfl, rfl⟩

section Plan

variable {settings : Settings} {tasks : List RepoTask} {configuration : Configuration}

theorem Planned.training_task (planned : Planned settings tasks configuration) {task_id : Text}
    (member : task_id ∈ configuration.training_ids) :
    ∃ task ∈ tasks, task.id = task_id ∧ task.split = train := by
  rw [planned.training_ids] at member
  rcases List.mem_map.mp member with ⟨task, selected, named⟩
  rcases List.mem_filter.mp (mem_of_mem_select selected) with ⟨inside, split⟩
  exact ⟨task, inside, named, of_decide_eq_true split⟩

theorem Planned.evaluation_task (planned : Planned settings tasks configuration) {task_id : Text}
    (member : task_id ∈ configuration.evaluation_ids) :
    ∃ task ∈ tasks, task.id = task_id ∧ task.split ≠ train := by
  rw [planned.evaluation_ids] at member
  rcases List.mem_map.mp member with ⟨task, selected, named⟩
  rcases List.mem_filter.mp (mem_of_mem_select selected) with ⟨inside, split⟩
  exact ⟨task, inside, named, of_decide_eq_true split⟩

/-- The task that `by_id` finds. -/
theorem Planned.by_id_eq (planned : Planned settings tasks configuration) {task found : RepoTask}
    (member : task ∈ tasks) (looked : Dict.get? (by_id tasks) task.id = some found) :
    found = task := by
  rcases Dict.get?_foldl_set looked with ⟨inside, named⟩ | absent
  · exact List.inj_on_of_nodup_map planned.separated.distinct inside member named
  · cases absent

theorem nodup_policies : Router.POLICIES.Nodup := by decide

theorem Planned.nodup_evaluation (planned : Planned settings tasks configuration) :
    configuration.evaluation_ids.Nodup := by
  rw [planned.evaluation_ids]
  exact nodup_selected_ids planned.separated List.filter_sublist

/-- Every planned run has its own cell. -/
theorem Planned.nodup_expected (planned : Planned settings tasks configuration) :
    (expected configuration).Nodup := by
  unfold expected
  apply List.nodup_flatMap.mpr
  constructor
  · intro task_id _
    apply nodup_policies.map
    intro first second same
    exact congrArg PlannedRun.policy same
  · apply planned.nodup_evaluation.imp
    intro first second different run here there
    rcases List.mem_map.mp here with ⟨_, _, rfl⟩
    rcases List.mem_map.mp there with ⟨_, _, same⟩
    exact different (congrArg PlannedRun.task_id same).symm

/-- The cell of an evaluation design. -/
def designCell (seed : ℤ) (design : Text × Policy) : PlannedRun := ⟨design.1, design.2, seed⟩

/-- The shuffled designs are the expected runs. -/
theorem designs_perm (env : Surroundings) (configuration : Configuration) :
    ((evaluationDesigns env configuration).map (designCell configuration.seed)).Perm
      (expected configuration) := by
  unfold evaluationDesigns expected
  rw [List.map_flatMap]
  apply List.Perm.flatMap (List.Perm.refl _)
  intro task_id _
  rw [List.map_map]
  exact (env.shuffle _).2.map _

end Plan

/-! ## The attempts -/

/-- The result of an episode is that of the episode it leaves. -/
theorem result_of_run {cfg : Config} {selector : Selector} {result : EpisodeResult}
    {done : Episode} (returned : run_episode cfg selector = .ok result done) :
    result = done.result cfg := by
  have finished {ep : Episode} (ends : ep.finish cfg = .ok result done) :
      result = done.result cfg := by
    have ways := Episode.finish_outcome cfg ep
    rw [ends] at ways
    cases ways <;> rfl
  unfold run_episode at returned
  cases driven : Episode.caught (Episode.drive cfg selector (Episode.initial cfg)) with
  | ok value ended =>
    rw [driven] at returned
    exact finished returned
  | raised escape left =>
    rw [driven] at returned
    cases returned

namespace Surroundings

/-- What the writer cannot encode of a run. -/
inductive Unwritten (env : Surroundings) (run : Outcome EpisodeResult) : Escape → Prop where
  | event (event : Event) (emitted : event ∈ run.episode.events) (refusal : Unencoded)
      (refused : env.encodeEvent event = some refusal) : Unwritten env run refusal.escape
  | result (result : EpisodeResult) (done : Episode) (returned : run = .ok result done)
      (refusal : Unencoded) (refused : env.encodeResult result done.events = some refusal) :
      Unwritten env run refusal.escape

section Write

variable {env : Surroundings} {run : Outcome EpisodeResult}

theorem mem_of_unencoded {events before : List Event} {refusal : Unencoded}
    (found : env.unencoded events = some (before, refusal)) :
    ∃ event ∈ events, env.encodeEvent event = some refusal := by
  induction events generalizing before with
  | nil => cases found
  | cons event events ih =>
    unfold unencoded at found
    cases encoded : env.encodeEvent event with
    | some refused =>
      rw [encoded] at found
      cases found
      exact ⟨event, List.mem_cons_self, encoded⟩
    | none =>
      rw [encoded] at found
      rcases Option.map_eq_some_iff.mp found with ⟨⟨others, cause⟩, later, same⟩
      cases same
      rcases ih later with ⟨other, inside, refused⟩
      exact ⟨other, List.mem_cons_of_mem event inside, refused⟩

/-- A run that has been written is the run itself. -/
theorem ran_of_write {result : EpisodeResult} {done : Episode}
    (written : env.write run = .ok result done) : run = .ok result done := by
  unfold write at written
  split at written
  · cases written
  · cases run with
    | raised escape left => cases written
    | ok value ended =>
      dsimp only at written
      split at written
      · cases written
      · exact written

/-- An attempt without a record has raised, or it cannot be encoded. -/
theorem raised_of_write {escape : Escape} {left : Episode}
    (raised : env.write run = .raised escape left) :
    run = .raised escape left ∨ Unwritten env run escape := by
  unfold write at raised
  split at raised
  next events refusal found =>
    rcases mem_of_unencoded found with ⟨event, emitted, refused⟩
    cases raised
    exact .inr (.event event emitted refusal refused)
  · cases run with
    | raised cause last => exact .inl raised
    | ok result done =>
      dsimp only at raised
      split at raised
      next refusal refused =>
        cases raised
        exact .inr (.result result _ rfl refusal refused)
      · cases raised

end Write

end Surroundings

section Attempts

variable {env : Surroundings} {settings : Settings} {bounded : CappedProvider}
  {tasks : List RepoTask} {configuration : Configuration}

/-- The episode of a training design, after the episodes before it. -/
structure TrainingSetup (env : Surroundings) (settings : Settings) (bounded : CappedProvider)
    (tasks : List RepoTask) (design : Text × ℕ) (earlier : List Episode) (task : RepoTask)
    (cfg : Config) : Prop where
  found : Dict.get? (by_id tasks) design.1 = some task
  config : ∃ bounds, episodeBounds settings = .ok bounds ∧
    cfg = episode_factory env bounded (env.behave earlier) bounds task .exploration none
      (stableSeed env settings design)

/-- What chooses in a training episode. -/
def explorer (env : Surroundings) (settings : Settings) (design : Text × ℕ) : Selector :=
  .custom (explore design.2 (env.rng (stableSeed env settings design)))

/-- What a recorded training attempt has run. -/
structure Trained (env : Surroundings) (settings : Settings) (bounded : CappedProvider)
    (tasks : List RepoTask) (design : Text × ℕ) (earlier : List Episode) (task : RepoTask)
    (cfg : Config) (result : EpisodeResult) (done : Episode) : Prop
    extends TrainingSetup env settings bounded tasks design earlier task cfg where
  returned : run_episode cfg (explorer env settings design) = .ok result done

/-- Everything that an attempt of the training loop can come to. -/
inductive Training (env : Surroundings) (settings : Settings) (bounded : CappedProvider)
    (tasks : List RepoTask) (configuration : Configuration) (design : Text × ℕ) (p : Progress) :
    Upshot (Recorded (Text × ℕ)) Stop Progress → Prop where
  | unstarted (escape : Escape) (missing : Dict.get? (by_id tasks) design.1 = none ∨
        ∃ refused, episodeBounds settings = .error refused) :
      Training env settings bounded tasks configuration design p (.lost (.escaped escape) p)
  | raised (escape : Escape) (left : Episode) (task : RepoTask) (cfg : Config)
      (setup : TrainingSetup env settings bounded tasks design p.seen task cfg)
      (ran : env.write (run_episode cfg (explorer env settings design)) = .raised escape left) :
      Training env settings bounded tasks configuration design p
        (.lost (.escaped escape) (p.leave (env.behave p.seen).ident left))
  | completed (task : RepoTask) (cfg : Config) (result : EpisodeResult) (done : Episode)
      (trained : Trained env settings bounded tasks design p.seen task cfg result done)
      (status : result.status = .completed) :
      Training env settings bounded tasks configuration design p
        (.recorded ⟨design, (env.behave p.seen).ident, result⟩
          ((((p.leave (env.behave p.seen).ident done).write
            [.run .train (env.behave p.seen).ident result]).count).collect
              (trainingRows env.arithmetic result.solved configuration.cost_weight
                done.transitions)))
  | exhausted (task : RepoTask) (cfg : Config) (result : EpisodeResult) (done : Episode)
      (trained : Trained env settings bounded tasks design p.seen task cfg result done)
      (status : result.status = .budget_exhausted) :
      Training env settings bounded tasks configuration design p
        (.last ⟨design, (env.behave p.seen).ident, result⟩
          (.budgetExceeded "Training reached the bounded allowance")
          (((p.leave (env.behave p.seen).ident done).write
            [.run .train (env.behave p.seen).ident result]).count).fail)
  | failed (task : RepoTask) (cfg : Config) (result : EpisodeResult) (done : Episode)
      (trained : Trained env settings bounded tasks design p.seen task cfg result done)
      (status : result.status ≠ .completed ∧ result.status ≠ .budget_exhausted) :
      Training env settings bounded tasks configuration design p
        (.recorded ⟨design, (env.behave p.seen).ident, result⟩
          (((p.leave (env.behave p.seen).ident done).write
            [.run .train (env.behave p.seen).ident result]).count).fail)

theorem trainAttempt_cases (design : Text × ℕ) (p : Progress) :
    Training env settings bounded tasks configuration design p
      (trainAttempt env settings bounded tasks configuration design p) := by
  unfold trainAttempt
  cases found : Dict.get? (by_id tasks) design.1 with
  | none => exact .unstarted _ (.inl found)
  | some task =>
    cases bounded_ : episodeBounds settings with
    | error escape => exact .unstarted _ (.inr ⟨escape, bounded_⟩)
    | ok bounds =>
      dsimp only
      split
      next escape left ran => exact .raised escape left task _ ⟨found, bounds, bounded_, rfl⟩ ran
      next result done ran =>
        have trained : Trained env settings bounded tasks design p.seen task _ result done :=
          ⟨⟨found, bounds, bounded_, rfl⟩, Surroundings.ran_of_write ran⟩
        split_ifs with completed exhausted
        · exact .completed task _ result done trained completed
        · exact .exhausted task _ result done trained exhausted
        · exact .failed task _ result done trained ⟨completed, exhausted⟩

/-- The episode of an evaluation design, after the episodes before it. -/
structure EvaluationSetup (env : Surroundings) (settings : Settings) (bounded : CappedProvider)
    (tasks : List RepoTask) (artifact : Router.Artifact) (design : Text × Policy)
    (earlier : List Episode) (task : RepoTask) (cfg : Config) : Prop where
  found : Dict.get? (by_id tasks) design.1 = some task
  config : ∃ bounds, episodeBounds settings = .ok bounds ∧
    cfg = episode_factory env bounded (env.behave earlier) bounds task design.2 (some artifact)
      settings.seed

/-- What a recorded evaluation has run. -/
structure Evaluated (env : Surroundings) (settings : Settings) (bounded : CappedProvider)
    (tasks : List RepoTask) (artifact : Router.Artifact) (design : Text × Policy)
    (earlier : List Episode) (task : RepoTask) (cfg : Config) (result : EpisodeResult)
    (done : Episode) : Prop
    extends EvaluationSetup env settings bounded tasks artifact design earlier task cfg where
  returned : run_episode cfg .policy = .ok result done

/-- Everything that an attempt of the evaluation loop can come to. -/
inductive Evaluation (env : Surroundings) (settings : Settings) (bounded : CappedProvider)
    (tasks : List RepoTask) (artifact : Router.Artifact) (design : Text × Policy) (p : Progress) :
    Upshot (Recorded (Text × Policy)) Stop Progress → Prop where
  | unstarted (escape : Escape) (missing : Dict.get? (by_id tasks) design.1 = none ∨
        ∃ refused, episodeBounds settings = .error refused) :
      Evaluation env settings bounded tasks artifact design p (.lost (.escaped escape) p)
  | raised (escape : Escape) (left : Episode) (task : RepoTask) (cfg : Config)
      (setup : EvaluationSetup env settings bounded tasks artifact design p.seen task cfg)
      (ran : env.write (run_episode cfg .policy) = .raised escape left) :
      Evaluation env settings bounded tasks artifact design p
        (.lost (.escaped escape) (p.leave (env.behave p.seen).ident left))
  | exhausted (task : RepoTask) (cfg : Config) (result : EpisodeResult) (done : Episode)
      (evaluated : Evaluated env settings bounded tasks artifact design p.seen task cfg result done)
      (status : result.status = .budget_exhausted) :
      Evaluation env settings bounded tasks artifact design p
        (.last ⟨design, (env.behave p.seen).ident, result⟩
          (.budgetExceeded "Evaluation reached the bounded allowance")
          ((p.leave (env.behave p.seen).ident done).write
            [.run .evaluation (env.behave p.seen).ident result]))
  | recorded (task : RepoTask) (cfg : Config) (result : EpisodeResult) (done : Episode)
      (evaluated : Evaluated env settings bounded tasks artifact design p.seen task cfg result done)
      (status : result.status ≠ .budget_exhausted) :
      Evaluation env settings bounded tasks artifact design p
        (.recorded ⟨design, (env.behave p.seen).ident, result⟩
          ((p.leave (env.behave p.seen).ident done).write
            [.run .evaluation (env.behave p.seen).ident result]))

theorem evaluateAttempt_cases (artifact : Router.Artifact) (design : Text × Policy)
    (p : Progress) :
    Evaluation env settings bounded tasks artifact design p
      (evaluateAttempt env settings bounded tasks artifact design p) := by
  unfold evaluateAttempt
  cases found : Dict.get? (by_id tasks) design.1 with
  | none => exact .unstarted _ (.inl found)
  | some task =>
    cases bounded_ : episodeBounds settings with
    | error escape => exact .unstarted _ (.inr ⟨escape, bounded_⟩)
    | ok bounds =>
      dsimp only
      split
      next escape left ran => exact .raised escape left task _ ⟨found, bounds, bounded_, rfl⟩ ran
      next result done ran =>
        have evaluated :
            Evaluated env settings bounded tasks artifact design p.seen task _ result done :=
          ⟨⟨found, bounds, bounded_, rfl⟩, Surroundings.ran_of_write ran⟩
        split_ifs with exhausted
        · exact .exhausted task _ result done evaluated exhausted
        · exact .recorded task _ result done evaluated exhausted

theorem task_id_of_found {task : RepoTask} {task_id : Text}
    (found : Dict.get? (by_id tasks) task_id = some task) : task.id = task_id := by
  rcases Dict.get?_foldl_set found with ⟨_, named⟩ | absent
  · exact named
  · cases absent

theorem Trained.cell {design : Text × ℕ} {earlier : List Episode} {task : RepoTask}
    {cfg : Config} {result : EpisodeResult} {done : Episode}
    (trained : Trained env settings bounded tasks design earlier task cfg result done) :
    result.task_id = design.1 ∧ result.split = task.split ∧
      result.seed = stableSeed env settings design := by
  rcases trained.config with ⟨bounds, _, rfl⟩
  rw [result_of_run trained.returned]
  exact ⟨task_id_of_found trained.found, rfl, rfl⟩

theorem Evaluated.cell {artifact : Router.Artifact} {design : Text × Policy}
    {earlier : List Episode} {task : RepoTask} {cfg : Config} {result : EpisodeResult}
    {done : Episode}
    (evaluated : Evaluated env settings bounded tasks artifact design earlier task cfg result
      done) :
    resultCell result = designCell settings.seed design ∧ result.split = task.split := by
  rcases evaluated.config with ⟨bounds, _, rfl⟩
  rw [result_of_run evaluated.returned]
  refine ⟨?_, rfl⟩
  show PlannedRun.mk task.id design.2 settings.seed = ⟨design.1, design.2, settings.seed⟩
  rw [task_id_of_found evaluated.found]

/-- The task and the seed of a training run are those of its design. -/
theorem train_names : Names (trainAttempt env settings bounded tasks configuration)
    (fun design => (design.1, stableSeed env settings design))
    (fun record => (record.result.task_id, record.result.seed)) := by
  intro design p record found
  have ways := @trainAttempt_cases env settings bounded tasks configuration design p
  generalize trainAttempt env settings bounded tasks configuration design p = upshot at found ways
  have named {task : RepoTask} {cfg : Config} {result : EpisodeResult} {done : Episode}
      (trained : Trained env settings bounded tasks design p.seen task cfg result done) :
      (result.task_id, result.seed) = (design.1, stableSeed env settings design) :=
    Prod.ext trained.cell.1 trained.cell.2.2
  cases ways with
  | unstarted escape missing => cases found
  | raised escape left task cfg setup ran => cases found
  | completed task cfg result done trained status =>
    cases found
    exact named trained
  | exhausted task cfg result done trained status =>
    cases found
    exact named trained
  | failed task cfg result done trained status =>
    cases found
    exact named trained

/-- The cell of an evaluation run is that of its design. -/
theorem evaluate_names (artifact : Router.Artifact) :
    Names (evaluateAttempt env settings bounded tasks artifact) (designCell settings.seed)
      (fun record => resultCell record.result) := by
  intro design p record found
  have ways := @evaluateAttempt_cases env settings bounded tasks artifact design p
  generalize evaluateAttempt env settings bounded tasks artifact design p = upshot at found ways
  cases ways with
  | unstarted escape missing => cases found
  | raised escape left task cfg setup ran => cases found
  | exhausted task cfg result done evaluated status =>
    cases found
    exact evaluated.cell.1
  | recorded task cfg result done evaluated status =>
    cases found
    exact evaluated.cell.1

end Attempts

/-! ## What is written -/

def Written.run? (phase : Phase) : Written → Option (Text × EpisodeResult)
  | .run recorded run_id result => if recorded = phase then some (run_id, result) else none
  | _ => none

def Written.transition? : Written → Option TrainingRow
  | .transition row => some row
  | _ => none

/-- The recorded runs of a phase, in the order of the index. -/
def runsOf (phase : Phase) (written : List Written) : List (Text × EpisodeResult) :=
  written.filterMap (Written.run? phase)

/-- The rows of the transitions file. -/
def transitionsOf (written : List Written) : List TrainingRow :=
  written.filterMap Written.transition?

section Views

variable (phase : Phase) (p : Progress)

theorem runsOf_append (first second : List Written) :
    runsOf phase (first ++ second) = runsOf phase first ++ runsOf phase second :=
  List.filterMap_append

theorem transitionsOf_append (first second : List Written) :
    transitionsOf (first ++ second) = transitionsOf first ++ transitionsOf second :=
  List.filterMap_append

theorem runsOf_write (records : List Written) :
    runsOf phase (p.write records).written = runsOf phase p.written ++ runsOf phase records :=
  runsOf_append phase _ _

/-- Events are no runs. -/
@[simp] theorem runsOf_leave (run_id : Text) (ep : Episode) :
    runsOf phase (p.leave run_id ep).written = runsOf phase p.written := by
  have none_ : runsOf phase (ep.events.map (Written.event run_id)) = [] := by
    apply List.filterMap_eq_nil_iff.mpr
    intro entry member
    rcases List.mem_map.mp member with ⟨event, _, rfl⟩
    rfl
  show runsOf phase (p.written ++ ep.events.map (Written.event run_id)) = _
  rw [runsOf_append, none_, List.append_nil]

@[simp] theorem runsOf_count : runsOf phase p.count.written = runsOf phase p.written := rfl

@[simp] theorem runsOf_fail : runsOf phase p.fail.written = runsOf phase p.written := rfl

@[simp] theorem runsOf_collect (rows : List TrainingRow) :
    runsOf phase (p.collect rows).written = runsOf phase p.written := by
  have none_ : runsOf phase (rows.map Written.transition) = [] := by
    apply List.filterMap_eq_nil_iff.mpr
    intro entry member
    rcases List.mem_map.mp member with ⟨row, _, rfl⟩
    rfl
  show runsOf phase (p.written ++ rows.map Written.transition) = _
  rw [runsOf_append, none_, List.append_nil]

end Views

section Loops

variable {env : Surroundings} {settings : Settings} {bounded : CappedProvider}
  {tasks : List RepoTask} {configuration : Configuration}

/-- The entry of a record in the index. -/
def Recorded.entry {δ : Type} (record : Recorded δ) : Text × EpisodeResult :=
  (record.run_id, record.result)

/-- The index of the training runs grows by each record. -/
theorem train_runs (designs : List (Text × ℕ)) (p : Progress) :
    runsOf .train (campaign (trainAttempt env settings bounded tasks configuration) designs
        p).state.written =
      runsOf .train p.written ++ (campaign (trainAttempt env settings bounded tasks configuration)
        designs p).records.map Recorded.entry := by
  apply campaign_view fun p : Progress => runsOf .train p.written
  intro design before
  have ways := @trainAttempt_cases env settings bounded tasks configuration design before
  generalize trainAttempt env settings bounded tasks configuration design before = upshot at ways
  cases ways with
  | unstarted escape missing => exact (List.append_nil _).symm
  | raised escape left task cfg setup ran =>
    show runsOf .train (before.leave _ left).written = _ ++ []
    rw [runsOf_leave, List.append_nil]
  | completed task cfg result done trained status =>
    simp only [Upshot.state, runsOf_collect, runsOf_count, runsOf_write, runsOf_leave]
    rfl
  | exhausted task cfg result done trained status =>
    simp only [Upshot.state, runsOf_fail, runsOf_count, runsOf_write, runsOf_leave]
    rfl
  | failed task cfg result done trained status =>
    simp only [Upshot.state, runsOf_fail, runsOf_count, runsOf_write, runsOf_leave]
    rfl

theorem evaluate_runs (artifact : Router.Artifact) (designs : List (Text × Policy))
    (p : Progress) (phase : Phase) :
    runsOf phase (campaign (evaluateAttempt env settings bounded tasks artifact) designs
        p).state.written =
      runsOf phase p.written ++ if phase = .evaluation then
        (campaign (evaluateAttempt env settings bounded tasks artifact) designs p).records.map
          Recorded.entry
      else [] := by
  have ways (design : Text × Policy) (before : Progress) :=
    @evaluateAttempt_cases env settings bounded tasks artifact design before
  cases phase with
  | evaluation =>
    rw [if_pos rfl]
    apply campaign_view fun p : Progress => runsOf .evaluation p.written
    intro design before
    have ways := ways design before
    generalize evaluateAttempt env settings bounded tasks artifact design before = upshot at ways
    cases ways with
    | unstarted escape missing => exact (List.append_nil _).symm
    | raised escape left task cfg setup ran =>
      show runsOf .evaluation (before.leave _ left).written = _ ++ []
      rw [runsOf_leave, List.append_nil]
    | exhausted task cfg result done evaluated status =>
      simp only [Upshot.state, runsOf_write, runsOf_leave]
      rfl
    | recorded task cfg result done evaluated status =>
      simp only [Upshot.state, runsOf_write, runsOf_leave]
      rfl
  | train =>
    rw [if_neg (by decide), List.append_nil]
    apply campaign_keeps
      (fun after : Progress => runsOf .train after.written = runsOf .train p.written) _ rfl
    intro design _ before same
    have ways := ways design before
    generalize evaluateAttempt env settings bounded tasks artifact design before = upshot at ways
    rw [← same]
    cases ways with
    | unstarted escape missing => rfl
    | raised escape left task cfg setup ran => exact runsOf_leave .train before _ left
    | exhausted task cfg result done evaluated status =>
      simp only [Upshot.state, runsOf_write, runsOf_leave]
      exact List.append_nil _
    | recorded task cfg result done evaluated status =>
      simp only [Upshot.state, runsOf_write, runsOf_leave]
      exact List.append_nil _

/-- Every recorded training run is counted. -/
theorem train_counts (designs : List (Text × ℕ)) (p : Progress) :
    (campaign (trainAttempt env settings bounded tasks configuration) designs
        p).state.training_completed = p.training_completed +
      (campaign (trainAttempt env settings bounded tasks configuration) designs
        p).records.length := by
  have counted : List.replicate (campaign (trainAttempt env settings bounded tasks configuration)
      designs p).state.training_completed () = List.replicate p.training_completed () ++
        (campaign (trainAttempt env settings bounded tasks configuration) designs p).records.map
          fun _ => () := by
    apply campaign_view fun p : Progress => List.replicate p.training_completed ()
    intro design before
    have ways := @trainAttempt_cases env settings bounded tasks configuration design before
    generalize trainAttempt env settings bounded tasks configuration design before = upshot at ways
    cases ways with
    | unstarted escape missing => exact (List.append_nil _).symm
    | raised escape left task cfg setup ran => exact (List.append_nil _).symm
    | completed => exact List.replicate_succ'
    | exhausted => exact List.replicate_succ'
    | failed => exact List.replicate_succ'
  have lengths := congrArg List.length counted
  rw [List.length_append, List.length_replicate, List.length_replicate, List.length_map] at lengths
  exact lengths

theorem evaluate_counts (artifact : Router.Artifact) (designs : List (Text × Policy))
    (p : Progress) :
    (campaign (evaluateAttempt env settings bounded tasks artifact) designs
      p).state.training_completed = p.training_completed := by
  apply campaign_keeps
    (fun after : Progress => after.training_completed = p.training_completed) _ rfl
  intro design _ before same
  have ways := @evaluateAttempt_cases env settings bounded tasks artifact design before
  generalize evaluateAttempt env settings bounded tasks artifact design before = upshot at ways
  rw [← same]
  cases ways <;> rfl

end Loops

/-! ## The end of a study -/

section Ends

variable {env : Surroundings} {settings : Settings} {tasks : List RepoTask}

/-- The phases of a study that has begun. -/
structure Begun (env : Surroundings) (settings : Settings) (tasks : List RepoTask)
    (configuration : Configuration) (bounded : CappedProvider) : Prop where
  planned : plan settings tasks = .ok configuration
  allowed : CappedProvider.init env.ledger settings.max_cost_usd = .ok bounded

/-- The training loop of a study. -/
def trainedBy (env : Surroundings) (settings : Settings) (tasks : List RepoTask)
    (configuration : Configuration) (bounded : CappedProvider) :
    Conducted (Recorded (Text × ℕ)) Stop Progress :=
  campaign (trainAttempt env settings bounded tasks configuration) (trainingDesigns configuration)
    (opened env bounded configuration)

/-- What is written when the controller is frozen. -/
def frozen (env : Surroundings) (configuration : Configuration) (bounded : CappedProvider)
    (fitted : Router.Fitted) (p : Progress) : Progress :=
  p.write [.controller fitted, .manifest (frozenManifest env bounded configuration p fitted)]

/-- The evaluation loop of a study. -/
def evaluatedBy (env : Surroundings) (settings : Settings) (tasks : List RepoTask)
    (configuration : Configuration) (bounded : CappedProvider) (fitted : Router.Fitted)
    (p : Progress) : Conducted (Recorded (Text × Policy)) Stop Progress :=
  campaign (evaluateAttempt env settings bounded tasks fitted.artifact)
    (evaluationDesigns env configuration) (frozen env configuration bounded fitted p)

/-- Everything that a study which has begun can come to. -/
inductive Studying (env : Surroundings) (settings : Settings) (tasks : List RepoTask)
    (configuration : Configuration) (bounded : CappedProvider) : Studied → Prop where
  | stopped (stop : Stop)
      (reason : (trainedBy env settings tasks configuration bounded).reason = some stop) :
      Studying env settings tasks configuration bounded
        (concludeStop env tasks bounded configuration none [] (some stop)
          (trainedBy env settings tasks configuration bounded).state)
  | unfitted (escape : Escape)
      (whole : (trainedBy env settings tasks configuration bounded).reason = none)
      (refused : Router.fit_q env.fitDigest
        (trainedBy env settings tasks configuration bounded).state.training (9 / 10) 100 12 =
          .error escape) :
      Studying env settings tasks configuration bounded
        (concludeStop env tasks bounded configuration none [] (some (.escaped escape))
          (trainedBy env settings tasks configuration bounded).state)
  | evaluated (fitted : Router.Fitted)
      (whole : (trainedBy env settings tasks configuration bounded).reason = none)
      (accepted : Router.fit_q env.fitDigest
        (trainedBy env settings tasks configuration bounded).state.training (9 / 10) 100 12 =
          .ok fitted) :
      Studying env settings tasks configuration bounded
        (concludeStop env tasks bounded configuration (some fitted)
          ((evaluatedBy env settings tasks configuration bounded fitted
            (trainedBy env settings tasks configuration bounded).state).records.map Recorded.entry)
          (evaluatedBy env settings tasks configuration bounded fitted
            (trainedBy env settings tasks configuration bounded).state).reason
          (evaluatedBy env settings tasks configuration bounded fitted
            (trainedBy env settings tasks configuration bounded).state).state)

/-- What a study has written. -/
def Studied.written : Studied → List Written
  | .cancelled written => written
  | .unreported _ written => written
  | .finished _ written => written
  | _ => []

/-- A study is refused, or it has begun. -/
theorem run_study_cases :
    (run_study env settings tasks).written = [] ∧
        (∀ benchmark written, run_study env settings tasks ≠ .finished benchmark written) ∨
      ∃ configuration bounded, Begun env settings tasks configuration bounded ∧
        Studying env settings tasks configuration bounded (run_study env settings tasks) := by
  unfold run_study
  cases planned : plan settings tasks with
  | error escape => exact .inl ⟨rfl, fun _ _ same => by cases same⟩
  | ok configuration =>
    cases allowed : CappedProvider.init env.ledger settings.max_cost_usd with
    | error error => exact .inl ⟨rfl, fun _ _ same => by cases same⟩
    | ok bounded =>
      dsimp only
      by_cases occupied : env.occupied = true
      · rw [if_pos occupied]
        exact .inl ⟨rfl, fun _ _ same => by cases same⟩
      · rw [if_neg occupied]
        refine .inr ⟨configuration, bounded, ⟨planned, allowed⟩, ?_⟩
        cases reason : (trainedBy env settings tasks configuration bounded).reason with
        | some stop =>
          have studying := Studying.stopped stop reason
          unfold trainedBy at reason studying
          rw [reason]
          exact studying
        | none =>
          unfold evaluate
          cases fits : Router.fit_q env.fitDigest
              (trainedBy env settings tasks configuration bounded).state.training
                (9 / 10) 100 12 with
          | error escape =>
            have studying := Studying.unfitted escape reason fits
            unfold trainedBy at reason fits studying
            rw [reason]
            dsimp only
            rw [fits]
            exact studying
          | ok fitted =>
            have studying := Studying.evaluated fitted reason fits
            unfold trainedBy at reason fits
            unfold trainedBy evaluatedBy frozen at studying
            rw [reason]
            dsimp only
            rw [fits]
            exact studying

end Ends

end Study

end ForgeRL
