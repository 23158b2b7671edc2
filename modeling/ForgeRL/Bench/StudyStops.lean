import ForgeRL.Bench.StudyLearning

namespace ForgeRL

open Library

/-!
# Why a study stops

A study that has begun ends early for three kinds of reasons only: one of its
runs has exhausted the budget; an exception has come from outside, that is from
the evaluator, the provider, the screen of the files or the encoder of the
feedback; or the writer cannot encode what an episode has come to.  Its own
checks never stop it: every planned task is found, its bounds are accepted, its
choices are legal, and its controller can be fitted.
-/

namespace Study

/-- No evaluator of the study passes more cases than there are. -/
def Surroundings.Sane (env : Surroundings) : Prop :=
  ∀ seen calls call result, (env.behave seen).evaluator calls call = .result result →
    result.passed ≤ result.total

section Trails

variable (env : Surroundings) (settings : Settings) (bounded : CappedProvider)
  (tasks : List RepoTask)

/-- The episode that a study sets up after others, and what chooses in it. -/
inductive SetUp (earlier : List Episode) : Config → Selector → Prop where
  | training (design : Text × ℕ) (task : RepoTask) (cfg : Config)
      (setup : TrainingSetup env settings bounded tasks design earlier task cfg)
      (known : task ∈ tasks) (split : task.split = train) :
      SetUp earlier cfg (explorer env settings design)
  | evaluation (artifact : Router.Artifact) (design : Text × Policy) (task : RepoTask)
      (cfg : Config)
      (setup : EvaluationSetup env settings bounded tasks artifact design earlier task cfg)
      (known : task ∈ tasks) (split : task.split ≠ train) (policy : design.2 ∈ Router.POLICIES) :
      SetUp earlier cfg .policy

/-- The episodes of a study and their recorded runs, each set up after those
before it. -/
inductive Trail : List Episode → List (Text × EpisodeResult) → Prop where
  | begun : Trail [] []
  | next (earlier : List Episode) (runs : List (Text × EpisodeResult)) (cfg : Config)
      (selector : Selector) (result : EpisodeResult) (done : Episode)
      (trail : Trail earlier runs) (setup : SetUp env settings bounded tasks earlier cfg selector)
      (returned : run_episode cfg selector = .ok result done) :
      Trail (earlier ++ [done]) (runs ++ [((env.behave earlier).ident, result)])

end Trails

section Reasons

variable (env : Surroundings) (settings : Settings) (tasks : List RepoTask)
  (runs : List (Text × EpisodeResult))

/-- The episode that a study attempts after all of its recorded runs. -/
def Attempted (cfg : Config) (selector : Selector) : Prop :=
  ∃ bounded earlier, CappedProvider.init env.ledger settings.max_cost_usd = .ok bounded ∧
    Trail env settings bounded tasks earlier runs ∧
    SetUp env settings bounded tasks earlier cfg selector

/-- The reasons for which a study stops, given its runs. -/
inductive Explained : Option Stop → Prop where
  | unstopped : Explained none
  | budget (message : String) (run : Text × EpisodeResult) (member : run ∈ runs)
      (exhausted : run.2.status = .budget_exhausted) :
      Explained (some (.budgetExceeded message))
  | outside (escape : Escape) (cfg : Config) (selector : Selector)
      (attempted : Attempted env settings tasks runs cfg selector) (left : Episode)
      (raised : run_episode cfg selector = .raised escape left) (outside : Outside cfg escape) :
      Explained (some (.escaped escape))
  | unwritten (escape : Escape) (cfg : Config) (selector : Selector)
      (attempted : Attempted env settings tasks runs cfg selector)
      (unwritten : env.Unwritten (run_episode cfg selector) escape) :
      Explained (some (.escaped escape))

end Reasons

section Checks

variable {env : Surroundings} {settings : Settings} {bounded : CappedProvider}
  {tasks : List RepoTask} {configuration : Configuration}

/-- The bounds of a plan are bounds of an episode. -/
theorem episodeBounds_ok (accepted : settings.Bounded) :
    ¬ ∃ refused, episodeBounds settings = .error refused := by
  have steps := accepted.max_steps
  have decisions := accepted.max_decisions
  have retries := accepted.rate_limit_retries
  rintro ⟨refused, same⟩
  unfold episodeBounds at same
  rw [dif_pos] at same
  · cases same
  · omega

theorem by_id_found {task : RepoTask} (member : task ∈ tasks) :
    Dict.get? (by_id tasks) task.id ≠ none := by
  have filed : (Dict.get? (by_id tasks) task.id).isSome = true :=
    Dict.isSome_get?_foldl_set (.inl (List.mem_map_of_mem member))
  intro absent
  rw [absent] at filed
  cases filed

section Outcomes

variable {earlier : List Episode} {cfg : Config} {selector : Selector}

theorem SetUp.sane (setup : SetUp env settings bounded tasks earlier cfg selector)
    (sane : env.Sane) : Episode.SaneEvaluator cfg := by
  cases setup with
  | training design task cfg setup known split =>
    rcases setup.config with ⟨bounds, _, rfl⟩
    exact fun calls call result answer => sane earlier calls call result answer
  | evaluation artifact design task cfg setup known split policy =>
    rcases setup.config with ⟨bounds, _, rfl⟩
    exact fun calls call result answer => sane earlier calls call result answer

/-- What chooses in an episode of a study chooses what is offered. -/
theorem SetUp.offered (setup : SetUp env settings bounded tasks earlier cfg selector) :
    Episode.Offered cfg selector := by
  cases setup with
  | training design task cfg setup known split => exact .explore _ _
  | evaluation artifact design task cfg setup known split policy =>
    have released : ∀ policy ∈ Router.POLICIES, policy.Released := by decide
    rcases setup.config with ⟨bounds, _, rfl⟩
    exact .policy (released design.2 policy)

/-- An episode that leaves no record explains the stop. -/
theorem Attempted.explains {runs : List (Text × EpisodeResult)} (sane : env.Sane)
    (attempted : Attempted env settings tasks runs cfg selector) {escape : Escape} {left : Episode}
    (raised : env.write (run_episode cfg selector) = .raised escape left)
    (running : escape ≠ .cancelled) :
    Explained env settings tasks runs (some (.escaped escape)) := by
  rcases Surroundings.raised_of_write raised with ran | unwritten
  · have set_up := attempted
    rcases set_up with ⟨bounded, earlier, _, _, setup⟩
    rcases Episode.run_outside (setup.sane sane) setup.offered ran with cancelled | outside
    · exact absurd cancelled running
    · exact .outside escape cfg selector attempted left ran outside
  · exact .unwritten escape cfg selector attempted unwritten

end Outcomes

/-- A recorded training attempt continues the trail. -/
theorem trail_trained (begun : Begun env settings tasks configuration bounded)
    {design : Text × ℕ} (designed : design ∈ trainingDesigns configuration)
    {before later : Progress} {record : Recorded (Text × ℕ)}
    (trail : Trail env settings bounded tasks before.seen (runsOf .train before.written))
    (attempted : trainAttempt env settings bounded tasks configuration design before =
      .recorded record later) :
    Trail env settings bounded tasks later.seen (runsOf .train later.written) := by
  have ways := @trainAttempt_cases env settings bounded tasks configuration design before
  rw [attempted] at ways
  have continues {task : RepoTask} {cfg : Config} {result : EpisodeResult} {done : Episode}
      (trained : Trained env settings bounded tasks design before.seen task cfg result done) :
      Trail env settings bounded tasks (before.seen ++ [done]) (runsOf .train before.written ++
        [((env.behave before.seen).ident, result)]) := by
    rcases trained.toTrainingSetup.known (planned_of_plan begun.planned) designed with
      ⟨known, split⟩
    exact .next _ _ cfg _ result done trail (.training design task cfg trained.toTrainingSetup
      known split) trained.returned
  cases ways with
  | completed task cfg result done trained status =>
    simp only [runsOf_collect, runsOf_count, runsOf_write, runsOf_leave]
    exact continues trained
  | failed task cfg result done trained status =>
    simp only [runsOf_fail, runsOf_count, runsOf_write, runsOf_leave]
    exact continues trained

/-- What ends the training of a study. -/
theorem trained_explained (sane : env.Sane)
    (begun : Begun env settings tasks configuration bounded)
    {stop : Stop} (reason : (trainedBy env settings tasks configuration bounded).reason = some stop)
    (running : stop ≠ .escaped .cancelled) :
    Explained env settings tasks ((trainedBy env settings tasks configuration bounded).records.map
      Recorded.entry) (some stop) := by
  have planned := planned_of_plan begun.planned
  rcases exists_stop (fun p : Progress =>
      Trail env settings bounded tasks p.seen (runsOf .train p.written))
    (fun design designed before record later trail attempted =>
      trail_trained begun designed trail attempted) .begun reason with
    ⟨design, designed, before, trail, stopped, left_, kept⟩
  rcases planned.training_task (mem_trainingDesigns designed) with ⟨known, member, named, _⟩
  have ways := @trainAttempt_cases env settings bounded tasks configuration design before
  generalize trainAttempt env settings bounded tasks configuration design before = upshot
    at ways stopped left_ kept
  cases ways with
  | unstarted escape missing =>
    rcases missing with absent | refused
    · exact absurd absent (named ▸ by_id_found member)
    · exact absurd refused (episodeBounds_ok planned.bounded)
  | raised escape left task cfg setup ran =>
    cases stopped
    have runs := runsOf_trained env settings tasks configuration bounded
    unfold trainedBy at runs ⊢
    rw [← left_] at runs
    rw [← runs]
    rcases setup.known planned designed with ⟨known_, split⟩
    have attempted : Attempted env settings tasks (runsOf .train before.written) cfg
        (explorer env settings design) :=
      ⟨bounded, before.seen, begun.allowed, trail, .training design task cfg setup known_ split⟩
    have unread : runsOf .train (before.leave (env.behave before.seen).ident left).written =
        runsOf .train before.written := runsOf_leave .train before _ left
    show Explained env settings tasks (runsOf .train (before.leave _ left).written) _
    rw [unread]
    exact attempted.explains sane ran fun same => running (congrArg Stop.escaped same)
  | completed task cfg result done trained status => cases stopped
  | exhausted task cfg result done trained status =>
    cases stopped
    exact .budget _ _ (List.mem_map_of_mem (kept _ rfl)) status
  | failed task cfg result done trained status => cases stopped

/-- The runs before the evaluation. -/
theorem trail_frozen (begun : Begun env settings tasks configuration bounded)
    (fitted : Router.Fitted)
    (whole : (trainedBy env settings tasks configuration bounded).reason = none) :
    Trail env settings bounded tasks
      (frozen env configuration bounded fitted
        (trainedBy env settings tasks configuration bounded).state).seen
      (runsOf .train (trainedBy env settings tasks configuration bounded).state.written ++
        runsOf .evaluation (frozen env configuration bounded fitted
          (trainedBy env settings tasks configuration bounded).state).written) := by
  have trained := whole_keeps (fun p : Progress =>
      Trail env settings bounded tasks p.seen (runsOf .train p.written))
    (fun design designed before record later trail attempted =>
      trail_trained begun designed trail attempted) .begun whole
  unfold frozen
  rw [runsOf_write, runsOf_untrained, List.nil_append]
  show Trail env settings bounded tasks _ (_ ++ [])
  rw [List.append_nil]
  exact trained

/-- A recorded evaluation continues the trail. -/
theorem trail_evaluated (begun : Begun env settings tasks configuration bounded)
    {artifact : Router.Artifact} {first : List (Text × EpisodeResult)} {design : Text × Policy}
    (designed : design ∈ evaluationDesigns env configuration)
    {before later : Progress} {record : Recorded (Text × Policy)}
    (trail : Trail env settings bounded tasks before.seen
      (first ++ runsOf .evaluation before.written))
    (attempted : evaluateAttempt env settings bounded tasks artifact design before =
      .recorded record later) :
    Trail env settings bounded tasks later.seen (first ++ runsOf .evaluation later.written) := by
  have ways := @evaluateAttempt_cases env settings bounded tasks artifact design before
  rw [attempted] at ways
  cases ways with
  | recorded task cfg result done evaluated status =>
    rcases evaluated.toEvaluationSetup.known (planned_of_plan begun.planned) designed with
      ⟨known, split⟩
    rw [runsOf_write, runsOf_leave, ← List.append_assoc]
    exact .next _ _ cfg _ result done trail (.evaluation artifact design task cfg
      evaluated.toEvaluationSetup known split (policy_of_design designed)) evaluated.returned

/-- What ends the evaluation of a study. -/
theorem evaluated_explained (sane : env.Sane)
    (begun : Begun env settings tasks configuration bounded) (fitted : Router.Fitted)
    {first : List (Text × EpisodeResult)} {p : Progress}
    (trail : Trail env settings bounded tasks (frozen env configuration bounded fitted p).seen
      (first ++ runsOf .evaluation (frozen env configuration bounded fitted p).written))
    (none_ : runsOf .evaluation (frozen env configuration bounded fitted p).written = [])
    {stop : Stop}
    (reason : (evaluatedBy env settings tasks configuration bounded fitted p).reason = some stop)
    (running : stop ≠ .escaped .cancelled) :
    Explained env settings tasks (first ++
      (evaluatedBy env settings tasks configuration bounded fitted p).records.map Recorded.entry)
        (some stop) := by
  have planned := planned_of_plan begun.planned
  rcases exists_stop (fun p : Progress =>
      Trail env settings bounded tasks p.seen (first ++ runsOf .evaluation p.written))
    (fun design designed before record later trail attempted =>
      trail_evaluated begun designed trail attempted) trail reason with
    ⟨design, designed, before, trail, stopped, left_, kept⟩
  rcases planned.evaluation_task (mem_evaluationDesigns designed) with ⟨known, member, named, _⟩
  have ways := @evaluateAttempt_cases env settings bounded tasks fitted.artifact design before
  generalize evaluateAttempt env settings bounded tasks fitted.artifact design before = upshot
    at ways stopped left_ kept
  cases ways with
  | unstarted escape missing =>
    rcases missing with absent | refused
    · exact absurd absent (named ▸ by_id_found member)
    · exact absurd refused (episodeBounds_ok planned.bounded)
  | raised escape left task cfg setup ran =>
    cases stopped
    have runs := @evaluate_runs env settings bounded tasks fitted.artifact
      (evaluationDesigns env configuration) (frozen env configuration bounded fitted p) .evaluation
    rw [if_pos rfl, none_, List.nil_append, ← left_] at runs
    unfold evaluatedBy
    rw [← runs]
    rcases setup.known planned designed with ⟨known_, split⟩
    have attempted : Attempted env settings tasks (first ++ runsOf .evaluation before.written) cfg
        .policy :=
      ⟨bounded, before.seen, begun.allowed, trail, .evaluation fitted.artifact design task cfg
        setup known_ split (policy_of_design designed)⟩
    show Explained env settings tasks
      (first ++ runsOf .evaluation (before.leave _ left).written) _
    rw [runsOf_leave]
    exact attempted.explains sane ran fun same => running (congrArg Stop.escaped same)
  | exhausted task cfg result done evaluated status =>
    cases stopped
    exact .budget _ _ (List.mem_append_right _ (List.mem_map_of_mem (kept _ rfl))) status
  | recorded task cfg result done evaluated status => cases stopped

end Checks

/-! ## The whole study -/

section Studies

variable {env : Surroundings} {settings : Settings} {tasks : List RepoTask}
  {configuration : Configuration} {bounded : CappedProvider} {benchmark : Benchmark}
  {written : List Written}

/-- The recorded runs of both phases. -/
def allRuns (written : List Written) : List (Text × EpisodeResult) :=
  runsOf .train written ++ runsOf .evaluation written

/-- Of some runs only the last can have exhausted the budget, and then there is
a reason to stop. -/
def LastExhausted (runs : List (Text × EpisodeResult)) (stop : Option Stop) : Prop :=
  ∀ earlier run later, runs = earlier ++ run :: later → run.2.status = .budget_exhausted →
    later = [] ∧ stop ≠ none

def ExhaustedRecord {δ : Type} (record : Recorded δ) : Prop :=
  record.result.status = .budget_exhausted

/-- The runs of a campaign whose attempts do not go on after such a record. -/
theorem lastExhausted_campaign {δ : Type} {attempt : δ → Progress →
      Upshot (Recorded δ) Stop Progress} {designs : List δ} {p : Progress}
    (ends : ∀ design before record later, attempt design before = .recorded record later →
      ¬ ExhaustedRecord record) :
    LastExhausted ((campaign attempt designs p).records.map Recorded.entry)
      (campaign attempt designs p).reason := by
  intro earlier run later split exhausted
  rcases List.map_eq_append_iff.mp split with ⟨before, rest, records, rfl, tail_⟩
  rcases List.map_eq_cons_iff.mp tail_ with ⟨record, after, rfl, rfl, rfl⟩
  have exhausted : ExhaustedRecord record := exhausted
  rcases last_of_kind ends records exhausted with ⟨none_, stopped⟩
  rw [none_]
  exact ⟨rfl, stopped⟩

theorem train_ends {design : Text × ℕ} {before later : Progress} {record : Recorded (Text × ℕ)}
    (attempted : trainAttempt env settings bounded tasks configuration design before =
      .recorded record later) : ¬ ExhaustedRecord record := by
  have ways := @trainAttempt_cases env settings bounded tasks configuration design before
  rw [attempted] at ways
  cases ways with
  | completed task cfg result done trained status =>
    unfold ExhaustedRecord
    rw [status]
    decide
  | failed task cfg result done trained status => exact status.2

theorem evaluate_ends {artifact : Router.Artifact} {design : Text × Policy}
    {before later : Progress} {record : Recorded (Text × Policy)}
    (attempted : evaluateAttempt env settings bounded tasks artifact design before =
      .recorded record later) : ¬ ExhaustedRecord record := by
  have ways := @evaluateAttempt_cases env settings bounded tasks artifact design before
  rw [attempted] at ways
  cases ways with
  | recorded task cfg result done evaluated status => exact status

/-- Runs of which none can go on, after runs that nothing has stopped. -/
theorem LastExhausted.after {runs more : List (Text × EpisodeResult)} {stop : Option Stop}
    (first : LastExhausted runs none) (second : LastExhausted more stop) :
    LastExhausted (runs ++ more) stop := by
  intro earlier run later split exhausted
  have unexhausted : run ∉ runs := by
    intro member
    rcases List.append_of_mem member with ⟨before, after, same⟩
    exact (first before run after same exhausted).2 rfl
  rcases List.append_eq_append_iff.mp split with ⟨middle, _, rest⟩ | ⟨middle, whole, rest⟩
  · exact second middle run later rest exhausted
  · cases middle with
    | nil => exact second [] run later rest.symm exhausted
    | cons other middle =>
      rw [whole, (List.cons.inj rest).1] at unexhausted
      exact absurd (List.mem_append_right _ List.mem_cons_self) unexhausted

theorem smallTasks_named : ∀ task ∈ smallTasks, task.id ≠ [] := by decide +kernel

end Studies

end Study

end ForgeRL
