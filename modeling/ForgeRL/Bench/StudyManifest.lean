import ForgeRL.Bench.StudyCrash
import ForgeRL.Bench.StudyLearning

namespace ForgeRL

open Library

/-!
# What a study says of itself

A reader of an evidence directory goes by the manifest and the index.  Every
manifest of a study has the planned configuration, it names a controller only
after the controller is there, and the last one counts the listed training runs.
Every listed run is of a selected task, with the policy and the seed of its phase.
-/

namespace Study

/-! ## Entries that are neither manifests nor controllers -/

/-- An entry of an episode, or the plan. -/
inductive Routine : Written → Prop where
  | plan (configuration : Configuration) : Routine (.plan configuration)
  | event (run_id : Text) (event : Event) : Routine (.event run_id event)
  | run (phase : Phase) (run_id : Text) (result : EpisodeResult) :
      Routine (.run phase run_id result)
  | transition (row : TrainingRow) : Routine (.transition row)

/-- The entries after a beginning are routine. -/
def Grown (start : List Written) (p : Progress) : Prop :=
  ∃ body, p.written = start ++ body ∧ ∀ entry ∈ body, Routine entry

section Growth

variable {start : List Written} {p : Progress}

theorem Grown.write {records : List Written} (grown : Grown start p)
    (routine : ∀ entry ∈ records, Routine entry) : Grown start (p.write records) := by
  rcases grown with ⟨body, written, inside⟩
  refine ⟨body ++ records, ?_, ?_⟩
  · show p.written ++ records = start ++ (body ++ records)
    rw [written, List.append_assoc]
  · intro entry member
    rcases List.mem_append.mp member with earlier | now
    · exact inside entry earlier
    · exact routine entry now

theorem Grown.leave (grown : Grown start p) (run_id : Text) (ep : Episode) :
    Grown start (p.leave run_id ep) := by
  have routine : ∀ entry ∈ ep.events.map (Written.event run_id), Routine entry := by
    intro entry member
    rcases List.mem_map.mp member with ⟨event, _, rfl⟩
    exact .event run_id event
  exact grown.write routine

theorem Grown.run (grown : Grown start p) (phase : Phase) (run_id : Text)
    (result : EpisodeResult) : Grown start (p.write [.run phase run_id result]) := by
  apply grown.write
  intro entry member
  rw [List.mem_singleton.mp member]
  exact .run phase run_id result

theorem Grown.collect (grown : Grown start p) (rows : List TrainingRow) :
    Grown start (p.collect rows) := by
  have routine : ∀ entry ∈ rows.map Written.transition, Routine entry := by
    intro entry member
    rcases List.mem_map.mp member with ⟨row, _, rfl⟩
    exact .transition row
  exact grown.write routine

end Growth

/-- Some part of the entries, none of which is routine, does not grow. -/
theorem filterMap_routine {α : Type} {part? : Written → Option α} {body : List Written}
    (silent : ∀ entry, Routine entry → part? entry = none)
    (routine : ∀ entry ∈ body, Routine entry) : body.filterMap part? = [] := by
  apply List.filterMap_eq_nil_iff.mpr
  exact fun entry member => silent entry (routine entry member)

theorem fittedIn_routine {body : List Written} (routine : ∀ entry ∈ body, Routine entry) :
    fittedIn body = [] := by
  apply filterMap_routine _ routine
  intro entry kind
  cases kind <;> rfl

/-! ## The episodes of a study -/

/-- The counters of the training are those of the index. -/
structure Tallied (p : Progress) : Prop where
  completed : p.training_completed = (runsOf .train p.written).length
  failures : p.training_failures =
    (runsOf .train p.written).countP fun run => run.2.status ≠ .completed

/-- A run of the index belongs to the plan. -/
inductive Belongs (settings : Settings) (tasks : List RepoTask) (configuration : Configuration)
    (run : Listed) : Prop where
  | train (phase : run.phase = .train) (task : RepoTask) (known : task ∈ tasks)
      (task_id : run.result.task_id = task.id) (split : run.result.split = task.split)
      (trains : task.split = Study.train) (selected : task.id ∈ configuration.training_ids)
      (policy : run.result.policy = .exploration)
      (heldout_total : run.result.heldout_total = task.hidden_cases.length)
  | evaluation (phase : run.phase = .evaluation) (task : RepoTask) (known : task ∈ tasks)
      (task_id : run.result.task_id = task.id) (split : run.result.split = task.split)
      (tests : task.split ≠ Study.train) (selected : task.id ∈ configuration.evaluation_ids)
      (policy : run.result.policy ∈ Router.POLICIES) (seed : run.result.seed = settings.seed)
      (heldout_total : run.result.heldout_total = task.hidden_cases.length)

/-- A result that was charged nothing negative. -/
structure Paid (result : EpisodeResult) : Prop where
  cost_usd : 0 ≤ result.cost_usd
  tokens : ∀ tokens, result.tokens = some tokens → 0 ≤ tokens

theorem roundedCost_nonneg {cost_usd : ℚ} (charged : 0 ≤ cost_usd) :
    0 ≤ Episode.roundedCost cost_usd := by
  have floor : (0 : ℤ) ≤ ⌊cost_usd * 100000000⌋ := Int.floor_nonneg.mpr (by positivity)
  have rounded : (0 : ℤ) ≤ roundHalfEven (cost_usd * 100000000) :=
    floor.trans (floor_le_roundHalfEven _)
  unfold Episode.roundedCost
  exact div_nonneg (Int.cast_nonneg rounded) (by norm_num)

theorem paid_of_run {cfg : Config} {selector : Selector} {result : EpisodeResult}
    {done : Episode} (charges : cfg.provider.Charges) (counts : cfg.provider.Counts)
    (returned : run_episode cfg selector = .ok result done) : Paid result := by
  have reachable := Episode.run_episode_reachable cfg selector
  rw [returned] at reachable
  have solvent : done.standing.Solvent := reachable.books (Standing.solvent_books charges counts)
  rw [result_of_run returned]
  constructor
  · exact cfg.arithmetic.round_nonneg (roundedCost_nonneg solvent.cost_usd)
  · intro tokens measured
    have known : (if done.tokens_complete then some done.tokens else none) = some tokens := measured
    split_ifs at known
    exact Option.some.inj known ▸ solvent.tokens

/-! ## The index -/

section Index

variable (p : Progress)

theorem listedIn_append (first second : List Written) :
    listedIn (first ++ second) = listedIn first ++ listedIn second :=
  List.filterMap_append

theorem listedIn_write (records : List Written) :
    listedIn (p.write records).written = listedIn p.written ++ listedIn records :=
  listedIn_append _ _

theorem listedIn_leave (run_id : Text) (ep : Episode) :
    listedIn (p.leave run_id ep).written = listedIn p.written := by
  have nothing : listedIn (ep.events.map (Written.event run_id)) = [] := by
    apply List.filterMap_eq_nil_iff.mpr
    intro entry member
    rcases List.mem_map.mp member with ⟨event, _, rfl⟩
    rfl
  show listedIn (p.written ++ ep.events.map (Written.event run_id)) = _
  rw [listedIn_append, nothing, List.append_nil]

theorem listedIn_collect (rows : List TrainingRow) :
    listedIn (p.collect rows).written = listedIn p.written := by
  have nothing : listedIn (rows.map Written.transition) = [] := by
    apply List.filterMap_eq_nil_iff.mpr
    intro entry member
    rcases List.mem_map.mp member with ⟨row, _, rfl⟩
    rfl
  show listedIn (p.written ++ rows.map Written.transition) = _
  rw [listedIn_append, nothing, List.append_nil]

end Index

/-- The runs of a phase are the listed ones of it. -/
theorem runsOf_listed (phase : Phase) (written : List Written) :
    runsOf phase written = ((listedIn written).filter fun run => run.phase = phase).map
      fun run => (run.run_id, run.result) := by
  induction written with
  | nil => rfl
  | cons entry written ih =>
    unfold runsOf listedIn at ih ⊢
    rw [List.filterMap_cons, List.filterMap_cons]
    cases entry with
    | run recorded run_id result =>
      by_cases same : recorded = phase
      · simp only [Written.run?, Written.listed?, if_pos same, List.filter_cons, decide_eq_true_eq,
          List.map_cons, ih]
      · simp only [Written.run?, Written.listed?, if_neg same, List.filter_cons, decide_eq_true_eq,
          ih]
    | _ => exact ih

/-! ## What the episodes keep -/

/-- What a study keeps, episode by episode. -/
structure Kept (settings : Settings) (tasks : List RepoTask) (configuration : Configuration)
    (start : List Written) (p : Progress) : Prop where
  grown : Grown start p
  tallied : Tallied p
  listed : ∀ run ∈ listedIn p.written,
    Belongs settings tasks configuration run ∧ Paid run.result

section Episodes

variable {env : Surroundings} {settings : Settings} {bounded : CappedProvider}
  {tasks : List RepoTask} {configuration : Configuration} {start : List Written} {p : Progress}

theorem Kept.leave (kept : Kept settings tasks configuration start p) (run_id : Text)
    (ep : Episode) : Kept settings tasks configuration start (p.leave run_id ep) where
  grown := kept.grown.leave run_id ep
  tallied := ⟨by rw [runsOf_leave]; exact kept.tallied.completed,
    by rw [runsOf_leave]; exact kept.tallied.failures⟩
  listed := by
    rw [listedIn_leave]
    exact kept.listed

/-- The listed runs after one more. -/
theorem Kept.lists (kept : Kept settings tasks configuration start p) {run : Listed}
    (belongs : Belongs settings tasks configuration run) (paid : Paid run.result) :
    ∀ other ∈ listedIn (p.write [.run run.phase run.run_id run.result]).written,
      Belongs settings tasks configuration other ∧ Paid other.result := by
  rw [listedIn_write]
  intro other member
  rcases List.mem_append.mp member with earlier | now
  · exact kept.listed other earlier
  · rw [List.mem_singleton.mp now]
    exact ⟨belongs, paid⟩

/-- A failed training run is listed and counted twice. -/
theorem Kept.fail (kept : Kept settings tasks configuration start p) {run_id : Text}
    {result : EpisodeResult}
    (belongs : Belongs settings tasks configuration ⟨.train, run_id, result⟩)
    (paid : Paid result) (status : result.status ≠ .completed) :
    Kept settings tasks configuration start
      (((p.write [.run .train run_id result]).count).fail) where
  grown := kept.grown.run .train run_id result
  tallied := by
    constructor
    · rw [runsOf_fail, runsOf_count, runsOf_write, List.length_append, ← kept.tallied.completed]
      rfl
    · rw [runsOf_fail, runsOf_count, runsOf_write, List.countP_append, ← kept.tallied.failures]
      have one : (runsOf .train [.run .train run_id result]).countP
          (fun run => run.2.status ≠ .completed) = 1 :=
        List.countP_singleton.trans (if_pos (decide_eq_true status))
      rw [one]
      rfl
  listed := kept.lists belongs paid

/-- A completed training run is listed and counted, with its rows. -/
theorem Kept.complete (kept : Kept settings tasks configuration start p) {run_id : Text}
    {result : EpisodeResult}
    (belongs : Belongs settings tasks configuration ⟨.train, run_id, result⟩)
    (paid : Paid result) (status : result.status = .completed) (rows : List TrainingRow) :
    Kept settings tasks configuration start
      (((p.write [.run .train run_id result]).count).collect rows) where
  grown := by
    have grown : Grown start (p.write [.run .train run_id result]).count :=
      kept.grown.run .train run_id result
    exact grown.collect rows
  tallied := by
    constructor
    · rw [runsOf_collect, runsOf_count, runsOf_write, List.length_append, ← kept.tallied.completed]
      rfl
    · rw [runsOf_collect, runsOf_count, runsOf_write, List.countP_append, ← kept.tallied.failures]
      have none_ : (runsOf .train [.run .train run_id result]).countP
          (fun run => run.2.status ≠ .completed) = 0 :=
        List.countP_singleton.trans (if_neg fun failed =>
          (of_decide_eq_true failed : result.status ≠ .completed) status)
      rw [none_]
      rfl
  listed := by
    rw [listedIn_collect]
    exact kept.lists belongs paid

/-- An evaluation is listed, and the counters of the training stay. -/
theorem Kept.evaluation (kept : Kept settings tasks configuration start p) {run_id : Text}
    {result : EpisodeResult}
    (belongs : Belongs settings tasks configuration ⟨.evaluation, run_id, result⟩)
    (paid : Paid result) :
    Kept settings tasks configuration start (p.write [.run .evaluation run_id result]) where
  grown := kept.grown.run .evaluation run_id result
  tallied := by
    have same : runsOf .train (p.write [.run .evaluation run_id result]).written =
        runsOf .train p.written := by
      rw [runsOf_write]
      exact List.append_nil _
    constructor
    · rw [same]
      exact kept.tallied.completed
    · rw [same]
      exact kept.tallied.failures
  listed := kept.lists belongs paid

/-- The providers of a study never report less than no tokens. -/
def Surroundings.Counts (env : Surroundings) : Prop := ∀ seen, (env.behave seen).provider.Counts

theorem capped_counts {inner : HostedProvider} (counts : inner.Counts)
    (ledgers : List Request → Ledger × Ledger) : (capped bounded inner ledgers).Counts := by
  intro earlier request
  unfold capped
  dsimp only
  cases inner.estimate_reservation_usd with
  | none => exact le_refl 0
  | some estimate =>
    dsimp only
    cases estimate earlier request.toQuery with
    | error refused => cases refused <;> exact le_refl 0
    | ok expected =>
      dsimp only
      split_ifs
      · exact le_refl 0
      · exact counts earlier request

theorem Trained.belongs (planned : Planned settings tasks configuration) {design : Text × ℕ}
    (designed : design ∈ trainingDesigns configuration) {earlier : List Episode}
    {task : RepoTask} {cfg : Config} {result : EpisodeResult} {done : Episode}
    (trained : Trained env settings bounded tasks design earlier task cfg result done)
    (run_id : Text) : Belongs settings tasks configuration ⟨.train, run_id, result⟩ := by
  rcases trained.toTrainingSetup.known planned designed with ⟨known, split⟩
  have named : task.id = design.1 := task_id_of_found trained.found
  have returned := trained.returned
  rcases trained.config with ⟨bounds, _, rfl⟩
  rw [result_of_run returned]
  exact .train rfl task known rfl rfl split (named ▸ mem_trainingDesigns designed) rfl rfl

theorem Trained.paid (charges : env.Charges) (counts : env.Counts) {design : Text × ℕ}
    {earlier : List Episode} {task : RepoTask} {cfg : Config} {result : EpisodeResult}
    {done : Episode}
    (trained : Trained env settings bounded tasks design earlier task cfg result done) :
    Paid result := by
  have returned := trained.returned
  rcases trained.config with ⟨bounds, _, rfl⟩
  exact paid_of_run (capped_charges (charges earlier) _) (capped_counts (counts earlier) _) returned

theorem Evaluated.belongs (planned : Planned settings tasks configuration)
    {artifact : Router.Artifact} {design : Text × Policy}
    (designed : design ∈ evaluationDesigns env configuration) {earlier : List Episode}
    {task : RepoTask} {cfg : Config} {result : EpisodeResult} {done : Episode}
    (evaluated : Evaluated env settings bounded tasks artifact design earlier task cfg result done)
    (run_id : Text) : Belongs settings tasks configuration ⟨.evaluation, run_id, result⟩ := by
  rcases evaluated.toEvaluationSetup.known planned designed with ⟨known, split⟩
  have named : task.id = design.1 := task_id_of_found evaluated.found
  have policy := policy_of_design designed
  have returned := evaluated.returned
  rcases evaluated.config with ⟨bounds, _, rfl⟩
  rw [result_of_run returned]
  exact .evaluation rfl task known rfl rfl split (named ▸ mem_evaluationDesigns designed) policy rfl
    rfl

theorem Evaluated.paid (charges : env.Charges) (counts : env.Counts) {artifact : Router.Artifact}
    {design : Text × Policy} {earlier : List Episode} {task : RepoTask} {cfg : Config}
    {result : EpisodeResult} {done : Episode}
    (evaluated : Evaluated env settings bounded tasks artifact design earlier task cfg result
      done) : Paid result := by
  have returned := evaluated.returned
  rcases evaluated.config with ⟨bounds, _, rfl⟩
  exact paid_of_run (capped_charges (charges earlier) _) (capped_counts (counts earlier) _) returned

theorem kept_train (planned : Planned settings tasks configuration) (charges : env.Charges)
    (counts : env.Counts) {design : Text × ℕ} (designed : design ∈ trainingDesigns configuration)
    (kept : Kept settings tasks configuration start p) :
    Kept settings tasks configuration start
      (trainAttempt env settings bounded tasks configuration design p).state := by
  have ways := @trainAttempt_cases env settings bounded tasks configuration design p
  generalize trainAttempt env settings bounded tasks configuration design p = upshot at ways
  cases ways with
  | unstarted escape missing => exact kept
  | raised escape left task cfg setup ran => exact kept.leave _ left
  | completed task cfg result done trained status =>
    exact (kept.leave _ done).complete (trained.belongs planned designed _)
      (trained.paid charges counts) status _
  | exhausted task cfg result done trained status =>
    apply (kept.leave _ done).fail (trained.belongs planned designed _)
      (trained.paid charges counts)
    rw [status]
    decide
  | failed task cfg result done trained status =>
    exact (kept.leave _ done).fail (trained.belongs planned designed _)
      (trained.paid charges counts) status.1

theorem kept_evaluate (planned : Planned settings tasks configuration) (charges : env.Charges)
    (counts : env.Counts) (artifact : Router.Artifact) {design : Text × Policy}
    (designed : design ∈ evaluationDesigns env configuration)
    (kept : Kept settings tasks configuration start p) :
    Kept settings tasks configuration start
      (evaluateAttempt env settings bounded tasks artifact design p).state := by
  have ways := @evaluateAttempt_cases env settings bounded tasks artifact design p
  generalize evaluateAttempt env settings bounded tasks artifact design p = upshot at ways
  cases ways with
  | unstarted escape missing => exact kept
  | raised escape left task cfg setup ran => exact kept.leave _ left
  | exhausted task cfg result done evaluated status =>
    exact (kept.leave _ done).evaluation (evaluated.belongs planned designed _)
      (evaluated.paid charges counts)
  | recorded task cfg result done evaluated status =>
    exact (kept.leave _ done).evaluation (evaluated.belongs planned designed _)
      (evaluated.paid charges counts)

/-- The training phase begins with a manifest, and goes on with routine entries. -/
theorem kept_trained (planned : Planned settings tasks configuration) (charges : env.Charges)
    (counts : env.Counts) :
    Kept settings tasks configuration [.manifest (openManifest env bounded configuration)]
      (trainedBy env settings tasks configuration bounded).state := by
  apply campaign_keeps (Kept settings tasks configuration _)
  · exact fun design designed before kept => kept_train planned charges counts designed kept
  · refine ⟨⟨[.plan configuration], rfl, ?_⟩, ⟨rfl, rfl⟩, ?_⟩
    · intro entry member
      rw [List.mem_singleton.mp member]
      exact .plan configuration
    · exact fun run member => absurd member List.not_mem_nil

theorem kept_evaluated (planned : Planned settings tasks configuration) (charges : env.Charges)
    (counts : env.Counts) (fitted : Router.Fitted)
    (kept : Kept settings tasks configuration start p) :
    Kept settings tasks configuration (frozen env configuration bounded fitted p).written
      (evaluatedBy env settings tasks configuration bounded fitted p).state := by
  apply campaign_keeps (Kept settings tasks configuration _)
  · exact fun design designed before held =>
      kept_evaluate planned charges counts fitted.artifact designed held
  · have same : runsOf .train (frozen env configuration bounded fitted p).written =
        runsOf .train p.written := by
      unfold frozen
      rw [runsOf_write]
      exact List.append_nil _
    refine ⟨⟨[], (List.append_nil _).symm, fun _ member => absurd member List.not_mem_nil⟩,
      ⟨?_, ?_⟩, ?_⟩
    · rw [same]
      exact kept.tallied.completed
    · rw [same]
      exact kept.tallied.failures
    · unfold frozen
      rw [listedIn_write]
      intro run member
      rcases List.mem_append.mp member with earlier | now
      · exact kept.listed run earlier
      · cases now

end Episodes

/-! ## The manifests -/

/-- Every manifest holds of what is written before it. -/
def Certified (holds : List Written → Provenance → Prop) (before written : List Written) : Prop :=
  ∀ front provenance back, written = front ++ .manifest provenance :: back →
    holds (before ++ front) provenance

section Certificates

variable {holds : List Written → Provenance → Prop} {before first second : List Written}

theorem Certified.append (certified : Certified holds before first)
    (later : Certified holds (before ++ first) second) :
    Certified holds before (first ++ second) := by
  intro front provenance back split
  rcases List.append_eq_append_iff.mp split with ⟨middle, rfl, found⟩ | ⟨middle, found, rest⟩
  · rw [← List.append_assoc]
    exact later middle provenance back found
  · cases middle with
    | nil =>
      rw [List.append_nil] at found
      have now := later [] provenance back rest.symm
      rw [List.append_nil, found] at now
      exact now
    | cons entry middle =>
      have same : entry = .manifest provenance := (List.cons.inj rest).1.symm
      exact certified front provenance middle (same ▸ found)

theorem certified_one {provenance : Provenance} (held : holds before provenance) :
    Certified holds before [.manifest provenance] := by
  intro front other back split
  rcases List.append_eq_singleton_iff.mp split.symm with ⟨rfl, same⟩ | ⟨_, impossible⟩
  · rw [Written.manifest.inj (List.cons.inj same).1, List.append_nil]
    exact held
  · cases impossible

/-- Nothing is said without a manifest. -/
theorem certified_silent {body : List Written}
    (silent : ∀ provenance, .manifest provenance ∉ body) : Certified holds before body := by
  intro front provenance back split
  refine absurd ?_ (silent provenance)
  rw [split]
  exact List.mem_append_right front List.mem_cons_self

theorem certified_routine {body : List Written} (routine : ∀ entry ∈ body, Routine entry) :
    Certified holds before body :=
  certified_silent fun _ member => nomatch routine _ member

end Certificates

/-- What a manifest says is true of the study and of what is written before it. -/
structure Says (env : Surroundings) (settings : Settings) (tasks : List RepoTask)
    (front : List Written) (provenance : Provenance) : Prop where
  planned : plan settings tasks = .ok provenance.configuration
  task_manifest_sha256 : provenance.task_manifest_sha256 = env.task_manifest_hash
  controller : ∀ digest, provenance.controller_sha256 = some digest →
    ∃ fitted, fittedIn front = [fitted] ∧ digest = env.artifactDigest fitted
  counted : provenance.status ≠ .running →
    provenance.training_completed = (runsOf .train front).length ∧
      provenance.training_failures =
        (runsOf .train front).countP fun run => run.2.status ≠ .completed

section Manifests

variable {env : Surroundings} {settings : Settings} {tasks : List RepoTask}
  {configuration : Configuration} {bounded : CappedProvider} {start : List Written}

/-- The end of a study, with the manifest of its report. -/
inductive Closing (env : Surroundings) (tasks : List RepoTask) (bounded : CappedProvider)
    (configuration : Configuration) (fitted : Option Router.Fitted)
    (runs : List (Text × EpisodeResult)) (stop : Option Stop) (p : Progress) : Studied → Prop where
  | cancelled : Closing env tasks bounded configuration fitted runs stop p (.cancelled p.written)
  | unreported (escape : Escape) :
      Closing env tasks bounded configuration fitted runs stop p (.unreported escape p.written)
  | reported (benchmark : Benchmark) (status : benchmark.status ≠ .running)
      (whole : benchmark.status = .complete → missingRuns configuration runs = [])
      (provenance : benchmark.provenance =
        lastManifest env bounded configuration fitted benchmark.status stop p) :
      Closing env tasks bounded configuration fitted runs stop p
        (.finished benchmark (p.written ++ [.benchmark benchmark, .manifest benchmark.provenance]))

theorem concludeStop_closing (fitted : Option Router.Fitted) (runs : List (Text × EpisodeResult))
    (stop : Option Stop) (p : Progress) :
    Closing env tasks bounded configuration fitted runs stop p
      (concludeStop env tasks bounded configuration fitted runs stop p) := by
  unfold concludeStop
  split_ifs
  · exact .cancelled
  · unfold conclude
    dsimp only
    cases summarize (runsIn test runs) (plannedIn tasks configuration test) with
    | error escape => exact .unreported escape
    | ok rows =>
      cases summarize (runsIn validation runs) (plannedIn tasks configuration validation) with
      | error escape => exact .unreported escape
      | ok others =>
        refine .reported _ ?_ ?_ rfl
        · show studyStatus _ _ ≠ .running
          unfold studyStatus
          split_ifs <;> decide
        · intro complete
          have status : studyStatus (missingRuns configuration runs) stop = .complete := complete
          unfold studyStatus at status
          split_ifs at status with stopped
          exact not_not.mp (not_or.mp stopped).1

/-- The report of a study is not a run. -/
theorem runsOf_report (phase : Phase) (written : List Written) (benchmark : Benchmark) :
    runsOf phase (written ++ [.benchmark benchmark]) = runsOf phase written := by
  rw [runsOf_append]
  exact List.append_nil _

theorem certified_closing {fitted : Option Router.Fitted} {runs : List (Text × EpisodeResult)}
    {stop : Option Stop} {p : Progress} {studied : Studied}
    (planned : plan settings tasks = .ok configuration)
    (tallied : Tallied p) (certified : Certified (Says env settings tasks) [] p.written)
    (controlled : ∀ controller, fitted = some controller → fittedIn p.written = [controller])
    (closing : Closing env tasks bounded configuration fitted runs stop p studied) :
    Certified (Says env settings tasks) [] studied.written := by
  cases closing with
  | cancelled => exact certified
  | unreported escape => exact certified
  | reported benchmark status whole provenance =>
    apply certified.append
    have silent : Certified (Says env settings tasks) ([] ++ p.written) [.benchmark benchmark] := by
      apply certified_silent
      intro other member
      cases List.mem_singleton.mp member
    apply silent.append
    apply certified_one
    rw [provenance]
    refine ⟨planned, rfl, ?_, ?_⟩
    · intro digest named
      rcases Option.map_eq_some_iff.mp named with ⟨controller, known, rfl⟩
      refine ⟨controller, ?_, rfl⟩
      rw [List.nil_append, fittedIn, List.filterMap_append]
      exact (List.append_nil _).trans (controlled controller known)
    · intro _
      rw [List.nil_append, runsOf_report]
      exact ⟨tallied.completed, tallied.failures⟩

/-- The manifests of the training phase. -/
theorem certified_grown {p : Progress} (planned : plan settings tasks = .ok configuration)
    (grown : Grown [.manifest (openManifest env bounded configuration)] p) :
    Certified (Says env settings tasks) [] p.written := by
  rcases grown with ⟨body, written, routine⟩
  rw [written]
  refine (certified_one ?_).append (certified_routine routine)
  constructor
  · exact planned
  · rfl
  · intro digest impossible
    cases impossible
  · exact fun running => absurd rfl running

theorem fittedIn_grown {p : Progress} (grown : Grown start p) :
    fittedIn p.written = fittedIn start := by
  rcases grown with ⟨body, written, routine⟩
  rw [written, fittedIn, List.filterMap_append]
  exact (congrArg (fittedIn start ++ ·) (fittedIn_routine routine)).trans (List.append_nil _)

/-- Every manifest of a study is true. -/
theorem run_study_certified (charges : env.Charges) (counts : env.Counts) :
    Certified (Says env settings tasks) [] (run_study env settings tasks).written := by
  rcases @run_study_cases env settings tasks with ⟨nothing, _⟩ | ⟨configuration, bounded, begun,
    studying⟩
  · rw [nothing]
    exact certified_silent fun _ => List.not_mem_nil
  · have planned := planned_of_plan begun.planned
    have kept := @kept_trained env settings bounded tasks configuration planned charges counts
    have trained := @certified_grown env settings tasks configuration bounded _ begun.planned
      kept.grown
    generalize run_study env settings tasks = studied at studying
    have none_ (controller : Router.Fitted) (impossible : none = some controller) :
        fittedIn (trainedBy env settings tasks configuration bounded).state.written =
          [controller] := nomatch impossible
    cases studying with
    | stopped stop reason =>
      exact certified_closing begun.planned kept.tallied trained none_ (concludeStop_closing ..)
    | unfitted escape whole refused =>
      exact certified_closing begun.planned kept.tallied trained none_ (concludeStop_closing ..)
    | evaluated fitted whole accepted =>
      have later := @kept_evaluated env settings bounded tasks configuration _ _ planned charges
        counts fitted kept
      have held : fittedIn (trainedBy env settings tasks configuration bounded).state.written =
          [] := fittedIn_grown kept.grown
      have one : fittedIn (frozen env configuration bounded fitted
          (trainedBy env settings tasks configuration bounded).state).written = [fitted] := by
        show fittedIn (_ ++ _) = _
        rw [fittedIn, List.filterMap_append]
        exact congrArg (· ++ [fitted]) held
      refine certified_closing begun.planned later.tallied ?_ ?_ (concludeStop_closing ..)
      · rcases later.grown with ⟨body, written, routine⟩
        rw [written]
        refine Certified.append ?_ (certified_routine routine)
        apply trained.append
        have silent : Certified (Says env settings tasks)
            ([] ++ (trainedBy env settings tasks configuration bounded).state.written)
            [.controller fitted] := by
          apply certified_silent
          intro other member
          cases List.mem_singleton.mp member
        apply silent.append
        apply certified_one
        refine ⟨begun.planned, rfl, ?_, fun running => absurd rfl running⟩
        intro digest named
        refine ⟨fitted, ?_, (Option.some.inj named).symm⟩
        rw [List.nil_append, fittedIn, List.filterMap_append]
        exact congrArg (· ++ [fitted]) held
      · intro controller known
        rw [fittedIn_grown later.grown, one, Option.some.inj known]

theorem runsOf_closing {fitted : Option Router.Fitted} {runs : List (Text × EpisodeResult)}
    {stop : Option Stop} {p : Progress} {studied : Studied} (phase : Phase)
    (closing : Closing env tasks bounded configuration fitted runs stop p studied) :
    runsOf phase studied.written = runsOf phase p.written := by
  cases closing with
  | cancelled => rfl
  | unreported escape => rfl
  | reported benchmark status whole provenance => exact runsOf_closed phase p.written benchmark

theorem listedIn_closing {fitted : Option Router.Fitted} {runs : List (Text × EpisodeResult)}
    {stop : Option Stop} {p : Progress} {studied : Studied}
    (closing : Closing env tasks bounded configuration fitted runs stop p studied) :
    listedIn studied.written = listedIn p.written := by
  cases closing with
  | cancelled => rfl
  | unreported escape => rfl
  | reported benchmark status whole provenance =>
    show listedIn (p.written ++ _) = _
    rw [listedIn_append]
    exact List.append_nil _

/-- Every listed run belongs to the plan. -/
theorem run_study_listed (charges : env.Charges) (counts : env.Counts) {run : Listed}
    (member : run ∈ listedIn (run_study env settings tasks).written) :
    ∃ configuration, plan settings tasks = .ok configuration ∧
      Belongs settings tasks configuration run ∧ Paid run.result := by
  rcases @run_study_cases env settings tasks with ⟨nothing, _⟩ | ⟨configuration, bounded, begun,
    studying⟩
  · rw [nothing] at member
    cases member
  · have planned := planned_of_plan begun.planned
    have kept := @kept_trained env settings bounded tasks configuration planned charges counts
    refine ⟨configuration, begun.planned, ?_⟩
    generalize run_study env settings tasks = studied at member studying
    cases studying with
    | stopped stop reason =>
      rw [listedIn_closing (concludeStop_closing ..)] at member
      exact kept.listed run member
    | unfitted escape whole refused =>
      rw [listedIn_closing (concludeStop_closing ..)] at member
      exact kept.listed run member
    | evaluated fitted whole accepted =>
      rw [listedIn_closing (concludeStop_closing ..)] at member
      exact (kept_evaluated planned charges counts fitted kept).listed run member

theorem runsOf_evaluated (fitted : Router.Fitted) :
    runsOf .evaluation (evaluatedBy env settings tasks configuration bounded fitted
        (trainedBy env settings tasks configuration bounded).state).state.written =
      (evaluatedBy env settings tasks configuration bounded fitted
        (trainedBy env settings tasks configuration bounded).state).records.map Recorded.entry := by
  have before : runsOf .evaluation (frozen env configuration bounded fitted
      (trainedBy env settings tasks configuration bounded).state).written = [] := by
    unfold frozen
    rw [runsOf_write, runsOf_untrained]
    rfl
  unfold evaluatedBy
  rw [evaluate_runs, before, if_pos rfl]
  rfl

theorem evaluated_beginning (fitted : Router.Fitted) (p : Progress) :
    ((evaluatedBy env settings tasks configuration bounded fitted p).records.map
        Recorded.entry).map (fun run => resultCell run.2) <+:
      (evaluationDesigns env configuration).map (designCell settings.seed) := by
  rw [List.map_map]
  exact recorded_beginning (evaluate_names fitted.artifact)

/-- No cell is evaluated twice. -/
theorem run_study_once :
    ((runsOf .evaluation (run_study env settings tasks).written).map
      fun run => resultCell run.2).Nodup := by
  rcases @run_study_cases env settings tasks with ⟨nothing, _⟩ | ⟨configuration, bounded, begun,
    studying⟩
  · rw [nothing]
    exact List.nodup_nil
  · have planned := planned_of_plan begun.planned
    generalize run_study env settings tasks = studied at studying
    cases studying with
    | stopped stop reason =>
      rw [runsOf_closing .evaluation (concludeStop_closing ..), runsOf_untrained]
      exact List.nodup_nil
    | unfitted escape whole refused =>
      rw [runsOf_closing .evaluation (concludeStop_closing ..), runsOf_untrained]
      exact List.nodup_nil
    | evaluated fitted whole accepted =>
      have arranged := designs_perm env configuration
      rw [planned.seed] at arranged
      rw [runsOf_closing .evaluation (concludeStop_closing ..), runsOf_evaluated]
      exact (evaluated_beginning fitted _).sublist.nodup
        (arranged.nodup_iff.mpr planned.nodup_expected)

/-- What has been written begins with a manifest. -/
theorem run_study_opens (charges : env.Charges) (counts : env.Counts) :
    (run_study env settings tasks).written = [] ∨
      ∃ provenance rest, (run_study env settings tasks).written = .manifest provenance :: rest := by
  rcases @run_study_cases env settings tasks with ⟨nothing, _⟩ | ⟨configuration, bounded, begun,
    studying⟩
  · exact .inl nothing
  · have planned := planned_of_plan begun.planned
    have kept := @kept_trained env settings bounded tasks configuration planned charges counts
    have opening {p : Progress} (held : ∃ provenance rest, p.written = .manifest provenance :: rest)
        {fitted : Option Router.Fitted} {runs : List (Text × EpisodeResult)} {stop : Option Stop}
        {studied : Studied}
        (closing : Closing env tasks bounded configuration fitted runs stop p studied) :
        ∃ provenance rest, studied.written = .manifest provenance :: rest := by
      rcases held with ⟨provenance, rest, same⟩
      cases closing with
      | cancelled => exact ⟨provenance, rest, same⟩
      | unreported escape => exact ⟨provenance, rest, same⟩
      | reported benchmark status whole said =>
        refine ⟨provenance, rest ++ [.benchmark benchmark, .manifest benchmark.provenance], ?_⟩
        show p.written ++ _ = _
        rw [same]
        rfl
    have first : ∃ provenance rest,
        (trainedBy env settings tasks configuration bounded).state.written =
          .manifest provenance :: rest := by
      rcases kept.grown with ⟨body, written, _⟩
      exact ⟨_, body, written⟩
    right
    generalize run_study env settings tasks = studied at studying
    cases studying with
    | stopped stop reason => exact opening first (concludeStop_closing ..)
    | unfitted escape whole refused => exact opening first (concludeStop_closing ..)
    | evaluated fitted whole accepted =>
      refine opening ?_ (concludeStop_closing ..)
      rcases (kept_evaluated planned charges counts fitted kept).grown with ⟨body, written, _⟩
      rcases first with ⟨provenance, rest, same⟩
      refine ⟨provenance, rest ++ [.controller fitted, .manifest (frozenManifest env bounded
        configuration (trainedBy env settings tasks configuration bounded).state fitted)] ++ body,
        ?_⟩
      rw [written]
      show (_ ++ _) ++ body = _
      rw [same]
      rfl

/-- A manifest that does not say that the study is running is that of its
report. -/
theorem run_study_ended {provenance : Provenance}
    (member : .manifest provenance ∈ (run_study env settings tasks).written)
    (ended : provenance.status ≠ .running) :
    ∃ benchmark, run_study env settings tasks =
        .finished benchmark (run_study env settings tasks).written ∧
      benchmark.provenance = provenance ∧ benchmark.status = provenance.status := by
  rcases @run_study_cases env settings tasks with ⟨nothing, _⟩ | ⟨configuration, bounded, begun,
    studying⟩
  · rw [nothing] at member
    cases member
  · have closes {fitted : Option Router.Fitted} {runs : List (Text × EpisodeResult)}
        {stop : Option Stop} {p : Progress} {studied : Studied} (running : StillRunning p.written)
        (closing : Closing env tasks bounded configuration fitted runs stop p studied)
        (member : .manifest provenance ∈ studied.written) :
        ∃ benchmark, studied = .finished benchmark studied.written ∧
          benchmark.provenance = provenance ∧ benchmark.status = provenance.status := by
      cases closing with
      | cancelled => exact absurd (running provenance member) ended
      | unreported escape => exact absurd (running provenance member) ended
      | reported benchmark status whole said =>
        rcases List.mem_append.mp member with earlier | last
        · exact absurd (running provenance earlier) ended
        · rcases List.mem_cons.mp last with impossible | closing
          · cases impossible
          · have same := Written.manifest.inj (List.mem_singleton.mp closing)
            refine ⟨benchmark, rfl, same.symm, ?_⟩
            rw [same, said]
            rfl
    generalize run_study env settings tasks = studied at member studying
    cases studying with
    | stopped stop reason => exact closes stillRunning_trained (concludeStop_closing ..) member
    | unfitted escape whole refused =>
      exact closes stillRunning_trained (concludeStop_closing ..) member
    | evaluated fitted whole accepted =>
      exact closes (stillRunning_evaluated fitted stillRunning_trained)
        (concludeStop_closing ..) member

/-- A complete study has a run in every cell of its plan. -/
theorem run_study_whole {benchmark : Benchmark} {written : List Written}
    (returned : run_study env settings tasks = .finished benchmark written)
    (complete : benchmark.status = .complete) (planned : plan settings tasks = .ok configuration) :
    ∀ cell ∈ expected configuration,
      cell ∈ (runsOf .evaluation written).map fun run => resultCell run.2 := by
  rcases @run_study_cases env settings tasks with ⟨_, impossible⟩ | ⟨other, bounded, begun,
    studying⟩
  · exact absurd returned (impossible benchmark written)
  · have same : other = configuration := Except.ok.inj (begun.planned.symm.trans planned)
    subst same
    have covered {fitted : Option Router.Fitted} {runs : List (Text × EpisodeResult)}
        {stop : Option Stop} {p : Progress} {studied : Studied}
        (finished : studied = .finished benchmark written)
        (evaluations : runsOf .evaluation p.written = runs)
        (closing : Closing env tasks bounded other fitted runs stop p studied) :
        ∀ cell ∈ expected other,
          cell ∈ (runsOf .evaluation written).map fun run => resultCell run.2 := by
      cases closing with
      | cancelled => cases finished
      | unreported escape => cases finished
      | reported reported status whole said =>
        cases finished
        rw [runsOf_closed, evaluations]
        intro cell member
        by_contra missing
        have listed : cell ∈ missingRuns other runs :=
          (mem_missingRows_iff cell).mpr ⟨member, missing⟩
        rw [whole complete] at listed
        cases listed
    generalize run_study env settings tasks = studied at returned studying
    cases studying with
    | stopped stop reason =>
      exact covered returned (runsOf_untrained ..) (concludeStop_closing ..)
    | unfitted escape whole refused =>
      exact covered returned (runsOf_untrained ..) (concludeStop_closing ..)
    | evaluated fitted whole accepted =>
      exact covered returned (runsOf_evaluated fitted) (concludeStop_closing ..)

end Manifests

end Study

end ForgeRL
