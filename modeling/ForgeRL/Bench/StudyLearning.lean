import ForgeRL.Bench.StudyPhases
import ForgeRL.Bench.Reordered
import ForgeRL.Bench.Supervised

namespace ForgeRL

open Library

/-!
# What a study's learners are given

The rows that a study collects are read by three programs: the fitted
controller, the audit and the supervised baseline.  Each of them refuses rows
that it cannot trust.  None of them refuses the rows of a study, as long as its
tasks have names, its provider charges nothing negative and no operation
rounds: the rows are whole episodes of training tasks with legal actions, and
the rewards of an episode make up whether it was solved, less its weighted
cost.
-/

namespace Study

/-- No provider of the study charges less than nothing. -/
def Surroundings.Charges (env : Surroundings) : Prop := ∀ seen, (env.behave seen).provider.Charges

theorem capped_charges {bounded : CappedProvider} {inner : HostedProvider}
    (charges : inner.Charges) (ledgers : List Request → Ledger × Ledger) :
    (capped bounded inner ledgers).Charges := by
  intro earlier request
  unfold capped
  dsimp only
  cases inner.estimate_reservation_usd with
  | none => exact le_refl 0
  | some estimate =>
    dsimp only
    cases estimate earlier request.toQuery with
    | error refused => cases refused <;> exact le_refl 0
    | ok expected =>
      dsimp only
      split_ifs
      · exact le_refl 0
      · exact charges earlier request

/-! ## The rows of one episode -/

/-- The rows of a completed training run. -/
structure Collected (runs : List (Text × EpisodeResult)) (episode : List TrainingRow) : Prop where
  complete : Pilot.Complete episode
  charged : ∀ row ∈ episode, 0 ≤ Pilot.amount row.cost_usd
  rewarded : ∃ run ∈ runs, run.2.status = .completed ∧
    (episode.map fun row => Pilot.amount row.reward).sum = (if run.2.solved then 1 else 0) -
      5 * (episode.map fun row => Pilot.amount row.cost_usd).sum ∧
    run.2.cost_usd =
      Episode.roundedCost (episode.map fun row => Pilot.amount row.cost_usd).sum

theorem Collected.mono {runs more : List (Text × EpisodeResult)} {episode : List TrainingRow}
    (collected : Collected runs episode) (subset : runs ⊆ more) : Collected more episode where
  complete := collected.complete
  charged := collected.charged
  rewarded := by
    rcases collected.rewarded with ⟨run, member, facts⟩
    exact ⟨run, subset member, facts⟩

section Sums

variable {arithmetic : Arithmetic} (solved : Bool) (cost_weight : ℚ)

theorem sum_costs (transitions : List Transition) :
    ((trainingRows arithmetic solved cost_weight transitions).map
        fun row => Pilot.amount row.cost_usd) =
      transitions.map Transition.cost_usd := by
  rcases transitions.eq_nil_or_concat' with rfl | ⟨earlier, last, rfl⟩
  · rfl
  · rw [trainingRows_concat, List.map_append, List.map_append, List.map_map]
    rfl

theorem reward_of_exact (exact_ : arithmetic.Exact) (terminal : Bool) (transition : Transition) :
    Pilot.amount (trainingRow arithmetic solved cost_weight terminal transition).reward =
      (if terminal then (if solved then 1 else 0) else 0) - cost_weight * transition.cost_usd := by
  show arithmetic.round (_ - arithmetic.round _) = _
  rw [exact_, exact_]

theorem sum_rewards (exact_ : arithmetic.Exact) (earlier : List Transition) (last : Transition) :
    ((trainingRows arithmetic solved cost_weight (earlier ++ [last])).map
        fun row => Pilot.amount row.reward).sum =
      (if solved then 1 else 0) -
        cost_weight * ((earlier ++ [last]).map Transition.cost_usd).sum := by
  have before : ((earlier.map (trainingRow arithmetic solved cost_weight false)).map
      fun row => Pilot.amount row.reward) =
        earlier.map fun transition => -cost_weight * transition.cost_usd := by
    rw [List.map_map]
    apply List.map_congr_left
    intro transition _
    show Pilot.amount (trainingRow arithmetic solved cost_weight false transition).reward = _
    rw [reward_of_exact solved cost_weight exact_, if_neg Bool.false_ne_true, zero_sub, neg_mul]
  have ends : Pilot.amount (trainingRow arithmetic solved cost_weight true last).reward =
      (if solved then 1 else 0) - cost_weight * last.cost_usd :=
    reward_of_exact solved cost_weight exact_ true last
  rw [trainingRows_concat, List.map_append, List.sum_append, before, List.map_singleton,
    List.sum_singleton, ends, List.sum_map_mul_left, List.map_append, List.sum_append,
    List.map_singleton, List.sum_singleton]
  ring

end Sums

section Loops

variable {env : Surroundings} {settings : Settings} {bounded : CappedProvider}
  {tasks : List RepoTask} {configuration : Configuration}

theorem Trained.collected (charges : env.Charges) (exact_ : env.arithmetic.Exact)
    {design : Text × ℕ} {earlier : List Episode} {task : RepoTask} {cfg : Config}
    {result : EpisodeResult} {done : Episode}
    (trained : Trained env settings bounded tasks design earlier task cfg result done)
    (completed : result.status = .completed) (some_ : done.transitions ≠ []) (run_id : Text) :
    Collected [(run_id, result)]
      (trainingRows env.arithmetic result.solved 5 done.transitions) := by
  have returned := trained.returned
  rcases trained.config with ⟨bounds, _, rfl⟩
  have trajectory := Episode.completed_trajectory _ _ returned completed
  have cost_usd : (done.transitions.map Transition.cost_usd).sum = done.cost_usd :=
    trajectory.2.2.2 exact_
  rcases done.transitions.eq_nil_or_concat' with empty | ⟨first, last, split⟩
  · exact absurd empty some_
  · constructor
    · rw [split, trainingRows_concat]
      constructor
      · refine ⟨_, _, rfl, ?_, rfl⟩
        intro row member
        rcases List.mem_map.mp member with ⟨transition, _, rfl⟩
        rfl
      · rw [← trainingRows_concat, ← split]
        have named (row : TrainingRow)
            (member : row ∈ trainingRows env.arithmetic result.solved 5 done.transitions) :
            row.task_id = .str task.id := by
          rcases mem_trainingRows member with ⟨transition, listed, terminal, rfl⟩
          exact congrArg Json.str (legal_of_run rfl returned transition listed).1
        intro row here other there
        rw [named row here, named other there]
    · intro row member
      rcases mem_trainingRows member with ⟨transition, listed, terminal, rfl⟩
      exact Episode.transition_charged (capped_charges (charges earlier) _) exact_ returned
        completed transition listed
    · refine ⟨_, List.mem_singleton_self _, completed, ?_, ?_⟩
      · rw [sum_costs, split, sum_rewards _ _ exact_]
      · rw [sum_costs, cost_usd, result_of_run returned]
        exact exact_ _

/-- The rows that have been collected are whole episodes. -/
def Gathers (p : Progress) : Prop :=
  ∃ episodes : List (List TrainingRow), p.training = episodes.flatten ∧
    ∀ episode ∈ episodes, Collected (runsOf .train p.written) episode

theorem Gathers.write {p later : Progress} (gathers : Gathers p)
    (more : List (Text × EpisodeResult)) (same : later.training = p.training)
    (grown : runsOf .train later.written = runsOf .train p.written ++ more) : Gathers later := by
  rcases gathers with ⟨episodes, rows, collected⟩
  refine ⟨episodes, same.trans rows, fun episode member => ?_⟩
  apply (collected episode member).mono
  rw [grown]
  exact List.subset_append_left _ _

theorem gathers_attempt (planned : Planned settings tasks configuration) (charges : env.Charges)
    (exact_ : env.arithmetic.Exact) (design : Text × ℕ) {p : Progress} (gathers : Gathers p) :
    Gathers (trainAttempt env settings bounded tasks configuration design p).state := by
  have ways := @trainAttempt_cases env settings bounded tasks configuration design p
  generalize trainAttempt env settings bounded tasks configuration design p = upshot at ways
  cases ways with
  | unstarted escape missing => exact gathers
  | raised escape left task cfg setup ran =>
    refine gathers.write [] rfl ?_
    rw [List.append_nil]
    exact runsOf_leave .train p _ left
  | completed task cfg result done trained status =>
    have recorded : runsOf .train ((((p.leave (env.behave p.seen).ident done).write
        [.run .train (env.behave p.seen).ident result]).count).collect
          (trainingRows env.arithmetic result.solved configuration.cost_weight
            done.transitions)).written =
        runsOf .train p.written ++ [((env.behave p.seen).ident, result)] := by
      simp only [runsOf_collect, runsOf_count, runsOf_write, runsOf_leave]
      rfl
    rcases gathers with ⟨episodes, rows, collected⟩
    have earlier : ∀ episode ∈ episodes, Collected (runsOf .train p.written ++
        [((env.behave p.seen).ident, result)]) episode := fun episode member =>
      (collected episode member).mono (List.subset_append_left _ _)
    by_cases some_ : done.transitions = []
    · refine ⟨episodes, ?_, ?_⟩
      · show p.training ++ trainingRows env.arithmetic result.solved configuration.cost_weight
            done.transitions = _
        rw [some_, rows]
        exact List.append_nil _
      · show ∀ episode ∈ episodes, Collected (runsOf .train (Progress.collect _ _).written) episode
        rw [recorded]
        exact earlier
    · refine ⟨episodes ++
        [trainingRows env.arithmetic result.solved configuration.cost_weight done.transitions],
        ?_, ?_⟩
      · show p.training ++ trainingRows env.arithmetic result.solved configuration.cost_weight
            done.transitions = _
        rw [rows, List.flatten_append]
        congr 1
        exact (List.append_nil _).symm
      · show ∀ episode ∈ episodes ++ [_],
          Collected (runsOf .train (Progress.collect _ _).written) episode
        rw [recorded]
        intro episode member
        rcases List.mem_append.mp member with before | now
        · exact earlier episode before
        · rw [List.mem_singleton.mp now, planned.cost_weight]
          exact (trained.collected charges exact_ status some_ _).mono
            (List.subset_append_right _ _)
  | exhausted task cfg result done trained status =>
    refine gathers.write [((env.behave p.seen).ident, result)] rfl ?_
    simp only [Upshot.state, runsOf_fail, runsOf_count, runsOf_write, runsOf_leave]
    rfl
  | failed task cfg result done trained status =>
    refine gathers.write [((env.behave p.seen).ident, result)] rfl ?_
    simp only [Upshot.state, runsOf_fail, runsOf_count, runsOf_write, runsOf_leave]
    rfl

theorem gathers_trained (planned : Planned settings tasks configuration) (charges : env.Charges)
    (exact_ : env.arithmetic.Exact) :
    Gathers (trainedBy env settings tasks configuration bounded).state := by
  apply campaign_keeps Gathers
  · exact fun design _ before gathers => gathers_attempt planned charges exact_ design gathers
  · exact ⟨[], rfl, fun _ member => absurd member List.not_mem_nil⟩

end Loops

/-! ## The readers -/

section Readers

variable {env : Surroundings} {settings : Settings} {tasks : List RepoTask} {row : TrainingRow}

theorem not_differs_train : Json.differs (.str train) (Json.string "train") = false := by
  decide +kernel

/-- The controller reads a sound row. -/
theorem Sound.normalized (sound : Sound tasks row) (named : ∀ task ∈ tasks, task.id ≠ []) :
    ∃ entry, Router.normalize row = .ok entry ∧ entry.task_id = row.task_id := by
  rcases sound.task with ⟨task, member, _, identified⟩
  rcases sound.reward with ⟨reward, rewarded⟩
  have accepted : ¬ (Json.differs row.split (Json.string "train") = true ∨
      row.task_id.isFalsy = true) := by
    rw [sound.split, not_differs_train, identified, not_or]
    refine ⟨Bool.false_ne_true, fun empty => named task member ?_⟩
    exact List.isEmpty_iff.mp empty
  have finite : Router.finiteNumber row.reward = .ok (some reward) := by
    rw [rewarded]
    exact if_neg id
  unfold Router.normalize
  rw [if_neg accepted, if_neg (not_not.mpr sound.legal), finite]
  exact ⟨_, rfl, rfl⟩

theorem exists_training_task (sound : Sound tasks row) : ∃ task id,
    row.task_id = .str id ∧ Dict.get? (Audit.training tasks) id = some task := by
  rcases sound.task with ⟨task, member, split, identified⟩
  have filed : (Dict.get? (Audit.training tasks) task.id).isSome = true := by
    apply Dict.isSome_get?_foldl_set
    left
    apply List.mem_map_of_mem
    exact List.mem_filter.mpr ⟨member, decide_eq_true split⟩
  rcases Option.isSome_iff_exists.mp filed with ⟨found, looked⟩
  exact ⟨found, task.id, identified, looked⟩

/-- The audit passes a sound row without a negative cost. -/
theorem Sound.passes (sound : Sound tasks row) (charged : 0 ≤ Pilot.amount row.cost_usd) :
    Audit.Passes (Audit.training tasks) row := by
  rcases exists_training_task sound with ⟨task, id, identified, found⟩
  rcases sound.reward with ⟨reward, rewarded⟩
  rcases sound.cost_usd with ⟨cost, paid⟩
  rcases sound.marked with ⟨terminal, marked⟩
  have known : Audit.knownTask (Audit.training tasks) row = .ok task := by
    unfold Audit.knownTask
    rw [sound.split, not_differs_train, if_neg Bool.false_ne_true, identified]
    dsimp only [Json.key?]
    rw [found]
  have finite (value : ℚ) : Audit.recorded (.float (.finite value)) = .ok value := rfl
  have amounts : Audit.checkAmounts row = .ok false := by
    have nonneg : ¬ cost < 0 := by
      rw [paid] at charged
      exact not_lt.mpr charged
    unfold Audit.checkAmounts
    rw [rewarded, paid, finite, finite]
    dsimp only
    rw [if_neg nonneg, sound.propensity]
    rfl
  refine ⟨(task, false), ?_⟩
  unfold Audit.checkRow
  rw [known]
  dsimp only
  rw [if_neg (by rw [sound.plain.1, sound.plain.2]; decide), if_neg (not_not.mpr sound.legal),
    marked, amounts]
  rfl

/-- What a study has written begins with what its training has written; no
transition comes later. -/
theorem written_begins (begun : (run_study env settings tasks).written ≠ []) :
    ∃ configuration bounded more, Begun env settings tasks configuration bounded ∧
      (run_study env settings tasks).written =
        (trainedBy env settings tasks configuration bounded).state.written ++ more ∧
      transitionsOf more = [] := by
  rcases @run_study_cases env settings tasks with ⟨nothing, _⟩ | ⟨configuration, bounded, begins,
    studying⟩
  · exact absurd nothing begun
  · generalize run_study env settings tasks = studied at studying
    have ended (fitted : Option Router.Fitted) (runs : List (Text × EpisodeResult))
        (stop : Option Stop) (p : Progress) (more : List Written)
        (grown : p.written =
          (trainedBy env settings tasks configuration bounded).state.written ++ more)
        (none_ : transitionsOf more = []) : ∃ last,
          (concludeStop env tasks bounded configuration fitted runs stop p).written =
            (trainedBy env settings tasks configuration bounded).state.written ++ last ∧
          transitionsOf last = [] := by
      rcases @written_concludeStop env tasks bounded configuration fitted runs stop p with
        same | ⟨benchmark, same⟩
      · exact ⟨more, same.trans grown, none_⟩
      · refine ⟨more ++ [.benchmark benchmark, .manifest benchmark.provenance], ?_, ?_⟩
        · rw [same, grown, List.append_assoc]
        · rw [transitionsOf_append, none_]
          rfl
    have untrained (stop : Option Stop) := ended none [] stop
      (trainedBy env settings tasks configuration bounded).state [] (List.append_nil _).symm rfl
    refine ⟨configuration, bounded, ?_⟩
    cases studying with
    | stopped stop reason =>
      rcases untrained (some stop) with ⟨last, facts⟩
      exact ⟨last, begins, facts⟩
    | unfitted escape whole refused =>
      rcases untrained (some (.escaped escape)) with ⟨last, facts⟩
      exact ⟨last, begins, facts⟩
    | evaluated fitted whole accepted =>
      rcases extends_evaluated begins fitted
        (trainedBy env settings tasks configuration bounded).state with ⟨after, written, entries⟩
      have grown : (evaluatedBy env settings tasks configuration bounded fitted
          (trainedBy env settings tasks configuration bounded).state).state.written =
        (trainedBy env settings tasks configuration bounded).state.written ++
          (.controller fitted :: .manifest (frozenManifest env bounded configuration
            (trainedBy env settings tasks configuration bounded).state fitted) :: after) := by
        rw [written]
        exact List.append_assoc _ _ _
      rcases ended (some fitted) _ _ _ _ grown (runsOf_evaluating entries).2 with ⟨last, facts⟩
      exact ⟨last, begins, facts⟩

/-- The controller can be fitted to sound rows. -/
theorem fit_q_of_sound {rows : List TrainingRow} (digest : List Router.Entry → String)
    (sound : ∀ row ∈ rows, Sound tasks row) (named : ∀ task ∈ tasks, task.id ≠ []) :
    ∃ fitted, Router.fit_q digest rows (9 / 10) 100 12 = .ok fitted := by
  have readable : ∀ row ∈ rows, ∃ entry, Router.normalize row = .ok entry := by
    intro row member
    rcases (sound row member).normalized named with ⟨entry, read, _⟩
    exact ⟨entry, read⟩
  rcases Router.exists_reads readable with ⟨entries, reads⟩
  have hashable : (Router.taskKeys entries).isSome := by
    apply Router.taskKeys_isSome.mpr
    intro entry member
    rcases reads.mem member with ⟨row, listed, read⟩
    rcases (sound row listed).normalized named with ⟨other, again, same⟩
    rcases (sound row listed).task with ⟨task, _, _, identified⟩
    rw [read] at again
    cases again
    rw [same, identified]
    rfl
  rcases Router.fit_q_of_reads digest Router.configured_defaults reads hashable with
    ⟨fitted, fits, _⟩
  exact ⟨fitted, fits⟩

/-- In exact arithmetic the rows of a study are whole episodes that no reader
refuses, whatever else its surroundings do: the controller is fitted to them,
and when there are any, the audit accepts them and the supervised baseline is
fitted to the returns of these episodes. -/
theorem study_rows_learnable (env : Surroundings) (settings : Settings) (tasks : List RepoTask)
    (digest : List TrainingRow → String) (exact_ : env.arithmetic.Exact) (charges : env.Charges)
    (named : ∀ task ∈ tasks, task.id ≠ []) : ∃ episodes : List (List TrainingRow),
      transitionsOf (run_study env settings tasks).written = episodes.flatten ∧
      (∀ episode ∈ episodes,
        Collected (runsOf .train (run_study env settings tasks).written) episode) ∧
      (∃ fitted, Router.fit_q env.fitDigest episodes.flatten (9 / 10) 100 12 = .ok fitted) ∧
      (episodes ≠ [] → ∃ report fitted,
        Audit.audit_rows tasks episodes.flatten false = .ok report ∧
        Pilot.fit_supervised env.arithmetic tasks digest episodes.flatten = .ok fitted ∧
        Pilot.MeansReturns env.arithmetic episodes fitted) := by
  have phased := study_phases env settings tasks
  have gathered : ∃ episodes : List (List TrainingRow),
      transitionsOf (run_study env settings tasks).written = episodes.flatten ∧
        ∀ episode ∈ episodes,
          Collected (runsOf .train (run_study env settings tasks).written) episode := by
    by_cases nothing : (run_study env settings tasks).written = []
    · rw [nothing]
      exact ⟨[], rfl, fun _ member => absurd member List.not_mem_nil⟩
    · rcases written_begins nothing with ⟨configuration, bounded, more, begins, written, none_⟩
      have trains := trains_trained begins
      rcases @gathers_trained env settings bounded tasks configuration
        (planned_of_plan begins.planned) charges exact_ with ⟨episodes, rows, collected⟩
      refine ⟨episodes, ?_, fun episode member => ?_⟩
      · rw [written, transitionsOf_append, none_, List.append_nil, trains.rows, rows]
      · rw [written, runsOf_append]
        exact (collected episode member).mono (List.subset_append_left _ _)
  rcases gathered with ⟨episodes, rows, collected⟩
  have sound : ∀ row ∈ episodes.flatten, Sound tasks row := by
    rw [← rows]
    exact fun row member => (phased.rows row member).1
  refine ⟨episodes, rows, collected, fit_q_of_sound env.fitDigest sound named, fun some_ => ?_⟩
  have passes : ∀ row ∈ episodes.flatten, Audit.Passes (Audit.training tasks) row := by
    intro row member
    rcases List.mem_flatten.mp member with ⟨episode, listed, inside⟩
    exact (sound row member).passes ((collected episode listed).charged row inside)
  have nonempty : episodes.flatten ≠ [] := by
    rcases List.exists_mem_of_ne_nil episodes some_ with ⟨episode, listed⟩
    rcases (collected episode listed).complete.ends with ⟨earlier, last, rfl, _⟩
    apply List.ne_nil_of_mem (a := last)
    exact List.mem_flatten.mpr ⟨_, listed, List.mem_append_right _ (List.mem_singleton_self last)⟩
  rcases Audit.audit_rows_ok_iff.mpr ⟨nonempty, passes⟩ with ⟨report, accepted⟩
  rcases Pilot.fit_supervised_of_complete env.arithmetic digest accepted
    (fun episode listed => (collected episode listed).complete) with ⟨fitted, fits, means⟩
  exact ⟨report, fitted, accepted, fits, means⟩

/-- The one training episode of the small study costs two cents and fails. -/
theorem study_rows_learnable_small : ∃ episodes : List (List TrainingRow),
    transitionsOf (run_study smallSurroundings smallSettings smallTasks).written =
        episodes.flatten ∧
      (∀ episode ∈ episodes, Collected
        (runsOf .train (run_study smallSurroundings smallSettings smallTasks).written) episode) ∧
      (∃ fitted, Router.fit_q smallSurroundings.fitDigest episodes.flatten (9 / 10) 100 12 =
        .ok fitted) ∧
      (episodes ≠ [] → ∃ report fitted,
        Audit.audit_rows smallTasks episodes.flatten false = .ok report ∧
        Pilot.fit_supervised smallSurroundings.arithmetic smallTasks (fun _ => "")
          episodes.flatten = .ok fitted ∧
        Pilot.MeansReturns smallSurroundings.arithmetic episodes fitted) := by
  have charges : smallSurroundings.Charges := by
    intro seen earlier request
    exact show (0 : ℚ) ≤ 1 / 100 by norm_num
  exact study_rows_learnable smallSurroundings smallSettings smallTasks (fun _ => "")
    Arithmetic.rational_exact charges (by decide +kernel)

end Readers

end Study

end ForgeRL
