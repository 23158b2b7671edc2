import ForgeRL.Research.Calls
import ForgeRL.Research.Controller
import ForgeRL.Research.Reservation
import ForgeRL.Sandbox.HostGrading

namespace ForgeRL.Research

open Library

/-!
# The transitions that a tree emits

A transition is emitted from a state that the controller can read.  A request
is taken only where fewer than all steps are used, so at most two others have
been charged before it, and what those have reserved leaves a part of the
budget of the episode.  The tests of the tree, of the episode and of the
controller for a visible pass agree, because the sandbox passes no more cases
than there are.
-/

open RunpodProvider (MAX_RESERVATION reserved reserved_le)

/-- The task as the sandbox grades it. -/
def Task.graded (task : Task) : Sandbox.Task where
  description := Text.ofString task.description
  function_name := Text.ofString task.function_name
  public_cases := task.public_cases
  hidden_cases := task.hidden_cases

namespace Environment

/-- Evaluations come from the sandbox. -/
def UsesSandbox (env : Environment) : Prop :=
  ∀ log call result, env.evaluate log call = .result result →
    ∃ (host : Host) (executor : Sandbox.Executor) (evaluation : Sandbox.Evaluation),
      Sandbox.evaluate host call.task.graded (Text.ofString call.source) call.hidden executor =
          .ok evaluation ∧
        result.passed = evaluation.passed ∧ result.total = evaluation.total

/-- No request is charged more than it has reserved. -/
def Prepaid (floatText : ℚ → Text) (env : Environment) : Prop :=
  ∀ log request, (env.generate log request).cost_usd ≤ (reserved floatText request).getD 0

variable {env : Environment}

theorem Prepaid.cost_le {floatText : ℚ → Text} (prepaid : env.Prepaid floatText)
    (log : List Occurrence) (request : Request) :
    (env.generate log request).cost_usd ≤ MAX_RESERVATION := by
  apply (prepaid log request).trans
  cases reserves : reserved floatText request with
  | none => exact Nat.zero_le _
  | some amount => exact reserved_le reserves

theorem UsesSandbox.counts (sandbox : env.UsesSandbox) {log : List Occurrence} {call : EvalCall}
    {result : EvalResult} (evaluated : env.evaluate log call = .result result)
    (visible : call.hidden = false) :
    result.passed ≤ result.total ∧ result.total = call.task.public_cases.length := by
  rcases sandbox log call result evaluated with ⟨host, executor, evaluation, graded, passed, total⟩
  rw [visible] at graded
  rw [passed, total]
  exact @Sandbox.grading_counts host false _ (fun _ => Sandbox.caseName) _ _ _ graded

end Environment

/-- An episode of the tree of a task, after some of its steps. -/
structure Placed (task : Task) (steps used : ℕ) (ep : Episode) : Prop where
  task : ep.task = task
  started : ep.started = true
  attempts : ep.attempts = used
  max_steps : ep.max_steps = steps
  cost : ep.cost_usd ≤ used * MAX_RESERVATION
  counted : ep.publicResult.passed ≤ ep.publicResult.total
  small : ep.publicResult.total < 2 ^ 63
  improvement : ep.improvement.natAbs < 2 ^ 63
  replans : ep.replan_count = 0

section Episodes

variable {task : Task} {steps used : ℕ} {ep : Episode}

theorem Placed.countable (placed : Placed task steps used ep) (bounded : steps ≤ 3)
    (within : used ≤ steps) : Controller.Countable ep.observation where
  attempts := by
    have same : ep.observation.attempts = used := placed.attempts
    omega
  max_steps := by
    have same : ep.observation.max_steps = steps := placed.max_steps
    omega
  public_passed := placed.counted.trans_lt placed.small
  public_total := placed.small
  improvement := placed.improvement
  replan_count := by
    have same : ep.observation.replan_count = 0 := placed.replans
    omega

/-- Fewer steps than all cost less than the budget of the episode. -/
theorem Placed.affordable (placed : Placed task steps used ep) (bounded : steps ≤ 3)
    (more : used < steps) : ep.cost_usd < maxEpisodeCost := by
  have cost := placed.cost
  have two : used * MAX_RESERVATION ≤ 2 * MAX_RESERVATION := Nat.mul_le_mul_right _ (by omega)
  have reserve : 2 * MAX_RESERVATION < maxEpisodeCost := by decide
  omega

/-- Where the tests still fail and a step is left, patching is legal. -/
theorem Placed.open_ (placed : Placed task steps used ep) (bounded : steps ≤ 3)
    (more : used < steps) (failing : ¬ PublicPass ep.observation) :
    Controller.Open ep.observation where
  countable := placed.countable bounded more.le
  visible := by
    have counted := placed.counted
    by_contra passes
    rw [not_or, not_lt] at passes
    exact failing ⟨Nat.pos_of_ne_zero passes.1, le_antisymm counted passes.2⟩
  steps := by
    have attempts : ep.observation.attempts = used := placed.attempts
    have max_steps : ep.observation.max_steps = steps := placed.max_steps
    omega
  cost := placed.affordable bounded more

end Episodes

namespace Episode

variable {env : Environment} {floatText : ℚ → Text} {task : Task} {steps used : ℕ}

/-- What a visible evaluation assigns. -/
theorem evaluate_counts (sandbox : env.UsesSandbox) {assign : EvalResult → Episode → Episode}
    {session : Session} :
    (evaluate env false assign session).Ensures
      (fun after => ∃ result, after.episode = assign result session.episode ∧
        result.passed ≤ result.total ∧
        result.total = session.episode.task.public_cases.length) (fun _ _ => True) := by
  unfold evaluate
  dsimp only
  cases evaluated : env.evaluate session.log (session.episode.evalCall false) with
  | result result => exact ⟨result, rfl, sandbox.counts evaluated rfl⟩
  | raised failure => trivial

/-- The baseline of a new episode. -/
theorem start_placed (sandbox : env.UsesSandbox) (sized : task.public_cases.length < 2 ^ 63)
    {max_steps seed : ℤ} (valid : 1 ≤ max_steps ∧ max_steps ≤ 3) (log : List Occurrence) :
    (start env ⟨Episode.new task .research_tree max_steps seed, log⟩).Ensures
      (fun after => Placed task max_steps.toNat 0 after.episode) (fun _ _ => True) := by
  have fresh : ¬ (Episode.new task .research_tree max_steps seed).started = true := by
    simp [Episode.new]
  have limit : (min 3 (max 1 max_steps)).toNat = max_steps.toNat := by omega
  have still : (0 : ℤ).natAbs < 2 ^ 63 := by decide
  unfold start
  rw [if_neg fresh]
  apply (evaluate_counts sandbox).mono
  · rintro after ⟨result, same, counted, total⟩
    have small : result.total < 2 ^ 63 := total ▸ sized
    rw [same, assignBaseline]
    split_ifs
    · exact ⟨rfl, rfl, rfl, limit, Nat.zero_le _, counted, small, still, rfl⟩
    · exact ⟨rfl, rfl, rfl, limit, Nat.zero_le _, counted, small, still, rfl⟩
  · exact fun _ _ _ => trivial

/-- What a request has generated. -/
theorem acceptResult_placed {ep : Episode} (placed : Placed task steps used ep) {action : Action}
    (patches : action ∈ PATCH_ACTIONS) {generated : ProviderResult}
    (paid : generated.cost_usd ≤ MAX_RESERVATION) :
    Placed task steps (used + 1)
      (acceptResult generated (beginRequest action { ep with last_action := some action })) where
  task := placed.task
  started := placed.started
  attempts := congrArg Nat.succ placed.attempts
  max_steps := placed.max_steps
  cost := by
    rw [Nat.succ_mul]
    exact Nat.add_le_add placed.cost paid
  counted := placed.counted
  small := placed.small
  improvement := placed.improvement
  replans := by
    have kept : ¬ action = .replan := by
      rw [PATCH_ACTIONS, List.mem_pair] at patches
      rcases patches with rfl | rfl <;> decide
    exact (if_neg kept).trans placed.replans

/-- The visible tests change nothing but their result and the improvement. -/
theorem assignMeasured_placed {ep : Episode} (placed : Placed task steps used ep) {before : ℕ}
    (limited : before < 2 ^ 63) {result : EvalResult} (counted : result.passed ≤ result.total)
    (small : result.total < 2 ^ 63) : Placed task steps used (assignMeasured before result ep) := by
  have change : ((result.passed : ℤ) - before).natAbs < 2 ^ 63 := by omega
  unfold assignMeasured
  dsimp only
  split_ifs
  · exact ⟨placed.task, placed.started, placed.attempts, placed.max_steps, placed.cost, counted,
      small, change, placed.replans⟩
  · exact ⟨placed.task, placed.started, placed.attempts, placed.max_steps, placed.cost, counted,
      small, change, placed.replans⟩
  · exact ⟨placed.task, placed.started, placed.attempts, placed.max_steps, placed.cost, counted,
      small, change, placed.replans⟩

/-- A step that returns has sent its request. -/
theorem step_placed (sandbox : env.UsesSandbox) (prepaid : env.Prepaid floatText)
    (sized : task.public_cases.length < 2 ^ 63) {session : Session} {action : Action}
    (placed : Placed task steps used session.episode) (bounded : steps ≤ 3) (more : used < steps)
    (patches : action ∈ PATCH_ACTIONS) (going : session.episode.terminal = false) :
    (step env action session).Ensures (fun after => Placed task steps (used + 1) after.episode)
      (fun _ _ => True) := by
  have patch : ¬ action = .stop := by
    rw [PATCH_ACTIONS, List.mem_pair] at patches
    rcases patches with rfl | rfl <;> decide
  have idle : start env session = .done session := if_pos placed.started
  have left : ¬ (session.episode.attempts ≥ session.episode.max_steps ∨
      session.episode.cost_usd ≥ maxEpisodeCost) := by
    rw [placed.attempts, placed.max_steps, not_or, not_le, not_le]
    exact ⟨more, placed.affordable bounded more⟩
  rw [step, idle, Attempt.andThen, if_neg (by rw [going]; decide), act]
  dsimp only
  rw [if_neg patch, if_neg left]
  unfold sendRequest
  dsimp only
  have charged := prepaid.cost_le session.log
    ((beginRequest action { session.episode with last_action := some action }).request action)
  generalize env.generate session.log
    ((beginRequest action { session.episode with last_action := some action }).request action) =
      outcome at charged ⊢
  cases outcome with
  | result generated =>
      have accepted := acceptResult_placed placed patches charged
      apply (evaluate_counts sandbox).mono
      · rintro after ⟨result, same, counted, total⟩
        rw [same]
        apply assignMeasured_placed accepted (placed.counted.trans_lt placed.small) counted
        rw [total]
        exact accepted.task ▸ sized
      · exact fun _ _ _ => trivial
  | _ => trivial

end Episode

/-- `fit_q` accepts what has been emitted. -/
def Collection.Accepted (c : Collection) : Prop :=
  ∀ transition ∈ c.transitions, Controller.Accepts transition.row

/-- Whether it returns or raises, an attempt leaves only accepted transitions. -/
def Emits (attempt : Attempt Failure Collection) : Prop :=
  attempt.Ensures Collection.Accepted (fun _ => Collection.Accepted)

theorem Emits.andThen {attempt : Attempt Failure Collection}
    {next : Collection → Attempt Failure Collection} (emits : Emits attempt)
    (continues : ∀ after : Collection, after.Accepted → Emits (next after)) :
    Emits (attempt.andThen next) := Attempt.Ensures.andThen emits continues

namespace Tree

/-- A training task with its provider and its sandbox. -/
structure Supplied (tree : Tree) (floatText : ℚ → Text) : Prop where
  sandbox : tree.env.UsesSandbox
  prepaid : tree.env.Prepaid floatText
  named : tree.task.id ≠ ""
  sized : tree.task.public_cases.length < 2 ^ 63

variable {tree : Tree} {floatText : ℚ → Text} {steps used : ℕ} {ep : Episode} {route : List Action}
  {c : Collection}

/-- A transition between two episodes of the tree. -/
theorem Supplied.accepts (supplied : tree.Supplied floatText) (branch : Branch)
    (before : Controller.Countable branch.state)
    (legal : ∀ f, Controller.Sees branch.state f → branch.action.name ∈ f.allowed)
    {next_state : Observation} (after : Controller.Countable next_state) (reward : ℚ)
    (terminal : Bool) :
    Controller.Accepts (tree.transition branch reward next_state terminal).row :=
  Controller.accepts_row rfl supplied.named before after legal

/-- What follows a copy or a grading emits as before. -/
theorem resumed_emits {attempt : Attempt Failure Session}
    {next : Session → Attempt Failure Collection} (accepted : c.Accepted)
    (continues : ∀ after : Session, Emits (next after)) :
    Emits (match attempt with
      | .thrown failure left => .thrown failure (c.leave left.log)
      | .done after => next after) := by
  cases attempt with
  | thrown failure left => exact accepted
  | done after => exact continues after

/-- Writing a record leaves the transitions as they are. -/
theorem record_emits (record : Record) (accepted : c.Accepted) :
    Emits ((tree.env.record record c.log).within c.leave) := by
  cases tree.env.record record c.log with
  | done log => exact accepted
  | thrown failure log => exact accepted

theorem save_trace_emits (kind : String) (route : List Action) (run : EpisodeResult)
    (accepted : c.Accepted) : Emits (tree.save_trace kind route run c) := by
  have kept (traces : List Trace) : Collection.Accepted { c with traces := traces } := accepted
  exact record_emits _ (kept _)

theorem save_transition_emits {transition : Transition} (accepted : c.Accepted)
    (accepts : Controller.Accepts transition.row) : Emits (tree.save_transition transition c) := by
  have saved : Collection.Accepted { c with transitions := c.transitions ++ [transition] } := by
    intro other member
    rcases List.mem_append.mp member with earlier | last
    · exact accepted other earlier
    · rw [List.mem_singleton.mp last]
      exact accepts
  exact record_emits _ saved

theorem closeBranch_emits (branch : Branch) (stepped : Session) (accepted : c.Accepted) (reward : ℚ)
    (accepts : ∀ reward : ℚ, Controller.Accepts
      (tree.transition branch reward stepped.episode.observation true).row) :
    Emits (tree.closeBranch branch reward stepped c) := by
  apply resumed_emits accepted
  intro graded
  have left : (c.leave graded.log).Accepted := accepted
  apply (save_trace_emits _ _ _ left).andThen
  intro traced emitted
  split
  · exact emitted
  · exact save_transition_emits emitted (accepts _)

section Loop

variable {last : Prop} [Decidable last]
  {descend : Episode → List Action → Collection → Attempt Failure Collection}
  (supplied : tree.Supplied floatText) (bounded : steps ≤ 3) (more : used < steps)
  (descends : ∀ ep route c, Placed tree.task steps (used + 1) ep → c.Accepted →
    Emits (descend ep route c))

include supplied bounded more descends

theorem followBranch_emits {branch : Branch} (before : Controller.Countable branch.state)
    (legal : ∀ f, Controller.Sees branch.state f → branch.action.name ∈ f.allowed) (cost : ℕ)
    {stepped : Session} (placed : Placed tree.task steps (used + 1) stepped.episode)
    (accepted : c.Accepted) : Emits (tree.followBranch last descend branch cost stepped c) := by
  have accepts := supplied.accepts branch before legal (placed.countable bounded more)
  unfold followBranch
  dsimp only
  split
  · exact save_trace_emits _ _ _ accepted
  · have billed : ((c.leave stepped.log).bill
        (stepped.episode.result.cost_usd - cost)).Accepted := accepted
    split
    · exact closeBranch_emits branch stepped billed _ fun reward => accepts reward true
    · apply ((save_trace_emits _ _ _ billed).andThen fun traced emitted =>
        save_transition_emits emitted (accepts _ false)).andThen
      exact fun stored emitted => descends _ _ _ placed emitted

theorem explore_emits (placed : Placed tree.task steps used ep)
    (failing : ¬ PublicPass ep.observation) (going : ep.terminal = false) {action : Action}
    (patches : action ∈ PATCH_ACTIONS) (accepted : c.Accepted) :
    Emits (tree.explore last descend ep ⟨ep.observation, route, action⟩ c) := by
  have open_ := placed.open_ bounded more failing
  have copied : (Episode.clone tree.env ⟨ep, c.log⟩).Ensures
      (fun cloned => cloned.episode = ep) (fun _ _ => True) :=
    (Episode.clone_ran tree.env).mono (fun _ ran => ran.2) (fun _ _ _ => trivial)
  unfold explore
  generalize Episode.clone tree.env ⟨ep, c.log⟩ = outcome at copied ⊢
  cases outcome with
  | thrown failure left => exact accepted
  | done cloned =>
      rcases cloned with ⟨same, log⟩
      cases copied
      have stepped : (Episode.step tree.env action ⟨same, log⟩).Ensures
          (fun after => Placed tree.task steps (used + 1) after.episode) (fun _ _ => True) :=
        Episode.step_placed supplied.sandbox supplied.prepaid supplied.sized placed bounded more
          patches going
      dsimp only
      generalize Episode.step tree.env action ⟨same, log⟩ = outcome at stepped ⊢
      cases outcome with
      | done after =>
          exact followBranch_emits supplied bounded more descends open_.countable
            (fun f sees => open_.allowed sees patches) _ stepped accepted
      | thrown failure left =>
          cases failure with
          | cancelled => exact accepted
          | _ => exact save_trace_emits _ _ _ accepted

theorem branches_emits (placed : Placed tree.task steps used ep)
    (failing : ¬ PublicPass ep.observation) (going : ep.terminal = false) {actions : List Action}
    (patches : ∀ action ∈ actions, action ∈ PATCH_ACTIONS) (accepted : c.Accepted) :
    Emits (tree.branches last descend ep route actions c) := by
  induction actions generalizing c with
  | nil => exact accepted
  | cons action actions ih =>
      rw [List.forall_mem_cons] at patches
      unfold branches
      split_ifs
      · exact accepted
      · apply Attempt.Ensures.andThen
          (explore_emits supplied bounded more descends placed failing going patches.1 accepted)
        exact fun after emitted => ih patches.2 emitted

end Loop

theorem audit_emits (supplied : tree.Supplied floatText) (bounded : steps ≤ 3)
    (within : used ≤ steps) (placed : Placed tree.task steps used ep)
    {deeper : Collection → Attempt Failure Collection}
    (continues : ∀ c : Collection, c.Accepted → ¬ PublicPass ep.observation →
      ep.terminal = false → Emits (deeper c)) (accepted : c.Accepted) :
    Emits (tree.audit ep route deeper c) := by
  have countable := placed.countable bounded within
  unfold audit
  apply resumed_emits accepted
  intro stopped
  have left : (c.leave stopped.log).Accepted := accepted
  apply (save_trace_emits _ _ _ left).andThen
  intro traced emitted
  split
  · exact emitted
  · have accepts := supplied.accepts ⟨ep.observation, route, .stop⟩ countable
      (fun f _ => Controller.allowed_stop f) countable
      (if stopped.episode.result.solved then 1 else 0) true
    apply (save_transition_emits emitted accepts).andThen
    intro stored saved
    split
    · exact saved
    · next going =>
        rw [not_or, Bool.not_eq_true] at going
        exact continues _ saved going.1 going.2

/-- The transitions of a tree are accepted, however deep it is. -/
theorem visit_emits (supplied : tree.Supplied floatText) (bounded : steps ≤ 3) (remaining : ℕ)
    (whole : used + remaining = steps) (placed : Placed tree.task steps used ep)
    (accepted : c.Accepted) : Emits (tree.visit remaining ep route c) := by
  induction remaining generalizing used ep route c with
  | zero =>
      apply audit_emits supplied bounded (by omega) placed ?_ accepted
      exact fun after emitted _ _ => emitted
  | succ remaining ih =>
      apply audit_emits supplied bounded (by omega) placed ?_ accepted
      intro after emitted failing going
      refine branches_emits supplied bounded (by omega) ?_ placed failing going (fun _ => id) emitted
      exact fun ep route c placed accepted => ih (by omega) placed accepted

end Tree

/-- The collection of a training task: its requests, what follows a refused
one, and the transitions that it emits. -/
theorem Study.collect_task_tree_runs (study : Study) (task : Task) (log : List Occurrence)
    (floatText : ℚ → Text) :
    (∃ segment, (study.collect_task_tree task log).state.log = log ++ segment ∧
        calls segment ≤ 2 ^ (study.max_steps.toNat + 1) - 2 ∧ Orderly segment) ∧
      (∀ request amount, reserved floatText request = some amount → amount ≤ 230720) ∧
      (study.env.UsesSandbox → study.env.Prepaid floatText → task.id ≠ "" →
        task.public_cases.length < 2 ^ 63 →
        ∀ transition ∈ (study.collect_task_tree task log).state.transitions,
          Controller.Accepts transition.row) := by
  refine ⟨?_, fun request amount reserves => reserved_le reserves, ?_⟩
  · have bounded := study.collect_task_tree_bounded task log
    generalize study.collect_task_tree task log = outcome at bounded ⊢
    cases outcome with
    | done after =>
        rcases bounded with ⟨segment, grown, few, orderly, _⟩
        exact ⟨segment, grown, few, orderly⟩
    | thrown failure after =>
        rcases bounded with ⟨segment, grown, few, orderly, _⟩
        exact ⟨segment, grown, few, orderly⟩
  · intro sandbox prepaid named sized
    have emits : Emits (study.collect_task_tree task log) := by
      have nothing (log : List Occurrence) : (Collection.empty log).Accepted :=
        fun _ member => absurd member List.not_mem_nil
      unfold Study.collect_task_tree
      split_ifs with _ invalid
      · exact nothing log
      · exact nothing log
      · have valid : 1 ≤ study.max_steps ∧ study.max_steps ≤ 3 := by omega
        have started : (Episode.start study.env
            ⟨Episode.new task .research_tree study.max_steps study.seed, log⟩).Ensures
            (fun after => Placed task study.max_steps.toNat 0 after.episode) (fun _ _ => True) :=
          Episode.start_placed sandbox sized valid log
        generalize Episode.start study.env
          ⟨Episode.new task .research_tree study.max_steps study.seed, log⟩ = outcome at started ⊢
        cases outcome with
        | thrown failure left => exact nothing left.log
        | done after =>
            refine Tree.visit_emits ⟨sandbox, prepaid, named, sized⟩ (by omega) _ ?_ started
              (nothing after.log)
            exact Nat.zero_add _
    exact Attempt.Ensures.state emits

/-- A patch is charged two hundred millionths, or less where less is reserved,
and every container reaches its time limit. -/
def limitedEnv : Environment where
  generate := fun _ request =>
    .result ⟨"patched", "model", 1, 1, min 200 ((reserved (fun _ => []) request).getD 0)⟩
  evaluate := fun _ call =>
    match Sandbox.evaluate Sandbox.smallHost call.task.graded (Text.ofString call.source)
        call.hidden (.docker .limited) with
    | .ok evaluation => .result ⟨evaluation.passed, evaluation.total, []⟩
    | .error _ => .raised (.sandboxUnavailable "Docker executor is unavailable")
  deepcopy := fun _ => none
  write := fun _ _ => none

theorem limitedEnv_usesSandbox : limitedEnv.UsesSandbox := by
  intro log call result evaluated
  simp only [limitedEnv] at evaluated
  split at evaluated
  · next evaluation graded =>
      injection evaluated with same
      subst same
      exact ⟨_, _, evaluation, graded, rfl, rfl⟩
  · exact absurd evaluated (by simp)

theorem limitedEnv_prepaid : limitedEnv.Prepaid (fun _ => []) :=
  fun _ _ => Nat.min_le_right _ _

def oneCaseTask : Task :=
  ⟨"a", "a", "a", "train", "", "broken", "repair", [Sandbox.plainCase .null],
    [Sandbox.plainCase .null], "solution.py"⟩

def twoStepStudy : Study where
  tasks := [oneCaseTask]
  env := limitedEnv
  seed := 17
  max_steps := 2
  cost_weight := 5
  fit_controller := fun _ _ => .ok (.obj [], none)
  selector := fun _ _ _ => .ok "stop"
  shuffle := fun _ _ => ⟨EVALUATION_POLICIES, List.Perm.refl _⟩

/-- A tree with two steps: six requests are charged, and the stop and the two
patches are emitted at the root and after each of its patches. -/
theorem Study.collect_task_tree_runs_twoSteps :
    (twoStepStudy.collect_task_tree oneCaseTask []).state.billed_cost = 1200 ∧
      (twoStepStudy.collect_task_tree oneCaseTask []).state.transitions.map
        (fun transition => transition.action) =
          [.stop, .fast, .stop, .fast, .deliberate, .deliberate, .stop, .fast, .deliberate] ∧
      ∀ transition ∈ (twoStepStudy.collect_task_tree oneCaseTask []).state.transitions,
        Controller.Accepts transition.row := by
  rw [← and_assoc]
  refine ⟨by decide +kernel, ?_⟩
  exact (twoStepStudy.collect_task_tree_runs oneCaseTask [] (fun _ => [])).2.2
    limitedEnv_usesSandbox limitedEnv_prepaid (by decide) (by decide)

end ForgeRL.Research
