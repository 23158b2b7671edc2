import ForgeRL.Bench.Advance

namespace ForgeRL

open Library

/-!
# Legal choices

A step checks its action against a mask that is computed from the routing
signal; a selector chooses from the observation, and the repeated request after
a rate limit consults nothing.  All of them are legal for one reason: an action
other than "stop" is legal when not every visible case passes, when there is
room under the caps, and when the action's own counter allows it, and these
conditions hold wherever a run makes its choice.
-/

/-! ## The exploration of a training episode -/

namespace Study

/-- The selector of a training episode.  `rng` is the generator: a position in a
list of that length, after what the selector has been shown before. -/
def explore (rollout : ℕ) (rng : List Observation → (rest : ℕ) → Fin (rest + 1)) :
    List Observation → Observation → Except Escape Selection :=
  fun seen state =>
    let legal := Router.allowed_actions state
    if legal = [.stop] then .ok ⟨.stop, "training_constraint"⟩
    else if state.attempts = 0 then
      .ok ⟨if rollout % 2 = 0 then .retry else .escalate, "prespecified_train_exploration"⟩
    else
      match legal.filter (fun action => action ≠ .stop ∨ state.attempts ≥ 2) with
      | [] => .error .other
      | first :: rest =>
        .ok ⟨(first :: rest).get (rng seen rest.length), "prespecified_train_exploration"⟩

/-- The exploration chooses a legal action. -/
theorem explore_allowed {rollout : ℕ} (rng : List Observation → (rest : ℕ) → Fin (rest + 1))
    (seen : List Observation) {state : Observation} (fresh : state.Fresh) :
    ∃ selection, explore rollout rng seen state = .ok selection ∧
      selection.action ∈ Router.allowed_actions state := by
  unfold explore
  dsimp only
  by_cases only_ : Router.allowed_actions state = [.stop]
  · rw [if_pos only_, only_]
    exact ⟨_, rfl, List.mem_singleton_self _⟩
  · rw [if_neg only_]
    by_cases first : state.attempts = 0
    · rw [if_pos first]
      refine ⟨_, rfl, ?_⟩
      apply Router.mem_of_choices only_
      dsimp only
      split_ifs
      · rw [Router.Asks, (fresh first).1]
        decide
      · rw [Router.Asks, (fresh first).2]
        decide
    · rw [if_neg first]
      -- a repair is legal, so there is something to choose from
      have repairs : .repair ∈ (Router.allowed_actions state).filter
          (fun action => action ≠ .stop ∨ state.attempts ≥ 2) := by
        apply List.mem_filter.mpr
        exact ⟨Router.mem_of_choices only_ first, decide_eq_true (.inl (by decide))⟩
      split
      next empty =>
        rw [empty] at repairs
        cases repairs
      next first rest choices =>
        refine ⟨_, rfl, ?_⟩
        have member : (first :: rest).get (rng seen rest.length) ∈
            (Router.allowed_actions state).filter
              (fun action => action ≠ .stop ∨ state.attempts ≥ 2) := by
          rw [choices]
          exact List.get_mem _ _
        exact (List.mem_filter.mp member).1

end Study

/-! ## The mask and the signal -/

/-- What the mask of the harness looks at. -/
def Config.signal (cfg : Config) (state : Observation) : Observation :=
  if cfg.harness = .repo then state else VerificationEpisode.routing_signal state

/-- The signal differs from the observation in its counts only. -/
theorem Config.signal_shape (cfg : Config) (state : Observation) : ∃ passed total,
    cfg.signal state = { state with public_passed := passed, public_total := total } := by
  unfold signal
  split_ifs
  · exact ⟨_, _, rfl⟩
  · unfold VerificationEpisode.routing_signal
    split
    · split_ifs
      · exact ⟨_, _, rfl⟩
      · exact ⟨_, _, rfl⟩
    · exact ⟨_, _, rfl⟩

namespace Episode

section Mask

variable {cfg : Config} {p : Progress} {action : Action}

/-- Apart from "verify", the mask is that of the router on the signal. -/
theorem mem_legal_actions (repairs : action ≠ .verify) :
    action ∈ p.legal_actions cfg ↔
      action ∈ Router.allowed_actions (cfg.signal (p.observation cfg)) := by
  have verification (plain : cfg.harness ≠ .repo) :
      action ∈ VerificationEpisode.legal_actions cfg (p.episode cfg) (p.observation cfg) ↔
        action ∈ Router.allowed_actions (cfg.signal (p.observation cfg)) := by
    unfold Config.signal VerificationEpisode.legal_actions
    rw [if_neg plain]
    by_cases full : (p.observation cfg).decisions ≥ (p.observation cfg).max_decisions
    · have shape := cfg.signal_shape (p.observation cfg)
      unfold Config.signal at shape
      rw [if_neg plain] at shape
      rcases shape with ⟨passed, total, same⟩
      rw [if_pos full, same, Router.allowed_actions_of_decided]
      exact full
    · rw [if_neg full]
      dsimp only
      split_ifs
      · exact List.mem_cons.trans (or_iff_right repairs)
      · rfl
  unfold Progress.legal_actions legal_actions
  cases harness : cfg.harness with
  | repo =>
    unfold Config.signal
    rw [if_pos harness]
  | verification => exact verification (by rw [harness]; decide)
  | pilot => exact verification (by rw [harness]; decide)
  | ablation verify_enabled =>
    have inner := verification (fun plain => by rw [harness] at plain; cases plain)
    show action ∈ AblationEpisode.legal_actions verify_enabled cfg _ _ ↔ _
    unfold AblationEpisode.legal_actions
    dsimp only
    split_ifs
    · exact inner
    · rw [List.mem_filter, inner]
      exact and_iff_left (decide_eq_true repairs)

theorem signal_room {state : Observation} (room : Router.Room state) :
    Router.Room (cfg.signal state) := by
  rcases cfg.signal_shape state with ⟨passed, total, same⟩
  rw [same]
  exact ⟨room.decisions, room.attempts, room.budget⟩

theorem signal_asks {state : Observation} (asks : Router.Asks state action) :
    Router.Asks (cfg.signal state) action := by
  rcases cfg.signal_shape state with ⟨passed, total, same⟩
  rw [same]
  cases action <;> exact asks

theorem signal_fresh {state : Observation} (fresh : state.Fresh) : (cfg.signal state).Fresh := by
  rcases cfg.signal_shape state with ⟨passed, total, same⟩
  rw [same]
  exact fresh

/-- A failed supplemental check turns no failed observation green. -/
theorem signal_not_green {state : Observation} (sane : state.public_passed ≤ state.public_total)
    (failing : ¬ state.VisibleGreen) : ¬ (cfg.signal state).VisibleGreen := by
  unfold Config.signal
  split_ifs
  · exact failing
  · unfold VerificationEpisode.routing_signal
    split
    · split_ifs with fails
      · intro green
        have counts : state.public_passed + _ = state.public_total + _ := green.2
        omega
      · exact failing
    · exact failing

/-- What the router allows on the observation, it allows on the signal. -/
theorem signal_allowed {state : Observation} (sane : state.public_passed ≤ state.public_total)
    (allowed : action ∈ Router.allowed_actions state) :
    action ∈ Router.allowed_actions (cfg.signal state) := by
  rw [Router.mem_allowed_actions] at allowed ⊢
  rcases allowed with stops | ⟨failing, room, asks⟩
  · exact .inl stops
  · exact .inr ⟨signal_not_green sane failing, signal_room room, signal_asks asks⟩

/-- The signal is green according to the result, the files and what is verified. -/
theorem signal_green_congr {q : Progress} (publicResult : q.publicResult = p.publicResult)
    (files : q.files = p.files) (verified : q.verified_candidates = p.verified_candidates) :
    (cfg.signal (q.observation cfg)).VisibleGreen ↔
      (cfg.signal (p.observation cfg)).VisibleGreen := by
  have passed : (q.observation cfg).public_passed = (p.observation cfg).public_passed ∧
      (q.observation cfg).public_total = (p.observation cfg).public_total := by
    rcases q.observation_shape cfg with ⟨_, later⟩
    rcases p.observation_shape cfg with ⟨_, earlier⟩
    rw [later, earlier]
    show q.publicResult.passed = p.publicResult.passed ∧
      q.publicResult.total = p.publicResult.total
    rw [publicResult]
    exact ⟨rfl, rfl⟩
  have known : VerificationEpisode.verified (q.observation cfg) =
      VerificationEpisode.verified (p.observation cfg) := by
    have current : VerificationEpisode.current_verification cfg (q.episode cfg) =
        VerificationEpisode.current_verification cfg (p.episode cfg) := by
      show Dict.get? q.verified_candidates (cfg.fingerprint q.files) =
        Dict.get? p.verified_candidates (cfg.fingerprint p.files)
      rw [files, verified]
    unfold Progress.observation observation
    cases cfg.harness with
    | repo => rfl
    | verification => exact congrArg (Option.map _) current
    | pilot => exact congrArg (Option.map _) current
    | ablation verify_enabled => exact congrArg (Option.map _) current
  unfold Config.signal VerificationEpisode.routing_signal
  rw [known]
  unfold Observation.VisibleGreen
  split_ifs
  · rw [passed.1, passed.2]
  · split
    · split_ifs
      · dsimp only
        rw [passed.1, passed.2]
      · rw [passed.1, passed.2]
    · rw [passed.1, passed.2]

end Mask

/-! ## The automatic retry -/

/-- Where a run waits for a retry, a repair is legal. -/
def Retriable (cfg : Config) (p : Progress) : Prop :=
  p.terminal = false → ∀ delay, p.pending = some delay →
    .repair ∈ Router.allowed_actions (cfg.signal (p.observation cfg))

section Retries

variable {cfg : Config} {p : Progress} {action : Action} {source : String}

/-- A rate limit after a legal request leaves room for a repair. -/
theorem armed_retriable (legal : action ∈ p.legal_actions cfg) (requests : action.Requests)
    (request : Request) (failed : ProviderFailure) (role : Role) (delay : ℚ)
    (affords : Progress.Affords cfg.bounds
      ((p.answered cfg action source request (.failure failed)).charged cfg failed.cost_usd role)) :
    .repair ∈ Router.allowed_actions (cfg.signal
      ((((p.answered cfg action source request (.failure failed)).charged cfg failed.cost_usd
        role).armed delay).observation cfg)) := by
  rw [mem_legal_actions requests.2.2, Router.mem_allowed_actions] at legal
  have failing := (legal.resolve_left requests.1).1
  rw [Router.mem_allowed_actions]
  refine .inr ⟨?_, signal_room ?_, signal_asks ?_⟩
  · have same := @signal_green_congr cfg p (((p.answered cfg action source request
      (.failure failed)).charged cfg failed.cost_usd role).armed delay) rfl rfl rfl
    exact fun green => failing (same.mp green)
  · rcases Progress.observation_shape cfg (((p.answered cfg action source request
      (.failure failed)).charged cfg failed.cost_usd role).armed delay) with ⟨_, shape⟩
    rw [shape]
    exact ⟨affords.decisions, affords.attempts, lt_max_of_lt_right
      (cfg.arithmetic.round_pos _ (sub_pos.mpr affords.cost_usd))⟩
  · rcases Progress.observation_shape cfg (((p.answered cfg action source request
      (.failure failed)).charged cfg failed.cost_usd role).armed delay) with ⟨_, shape⟩
    rw [shape]
    exact Nat.succ_ne_zero p.attempts

theorem Rounds.retriable {selector : Selector} {seen : List Observation} {ep : Episode}
    (rounds : Rounds cfg selector seen ep) : Retriable cfg ep.progress := by
  apply rounds.keeps
  · intro started returned _ delay pending
    have entered := @start_entered cfg (initial cfg)
    rw [returned] at entered
    have begun : Entered cfg (initial cfg).progress started.progress := entered
    generalize started.progress = p at begun pending
    cases begun with
    | again => cases pending
    | baseline => cases pending
  · intro seen ep later after rounds runs _ rounded open_ delay pending
    have idle {action : Action} {source : String} {p : Progress}
        (turn : Turn cfg selector seen ep action source p) : p.pending = none := by
      cases turn with
      | waited => rfl
      | chosen none_ => exact none_
    cases rounded with
    | halted turn _ _ halted =>
      generalize after.progress = q at halted open_
      cases halted <;> cases open_
    | @recorded action source p turn legal effect effected _ _ same =>
      rw [same] at open_ pending ⊢
      rw [Progress.observation_recorded]
      have unarmed := idle turn
      have kept (same : effect.pending = p.pending) : False := by
        have impossible : some delay = none := pending.symm.trans (same.trans unarmed)
        cases impossible
      cases effected with
      | armed requests request failed role wait affords =>
        exact armed_retriable legal requests request failed role wait affords
      | stopped => exact (kept rfl).elim
      | restored => exact (kept rfl).elim
      | limited => exact (kept rfl).elim
      | dismissed => exact (kept rfl).elim
      | measured => exact (kept rfl).elim
      | verified => exact (kept rfl).elim

end Retries

/-! ## The selectors of the repository -/

/-- The selectors that the repository runs its episodes with. -/
inductive Offered (cfg : Config) : Selector → Prop where
  | policy (released : cfg.policy.Released) : Offered cfg .policy
  | explore (rollout : ℕ) (rng : List Observation → (rest : ℕ) → Fin (rest + 1)) :
      Offered cfg (.custom (Study.explore rollout rng))
  | development (plain : cfg.harness ≠ .repo) (released : cfg.policy.Released) :
      Offered cfg .development
  | select (plain : cfg.harness ≠ .repo) (policy : cfg.policy ≠ .exploration) :
      Offered cfg .select

/-- An evaluator that never passes more cases than there are. -/
def SaneEvaluator (cfg : Config) : Prop :=
  ∀ calls call result, cfg.evaluator calls call = .result result → result.passed ≤ result.total

/-- The remembered results pass no more cases than there are. -/
def Sane (p : Progress) : Prop :=
  p.publicResult.passed ≤ p.publicResult.total ∧ p.bestPublic.passed ≤ p.bestPublic.total

section Choices

variable {cfg : Config} {p : Progress}

theorem sane_keeps (sane : SaneEvaluator cfg) : Keeps cfg Sane where
  initial := ⟨Nat.zero_le _, Nat.zero_le _⟩
  entered holds entered := by
    cases entered with
    | again => exact holds
    | baseline fresh result answer =>
      rcases answer with ⟨calls, answer⟩
      exact ⟨sane _ _ _ answer, sane _ _ _ answer⟩
  opened holds := holds
  effect {p effect action source} holds _ _ effected := by
    have kept : Sane effect := by
      cases effected with
      | stopped => exact holds
      | restored => exact ⟨holds.2, holds.2⟩
      | limited => exact holds
      | armed => exact holds
      | dismissed => exact holds
      | verified => exact holds
      | measured requests request generated role candidate result valid answer =>
        rcases answer with ⟨calls, answer⟩
        refine ⟨sane _ _ _ answer, ?_⟩
        show (if result.passed > p.bestPublic.passed then result else p.bestPublic).passed ≤
          (if result.passed > p.bestPublic.passed then result else p.bestPublic).total
        split_ifs
        · exact sane _ _ _ answer
        · exact holds.2
    exact kept
  halted holds halted := by
    cases halted with
    | unsent => exact holds
    | failed => exact holds
  raised holds _ _ raised := by
    cases raised with
    | unsent => exact holds
    | escaped => exact holds
    | cancelled => exact holds
    | unscreened => exact holds
    | stranded => exact holds
    | unverified => exact holds
  waited holds := holds
  closed _ _ holds _ := holds

theorem Rounds.fresh {selector : Selector} {seen : List Observation} {ep : Episode}
    (rounds : Rounds cfg selector seen ep) (runs : ep.terminal = false) :
    (ep.progress.observation cfg).Fresh := by
  rcases ep.progress.observation_shape cfg with ⟨_, shape⟩
  rw [shape]
  exact (rounds.room runs).1.2.2

/-- A selection that the router allows on the signal is legal. -/
theorem legal_of_allowed {selection : Selection}
    (allowed : selection.action ∈ Router.allowed_actions (cfg.signal (p.observation cfg))) :
    selection.action ∈ p.legal_actions cfg := by
  have repairs : selection.action ≠ .verify := fun verifies =>
    Router.verify_not_allowed _ (verifies ▸ allowed)
  exact (mem_legal_actions repairs).mpr allowed

/-- Whatever a selector of the repository chooses is legal. -/
theorem choice_legal (sane : SaneEvaluator cfg) {selector : Selector}
    (offered : Offered cfg selector) {seen : List Observation} {ep : Episode}
    (rounds : Rounds cfg selector seen ep) (runs : ep.terminal = false) :
    ∃ selection, selector.choose cfg seen ep = .ok selection ∧
      selection.action ∈ ep.progress.legal_actions cfg := by
  have fresh := rounds.fresh runs
  have counts : (ep.progress.observation cfg).public_passed ≤
      (ep.progress.observation cfg).public_total := by
    rcases ep.progress.observation_shape cfg with ⟨_, shape⟩
    rw [shape]
    exact ((Reachable.running rounds.running).keeps (sane_keeps sane)).1
  have routed (plain : cfg.harness ≠ .repo) :
      VerificationEpisode.routing_signal (ep.progress.observation cfg) =
        cfg.signal (ep.progress.observation cfg) := by
    unfold Config.signal
    rw [if_neg plain]
  have chosen (artifact : Option Router.Artifact) (released : cfg.policy.Released) :
      ∃ selection, Router.choose_action cfg.policy (cfg.signal (ep.progress.observation cfg))
        artifact = .ok selection ∧ selection.action ∈ ep.progress.legal_actions cfg := by
    rcases Router.choose_action_released artifact released (signal_fresh fresh) with
      ⟨selection, chosen, allowed, _⟩
    exact ⟨selection, chosen, legal_of_allowed allowed⟩
  cases offered with
  | policy released =>
    rcases Router.choose_action_released cfg.artifact released fresh with
      ⟨selection, chosen, allowed, _⟩
    refine ⟨selection, ?_, legal_of_allowed (signal_allowed counts allowed)⟩
    rw [← chosen, observation_progress]
    rfl
  | explore rollout rng =>
    rcases Study.explore_allowed rng seen fresh with ⟨selection, chosen, allowed⟩
    refine ⟨selection, ?_, legal_of_allowed (signal_allowed counts allowed)⟩
    rw [← chosen, observation_progress]
    rfl
  | development plain released =>
    show ∃ selection, VerificationEpisode.choose cfg ep (ep.observation cfg) = _ ∧ _
    unfold VerificationEpisode.choose
    rw [← legal_actions_progress]
    split_ifs with verifies
    · exact ⟨_, rfl, verifies⟩
    · rw [← observation_progress, routed plain]
      exact chosen none released
  | select plain policy =>
    show ∃ selection, PilotEpisode.select cfg ep (ep.observation cfg) = _ ∧ _
    unfold PilotEpisode.select
    rw [← legal_actions_progress, ← observation_progress, routed plain]
    dsimp only
    by_cases verifies : .verify ∈ ep.progress.legal_actions cfg
    · rw [if_pos verifies]
      exact ⟨_, rfl, verifies⟩
    · rw [if_neg verifies]
      by_cases supervised : cfg.policy = .supervised_cost
      · have legal := legal_of_allowed
          (Router.choose_supervised_mem cfg.controllers.supervised_cost (signal_fresh fresh))
        rw [if_pos supervised]
        exact ⟨_, if_neg (not_not.mpr legal), legal⟩
      · rcases chosen cfg.controllers.fitted_q ⟨policy, supervised⟩ with ⟨selection, same, legal⟩
        rw [if_neg supervised, same]
        exact ⟨selection, if_neg (not_not.mpr legal), legal⟩

end Choices

/-! ## Whole runs -/

section Runs

variable {cfg : Config} {selector : Selector}

theorem Raised.outside {p q : Progress} {action : Action} {source : String} {escape : Escape}
    (raised : Progress.Raised cfg source p action escape q) :
    escape = .cancelled ∨ Outside cfg escape := by
  cases raised with
  | unsent _ _ outside => exact .inr outside
  | escaped _ _ _ outside => exact .inr outside
  | cancelled => exact .inl rfl
  | unscreened _ _ _ _ _ outside => exact .inr outside
  | stranded _ _ _ _ _ _ _ outside => exact .inr outside
  | unverified _ outside => exact .inr outside

theorem finish_outside {ep left : Episode} {escape : Escape}
    (raised : ep.finish cfg = .raised escape left) : Outside cfg escape := by
  have ways := finish_outcome cfg ep
  rw [raised] at ways
  cases ways with
  | raised _ answer => exact .evaluator _ _ answer

/-- A step of the loop finds its action legal. -/
theorem turn_legal (sane : SaneEvaluator cfg) (offered : Offered cfg selector)
    {seen : List Observation} {ep : Episode} (rounds : Rounds cfg selector seen ep)
    (runs : ep.terminal = false) {action : Action} {source : String} {p : Progress}
    (turn : Turn cfg selector seen ep action source p) : action ∈ p.legal_actions cfg := by
  cases turn with
  | waited delay pending =>
    rw [mem_legal_actions (by decide), Progress.observation_waited]
    exact rounds.retriable runs delay pending
  | chosen idle selection chosen =>
    rcases choice_legal sane offered rounds runs with ⟨other, same, legal⟩
    rw [chosen] at same
    cases same
    exact legal

theorem round_outside (sane : SaneEvaluator cfg) (offered : Offered cfg selector)
    {seen : List Observation} {ep left : Episode} {escape : Escape}
    (rounds : Rounds cfg selector seen ep) (runs : ep.terminal = false)
    (raised : round cfg selector seen ep = .raised escape left) :
    escape = .cancelled ∨ Outside cfg escape := by
  have rounded := round_rounded rounds runs
  rw [raised] at rounded
  cases rounded with
  | unchosen idle _ failed =>
    rcases choice_legal sane offered rounds runs with ⟨selection, chosen, _⟩
    rw [chosen] at failed
    cases failed
  | cancelled => exact .inl rfl
  | illegal turn refused => exact absurd (turn_legal sane offered rounds runs turn) refused
  | raised turn legal _ _ raised => exact Raised.outside raised

theorem run_outside (sane : SaneEvaluator cfg) (offered : Offered cfg selector) {escape : Escape}
    {left : Episode} (raised : run_episode cfg selector = .raised escape left) :
    escape = .cancelled ∨ Outside cfg escape := by
  have driven {cause : Escape} {last : Episode}
      (driven : drive cfg selector (initial cfg) = .raised cause last) :
      cause = .cancelled ∨ Outside cfg cause := by
    rcases drive_rounds cfg selector with ⟨_, _, returned, _⟩ | stopped | raised
    · rw [driven] at returned
      cases returned
    · rcases stopped with ⟨_, _, same, begun⟩
      rw [driven] at same
      cases same
      have entered := @start_entered cfg (initial cfg)
      rw [begun] at entered
      exact .inr entered.2.1
    · rcases raised with ⟨_, _, later, last, same, rounds, runs, outcome⟩
      rw [driven] at same
      cases same
      exact round_outside sane offered rounds runs outcome
  unfold run_episode at raised
  cases outcome : drive cfg selector (initial cfg) with
  | ok value after =>
    rw [outcome] at raised
    exact .inr (finish_outside raised)
  | raised cause last =>
    rw [outcome] at raised
    cases cause with
    | sandboxUnavailable message => exact .inr (finish_outside raised)
    | _ =>
      cases raised
      exact driven outcome

/-- More rounds than decisions make no difference. -/
theorem loop_extra {ep : Episode} {low : ℕ} (rounds extra : ℕ) (seen : List Observation)
    (metered : Metered False cfg ep.meter) (open_ : Open cfg low ep)
    (enough : cfg.bounds.max_decisions ≤ low + rounds) :
    loop cfg selector (rounds + extra) seen ep = loop cfg selector rounds seen ep := by
  induction rounds generalizing low seen ep with
  | zero =>
    have ended : ep.terminal = true := by
      apply open_.resolve_right
      rintro ⟨early, room⟩
      have decided : low ≤ ep.decisions := early.2.1
      omega
    rw [Nat.zero_add]
    cases extra with
    | zero => rfl
    | succ extra =>
      unfold loop
      rw [if_pos ended]
  | succ rounds ih =>
    rw [Nat.succ_add]
    unfold loop
    have stays := round_stays selector seen False.elim metered open_
    split_ifs
    · rfl
    · cases outcome : round cfg selector seen ep with
      | ok later after =>
        rw [outcome] at stays
        exact ih later stays.1 stays.2 (by omega)
      | raised escape left => rfl

/-- Progress and legality.  Wherever a run makes a choice, each selector of the
repository chooses an action that the mask allows, and where it waits after a
rate limit, the automatic repair is allowed; so whatever leaves the run is a
cancellation or has come from the evaluator, the provider, the screen of the
files or the encoder, and never from a mask.  The loop is over after as many rounds as decisions. -/
theorem selectors_legal (cfg : Config) (sane : SaneEvaluator cfg) (selector : Selector)
    (offered : Offered cfg selector) :
    (∀ seen ep, Rounds cfg selector seen ep → ep.terminal = false →
      (∀ delay, ep.pending_provider_delay = some delay →
        .repair ∈ (countProviderRetry (beginWait delay ep)).legal_actions cfg
          ((countProviderRetry (beginWait delay ep)).observation cfg)) ∧
      (ep.pending_provider_delay = none → ∃ selection,
        selector.choose cfg seen ep = .ok selection ∧
          selection.action ∈ ep.legal_actions cfg (ep.observation cfg))) ∧
    (∀ escape left, run_episode cfg selector = .raised escape left →
      escape = .cancelled ∨ Outside cfg escape) ∧
    ∀ started, (initial cfg).start cfg = .ok () started →
      (∀ extra, loop cfg selector (cfg.bounds.max_decisions + extra) [] started =
        loop cfg selector cfg.bounds.max_decisions [] started) ∧
      ∀ after, loop cfg selector cfg.bounds.max_decisions [] started = .ok () after →
        after.terminal = true := by
  refine ⟨?_, fun escape left raised => run_outside sane offered raised, ?_⟩
  · intro seen ep rounds runs
    constructor
    · intro delay pending
      rw [← legal_actions_progress]
      exact turn_legal sane offered rounds runs (.waited delay pending)
    · intro idle
      rw [← legal_actions_progress]
      exact choice_legal sane offered rounds runs
  · intro started returned
    have begun : Stays False cfg 0 ((initial cfg).start cfg) :=
      start_stays (initial_metered False cfg) (initial_open cfg)
    rw [returned] at begun
    have enough : cfg.bounds.max_decisions ≤ 0 + cfg.bounds.max_decisions := (Nat.zero_add _).ge
    exact ⟨fun extra => loop_extra _ extra [] begun.1 begun.2 enough,
      fun after ended => loop_ends selector _ [] False.elim begun.1 begun.2 enough ended⟩

theorem selectors_legal_small :
    ¬ ∃ escape left, run_episode (smallConfig fun _ _ => oneCase false) .policy =
      .raised escape left ∧ ¬ (escape = .cancelled ∨
        Outside (smallConfig fun _ _ => oneCase false) escape) := by
  have sane : SaneEvaluator (smallConfig fun _ _ => oneCase false) := by
    intro calls call result answer
    cases answer
    decide
  rintro ⟨escape, left, raised, inside⟩
  exact inside ((selectors_legal _ sane .policy (.policy (by decide))).2.1 escape left raised)

end Runs

end Episode

end ForgeRL
