import ForgeRL.Bench.Noninterference
import ForgeRL.Bench.Ablation
import ForgeRL.Bench.Advance

namespace ForgeRL

open Library

/-!
# Paired arms of the ablation

The two arms of the ablation differ in what they do with a candidate whose
visible cases all pass: the control arm stops, and the other verifies.  Until
the first such check no verification has been made, both arms offer the same
actions, and both are, on cores, the released harness.  From then on either log
only grows.
-/

/-- A check of the visible cases in which none of them fails. -/
def Occurrence.Green (occurrence : Occurrence) : Prop :=
  match occurrence with
  | .evaluation call (.result result) => call.checks = .visible ∧ ¬ result.passed < result.total
  | _ => False

instance : DecidablePred Occurrence.Green := fun occurrence => by
  cases occurrence with
  | decision => exact isFalse id
  | request => exact isFalse id
  | evaluation call outcome =>
    cases outcome with
    | result result => exact inferInstanceAs (Decidable (_ ∧ _))
    | raised => exact isFalse id

/-- The log up to and including the first green check, or all of it. -/
def untilGreen : List Occurrence → List Occurrence
  | [] => []
  | occurrence :: rest =>
    if occurrence.Green then [occurrence] else occurrence :: untilGreen rest

/-- Two logs that are the same at least until a green check. -/
def Parted (first second : List Occurrence) : Prop :=
  ∃ shared, (∃ occurrence ∈ shared, occurrence.Green) ∧ shared <+: first ∧ shared <+: second

theorem untilGreen_append {shared : List Occurrence}
    (green : ∃ occurrence ∈ shared, occurrence.Green) (more : List Occurrence) :
    untilGreen (shared ++ more) = untilGreen shared := by
  induction shared with
  | nil =>
    rcases green with ⟨_, impossible, _⟩
    cases impossible
  | cons occurrence rest ih =>
    rw [List.cons_append]
    unfold untilGreen
    split_ifs with now
    · rfl
    · rcases green with ⟨other, member, passes⟩
      rcases List.mem_cons.mp member with rfl | later
      · exact absurd passes now
      · rw [ih ⟨other, later, passes⟩]

theorem Parted.untilGreen_eq {first second : List Occurrence} (parted : Parted first second) :
    untilGreen first = untilGreen second := by
  rcases parted with ⟨shared, green, ⟨rest, rfl⟩, ⟨more, rfl⟩⟩
  rw [untilGreen_append green, untilGreen_append green]

theorem Parted.extend {first second longer other : List Occurrence} (parted : Parted first second)
    (grows : first <+: longer) (also : second <+: other) : Parted longer other := by
  rcases parted with ⟨shared, green, before, beside⟩
  exact ⟨shared, green, before.trans grows, beside.trans also⟩

/-- The configuration of an arm. -/
def Config.arm (cfg : Config) (verify_enabled : Bool) : Config :=
  { cfg with harness := .ablation verify_enabled }

namespace Episode

/-! ## A step of the verifying arm -/

/-- A method of the verifying arm and the released one: they do the same, or
they have done the same until a green check. -/
def Tracks (outcome released : Outcome Unit) : Prop :=
  outcome.mapEpisode core = released ∨ Parted outcome.episode.core.log released.episode.log

section Steps

variable {cfg : Config} (on : cfg.harness = .ablation true)

theorem log_close (cfg : Config) (context : StepContext) (ep : Episode) :
    (close cfg context ep).log = ep.log := by
  unfold close endBudget
  split_ifs <;> rfl

theorem log_measureCandidate (cfg : Config) (context : RequestContext) (before : List CaseRow)
    (result : EvalResult) (ep : Episode) :
    (measureCandidate cfg context before result ep).log = ep.log := by
  rcases progress_measureCandidate cfg ep context before result with ⟨_, same⟩
  exact congrArg Progress.log same

/-- A check that returns is the last of its log. -/
theorem log_check {ep left : Episode} {result : EvalResult}
    (returned : check cfg false ep = .ok result left) :
    left.log = ep.log ++ [.evaluation ⟨.visible, ep.files⟩ (.result result)] := by
  cases answer : checkAnswer cfg false ep with
  | result other =>
    rw [check_of_result answer] at returned
    cases returned
    rw [← answer]
    rfl
  | raised escape =>
    rw [check_of_raised answer] at returned
    cases returned

include on

theorem acceptCandidate_tracks (context : RequestContext) (candidate : Files) (ep : Episode) :
    Tracks
      ((acceptCandidate cfg context candidate ep).andThen fun _ accepted =>
        .ok () (close cfg context.toStepContext accepted))
      ((acceptCandidate cfg.released context.core candidate ep.core).andThen fun _ accepted =>
        .ok () (close cfg.released context.core.toStepContext accepted)) := by
  unfold acceptCandidate
  rw [← core_applyCandidate, ← check_core]
  cases checked : check cfg false (applyCandidate cfg candidate ep) with
  | raised escape left => exact .inl rfl
  | ok result left =>
    by_cases failing : result.passed < result.total
    · left
      have quiet : true = false ∨ ¬ result.AllPass := .inr fun green => failing.ne green.2
      show Outcome.ok () (close cfg context.toStepContext _).core = _
      rw [core_close on, core_measureCandidate on context _ quiet]
      rfl
    · right
      refine ⟨left.core.log, ?_, ?_, ?_⟩
      · refine ⟨.evaluation ⟨.visible, (applyCandidate cfg candidate ep).files⟩ (.result result),
          ?_, rfl, failing⟩
        show _ ∈ left.log.map Occurrence.core
        rw [log_check checked, List.map_append]
        exact List.mem_append_right _ (List.mem_singleton_self _)
      · show left.log.map Occurrence.core <+: (close cfg _ _).log.map Occurrence.core
        simp only [log_close, log_measureCandidate, List.prefix_rfl]
      · show left.core.log <+: (close cfg.released _ _).log
        simp only [log_close, log_measureCandidate, List.prefix_rfl]

theorem handleResult_tracks (context : RequestContext) (generated : RepoResult) (ep : Episode) :
    Tracks (handleResult cfg context generated ep)
      (handleResult cfg.released context.core generated ep.core) := by
  unfold handleResult
  dsimp only
  rw [← core_recordResult, files_core, validate_edits_released]
  split
  · rw [← core_rejectCandidate]
    exact .inl (congrArg (Outcome.ok ()) (core_close on _ _))
  · exact .inl rfl
  · exact acceptCandidate_tracks on context _ _

theorem sendRequest_tracks (context : RequestContext) (query : Query) (ep : Episode) :
    Tracks (sendRequest cfg context query ep)
      (sendRequest cfg.released context.core query ep.core) := by
  unfold sendRequest
  rw [answerRequest_core, ← core_noteRequest]
  cases answerRequest cfg query ep with
  | result generated => exact handleResult_tracks on context generated _
  | failure failed => exact .inl (handleFailure_core on context failed _)
  | escaped escape => exact .inl rfl

theorem continueRequest_tracks (context : StepContext) (query : Query) (ep : Episode) :
    Tracks (continueRequest cfg context query ep (preflight cfg query ep))
      (continueRequest cfg.released context.core query ep.core
        (preflight cfg.released query ep.core)) := by
  rw [← preflight_core]
  cases preflight cfg query ep with
  | stopped stopped => exact .inl rfl
  | raised escape left => exact .inl rfl
  | passed bound ready =>
    have begun := core_beginRequest ready context.action query.role cfg.seed
    show Tracks (sendRequest cfg _ query _) (sendRequest cfg.released _ query
      (beginRequest context.action query.role cfg.seed ready.core))
    rw [← begun]
    exact sendRequest_tracks on _ query _

theorem requestStep_tracks (context : StepContext) {ep : Episode}
    (unverified : ep.verified_candidates = ∅) :
    Tracks (requestStep cfg context ep) (requestStep cfg.released context.core ep.core) := by
  have action : context.core.action = context.action := rfl
  unfold requestStep
  rw [action, feedback_core on unverified]
  split
  · exact .inl rfl
  · exact continueRequest_tracks on context _ ep

theorem startedStep_tracks (action : Action) (source : String) {ep : Episode}
    (unverified : ep.verified_candidates = ∅)
    (failing : ¬ (ep.observation cfg).VisibleGreen) :
    Tracks (startedStep cfg action source ep)
      (startedStep cfg.released action source ep.core) := by
  have allowed : ep.core.legal_actions cfg.released (ep.core.observation cfg.released) =
      ep.legal_actions cfg (ep.observation cfg) := by
    rw [legal_actions_quiet on unverified (.inr failing), observation_core on]
    rfl
  have decided : (recordDecision cfg action source ep).verified_candidates = ∅ := unverified
  have same : ep.core.terminal = ep.terminal := rfl
  unfold startedStep
  rw [same, allowed]
  split_ifs
  · exact .inl rfl
  · rw [← core_recordDecision on, observation_core on]
    unfold act
    dsimp only
    cases action with
    | stop =>
      dsimp only
      rw [← core_stopStep]
      exact .inl (congrArg (Outcome.ok ()) (core_close on _ _))
    | rollback =>
      dsimp only
      rw [← core_rollbackStep]
      exact .inl (congrArg (Outcome.ok ()) (core_close on _ _))
    | _ => exact requestStep_tracks on _ decided
  · exact .inl rfl

end Steps

/-! ## The two arms side by side -/

/-- The same has happened in both arms, or the same until a green check. -/
def Paired (on off : Outcome Unit) : Prop :=
  on.mapEpisode core = off.mapEpisode core ∨ Parted on.episode.core.log off.episode.core.log

/-- Episodes of the two arms with one core, before any verification and any
green check. -/
structure Twins (cfg : Config) (on off : Episode) : Prop where
  same : on.core = off.core
  started : off.started_flag = true
  unverified : off.verified_candidates = ∅
  failing : off.publicResult.passed < off.publicResult.total

section Twins

variable {cfg : Config} {on off : Episode}

/-- What the core keeps, the arms share. -/
theorem Twins.share {α : Type} (twins : Twins cfg on off) (field : Episode → α)
    (kept : ∀ ep, field ep.core = field ep) : field on = field off := by
  rw [← kept on, ← kept off, twins.same]

theorem not_green_of_failing {ep : Episode} (cfg : Config)
    (failing : ep.publicResult.passed < ep.publicResult.total) :
    ¬ (ep.observation cfg).VisibleGreen := by
  intro green
  have equal : ep.publicResult.passed = ep.publicResult.total := by
    rw [← observation_progress] at green
    rcases ep.progress.observation_shape cfg with ⟨_, shape⟩
    rw [shape] at green
    exact green.2
  exact failing.ne equal

/-- A repair step of either arm is the released step after the count. -/
theorem step_arm (verify_enabled : Bool) {action : Action} (source : String) {ep : Episode}
    (started : ep.started_flag = true) (repairs : action ≠ .verify) :
    ep.step (cfg.arm verify_enabled) action source =
      startedStep (cfg.arm verify_enabled) action source (PilotEpisode.countLearned source ep) := by
  have counted : (PilotEpisode.countLearned source ep).started_flag = true := started
  show AblationEpisode.step verify_enabled _ action source ep = _
  rw [AblationEpisode.step, if_neg (fun disabled => repairs disabled.2), PilotEpisode.step,
    VerificationEpisode.step, if_pos repairs, RepoEpisode.step, start_of_started _ _ counted]
  rfl

theorem step_paired (twins : Twins cfg on off) {action : Action} (source : String)
    (repairs : action ≠ .verify) :
    Paired (on.step (cfg.arm true) action source) (off.step (cfg.arm false) action source) := by
  have started : on.started_flag = true :=
    (twins.share Episode.started_flag fun _ => rfl).trans twins.started
  have unverified : on.verified_candidates = ∅ :=
    (twins.share Episode.verified_candidates fun _ => rfl).trans twins.unverified
  have publicResult := twins.share Episode.publicResult fun _ => rfl
  have failing : ¬ ((PilotEpisode.countLearned source on).observation (cfg.arm true)).VisibleGreen :=
    not_green_of_failing _ (publicResult ▸ twins.failing)
  have counted : (PilotEpisode.countLearned source on).core =
      (PilotEpisode.countLearned source off).core :=
    congrArg (PilotEpisode.countLearned source) twins.same
  have tracks := @startedStep_tracks (cfg.arm true) rfl action source
    (PilotEpisode.countLearned source on) unverified failing
  have control := @startedStep_core (cfg.arm false) rfl action source
    (PilotEpisode.countLearned source off) twins.unverified
  have released : (cfg.arm true).released = (cfg.arm false).released := rfl
  rw [counted, released, ← control] at tracks
  rw [step_arm true source started repairs, step_arm false source twins.started repairs]
  rcases tracks with same | parted
  · exact .inl same
  · refine .inr ?_
    generalize startedStep (cfg.arm false) action source _ = outcome at parted
    cases outcome <;> exact parted

theorem retryStep_paired (twins : Twins cfg on off) :
    Paired (retryStep (cfg.arm true) on) (retryStep (cfg.arm false) off) := by
  have undone (previous : ℕ) (ep : Episode) : (undoProviderRetry previous ep).core =
      undoProviderRetry previous ep.core := by
    unfold undoProviderRetry
    exact apply_ite core _ _ _
  have logged (previous : ℕ) (ep : Episode) : (undoProviderRetry previous ep).log = ep.log := by
    unfold undoProviderRetry
    split_ifs <;> rfl
  have attempts := twins.share Episode.attempts fun _ => rfl
  have counted : Twins cfg (countProviderRetry on) (countProviderRetry off) :=
    ⟨congrArg countProviderRetry twins.same, twins.started, twins.unverified, twins.failing⟩
  have commutes (previous : ℕ) (outcome : Outcome Unit) :
      (outcome.mapEpisode (undoProviderRetry previous)).mapEpisode core =
        (outcome.mapEpisode core).mapEpisode (undoProviderRetry previous) := by
    cases outcome with
    | ok value ep => exact congrArg (Outcome.ok value) (undone previous ep)
    | raised escape ep => exact congrArg (Outcome.raised escape) (undone previous ep)
  have kept (previous : ℕ) (outcome : Outcome Unit) :
      (outcome.mapEpisode (undoProviderRetry previous)).episode.core.log =
        outcome.episode.core.log := by
    cases outcome with
    | ok value ep => exact congrArg (List.map Occurrence.core) (logged previous ep)
    | raised escape ep => exact congrArg (List.map Occurrence.core) (logged previous ep)
  unfold retryStep
  rw [attempts]
  have repairs : Action.repair ≠ .verify := by decide
  rcases step_paired counted "provider_retry" repairs with same | parted
  · left
    rw [commutes, commutes, same]
  · right
    rw [kept, kept]
    exact parted

theorem backoff_paired (twins : Twins cfg on off) (delay : ℚ) :
    Paired (backoff (cfg.arm true) delay on) (backoff (cfg.arm false) delay off) := by
  have waiting (ep : Episode) : (beginWait delay ep).core = beginWait delay ep.core := core_emit _ _
  have cancelled (cfg : Config) (ep : Episode) :
      ((finish cfg ep).andThen fun _ done => (.raised .cancelled done : Outcome Unit)).mapEpisode
        core = (finish cfg.released ep.core).andThen fun _ done => .raised .cancelled done := by
    rw [← finish_core]
    cases finish cfg ep <;> rfl
  have same : (beginWait delay on).core = (beginWait delay off).core := by
    rw [waiting, waiting, twins.same]
  have waits : Twins cfg (beginWait delay on) (beginWait delay off) :=
    ⟨same, twins.started, twins.unverified, twins.failing⟩
  have decisions := twins.share Episode.decisions fun _ => rfl
  have sleeps : (cfg.arm true).sleepCancelled on.decisions =
      (cfg.arm false).sleepCancelled off.decisions := by
    rw [decisions]
    rfl
  unfold backoff
  rw [sleeps]
  split_ifs
  · left
    have interrupted : (cancelWait (beginWait delay on)).core =
        (cancelWait (beginWait delay off)).core :=
      congrArg cancelWait same
    rw [cancelled, cancelled, interrupted]
    rfl
  · exact retryStep_paired waits

/-- The selector sees the same in both arms. -/
theorem select_twins (twins : Twins cfg on off) :
    PilotEpisode.select (cfg.arm true) on (on.observation (cfg.arm true)) =
      PilotEpisode.select (cfg.arm false) off (off.observation (cfg.arm false)) := by
  have unverified : on.verified_candidates = ∅ :=
    (twins.share Episode.verified_candidates fun _ => rfl).trans twins.unverified
  have publicResult := twins.share Episode.publicResult fun _ => rfl
  have failing := not_green_of_failing (cfg.arm true) (publicResult ▸ twins.failing)
  have shown : (on.observation (cfg.arm true)).core = (off.observation (cfg.arm false)).core := by
    have first : on.core.observation (cfg.arm true).released = (on.observation (cfg.arm true)).core :=
      observation_core rfl
    have second : off.core.observation (cfg.arm false).released =
        (off.observation (cfg.arm false)).core := observation_core rfl
    rw [← first, ← second, twins.same]
    rfl
  unfold PilotEpisode.select
  rw [legal_actions_quiet rfl unverified (.inr failing),
    legal_actions_quiet rfl twins.unverified (.inl rfl),
    routing_signal_observation rfl unverified, routing_signal_observation rfl twins.unverified]
  generalize on.observation (cfg.arm true) = first at shown
  generalize off.observation (cfg.arm false) = second at shown
  -- the router reads nothing but the core of an observation
  have allowed : Router.allowed_actions first = Router.allowed_actions second := by
    have cores := congrArg Router.allowed_actions shown
    exact cores
  have supervised (artifact : Option Router.Artifact) :
      Router.choose_supervised first artifact = Router.choose_supervised second artifact := by
    have cores := congrArg (Router.choose_supervised · artifact) shown
    exact cores
  have chosen (policy : Policy) (artifact : Option Router.Artifact) :
      Router.choose_action policy first artifact = Router.choose_action policy second artifact := by
    have cores := congrArg (Router.choose_action policy · artifact) shown
    exact cores
  dsimp only
  rw [allowed, supervised, chosen]
  rfl

/-- A selector that sees a failing case never verifies. -/
theorem select_repairs (twins : Twins cfg on off) {selection : Selection}
    (chosen : PilotEpisode.select (cfg.arm false) off (off.observation (cfg.arm false)) =
      .ok selection) : selection.action ≠ .verify := by
  unfold PilotEpisode.select at chosen
  rw [legal_actions_quiet rfl twins.unverified (.inl rfl)] at chosen
  dsimp only at chosen
  rw [if_neg (Router.verify_not_allowed _)] at chosen
  split at chosen
  · cases chosen
  · split_ifs at chosen with masked
    cases chosen
    rintro verifies
    rw [verifies] at masked
    exact Router.verify_not_allowed _ masked

theorem Paired.forget {α : Type} {first second : Outcome Unit} {value other : α}
    (paired : Paired first second) :
    Paired ((first.andThen fun _ after => Outcome.ok value after).forget)
      ((second.andThen fun _ after => Outcome.ok other after).forget) := by
  have forgotten (value : α) (outcome : Outcome Unit) :
      (outcome.andThen fun _ after => Outcome.ok value after).forget = outcome := by
    cases outcome <;> rfl
  rw [forgotten, forgotten]
  exact paired

/-- A round, without the observations that its selector remembers. -/
theorem round_paired (twins : Twins cfg on off) (seen others : List Observation) :
    Paired (round (cfg.arm true) .select seen on).forget
      (round (cfg.arm false) .select others off).forget := by
  have pending := twins.share Episode.pending_provider_delay fun _ => rfl
  unfold round
  rw [pending]
  cases off.pending_provider_delay with
  | some delay => exact (backoff_paired twins delay).forget
  | none =>
    have selected : Selector.choose (cfg.arm true) .select seen on =
        Selector.choose (cfg.arm false) .select others off := select_twins twins
    dsimp only
    rw [selected]
    cases chosen : Selector.choose (cfg.arm false) .select others off with
    | error escape => exact .inl (congrArg (Outcome.raised escape) twins.same)
    | ok selection =>
      exact (step_paired twins selection.source (select_repairs twins chosen)).forget

end Twins

/-! ## The two loops -/

/-- What the arms keep between their rounds, until a green check. -/
structure Head (cfg : Config) (on off : Episode) : Prop where
  same : on.core = off.core
  started : off.started_flag = true
  unverified : off.verified_candidates = ∅
  tied : Workspace.Tied (cfg.arm false) off.workspace

section Runs

variable {cfg : Config} {on off : Episode}

theorem core_log_grows {first second : Episode} (grows : first.log <+: second.log) :
    first.core.log <+: second.core.log :=
  grows.map Occurrence.core

theorem Head.on_started (head : Head cfg on off) : on.started_flag = true := by
  have same := congrArg Episode.started_flag head.same
  exact same.trans head.started

/-- A current result without a failing case comes from a green check in both
logs. -/
theorem Head.green (head : Head cfg on off)
    (passing : ¬ off.publicResult.passed < off.publicResult.total) :
    Parted on.core.log off.core.log := by
  refine ⟨off.core.log, ?_, head.same ▸ List.prefix_rfl, List.prefix_rfl⟩
  have logged : Occurrence.evaluation ⟨.visible, off.files⟩ (.result off.publicResult) ∈ off.log :=
    head.tied.current.logged
  exact ⟨_, List.mem_map_of_mem logged, rfl, passing⟩

theorem Head.next (head : Head cfg on off) {seen later : List Observation} {after next : Episode}
    (returned : round (cfg.arm false) .select seen off = .ok later after)
    (same : next.core = after.core) : Head cfg next after := by
  have follows := round_follows (cfg.arm false) off .select seen head.started
  rw [returned] at follows
  have moves : Workspace.Moves (cfg.arm false) off.workspace after.workspace := follows
  have unable : ¬ (cfg.arm false).harness.Verifies := fun verifies => verifies.2 rfl
  exact ⟨same, moves.started_eq.trans head.started,
    (moves.verified_eq unable).trans head.unverified, moves.tied head.tied⟩

/-- What a loop has logged after its first round, it keeps. -/
theorem loop_log_grows {cfg : Config} {ep : Episode} {rounds : ℕ} {seen : List Observation}
    (started : ep.started_flag = true) :
    (round cfg .select seen ep).forget.episode.log <+:
      ((round cfg .select seen ep).andThen (loop cfg .select rounds)).episode.log := by
  have follows := round_follows cfg ep .select seen started
  cases stepped : round cfg .select seen ep with
  | ok later after =>
    rw [stepped] at follows
    have moves : Workspace.Moves cfg ep.workspace after.workspace := follows
    have still : after.started_flag = true := moves.started_eq.trans started
    exact (loop_follows cfg after .select rounds later still).log_grows
  | raised escape left => exact List.prefix_rfl

theorem loop_paired (head : Head cfg on off) (rounds : ℕ) (seen others : List Observation) :
    Paired (loop (cfg.arm true) .select rounds seen on)
      (loop (cfg.arm false) .select rounds others off) := by
  induction rounds generalizing on off seen others with
  | zero => exact .inl (congrArg (Outcome.ok ()) head.same)
  | succ rounds ih =>
    by_cases failing : off.publicResult.passed < off.publicResult.total
    · have terminal : on.terminal = off.terminal := by
        have cores := congrArg Episode.terminal head.same
        exact cores
      unfold loop
      rw [terminal]
      by_cases ended : off.terminal = true
      · rw [if_pos ended, if_pos ended]
        exact .inl (congrArg (Outcome.ok ()) head.same)
      · rw [if_neg ended, if_neg ended]
        have twins : Twins cfg on off := ⟨head.same, head.started, head.unverified, failing⟩
        rcases round_paired twins seen others with same | parted
        · -- both rounds return or both raise, and what they leave has one core
          cases first : round (cfg.arm true) .select seen on with
          | ok later after =>
            rw [first] at same
            cases second : round (cfg.arm false) .select others off with
            | ok more next =>
              rw [second] at same
              injection same with _ cores
              exact ih (head.next second cores) later more
            | raised escape left =>
              rw [second] at same
              cases same
          | raised escape left =>
            rw [first] at same
            cases second : round (cfg.arm false) .select others off with
            | ok more next =>
              rw [second] at same
              cases same
            | raised cause other =>
              rw [second] at same
              exact .inl same
        · exact .inr (parted.extend (core_log_grows (loop_log_grows head.on_started))
            (core_log_grows (loop_log_grows head.started)))
    · -- a green check has been made: from here on the logs only grow
      exact .inr ((head.green failing).extend
        (core_log_grows (loop_follows _ on .select _ seen head.on_started).log_grows)
        (core_log_grows (loop_follows _ off .select _ others head.started).log_grows))

/-- The arms start alike: they differ only in whether a program whose cases all
pass is stopped at once. -/
theorem start_paired (cfg : Config) :
    (initial (cfg.arm true)).start (cfg.arm true) = (initial (cfg.arm false)).start (cfg.arm false) ∨
      ∃ on off : Episode, (initial (cfg.arm true)).start (cfg.arm true) = .ok () on ∧
        (initial (cfg.arm false)).start (cfg.arm false) = .ok () off ∧ on.log = off.log ∧
        ¬ off.publicResult.passed < off.publicResult.total := by
  have unfolded (enabled : Bool) : (initial (cfg.arm enabled)).start (cfg.arm enabled) =
      (check cfg false (beginStart cfg (initial cfg))).andThen fun result measured =>
        .ok () (stopIfGreen (cfg.arm enabled) (assignBaseline result measured)) := rfl
  rw [unfolded, unfolded]
  cases check cfg false (beginStart cfg (initial cfg)) with
  | raised escape left => exact .inl rfl
  | ok result measured =>
    have kept (enabled : Bool) (ep : Episode) :
        (stopIfGreen (cfg.arm enabled) ep).log = ep.log ∧
          (stopIfGreen (cfg.arm enabled) ep).publicResult = ep.publicResult := by
      unfold stopIfGreen
      split_ifs <;> exact ⟨rfl, rfl⟩
    by_cases failing : result.passed < result.total
    · left
      have unstopped (enabled : Bool) : stopIfGreen (cfg.arm enabled)
          (assignBaseline result measured) = assignBaseline result measured :=
        if_neg fun green => green.1 (decide_eq_true failing)
      show Outcome.ok () _ = Outcome.ok () _
      rw [unstopped, unstopped]
    · right
      refine ⟨_, _, rfl, rfl, (kept _ _).1.trans (kept _ _).1.symm, ?_⟩
      rw [(kept _ _).2]
      exact failing

theorem drive_paired (cfg : Config) :
    Paired (drive (cfg.arm true) .select (initial (cfg.arm true)))
      (drive (cfg.arm false) .select (initial (cfg.arm false))) := by
  unfold drive
  rcases start_paired cfg with same | ⟨on, off, begun, beside, logs, passing⟩
  · rw [same]
    rcases start_cases (cfg.arm false) with ⟨started, first, baseline⟩ | ⟨escape, left, first, _⟩
    · rw [first]
      exact loop_paired ⟨rfl, baseline.started, baseline.verified, baseline.tied⟩ _ _ _
    · rw [first]
      exact .inl rfl
  · have grown {enabled : Bool} {ep : Episode}
        (started : (initial (cfg.arm enabled)).start (cfg.arm enabled) = .ok () ep) :
        Baseline (cfg.arm enabled) ep.workspace ∧ ep.core.log <+:
          (loop (cfg.arm enabled) .select cfg.bounds.max_decisions [] ep).episode.core.log := by
      rcases start_cases (cfg.arm enabled) with ⟨_, first, baseline⟩ | ⟨_, _, first, _⟩
      · rw [started] at first
        cases first
        exact ⟨baseline, core_log_grows (loop_follows _ ep .select _ [] baseline.started).log_grows⟩
      · rw [started] at first
        cases first
    have logged : Occurrence.evaluation ⟨.visible, off.files⟩ (.result off.publicResult) ∈ off.log :=
      (grown beside).1.tied.current.logged
    have parted : Parted on.core.log off.core.log := by
      have cores : on.core.log = off.core.log := congrArg (List.map Occurrence.core) logs
      exact ⟨off.core.log, ⟨_, List.mem_map_of_mem logged, rfl, passing⟩, cores ▸ List.prefix_rfl,
        List.prefix_rfl⟩
    rw [begun, beside]
    exact .inr (parted.extend (grown begun).2 (grown beside).2)

/-- Two outcomes of one core are handled alike, and a handler keeps the log. -/
theorem Paired.caught {first second : Outcome Unit} (paired : Paired first second) :
    Paired (caught first) (caught second) := by
  have failed (message : String) (ep : Episode) :
      (failExecution message ep).core = failExecution message ep.core := core_emit _ _
  have handled (outcome : Outcome Unit) :
      (Episode.caught outcome).mapEpisode core = Episode.caught (outcome.mapEpisode core) := by
    cases outcome with
    | ok value ep => rfl
    | raised escape left =>
      cases escape with
      | sandboxUnavailable message => exact congrArg (Outcome.ok ()) (failed message left)
      | _ => rfl
  have kept (outcome : Outcome Unit) :
      (Episode.caught outcome).episode.core.log = outcome.episode.core.log := by
    cases outcome with
    | ok value ep => rfl
    | raised escape left => cases escape <;> rfl
  rcases paired with same | parted
  · left
    rw [handled, handled, same]
  · right
    rw [kept, kept]
    exact parted

/-- A run of either arm goes on from what its loop leaves. -/
theorem run_log_grows (cfg : Config) :
    (Episode.caught (drive cfg .select (initial cfg))).episode.core.log <+:
      (run_episode cfg .select).episode.core.log := by
  rcases (run_episode_closes cfg .select).closing with ⟨occurrences, _, _, logged, _⟩
  exact core_log_grows ⟨occurrences, logged.symm⟩

/-- The ends of the two runs are paired as their loops are. -/
theorem run_paired (cfg : Config) :
    (run_episode (cfg.arm true) .select).core = (run_episode (cfg.arm false) .select).core ∨
      Parted (run_episode (cfg.arm true) .select).episode.core.log
        (run_episode (cfg.arm false) .select).episode.core.log := by
  rcases (drive_paired cfg).caught with same | parted
  · left
    have finished (enabled : Bool) : (run_episode (cfg.arm enabled) .select).core =
        ((Episode.caught (drive (cfg.arm enabled) .select (initial (cfg.arm enabled)))).mapEpisode
          core).andThen fun _ ended => ended.finish (cfg.arm enabled).released := by
      unfold run_episode
      cases Episode.caught (drive (cfg.arm enabled) .select (initial (cfg.arm enabled))) with
      | ok value ended => exact finish_core _ ended
      | raised escape left => rfl
    rw [finished, finished, same]
    rfl
  · exact .inr (parted.extend (run_log_grows _) (run_log_grows _))

end Runs

/-- The arms of the ablation are fair to each other.  With the same task,
policy, controllers, seed, provider and evaluator, the arm that verifies and the
one that does not make the same decisions, send the same requests, receive the
same answers with the same charges, and check the same candidates with the same
results up to and including the first check in which no visible case fails.  If
there is no such check the two runs are the same to their end, except for the
extra keys of the observations and the verification report. -/
theorem paired_arms (cfg : Config) :
    untilGreen (run_episode (cfg.arm true) .select).core.episode.log =
        untilGreen (run_episode (cfg.arm false) .select).core.episode.log ∧
      ((∀ occurrence ∈ (run_episode (cfg.arm true) .select).core.episode.log,
          ¬ occurrence.Green) →
        (run_episode (cfg.arm true) .select).core = (run_episode (cfg.arm false) .select).core) := by
  have logs (outcome : Outcome EpisodeResult) : outcome.core.episode.log = outcome.episode.core.log :=
    by cases outcome <;> rfl
  rcases run_paired cfg with same | parted
  · exact ⟨congrArg (fun outcome => untilGreen outcome.episode.log) same, fun _ => same⟩
  · rw [logs, logs]
    refine ⟨parted.untilGreen_eq, fun quiet => ?_⟩
    rcases parted with ⟨shared, ⟨occurrence, member, passes⟩, before, _⟩
    exact absurd passes (quiet occurrence (before.mem member))

end Episode

end ForgeRL
