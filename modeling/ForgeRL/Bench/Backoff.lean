import ForgeRL.Bench.Standing

namespace ForgeRL

open Library

/-!
# Waiting for a rate-limited provider

A rate limit arms a delay and leaves the episode running; the loop of the run
then waits and repeats the request on its own.  The waits of a run are listed
here by the same recursion as its rounds, so that statements about the k-th
wait can be made, and followed by one invariant: before each round of a
running episode, the provider retries are the waits so far.
-/

/-- A wait: the state in which it begins, and how its round ends. -/
structure Wait where
  before : Episode
  delay : ℚ
  outcome : Outcome (List Observation)

namespace Episode

/-- The requests that the budget has not refused. -/
def made (ep : Episode) : ℕ := ep.log.countP Occurrence.accepted

/-- The waits of a loop, in their order. -/
def waits (cfg : Config) (selector : Selector) : ℕ → List Observation → Episode → List Wait
  | 0, _, _ => []
  | rounds + 1, seen, ep =>
    if ep.terminal then []
    else
      let outcome := round cfg selector seen ep
      let later := match outcome with
        | .ok seen after => waits cfg selector rounds seen after
        | .raised _ _ => []
      match ep.pending_provider_delay with
      | some delay => ⟨ep, delay, outcome⟩ :: later
      | none => later

/-- The waits of `run_episode`. -/
def runWaits (cfg : Config) (selector : Selector) : List Wait :=
  match (initial cfg).start cfg with
  | .ok _ started => waits cfg selector cfg.bounds.max_decisions [] started
  | .raised _ _ => []

end Episode

/-- The wait was followed by a request. -/
def Wait.retried (wait : Wait) : Bool := decide (wait.before.made < wait.outcome.episode.made)

/-- A rate limit carries the cost that is retained for it. -/
def HostedProvider.RetainsLimited (provider : HostedProvider) : Prop :=
  ∀ earlier request failure, provider.generate earlier request = .failure failure →
    failure.http_status = some 429 → 0 < failure.cost_usd

/-- A request that has passed the checks on attempts, decisions, cost and
tokens. -/
structure Affordable (cfg : Config) (ep : Episode) (request : Request) : Prop where
  attempts : ep.attempts < cfg.bounds.max_steps
  decisions : ep.decisions < cfg.bounds.max_decisions
  affordable : ∀ estimate, cfg.provider.estimate_reservation_usd = some estimate →
    ∃ expected, estimate ep.requests request.toQuery = .ok expected ∧
      expected ≤ Episode.allowance cfg ep
  bounded : ∀ estimate, cfg.provider.estimate_token_bound = some estimate →
    ∃ bound, estimate ep.requests request.toQuery = .ok bound ∧
      ep.tokens + ep.unknown_token_bound + bound ≤ maxEpisodeTokens

/-- After a wait at most one request is sent, with the role of the limited one
and past all checks. -/
def Repeated (cfg : Config) (limited : Request) (before after : Episode) : Prop :=
  after.requests = before.requests ∨
    ∃ retry, after.requests = before.requests ++ [retry] ∧ retry.role = limited.role ∧
      Affordable cfg before retry

/-- An episode that has been left without a grading, and cannot get one. -/
structure NeverGraded (ep : Episode) : Prop where
  hidden : ep.hidden = none
  unlogged : ∀ files outcome, .evaluation ⟨.hidden, files⟩ outcome ∉ ep.log
  finished : ep.finished = true

/-- The k-th wait of a run. -/
structure Paced (cfg : Config) (k : ℕ) (wait : Wait) : Prop where
  room : k < cfg.bounds.rate_limit_retries
  least : 30 * 2 ^ k ≤ wait.delay
  most : wait.delay ≤ 60
  repeats : ∃ request failure,
    wait.before.log.getLast? = some (.request request (.failure failure)) ∧
      failure.http_status = some 429 ∧
      (∀ seconds, failure.retry_after_s = some seconds → seconds ≤ wait.delay) ∧
      Repeated cfg request wait.before wait.outcome.episode
  cancelled : cfg.sleepCancelled wait.before.decisions = true →
    ∃ left, wait.outcome = .raised .cancelled left ∧ left.requests = wait.before.requests ∧
      NeverGraded left

/-! ## The delay that a rate limit arms -/

/-- A pending delay, and the rate limit that has armed it. -/
structure Limited (cfg : Config) (s : Standing) (delay : ℚ) (request : Request)
    (failure : ProviderFailure) : Prop where
  logged : s.log.getLast? = some (.request request (.failure failure))
  status : failure.http_status = some 429
  waits : delay = max (30 * 2 ^ s.provider_retries) (failure.retry_after_s.getD 0)
  short : delay ≤ 60
  retries : s.provider_retries < cfg.bounds.rate_limit_retries
  attempts : s.attempts < cfg.bounds.max_steps
  decisions : s.decisions < cfg.bounds.max_decisions
  role : s.current_model = request.role

def Armed (cfg : Config) (s : Standing) : Prop :=
  ∀ delay, s.pending = some delay → ∃ request failure, Limited cfg s delay request failure

theorem Armed.idle {cfg : Config} {s : Standing} (idle : s.pending = none) : Armed cfg s := by
  intro delay pending
  rw [idle] at pending
  cases pending

namespace Episode

section Acted

variable {cfg : Config} {action : Action} {source : String} {s : Standing}

/-- A step arms a delay only for a rate limit that it has just met. -/
theorem acted_armed (retained : cfg.provider.RetainsLimited) (idle : s.pending = none)
    {after : Episode} (acts : Acted cfg action source s (.ok () after)) :
    Armed cfg after.standing := by
  have kept {later : Standing} (same : after.standing = later)
      (pending : later.pending = s.pending) :
      Armed cfg after.standing := by
    rw [same]
    exact .idle (pending.trans idle)
  cases acts with
  | kept _ ended same => exact kept same rfl
  | verified verifies state answer _ same => exact kept same rfl
  | exit state _ exits =>
    cases exits with
    | stopped stops _ ended same => exact kept same rfl
    | restored rolls _ same => exact kept same rfl
    | unsent requests _ ended same => exact kept same rfl
    | sent bound request answer issued _ answered =>
      cases answered with
      | refused failure kind _ ended same => exact kept same rfl
      | broken failure kind incurable _ ended same => exact kept same rfl
      | invalid failure kind unlimited _ same => exact kept same rfl
      | rejected result error rejects _ same => exact kept same rfl
      | measured result candidate merged valid evaluation _ same => exact kept same rfl
      | armed failure limited kind _ wait waits short retries attempts decisions same =>
        have cost := retained s.requests request failure issued.answered limited
        have observed : requestObserved failure := ⟨kind, .inl cost⟩
        rw [same]
        intro delay pending
        cases pending
        refine ⟨request, failure, List.getLast?_concat, limited, waits, short, retries, attempts,
          decisions, ?_⟩
        exact (if_pos observed).trans issued.role.symm

/-- The automatic retries are counted outside of the step. -/
theorem acted_provider_retries {outcome : Outcome Unit}
    (acts : Acted cfg action source s outcome) :
    outcome.episode.standing.provider_retries = s.provider_retries := by
  have kept {later : Standing} (same : outcome.episode.standing = later)
      (counted : later.provider_retries = s.provider_retries) :
      outcome.episode.standing.provider_retries = s.provider_retries :=
    (congrArg Standing.provider_retries same).trans counted
  cases acts with
  | kept _ ended same => exact kept same rfl
  | verified verifies state answer _ same => exact kept same rfl
  | exit state _ exits =>
    cases exits with
    | stopped stops _ ended same => exact kept same rfl
    | restored rolls _ same => exact kept same rfl
    | unsent requests _ ended same => exact kept same rfl
    | sent bound request answer issued _ answered =>
      cases answered
      all_goals
        rename_i same
        exact kept same rfl

/-- Whether a step that asks for a request has made one. -/
inductive Sending (cfg : Config) (action : Action) (s : Standing) (outcome : Outcome Unit) :
    Prop where
  | unsent (ended : ∀ after, outcome = .ok () after → after.terminal = true)
      (requests : outcome.episode.standing.requests = s.requests)
      (attempts : outcome.episode.standing.attempts = s.attempts)
      (pending : outcome.episode.standing.pending = s.pending)
      (made : outcome.episode.standing.log.countP Occurrence.accepted =
        s.log.countP Occurrence.accepted) : Sending cfg action s outcome
  | refused (bound : ℤ) (request : Request) (answer : GenerateOutcome)
      (issued : Issued cfg s action bound request answer)
      (ended : ∀ after, outcome = .ok () after → after.terminal = true)
      (requests : outcome.episode.standing.requests = s.requests ++ [request])
      (attempts : outcome.episode.standing.attempts = s.attempts)
      (pending : outcome.episode.standing.pending = s.pending)
      (made : outcome.episode.standing.log.countP Occurrence.accepted =
        s.log.countP Occurrence.accepted) : Sending cfg action s outcome
  | sent (bound : ℤ) (request : Request) (answer : GenerateOutcome)
      (issued : Issued cfg s action bound request answer)
      (requests : outcome.episode.standing.requests = s.requests ++ [request])
      (attempts : outcome.episode.standing.attempts = s.attempts + 1)
      (made : outcome.episode.standing.log.countP Occurrence.accepted =
        s.log.countP Occurrence.accepted + 1) : Sending cfg action s outcome

theorem accepted_called (source : String) (state : Observation) (request : Request)
    (answer : GenerateOutcome) :
    ((s.decided action source state).called action request answer).log.countP Occurrence.accepted =
      s.log.countP Occurrence.accepted + if answer.refused then 0 else 1 := by
  show (s.log ++ [Occurrence.decision action source state] ++
    [Occurrence.request request answer]).countP Occurrence.accepted = _
  rw [List.countP_append, List.countP_append, List.countP_singleton, List.countP_singleton]
  cases refused : answer.refused <;> simp [Occurrence.accepted, refused]

theorem accepted_evaluation (log : List Occurrence) (call : EvalCall) (outcome : EvalOutcome) :
    (log ++ [Occurrence.evaluation call outcome]).countP Occurrence.accepted =
      log.countP Occurrence.accepted := by
  rw [List.countP_append, List.countP_singleton]
  rfl

theorem acted_sending (asks : action.Requests) {outcome : Outcome Unit}
    (acts : Acted cfg action source s outcome) : Sending cfg action s outcome := by
  cases acts with
  | kept _ ended same =>
    exact .unsent ended (congrArg Standing.requests same) (congrArg Standing.attempts same)
      (congrArg Standing.pending same)
      (congrArg (fun later => later.log.countP Occurrence.accepted) same)
  | verified verifies => exact absurd verifies asks.2.2
  | exit state _ exits =>
    cases exits with
    | stopped stops => exact absurd stops asks.1
    | restored rolls => exact absurd rolls asks.2.1
    | unsent requests _ ended same =>
      refine .unsent ended ?_ ((congrArg Standing.attempts same).trans rfl)
        ((congrArg Standing.pending same).trans rfl) ?_
      · exact (congrArg Standing.requests same).trans (Standing.requests_decided _ _ _ _)
      · rw [same]
        exact List.countP_append.trans (Nat.add_zero _)
    | sent bound request answer issued _ answered =>
      have requests : outcome.episode.standing.requests = s.requests ++ [request] := by
        rw [answered.requests, Standing.requests_called, Standing.requests_decided]
      have called := @accepted_called action s source state request answer
      have sent {later : Standing} (same : outcome.episode.standing = later)
          (attempts : later.attempts = s.attempts + 1)
          (made : later.log.countP Occurrence.accepted =
            ((s.decided action source state).called action request answer).log.countP
              Occurrence.accepted) (accepted : answer.refused = false) :
          Sending cfg action s outcome := by
        refine .sent bound request answer issued requests
          ((congrArg Standing.attempts same).trans attempts) ?_
        rw [same, made, called, accepted]
        rfl
      have unrefused {failure : ProviderFailure} (kind : failure.kind ≠ .budgetExceeded) :
          (GenerateOutcome.failure failure).refused = false := decide_eq_false kind
      cases answered with
      | escaped escape left same => exact sent same rfl rfl rfl
      | cancelled failure kind left same =>
        exact sent same rfl rfl (unrefused (by rw [kind]; decide))
      | refused failure kind after ended same =>
        have refused : (GenerateOutcome.failure failure).refused = true := decide_eq_true kind
        rw [refused] at called
        exact .refused bound request _ issued (fun _ other => by cases other; exact ended) requests
          ((congrArg Standing.attempts same).trans rfl) ((congrArg Standing.pending same).trans rfl)
          ((congrArg (fun later => later.log.countP Occurrence.accepted) same).trans called)
      | armed failure limited kind after delay waits short retries attempts decisions same =>
        exact sent same rfl rfl (unrefused kind)
      | broken failure kind incurable after ended same => exact sent same rfl rfl (unrefused kind)
      | invalid failure kind unlimited after same =>
        exact sent same rfl rfl (unrefused (by rw [kind]; decide))
      | rejected result error rejects after same => exact sent same rfl rfl rfl
      | unscreened result escape raises left same => exact sent same rfl rfl rfl
      | measured result candidate merged valid evaluation after same =>
        exact sent same rfl (accepted_evaluation _ _ _) rfl
      | stranded result candidate merged valid escape left same =>
        exact sent same rfl (accepted_evaluation _ _ _) rfl

end Acted

/-! ## One round -/

section Round

variable {cfg : Config} {selector : Selector} {seen : List Observation} {ep : Episode}

theorem episode_andThen (outcome : Outcome Unit) (seen : List Observation) :
    (outcome.andThen fun _ after => .ok seen after).episode = outcome.episode := by
  cases outcome <;> rfl

/-- A round without a pending delay counts no automatic retry. -/
theorem round_idle (retained : cfg.provider.RetainsLimited) (started : ep.started_flag = true)
    (idle : ep.pending_provider_delay = none) :
    (round cfg selector seen ep).episode.provider_retries = ep.provider_retries ∧
      ∀ later after, round cfg selector seen ep = .ok later after → Armed cfg after.standing := by
  unfold round
  rw [idle]
  dsimp only
  cases selector.choose cfg seen ep with
  | error escape => exact ⟨rfl, fun later after impossible => by cases impossible⟩
  | ok selection =>
    have acts := @step_acted cfg ep selection.action selection.source started
    dsimp only
    refine ⟨?_, ?_⟩
    · rw [episode_andThen]
      exact acted_provider_retries acts
    · intro later after returned
      cases outcome : step cfg selection.action selection.source ep with
      | ok value stepped =>
        rw [outcome] at acts returned
        cases returned
        exact acted_armed retained idle acts
      | raised escape left =>
        rw [outcome] at returned
        cases returned

theorem undo_of_unmade {previous : ℕ} {left : Episode} (unmade : left.attempts ≤ previous) :
    undoProviderRetry previous left =
      { left with provider_retries := left.provider_retries - 1 } := if_pos unmade

theorem undo_of_made {previous : ℕ} {left : Episode} (made : previous < left.attempts) :
    undoProviderRetry previous left = left := if_neg (Nat.not_le.mpr made)

/-- What a wait and its retry leave. -/
structure Resumed (cfg : Config) (limited : Request) (ep : Episode)
    (outcome : Outcome (List Observation)) : Prop where
  repeated : Repeated cfg limited ep outcome.episode
  counted : outcome.episode.provider_retries =
    ep.provider_retries + if ep.made < outcome.episode.made then 1 else 0
  armed : ∀ later after, outcome = .ok later after → Armed cfg after.standing
  goes_on : ∀ later after, outcome = .ok later after → after.terminal = false →
    ep.made < after.made

/-- A retry that makes no request is taken back, and ends the episode. -/
theorem resumed_of_unmade {request : Request} {stepped : Outcome Unit}
    (counted : stepped.episode.provider_retries = ep.provider_retries + 1)
    (repeated : Repeated cfg request ep stepped.episode)
    (attempts : stepped.episode.attempts = ep.attempts)
    (made : stepped.episode.made = ep.made)
    (idle : stepped.episode.pending_provider_delay = none)
    (ended : ∀ after, stepped = .ok () after → after.terminal = true) :
    Resumed cfg request ep
      ((stepped.mapEpisode (undoProviderRetry ep.attempts)).andThen fun _ after =>
        .ok seen after) := by
  have same : ((stepped.mapEpisode (undoProviderRetry ep.attempts)).andThen fun _ after =>
      Outcome.ok seen after).episode =
        { stepped.episode with provider_retries := stepped.episode.provider_retries - 1 } := by
    rw [← undo_of_unmade attempts.le]
    cases stepped <;> rfl
  have unmade : ¬ ep.made < stepped.episode.made := by
    rw [made]
    exact Nat.lt_irrefl _
  refine ⟨?_, ?_, ?_, ?_⟩
  · rw [same]
    exact repeated
  · rw [same]
    show stepped.episode.provider_retries - 1 =
      ep.provider_retries + if ep.made < stepped.episode.made then 1 else 0
    rw [if_neg unmade, counted]
    rfl
  · intro later after returned
    rw [returned] at same
    apply Armed.idle
    show after.pending_provider_delay = none
    rw [show after = _ from same]
    exact idle
  · intro later after returned runs
    cases stepped with
    | ok value left =>
      have closed : after.terminal = true := by
        rw [returned] at same
        rw [show after = _ from same]
        exact ended left rfl
      rw [runs] at closed
      cases closed
    | raised escape left => cases returned

/-- A retry that makes its request stays counted. -/
theorem resumed_of_made {request : Request} {stepped : Outcome Unit}
    (counted : stepped.episode.provider_retries = ep.provider_retries + 1)
    (repeated : Repeated cfg request ep stepped.episode)
    (attempts : stepped.episode.attempts = ep.attempts + 1)
    (made : stepped.episode.made = ep.made + 1)
    (armed : ∀ after, stepped = .ok () after → Armed cfg after.standing) :
    Resumed cfg request ep
      ((stepped.mapEpisode (undoProviderRetry ep.attempts)).andThen fun _ after =>
        .ok seen after) := by
  have kept : undoProviderRetry ep.attempts stepped.episode = stepped.episode :=
    undo_of_made (Nat.lt_succ_self _ |>.trans_eq attempts.symm)
  have same : ((stepped.mapEpisode (undoProviderRetry ep.attempts)).andThen fun _ after =>
      Outcome.ok seen after).episode = stepped.episode := by
    rw [← kept]
    cases stepped <;> rfl
  have more : ep.made < stepped.episode.made := Nat.lt_succ_self _ |>.trans_eq made.symm
  refine ⟨?_, ?_, ?_, ?_⟩
  · rw [same]
    exact repeated
  · rw [same, if_pos more]
    exact counted
  · intro later after returned
    rw [returned] at same
    cases stepped with
    | ok value left => exact (show after = left from same) ▸ armed left rfl
    | raised escape left => cases returned
  · intro later after returned _
    rw [returned] at same
    rw [show after = _ from same]
    exact more

theorem retryStep_resumed (retained : cfg.provider.RetainsLimited)
    (started : ep.started_flag = true) {delay : ℚ} {request : Request} {failure : ProviderFailure}
    (limited : Limited cfg ep.standing delay request failure) :
    Resumed cfg request ep
      ((retryStep cfg (beginWait delay ep)).andThen fun _ after => .ok seen after) := by
  have acts := @step_acted cfg (countProviderRetry (beginWait delay ep)) .repair "provider_retry"
    started
  have counted := acted_provider_retries acts
  have sending := acted_sending ⟨by decide, by decide, by decide⟩ acts
  have armed (after : Episode)
      (returned : step cfg .repair "provider_retry" (countProviderRetry (beginWait delay ep)) =
        .ok () after) : Armed cfg after.standing := by
    rw [returned] at acts
    exact acted_armed retained rfl acts
  unfold retryStep
  generalize step cfg .repair "provider_retry" (countProviderRetry (beginWait delay ep)) = stepped
    at acts counted sending armed
  have admitted {bound : ℤ} {retry : Request} {answer : GenerateOutcome}
      (issued : Issued cfg (countProviderRetry (beginWait delay ep)).standing .repair bound retry
        answer) (requests : stepped.episode.standing.requests =
          (countProviderRetry (beginWait delay ep)).standing.requests ++ [retry]) :
      Repeated cfg request ep stepped.episode :=
    .inr ⟨retry, requests, issued.role.trans limited.role, limited.attempts, limited.decisions,
      issued.affordable, fun estimate given => ⟨bound, issued.bounded estimate given⟩⟩
  cases sending with
  | unsent ended requests attempts pending made =>
    exact resumed_of_unmade counted (.inl requests) attempts made pending ended
  | refused bound retry answer issued ended requests attempts pending made =>
    exact resumed_of_unmade counted (admitted issued requests) attempts made pending ended
  | sent bound retry answer issued requests attempts made =>
    exact resumed_of_made counted (admitted issued requests) attempts made armed

/-- A wait that is cancelled leaves no request and no grading. -/
theorem cancelled_wait {delay : ℚ} (ungraded : Workspace.Ungraded ep.workspace)
    (cancels : cfg.sleepCancelled ep.decisions = true) :
    ∃ left, backoff cfg delay ep = .raised .cancelled left ∧ NeverGraded left ∧
      left.standing = { ep.standing with pending := none } := by
  rcases @finish_cancelWait cfg ep delay with ⟨result, done, finished, closed, hidden, standing⟩
  refine ⟨done, ?_, ⟨hidden.trans ungraded.hidden, ?_, closed⟩, standing⟩
  · rw [backoff, if_pos cancels, finished]
    rfl
  · have log : done.log = ep.log := congrArg Standing.log standing
    rw [log]
    exact ungraded.unlogged

/-- A round with a pending delay is a wait, and a retry unless it is cancelled. -/
theorem round_paced (retained : cfg.provider.RetainsLimited) (started : ep.started_flag = true)
    (ungraded : Workspace.Ungraded ep.workspace) {delay : ℚ}
    (pending : ep.pending_provider_delay = some delay) {request : Request}
    {failure : ProviderFailure} (limited : Limited cfg ep.standing delay request failure) :
    Paced cfg ep.provider_retries ⟨ep, delay, round cfg selector seen ep⟩ ∧
      Resumed cfg request ep (round cfg selector seen ep) := by
  have least : 30 * 2 ^ ep.provider_retries ≤ delay := limited.waits ▸ le_max_left _ _
  have requested : failure.retry_after_s.getD 0 ≤ delay := limited.waits ▸ le_max_right _ _
  have waited (seconds : ℚ) (given : failure.retry_after_s = some seconds) : seconds ≤ delay := by
    rw [given] at requested
    exact requested
  have rounds : round cfg selector seen ep =
      (backoff cfg delay ep).andThen fun _ after => .ok seen after := by
    rw [round, pending]
  have paced (resumed : Resumed cfg request ep (round cfg selector seen ep))
      (cancelled : cfg.sleepCancelled ep.decisions = true →
        ∃ left, round cfg selector seen ep = .raised .cancelled left ∧
          left.requests = ep.requests ∧ NeverGraded left) :
      Paced cfg ep.provider_retries ⟨ep, delay, round cfg selector seen ep⟩ :=
    ⟨limited.retries, least, limited.short,
      ⟨request, failure, limited.logged, limited.status, waited, resumed.repeated⟩, cancelled⟩
  by_cases cancels : cfg.sleepCancelled ep.decisions = true
  · rcases @cancelled_wait cfg ep delay ungraded cancels with ⟨left, same, never, standing⟩
    have raised : round cfg selector seen ep = .raised .cancelled left := by
      rw [rounds, same]
      rfl
    have requests : left.requests = ep.requests := congrArg Standing.requests standing
    have made : left.made = ep.made :=
      congrArg (fun s => s.log.countP Occurrence.accepted) standing
    have resumed : Resumed cfg request ep (round cfg selector seen ep) := by
      rw [raised]
      refine ⟨.inl requests, ?_, fun _ _ impossible => (by cases impossible),
        fun _ _ impossible => (by cases impossible)⟩
      show left.provider_retries = ep.provider_retries + if ep.made < left.made then 1 else 0
      rw [made, if_neg (Nat.lt_irrefl _)]
      exact congrArg Standing.provider_retries standing
    exact ⟨paced resumed fun _ => ⟨left, raised, requests, never⟩, resumed⟩
  · have resumed : Resumed cfg request ep (round cfg selector seen ep) := by
      rw [rounds, backoff, if_neg cancels]
      exact retryStep_resumed retained started limited
    exact ⟨paced resumed fun cancels_ => absurd cancels_ cancels, resumed⟩

end Round

/-! ## The loop and the run -/

theorem Rounds.ungraded {cfg : Config} {selector : Selector} {seen : List Observation}
    {ep : Episode} (rounds : Rounds cfg selector seen ep) : Workspace.Ungraded ep.workspace := by
  induction rounds with
  | start returned =>
    rcases start_cases cfg with ⟨started, same, baseline⟩ | ⟨escape, left, same, _⟩
    · rw [returned] at same
      cases same
      exact baseline.ungraded
    · rw [returned] at same
      cases same
  | @next seen later ep after begins _ returned ih =>
    have follows := round_follows cfg ep selector seen begins.started
    rw [returned] at follows
    have moves : Workspace.Moves cfg ep.workspace after.workspace := follows
    exact moves.ungraded ih

section Loop

variable {cfg : Config} {selector : Selector}

/-- The waits from a round on, of which some have gone before. -/
structure Timed (cfg : Config) (before : ℕ) (ep : Episode) (waits : List Wait)
    (outcome : Outcome Unit) : Prop where
  paced : ∀ i wait, waits[i]? = some wait → Paced cfg (before + i) wait
  counted : outcome.episode.provider_retries =
    ep.provider_retries + waits.countP Wait.retried
  raised : ∀ wait ∈ waits, ∀ escape left, wait.outcome = .raised escape left →
    outcome = .raised escape left

theorem timed_nil (before : ℕ) {ep : Episode} {outcome : Outcome Unit}
    (counted : outcome.episode.provider_retries = ep.provider_retries) :
    Timed cfg before ep [] outcome :=
  ⟨fun _ _ impossible => (by cases impossible), counted,
    fun _ impossible => (by cases impossible)⟩

theorem timed_cons {before : ℕ} {ep after : Episode} {wait : Wait} {later : List Wait}
    {outcome : Outcome Unit} (paced : Paced cfg before wait)
    (counted : after.provider_retries = ep.provider_retries + if wait.retried then 1 else 0)
    (returned : ∃ seen, wait.outcome = .ok seen after)
    (timed : Timed cfg (before + 1) after later outcome) :
    Timed cfg before ep (wait :: later) outcome where
  paced i other found := by
    cases i with
    | zero =>
      cases found
      exact paced
    | succ i =>
      rw [Nat.add_succ, ← Nat.succ_add]
      exact timed.paced i other found
  counted := by
    rw [timed.counted, counted, List.countP_cons]
    omega
  raised other member escape left raises := by
    rcases List.mem_cons.mp member with rfl | member
    · rcases returned with ⟨seen, returned⟩
      rw [returned] at raises
      cases raises
    · exact timed.raised other member escape left raises

/-- A wait whose round raises is the last one. -/
theorem timed_last {before : ℕ} {ep left : Episode} {wait : Wait} {escape : Escape}
    (paced : Paced cfg before wait)
    (counted : left.provider_retries = ep.provider_retries + if wait.retried then 1 else 0)
    (raised : wait.outcome = .raised escape left) :
    Timed cfg before ep [wait] (.raised escape left) where
  paced i other found := by
    cases i with
    | zero =>
      cases found
      exact paced
    | succ i => cases found
  counted := counted.trans (by rw [List.countP_singleton])
  raised other member cause last raises := by
    rw [List.mem_singleton.mp member, raised] at raises
    cases raises
    rfl

/-- The induction over the rounds: in a running episode the provider retries
are the waits so far, and a pending delay belongs to a rate limit. -/
theorem loop_timed (retained : cfg.provider.RetainsLimited) (rounds before : ℕ)
    {seen : List Observation} {ep : Episode} (begins : Rounds cfg selector seen ep)
    (counted : ep.terminal = false → ep.provider_retries = before)
    (armed : Armed cfg ep.standing) :
    Timed cfg before ep (waits cfg selector rounds seen ep) (loop cfg selector rounds seen ep) := by
  induction rounds generalizing before seen ep with
  | zero => exact timed_nil before rfl
  | succ rounds ih =>
    unfold waits loop
    by_cases ended : ep.terminal = true
    · rw [if_pos ended, if_pos ended]
      exact timed_nil before rfl
    · rw [if_neg ended, if_neg ended]
      have runs : ep.terminal = false := Bool.not_eq_true _ ▸ ended
      cases pending : ep.pending_provider_delay with
      | none =>
        have idle := @round_idle cfg selector seen ep retained begins.started pending
        cases outcome : round cfg selector seen ep with
        | ok later after =>
          rw [outcome] at idle
          have same : after.provider_retries = ep.provider_retries := idle.1
          have timed := ih before (begins.next runs outcome)
            (fun _ => same.trans (counted runs)) (idle.2 later after rfl)
          exact ⟨timed.paced, same ▸ timed.counted, timed.raised⟩
        | raised escape left =>
          rw [outcome] at idle
          exact timed_nil before idle.1
      | some delay =>
        rcases armed delay pending with ⟨request, failure, limited⟩
        rcases @round_paced cfg selector seen ep retained begins.started begins.ungraded delay
          pending request failure limited with ⟨paced, resumed⟩
        rw [counted runs] at paced
        cases outcome : round cfg selector seen ep with
        | ok later after =>
          rw [outcome] at paced resumed
          have goes_on (open_ : after.terminal = false) : after.provider_retries = before + 1 := by
            have more := resumed.goes_on later after rfl open_
            have retries := resumed.counted
            rw [if_pos (show ep.made < (Outcome.ok later after).episode.made from more)] at retries
            exact retries.trans (by rw [counted runs])
          refine timed_cons paced ?_ ⟨later, rfl⟩
            (ih (before + 1) (begins.next runs outcome) goes_on (resumed.armed later after rfl))
          rw [show after.provider_retries = _ from resumed.counted]
          simp [Wait.retried]
        | raised escape left =>
          rw [outcome] at paced resumed
          refine timed_last paced ?_ rfl
          rw [show left.provider_retries = _ from resumed.counted]
          simp [Wait.retried]

end Loop

theorem opening_counted {cfg : Config} {s : Standing} {outcome : Outcome Unit}
    (opening : Opening cfg s outcome) :
    outcome.episode.standing.provider_retries = s.provider_retries ∧
      outcome.episode.standing.pending = s.pending := by
  cases opening with
  | again _ same => exact ⟨congrArg Standing.provider_retries same, congrArg Standing.pending same⟩
  | unopened fresh escape left same =>
    rw [Outcome.episode, same]
    exact ⟨rfl, rfl⟩
  | opened fresh result after same =>
    rw [Outcome.episode, same]
    exact ⟨rfl, rfl⟩

theorem drive_timed (cfg : Config) (retained : cfg.provider.RetainsLimited)
    (selector : Selector) :
    Timed cfg 0 (initial cfg) (runWaits cfg selector) (drive cfg selector (initial cfg)) := by
  have opened := opening_counted (@start_opening cfg (initial cfg))
  unfold runWaits drive
  cases begun : (initial cfg).start cfg with
  | ok value started =>
    rw [begun] at opened
    have counted : started.provider_retries = 0 := opened.1
    have begins : Rounds cfg selector [] started := .start begun
    have timed := loop_timed retained cfg.bounds.max_decisions 0 begins (fun _ => counted)
      (Armed.idle opened.2)
    exact ⟨timed.paced, timed.counted.trans (by rw [counted]; rfl), timed.raised⟩
  | raised escape left =>
    rw [begun] at opened
    exact timed_nil 0 opened.1

/-- The handler and the grading count no automatic retry. -/
theorem ended_provider_retries (cfg : Config) (outcome : Outcome Unit) :
    ((caught outcome).andThen fun _ ended => ended.finish cfg).episode.provider_retries =
      outcome.episode.provider_retries := by
  have finished (ep : Episode) :
      (ep.finish cfg).episode.provider_retries = ep.provider_retries := by
    rcases @standing_finish cfg ep with same | ⟨answer, same⟩
    · exact congrArg Standing.provider_retries same
    · exact congrArg Standing.provider_retries same
  cases outcome with
  | ok value ended => exact finished ended
  | raised escape left =>
    cases escape with
    | sandboxUnavailable message => exact finished (failExecution message left)
    | _ => rfl

/-- In every run whose rate limits carry the cost that is retained for them,
the waits are few, each is long enough and short enough, the retry after it
asks the same model past all checks, the retries that are counted are those
that were made, and a cancelled wait ends the run without another request and
without a grading. -/
theorem rate_limit_retries (cfg : Config) (retained : cfg.provider.RetainsLimited)
    (selector : Selector) :
    (runWaits cfg selector).length ≤ cfg.bounds.rate_limit_retries ∧
    (∀ k wait, (runWaits cfg selector)[k]? = some wait → Paced cfg k wait) ∧
    (run_episode cfg selector).episode.provider_retries =
      (runWaits cfg selector).countP Wait.retried ∧
    ∀ wait ∈ runWaits cfg selector, cfg.sleepCancelled wait.before.decisions = true →
      ∃ left, run_episode cfg selector = .raised .cancelled left ∧
        left.requests = wait.before.requests ∧ NeverGraded left := by
  have timed := drive_timed cfg retained selector
  have paced (k : ℕ) (wait : Wait) (found : (runWaits cfg selector)[k]? = some wait) :
      Paced cfg k wait := by
    have paced := timed.paced k wait found
    rwa [Nat.zero_add] at paced
  refine ⟨?_, paced, ?_, ?_⟩
  · by_contra many
    have last := List.getElem?_eq_getElem (Nat.not_le.mp many)
    exact Nat.lt_irrefl _ (paced _ _ last).room
  · rw [run_episode, ended_provider_retries, timed.counted]
    exact Nat.zero_add _
  · intro wait member cancels
    rcases List.mem_iff_getElem?.mp member with ⟨k, found⟩
    rcases (paced k wait found).cancelled cancels with ⟨left, raised, requests, never⟩
    refine ⟨left, ?_, requests, never⟩
    rw [run_episode, timed.raised wait member .cancelled left raised]
    rfl

/-- A provider whose first answer is a rate limit. -/
def limitedProvider : HostedProvider :=
  { smallProvider with
    generate := fun earlier request =>
      if earlier.isEmpty then
        .failure { ProviderFailure.bare .providerError "Model provider returned HTTP 429" with
          cost_usd := 1 / 100
          http_status := some 429
          retry_after_s := some 45 }
      else smallProvider.generate earlier request }

def limitedConfig : Config :=
  { smallConfig (fun _ _ => oneCase false) with
    bounds := { (smallConfig fun _ _ => oneCase false).bounds with
      rate_limit_retries := 1, retries := Nat.le_succ 1 }
    provider := limitedProvider }

theorem limitedProvider_retains : limitedProvider.RetainsLimited := by
  intro earlier request failure answer limited
  unfold limitedProvider at answer
  dsimp only at answer
  split_ifs at answer
  · cases answer
    decide +kernel
  · cases answer

theorem rate_limit_retries_limited : ∃ wait, runWaits limitedConfig .policy = [wait] ∧
    Paced limitedConfig 0 wait := by
  have timed := rate_limit_retries limitedConfig limitedProvider_retains .policy
  have one : (runWaits limitedConfig .policy).length = 1 := by decide +kernel
  rcases List.length_eq_one_iff.mp one with ⟨wait, waits⟩
  refine ⟨wait, waits, timed.2.1 0 wait ?_⟩
  rw [waits]
  rfl

end Episode

end ForgeRL
