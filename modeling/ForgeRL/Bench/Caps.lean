import ForgeRL.Bench.Run

namespace ForgeRL

open Library

/-!
# The caps of an episode

The counters of an episode are its meter.  Each piece of a step either leaves
the meter alone or moves it in one way, and each of these ways stays within
the caps under the condition that the step has checked before.

A request is paid for by the preflight: when a provider never charges more
than it has estimated for the same arguments, the cost and the tokens after
the answer are what the preflight has already admitted.
-/

structure Meter where
  attempts : ℕ
  decisions : ℕ
  retries : ℕ
  rollbacks : ℕ
  escalations : ℕ
  invalid_responses : ℕ
  provider_retries : ℕ
  pending : Bool
  cost_usd : ℚ
  tokens : ℤ
  unknown_token_bound : ℤ
  current_model : Role
  /-- The provider requests that were not refused. -/
  accepted : ℕ

/-- A request that the budget has not refused. -/
def Occurrence.accepted (occurrence : Occurrence) : Bool :=
  match occurrence with
  | .request _ outcome => !outcome.refused
  | _ => false

/-- What every state of a run keeps; the cost and the tokens only if the
requests are `paid` for by their estimates, and the cost only if the arithmetic
is exact.  An escalation leaves the strong model in place, and a pending retry
has not been counted yet. -/
structure Metered (paid : Prop) (cfg : Config) (meter : Meter) : Prop where
  attempts : meter.attempts ≤ cfg.bounds.max_steps
  decisions : meter.decisions ≤ cfg.bounds.max_decisions
  retries : meter.retries ≤ 2
  rollbacks : meter.rollbacks ≤ 1
  escalations : meter.escalations ≤ if meter.current_model = .strong then 1 else 0
  invalid_responses : meter.invalid_responses ≤ 3
  provider_retries : meter.provider_retries ≤ cfg.bounds.rate_limit_retries
  pending : meter.pending = true → meter.provider_retries < cfg.bounds.rate_limit_retries
  cost_usd : paid → cfg.arithmetic.Exact →
    meter.cost_usd ≤ cfg.bounds.max_cost_usd + 1 / 1000000000
  tokens : paid → meter.tokens + meter.unknown_token_bound ≤ maxEpisodeTokens
  accepted : meter.accepted ≤ meter.attempts

namespace Episode

def meter (ep : Episode) : Meter where
  attempts := ep.attempts
  decisions := ep.decisions
  retries := ep.retries
  rollbacks := ep.rollbacks
  escalations := ep.escalations
  invalid_responses := ep.invalid_responses
  provider_retries := ep.provider_retries
  pending := ep.pending_provider_delay.isSome
  cost_usd := ep.cost_usd
  tokens := ep.tokens
  unknown_token_bound := ep.unknown_token_bound
  current_model := ep.current_model
  accepted := ep.log.countP Occurrence.accepted

/-! ## Pieces that leave the meter alone -/

section Pieces

variable (cfg : Config) (ep : Episode)

@[simp] theorem meter_emit (event : Event) : (ep.emit event).meter = ep.meter := rfl

/-- Only an accepted request moves the meter when it is noted. -/
theorem meter_note (occurrence : Occurrence) : (ep.note occurrence).meter =
    { ep.meter with accepted := ep.meter.accepted + if occurrence.accepted then 1 else 0 } := by
  simp only [meter, note, List.countP_append, List.countP_singleton]

@[simp] theorem meter_record_failure (label : String) :
    (ep.record_failure label).meter = ep.meter := by
  rcases record_failure_eq ep label with ⟨labels, same⟩
  rw [same]
  rfl

@[simp] theorem meter_close (context : StepContext) : (close cfg context ep).meter = ep.meter := by
  rcases endBudget_eq cfg ep with ⟨terminal, reason, same⟩
  rw [close, same]
  rfl

@[simp] theorem meter_askCheck (hidden : Bool) : (askCheck cfg hidden ep).meter = ep.meter :=
  meter_note _ _

@[simp] theorem meter_recordDecision (action : Action) (source : String) :
    (recordDecision cfg action source ep).meter =
      { ep.meter with decisions := ep.meter.decisions + 1 } :=
  meter_note _ _

@[simp] theorem meter_recordModel (model : String) : (recordModel model ep).meter = ep.meter := by
  rcases recordModel_eq ep model with ⟨models, events, same⟩
  rw [same]
  rfl

@[simp] theorem meter_recordFailedModel (model : Option String) :
    (recordFailedModel model ep).meter = ep.meter := by
  rcases recordFailedModel_eq ep model with ⟨models, events, last, same⟩
  rw [same]
  rfl

@[simp] theorem meter_capSteps : (capSteps cfg ep).meter = ep.meter := by
  rcases capSteps_eq cfg ep with ⟨terminal, reason, same⟩
  rw [same]
  rfl

@[simp] theorem meter_capInvalid : ep.capInvalid.meter = ep.meter := by
  rcases capInvalid_eq ep with ⟨terminal, reason, same⟩
  rw [same]
  rfl

@[simp] theorem meter_countInvalid : (countInvalid ep).meter =
    { ep.meter with invalid_responses := ep.meter.invalid_responses + 1 } :=
  meter_record_failure _ _

@[simp] theorem meter_applyCandidate (candidate : Files) :
    (applyCandidate cfg candidate ep).meter = ep.meter := by
  rcases applyCandidate_eq cfg ep candidate with ⟨labels, events, same⟩
  rw [same]
  rfl

@[simp] theorem meter_measureCandidate (context : RequestContext) (before : List CaseRow)
    (result : EvalResult) : (measureCandidate cfg context before result ep).meter = ep.meter := by
  rcases measureCandidate_eq cfg ep context before result with
    ⟨regressions, labels, terminal, reason, same⟩
  rw [same]
  rfl

end Pieces

/-! ## What a legal action allows -/

section Legal

variable {cfg : Config} {ep : Episode} {action : Action}

theorem allowed_of_legal {state : Observation} (legal : action ∈ ep.legal_actions cfg state)
    (acts : action ≠ .stop) (repairs : action ≠ .verify) :
    action ∈ Router.allowed_actions state ∨
      action ∈ Router.allowed_actions (VerificationEpisode.routing_signal state) := by
  have verification (legal : action ∈ VerificationEpisode.legal_actions cfg ep state) :
      action ∈ Router.allowed_actions (VerificationEpisode.routing_signal state) := by
    unfold VerificationEpisode.legal_actions at legal
    dsimp only at legal
    split_ifs at legal
    · exact absurd (List.mem_singleton.mp legal) acts
    · exact (List.mem_cons.mp legal).resolve_left repairs
    · exact legal
  unfold legal_actions at legal
  split at legal
  · exact .inl legal
  · exact .inr (verification legal)
  · exact .inr (verification legal)
  · unfold AblationEpisode.legal_actions at legal
    dsimp only at legal
    split_ifs at legal
    · exact .inr (verification legal)
    · exact .inr (verification (List.mem_of_mem_filter legal))

/-- The routing signal differs in the visible counts only. -/
theorem routing_signal_room {state : Observation}
    (room : Router.Room (VerificationEpisode.routing_signal state)) : Router.Room state := by
  unfold VerificationEpisode.routing_signal at room
  split at room
  · split_ifs at room
    · exact ⟨room.decisions, room.attempts, room.budget⟩
    · exact room
  · exact room

theorem routing_signal_asks {state : Observation}
    (asks : Router.Asks (VerificationEpisode.routing_signal state) action) :
    Router.Asks state action := by
  unfold VerificationEpisode.routing_signal at asks
  split at asks
  · split_ifs at asks
    · cases action <;> exact asks
    · exact asks
  · exact asks

/-- A legal repair action finds room under the caps, in every harness. -/
theorem room_of_legal (legal : action ∈ ep.legal_actions cfg (ep.observation cfg))
    (acts : action ≠ .stop) (repairs : action ≠ .verify) :
    Router.Room (RepoEpisode.observation cfg ep) ∧
      Router.Asks (RepoEpisode.observation cfg ep) action := by
  have both : Router.Room (ep.observation cfg) ∧ Router.Asks (ep.observation cfg) action := by
    rcases allowed_of_legal legal acts repairs with allowed | allowed
    · exact ⟨Router.room_of_allowed allowed acts, Router.asks_of_allowed allowed acts⟩
    · exact ⟨routing_signal_room (Router.room_of_allowed allowed acts),
        routing_signal_asks (Router.asks_of_allowed allowed acts)⟩
  unfold observation at both
  split at both
  · exact both
  · exact ⟨⟨both.1.decisions, both.1.attempts, both.1.budget⟩, by cases action <;> exact both.2⟩
  · exact ⟨⟨both.1.decisions, both.1.attempts, both.1.budget⟩, by cases action <;> exact both.2⟩
  · exact ⟨⟨both.1.decisions, both.1.attempts, both.1.budget⟩, by cases action <;> exact both.2⟩

end Legal

/-! ## The request -/

/-- The estimates that the preflight has admitted. -/
structure Funded (cfg : Config) (meter : Meter) (expected : ℚ) (bound : ℤ) : Prop where
  cost_usd : cfg.arithmetic.Exact →
    meter.cost_usd + expected ≤ cfg.bounds.max_cost_usd + 1 / 1000000000
  tokens : meter.tokens + meter.unknown_token_bound + bound ≤ maxEpisodeTokens

end Episode

/-- The charge and the known tokens of an answer stay within two estimates. -/
def GenerateOutcome.Within (expected : ℚ) (bound : ℤ) (outcome : GenerateOutcome) : Prop :=
  match outcome with
  | .result generated =>
    generated.cost_usd ≤ expected ∧
      Episode.totalTokens (some generated.total_tokens) generated.prompt_tokens
        generated.completion_tokens ≤ bound
  | .failure failed =>
    failed.cost_usd ≤ expected ∧
      ∀ incoming outgoing, failed.prompt_tokens = some incoming →
        failed.completion_tokens = some outgoing →
        Episode.totalTokens failed.total_tokens incoming outgoing ≤ bound
  | .escaped _ => True

/-- A provider that never charges more than it estimates for the same
arguments. -/
def HostedProvider.Honest (provider : HostedProvider) : Prop :=
  ∃ cost tokens, provider.estimate_reservation_usd = some cost ∧
    provider.estimate_token_bound = some tokens ∧
    ∀ earlier query seed expected bound, cost earlier query = .ok expected →
      tokens earlier query = .ok bound →
        (provider.generate earlier ⟨query, seed⟩).Within expected bound

namespace Episode

/-- A role switch goes to the strong model, and never back. -/
structure Switches (context : RequestContext) (current : Role) : Prop where
  keeps : current = .strong → context.role = .strong
  fresh : context.pending_escalation = true → current ≠ .strong ∧ context.role = .strong

theorem requestContext_switches (context : StepContext) (bound : ℤ) (ep : Episode) :
    Switches (requestContext context bound ep) ep.current_model where
  keeps strong := by
    show requestedRole context.action ep = .strong
    unfold requestedRole
    split_ifs
    · rfl
    · exact strong
  fresh pending := by
    rcases of_decide_eq_true pending with ⟨escalates, _, weak⟩
    refine ⟨weak, ?_⟩
    show requestedRole context.action ep = .strong
    rw [requestedRole, if_pos escalates]

/-- The preflight has admitted estimates that cover an answer. -/
def Covered (cfg : Config) (meter : Meter) (bound : ℤ) (outcome : GenerateOutcome) : Prop :=
  ∃ expected, Funded cfg meter expected bound ∧ outcome.Within expected bound

section Request

variable {paid : Prop} {cfg : Config} {ep : Episode} {bound : ℤ} {low : ℕ}

theorem commitRole_metered {context : RequestContext} (metered : Metered paid cfg ep.meter)
    (switches : Switches context ep.current_model) :
    Metered paid cfg (commitRole context ep).meter := by
  refine { metered with escalations := ?_ }
  have before := metered.escalations
  show ep.escalations + (if context.pending_escalation = true then 1 else 0) ≤
    if context.role = .strong then 1 else 0
  change ep.escalations ≤ if ep.current_model = .strong then 1 else 0 at before
  by_cases pending : context.pending_escalation = true
  · rcases switches.fresh pending with ⟨weak, strong⟩
    rw [if_pos pending, if_pos strong]
    rw [if_neg weak] at before
    omega
  · rw [if_neg pending]
    by_cases strong : ep.current_model = .strong
    · rw [if_pos (switches.keeps strong)]
      rw [if_pos strong] at before
      omega
    · rw [if_neg strong] at before
      omega

theorem chargeResult_metered {generated : RepoResult} (metered : Metered paid cfg ep.meter)
    (covered : paid → Covered cfg ep.meter bound (.result generated)) :
    Metered paid cfg (chargeResult cfg generated ep).meter := by
  refine { metered with cost_usd := fun pays exact_ => ?_, tokens := fun pays => ?_ }
  · rcases covered pays with ⟨expected, funded, within⟩
    calc cfg.arithmetic.add ep.cost_usd generated.cost_usd
        = ep.cost_usd + generated.cost_usd := Arithmetic.add_of_exact exact_ _ _
      _ ≤ ep.cost_usd + expected := by linarith [within.1]
      _ ≤ _ := funded.cost_usd exact_
  · rcases covered pays with ⟨expected, funded, within⟩
    calc (ep.tokens + totalTokens (some generated.total_tokens) generated.prompt_tokens
          generated.completion_tokens) + ep.unknown_token_bound
        ≤ ep.tokens + ep.unknown_token_bound + bound := by linarith [within.2]
      _ ≤ _ := funded.tokens

theorem chargeFailure_metered {failed : ProviderFailure} (metered : Metered paid cfg ep.meter)
    (covered : paid → Covered cfg ep.meter bound (.failure failed)) :
    Metered paid cfg (chargeFailure cfg failed ep).meter := by
  refine { metered with cost_usd := fun pays exact_ => ?_ }
  rcases covered pays with ⟨expected, funded, within⟩
  calc cfg.arithmetic.add ep.cost_usd failed.cost_usd
      = ep.cost_usd + failed.cost_usd := Arithmetic.add_of_exact exact_ _ _
    _ ≤ ep.cost_usd + expected := by linarith [within.1]
    _ ≤ _ := funded.cost_usd exact_

theorem recordTokens_metered {failed : ProviderFailure} (metered : Metered paid cfg ep.meter)
    (admitted : paid → ep.tokens + ep.unknown_token_bound + bound ≤ maxEpisodeTokens)
    (within : paid → ∀ incoming outgoing, failed.prompt_tokens = some incoming →
      failed.completion_tokens = some outgoing →
      totalTokens failed.total_tokens incoming outgoing ≤ bound) :
    Metered paid cfg (recordTokens bound failed ep).meter := by
  unfold recordTokens
  split
  next incoming outgoing prompt completion =>
    refine { metered with tokens := fun pays => ?_ }
    have few := within pays incoming outgoing prompt completion
    show ep.tokens + totalTokens failed.total_tokens incoming outgoing + ep.unknown_token_bound ≤ _
    linarith [admitted pays]
  · split_ifs
    · exact metered
    · refine { metered with tokens := fun pays => ?_ }
      show ep.tokens + (ep.unknown_token_bound + bound) ≤ _
      linarith [admitted pays]

/-- A meter that is not at its third invalid response, after some number of
decisions.  Before the first attempt nothing is retried or escalated. -/
def Early (low : ℕ) (meter : Meter) : Prop :=
  meter.invalid_responses ≤ 2 ∧ low ≤ meter.decisions ∧
    (meter.attempts = 0 → meter.retries = 0 ∧ meter.current_model = .cheap)

/-- Before the third invalid response, and after an attempt has begun. -/
theorem Early.of_begun {meter : Meter} {low : ℕ} (few : meter.invalid_responses ≤ 2)
    (enough : low ≤ meter.decisions) (begun : 0 < meter.attempts) : Early low meter :=
  ⟨few, enough, fun none_ => absurd none_ begun.ne'⟩

/-- The terminal flag is set, or there is room for another decision. -/
def Open (cfg : Config) (low : ℕ) (ep : Episode) : Prop :=
  ep.terminal = true ∨ (Early low ep.meter ∧ ep.decisions < cfg.bounds.max_decisions)

/-- What a method leaves behind: a metered episode, and an open one when it
returns. -/
def Stays {α : Type} (paid : Prop) (cfg : Config) (low : ℕ) (outcome : Outcome α) : Prop :=
  match outcome with
  | .ok _ ep => Metered paid cfg ep.meter ∧ Open cfg low ep
  | .raised _ ep => Metered paid cfg ep.meter

theorem open_close (context : StepContext)
    (few : ep.terminal = true ∨ Early low ep.meter) : Open cfg low (close cfg context ep) := by
  unfold close endBudget
  split_ifs with spent
  · exact .inl rfl
  · rcases few with ended | few
    · exact .inl ended
    · by_cases ended : ep.terminal = true
      · exact .inl ended
      · have unspent : ¬ Spent cfg ep := fun exceeded => spent ⟨ended, exceeded⟩
        exact .inr ⟨few, not_le.mp fun exceeded => unspent (.inr exceeded)⟩

theorem capInvalid_early (enough : low ≤ ep.meter.decisions) (begun : 0 < ep.meter.attempts) :
    ep.capInvalid.terminal = true ∨ Early low ep.capInvalid.meter := by
  rw [meter_capInvalid]
  unfold capInvalid
  split_ifs with many
  · exact .inl rfl
  · exact .inr (.of_begun (by show ep.invalid_responses ≤ 2; omega) enough begun)

theorem countInvalid_metered (metered : Metered paid cfg ep.meter)
    (few : ep.invalid_responses ≤ 2) : Metered paid cfg (countInvalid ep).meter := by
  rw [meter_countInvalid]
  exact { metered with invalid_responses := by show ep.invalid_responses + 1 ≤ 3; omega }

theorem acceptCandidate_stays (context : RequestContext) (candidate : Files)
    (metered : Metered paid cfg ep.meter) (early : Early low ep.meter) :
    Stays paid cfg low ((acceptCandidate cfg context candidate ep).andThen fun _ accepted =>
      .ok () (close cfg context.toStepContext accepted)) := by
  have asked : (askCheck cfg false (applyCandidate cfg candidate ep)).meter = ep.meter := by
    rw [meter_askCheck, meter_applyCandidate]
  unfold acceptCandidate
  cases answer : checkAnswer cfg false (applyCandidate cfg candidate ep) with
  | result result =>
    rw [check_of_result answer]
    have measured : (measureCandidate cfg context ep.publicResult.cases result
        ((askCheck cfg false (applyCandidate cfg candidate ep)).emit
          (checkEvent false result))).meter = ep.meter := by
      rw [meter_measureCandidate, meter_emit, asked]
    refine ⟨?_, open_close context.toStepContext (.inr ?_)⟩
    · rw [meter_close, measured]
      exact metered
    · rw [measured]
      exact early
  | raised escape =>
    rw [check_of_raised answer]
    show Metered paid cfg (askCheck cfg false (applyCandidate cfg candidate ep)).meter
    rw [asked]
    exact metered

theorem handleResult_stays (context : RequestContext) (generated : RepoResult)
    (metered : Metered paid cfg ep.meter) (early : Early low ep.meter)
    (begun : 0 < ep.meter.attempts) (switches : Switches context ep.current_model)
    (covered : paid → Covered cfg ep.meter bound (.result generated)) :
    Stays paid cfg low (handleResult cfg context generated ep) := by
  have recorded : (recordResult cfg context generated ep).meter =
      (chargeResult cfg generated (commitRole context ep)).meter := by
    rw [recordResult, meter_emit, meter_recordModel]
  have charged : Metered paid cfg (recordResult cfg context generated ep).meter := by
    rw [recorded]
    apply chargeResult_metered (commitRole_metered metered switches)
    intro pays
    rcases covered pays with ⟨expected, funded, within⟩
    exact ⟨expected, ⟨funded.cost_usd, funded.tokens⟩, within⟩
  have still : Early low (recordResult cfg context generated ep).meter := by
    rw [recorded]
    exact .of_begun early.1 early.2.1 begun
  unfold handleResult
  dsimp only
  split
  next error _ =>
    -- a rejected candidate
    refine ⟨?_, open_close context.toStepContext (capInvalid_early ?_ ?_)⟩
    · rw [meter_close, rejectCandidate, meter_capInvalid, meter_emit]
      exact countInvalid_metered charged still.1
    · rw [meter_emit, meter_countInvalid]
      exact still.2.1
    · rw [meter_emit, meter_countInvalid, recorded]
      exact begun
  · exact charged
  · exact acceptCandidate_stays context _ charged still

theorem recordFailedRequest_metered (context : RequestContext) (failed : ProviderFailure)
    (metered : Metered paid cfg ep.meter) (switches : Switches context ep.current_model)
    (covered : paid → Covered cfg ep.meter context.bound (.failure failed)) :
    Metered paid cfg (recordFailedRequest cfg context failed ep).meter := by
  have charged := chargeFailure_metered metered covered
  have committed : Metered paid cfg
        (commitObserved context failed (chargeFailure cfg failed ep)).meter ∧
      (commitObserved context failed (chargeFailure cfg failed ep)).tokens = ep.tokens ∧
      (commitObserved context failed (chargeFailure cfg failed ep)).unknown_token_bound =
        ep.unknown_token_bound := by
    unfold commitObserved
    split_ifs
    · exact ⟨commitRole_metered charged switches, rfl, rfl⟩
    · exact ⟨charged, rfl, rfl⟩
  have modelled := meter_recordFailedModel
    (commitObserved context failed (chargeFailure cfg failed ep)) failed.model
  have tokens : (recordFailedModel failed.model
      (commitObserved context failed (chargeFailure cfg failed ep))).tokens = ep.tokens :=
    (congrArg Meter.tokens modelled).trans committed.2.1
  have unknown : (recordFailedModel failed.model
      (commitObserved context failed (chargeFailure cfg failed ep))).unknown_token_bound =
        ep.unknown_token_bound :=
    (congrArg Meter.unknown_token_bound modelled).trans committed.2.2
  show Metered paid cfg (recordTokens context.bound failed _).meter
  apply recordTokens_metered (modelled ▸ committed.1)
  · intro pays
    rcases covered pays with ⟨expected, funded, within⟩
    rw [tokens, unknown]
    exact funded.tokens
  · intro pays
    rcases covered pays with ⟨expected, funded, within⟩
    exact within.2

/-- The counts that the handler of a failed request reads after its bookkeeping. -/
def counts (ep : Episode) : ℕ × ℕ × ℕ × ℕ :=
  (ep.attempts, ep.meter.accepted, ep.invalid_responses, ep.decisions)

theorem recordFailedRequest_counts (context : RequestContext) (failed : ProviderFailure) :
    (recordFailedRequest cfg context failed ep).counts = ep.counts := by
  have tokens (ep : Episode) : (recordTokens context.bound failed ep).counts = ep.counts := by
    unfold recordTokens
    split
    · rfl
    · split_ifs <;> rfl
  have modelled (ep : Episode) : (recordFailedModel failed.model ep).counts = ep.counts :=
    congrArg (fun meter => (meter.attempts, meter.accepted, meter.invalid_responses,
      meter.decisions)) (meter_recordFailedModel ep failed.model)
  have committed (ep : Episode) : (commitObserved context failed ep).counts = ep.counts := by
    unfold commitObserved
    split_ifs <;> rfl
  calc (recordFailedRequest cfg context failed ep).counts
      = (recordTokens context.bound failed _).counts := rfl
    _ = (commitObserved context failed (chargeFailure cfg failed ep)).counts := by
        rw [tokens, modelled]
    _ = ep.counts := committed _

theorem armRetry_stays (failed : ProviderFailure) (metered : Metered paid cfg ep.meter)
    (early : Early low ep.meter) (ended : ep.terminal = true) :
    Metered paid cfg (armRetry cfg failed ep).meter ∧
      Open cfg low (armRetry cfg failed ep) := by
  unfold armRetry
  split_ifs with room
  · exact ⟨{ metered with pending := fun _ => room.1 }, .inr ⟨early, room.2.2.1⟩⟩
  · exact ⟨metered, .inl ended⟩

theorem capSteps_room : (capSteps cfg ep).terminal = true ∨
    (capSteps cfg ep).decisions < cfg.bounds.max_decisions := by
  unfold capSteps
  split_ifs with spent
  · exact .inl rfl
  · exact .inr (not_le.mp fun exceeded => spent (.inr exceeded))

theorem open_capInvalid (enough : low ≤ ep.meter.decisions) (begun : 0 < ep.meter.attempts)
    (room : ep.terminal = true ∨ ep.decisions < cfg.bounds.max_decisions) :
    Open cfg low ep.capInvalid := by
  unfold capInvalid
  split_ifs with many
  · exact .inl rfl
  · rcases room with ended | room
    · exact .inl ended
    · exact .inr ⟨.of_begun (by show ep.invalid_responses ≤ 2; omega) enough begun, room⟩

theorem handleFailure_stays (context : RequestContext) (failed : ProviderFailure)
    (metered : Metered paid cfg ep.meter) (early : Early low ep.meter)
    (begun : 0 < ep.meter.attempts) (switches : Switches context ep.current_model)
    (covered : paid → Covered cfg ep.meter context.bound (.failure failed))
    (refused : failed.kind = .budgetExceeded → ep.meter.accepted + 1 ≤ ep.attempts) :
    Stays paid cfg low (handleFailure cfg context failed ep) := by
  have recorded := recordFailedRequest_metered context failed metered switches covered
  have counted : (recordFailedRequest cfg context failed ep).counts = ep.counts :=
    recordFailedRequest_counts context failed
  have ended : (recordFailedRequest cfg context failed ep).terminal = true := rfl
  unfold handleFailure
  generalize recordFailedRequest cfg context failed ep = left at recorded counted ended
  have attempts : left.attempts = ep.attempts := congrArg Prod.fst counted
  have accepted : left.meter.accepted = ep.meter.accepted :=
    congrArg (fun counts => counts.2.1) counted
  have started : 0 < left.meter.attempts := begun.trans_eq attempts.symm
  have still : Early low left.meter :=
    .of_begun ((congrArg (fun counts => counts.2.2.1) counted).le.trans early.1)
      (early.2.1.trans (congrArg (fun counts => counts.2.2.2) counted).ge) started
  dsimp only
  split
  · exact recorded
  next refusal =>
    refine ⟨{ recorded with attempts := ?_, accepted := ?_ }, .inl ended⟩
    · exact (Nat.sub_le _ _).trans recorded.attempts
    · show left.meter.accepted ≤ left.attempts - 1
      have counted := refused refusal
      omega
  · split_ifs
    · exact armRetry_stays failed recorded still ended
    · have invalid : (capSteps cfg (countInvalid (resume left))).meter =
          { left.meter with invalid_responses := left.meter.invalid_responses + 1 } := by
        rw [meter_capSteps, meter_countInvalid]
        rfl
      refine ⟨?_, open_capInvalid ?_ ?_ capSteps_room⟩
      · show Metered paid cfg (capInvalid (capSteps cfg (countInvalid (resume left)))).meter
        rw [meter_capInvalid, meter_capSteps]
        exact countInvalid_metered recorded still.1
      · rw [invalid]
        exact still.2.1
      · rw [invalid]
        exact started
    · exact ⟨recorded, .inl ended⟩

theorem meter_beginRequest (action : Action) (role : Role) (seed : ℤ) :
    (beginRequest action role seed ep).meter =
      { ep.meter with
        attempts := ep.attempts + 1
        retries := ep.retries + if action = .retry ∧ ep.attempts + 1 > 1 then 1 else 0 } := by
  unfold beginRequest countRetry
  split_ifs <;> rfl

theorem beginRequest_metered {action : Action} (role : Role) (seed : ℤ)
    (metered : Metered paid cfg ep.meter) (room : ep.attempts < cfg.bounds.max_steps)
    (retries : action = .retry → ep.retries < 2) :
    Metered paid cfg (beginRequest action role seed ep).meter := by
  rw [meter_beginRequest]
  refine { metered with attempts := room, retries := ?_, accepted := ?_ }
  · have before : ep.retries ≤ 2 := metered.retries
    show ep.retries + _ ≤ 2
    split_ifs with again
    · exact retries again.1
    · exact before
  · exact metered.accepted.trans (Nat.le_succ _)

theorem beginRequest_requests (action : Action) (role : Role) (seed : ℤ) :
    (beginRequest action role seed ep).requests = ep.requests := by
  unfold beginRequest countRetry
  split_ifs <;> rfl

theorem sendRequest_stays (context : RequestContext) (query : Query)
    (metered : Metered paid cfg ep.meter) (counted : ep.meter.accepted + 1 ≤ ep.attempts)
    (early : Early low ep.meter) (switches : Switches context ep.current_model)
    (covered : paid → Covered cfg ep.meter context.bound (answerRequest cfg query ep)) :
    Stays paid cfg low (sendRequest cfg context query ep) := by
  have noted := meter_note ep (.request (outgoing cfg query ep) (answerRequest cfg query ep))
  have still : Metered paid cfg (noteRequest cfg query ep).meter := by
    rw [noteRequest, noted]
    refine { metered with accepted := ?_ }
    show ep.meter.accepted + _ ≤ ep.attempts
    split_ifs <;> omega
  have after : Early low (noteRequest cfg query ep).meter := by
    rw [noteRequest, noted]
    exact early
  have begun : 0 < (noteRequest cfg query ep).meter.attempts := by
    show 0 < ep.attempts
    omega
  have paidFor (pays : paid) : Covered cfg (noteRequest cfg query ep).meter context.bound
      (answerRequest cfg query ep) := by
    rcases covered pays with ⟨expected, funded, within⟩
    exact ⟨expected, ⟨funded.cost_usd, funded.tokens⟩, within⟩
  unfold sendRequest
  split
  next generated answer =>
    rw [answer] at paidFor
    exact handleResult_stays context generated still after begun switches paidFor
  next failed answer =>
    rw [answer] at paidFor
    apply handleFailure_stays context failed still after begun switches paidFor
    intro refused
    have unaccepted : (noteRequest cfg query ep).meter.accepted = ep.meter.accepted := by
      rw [noteRequest, noted, answer]
      simp [Occurrence.accepted, GenerateOutcome.refused, refused]
    rw [unaccepted]
    exact counted
  · exact still

/-- An attempt that the preflight has funded. -/
theorem attempt_stays (context : RequestContext) (query : Query) (action : Action)
    (metered : Metered paid cfg ep.meter) (early : Early low ep.meter)
    (room : ep.attempts < cfg.bounds.max_steps) (retries : action = .retry → ep.retries < 2)
    (switches : Switches context ep.current_model)
    (covered : paid → ∀ seed, Covered cfg ep.meter context.bound
      (cfg.provider.generate ep.requests ⟨query, seed⟩)) :
    Stays paid cfg low
      (sendRequest cfg context query (beginRequest action query.role cfg.seed ep)) := by
  have begun : (beginRequest action query.role cfg.seed ep).meter = _ :=
    meter_beginRequest action query.role cfg.seed
  have attempts : (beginRequest action query.role cfg.seed ep).attempts = ep.attempts + 1 :=
    congrArg Meter.attempts begun
  have accepted : (beginRequest action query.role cfg.seed ep).meter.accepted =
      ep.meter.accepted := by rw [begun]
  have model : (beginRequest action query.role cfg.seed ep).current_model = ep.current_model :=
    congrArg Meter.current_model begun
  have still := beginRequest_metered query.role cfg.seed metered room retries
  apply sendRequest_stays context query still
  · have earlier : ep.meter.accepted ≤ ep.attempts := metered.accepted
    omega
  · rw [begun]
    exact .of_begun early.1 early.2.1 (Nat.succ_pos _)
  · exact model ▸ switches
  · intro pays
    unfold answerRequest outgoing
    rw [beginRequest_requests, begun]
    rcases covered pays _ with ⟨expected, funded, within⟩
    exact ⟨expected, ⟨funded.cost_usd, funded.tokens⟩, within⟩

theorem requestStep_stays (context : StepContext) (honest : paid → cfg.provider.Honest)
    (metered : Metered paid cfg ep.meter) (early : Early low ep.meter)
    (room : ep.attempts < cfg.bounds.max_steps)
    (retries : context.action = .retry → ep.retries < 2) :
    Stays paid cfg low (requestStep cfg context ep) := by
  unfold requestStep
  split
  · exact metered
  next fields _ =>
    dsimp only
    generalize Query.mk _ _ _ _ = query
    have cases_ := preflight_cases cfg query ep
    generalize preflight cfg query ep = preflighted at cases_
    cases cases_ with
    | exhausted reason event => exact ⟨metered, .inl rfl⟩
    | failed message => exact ⟨metered, .inl rfl⟩
    | raised escape => exact metered
    | passed bound ready same affordable bounded =>
      have covered (pays : paid) (seed : ℤ) : Covered cfg ep.meter bound
          (cfg.provider.generate ep.requests ⟨query, seed⟩) := by
        rcases honest pays with ⟨cost, tokens, costGiven, tokensGiven, within⟩
        rcases affordable cost costGiven with ⟨expected, estimated, affordable⟩
        rcases bounded tokens tokensGiven with ⟨bounded, admitted⟩
        refine ⟨expected, ⟨?_, admitted⟩, within _ query seed _ _ estimated bounded⟩
        intro exact_
        rw [allowance_of_exact exact_] at affordable
        show ep.cost_usd + expected ≤ _
        linarith
      have switches := requestContext_switches context bound ep
      rcases same with rfl | ⟨event, rfl⟩
      · exact attempt_stays _ query context.action metered early room retries switches covered
      · exact attempt_stays _ query context.action metered early room retries
          switches covered

end Request

/-! ## Whole steps -/

section Steps

variable {paid : Prop} {cfg : Config} {ep : Episode} {low : ℕ}

theorem act_stays (context : StepContext) (honest : paid → cfg.provider.Honest)
    (metered : Metered paid cfg ep.meter) (early : Early low ep.meter)
    (legal : context.action ≠ .stop →
      ep.attempts < cfg.bounds.max_steps ∧ (context.action = .retry → ep.retries < 2) ∧
        (context.action = .rollback → ep.rollbacks < 1)) :
    Stays paid cfg low (act cfg context ep) := by
  unfold act
  split
  next stops =>
    refine ⟨?_, open_close context (.inl rfl)⟩
    rw [meter_close]
    exact metered
  next rolls =>
    have fresh := (legal (by rw [rolls]; decide)).2.2 rolls
    refine ⟨?_, open_close context (.inr early)⟩
    rw [meter_close]
    exact { metered with rollbacks := fresh }
  next keeps _ =>
    rcases legal keeps with ⟨room, retries, _⟩
    exact requestStep_stays context honest metered early room retries

/-- A step that returns has decided once, or found the episode at its end. -/
theorem startedStep_stays (action : Action) (source : String) (honest : paid → cfg.provider.Honest)
    (repairs : action ≠ .verify ∨ cfg.harness = .repo)
    (metered : Metered paid cfg ep.meter) (open_ : Open cfg low ep) :
    Stays paid cfg (low + 1) (startedStep cfg action source ep) := by
  unfold startedStep
  split_ifs with ended legal
  · exact ⟨metered, .inl ended⟩
  · rcases open_.resolve_left ended with ⟨early, room⟩
    have decided : Metered paid cfg (recordDecision cfg action source ep).meter := by
      rw [meter_recordDecision]
      exact { metered with decisions := room }
    have later : Early (low + 1) (recordDecision cfg action source ep).meter := by
      rw [meter_recordDecision]
      exact ⟨early.1, Nat.succ_le_succ early.2.1, early.2.2⟩
    have unverified : action ≠ .verify := by
      rintro rfl
      have plain := repairs.resolve_left (fun differs => differs rfl)
      rw [legal_actions, plain] at legal
      exact Router.verify_not_allowed _ legal
    apply act_stays _ honest decided later
    intro acts
    rcases room_of_legal legal acts unverified with ⟨room, asks⟩
    exact ⟨room.attempts, by rintro rfl; exact asks, by rintro rfl; exact asks.2⟩
  · exact metered

/-- The first check, when it returns. -/
theorem baseline_stays (result : EvalResult) (metered : Metered paid cfg ep.meter)
    (open_ : Open cfg low ep) :
    Metered paid cfg (stopIfGreen cfg (assignBaseline result ep)).meter ∧
      Open cfg low (stopIfGreen cfg (assignBaseline result ep)) := by
  unfold stopIfGreen
  split_ifs
  · exact ⟨metered, .inl rfl⟩
  · exact ⟨metered, open_⟩

theorem start_stays (metered : Metered paid cfg ep.meter) (open_ : Open cfg low ep) :
    Stays paid cfg low (ep.start cfg) := by
  unfold start
  split_ifs
  · exact ⟨metered, open_⟩
  · have asked : Metered paid cfg (askCheck cfg false (beginStart cfg ep)).meter := by
      rw [meter_askCheck]
      exact metered
    cases answer : checkAnswer cfg false (beginStart cfg ep) with
    | result result =>
      rw [check_of_result answer]
      have still : Open cfg low ((askCheck cfg false (beginStart cfg ep)).emit
          (checkEvent false result)) := by
        simpa only [Open, Early, meter, askCheck, beginStart, emit, note] using open_
      exact baseline_stays result asked still
    | raised escape =>
      rw [check_of_raised answer]
      exact asked

theorem Stays.andThen {α β : Type} {outcome : Outcome α} {next : α → Episode → Outcome β}
    (first : Stays paid cfg low outcome)
    {later : ℕ} (rest : ∀ value ep, Metered paid cfg ep.meter → Open cfg low ep →
      Stays paid cfg later (next value ep)) :
    Stays paid cfg later (outcome.andThen next) := by
  cases outcome with
  | ok value ep => exact rest value ep first.1 first.2
  | raised escape ep => exact first

theorem Stays.weaken {α : Type} {outcome : Outcome α} (stays : Stays paid cfg (low + 1) outcome) :
    Stays paid cfg low outcome := by
  cases outcome with
  | ok value ep =>
    refine ⟨stays.1, stays.2.imp_right ?_⟩
    exact fun later => ⟨⟨later.1.1, (Nat.le_succ low).trans later.1.2.1, later.1.2.2⟩, later.2⟩
  | raised escape ep => exact stays

theorem repoStep_stays (action : Action) (source : String) (honest : paid → cfg.provider.Honest)
    (repairs : action ≠ .verify ∨ cfg.harness = .repo)
    (metered : Metered paid cfg ep.meter) (open_ : Open cfg low ep) :
    Stays paid cfg (low + 1) (RepoEpisode.step cfg action source ep) :=
  (start_stays metered open_).andThen fun _ _ metered open_ =>
    startedStep_stays action source honest repairs metered open_

theorem acceptVerification_stays (state : Observation) (files_sha256 : Text)
    (result : EvalResult) (metered : Metered paid cfg ep.meter)
    (early : Early low ep.meter) :
    Metered paid cfg
        (VerificationEpisode.acceptVerification cfg state files_sha256 result ep).meter ∧
      Open cfg low (VerificationEpisode.acceptVerification cfg state files_sha256 result ep) := by
  have labelled (ep : Episode) :
      (VerificationEpisode.labelVerification result ep).meter = ep.meter := by
    unfold VerificationEpisode.labelVerification
    split_ifs
    · exact meter_record_failure ep _
    · rfl
  have stored : (VerificationEpisode.labelVerification result
      (VerificationEpisode.storeVerification files_sha256 result ep)).meter = ep.meter :=
    labelled _
  have still := stored ▸ metered
  unfold VerificationEpisode.acceptVerification VerificationEpisode.capDecisions
  generalize VerificationEpisode.labelVerification result _ = left at stored still
  split_ifs with exceeded
  · exact ⟨still, .inl rfl⟩
  · exact ⟨still, .inr ⟨stored.symm ▸ early, not_le.mp exceeded⟩⟩

theorem verify_stays (source : String) (metered : Metered paid cfg ep.meter)
    (early : Early low ep.meter) (room : ep.decisions < cfg.bounds.max_decisions) :
    Stays paid cfg (low + 1) (VerificationEpisode.verify cfg source ep) := by
  have asked : (VerificationEpisode.askVerification cfg source ep).meter =
      { ep.meter with decisions := ep.meter.decisions + 1 } := by
    rw [VerificationEpisode.askVerification, meter_note]
    exact meter_note (VerificationEpisode.countVerification (cfg.fingerprint ep.files) ep)
      (.decision .verify source (ep.observation cfg))
  have decided :
      Metered paid cfg (VerificationEpisode.askVerification cfg source ep).meter := by
    rw [asked]
    exact { metered with decisions := room }
  have later : Early (low + 1) (VerificationEpisode.askVerification cfg source ep).meter := by
    rw [asked]
    exact ⟨early.1, Nat.succ_le_succ early.2.1, early.2.2⟩
  unfold VerificationEpisode.verify
  split
  next escape _ =>
    rcases VerificationEpisode.reportUnavailable_eq escape (cfg.fingerprint ep.files)
      (VerificationEpisode.askVerification cfg source ep) with ⟨events, same⟩
    rw [same]
    exact decided
  · split_ifs
    · exact decided
    · exact acceptVerification_stays _ _ _ decided later

theorem verificationStep_stays (action : Action) (source : String)
    (honest : paid → cfg.provider.Honest) (metered : Metered paid cfg ep.meter)
    (open_ : Open cfg low ep) :
    Stays paid cfg (low + 1) (VerificationEpisode.step cfg action source ep) := by
  unfold VerificationEpisode.step
  split_ifs with repairs
  · exact repoStep_stays action source honest (.inl repairs) metered open_
  · apply (start_stays metered open_).andThen
    intro _ started metered open_
    split_ifs with ended legal
    · exact ⟨metered, .inl ended⟩
    · rcases open_.resolve_left ended with ⟨early, room⟩
      exact verify_stays source metered early room
    · exact metered

theorem pilotStep_stays (action : Action) (source : String) (honest : paid → cfg.provider.Honest)
    (metered : Metered paid cfg ep.meter) (open_ : Open cfg low ep) :
    Stays paid cfg (low + 1) (PilotEpisode.step cfg action source ep) :=
  verificationStep_stays action source honest metered open_

/-- A step of any harness keeps the meter within the caps. -/
theorem step_stays (action : Action) (source : String) (honest : paid → cfg.provider.Honest)
    (metered : Metered paid cfg ep.meter) (open_ : Open cfg low ep) :
    Stays paid cfg (low + 1) (step cfg action source ep) := by
  unfold step
  split
  next plain => exact repoStep_stays action source honest (.inr plain) metered open_
  · exact verificationStep_stays action source honest metered open_
  · exact pilotStep_stays action source honest metered open_
  · unfold AblationEpisode.step
    split_ifs
    · exact metered
    · exact pilotStep_stays action source honest metered open_

theorem undoProviderRetry_metered (previous : ℕ) (metered : Metered paid cfg ep.meter) :
    Metered paid cfg (undoProviderRetry previous ep).meter := by
  unfold undoProviderRetry
  split_ifs
  · exact { metered with
      provider_retries := (Nat.sub_le _ _).trans metered.provider_retries
      pending := fun pending => (Nat.sub_le _ _).trans_lt (metered.pending pending) }
  · exact metered

theorem undoProviderRetry_open (previous : ℕ) (open_ : Open cfg low ep) :
    Open cfg low (undoProviderRetry previous ep) := by
  unfold undoProviderRetry
  split_ifs <;> exact open_

/-- A pending retry has been armed below the limit. -/
theorem retryStep_stays (honest : paid → cfg.provider.Honest)
    (metered : Metered paid cfg ep.meter) (open_ : Open cfg low ep)
    (armed : ep.provider_retries < cfg.bounds.rate_limit_retries)
    (disarmed : ep.pending_provider_delay = none) :
    Stays paid cfg (low + 1) (retryStep cfg ep) := by
  have counted : Metered paid cfg (countProviderRetry ep).meter := by
    refine { metered with provider_retries := armed, pending := ?_ }
    intro pending
    rw [show (countProviderRetry ep).meter.pending = ep.pending_provider_delay.isSome from rfl,
      disarmed] at pending
    cases pending
  have stepped := step_stays .repair "provider_retry" honest counted open_
  unfold retryStep
  cases outcome : step cfg .repair "provider_retry" (countProviderRetry ep) with
  | ok value after =>
    rw [outcome] at stepped
    exact ⟨undoProviderRetry_metered _ stepped.1, undoProviderRetry_open _ stepped.2⟩
  | raised escape after =>
    rw [outcome] at stepped
    exact undoProviderRetry_metered ep.attempts stepped

@[simp] theorem meter_labelGrading (result : EvalResult) :
    (labelGrading result ep).meter = ep.meter := by
  unfold labelGrading
  split_ifs
  · exact meter_record_failure ep _
  · rfl

@[simp] theorem meter_conclude : (conclude cfg ep).meter = ep.meter := by
  unfold conclude describeEdits
  split_ifs <;> rfl

/-- Grading does not move the meter. -/
theorem meter_finish : (ep.finish cfg).episode.meter = ep.meter := by
  have asked : (askCheck cfg true (endDecisions ep)).meter = ep.meter := meter_askCheck _ _ _
  have ways := finish_outcome cfg ep
  generalize ep.finish cfg = outcome at ways ⊢
  cases ways with
  | again => rfl
  | idle => exact meter_conclude
  | graded result => exact meter_conclude.trans ((meter_labelGrading result).trans asked)
  | unavailable message => exact meter_conclude.trans asked
  | raised escape => exact asked

theorem backoff_stays (delay : ℚ) (honest : paid → cfg.provider.Honest)
    (metered : Metered paid cfg ep.meter) (open_ : Open cfg low ep)
    (pending : ep.pending_provider_delay = some delay) :
    Stays paid cfg (low + 1) (backoff cfg delay ep) := by
  have armed : ep.provider_retries < cfg.bounds.rate_limit_retries :=
    metered.pending (by
      show ep.pending_provider_delay.isSome = true
      rw [pending]
      rfl)
  have waiting : Metered paid cfg (beginWait delay ep).meter :=
    { metered with pending := fun impossible => by cases impossible }
  unfold backoff
  split_ifs
  · have finished : (finish cfg (cancelWait (beginWait delay ep))).episode.meter =
        (beginWait delay ep).meter := meter_finish
    cases outcome : finish cfg (cancelWait (beginWait delay ep)) with
    | ok value done =>
      rw [outcome] at finished
      show Metered paid cfg done.meter
      exact finished ▸ waiting
    | raised escape left =>
      rw [outcome] at finished
      show Metered paid cfg left.meter
      exact finished ▸ waiting
  · exact retryStep_stays honest waiting open_ armed rfl

end Steps

/-! ## Every reachable state -/

/-- The calls that drive an episode: its start, a step with any action, and the
automatic retry after a rate limit. -/
inductive Drives (cfg : Config) (ep : Episode) : Outcome Unit → Prop where
  | start : Drives cfg ep (ep.start cfg)
  | step (action : Action) (source : String) : Drives cfg ep (ep.step cfg action source)
  | retry (delay : ℚ) (pending : ep.pending_provider_delay = some delay) :
      Drives cfg ep (ep.backoff cfg delay)

/-- The states from which a run goes on. -/
inductive Running (cfg : Config) : Episode → Prop where
  | initial : Running cfg (initial cfg)
  | next {ep after : Episode} (running : Running cfg ep) (drives : Drives cfg ep (.ok () after)) :
      Running cfg after

/-- The states of a run, with those in which an exception leaves it, and those
after the handler of an unavailable sandbox and after `finish`. -/
inductive Reachable (cfg : Config) : Episode → Prop where
  | running {ep : Episode} (running : Running cfg ep) : Reachable cfg ep
  | left {ep left : Episode} {escape : Escape} (running : Running cfg ep)
      (drives : Drives cfg ep (.raised escape left)) : Reachable cfg left
  | failed {ep : Episode} (reachable : Reachable cfg ep) (message : String) :
      Reachable cfg (failExecution message ep)
  | finished {ep : Episode} (reachable : Reachable cfg ep) :
      Reachable cfg (ep.finish cfg).episode

/-- The caps of an episode, of which the one on its cost is kept in exact
arithmetic. -/
structure Capped (cfg : Config) (ep : Episode) : Prop where
  attempts : ep.attempts ≤ cfg.bounds.max_steps
  decisions : ep.decisions ≤ cfg.bounds.max_decisions
  retries : ep.retries ≤ 2
  rollbacks : ep.rollbacks ≤ 1
  escalations : ep.escalations ≤ 1
  invalid_responses : ep.invalid_responses ≤ 3
  provider_retries : ep.provider_retries ≤ cfg.bounds.rate_limit_retries
  cost_usd : cfg.arithmetic.Exact → ep.cost_usd ≤ cfg.bounds.max_cost_usd + 1 / 1000000000
  tokens : ep.tokens + ep.unknown_token_bound ≤ maxEpisodeTokens
  requests : ep.log.countP Occurrence.accepted ≤ cfg.bounds.max_steps

theorem capped_of_metered {cfg : Config} {ep : Episode}
    (metered : Metered True cfg ep.meter) : Capped cfg ep where
  attempts := metered.attempts
  decisions := metered.decisions
  retries := metered.retries
  rollbacks := metered.rollbacks
  escalations := by
    have strong := metered.escalations
    split_ifs at strong
    · exact strong
    · exact strong.trans (Nat.zero_le 1)
  invalid_responses := metered.invalid_responses
  provider_retries := metered.provider_retries
  cost_usd := metered.cost_usd trivial
  tokens := metered.tokens trivial
  requests := metered.accepted.trans metered.attempts

theorem initial_metered (paid : Prop) (cfg : Config) :
    Metered paid cfg (initial cfg).meter where
  attempts := Nat.zero_le _
  decisions := Nat.zero_le _
  retries := Nat.zero_le _
  rollbacks := Nat.zero_le _
  escalations := Nat.zero_le _
  invalid_responses := Nat.zero_le _
  provider_retries := Nat.zero_le _
  pending impossible := by cases impossible
  cost_usd _ _ := by
    have positive := cfg.bounds.cost.1
    show (0 : ℚ) ≤ _
    linarith
  tokens _ := by
    show (0 : ℤ) + 0 ≤ maxEpisodeTokens
    decide
  accepted := Nat.zero_le _

theorem initial_open (cfg : Config) : Open cfg 0 (initial cfg) :=
  .inr ⟨⟨Nat.zero_le _, Nat.zero_le _, fun _ => ⟨rfl, rfl⟩⟩, cfg.bounds.decisions.1⟩

theorem Drives.stays {paid : Prop} {cfg : Config} {ep : Episode} {outcome : Outcome Unit}
    (drives : Drives cfg ep outcome) (honest : paid → cfg.provider.Honest)
    (metered : Metered paid cfg ep.meter) (open_ : Open cfg 0 ep) :
    Stays paid cfg 0 outcome := by
  cases drives with
  | start => exact start_stays metered open_
  | step action source => exact Stays.weaken (step_stays action source honest metered open_)
  | retry delay pending => exact Stays.weaken (backoff_stays delay honest metered open_ pending)

theorem Running.stays {paid : Prop} {cfg : Config} {ep : Episode} (running : Running cfg ep)
    (honest : paid → cfg.provider.Honest) :
    Metered paid cfg ep.meter ∧ Open cfg 0 ep := by
  induction running with
  | initial => exact ⟨initial_metered paid cfg, initial_open cfg⟩
  | next running drives ih => exact drives.stays honest ih.1 ih.2

theorem Reachable.metered {paid : Prop} {cfg : Config} {ep : Episode}
    (reachable : Reachable cfg ep) (honest : paid → cfg.provider.Honest) :
    Metered paid cfg ep.meter := by
  induction reachable with
  | running running => exact (running.stays honest).1
  | left running drives =>
    rcases running.stays honest with ⟨metered, open_⟩
    exact drives.stays honest metered open_
  | failed _ message ih => exact ih
  | finished _ ih =>
    rw [meter_finish]
    exact ih

/-! ### The runs of `run_episode` -/

/-- A method that a run has called. -/
def Visits {α : Type} (cfg : Config) (outcome : Outcome α) : Prop :=
  match outcome with
  | .ok _ ep => Running cfg ep
  | .raised _ ep => Reachable cfg ep

theorem Visits.drive {cfg : Config} {ep : Episode} {outcome : Outcome Unit}
    (running : Running cfg ep) (drives : Drives cfg ep outcome) : Visits cfg outcome := by
  cases outcome with
  | ok value after => exact .next running drives
  | raised escape left => exact .left running drives

theorem Visits.andThen {α β : Type} {cfg : Config} {outcome : Outcome α}
    {next : α → Episode → Outcome β} (first : Visits cfg outcome)
    (rest : ∀ value ep, Running cfg ep → Visits cfg (next value ep)) :
    Visits cfg (outcome.andThen next) := by
  cases outcome with
  | ok value ep => exact rest value ep first
  | raised escape ep => exact first

theorem round_visits {cfg : Config} {ep : Episode} (running : Running cfg ep)
    (selector : Selector) (seen : List Observation) :
    Visits cfg (round cfg selector seen ep) := by
  unfold round
  split
  next delay pending =>
    exact (Visits.drive running (.retry delay pending)).andThen fun _ _ running => running
  · split
    · exact .running running
    next selection _ =>
      exact (Visits.drive running (.step selection.action selection.source)).andThen
        fun _ _ running => running

theorem loop_visits {cfg : Config} {ep : Episode} (running : Running cfg ep)
    (selector : Selector) (rounds : ℕ) (seen : List Observation) :
    Visits cfg (loop cfg selector rounds seen ep) := by
  induction rounds generalizing seen ep with
  | zero => exact running
  | succ rounds ih =>
    unfold loop
    split_ifs
    · exact running
    · exact (round_visits running selector seen).andThen fun later _ running => ih running later

/-- Every run ends in a reachable state, also when an exception leaves it. -/
theorem run_episode_reachable (cfg : Config) (selector : Selector) :
    Reachable cfg (run_episode cfg selector).episode := by
  have driven : Visits cfg (drive cfg selector (initial cfg)) :=
    (Visits.drive .initial .start).andThen fun _ _ running => loop_visits running selector _ _
  unfold run_episode
  generalize drive cfg selector (initial cfg) = outcome at driven
  cases outcome with
  | ok value ended => exact .finished (.running driven)
  | raised escape left =>
    cases escape with
    | sandboxUnavailable message => exact .finished (.failed driven message)
    | _ => exact driven

/-! ### The rounds of the loop -/

/-- A round that returns has decided once more, or has ended the episode. -/
theorem round_stays {paid : Prop} {cfg : Config} {ep : Episode} {low : ℕ} (selector : Selector)
    (seen : List Observation) (honest : paid → cfg.provider.Honest)
    (metered : Metered paid cfg ep.meter) (open_ : Open cfg low ep) :
    Stays paid cfg (low + 1) (round cfg selector seen ep) := by
  unfold round
  split
  next delay pending =>
    exact Stays.andThen (backoff_stays delay honest metered open_ pending)
      fun _ _ metered open_ => ⟨metered, open_⟩
  · split
    · exact metered
    · exact Stays.andThen (step_stays _ _ honest metered open_)
        fun _ _ metered open_ => ⟨metered, open_⟩

theorem loop_ends {paid : Prop} {cfg : Config} {ep after : Episode} {low : ℕ}
    (selector : Selector) (rounds : ℕ) (seen : List Observation)
    (honest : paid → cfg.provider.Honest)
    (metered : Metered paid cfg ep.meter) (open_ : Open cfg low ep)
    (enough : cfg.bounds.max_decisions ≤ low + rounds)
    (returned : loop cfg selector rounds seen ep = .ok () after) : after.terminal = true := by
  induction rounds generalizing low seen ep with
  | zero =>
    cases returned
    rcases open_ with ended | ⟨early, room⟩
    · exact ended
    · have decided : low ≤ after.decisions := early.2.1
      omega
  | succ rounds ih =>
    unfold loop at returned
    split_ifs at returned with ended
    · cases returned
      exact ended
    · have stays := round_stays selector seen honest metered open_
      cases outcome : round cfg selector seen ep with
      | ok later next =>
        rw [outcome] at stays returned
        exact ih later stays.1 stays.2 (by omega) returned
      | raised escape left =>
        rw [outcome] at returned
        cases returned

/-- The loop of a run is over when it has used up its rounds: the model of the
loop leaves no round out. -/
theorem drive_ends (cfg : Config) (selector : Selector) (after : Episode)
    (returned : drive cfg selector (initial cfg) = .ok () after) : after.terminal = true := by
  have free (impossible : False) : cfg.provider.Honest := impossible.elim
  have begun : Stays False cfg 0 ((initial cfg).start cfg) :=
    start_stays (initial_metered False cfg) (initial_open cfg)
  unfold drive at returned
  cases outcome : (initial cfg).start cfg with
  | ok value started =>
    rw [outcome] at begun returned
    exact loop_ends selector _ [] free begun.1 begun.2 (Nat.zero_add _).ge returned
  | raised escape left =>
    rw [outcome] at returned
    cases returned

/-- In every state that a run reaches, however its actions are chosen and
wherever an exception leaves it, the counters, the cost and the tokens are
within their caps, and no more requests have been accepted than steps are
allowed, provided that the provider never charges more than it estimates. -/
theorem episode_caps (cfg : Config) (honest : cfg.provider.Honest) :
    (∀ ep, Reachable cfg ep → Capped cfg ep) ∧
      ∀ selector, Capped cfg (run_episode cfg selector).episode :=
  ⟨fun _ reachable => capped_of_metered (reachable.metered fun _ => honest),
    fun selector => capped_of_metered
      ((run_episode_reachable cfg selector).metered fun _ => honest)⟩

theorem smallProvider_honest : smallProvider.Honest := by
  refine ⟨_, _, rfl, rfl, ?_⟩
  intro _ _ _ expected bound estimated bounded
  cases estimated
  cases bounded
  exact ⟨le_refl _, by decide⟩

theorem episode_caps_small :
    Capped (smallConfig fun _ _ => oneCase false)
      (run_episode (smallConfig fun _ _ => oneCase false) .policy).episode :=
  (episode_caps _ smallProvider_honest).2 .policy

/-- The floats nearest to `0.127535`, for the first request, and to
`0.372465001`. -/
def unevenCost (earlier : List Request) : ℚ :=
  if earlier = [] then 2297466313906785 / 2 ^ 54 else 3354866479424303 / 2 ^ 53

/-- The small provider with exact estimates of these costs. -/
def unevenProvider : HostedProvider :=
  { smallProvider with
    estimate_reservation_usd := some fun earlier _ => .ok (unevenCost earlier)
    generate := fun earlier _ => .result { smallResult with cost_usd := unevenCost earlier } }

theorem half_allowed : 0 < (1 / 2 : ℚ) ∧ (1 / 2 : ℚ) ≤ 5 := by decide +kernel

/-- Two requests for half a dollar, in the arithmetic of the machine. -/
def unevenConfig : Config :=
  { smallConfig fun _ _ => oneCase false with
    bounds :=
      { (smallConfig fun _ _ => oneCase false).bounds with
        max_cost_usd := 1 / 2
        cost := half_allowed }
    provider := unevenProvider
    arithmetic := .binary64 }

theorem unevenProvider_honest : unevenProvider.Honest := by
  refine ⟨_, _, rfl, rfl, ?_⟩
  intro _ _ _ expected bound estimated bounded
  cases estimated
  cases bounded
  exact ⟨le_refl _, by show (100 : ℤ) ≤ 100; decide⟩

/-- In the arithmetic of the machine the preflight compares with a difference
that has been rounded, and admits a request whose cost takes the episode past
its cap, whether the cap itself is rounded or not. -/
theorem episode_caps_rounded :
    ¬ ∀ cfg : Config, cfg.arithmetic = .binary64 → cfg.provider.Honest →
      ∀ ep, Reachable cfg ep →
        ep.cost_usd ≤ cfg.bounds.max_cost_usd + 1 / 1000000000 ∨
          ep.cost_usd ≤ cfg.arithmetic.round (cfg.bounds.max_cost_usd +
            cfg.arithmetic.round (1 / 1000000000)) := by
  intro capped
  have spent : (run_episode unevenConfig .policy).episode.cost_usd = 4503599636377696 / 2 ^ 53 := by
    decide +kernel
  have rounded : Arithmetic.binary64.round (1 / 2 + Arithmetic.binary64.round (1 / 1000000000)) =
      4503599636377695 / 2 ^ 53 := by
    decide +kernel
  rcases capped unevenConfig rfl unevenProvider_honest _
      (run_episode_reachable unevenConfig .policy) with within | within
  · rw [spent] at within
    revert within
    show ¬ (_ : ℚ) ≤ 1 / 2 + 1 / 1000000000
    norm_num
  · rw [spent] at within
    revert within
    show ¬ _ ≤ Arithmetic.binary64.round (1 / 2 + Arithmetic.binary64.round (1 / 1000000000))
    rw [rounded]
    norm_num

end Episode

end ForgeRL
