import ForgeRL.Bench.Standing

namespace ForgeRL

open Library

/-!
# What a failed step leaves alone

A step without a request, or with a refused one, leaves the candidate, the
checkpoint and the money as they were.  A request that is answered without a
usable candidate is paid for once and counted once, and the candidate stays.
-/

/-- A refusal carries neither a cost nor token counts: `store.BudgetExceeded`
has no attributes. -/
structure ProviderFailure.Bare (failure : ProviderFailure) : Prop where
  kind : failure.kind = .budgetExceeded
  cost_usd : failure.cost_usd = 0
  tokens : failure.reportedTokens = none

/-- The step's error for a response without a usable candidate; a rate limit
is another one. -/
structure ProviderFailure.NoCandidate (failure : ProviderFailure) : Prop where
  kind : failure.kind = .invalidCandidate
  unlimited : failure.http_status ≠ some 429

/-- `request_token_bound` of a request that is made. -/
def Config.tokenBound (cfg : Config) (earlier : List Request) (query : Query) : ℤ :=
  match cfg.provider.estimate_token_bound with
  | none => 0
  | some estimate =>
    match estimate earlier query with
    | .ok bound => bound
    | .error _ => 0

theorem Issued.bound_eq {cfg : Config} {s : Standing} {action : Action} {bound : ℤ}
    {request : Request} {answer : GenerateOutcome}
    (issued : Issued cfg s action bound request answer) :
    cfg.tokenBound s.requests request.toQuery = bound := by
  unfold Config.tokenBound
  split
  next absent => exact (issued.unbounded absent).symm
  next estimate given => rw [(issued.bounded estimate given).1]

namespace Episode

/-- The candidate, its measurement and its checkpoint are the same. -/
structure SameCandidate (before after : Episode) : Prop where
  files : after.files = before.files
  publicResult : after.publicResult = before.publicResult
  best_files : after.best_files = before.best_files
  bestPublic : after.bestPublic = before.bestPublic
  snapshots : after.snapshots = before.snapshots

/-- Nothing has been tried and nothing has been paid. -/
structure Unspent (before after : Episode) : Prop extends SameCandidate before after where
  attempts : after.attempts = before.attempts
  cost_usd : after.cost_usd = before.cost_usd
  tokens : after.tokens = before.tokens
  unknown_token_bound : after.unknown_token_bound = before.unknown_token_bound
  current_model : after.current_model = before.current_model
  escalations : after.escalations = before.escalations

/-- A request has been paid for once, with its tokens or with their bound, and
counted as an invalid response; the candidate is the same. -/
structure Dismissed (cfg : Config) (before after : Episode) (cost : ℚ) (reported : Option ℤ)
    (bound : ℤ) : Prop extends SameCandidate before after where
  cost_usd : after.cost_usd = cfg.arithmetic.add before.cost_usd cost
  tokens : after.tokens = before.tokens + reported.getD 0
  unknown_token_bound : after.unknown_token_bound =
    before.unknown_token_bound + if reported = none then bound else 0
  invalid_responses : after.invalid_responses = before.invalid_responses + 1

/-- What the answer to the request of a step says about the state after it. -/
def AnswerSettled (cfg : Config) (before after : Episode) (request : Request)
    (answer : GenerateOutcome) : Prop :=
  match answer with
  | .failure failure =>
    (failure.Bare → Unspent before after) ∧
      (failure.NoCandidate → Dismissed cfg before after failure.cost_usd failure.reportedTokens
        (cfg.tokenBound before.requests request.toQuery))
  | .result result =>
    ∀ error, validate_edits cfg (Dict.merge before.files result.files) = .error (.rejected error) →
      Dismissed cfg before after result.cost_usd (some result.usedTokens)
        (cfg.tokenBound before.requests request.toQuery)
  | .escaped _ => True

section Failed

variable {cfg : Config} {before after : Episode} {action : Action} {source : String}
  {state : Observation}

theorem unspent_of_decided
    (same : after.standing = before.standing.decided action source state) :
    Unspent before after where
  files := congrArg Standing.files same
  publicResult := congrArg Standing.publicResult same
  best_files := congrArg Standing.best_files same
  bestPublic := congrArg Standing.bestPublic same
  snapshots := congrArg Standing.snapshots same
  attempts := congrArg Standing.attempts same
  cost_usd := congrArg Standing.cost_usd same
  tokens := congrArg Standing.tokens same
  unknown_token_bound := congrArg Standing.unknown_token_bound same
  current_model := congrArg Standing.current_model same
  escalations := congrArg Standing.escalations same

/-- The attempt of a request. -/
def attempted (before : Episode) (action : Action) (source : String) (state : Observation)
    (request : Request) (answer : GenerateOutcome) : Standing :=
  (before.standing.decided action source state).called action request answer

theorem refused_unspent {role : Role} {escalates : Bool} {bound : ℤ} {request : Request}
    {answer : GenerateOutcome} {failure : ProviderFailure} (bare : failure.Bare)
    (same : after.standing =
      { (before.attempted action source state request answer).failed
          cfg role escalates bound failure with
        attempts := (before.attempted action source state request answer).attempts - 1 }) :
    Unspent before after := by
  have unobserved : ¬ requestObserved failure := fun observed => observed.1 bare.kind
  refine ⟨⟨congrArg Standing.files same, congrArg Standing.publicResult same,
    congrArg Standing.best_files same, congrArg Standing.bestPublic same,
    congrArg Standing.snapshots same⟩, congrArg Standing.attempts same, ?_, ?_, ?_, ?_, ?_⟩
  · have cost : after.cost_usd = cfg.arithmetic.add before.cost_usd failure.cost_usd :=
      congrArg Standing.cost_usd same
    rw [cost, bare.cost_usd, Arithmetic.add_zero]
  · have tokens : after.tokens = before.tokens + failure.reportedTokens.getD 0 :=
      congrArg Standing.tokens same
    rw [tokens, bare.tokens]
    exact add_zero _
  · have unknown := congrArg Standing.unknown_token_bound same
    have kept : ¬ (failure.reportedTokens = none ∧ failure.kind ≠ .budgetExceeded) :=
      fun other => other.2 bare.kind
    exact unknown.trans ((congrArg _ (if_neg kept)).trans (add_zero _))
  · exact (congrArg Standing.current_model same).trans (if_neg unobserved)
  · have escalated := congrArg Standing.escalations same
    exact escalated.trans ((congrArg _ (if_neg fun observed => unobserved observed.1)).trans
      (Nat.add_zero _))

theorem invalid_dismissed {role : Role} {escalates : Bool} {bound : ℤ} {request : Request}
    {answer : GenerateOutcome} {failure : ProviderFailure} (kind : failure.kind = .invalidCandidate)
    (same : after.standing = ((before.attempted action source state request answer).failed cfg
      role escalates bound failure).invalid) :
    Dismissed cfg before after failure.cost_usd failure.reportedTokens bound := by
  refine ⟨⟨congrArg Standing.files same, congrArg Standing.publicResult same,
    congrArg Standing.best_files same, congrArg Standing.bestPublic same,
    congrArg Standing.snapshots same⟩, congrArg Standing.cost_usd same,
    congrArg Standing.tokens same, ?_, congrArg Standing.invalid_responses same⟩
  have unknown : after.unknown_token_bound = before.unknown_token_bound +
      if failure.reportedTokens = none ∧ failure.kind ≠ .budgetExceeded then bound else 0 :=
    congrArg Standing.unknown_token_bound same
  have charged : (failure.reportedTokens = none ∧ failure.kind ≠ .budgetExceeded) ↔
      failure.reportedTokens = none := and_iff_left (by rw [kind]; decide)
  rw [unknown, if_congr charged rfl rfl]

theorem rejected_dismissed {role : Role} {escalates : Bool} {bound : ℤ} {request : Request}
    {answer : GenerateOutcome} {result : RepoResult}
    (same : after.standing = ((before.attempted action source state request answer).generated
      cfg role escalates result).invalid) :
    Dismissed cfg before after result.cost_usd (some result.usedTokens) bound :=
  ⟨⟨congrArg Standing.files same, congrArg Standing.publicResult same,
    congrArg Standing.best_files same, congrArg Standing.bestPublic same,
    congrArg Standing.snapshots same⟩, congrArg Standing.cost_usd same,
    congrArg Standing.tokens same,
    (congrArg Standing.unknown_token_bound same).trans (add_zero _).symm,
    congrArg Standing.invalid_responses same⟩

/-- What the answer settles, by the exit that the step has taken. -/
theorem settled_of_answered {bound : ℤ} {request : Request} {answer : GenerateOutcome}
    {outcome : Outcome Unit}
    (issued : Issued cfg before.standing action bound request answer)
    (answered : Answered cfg (before.standing.roleFor action)
      (decide (before.standing.Escalates action)) bound
      (before.attempted action source state request answer) answer outcome) :
    AnswerSettled cfg before outcome.episode request answer := by
  have bounded : cfg.tokenBound before.requests request.toQuery = bound := issued.bound_eq
  unfold AnswerSettled
  rw [bounded]
  cases answered with
  | escaped escape left same => trivial
  | cancelled failure kind left same =>
    refine ⟨fun bare => ?_, fun invalid => ?_⟩
    · rw [bare.kind] at kind
      cases kind
    · rw [invalid.kind] at kind
      cases kind
  | refused failure kind after ended same =>
    refine ⟨fun bare => refused_unspent bare same, fun invalid => ?_⟩
    rw [invalid.kind] at kind
    cases kind
  | armed failure limited kind after delay waits short retries attempts decisions same =>
    exact ⟨fun bare => absurd bare.kind kind, fun invalid => absurd limited invalid.unlimited⟩
  | broken failure kind incurable after ended same =>
    refine ⟨fun bare => absurd bare.kind kind, fun invalid => ?_⟩
    rcases incurable with limited | other
    · exact absurd limited invalid.unlimited
    · exact absurd invalid.kind other
  | invalid failure kind unlimited after same =>
    refine ⟨fun bare => ?_, fun _ => invalid_dismissed kind same⟩
    rw [bare.kind] at kind
    cases kind
  | rejected result error rejects after same => exact fun _ _ => rejected_dismissed same
  | unscreened result escape raises left same =>
    intro error rejects
    cases raises.symm.trans rejects
  | measured result candidate merged valid evaluation after same =>
    intro error rejects
    subst merged
    cases valid.symm.trans rejects
  | stranded result candidate merged valid escape left same =>
    intro error rejects
    subst merged
    cases valid.symm.trans rejects

end Failed

/-- A legal model action whose step sends no request, because a preflight has
stopped it, or whose request the budget refuses, leaves the candidate, the
attempts and the money as they were.  One that is answered without a usable
candidate leaves the candidate, is paid for once and counted once.  A step
starts the episode first, so its beginning is the state after the start. -/
theorem failed_step_intact (cfg : Config) (ep begun : Episode) (action : Action) (source : String)
    (returned : ep.start cfg = .ok () begun) (runs : begun.terminal = false)
    (requests : action.Requests)
    (legal : action ∈ begun.legal_actions cfg (begun.observation cfg)) :
    ((ep.step cfg action source).episode.requests = begun.requests →
      Unspent begun (ep.step cfg action source).episode) ∧
    ∀ request, (ep.step cfg action source).episode.requests = begun.requests ++ [request] →
      AnswerSettled cfg begun (ep.step cfg action source).episode request
        (cfg.provider.generate begun.requests request) := by
  have exits := step_exit source returned runs legal requests.2.2
  generalize ep.step cfg action source = outcome at exits
  cases exits with
  | stopped stops => exact absurd stops requests.1
  | restored rolls => exact absurd rolls requests.2.1
  | unsent _ _ ended same =>
    refine ⟨fun _ => unspent_of_decided same, fun request sent => ?_⟩
    have unsent : outcome.episode.requests = begun.requests :=
      (congrArg Standing.requests same).trans (Standing.requests_decided _ _ _ _)
    rw [unsent] at sent
    exact absurd (congrArg List.length sent) (by simp)
  | sent bound request answer issued _ answered =>
    have made : outcome.episode.requests = begun.requests ++ [request] := by
      apply answered.requests.trans
      rw [Standing.requests_called, Standing.requests_decided]
      rfl
    refine ⟨fun unsent => ?_, fun other sent => ?_⟩
    · rw [made] at unsent
      exact absurd (congrArg List.length unsent) (by simp)
    · rw [made] at sent
      cases List.singleton_inj.mp (List.append_cancel_left sent)
      rw [show cfg.provider.generate begun.requests request = answer from issued.answered]
      exact settled_of_answered issued answered

/-- An episode whose reservations are all refused. -/
def refusingConfig : Config :=
  { smallConfig (fun _ _ => oneCase false) with
    provider := { smallProvider with
      generate := fun _ _ =>
        .failure (.bare .budgetExceeded "The project inference allowance is exhausted") } }

theorem failed_step_intact_refused : ∃ begun,
    (initial refusingConfig).start refusingConfig = .ok () begun ∧
      Unspent begun
        ((initial refusingConfig).step refusingConfig .retry "fallback").episode := by
  rcases Outcome.returned_of_test (show ((initial refusingConfig).start refusingConfig).test
      (fun _ begun => begun.terminal = false ∧ begun.requests.length = 0 ∧
        .retry ∈ begun.legal_actions refusingConfig (begun.observation refusingConfig)) = true from
      by decide +kernel) with ⟨value, begun, returned, tested⟩
  rcases of_decide_eq_true tested with ⟨runs, none_, legal⟩
  have intact := failed_step_intact refusingConfig (initial refusingConfig) begun .retry "fallback"
    returned runs ⟨by decide, by decide, by decide⟩ legal
  have sent : ((initial refusingConfig).step refusingConfig .retry "fallback").episode.requests.length
      = 1 := by decide +kernel
  rcases List.length_eq_one_iff.mp sent with ⟨request, sent⟩
  have added : ((initial refusingConfig).step refusingConfig .retry "fallback").episode.requests =
      begun.requests ++ [request] := by
    rw [List.length_eq_zero_iff.mp none_]
    exact sent
  exact ⟨begun, returned, (intact.2 request added).1 ⟨rfl, rfl, rfl⟩⟩

end Episode

end ForgeRL
