import ForgeRL.Bench.Standing
import ForgeRL.Bench.Trajectory

namespace ForgeRL

open Library

/-!
# Expenses

The log of an episode says which requests its decisions have made and how they
were answered.  The cost and the tokens of the episode are the totals of the
answers, failures included, in every state that a run reaches; and the
transitions of a completed run are its decisions, each with the cost of its
own request.  Where an operation rounds, the total is the running one, and
only without rounding are the costs of the transitions those of the requests.
-/

/-- What the answer to a request is charged. -/
def GenerateOutcome.cost_usd : GenerateOutcome → ℚ
  | .result generated => generated.cost_usd
  | .failure failed => failed.cost_usd
  | .escaped _ => 0

/-- The tokens that the answer to a request reports. -/
def GenerateOutcome.tokens : GenerateOutcome → ℤ
  | .result generated => generated.usedTokens
  | .failure failed => failed.reportedTokens.getD 0
  | .escaped _ => 0

/-- A provider that never charges less than nothing. -/
def HostedProvider.Charges (provider : HostedProvider) : Prop :=
  ∀ earlier request, 0 ≤ (provider.generate earlier request).cost_usd

/-- A provider that never reports less than no tokens. -/
def HostedProvider.Counts (provider : HostedProvider) : Prop :=
  ∀ earlier request, 0 ≤ (provider.generate earlier request).tokens

/-- A decision, with what its request was charged. -/
structure Expense where
  action : Action
  cost_usd : ℚ
  tokens : ℤ
deriving DecidableEq

namespace Expense

def pay (outcome : GenerateOutcome) (expense : Expense) : Expense :=
  { expense with
    cost_usd := expense.cost_usd + outcome.cost_usd
    tokens := expense.tokens + outcome.tokens }

/-- The last decision has made a request. -/
def payLast (outcome : GenerateOutcome) : List Expense → List Expense
  | [] => []
  | [last] => [last.pay outcome]
  | expense :: later => expense :: payLast outcome later

def next (expenses : List Expense) : Occurrence → List Expense
  | .decision action _ _ => expenses ++ [⟨action, 0, 0⟩]
  | .request _ outcome => payLast outcome expenses
  | .evaluation _ _ => expenses

/-- The decisions of a log in their order. -/
def ofLog (log : List Occurrence) : List Expense := log.foldl next []

theorem payLast_concat (outcome : GenerateOutcome) (expenses : List Expense) (last : Expense) :
    payLast outcome (expenses ++ [last]) = expenses ++ [last.pay outcome] := by
  induction expenses with
  | nil => rfl
  | cons expense expenses ih =>
    cases expenses with
    | nil => rfl
    | cons second expenses =>
      show expense :: payLast outcome ((second :: expenses) ++ [last]) = _
      rw [ih]
      rfl

theorem ofLog_concat (log : List Occurrence) (occurrence : Occurrence) :
    ofLog (log ++ [occurrence]) = next (ofLog log) occurrence :=
  List.foldl_concat next [] occurrence log

@[simp] theorem ofLog_evaluation (log : List Occurrence) (call : EvalCall)
    (outcome : EvalOutcome) : ofLog (log ++ [.evaluation call outcome]) = ofLog log :=
  ofLog_concat log _

@[simp] theorem ofLog_decision (log : List Occurrence) (action : Action) (source : String)
    (state : Observation) :
    ofLog (log ++ [.decision action source state]) = ofLog log ++ [⟨action, 0, 0⟩] :=
  ofLog_concat log _

theorem ofLog_request (log : List Occurrence) (action : Action) (source : String)
    (state : Observation) (request : Request) (outcome : GenerateOutcome) :
    ofLog (log ++ [.decision action source state] ++ [.request request outcome]) =
      ofLog log ++ [⟨action, outcome.cost_usd, outcome.tokens⟩] := by
  rw [ofLog_concat, ofLog_decision]
  show payLast outcome (ofLog log ++ [⟨action, 0, 0⟩]) = _
  rw [payLast_concat, pay, zero_add, zero_add]

end Expense

/-! ## A step -/

/-- What a decision has led to: nothing was paid, or its own request was
answered. -/
inductive Expense.Incurred (cfg : Config) (s : Standing) (action : Action) : Expense → Prop where
  | free : Expense.Incurred cfg s action ⟨action, 0, 0⟩
  | request (requests : action.Requests) (request : Request) (answer : GenerateOutcome)
      (answered : cfg.provider.generate s.requests request = answer) :
      Expense.Incurred cfg s action ⟨action, answer.cost_usd, answer.tokens⟩

/-- A standing has gone on by one decision. -/
structure Standing.Spends (cfg : Config) (action : Action) (expense : Expense)
    (s later : Standing) : Prop where
  incurred : Expense.Incurred cfg s action expense
  decisions : later.decisions = s.decisions + 1
  cost_usd : later.cost_usd = cfg.arithmetic.add s.cost_usd expense.cost_usd
  tokens : later.tokens = s.tokens + expense.tokens
  expenses : Expense.ofLog later.log = Expense.ofLog s.log ++ [expense]

namespace Standing

variable {cfg : Config} {s later : Standing} {action : Action} {source : String}
  {state : Observation} {outcome : Outcome Unit}

/-- A decision without a request. -/
theorem spends_decided (decisions : later.decisions = s.decisions + 1)
    (cost_usd : later.cost_usd = s.cost_usd) (tokens : later.tokens = s.tokens)
    (log : Expense.ofLog later.log = Expense.ofLog s.log ++ [⟨action, 0, 0⟩]) :
    Spends cfg action ⟨action, 0, 0⟩ s later where
  incurred := .free
  decisions := decisions
  cost_usd := cost_usd.trans (Arithmetic.add_zero _ _).symm
  tokens := tokens.trans (add_zero _).symm
  expenses := log

/-- A decision whose request was answered. -/
theorem spends_called {bound : ℤ} {request : Request} {answer : GenerateOutcome}
    (issued : Issued cfg s action bound request answer)
    (decisions : later.decisions = s.decisions + 1)
    (cost_usd : later.cost_usd = cfg.arithmetic.add s.cost_usd answer.cost_usd)
    (tokens : later.tokens = s.tokens + answer.tokens)
    (log : Expense.ofLog later.log =
      Expense.ofLog ((s.decided action source state).called action request answer).log) :
    Spends cfg action ⟨action, answer.cost_usd, answer.tokens⟩ s later where
  incurred := .request issued.requests request answer issued.answered
  decisions := decisions
  cost_usd := cost_usd
  tokens := tokens
  expenses := log.trans (Expense.ofLog_request s.log action source state request answer)

theorem spends_answered {bound : ℤ} {request : Request} {answer : GenerateOutcome}
    {role : Role} {escalates : Bool} (issued : Issued cfg s action bound request answer)
    (answered : Answered cfg role escalates bound
      ((s.decided action source state).called action request answer) answer outcome) :
    Spends cfg action ⟨action, answer.cost_usd, answer.tokens⟩ s outcome.episode.standing := by
  cases answered with
  | escaped escape left same =>
    rw [Outcome.episode, same]
    exact spends_called issued rfl (Arithmetic.add_zero _ _).symm (add_zero _).symm rfl
  | cancelled failure kind left same =>
    rw [Outcome.episode, same]
    exact spends_called issued rfl rfl rfl rfl
  | refused failure kind after ended same =>
    rw [Outcome.episode, same]
    exact spends_called issued rfl rfl rfl rfl
  | armed failure limited kind after delay waits short retries attempts decisions same =>
    rw [Outcome.episode, same]
    exact spends_called issued rfl rfl rfl rfl
  | broken failure kind incurable after ended same =>
    rw [Outcome.episode, same]
    exact spends_called issued rfl rfl rfl rfl
  | invalid failure kind unlimited after same =>
    rw [Outcome.episode, same]
    exact spends_called issued rfl rfl rfl rfl
  | rejected result error rejects after same =>
    rw [Outcome.episode, same]
    exact spends_called issued rfl rfl rfl rfl
  | unscreened result escape raises left same =>
    rw [Outcome.episode, same]
    exact spends_called issued rfl rfl rfl rfl
  | measured result candidate merged valid evaluation after same =>
    rw [Outcome.episode, same]
    exact spends_called issued rfl rfl rfl (Expense.ofLog_evaluation _ _ _)
  | stranded result candidate merged valid escape left same =>
    rw [Outcome.episode, same]
    exact spends_called issued rfl rfl rfl (Expense.ofLog_evaluation _ _ _)

theorem spends_exit (exits : Exit cfg action source state s outcome) :
    ∃ expense, Spends cfg action expense s outcome.episode.standing := by
  have decided := Expense.ofLog_decision s.log action source state
  cases exits with
  | stopped stops after ended same =>
    rw [Outcome.episode, same]
    exact ⟨_, spends_decided rfl rfl rfl decided⟩
  | restored rolls after same =>
    rw [Outcome.episode, same]
    exact ⟨_, spends_decided rfl rfl rfl decided⟩
  | unsent requests outcome ended same =>
    rw [same]
    exact ⟨_, spends_decided rfl rfl rfl decided⟩
  | sent bound request answer issued outcome answered =>
    exact ⟨_, spends_answered issued answered⟩

/-- A step of a started episode decides once, or leaves the standing as it is. -/
theorem spends_acted (acts : Episode.Acted cfg action source s outcome) :
    outcome.episode.standing = s ∨
      ∃ expense, Spends cfg action expense s outcome.episode.standing := by
  cases acts with
  | kept outcome ended same => exact .inl same
  | exit state outcome exits => exact .inr (spends_exit exits)
  | verified verifies state answer outcome same =>
    subst verifies
    rw [same]
    refine .inr ⟨_, spends_decided rfl rfl rfl ?_⟩
    exact (Expense.ofLog_evaluation _ _ _).trans (Expense.ofLog_decision s.log _ source state)

end Standing

namespace Expense

variable {cfg : Config} {s : Standing} {action : Action} {expense : Expense}

theorem Incurred.action_eq (incurred : Incurred cfg s action expense) :
    expense.action = action := by
  cases incurred <;> rfl

theorem Incurred.cost_usd_nonneg (charges : cfg.provider.Charges)
    (incurred : Incurred cfg s action expense) : 0 ≤ expense.cost_usd := by
  cases incurred with
  | free => exact le_refl 0
  | request requests request answer answered => exact answered ▸ charges s.requests request

theorem Incurred.tokens_nonneg (counts : cfg.provider.Counts)
    (incurred : Incurred cfg s action expense) : 0 ≤ expense.tokens := by
  cases incurred with
  | free => exact le_refl 0
  | request requests request answer answered => exact answered ▸ counts s.requests request

/-- Only an action that requests has cost anything. -/
theorem Incurred.unpaid (incurred : Incurred cfg s action expense) (idle : ¬ action.Requests) :
    expense.cost_usd = 0 ∧ expense.tokens = 0 := by
  cases incurred with
  | free => exact ⟨rfl, rfl⟩
  | request requests => exact absurd requests idle

end Expense

/-! ## Runs -/

namespace Standing

variable {cfg : Config} {s later : Standing} {action : Action} {source : String}
  {outcome : Outcome Unit}

/-- The totals of a standing are those of its log. -/
structure Spent (cfg : Config) (s : Standing) : Prop where
  decisions : (Expense.ofLog s.log).length = s.decisions
  cost_usd : cfg.arithmetic.total ((Expense.ofLog s.log).map Expense.cost_usd) = s.cost_usd
  tokens : ((Expense.ofLog s.log).map Expense.tokens).sum = s.tokens
  unpaid : ∀ expense ∈ Expense.ofLog s.log, ¬ expense.action.Requests →
    expense.cost_usd = 0 ∧ expense.tokens = 0

/-- A standing with the same totals and the same expenses. -/
theorem Spent.of_same (spent : Spent cfg s) (decisions : later.decisions = s.decisions)
    (cost_usd : later.cost_usd = s.cost_usd) (tokens : later.tokens = s.tokens)
    (log : Expense.ofLog later.log = Expense.ofLog s.log) : Spent cfg later where
  decisions := by rw [log, decisions, spent.decisions]
  cost_usd := by rw [log, cost_usd, spent.cost_usd]
  tokens := by rw [log, tokens, spent.tokens]
  unpaid := by
    rw [log]
    exact spent.unpaid

theorem Spent.spends (spent : Spent cfg s) {expense : Expense}
    (spends : Spends cfg action expense s later) : Spent cfg later where
  decisions := by
    rw [spends.expenses, List.length_append, spent.decisions, spends.decisions]
    rfl
  cost_usd := by
    rw [spends.expenses, List.map_append, List.map_singleton, Arithmetic.total_concat,
      spent.cost_usd, spends.cost_usd]
  tokens := by
    rw [spends.expenses, List.map_append, List.sum_append, spent.tokens, List.map_singleton,
      List.sum_singleton, spends.tokens]
  unpaid := by
    rw [spends.expenses]
    intro other member idle
    rcases List.mem_append.mp member with earlier | last
    · exact spent.unpaid other earlier idle
    · rw [List.mem_singleton.mp last] at idle ⊢
      rw [spends.incurred.action_eq] at idle
      exact spends.incurred.unpaid idle

theorem Spent.moved (spent : Spent cfg s) (moved : Episode.Moved cfg s outcome) :
    Spent cfg outcome.episode.standing := by
  cases moved with
  | start outcome opening =>
    cases opening with
    | again outcome same =>
      rw [same]
      exact spent
    | unopened fresh escape left same =>
      rw [Outcome.episode, same]
      exact spent.of_same rfl rfl rfl (Expense.ofLog_evaluation _ _ _)
    | opened fresh result after same =>
      rw [Outcome.episode, same]
      exact spent.of_same rfl rfl rfl (Expense.ofLog_evaluation _ _ _)
  | waited pending provider_retries outcome same =>
    rw [same]
    exact spent.of_same rfl rfl rfl rfl
  | acted begun action source outcome acts =>
    rcases spends_acted acts with same | ⟨expense, spends⟩
    · rw [same]
      exact spent
    · exact spent.spends spends

theorem spent_books (cfg : Config) : Episode.Books cfg (Spent cfg) (Spent cfg) where
  initial := ⟨rfl, rfl, rfl, fun _ member => absurd member List.not_mem_nil⟩
  moved {_ outcome} spent moved := by
    have after := spent.moved moved
    cases outcome <;> exact after
  weaken spent := spent
  recounted _ spent := spent.of_same rfl rfl rfl rfl
  graded _ spent := spent.of_same rfl rfl rfl (Expense.ofLog_evaluation _ _ _)

/-- No decision has cost less than nothing. -/
def Frugal (s : Standing) : Prop := ∀ expense ∈ Expense.ofLog s.log, 0 ≤ expense.cost_usd

theorem Frugal.of_same (frugal : Frugal s) (log : Expense.ofLog later.log = Expense.ofLog s.log) :
    Frugal later := by
  intro expense member
  rw [log] at member
  exact frugal expense member

theorem Frugal.moved (charges : cfg.provider.Charges) (frugal : Frugal s)
    (moved : Episode.Moved cfg s outcome) : Frugal outcome.episode.standing := by
  cases moved with
  | start outcome opening =>
    cases opening with
    | again outcome same =>
      rw [same]
      exact frugal
    | unopened fresh escape left same =>
      rw [Outcome.episode, same]
      exact frugal.of_same (Expense.ofLog_evaluation _ _ _)
    | opened fresh result after same =>
      rw [Outcome.episode, same]
      exact frugal.of_same (Expense.ofLog_evaluation _ _ _)
  | waited pending provider_retries outcome same =>
    rw [same]
    exact frugal.of_same rfl
  | acted begun action source outcome acts =>
    rcases spends_acted acts with same | ⟨last, spends⟩
    · rw [same]
      exact frugal
    · intro expense member
      rw [spends.expenses, List.mem_append, List.mem_singleton] at member
      rcases member with earlier | rfl
      · exact frugal expense earlier
      · exact spends.incurred.cost_usd_nonneg charges

theorem frugal_books (charges : cfg.provider.Charges) : Episode.Books cfg Frugal Frugal where
  initial := fun _ member => absurd member List.not_mem_nil
  moved {_ outcome} frugal moved := by
    have after := frugal.moved charges moved
    cases outcome <;> exact after
  weaken frugal := frugal
  recounted _ frugal := frugal.of_same rfl
  graded _ frugal := frugal.of_same (Expense.ofLog_evaluation _ _ _)

/-- Nothing has been paid back. -/
structure Solvent (s : Standing) : Prop where
  cost_usd : 0 ≤ s.cost_usd
  tokens : 0 ≤ s.tokens

theorem Solvent.moved (charges : cfg.provider.Charges) (counts : cfg.provider.Counts)
    (solvent : Solvent s) (moved : Episode.Moved cfg s outcome) :
    Solvent outcome.episode.standing := by
  cases moved with
  | start outcome opening =>
    cases opening with
    | again outcome same =>
      rw [same]
      exact solvent
    | unopened fresh escape left same =>
      rw [Outcome.episode, same]
      exact ⟨solvent.cost_usd, solvent.tokens⟩
    | opened fresh result after same =>
      rw [Outcome.episode, same]
      exact ⟨solvent.cost_usd, solvent.tokens⟩
  | waited pending provider_retries outcome same =>
    rw [same]
    exact ⟨solvent.cost_usd, solvent.tokens⟩
  | acted begun action source outcome acts =>
    rcases spends_acted acts with same | ⟨expense, spends⟩
    · rw [same]
      exact solvent
    · constructor
      · rw [spends.cost_usd]
        exact cfg.arithmetic.add_nonneg solvent.cost_usd (spends.incurred.cost_usd_nonneg charges)
      · rw [spends.tokens]
        exact add_nonneg solvent.tokens (spends.incurred.tokens_nonneg counts)

theorem solvent_books (charges : cfg.provider.Charges) (counts : cfg.provider.Counts) :
    Episode.Books cfg Solvent Solvent where
  initial := ⟨le_refl 0, le_refl 0⟩
  moved {_ outcome} solvent moved := by
    have after := solvent.moved charges counts moved
    cases outcome <;> exact after
  weaken solvent := solvent
  recounted _ solvent := ⟨solvent.cost_usd, solvent.tokens⟩
  graded _ solvent := ⟨solvent.cost_usd, solvent.tokens⟩

end Standing

namespace Episode

/-- The decisions of an episode with what they have cost. -/
def expenses (ep : Episode) : List Expense := Expense.ofLog ep.log

/-- In every state that a run reaches, whatever its provider answers, there is
one entry for each decision, and the cost and the tokens of the episode are
those of its answered requests: the cost is their running total, and without
rounding their sum.  A decision that makes no request has cost nothing. -/
theorem episode_expenses (cfg : Config) (ep : Episode) (reachable : Reachable cfg ep) :
    ep.expenses.length = ep.decisions ∧
      cfg.arithmetic.total (ep.expenses.map Expense.cost_usd) = ep.cost_usd ∧
      (cfg.arithmetic.Exact → (ep.expenses.map Expense.cost_usd).sum = ep.cost_usd) ∧
      (ep.expenses.map Expense.tokens).sum = ep.tokens ∧
      ∀ expense ∈ ep.expenses, ¬ expense.action.Requests →
        expense.cost_usd = 0 ∧ expense.tokens = 0 := by
  have spent : ep.standing.Spent cfg := reachable.books (Standing.spent_books cfg)
  refine ⟨spent.decisions, spent.cost_usd, fun exact_ => ?_, spent.tokens, spent.unpaid⟩
  rw [← Arithmetic.total_of_exact exact_]
  exact spent.cost_usd

/-- The end of the small episode, which has paid for two attempts. -/
def smallEnd : Episode := (run_episode (smallConfig fun _ _ => oneCase false) .policy).episode

theorem episode_expenses_small :
    smallEnd.expenses.length = smallEnd.decisions ∧
      (smallEnd.expenses.map Expense.cost_usd).sum = smallEnd.cost_usd ∧
      (smallEnd.expenses.map Expense.tokens).sum = smallEnd.tokens := by
  have spent := episode_expenses (smallConfig fun _ _ => oneCase false) smallEnd
    (run_episode_reachable _ _)
  exact ⟨spent.1, spent.2.2.1 Arithmetic.rational_exact, spent.2.2.2.1⟩

/-! ## The trajectory -/

section Trajectory

variable {cfg : Config} {selector : Selector}

/-- Two standings with the same totals and the same log. -/
structure Alike (s later : Standing) : Prop where
  decisions : later.decisions = s.decisions
  cost_usd : later.cost_usd = s.cost_usd
  tokens : later.tokens = s.tokens
  log : later.log = s.log

/-- The step inside a round that returns. -/
theorem round_step {seen later : List Observation} {ep after : Episode}
    (returned : round cfg selector seen ep = .ok later after) :
    ∃ action source twin stepped, step cfg action source twin = .ok () stepped ∧
      twin.started_flag = ep.started_flag ∧ Alike ep.standing twin.standing ∧
      Alike stepped.standing after.standing ∧
      ∀ other source_ p, Turn cfg selector seen ep other source_ p → other = action := by
  unfold round at returned
  cases pending : ep.pending_provider_delay with
  | some delay =>
    rw [pending] at returned
    dsimp only at returned
    unfold backoff at returned
    split_ifs at returned with cancelled
    · rcases @finish_cancelWait cfg ep delay with ⟨result, done, finished, _⟩
      rw [finished] at returned
      cases returned
    · unfold retryStep at returned
      cases stepped : step cfg .repair "provider_retry"
          (countProviderRetry (beginWait delay ep)) with
      | raised escape left =>
        rw [stepped] at returned
        cases returned
      | ok value inner =>
        rw [stepped] at returned
        cases returned
        refine ⟨.repair, "provider_retry", _, inner, stepped, rfl, ⟨rfl, rfl, rfl, rfl⟩, ?_, ?_⟩
        · unfold undoProviderRetry
          split_ifs <;> exact ⟨rfl, rfl, rfl, rfl⟩
        · intro other source p turn
          cases turn with
          | waited => rfl
          | chosen idle =>
            rw [pending] at idle
            cases idle
  | none =>
    rw [pending] at returned
    dsimp only at returned
    cases chosen : selector.choose cfg seen ep with
    | error escape =>
      rw [chosen] at returned
      cases returned
    | ok selection =>
      rw [chosen] at returned
      dsimp only at returned
      cases stepped : step cfg selection.action selection.source ep with
      | raised escape left =>
        rw [stepped] at returned
        cases returned
      | ok value inner =>
        rw [stepped] at returned
        cases returned
        refine ⟨selection.action, selection.source, ep, after, stepped, rfl,
          ⟨rfl, rfl, rfl, rfl⟩, ⟨rfl, rfl, rfl, rfl⟩, ?_⟩
        intro other source p turn
        cases turn with
        | waited delay waits =>
          rw [pending] at waits
          cases waits
        | chosen idle again same =>
          rw [chosen] at same
          cases same
          rfl

/-- A round that decides has spent what its action was charged. -/
theorem round_spends {seen later : List Observation} {ep after : Episode}
    (rounds : Rounds cfg selector seen ep)
    (returned : round cfg selector seen ep = .ok later after) {action : Action} {source : String}
    {p : Progress} (turn : Turn cfg selector seen ep action source p)
    (decided : after.decisions = ep.decisions + 1) :
    ∃ expense : Expense, expense.action = action ∧
      after.cost_usd = cfg.arithmetic.add ep.cost_usd expense.cost_usd ∧
      after.expenses = ep.expenses ++ [expense] := by
  rcases round_step returned with ⟨other, source_, twin, stepped, steps, started, before, ends,
    same⟩
  have begun : twin.started_flag = true := started.trans rounds.started
  have acts := @step_acted cfg twin other source_ begun
  rw [steps] at acts
  rcases Standing.spends_acted acts with kept | ⟨expense, spends⟩
  · have still : after.decisions = ep.decisions := by
      calc after.decisions = stepped.decisions := ends.decisions
        _ = twin.decisions := congrArg Standing.decisions kept
        _ = ep.decisions := before.decisions
    omega
  · refine ⟨expense, ?_, ?_, ?_⟩
    · rw [same action source p turn]
      exact spends.incurred.action_eq
    · calc after.cost_usd = stepped.cost_usd := ends.cost_usd
        _ = cfg.arithmetic.add twin.cost_usd expense.cost_usd := spends.cost_usd
        _ = cfg.arithmetic.add ep.cost_usd expense.cost_usd :=
          congrArg (cfg.arithmetic.add · expense.cost_usd) before.cost_usd
    · calc after.expenses = stepped.expenses := congrArg Expense.ofLog ends.log
        _ = twin.expenses ++ [expense] := spends.expenses
        _ = ep.expenses ++ [expense] :=
          congrArg (Expense.ofLog · ++ [expense]) before.log

/-- The action and the cost of a transition. -/
def charge (transition : Transition) : Action × ℚ := (transition.action, transition.cost_usd)

/-- The action and the cost of a decision. -/
def charged (expense : Expense) : Action × ℚ := (expense.action, expense.cost_usd)

/-- The transitions are the decisions, and without rounding their costs are
those of the decisions. -/
structure Itemised (cfg : Config) (ep : Episode) : Prop where
  actions : ep.transitions.map Transition.action = ep.expenses.map Expense.action
  charges : cfg.arithmetic.Exact → ep.transitions.map charge = ep.expenses.map charged

/-- Up to a round, the transitions are the decisions; or the run has been
abandoned. -/
theorem Rounds.charges {seen : List Observation} {ep : Episode}
    (rounds : Rounds cfg selector seen ep) :
    Itemised cfg ep ∨ Abandoned ep.progress := by
  induction rounds with
  | @start started returned =>
    have opening := @start_opening cfg (initial cfg)
    have entered := @start_entered cfg (initial cfg)
    rw [returned] at opening entered
    have unmoved : started.transitions = [] := by
      have begun : Entered cfg (initial cfg).progress started.progress := entered
      have none_ : started.progress.transitions = [] := by
        generalize started.progress = p at begun
        cases begun <;> rfl
      exact none_
    have unspent : started.expenses = [] := by
      unfold expenses
      cases opening with
      | again _ same =>
        have log : started.log = (initial cfg).log := congrArg Standing.log same
        rw [log]
        rfl
      | opened fresh result _ same =>
        have log : started.log = _ := congrArg Standing.log same
        rw [log]
        exact Expense.ofLog_evaluation [] _ _
    refine .inl ⟨?_, fun _ => ?_⟩ <;> rw [unmoved, unspent] <;> rfl
  | @next seen later ep after rounds runs returned ih =>
    have rounded := round_rounded rounds runs
    rw [returned] at rounded
    have before : Itemised cfg ep := by
      apply ih.resolve_right
      intro abandoned
      have ended : ep.terminal = true := abandoned.ended
      rw [runs] at ended
      cases ended
    cases rounded with
    | halted turn _ _ halted => exact .inr (Halted.abandoned halted)
    | @recorded action source p turn legal effect effected _ _ same =>
      have earlier : p.transitions = ep.transitions ∧ p.cost_usd = ep.cost_usd ∧
          p.decisions = ep.decisions := by
        cases turn <;> exact ⟨rfl, rfl, rfl⟩
      have kept : effect.transitions = p.transitions := by cases effected <;> rfl
      have counted : effect.decisions = p.decisions + 1 := by cases effected <;> rfl
      have decisions : after.decisions = effect.decisions := congrArg Progress.decisions same
      have cost_usd : after.cost_usd = effect.cost_usd := congrArg Progress.cost_usd same
      have transitions : after.transitions =
          effect.transitions ++ [Progress.transition cfg action p effect] :=
        congrArg Progress.transitions same
      rcases round_spends rounds returned turn (by rw [decisions, counted, earlier.2.2]) with
        ⟨expense, acted, paid, spent⟩
      left
      constructor
      · rw [transitions, kept, earlier.1, spent, List.map_append, List.map_append, before.actions,
          List.map_singleton, List.map_singleton, acted]
        rfl
      · intro exact_
        have cost : (Progress.transition cfg action p effect).cost_usd = expense.cost_usd := by
          calc (Progress.transition cfg action p effect).cost_usd
              = effect.cost_usd - p.cost_usd := exact_ _
            _ = after.cost_usd - ep.cost_usd := by rw [cost_usd, earlier.2.1]
            _ = ep.cost_usd + expense.cost_usd - ep.cost_usd := by
              rw [paid, Arithmetic.add_of_exact exact_]
            _ = expense.cost_usd := add_sub_cancel_left _ _
        have last : charge (Progress.transition cfg action p effect) = charged expense :=
          Prod.ext acted.symm cost
        rw [transitions, kept, earlier.1, spent, List.map_append, List.map_append,
          before.charges exact_, List.map_singleton, List.map_singleton, last]

/-- A completed run has gone through its rounds, and was graded after the last. -/
theorem completed_rounds {result : EpisodeResult} {done : Episode}
    (returned : run_episode cfg selector = .ok result done)
    (completed : result.status = .completed) : ∃ later after,
      Rounds cfg selector later after ∧ after.finish cfg = .ok result done ∧
        ¬ Abandoned after.progress := by
  have failed (message : String) (left : Episode)
      (returned : (failExecution message left).finish cfg = .ok result done) : False := by
    have broken : (failExecution message left).status.Broken := failedStatus_broken .providerError
    exact finish_broken broken returned completed
  have escaped {escape : Escape} {left : Episode}
      (driven : drive cfg selector (initial cfg) = .raised escape left) : False := by
    rw [run_episode, driven] at returned
    cases escape with
    | sandboxUnavailable message => exact failed message left returned
    | _ => cases returned
  rcases drive_rounds cfg selector with ⟨later, after, driven, rounds, _⟩ | stopped | raised
  · rw [run_episode, driven] at returned
    have finished : after.finish cfg = .ok result done := returned
    refine ⟨later, after, rounds, finished, fun abandoned => ?_⟩
    exact finish_broken abandoned.broken finished completed
  · rcases stopped with ⟨escape, left, driven, _⟩
    exact (escaped driven).elim
  · rcases raised with ⟨escape, left, _, _, driven, _⟩
    exact (escaped driven).elim

/-- Grading adds neither transitions nor expenses. -/
theorem finish_charges {ep done : Episode} {result : EpisodeResult}
    (finished : ep.finish cfg = .ok result done) :
    done.transitions = ep.transitions ∧ done.expenses = ep.expenses := by
  rcases @progress_finish cfg ep with ⟨status, terminal, occurrences, _, same⟩
  have graded := @standing_finish cfg ep
  rw [finished] at same graded
  have progress : done.progress = ep.progress.closed status terminal occurrences := same
  refine ⟨congrArg Progress.transitions progress, ?_⟩
  rcases graded with kept | ⟨answer, noted⟩
  · have log : done.log = ep.log := congrArg Standing.log kept
    exact congrArg Expense.ofLog log
  · have log : done.log = ep.log ++ [.evaluation ⟨.hidden, ep.files⟩ answer] :=
      congrArg Standing.log noted
    unfold expenses
    rw [log, Expense.ofLog_evaluation]

theorem completed_itemised {result : EpisodeResult} {done : Episode}
    (returned : run_episode cfg selector = .ok result done)
    (completed : result.status = .completed) : Itemised cfg done := by
  rcases completed_rounds returned completed with ⟨later, after, rounds, finished, kept⟩
  rcases finish_charges finished with ⟨transitions, expenses⟩
  have itemised := rounds.charges.resolve_right kept
  refine ⟨?_, fun exact_ => ?_⟩ <;> rw [transitions, expenses]
  · exact itemised.actions
  · exact itemised.charges exact_

/-- The transitions of a completed run are its decisions, in their order; and
without rounding each has what its own request was charged. -/
theorem trajectory_expenses (cfg : Config) (selector : Selector) {result : EpisodeResult}
    {done : Episode} (returned : run_episode cfg selector = .ok result done)
    (completed : result.status = .completed) :
    done.transitions.map Transition.action = done.expenses.map Expense.action ∧
      (cfg.arithmetic.Exact → done.transitions.map charge = done.expenses.map charged) ∧
      ∀ expense ∈ done.expenses, ¬ expense.action.Requests → expense.cost_usd = 0 := by
  have itemised := completed_itemised returned completed
  have reachable := run_episode_reachable cfg selector
  rw [returned] at reachable
  have spent : done.standing.Spent cfg := reachable.books (Standing.spent_books cfg)
  exact ⟨itemised.actions, itemised.charges,
    fun expense member idle => (spent.unpaid expense member idle).1⟩

/-- Without rounding no transition of a completed run has cost less than
nothing. -/
theorem transition_charged (charges : cfg.provider.Charges) (exact_ : cfg.arithmetic.Exact)
    {result : EpisodeResult} {done : Episode}
    (returned : run_episode cfg selector = .ok result done)
    (completed : result.status = .completed) :
    ∀ transition ∈ done.transitions, 0 ≤ transition.cost_usd := by
  have reachable := run_episode_reachable cfg selector
  rw [returned] at reachable
  have frugal : done.standing.Frugal := reachable.books (Standing.frugal_books charges)
  intro transition member
  have listed : charge transition ∈ done.transitions.map charge := List.mem_map_of_mem member
  rw [(completed_itemised returned completed).charges exact_] at listed
  rcases List.mem_map.mp listed with ⟨expense, inside, same⟩
  have paid : expense.cost_usd = transition.cost_usd := congrArg Prod.snd same
  rw [← paid]
  exact frugal expense inside

/-- Two attempts of a cent each. -/
theorem trajectory_expenses_small : ∃ result done,
    run_episode (smallConfig fun _ _ => oneCase false) .policy = .ok result done ∧
      done.expenses.length = 2 ∧
      done.transitions.map charge = done.expenses.map charged := by
  have tested : ∃ result done,
      run_episode (smallConfig fun _ _ => oneCase false) .policy = .ok result done ∧
        decide (result.status = .completed ∧ done.expenses.length = 2) = true :=
    Outcome.returned_of_test (show (run_episode (smallConfig fun _ _ => oneCase false)
      .policy).test (fun result done =>
        decide (result.status = .completed ∧ done.expenses.length = 2)) = true by decide +kernel)
  rcases tested with ⟨result, done, returned, tested⟩
  have facts := of_decide_eq_true tested
  exact ⟨result, done, returned, facts.2,
    (trajectory_expenses _ .policy returned facts.1).2.1 Arithmetic.rational_exact⟩

end Trajectory

end Episode

end ForgeRL
