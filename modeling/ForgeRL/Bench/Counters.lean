import ForgeRL.Bench.Standing

namespace ForgeRL

open Library

/-!
# Counters and the requests they count

The attempts, the retries and the escalations of an episode are published.
Here they are compared with the requests of the log.  A reservation that is
refused makes no request: it is taken back from the attempts and never becomes
an escalation, but a retry that it has already counted stays.
-/

/-- A provider request, with the action of the decision before it. -/
structure Call where
  action : Option Action
  request : Request
  outcome : GenerateOutcome

/-- The calls of a log so far, and the action that was decided last. -/
structure CallLog where
  latest : Option Action
  calls : List Call

def CallLog.next (past : CallLog) (occurrence : Occurrence) : CallLog :=
  match occurrence with
  | .decision action _ _ => { past with latest := some action }
  | .request request outcome =>
    { past with calls := past.calls ++ [⟨past.latest, request, outcome⟩] }
  | .evaluation _ _ => past

namespace Calls

/-- The calls of a log. -/
def ofLog (log : List Occurrence) : List Call := (log.foldl CallLog.next ⟨none, []⟩).calls

/-- The calls that were not refused. -/
def made (calls : List Call) : List Call := calls.filter fun call => !call.outcome.refused

def roles (calls : List Call) : List Role := calls.map fun call => call.request.role

/-- The calls of retry actions, other than the first call. -/
def retried (calls : List Call) : ℕ := calls.tail.countP fun call => call.action = some .retry

/-- How often a list of roles goes from cheap to strong. -/
def switches : List Role → ℕ
  | first :: second :: rest =>
    (if first = .cheap ∧ second = .strong then 1 else 0) + switches (second :: rest)
  | _ => 0

/-- A retry that followed a call was refused. -/
def Withheld (calls : List Call) : Prop :=
  ∃ earlier call later, calls = earlier ++ call :: later ∧ made earlier ≠ [] ∧
    call.action = some .retry ∧ call.outcome.refused = true

/-! ## One more call -/

section Append

variable (log : List Occurrence) (calls : List Call) (call : Call)

@[simp] theorem ofLog_evaluation (evaluation : EvalCall) (outcome : EvalOutcome) :
    ofLog (log ++ [.evaluation evaluation outcome]) = ofLog log := by
  simp [ofLog, CallLog.next]

@[simp] theorem ofLog_decision (action : Action) (source : String) (state : Observation) :
    ofLog (log ++ [.decision action source state]) = ofLog log := by
  simp [ofLog, CallLog.next]

theorem ofLog_request (action : Action) (source : String) (state : Observation)
    (request : Request) (outcome : GenerateOutcome) :
    ofLog (log ++ [.decision action source state] ++ [.request request outcome]) =
      ofLog log ++ [⟨some action, request, outcome⟩] := by
  simp [ofLog, CallLog.next]

theorem made_concat_of_made (made_ : call.outcome.refused = false) :
    made (calls ++ [call]) = made calls ++ [call] := by
  simp [made, made_]

theorem made_concat_of_refused (refused : call.outcome.refused = true) :
    made (calls ++ [call]) = made calls := by
  simp [made, refused]

theorem retried_concat : retried (calls ++ [call]) =
    retried calls + if calls ≠ [] ∧ call.action = some .retry then 1 else 0 := by
  cases calls with
  | nil => simp [retried]
  | cons first rest => simp [retried, List.countP_append, List.countP_singleton]

theorem roles_concat : roles (calls ++ [call]) = roles calls ++ [call.request.role] := by
  simp [roles]

theorem switches_concat (roles : List Role) (role : Role) : switches (roles ++ [role]) =
    switches roles + if roles.getLast? = some .cheap ∧ role = .strong then 1 else 0 := by
  induction roles with
  | nil => simp [switches]
  | cons first rest ih =>
    cases rest with
    | nil => simp [switches]
    | cons second rest =>
      rw [List.cons_append, List.cons_append, switches, ← List.cons_append, ih, switches,
        List.getLast?_cons_cons]
      omega

theorem withheld_concat : Withheld (calls ++ [call]) ↔ Withheld calls ∨
    (made calls ≠ [] ∧ call.action = some .retry ∧ call.outcome.refused = true) := by
  constructor
  · rintro ⟨earlier, withheld, later, split, after, retries, refused⟩
    rcases List.eq_nil_or_concat later with rfl | ⟨rest, last, rfl⟩
    · rcases List.append_inj' split rfl with ⟨rfl, same⟩
      cases same
      exact .inr ⟨after, retries, refused⟩
    · rw [List.concat_eq_append, ← List.cons_append, ← List.append_assoc] at split
      rcases List.append_inj' split rfl with ⟨same, _⟩
      exact .inl ⟨earlier, withheld, rest, same, after, retries, refused⟩
  · rintro (⟨earlier, withheld, later, rfl, after, retries, refused⟩ | ⟨after, retries, refused⟩)
    · exact ⟨earlier, withheld, later ++ [call], by simp, after, retries, refused⟩
    · exact ⟨calls, call, [], rfl, after, retries, refused⟩

end Append

end Calls

/-- The role of the last call that was made, or the cheap one. -/
def Calls.lastRole (calls : List Call) : Role := (Calls.roles calls).getLast?.getD .cheap

/-- Failures that are no refusal carry a positive cost. -/
structure HostedProvider.Paid (provider : HostedProvider) : Prop where
  failures : ∀ earlier request failure, provider.generate earlier request = .failure failure →
    failure.kind ≠ .budgetExceeded → 0 < failure.cost_usd
  escapes : ∀ earlier request escape, provider.generate earlier request ≠ .escaped escape

namespace Episode

/-- The requests of an episode. -/
def calls (ep : Episode) : List Call := Calls.ofLog ep.log

/-- The published counters describe the requests that were made. -/
structure Counted (ep : Episode) : Prop where
  attempts : ep.attempts = (Calls.made ep.calls).length
  retries : ep.retries = Calls.retried (Calls.made ep.calls)
  escalations : ep.escalations = Calls.switches (Calls.roles (Calls.made ep.calls))

end Episode

/-- What every state of a run keeps: the retries may exceed those that were
made, and do so just when one was withheld. -/
structure Booked (s : Standing) : Prop where
  attempts : s.attempts = (Calls.made (Calls.ofLog s.log)).length
  current_model : s.current_model = Calls.lastRole (Calls.made (Calls.ofLog s.log))
  escalations : s.escalations = Calls.switches (Calls.roles (Calls.made (Calls.ofLog s.log)))
  enough : Calls.retried (Calls.made (Calls.ofLog s.log)) ≤ s.retries
  exact : s.retries = Calls.retried (Calls.made (Calls.ofLog s.log)) ↔
    ¬ Calls.Withheld (Calls.ofLog s.log)

namespace Booked

variable {cfg : Config} {s later : Standing}

/-- The counters and the calls of two standings agree. -/
structure Same (s later : Standing) : Prop where
  attempts : later.attempts = s.attempts
  retries : later.retries = s.retries
  escalations : later.escalations = s.escalations
  current_model : later.current_model = s.current_model
  calls : Calls.ofLog later.log = Calls.ofLog s.log

theorem of_same (booked : Booked s) (same : Same s later) : Booked later where
  attempts := by
    rw [same.attempts, same.calls]
    exact booked.attempts
  current_model := by
    rw [same.current_model, same.calls]
    exact booked.current_model
  escalations := by
    rw [same.escalations, same.calls]
    exact booked.escalations
  enough := by
    rw [same.retries, same.calls]
    exact booked.enough
  exact := by
    rw [same.retries, same.calls]
    exact booked.exact

/-- The standing after a call that was made, and whose role is committed. -/
structure Made (action : Action) (request : Request) (answer : GenerateOutcome)
    (s later : Standing) : Prop where
  attempts : later.attempts = s.attempts + 1
  retries : later.retries = s.retries +
    if action = Action.retry ∧ s.attempts + 1 > 1 then 1 else 0
  escalations : later.escalations = s.escalations + if s.Escalates action then 1 else 0
  current_model : later.current_model = s.roleFor action
  calls : Calls.ofLog later.log = Calls.ofLog s.log ++ [⟨some action, request, answer⟩]

theorem length_pos_iff (booked : Booked s) :
    0 < s.attempts ↔ Calls.made (Calls.ofLog s.log) ≠ [] := by
  rw [booked.attempts, List.length_pos_iff]

/-- The last role is cheap and the next one strong just when an escalation is
counted. -/
theorem switch_iff (booked : Booked s) (action : Action) :
    ((Calls.roles (Calls.made (Calls.ofLog s.log))).getLast? = some .cheap ∧
      s.roleFor action = .strong) ↔ s.Escalates action := by
  have model := booked.current_model
  have begun := booked.length_pos_iff
  unfold Calls.lastRole at model
  constructor
  · rintro ⟨last, strong⟩
    rw [last] at model
    have weak : s.current_model = .cheap := model
    have escalates : action = .escalate := by
      by_contra other
      rw [Standing.roleFor, if_neg other, weak] at strong
      cases strong
    refine ⟨escalates, begun.mpr ?_, by rw [weak]; decide⟩
    intro nothing
    rw [nothing] at last
    cases last
  · rintro ⟨rfl, after, weak⟩
    refine ⟨?_, rfl⟩
    cases last : (Calls.roles (Calls.made (Calls.ofLog s.log))).getLast? with
    | none =>
      have nothing : Calls.roles (Calls.made (Calls.ofLog s.log)) = [] :=
        List.getLast?_eq_none_iff.mp last
      exact absurd (List.map_eq_nil_iff.mp nothing) (begun.mp after)
    | some role =>
      rw [last] at model
      have role_eq : s.current_model = role := model
      cases role with
      | cheap => rfl
      | strong => exact absurd role_eq weak

theorem of_made (booked : Booked s) {action : Action} {request : Request}
    {answer : GenerateOutcome} (role : request.role = s.roleFor action)
    (accepted : answer.refused = false) (made : Made action request answer s later) :
    Booked later := by
  have calls : Calls.made (Calls.ofLog later.log) =
      Calls.made (Calls.ofLog s.log) ++ [⟨some action, request, answer⟩] := by
    rw [made.calls, Calls.made_concat_of_made _ _ accepted]
  have retries : Calls.retried (Calls.made (Calls.ofLog later.log)) =
      Calls.retried (Calls.made (Calls.ofLog s.log)) +
        if action = Action.retry ∧ s.attempts + 1 > 1 then 1 else 0 := by
    rw [calls, Calls.retried_concat]
    congr 1
    apply if_congr _ rfl rfl
    rw [← booked.length_pos_iff]
    simp only [Option.some.injEq]
    constructor
    · rintro ⟨after, retry⟩
      exact ⟨retry, by omega⟩
    · rintro ⟨retry, after⟩
      exact ⟨by omega, retry⟩
  refine ⟨?_, ?_, ?_, ?_, ?_⟩
  · rw [made.attempts, calls, List.length_append, booked.attempts]
    rfl
  · rw [made.current_model, calls, Calls.lastRole, Calls.roles_concat,
      List.getLast?_concat, ← role]
    rfl
  · rw [made.escalations, calls, Calls.roles_concat, Calls.switches_concat, ← booked.escalations,
      show (Call.mk (some action) request answer).request.role = s.roleFor action from role,
      if_congr (booked.switch_iff action) rfl rfl]
  · rw [retries, made.retries]
    exact Nat.add_le_add_right booked.enough _
  · rw [retries, made.retries, made.calls, Calls.withheld_concat, Nat.add_right_cancel_iff,
      booked.exact]
    have unrefused : ¬ (Calls.made (Calls.ofLog s.log) ≠ [] ∧ some action = some Action.retry ∧
        answer.refused = true) := fun refused => by
      rw [accepted] at refused
      exact Bool.false_ne_true refused.2.2
    exact ⟨fun none_ => fun withheld => withheld.elim none_ unrefused,
      fun none_ withheld => none_ (.inl withheld)⟩

/-- The standing after a call that was refused. -/
structure Refused (action : Action) (request : Request) (answer : GenerateOutcome)
    (s later : Standing) : Prop where
  attempts : later.attempts = s.attempts
  retries : later.retries = s.retries +
    if action = Action.retry ∧ s.attempts + 1 > 1 then 1 else 0
  escalations : later.escalations = s.escalations
  current_model : later.current_model = s.current_model
  calls : Calls.ofLog later.log = Calls.ofLog s.log ++ [⟨some action, request, answer⟩]

/-- A refused retry has been counted, and is not taken back. -/
theorem of_refused (booked : Booked s) {action : Action} {request : Request}
    {answer : GenerateOutcome} (refused : answer.refused = true)
    (left : Refused action request answer s later) : Booked later := by
  have calls : Calls.made (Calls.ofLog later.log) = Calls.made (Calls.ofLog s.log) := by
    rw [left.calls, Calls.made_concat_of_refused _ _ refused]
  refine ⟨?_, ?_, ?_, ?_, ?_⟩
  · rw [left.attempts, calls]
    exact booked.attempts
  · rw [left.current_model, calls]
    exact booked.current_model
  · rw [left.escalations, calls]
    exact booked.escalations
  · rw [left.retries, calls]
    exact booked.enough.trans (Nat.le_add_right _ _)
  · rw [left.retries, calls, left.calls, Calls.withheld_concat]
    have enough := booked.enough
    have exact_ := booked.exact
    have begun := booked.length_pos_iff
    by_cases retried : action = Action.retry ∧ s.attempts + 1 > 1
    · rw [if_pos retried]
      have withheld : Calls.made (Calls.ofLog s.log) ≠ [] ∧ some action = some Action.retry ∧
          answer.refused = true :=
        ⟨begun.mp (by omega), congrArg some retried.1, refused⟩
      constructor
      · intro same
        omega
      · intro none_
        exact absurd (.inr withheld) none_
    · rw [if_neg retried, Nat.add_zero, exact_]
      constructor
      · rintro none_ (withheld | ⟨after, retry, _⟩)
        · exact none_ withheld
        · exact retried ⟨Option.some.inj retry, by have := begun.mpr after; omega⟩
      · exact fun none_ withheld => none_ (.inl withheld)

/-! ## What a step does to the counters -/

theorem called_calls (action : Action) (source : String) (state : Observation)
    (request : Request) (answer : GenerateOutcome) :
    Calls.ofLog ((s.decided action source state).called action request answer).log =
      Calls.ofLog s.log ++ [⟨some action, request, answer⟩] :=
  Calls.ofLog_request _ action source state request answer

/-- A failure that is paid for has been observed. -/
theorem observed_of_paid {failure : ProviderFailure} (paid : 0 < failure.cost_usd)
    (kind : failure.kind ≠ .budgetExceeded) : Episode.requestObserved failure :=
  ⟨kind, .inl paid⟩

theorem sent (paid : cfg.provider.Paid) (booked : Booked s) {action : Action} {source : String}
    {state : Observation} {bound : ℤ} {request : Request} {answer : GenerateOutcome}
    {outcome : Outcome Unit} (issued : Issued cfg s action bound request answer)
    (answered : Answered cfg (s.roleFor action) (decide (s.Escalates action)) bound
      ((s.decided action source state).called action request answer) answer outcome) :
    Booked outcome.episode.standing := by
  have calls := @called_calls s action source state request answer
  have failed (failure : ProviderFailure) (same : answer = .failure failure)
      (kind : failure.kind ≠ .budgetExceeded) : Booked
        (((s.decided action source state).called action request answer).failed cfg
          (s.roleFor action) (decide (s.Escalates action)) bound failure) := by
    have cost := paid.failures s.requests request failure (issued.answered.trans same) kind
    have observed := observed_of_paid cost kind
    have accepted : answer.refused = false := by
      rw [same]
      exact decide_eq_false kind
    refine booked.of_made issued.role accepted ⟨rfl, rfl, ?_, if_pos observed, calls⟩
    show s.escalations + _ = _
    rw [if_congr (and_iff_right observed) rfl rfl, if_congr decide_eq_true_iff rfl rfl]
  have generated (result : RepoResult) (same : answer = .result result) : Booked
      (((s.decided action source state).called action request answer).generated cfg
        (s.roleFor action) (decide (s.Escalates action)) result) := by
    have accepted : answer.refused = false := by
      rw [same]
      rfl
    refine booked.of_made issued.role accepted ⟨rfl, rfl, ?_, rfl, calls⟩
    show s.escalations + _ = _
    rw [if_congr decide_eq_true_iff rfl rfl]
  have checked (standing : Standing) (candidate : Files) (evaluation : EvalOutcome) :
      Calls.ofLog (standing.applied cfg candidate evaluation).log = Calls.ofLog standing.log :=
    Calls.ofLog_evaluation _ _ _
  cases answered with
  | escaped escape left same =>
    exact absurd issued.answered (paid.escapes _ _ _)
  | cancelled failure kind left same =>
    rw [Outcome.episode, same]
    exact failed failure rfl (by rw [kind]; decide)
  | refused failure kind after ended same =>
    rw [Outcome.episode, same]
    have unobserved : ¬ Episode.requestObserved failure := fun observed => observed.1 kind
    refine @of_refused s _ booked action request (.failure failure) (decide_eq_true kind)
      ⟨?_, rfl, ?_, if_neg unobserved, calls⟩
    · exact Nat.add_sub_cancel _ _
    · show s.escalations + _ = _
      rw [if_neg (fun observed => unobserved observed.1), Nat.add_zero]
  | armed failure limited kind after delay waits short retries attempts decisions same =>
    rw [Outcome.episode, same]
    exact (failed failure rfl kind).of_same ⟨rfl, rfl, rfl, rfl, rfl⟩
  | broken failure kind incurable after ended same =>
    rw [Outcome.episode, same]
    exact failed failure rfl kind
  | invalid failure kind unlimited after same =>
    rw [Outcome.episode, same]
    exact (failed failure rfl (by rw [kind]; decide)).of_same ⟨rfl, rfl, rfl, rfl, rfl⟩
  | rejected result error rejects after same =>
    rw [Outcome.episode, same]
    exact (generated result rfl).of_same ⟨rfl, rfl, rfl, rfl, rfl⟩
  | unscreened result escape raises left same =>
    rw [Outcome.episode, same]
    exact generated result rfl
  | measured result candidate merged valid evaluation after same =>
    rw [Outcome.episode, same]
    exact (generated result rfl).of_same ⟨rfl, rfl, rfl, rfl, checked _ _ _⟩
  | stranded result candidate merged valid escape left same =>
    rw [Outcome.episode, same]
    exact (generated result rfl).of_same ⟨rfl, rfl, rfl, rfl, checked _ _ _⟩

theorem exits (paid : cfg.provider.Paid) (booked : Booked s) {action : Action} {source : String}
    {state : Observation} {outcome : Outcome Unit}
    (exits : Exit cfg action source state s outcome) : Booked outcome.episode.standing := by
  have decided : Booked (s.decided action source state) :=
    booked.of_same ⟨rfl, rfl, rfl, rfl, Calls.ofLog_decision _ _ _ _⟩
  cases exits with
  | stopped stops after ended same =>
    rw [Outcome.episode, same]
    exact decided
  | restored rolls after same =>
    rw [Outcome.episode, same]
    exact decided.of_same ⟨rfl, rfl, rfl, rfl, rfl⟩
  | unsent requests outcome ended same =>
    rw [same]
    exact decided
  | sent bound request answer issued outcome answered => exact booked.sent paid issued answered

theorem acted (paid : cfg.provider.Paid) (booked : Booked s) {action : Action}
    {source : String} {outcome : Outcome Unit} (acts : Episode.Acted cfg action source s outcome) :
    Booked outcome.episode.standing := by
  cases acts with
  | kept _ ended same =>
    rw [same]
    exact booked
  | exit state _ exits => exact booked.exits paid exits
  | verified verifies state answer _ same =>
    rw [same]
    refine booked.of_same ⟨rfl, rfl, rfl, rfl, ?_⟩
    exact (Calls.ofLog_evaluation _ _ _).trans (Calls.ofLog_decision _ _ _ _)

theorem moved (paid : cfg.provider.Paid) (booked : Booked s) {outcome : Outcome Unit}
    (moved : Episode.Moved cfg s outcome) : Booked outcome.episode.standing := by
  cases moved with
  | start _ opening =>
    cases opening with
    | again _ same =>
      rw [same]
      exact booked
    | unopened fresh escape left same =>
      rw [Outcome.episode, same]
      exact booked.of_same ⟨rfl, rfl, rfl, rfl, Calls.ofLog_evaluation _ _ _⟩
    | opened fresh result after same =>
      rw [Outcome.episode, same]
      exact booked.of_same ⟨rfl, rfl, rfl, rfl, Calls.ofLog_evaluation _ _ _⟩
  | waited pending provider_retries outcome same =>
    rw [same]
    exact booked.of_same ⟨rfl, rfl, rfl, rfl, rfl⟩
  | acted begun action source _ acts => exact booked.acted paid acts

theorem books (paid : cfg.provider.Paid) : Episode.Books cfg Booked Booked where
  initial := by
    refine ⟨rfl, rfl, rfl, Nat.le_refl _, ?_⟩
    refine ⟨?_, fun _ => rfl⟩
    rintro _ ⟨earlier, call, later, split, _⟩
    exact List.append_ne_nil_of_right_ne_nil earlier (List.cons_ne_nil call later) split.symm
  moved {_ outcome} booked moved_ := by
    have after := booked.moved paid moved_
    cases outcome <;> exact after
  weaken booked := booked
  recounted _ booked := booked.of_same ⟨rfl, rfl, rfl, rfl, rfl⟩
  graded _ booked := booked.of_same ⟨rfl, rfl, rfl, rfl, Calls.ofLog_evaluation _ _ _⟩

end Booked

namespace Episode

/-- In every state that a run reaches, the counters describe the requests that
were made just when no retry was withheld: a refused request is taken back
from the attempts and from the escalations, but not from the retries. -/
theorem counted_iff (cfg : Config) (paid : cfg.provider.Paid) (ep : Episode)
    (reachable : Reachable cfg ep) : Counted ep ↔ ¬ Calls.Withheld ep.calls := by
  have booked : Booked ep.standing := reachable.books (Booked.books paid)
  constructor
  · exact fun counted => booked.exact.mp counted.retries
  · exact fun none_ => ⟨booked.attempts, booked.exact.mpr none_, booked.escalations⟩

/-- A provider that answers one request and has no budget for another. -/
def exhaustedProvider : HostedProvider :=
  { smallProvider with
    generate := fun earlier request =>
      if earlier.isEmpty then smallProvider.generate earlier request
      else .failure (.bare .budgetExceeded "The project inference allowance is exhausted") }

/-- An episode whose only candidate fails. -/
def exhaustedConfig : Config :=
  { smallConfig (fun _ _ => oneCase false) with provider := exhaustedProvider }

def retrySelector : Selector := .custom fun _ _ => .ok ⟨.retry, "retry"⟩

theorem exhaustedProvider_paid : exhaustedProvider.Paid where
  failures earlier request failure answer kind := by
    unfold exhaustedProvider at answer
    dsimp only at answer
    split_ifs at answer
    · cases answer
    · cases answer
      exact absurd rfl kind
  escapes earlier request escape answer := by
    unfold exhaustedProvider at answer
    dsimp only at answer
    split_ifs at answer
    cases answer

theorem counted_iff_exhausted :
    Counted (run_episode exhaustedConfig retrySelector).episode ↔
      ¬ Calls.Withheld (run_episode exhaustedConfig retrySelector).episode.calls :=
  counted_iff exhaustedConfig exhaustedProvider_paid _ (run_episode_reachable _ _)

/-- The second retry of the run is refused: one attempt, one retry. -/
theorem exhaustedRun_overcounts :
    ¬ ∀ (cfg : Config) (ep : Episode), cfg.provider.Paid → Reachable cfg ep → Counted ep := by
  intro claimed
  have counted := claimed exhaustedConfig _ exhaustedProvider_paid
    (run_episode_reachable exhaustedConfig retrySelector)
  have differ : (run_episode exhaustedConfig retrySelector).episode.retries ≠
      Calls.retried (Calls.made (run_episode exhaustedConfig retrySelector).episode.calls) := by
    decide +kernel
  exact differ counted.retries

end Episode

end ForgeRL
