import ForgeRL.Research.Orchestrator

namespace ForgeRL.Research

open Library

/-!
# The account of an episode

Every method of an episode adds to its cost what its requests have cost, also
when it raises.  A method that raises leaves an episode that has paid for all
that has happened.
-/

/-! ## What a log has cost -/

namespace Occurrence

def cost_usd : Occurrence → ℕ
  | request _ _ outcome => outcome.cost_usd
  | _ => 0

/-- A hidden evaluation, a copy or a record that raises, which no handler in a
tree catches. -/
def Uncaught : Occurrence → Prop
  | evaluation _ call (.raised _) => call.hidden = true
  | clone _ _ raised | written _ raised => raised.isSome = true
  | _ => False

end Occurrence

/-- The total cost of the requests of a log. -/
def spent (log : List Occurrence) : ℕ := (log.map Occurrence.cost_usd).sum

@[simp] theorem spent_nil : spent [] = 0 := rfl

@[simp] theorem spent_append (log more : List Occurrence) :
    spent (log ++ more) = spent log + spent more := by
  unfold spent
  rw [List.map_append, List.sum_append]

@[simp] theorem spent_singleton (occurrence : Occurrence) :
    spent [occurrence] = occurrence.cost_usd :=
  Nat.add_zero _

theorem spent_pos_iff (log : List Occurrence) :
    0 < spent log ↔ ∃ occurrence ∈ log, 0 < occurrence.cost_usd := by
  induction log with
  | nil => simp
  | cons occurrence log ih =>
    have head : spent (occurrence :: log) = occurrence.cost_usd + spent log := rfl
    rw [head, Nat.add_pos_iff_pos_or_pos, ih, List.exists_mem_cons_iff]

/-- No hidden evaluation, copy or record raises. -/
def Quiet (log : List Occurrence) : Prop := ∀ occurrence ∈ log, ¬ occurrence.Uncaught

theorem Quiet.nil : Quiet [] := fun _ member => absurd member List.not_mem_nil

theorem Quiet.singleton {occurrence : Occurrence} (returned : ¬ occurrence.Uncaught) :
    Quiet [occurrence] := by
  intro other member
  rwa [List.mem_singleton.mp member]

theorem Quiet.append {log more : List Occurrence} (quiet : Quiet log) (also : Quiet more) :
    Quiet (log ++ more) := by
  intro occurrence member
  rcases List.mem_append.mp member with earlier | later
  · exact quiet occurrence earlier
  · exact also occurrence later

/-! ## The account of an episode -/

/-- For what an episode pays, and what it has paid. -/
structure Account where
  task : Task
  policy_id : Policy
  cost_usd : ℕ

def Account.charge (cost : ℕ) (account : Account) : Account :=
  { account with cost_usd := account.cost_usd + cost }

/-- Something that an episode has done. -/
def Account.Owns (account : Account) : Occurrence → Prop
  | .request policy sent _ => policy = account.policy_id ∧ sent.task = account.task
  | .evaluation policy call _ => policy = account.policy_id ∧ call.task = account.task
  | .clone policy task _ => policy = account.policy_id ∧ task = account.task
  | .written _ _ => False

namespace Episode

def account (ep : Episode) : Account := ⟨ep.task, ep.policy_id, ep.cost_usd⟩

@[simp] theorem account_assignBaseline (result : EvalResult) (ep : Episode) :
    (assignBaseline result ep).account = ep.account := by
  unfold assignBaseline
  split_ifs <;> rfl

@[simp] theorem account_assignMeasured (before : ℕ) (result : EvalResult) (ep : Episode) :
    (assignMeasured before result ep).account = ep.account := by
  unfold assignMeasured
  dsimp only
  split_ifs <;> rfl

@[simp] theorem account_assignGrading (result : EvalResult) (ep : Episode) :
    (assignGrading result ep).account = ep.account := rfl

@[simp] theorem account_failedTokens (prompt_tokens completion_tokens : Option ℤ)
    (ep : Episode) : (failedTokens prompt_tokens completion_tokens ep).account = ep.account := by
  unfold failedTokens
  split <;> rfl

@[simp] theorem started_assignBaseline (result : EvalResult) (ep : Episode) :
    (assignBaseline result ep).started = ep.started := by
  unfold assignBaseline
  split_ifs <;> rfl

@[simp] theorem started_assignMeasured (before : ℕ) (result : EvalResult) (ep : Episode) :
    (assignMeasured before result ep).started = ep.started := by
  unfold assignMeasured
  dsimp only
  split_ifs <;> rfl

@[simp] theorem started_failedTokens (prompt_tokens completion_tokens : Option ℤ)
    (ep : Episode) : (failedTokens prompt_tokens completion_tokens ep).started = ep.started := by
  unfold failedTokens
  split <;> rfl

end Episode

namespace Session

/-- A session has gone on: the log has grown by what the episode has done, which
it has paid for. -/
structure Ran (before after : Session) (segment : List Occurrence) : Prop where
  log : after.log = before.log ++ segment
  owned : ∀ occurrence ∈ segment, before.episode.account.Owns occurrence
  account : after.episode.account = before.episode.account.charge (spent segment)
  started : before.episode.started = true → after.episode.started = true

/-- A session has gone on, and has met nothing that a tree does not catch. -/
def Advanced (before after : Session) : Prop :=
  ∃ segment, Ran before after segment ∧ Quiet segment

variable {before between after : Session}

theorem Ran.trans {segment more : List Occurrence} (first : Ran before between segment)
    (second : Ran between after more) : Ran before after (segment ++ more) where
  log := by rw [second.log, first.log, List.append_assoc]
  owned := by
    have owner : between.episode.account.Owns = before.episode.account.Owns := by
      rw [first.account]
      rfl
    intro occurrence member
    rcases List.mem_append.mp member with earlier | later
    · exact first.owned occurrence earlier
    · exact owner ▸ second.owned occurrence later
  account := by
    rw [second.account, first.account, spent_append]
    exact congrArg (Account.mk _ _) (Nat.add_assoc _ _ _)
  started := fun started => second.started (first.started started)

theorem Advanced.trans (first : Advanced before between) (second : Advanced between after) :
    Advanced before after := by
  rcases first with ⟨segment, ran, quiet⟩
  rcases second with ⟨more, runs, also⟩
  exact ⟨segment ++ more, ran.trans runs, quiet.append also⟩

theorem Advanced.refl (session : Session) : Advanced session session := by
  refine ⟨[], ⟨(List.append_nil _).symm, ?_, rfl, id⟩, Quiet.nil⟩
  exact fun _ member => absurd member List.not_mem_nil

/-- An episode that has changed, but not its account. -/
theorem Ran.change {segment : List Occurrence} {episode : Episode}
    (ran : Ran ⟨episode, before.log⟩ after segment)
    (account : episode.account = before.episode.account)
    (started : before.episode.started = true → episode.started = true) :
    Ran before after segment where
  log := ran.log
  owned := by
    rw [← account]
    exact ran.owned
  account := by
    rw [← account]
    exact ran.account
  started := fun already => ran.started (started already)

theorem Advanced.change {episode : Episode} (advanced : Advanced ⟨episode, before.log⟩ after)
    (account : episode.account = before.episode.account)
    (started : before.episode.started = true → episode.started = true) :
    Advanced before after := by
  rcases advanced with ⟨segment, ran, quiet⟩
  exact ⟨segment, ran.change account started, quiet⟩

/-- A session has gone on without a request. -/
structure Free (before after : Session) : Prop where
  advanced : Advanced before after
  cost : after.episode.cost_usd = before.episode.cost_usd

theorem Free.refl (session : Session) : Free session session := ⟨Advanced.refl session, rfl⟩

/-- One thing has happened. -/
theorem Ran.single {occurrence : Occurrence} {episode : Episode}
    (owned : before.episode.account.Owns occurrence)
    (account : episode.account = before.episode.account.charge occurrence.cost_usd)
    (started : before.episode.started = true → episode.started = true) :
    Ran before ⟨episode, before.log ++ [occurrence]⟩ [occurrence] where
  log := rfl
  owned := by
    intro other member
    rw [List.mem_singleton.mp member]
    exact owned
  account := by
    rw [spent_singleton]
    exact account
  started := started

end Session

/-! ## The methods of an episode -/

namespace Episode

open Research.Session

variable (env : Environment) {session : Session}

/-- What `evaluate` adds to the log. -/
theorem evaluate_ran (hidden : Bool) {assign : EvalResult → Episode → Episode}
    (account : ∀ result ep, (assign result ep).account = ep.account)
    (started : ∀ result ep, (assign result ep).started = ep.started) :
    (evaluate env hidden assign session).Ensures
      (fun after => ∃ result, Ran session after
        [.evaluation session.episode.policy_id (session.episode.evalCall hidden) (.result result)])
      (fun failure after => Ran session after
        [.evaluation session.episode.policy_id (session.episode.evalCall hidden)
          (.raised failure)]) := by
  unfold evaluate
  dsimp only
  cases env.evaluate session.log (session.episode.evalCall hidden) with
  | result result =>
    refine ⟨result, Ran.single ⟨rfl, rfl⟩ (account result _) fun already => ?_⟩
    exact (started result _).trans already
  | raised failure => exact Ran.single ⟨rfl, rfl⟩ rfl id

/-- A visible evaluation costs nothing and never counts as uncaught. -/
theorem evaluate_advanced {assign : EvalResult → Episode → Episode}
    (account : ∀ result ep, (assign result ep).account = ep.account)
    (started : ∀ result ep, (assign result ep).started = ep.started) :
    (evaluate env false assign session).Ensures (Free session) (fun _ => Free session) := by
  have visible {after : Session} {outcome : EvalOutcome}
      (ran : Ran session after [.evaluation session.episode.policy_id
        (session.episode.evalCall false) outcome]) : Free session after := by
    refine ⟨⟨_, ran, .singleton ?_⟩, congrArg Account.cost_usd ran.account⟩
    intro uncaught
    cases outcome <;> cases uncaught
  apply (evaluate_ran env false account started).mono
  · rintro after ⟨result, ran⟩
    exact visible ran
  · exact fun failure after ran => visible ran

/-- `start` raises only in an episode that has not started. -/
theorem start_advanced :
    (start env session).Ensures (fun after => Free session after ∧ after.episode.started = true)
      (fun _ after => Free session after ∧ ¬ session.episode.started = true) := by
  unfold start
  split_ifs with started
  · exact ⟨Free.refl session, started⟩
  · apply (evaluate_advanced env account_assignBaseline started_assignBaseline).mono
    · intro after free
      have begun : after.episode.started = true := by
        rcases free.advanced with ⟨segment, ran, _⟩
        exact ran.started rfl
      exact ⟨⟨free.advanced.change rfl fun _ => rfl, free.cost⟩, begun⟩
    · exact fun failure after free => ⟨⟨free.advanced.change rfl fun _ => rfl, free.cost⟩, started⟩

theorem sendRequest_advanced (action : Action) :
    (sendRequest env action session).Ensures (Advanced session) (fun _ => Advanced session) := by
  have asked {outcome : GenerateOutcome} {ep : Episode}
      (account : ep.account = session.episode.account.charge outcome.cost_usd)
      (started : ep.started = session.episode.started) :
      Advanced session ⟨ep, session.log ++ [.request session.episode.policy_id
        (session.episode.request action) outcome]⟩ := by
    exact ⟨_, Ran.single ⟨rfl, rfl⟩ account started.trans, .singleton id⟩
  unfold sendRequest
  dsimp only
  cases env.generate session.log (session.episode.request action) with
  | cancelled cost_usd prompt_tokens completion_tokens =>
    exact asked (account_failedTokens _ _ _) (started_failedTokens _ _ _)
  | budgetExceeded message => exact asked rfl rfl
  | raised kind message => exact asked rfl rfl
  | providerError message cost_usd prompt_tokens completion_tokens =>
    exact asked (account_failedTokens _ _ _) (started_failedTokens _ _ _)
  | result generated =>
    have accepted : Advanced session ⟨acceptResult generated session.episode, session.log ++
        [.request session.episode.policy_id (session.episode.request action)
          (.result generated)]⟩ := asked rfl rfl
    apply (evaluate_advanced env (account_assignMeasured _) (started_assignMeasured _)).mono
    · exact fun after free => accepted.trans free.advanced
    · exact fun failure after free => accepted.trans free.advanced

theorem act_advanced (action : Action) :
    (act env action session).Ensures (Advanced session) (fun _ => Advanced session) := by
  unfold act
  dsimp only
  split_ifs
  · exact (Advanced.refl _).change rfl id
  · exact (Advanced.refl _).change rfl id
  · apply (sendRequest_advanced env action).mono
    · exact fun after advanced => advanced.change rfl id
    · exact fun failure after advanced => advanced.change rfl id

/-- A step pays for its request, whether it returns or raises. -/
theorem step_advanced (action : Action) :
    (step env action session).Ensures (Advanced session) (fun _ => Advanced session) := by
  have begun : (start env session).Ensures (Advanced session) (fun _ => Advanced session) :=
    (start_advanced env).mono (fun _ started => started.1.advanced)
      (fun _ _ failed => failed.1.advanced)
  apply begun.andThen
  intro started advanced
  split_ifs
  · exact advanced
  · apply (act_advanced env action).mono
    · exact fun after acted => advanced.trans acted
    · exact fun failure after acted => advanced.trans acted

/-- A session has gone on, and has met something that a tree does not catch. -/
def Breaks (before after : Session) : Prop :=
  ∃ segment, Ran before after segment ∧ ∃ occurrence ∈ segment, occurrence.Uncaught

/-- A clone costs nothing, and is the episode that it is made from. -/
theorem clone_ran :
    (clone env session).Ensures
      (fun after => Free session after ∧ after.episode = session.episode)
      (fun _ => Breaks session) := by
  unfold clone
  dsimp only
  have ran (raised : Option Failure) : Ran session
      ⟨session.episode, session.log ++
        [.clone session.episode.policy_id session.episode.task raised]⟩
      [.clone session.episode.policy_id session.episode.task raised] :=
    Ran.single ⟨rfl, rfl⟩ rfl id
  cases env.deepcopy session.log with
  | none => exact ⟨⟨⟨_, ran none, .singleton (by simp [Occurrence.Uncaught])⟩, rfl⟩, rfl⟩
  | some failure => exact ⟨_, ran (some failure), _, List.mem_singleton_self _, rfl⟩

/-- `finish` costs nothing, and in an episode that has started it raises only
where a grading does. -/
theorem finish_ran :
    (finish env session).Ensures (Free session)
      (fun _ after => ∃ segment, Ran session after segment ∧
        (session.episode.started = true → ∃ occurrence ∈ segment, occurrence.Uncaught)) := by
  unfold finish
  split_ifs
  · exact Free.refl session
  · have begun : (start env session).Ensures (Free session)
        (fun _ after => ∃ segment, Ran session after segment ∧
          (session.episode.started = true → ∃ occurrence ∈ segment, occurrence.Uncaught)) := by
      apply (start_advanced env).mono
      · exact fun after started => started.1
      · rintro failure after ⟨⟨⟨segment, ran, _⟩, _⟩, unstarted⟩
        exact ⟨segment, ran, fun started => absurd started unstarted⟩
    apply begun.andThen
    rintro started ⟨⟨segment, first, quiet⟩, cost⟩
    apply (evaluate_ran env true account_assignGrading fun _ _ => rfl).mono
    · rintro after ⟨result, ran⟩
      have graded : Ran started after _ := ran.change rfl id
      exact ⟨⟨_, first.trans graded, quiet.append (.singleton id)⟩,
        (congrArg Account.cost_usd graded.account).trans cost⟩
    · intro failure after ran
      refine ⟨_, first.trans (ran.change rfl id), fun _ =>
        ⟨_, List.mem_append_right _ (List.mem_singleton_self _), ?_⟩⟩
      exact rfl

end Episode

end ForgeRL.Research
